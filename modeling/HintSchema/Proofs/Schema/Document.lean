import HintSchema.Proofs.Derivation.Nested
import HintSchema.Schema.Document

/-!
Schemas written as documents and read back. Whatever is written is read as it was, in the same order,
or refused because a nullable type directly holds another one, and nothing else is refused
(`FunctionsSchema.ofJson_toJson`).
-/

namespace HintSchema

namespace Schema

namespace FunctionEntry

def isFlat (f : FunctionEntry) : Bool := f.arguments.all (·.type.isFlat) && f.result.isFlat

end FunctionEntry

namespace ObjectType

def isFlat (t : ObjectType) : Bool := t.properties.all (·.type.isFlat)

end ObjectType

/-- The value is read back as it was written if it is flat; if not, that is why it is refused. -/
def Restores {α : Type} (write : α → Json) (read : Json → Reader α) (flat : α → Bool) : Prop :=
  ∀ a, read (write a) = if flat a then .ok a else .error .nestedNullable

namespace TypeKind

@[simp] theorem read_text (kind : TypeKind) : read (.str kind.text) = .ok kind := by
  cases kind <;> rfl

end TypeKind

namespace Absence

@[simp] theorem read_text (absence : Absence) : read (.str absence.text) = .ok absence := by
  cases absence <;> rfl

end Absence

namespace FunctionKind

@[simp] theorem read_text (kind : FunctionKind) : read (.str kind.text) = .ok kind := by
  cases kind <;> rfl

end FunctionKind

@[simp] theorem textOf_str (text : String) : textOf (.str text) = .ok text := rfl

@[simp] theorem text?_optional (text : Option String) : (Json.optional text).text? = text := by
  cases text <;> rfl

section

variable {α : Type} {write : α → Json} {read : Json → Reader α} {flat : α → Bool}

theorem Restores.mapM (restores : Restores write read flat) (items : List α) :
    (items.map write).mapM read =
      if items.all flat then .ok items else .error .nestedNullable := by
  induction items with
  | nil => rfl
  | cons item rest ih =>
    rw [List.map_cons, List.mapM_cons, restores item, ih, List.all_cons]
    cases flat item <;> cases rest.all flat <;> rfl

theorem Restores.readMembers (restores : Restores write read flat) (members : List (String × α)) :
    readMembers read (members.map fun (name, a) => (name, write a)) =
      if members.all fun m => flat m.2 then .ok members else .error .nestedNullable := by
  unfold Schema.readMembers
  rw [List.mapM_map]
  induction members with
  | nil => rfl
  | cons member rest ih =>
    rw [List.mapM_cons, ih, List.all_cons]
    simp only [Function.comp_apply, restores member.2]
    cases flat member.2 <;> cases rest.all fun m => flat m.2 <;> rfl

end

@[simp] theorem ok_bind {α β : Type} (a : α) (next : α → Reader β) :
    (Except.ok a >>= next) = next a := rfl

theorem require_eq_ok {name : String} {document value : Json}
    (present : document.member? name = some value) : require name document = .ok value := by
  rw [require, present]

namespace TypeDef

theorem ofJson_named (name : String) (kind : TypeKind) :
    ofJson (named name kind).toJson = .ok (named name kind) := by
  have tag : (named name kind).toJson.member? "type" = some (.str "named") := rfl
  have own : (named name kind).toJson.member? "name" = some (.str name) := rfl
  have sort : (named name kind).toJson.member? "kind" = some (.str kind.text) := rfl
  rw [ofJson, tag]
  simp only [Option.bind, Json.text?, require_eq_ok own, require_eq_ok sort, ok_bind, textOf_str,
    TypeKind.read_text]
  rfl

theorem ofJson_array (element : TypeDef) :
    ofJson (array element).toJson = array <$> ofJson element.toJson := by
  have tag : (array element).toJson.member? "type" = some (.str "array") := rfl
  have inner : (array element).toJson.member? "element_type" = some element.toJson := rfl
  rw [ofJson, tag]
  simp only [Option.bind, Json.text?]
  split
  · rename_i missing
    cases missing.symm.trans inner
  · rename_i found
    cases found.symm.trans inner
    exact (map_eq_pure_bind ..).symm

theorem ofJson_nullable (underlying : TypeDef) (absence : Absence) :
    ofJson (nullable underlying absence).toJson = (do
      let underlying ← ofJson underlying.toJson
      match nullable? underlying absence with
      | some type => return type
      | none => .error .nestedNullable) := by
  have tag : (nullable underlying absence).toJson.member? "type" = some (.str "nullable") := rfl
  have inner : (nullable underlying absence).toJson.member? "underlying_type" =
    some underlying.toJson := rfl
  have how : (nullable underlying absence).toJson.member? "null_or_undefinability" =
    some (.str absence.text) := rfl
  rw [ofJson, tag]
  simp only [Option.bind, Json.text?]
  split
  · rename_i missing
    cases missing.symm.trans inner
  · rename_i found
    cases found.symm.trans inner
    refine congrArg (ofJson underlying.toJson >>= ·) (funext fun type => ?_)
    rw [require_eq_ok how, ok_bind, Absence.read_text]
    rfl

theorem restores : Restores toJson ofJson isFlat := by
  intro type
  induction type with
  | named name kind => exact ofJson_named name kind
  | array element ih =>
    rw [ofJson_array, ih, isFlat]
    cases element.isFlat <;> rfl
  | nullable underlying absence ih =>
    rw [ofJson_nullable, ih, isFlat]
    cases underlying.isFlat with
    | false => cases underlying.isNullable <;> rfl
    | true =>
      simp only [if_true, ok_bind, nullable?]
      cases underlying.isNullable <;> rfl

end TypeDef

namespace Argument

theorem restores : Restores toJson ofJson (·.type.isFlat) := by
  intro a
  have own : a.toJson.member? "name" = some (.str a.name) := rfl
  have sort : a.toJson.member? "type" = some a.type.toJson := rfl
  have text : descriptionOf a.toJson = a.description := text?_optional a.description
  rw [ofJson, require_eq_ok own, require_eq_ok sort, text]
  simp only [ok_bind, textOf_str, TypeDef.restores a.type]
  split <;> rfl

end Argument

namespace FunctionEntry

theorem restores : Restores toJson ofJson isFlat := by
  intro f
  have sort : f.toJson.member? "kind" = some (.str f.kind.text) := rfl
  have arguments : itemsOf "arguments" f.toJson = f.arguments.map Argument.toJson := rfl
  have result : f.toJson.member? "result_type" = some f.result.toJson := rfl
  have text : descriptionOf f.toJson = f.description := text?_optional f.description
  rw [ofJson, require_eq_ok sort, arguments, require_eq_ok result, text, isFlat,
    Argument.restores.mapM]
  simp only [ok_bind, FunctionKind.read_text, TypeDef.restores f.result]
  cases f.arguments.all (·.type.isFlat) <;> cases f.result.isFlat <;> rfl

end FunctionEntry

namespace Property

theorem restores : Restores toJson ofJson (·.type.isFlat) := by
  intro p
  have own : p.toJson.member? "name" = some (.str p.name) := rfl
  have sort : p.toJson.member? "type" = some p.type.toJson := rfl
  rw [ofJson, require_eq_ok own, require_eq_ok sort]
  simp only [ok_bind, textOf_str, TypeDef.restores p.type]
  split <;> rfl

end Property

namespace ObjectType

theorem restores : Restores toJson ofJson isFlat := by
  intro t
  have properties : itemsOf "properties" t.toJson = t.properties.map Property.toJson := rfl
  rw [ofJson, properties, isFlat, Property.restores.mapM]
  cases t.properties.all (·.type.isFlat) <;> rfl

end ObjectType

end Schema

namespace FunctionsSchema

open Schema

/-- Nowhere in the schema does a nullable type directly hold another one. -/
def isFlat (s : FunctionsSchema) : Bool :=
  s.functions.all (·.2.isFlat) && s.objectTypes.all (·.2.isFlat)

theorem restores : Restores toJson ofJson isFlat := by
  intro s
  have functions : membersOf "functions" s.toJson =
    s.functions.map fun p => (p.1, p.2.toJson) := rfl
  have objects : membersOf "object_types" s.toJson =
    s.objectTypes.map fun p => (p.1, p.2.toJson) := rfl
  have scalars : (membersOf "scalar_types" s.toJson).map (·.1) = s.scalarTypes := by
    change (s.scalarTypes.map fun name => (name, Json.obj [])).map (·.1) = s.scalarTypes
    simp [Function.comp_def]
  rw [ofJson, functions, objects, scalars, isFlat, FunctionEntry.restores.readMembers,
    ObjectType.restores.readMembers]
  cases s.functions.all (·.2.isFlat) <;> cases s.objectTypes.all (·.2.isFlat) <;> rfl

/-- Exactly the flat schemas are the same after they are written and read back, and exactly their
documents are the same after they are read and written again. -/
theorem ofJson_toJson (s : FunctionsSchema) (document : Json) :
    (ofJson s.toJson = .ok s ↔ s.isFlat) ∧
      ((∃ read, ofJson document = .ok read ∧ read.toJson = document) ↔
        ∃ written : FunctionsSchema, written.isFlat ∧ written.toJson = document) := by
  have reread (s : FunctionsSchema) : ofJson s.toJson = .ok s ↔ s.isFlat := by
    rw [restores s]
    cases s.isFlat <;> simp
  refine ⟨reread s, ?_⟩
  constructor
  · rintro ⟨read, known, rfl⟩
    exact ⟨read, (reread read).mp known, rfl⟩
  · rintro ⟨written, flat, rfl⟩
    exact ⟨written, (reread written).mpr flat, rfl⟩

end FunctionsSchema

end HintSchema

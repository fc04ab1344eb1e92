import HintSchema.Connector.Response
import HintSchema.Derivation.File
import HintSchema.Proofs.Derivation.Closure
import HintSchema.Proofs.Derivation.Kept

/-!
What a named type of the response stands for. Without the kind of type it goes by its name alone, so
it stands for one entry unless an object type has the name of a scalar.
-/

namespace HintSchema

open Schema

namespace Connector

namespace TypeRef

def target : TypeRef → String
  | named name => name
  | nullable underlying => underlying.target
  | array element => element.target

theorem target_ofType (type : TypeDef) : ∃ kind, ((ofType type).target, kind) ∈ type.references := by
  induction type with
  | named name kind => exact ⟨kind, List.mem_cons_self⟩
  | nullable _ _ ih => exact ih
  | array _ ih => exact ih

end TypeRef

namespace SchemaResponse

inductive Entry where
  | object (fields : List (String × TypeRef))
  | scalar
  deriving DecidableEq, Repr

def denotations (R : SchemaResponse) (name : String) : List Entry :=
  (R.objectTypes.filter (·.1 = name)).map (fun o => .object o.2) ++
    (R.scalarTypes.filter (· = name)).map fun _ => .scalar

def types (R : SchemaResponse) : List TypeRef :=
  (R.functions ++ R.procedures).flatMap (fun f => f.result :: f.arguments.map (·.2.type)) ++
    R.objectTypes.flatMap fun o => o.2.map (·.2)

variable {R : SchemaResponse} {S : FunctionsSchema} {name : String}

theorem length_denotations (R : SchemaResponse) (name : String) :
    (R.denotations name).length = (Pairs.keys R.objectTypes).count name + R.scalarTypes.count name := by
  simp only [denotations, List.length_append, List.length_map, ← List.countP_eq_length_filter,
    List.count, Pairs.keys, List.countP_map]
  rfl

theorem keys_ofSchema (S : FunctionsSchema) :
    Pairs.keys (ofSchema S).objectTypes = Pairs.keys S.objectTypes := by
  simp [ofSchema, Pairs.keys]

theorem ofType_of_mem_fieldsOf {object : ObjectType} :
    ∀ field ∈ fieldsOf object, ∃ p ∈ object.properties, field.2 = .ofType p.type :=
  Pairs.forall_mem_foldl_put
    (Q := fun type : TypeRef => ∃ p ∈ object.properties, type = TypeRef.ofType p.type)
    (List.forall_mem_nil _) fun p member => ⟨p, member, rfl⟩

theorem ofType_of_mem_arguments {f : FunctionEntry} :
    ∀ argument ∈ (FunctionInfo.ofEntry name f).arguments,
      ∃ a ∈ f.arguments, argument.2.type = .ofType a.type :=
  Pairs.forall_mem_foldl_put
    (Q := fun info : ArgumentInfo => ∃ a ∈ f.arguments, info.type = .ofType a.type)
    (List.forall_mem_nil _) fun a member => ⟨a, member, rfl⟩

theorem ofEntry_of_mem_functions {f : FunctionInfo}
    (member : f ∈ (ofSchema S).functions ++ (ofSchema S).procedures) :
    ∃ entry ∈ S.functions, f = .ofEntry entry.1 entry.2 := by
  have each : ∀ kind : FunctionKind, f ∈ S.functions.filterMap (fun entry =>
      if entry.2.kind = kind then some (FunctionInfo.ofEntry entry.1 entry.2) else none) →
      ∃ entry ∈ S.functions, f = .ofEntry entry.1 entry.2 := by
    intro kind member
    obtain ⟨⟨name, entry⟩, present, shown⟩ := List.mem_filterMap.mp member
    obtain ⟨-, announced⟩ := Option.ite_none_right_eq_some.mp shown
    exact ⟨_, present, (Option.some.inj announced).symm⟩
  rcases List.mem_append.mp member with query | mutation
  · exact each .query query
  · exact each .mutation mutation

theorem ofType_of_mem_types {type : TypeRef} (member : type ∈ (ofSchema S).types) :
    ∃ original ∈ S.types, type = .ofType original := by
  rcases List.mem_append.mp member with called | held
  · obtain ⟨f, announced, mentioned⟩ := List.mem_flatMap.mp called
    obtain ⟨⟨name, entry⟩, present, rfl⟩ := ofEntry_of_mem_functions announced
    have among : ∀ original ∈ entry.types, original ∈ S.types := fun original inside =>
      List.mem_append_left _ (List.mem_flatMap.mpr ⟨_, present, inside⟩)
    rcases List.mem_cons.mp mentioned with rfl | argument
    · exact ⟨entry.result, among _ List.mem_cons_self, rfl⟩
    · obtain ⟨info, listed, rfl⟩ := List.mem_map.mp argument
      obtain ⟨a, declared, same⟩ := ofType_of_mem_arguments info listed
      exact ⟨a.type, among _ (List.mem_cons_of_mem _ (List.mem_map_of_mem declared)), same⟩
  · obtain ⟨object, announced, mentioned⟩ := List.mem_flatMap.mp held
    obtain ⟨⟨name, original⟩, present, rfl⟩ := List.mem_map.mp announced
    obtain ⟨field, listed, rfl⟩ := List.mem_map.mp mentioned
    obtain ⟨p, property, same⟩ := ofType_of_mem_fieldsOf field listed
    exact ⟨p.type, List.mem_append_right _ (List.mem_flatMap.mpr
      ⟨_, present, List.mem_map_of_mem property⟩), same⟩

/-- A name under which each registry has at most one entry, and one of them has one, stands for one
entry exactly if they do not both have one. -/
theorem denotes_one_iff (objects : (Pairs.keys R.objectTypes).Nodup)
    (scalars : R.scalarTypes.Nodup)
    (defined : name ∈ Pairs.keys R.objectTypes ∨ name ∈ R.scalarTypes) :
    (∃ entry, R.denotations name = [entry]) ↔
      ¬ (name ∈ Pairs.keys R.objectTypes ∧ name ∈ R.scalarTypes) := by
  rw [← List.length_eq_one_iff, length_denotations, objects.count, scalars.count]
  by_cases object : name ∈ Pairs.keys R.objectTypes
  · by_cases scalar : name ∈ R.scalarTypes <;> simp [object, scalar]
  · have scalar := defined.resolve_left object
    simp [object, scalar]

end SchemaResponse

end Connector

namespace TypeName

theorem underscore_mem_sanitize {name : String} (present : '_' ∈ name.toList) :
    '_' ∈ (sanitize name).toList := by
  have kept : '_' ∈ name.toList.dropWhile fun c => !isNameStart c := by
    rw [← List.takeWhile_append_dropWhile (p := fun c => !isNameStart c) (l := name.toList)] at present
    rcases List.mem_append.mp present with before | after
    · have skipped := List.all_eq_true.mp List.all_takeWhile _ before
      cases skipped
    · exact after
  rw [sanitize, String.toList_ofList]
  exact List.mem_map.mpr ⟨'_', kept, rfl⟩

theorem declared_in_entry_of_qualify {handle : Handle} {path : TypePath} {own : Option String}
    {entry cwd : Path} {name : String} (qualified : qualify handle path own entry cwd = .ok name)
    (plain : '_' ∉ name.toList) :
    ∃ symbol declaration rest, symbolOf path handle = .ok symbol ∧
      symbol.declarations = declaration :: rest ∧
      (Path.ofString declaration.file).resolve cwd = entry ∧
      sanitize ((own.filter (!·.isEmpty)).getD path.typeName) = name := by
  unfold qualify at qualified
  cases found : symbolOf path handle with
  | error fault =>
    rw [found] at qualified
    cases qualified
  | ok symbol =>
    rw [found] at qualified
    simp only [bind, Except.bind] at qualified
    split at qualified
    · cases qualified
    · rename_i declaration rest declared
      split at qualified
      · rename_i same
        exact ⟨symbol, declaration, rest, rfl, declared, same, Except.ok.inj qualified⟩
      · split at qualified
        · split at qualified
          · cases qualified
            refine absurd (underscore_mem_sanitize ?_) plain
            simp
          · cases qualified
        · cases qualified

end TypeName

namespace Derivation

open Connector

/-- The record is declared in the functions file, and the name it goes by there comes to `name`. -/
def NamedInEntry (P : Program) (path : TypePath) (record : Handle) (name : String) : Prop :=
  record.record?.isSome ∧ ∃ symbol declaration rest own,
    TypeName.symbolOf path record = .ok symbol ∧ symbol.declarations = declaration :: rest ∧
    (Path.ofString declaration.file).resolve P.resolver.tree.cwd = P.entry ∧
    record.declaredName? = some own ∧
    TypeName.sanitize ((own.filter (!·.isEmpty)).getD path.typeName) = name

theorem namedInEntry_of_nameAt? {P : Program} {path : TypePath} {record : Handle} {name : String}
    (isRecord : record.record?.isSome) (named : nameAt? P path record = some (.ok name))
    (plain : '_' ∉ name.toList) : NamedInEntry P path record name := by
  obtain ⟨own, declared, qualified⟩ := Option.map_eq_some_iff.mp named
  obtain ⟨symbol, declaration, rest, found, places, same, shown⟩ :=
    TypeName.declared_in_entry_of_qualify qualified plain
  exact ⟨isRecord, symbol, declaration, rest, own, found, places, same, declared, shown⟩

/-- A type that the response of a derived schema mentions stands for exactly one of its entries,
unless an object type has the name of one of the primitive types in the schema; only a record of
the functions file itself can be given such a name. -/
theorem response_denotes_one_iff (P : Program) (c : CheckState) (outcome : SchemaOutcome)
    (t : DerivationState) (returned : Returns (deriveUnchecked P) { check := c } outcome t) :
    (∀ type ∈ (SchemaResponse.ofSchema outcome.schema).types,
      (∃ entry, (SchemaResponse.ofSchema outcome.schema).denotations type.target = [entry]) ↔
        ¬ (type.target ∈ Pairs.keys outcome.schema.objectTypes ∧
          type.target ∈ outcome.schema.scalarTypes)) ∧
    (∀ name ∈ outcome.schema.scalarTypes, name ∈ ["Boolean", "String", "Int", "Float"]) ∧
    ∀ name ∈ Pairs.keys outcome.schema.objectTypes, name ∈ outcome.schema.scalarTypes →
      ∃ path record, NamedInEntry P path record name := by
  obtain ⟨calls, traced, objects, scalars⟩ := trace_of_deriveUnchecked returned
  have tidy := traced.kept (Registry.kept_tidy P) (Registry.tidy_empty P)
  have names : Pairs.keys outcome.schema.objectTypes = t.registry.objectNames := by
    simp [objects, Pairs.keys, Registry.objectTypes, Registry.objectNames]
  have primitive : ∀ name ∈ outcome.schema.scalarTypes,
      name ∈ ["Boolean", "String", "Int", "Float"] := by
    intro name member
    rw [scalars] at member
    obtain ⟨kind, named⟩ := tidy.primitive name member
    cases kind <;> cases named <;> decide
  refine ⟨?_, primitive, ?_⟩
  · intro type member
    obtain ⟨original, mentioned, rfl⟩ := SchemaResponse.ofType_of_mem_types member
    obtain ⟨kind, reference⟩ := TypeRef.target_ofType original
    have defined := deriveUnchecked_defines P c outcome t returned original mentioned _ reference
    rw [← SchemaResponse.keys_ofSchema]
    apply SchemaResponse.denotes_one_iff
    · rw [SchemaResponse.keys_ofSchema, names]
      exact tidy.objects
    · show outcome.schema.scalarTypes.Nodup
      exact scalars ▸ tidy.scalars
    · rw [SchemaResponse.keys_ofSchema]
      cases kind with
      | object => exact .inl defined
      | scalar => exact .inr defined
  · intro name member scalar
    have plain : ∀ name ∈ ["Boolean", "String", "Int", "Float"], '_' ∉ name.toList := by decide
    obtain ⟨path, record, isRecord, named⟩ := tidy.declared name (names ▸ member)
    exact ⟨path, record, namedInEntry_of_nameAt? isRecord named (plain name (primitive name scalar))⟩

/-- A class that has the name under which `int` is in the schema. -/
def intRecord : Program := .ofLines ⟨.root, ["app", "functions.py"]⟩ [
  "from typing import TypedDict",
  "class Int(TypedDict):",
  "    value: int",
  "def wrap(box: Int) -> int:",
  "    return 0"]

/-- The argument of `wrap` has the type `Int`, and so has its result. -/
theorem intRecord_ambiguous :
    ∃ outcome, deriveProgram intRecord = .ok outcome ∧ outcome.issues = [] ∧
      .named "Int" ∈ (SchemaResponse.ofSchema outcome.schema).types ∧
      (SchemaResponse.ofSchema outcome.schema).denotations "Int" =
        [.object [("value", .named "Int")], .scalar] := by
  have shown : ((deriveProgram intRecord).toOption.map fun outcome =>
      (outcome.issues, (SchemaResponse.ofSchema outcome.schema).types,
        (SchemaResponse.ofSchema outcome.schema).denotations "Int")) =
      some ([], [.named "Int", .named "Int", .named "Int"],
        [.object [("value", .named "Int")], .scalar]) := by decide +kernel
  obtain ⟨outcome, derived, seen⟩ := Option.map_eq_some_iff.mp shown
  obtain ⟨clean, types, denoted⟩ := by simpa only [Prod.mk.injEq] using seen
  refine ⟨outcome, ?_, clean, ?_, denoted⟩
  · cases found : deriveProgram intRecord with
    | error => simp [found, Except.toOption] at derived
    | ok => simpa [found, Except.toOption] using derived
  · rw [types]
    exact List.mem_cons_self

theorem response_denotes_one_iff_intRecord :
    ∃ outcome t,
      Returns (deriveUnchecked intRecord) { check := .start intRecord } outcome t ∧
      (¬ ∃ entry, (SchemaResponse.ofSchema outcome.schema).denotations "Int" = [entry]) ∧
      ∃ path record, NamedInEntry intRecord path record "Int" := by
  have shown : (runFrom
      ((fun o => ((SchemaResponse.ofSchema o.schema).types,
          Pairs.keys o.schema.objectTypes, o.schema.scalarTypes)) <$> deriveUnchecked intRecord)
      { check := .start intRecord }).1 =
      .ok ([.named "Int", .named "Int", .named "Int"], ["Int"], ["Int"]) := by decide +kernel
  obtain ⟨outcome, returned, same⟩ := (returns_map_iff ..).mp (returns_of_ok shown)
  obtain ⟨types, objects, scalars⟩ := by simpa only [Prod.mk.injEq] using same
  obtain ⟨once, _, declared⟩ := response_denotes_one_iff _ _ _ _ returned
  have object : "Int" ∈ Pairs.keys outcome.schema.objectTypes := by simp [← objects]
  have scalar : "Int" ∈ outcome.schema.scalarTypes := by simp [← scalars]
  refine ⟨outcome, _, returned, ?_, declared "Int" object scalar⟩
  have mentioned : TypeRef.named "Int" ∈ (SchemaResponse.ofSchema outcome.schema).types := by
    simp [← types]
  exact fun one => (once _ mentioned).mp one ⟨object, scalar⟩

end Derivation

end HintSchema

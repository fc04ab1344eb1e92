import Mathlib.Data.List.TakeWhile
import HintSchema.Derivation.File
import HintSchema.Proofs.Derivation.Identified
import HintSchema.Proofs.Hints.Spelling

/-!
Which names of object types are identifiers. What is written before a type's own name, and what is
made up for a type without one, has a letter or an underscore; so only the own name of a record of
the functions file can leave nothing (`objectTypes_isIdentifier_iff`).
-/

namespace HintSchema

namespace TypeName

/-- A Latin letter or an underscore, and then such characters and digits. -/
def isIdentifier (name : String) : Bool :=
  match name.toList with
  | [] => false
  | first :: rest => isNameStart first && rest.all isNameRest

def isLettered (text : String) : Bool := text.toList.any isNameStart

variable {text : String}

theorem isNameRest_of_isNameStart {c : Char} (start : isNameStart c = true) :
    isNameRest c = true := by
  simp only [isNameStart, isNameRest, Char.isAlphanum, Bool.or_eq_true] at start ⊢
  tauto

theorem sanitize_of_not_lettered (bare : isLettered text = false) : sanitize text = "" := by
  have skipped : text.toList.dropWhile (fun c => !isNameStart c) = [] := by
    rw [List.dropWhile_eq_nil_iff]
    intro c member
    simpa using List.any_eq_false.mp bare c member
  rw [sanitize, skipped]
  rfl

theorem isIdentifier_sanitize (lettered : isLettered text = true) :
    isIdentifier (sanitize text) = true := by
  obtain ⟨c, member, start⟩ := List.any_eq_true.mp lettered
  cases kept : text.toList.dropWhile (fun c => !isNameStart c) with
  | nil =>
    have skipped := List.dropWhile_eq_nil_iff.mp kept c member
    rw [start] at skipped
    cases skipped
  | cons first rest =>
    have begins : isNameStart first = true := by
      have head := List.head?_dropWhile_not (fun c => !isNameStart c) text.toList
      rw [kept] at head
      simpa using head
    have allowed : ∀ c ∈ rest, isNameRest (if isNameRest c then c else '_') = true := by
      intro c _
      split
      · assumption
      · decide
    unfold isIdentifier
    rw [sanitize, kept, String.toList_ofList, List.map_cons,
      if_pos (isNameRest_of_isNameStart begins)]
    simpa [begins] using allowed

theorem isLettered_append {before after : String} :
    isLettered (before ++ after) = (isLettered before || isLettered after) := by
  simp [isLettered, String.toList_append]

end TypeName

theorem PathStep.isLettered_nameText (step : PathStep) :
    TypeName.isLettered step.nameText = true := by
  have written : TypeName.isLettered "_arguments_" ∧ TypeName.isLettered "_output" ∧
      TypeName.isLettered "field_" ∧ TypeName.isLettered "array" := by decide
  obtain ⟨arguments, output, field, array⟩ := written
  cases step <;> simp only [nameText, TypeName.isLettered_append, arguments, output, field, array,
    Bool.or_true, Bool.true_or]

theorem TypePath.isLettered_typeName {path : TypePath} (started : path ≠ []) :
    TypeName.isLettered path.typeName = true := by
  cases path with
  | nil => exact absurd rfl started
  | cons step rest =>
    obtain ⟨after, written⟩ :=
      Handle.intercalate_cons "_" step.nameText (rest.map PathStep.nameText)
    rw [typeName, List.map_cons, written, TypeName.isLettered_append, step.isLettered_nameText]
    rfl

namespace Derivation

/-- The record is declared in the functions file, and the name it has there has no Latin letter and
no underscore. -/
def Unlettered (P : Program) (record : Handle) : Prop :=
  ∃ symbol declaration rest own, record.symbol? = some symbol ∧
    symbol.declarations = declaration :: rest ∧
    (Path.ofString declaration.file).resolve P.resolver.tree.cwd = P.entry ∧
    record.declaredName? = some (some own) ∧ own ≠ "" ∧ TypeName.isLettered own = false

variable {P : Program} {path : TypePath} {record : Handle} {name : String}

theorem Unlettered.nameAt? (unlettered : Unlettered P record) (path : TypePath) :
    nameAt? P path record = some (.ok "") := by
  obtain ⟨symbol, declaration, rest, own, found, declared, home, named, nonempty, bare⟩ :=
    unlettered
  have known : TypeName.symbolOf path record = .ok symbol := by
    unfold TypeName.symbolOf
    rw [found]
  have written : ((some own).filter (!·.isEmpty)).getD path.typeName = own := by
    simp [Option.filter, nonempty]
  simp [Derivation.nameAt?, named, TypeName.qualify, known, written, bind, Except.bind, declared,
    home, TypeName.sanitize_of_not_lettered bare]

/-- A record that comes up at a place in a signature has an identifier for its name unless its own
name leaves nothing. -/
theorem isIdentifier_of_nameAt? (started : path ≠ []) (isRecord : record.record?.isSome)
    (named : nameAt? P path record = some (.ok name)) (lettered : ¬ Unlettered P record) :
    TypeName.isIdentifier name = true := by
  obtain ⟨own, declared, qualified⟩ := Option.map_eq_some_iff.mp named
  obtain ⟨symbol, known⟩ : ∃ symbol, record.symbol? = some symbol := by
    cases record with
    | record symbol => exact ⟨symbol, rfl⟩
    | _ => cases isRecord
  have found : TypeName.symbolOf path record = .ok symbol := by
    unfold TypeName.symbolOf
    rw [known]
  unfold TypeName.qualify at qualified
  rw [found] at qualified
  simp only [bind, Except.bind] at qualified
  split at qualified
  · cases qualified
  · rename_i declaration rest places
    split at qualified
    · rename_i home
      cases qualified
      apply TypeName.isIdentifier_sanitize
      cases written : own.filter (!·.isEmpty) with
      | none => exact TypePath.isLettered_typeName started
      | some text =>
        obtain ⟨rfl, nonempty⟩ := Option.filter_eq_some_iff.mp written
        cases bare : TypeName.isLettered text with
        | true => exact bare
        | false =>
          exact absurd ⟨symbol, declaration, rest, text, known, places, home, declared,
            by simpa using nonempty, bare⟩ lettered
    · split at qualified
      · split at qualified
        · cases qualified
          have mark : TypeName.isLettered "_" := by decide
          exact TypeName.isIdentifier_sanitize (by simp [TypeName.isLettered_append, mark])
        · cases qualified
      · cases qualified

theorem Leads.started {c : CheckState} {start place : TypePath × Handle}
    (leads : Leads P c start place) (started : start.1 ≠ []) : place.1 ≠ [] := by
  cases leads with
  | deferred | single => exact started
  | element | property => simp

theorem started_of_reached {c : CheckState} {start place : TypePath × Handle}
    (reached : Relation.ReflTransGen (Leads P c) start place) (started : start.1 ≠ []) :
    place.1 ≠ [] := by
  induction reached with
  | refl => exact started
  | tail _ leads ih => exact leads.started ih

theorem pass_of_deriveUnchecked {c : CheckState} {outcome : SchemaOutcome} {t : DerivationState}
    (returned : Returns (deriveUnchecked P) { check := c } outcome t) :
    ∃ functions, Pass P [] functions t := by
  unfold deriveUnchecked deriveFunctions at returned
  simp only [returns_bind_iff, returns_get_iff, returns_pure_iff] at returned
  obtain ⟨_, _, derived, _, _, ⟨rfl, rfl⟩, _, rfl⟩ := returned
  exact ⟨_, (Pass.start _).mapM derived⟩

/-- Each object type of a derived schema has the name of the record it stands for. The name is an
identifier, unless that record is declared in the functions file under a name without Latin letters
and underscores; the name of such a record is empty. -/
theorem objectTypes_isIdentifier_iff (P : Program) (c : CheckState) (outcome : SchemaOutcome)
    (t : DerivationState) (returned : Returns (deriveUnchecked P) { check := c } outcome t) :
    ∀ name ∈ Pairs.keys outcome.schema.objectTypes, ∃ path record,
      record.record?.isSome ∧ nameAt? P path record = some (.ok name) ∧
      t.registry.identity? name = some record.identity ∧
      (TypeName.isIdentifier name = true ↔ ¬ Unlettered P record) ∧
      (Unlettered P record → name = "") := by
  intro name member
  obtain ⟨_, _, objects, _⟩ := trace_of_deriveUnchecked returned
  obtain ⟨functions, pass⟩ := pass_of_deriveUnchecked returned
  have accounted := pass.accounted (.refl _) fun _ _ known => known
  rw [objects, Registry.keys_objectTypes] at member
  obtain ⟨entry, found⟩ : ∃ entry, t.registry.object? name = some entry :=
    Option.ne_none_iff_exists'.mp fun missing => Registry.object?_eq_none_iff.mp missing member
  obtain ⟨start, starts, path, record, source, arguments, _, _, reached, isRecord, named, same, _⟩ :=
    accounted.registered _ (Registry.mem_of_object? found)
  have started : start.1 ≠ [] := by
    cases starts with
    | call member => cases member
    | parameter | result => exact List.cons_ne_nil _ _
  have bare (unlettered : Unlettered P record) : name = "" := by
    have empty := named.symm.trans (unlettered.nameAt? path)
    cases empty
    rfl
  refine ⟨path, record, Option.isSome_of_eq_some isRecord, named,
    same ▸ Registry.identity?_of_object? found, ⟨?_, ?_⟩, bare⟩
  · intro valid unlettered
    rw [bare unlettered] at valid
    cases valid
  · exact isIdentifier_of_nameAt? (started_of_reached reached started)
      (Option.isSome_of_eq_some isRecord) named

/-- The functions file of
```
from typing import TypedDict
class 型(TypedDict):
    x: int
def f(a: 型) -> int:
    return 0
```
as it is parsed. -/
def ideograph : Program :=
  let home : Path := ⟨.root, ["app"]⟩
  let entry := home / "functions.py"
  ⟨.make ⟨home, [], []⟩ home [], entry, [.ofBody "functions" entry (some [
    .importFrom ⟨1, 0⟩ (some "typing") 0 [⟨"TypedDict", none⟩],
    .classDef ⟨⟨2, 0⟩, "型", [.name ⟨2, 10⟩ "TypedDict"], [], [],
      [.declare (.name ⟨3, 4⟩ "x") (.name ⟨3, 7⟩ "int") none true]⟩,
    .functionDef ⟨false, "f", [.mk .positionalOrKeyword "a" (some (.name ⟨4, 9⟩ "型")) none],
      some (.name ⟨4, 17⟩ "int"), [],
      [.simple (.returns (some (.literal ⟨5, 11⟩ (.int 0))))]⟩])]⟩

/-- Its object type has no name. -/
theorem ideograph_nameless :
    ∃ outcome, deriveProgram ideograph = .ok outcome ∧ outcome.issues = [] ∧
      Pairs.keys outcome.schema.objectTypes = [""] ∧ TypeName.isIdentifier "" = false := by
  have shown : ((deriveProgram ideograph).toOption.map fun outcome =>
      (outcome.issues, Pairs.keys outcome.schema.objectTypes)) = some ([], [""]) := by
    decide +kernel
  obtain ⟨outcome, derived, seen⟩ := Option.map_eq_some_iff.mp shown
  obtain ⟨clean, names⟩ := by simpa only [Prod.mk.injEq] using seen
  refine ⟨outcome, ?_, clean, names, by decide⟩
  cases found : deriveProgram ideograph with
  | error => simp [found, Except.toOption] at derived
  | ok => simpa [found, Except.toOption] using derived

theorem objectTypes_isIdentifier_iff_ideograph :
    ∃ outcome t, Returns (deriveUnchecked ideograph) { check := .start ideograph } outcome t ∧
      Pairs.keys outcome.schema.objectTypes = [""] ∧
      ∃ path record, nameAt? ideograph path record = some (.ok "") ∧
        Unlettered ideograph record := by
  have shown : (runFrom ((fun o => Pairs.keys o.schema.objectTypes) <$> deriveUnchecked ideograph)
      { check := .start ideograph }).1 = .ok [""] := by decide +kernel
  obtain ⟨outcome, returned, names⟩ := (returns_map_iff ..).mp (returns_of_ok shown)
  have member : "" ∈ Pairs.keys outcome.schema.objectTypes := by simp [← names]
  obtain ⟨path, record, _, named, _, valid, _⟩ :=
    objectTypes_isIdentifier_iff _ _ _ _ returned "" member
  refine ⟨outcome, _, returned, names.symm, path, record, named, ?_⟩
  by_contra lettered
  cases valid.mpr lettered

end Derivation

end HintSchema

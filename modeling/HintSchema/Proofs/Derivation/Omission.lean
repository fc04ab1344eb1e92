import HintSchema.Proofs.Derivation.Order

/-!
A function that is left out. What the other functions come to does not depend on it, unless one of
their types has its name, or they are only not too deep because of it (`rest_of_functions`).
-/

namespace HintSchema

open Schema

namespace Derivation

/-- Unless hints hold inline records, records of different types share a name or classes inherit
from themselves, a function does not matter to the others: once all functions of a file are derived,
broken ones among them, deriving the functions without one of them gives each other function the
entry that it has, or none if it has none, or it stops because of how types are nested. -/
theorem rest_of_functions (P : Program) (parsed : P.Parsed) (acyclic : P.Acyclic)
    (before after : List Function) (f : Function) (exported : before ++ f :: after = exports P)
    (named : NoInlineRecord P (Meets P (exports P))) (apart : NoConflict P (Meets P (exports P)))
    (c : CheckState) (blank : c.records = []) (outcome : SchemaOutcome) (t : DerivationState)
    (returned : Returns (deriveFunctions P (exports P)) { check := c } outcome t) :
    (∃ outcome' t', Returns (deriveFunctions P (before ++ after)) { check := c } outcome' t' ∧
      ∀ g ∈ before ++ after, Pairs.get? outcome'.schema.functions g.name =
        Pairs.get? outcome.schema.functions g.name) ∨
    ∃ fault t', Raises (deriveFunctions P (before ++ after)) { check := c } fault t' ∧
      fault.IsFormal := by
  have steadied := Program.steadied_consistent acyclic parsed.placed
  have territory : Territory P (Meets P (exports P)) :=
    territory_meets steadied parsed.placed (fun _ listed => listed) named apart
  have fewer : (before ++ after).Sublist (exports P) := by
    rw [← exported]
    exact (List.Sublist.refl before).append (List.sublist_cons_self f after)
  have distinct : ((exports P).map (·.name)).Nodup := SourceFile.nodup_exportedFunctions _
  have distinct' : ((before ++ after).map (·.name)).Nodup := distinct.sublist (fewer.map _)
  have met (g) (listed : g ∈ exports P) (handle) (declares : Declares P g handle) :
      Meets P (exports P) handle := .declared listed declares
  have met' (g) (listed : g ∈ before ++ after) := met g (fewer.subset listed)
  obtain ⟨outcomes, mapped, rfl⟩ := returns_deriveFunctions_iff.mp returned
  obtain ⟨calls, ran, ⟨calls', outcomes', t', mapped', ran'⟩ | ⟨fault, t', raised, formal⟩⟩ :=
    rerun_of_territory steadied territory (displayable_meets named) (fun _ => (fewer.subset ·)) blank
      mapped
  · refine .inl ⟨_, t', returns_deriveFunctions_iff.mpr ⟨outcomes', mapped', rfl⟩, ?_⟩
    intro g listed
    exact (ran.entry_eq territory ran' met met' distinct distinct' (fewer.subset listed) listed).symm
  · exact .inr ⟨fault, t', raises_deriveFunctions_iff.mpr raised, formal⟩

theorem rest_of_functions_shared :
    ∃ first broken last outcome t, [first] ++ broken :: [last] = exports shared ∧
      Returns (deriveFunctions shared (exports shared)) { check := {} } outcome t ∧
      Pairs.keys outcome.schema.functions = ["first", "last"] ∧
      ((∃ outcome' t',
        Returns (deriveFunctions shared ([first] ++ [last])) { check := {} } outcome' t' ∧ ∀ g ∈ [first] ++ [last], Pairs.get? outcome'.schema.functions g.name =
          Pairs.get? outcome.schema.functions g.name) ∨
      ∃ fault t', Raises (deriveFunctions shared ([first] ++ [last])) { check := {} } fault t' ∧
        fault.IsFormal) := by
  obtain ⟨parsed, acyclic, named, apart⟩ := shared_clear
  obtain ⟨count, derived⟩ := shared_derives
  obtain ⟨first, broken, last, three⟩ := List.length_eq_three.mp count
  obtain ⟨outcome, finished, names⟩ := exists_of_functionNames? derived
  have returned := returns_of_ok finished
  exact ⟨first, broken, last, outcome, _, three.symm, returned, names,
    rest_of_functions shared parsed acyclic [first] [last] broken three.symm named apart {} rfl
      outcome _ returned⟩

/-- The types of a broken function have the names of others, and classes inherit from each other. -/
def entangled : Program := .ofLines ⟨.root, ["app", "functions.py"]⟩ [
  "from typing import Generic, TypedDict, TypeVar",
  "T = TypeVar('T')",
  "class Box(TypedDict, Generic[T]):",
  "    item: T",
  "class Box_int_(TypedDict):",
  "    size: int",
  "class Part(TypedDict):",
  "    raw: TypedDict[\x7b'a': int\x7d]",
  "class use_arguments_part_field_raw(TypedDict):",
  "    b: int",
  "class A(B):",
  "    x: int",
  "class B(A, TypedDict):",
  "    y: int",
  "def broken(box: Box[int], part: Part, b: B, data: bytes) -> int:",
  "    return 0",
  "def own(box: Box_int_) -> int:",
  "    return 0",
  "def use(part: Part) -> int:",
  "    return 0",
  "def odd(raw: use_arguments_part_field_raw) -> int:",
  "    return 0",
  "def cyclic(a: A) -> int:",
  "    return 0"]

/-- A broken function can matter to others, whose types have the names of its types, hold records
that are named after where they are met, inherit from themselves, or would be too deep. -/
theorem broken_matters :
    (functionNames? (runFrom (deriveFunctions entangled (exports entangled)) { check := {} }).1 =
        some ["use", "odd"] ∧
      functionNames? (runFrom (deriveFunctions entangled (exports entangled).tail)
        { check := {} }).1 = some ["own", "use", "cyclic"]) ∧
    functionNames? (runFrom (deriveFunctions deepInner (exports deepInner)) { check := {} }).1 =
        some ["second"] ∧
      (runFrom (deriveFunctions deepInner (exports deepInner).tail) { check := {} }).1 =
        .error (.tooDeep "int") :=
  ⟨by decide +kernel, by decide +kernel⟩

end Derivation

end HintSchema

import HintSchema.Proofs.Derivation.Step
import HintSchema.Proofs.Pairs

/-!
What a derivation leaves of the registry it starts from. Every call that returns only appends to it
(`framed_of_returns`), and one that fails gives the object types back as they were.
-/

namespace HintSchema

namespace Registry

/-- The later registry has all that the earlier one has, in its place, and new names after that. -/
structure Extends (r r' : Registry) : Prop where
  objects : ∃ new, r'.objects = r.objects ++ new ∧ ∀ e ∈ new, e.1 ∉ r.objectNames
  scalars : r.scalars <+: r'.scalars

namespace Extends

variable {r r' r'' : Registry}

theorem refl (r : Registry) : r.Extends r :=
  ⟨⟨[], by simp⟩, List.prefix_refl _⟩

theorem of_objects_eq (same : r'.objects = r.objects) (scalars : r.scalars <+: r'.scalars) :
    r.Extends r' :=
  ⟨⟨[], by simp [same]⟩, scalars⟩

theorem names (extended : r.Extends r') {name : String} (known : name ∈ r.objectNames) :
    name ∈ r'.objectNames := by
  obtain ⟨new, objects, _⟩ := extended.objects
  simp only [objectNames, objects, List.map_append, List.mem_append]
  exact .inl known

theorem mem_objects (extended : r.Extends r') {e : String × RegisteredType}
    (member : e ∈ r'.objects) (known : e.1 ∈ r.objectNames) : e ∈ r.objects := by
  obtain ⟨new, objects, fresh⟩ := extended.objects
  rw [objects] at member
  rcases List.mem_append.mp member with old | recent
  · exact old
  · exact absurd known (fresh e recent)

theorem trans (first : r.Extends r') (second : r'.Extends r'') : r.Extends r'' := by
  obtain ⟨new, objects, fresh⟩ := first.objects
  obtain ⟨newer, later, fresher⟩ := second.objects
  refine ⟨⟨new ++ newer, ?_, ?_⟩, first.scalars.trans second.scalars⟩
  · rw [later, objects, List.append_assoc]
  · intro e member
    rcases List.mem_append.mp member with old | recent
    · exact fresh e old
    · exact fun known => fresher e recent (first.names known)

end Extends

theorem object?_eq_none_iff {r : Registry} {name : String} :
    r.object? name = none ↔ name ∉ r.objectNames :=
  Pairs.lookup_eq_none_iff

theorem mem_of_object? {r : Registry} {name : String} {entry : RegisteredType}
    (found : r.object? name = some entry) : (name, entry) ∈ r.objects := by
  obtain ⟨before, after, whole, _⟩ := List.lookup_eq_some_iff.mp found
  simp [whole]

theorem putObject_absent {r : Registry} {name : String} (absent : name ∉ r.objectNames)
    (entry : RegisteredType) :
    (r.putObject name entry).objects = r.objects ++ [(name, entry)] :=
  Pairs.put_absent absent entry

theorem objects_addScalar (r : Registry) (name : String) :
    (r.addScalar name).objects = r.objects := by
  unfold addScalar
  split <;> rfl

theorem extends_addScalar (r : Registry) (name : String) : r.Extends (r.addScalar name) := by
  unfold addScalar
  split
  · exact .refl r
  · exact .of_objects_eq rfl (List.prefix_append _ _)

theorem closed_objects {r r' : Registry} {name : String} (absent : name ∉ r.objectNames)
    (opened closed : RegisteredType) (extended : (r.putObject name opened).Extends r') :
    ∃ new, r'.objects = r.objects ++ (name, opened) :: new ∧
      (r'.putObject name closed).objects = r.objects ++ (name, closed) :: new ∧
      ∀ e ∈ new, e.1 ∉ r.objectNames ∧ e.1 ≠ name := by
  obtain ⟨new, objects, fresh⟩ := extended.objects
  simp only [objectNames, putObject_absent absent, List.map_append, List.mem_append,
    List.map_cons, List.map_nil, List.mem_singleton, not_or] at fresh
  rw [putObject_absent absent, List.append_assoc, List.singleton_append] at objects
  refine ⟨new, objects, ?_, fresh⟩
  unfold putObject
  rw [objects]
  apply Pairs.put_present _ _ absent
  intro known
  obtain ⟨e, member, same⟩ := List.mem_map.mp known
  exact (fresh e member).2 same

theorem mem_closed {r r' : Registry} {name : String} (absent : name ∉ r.objectNames)
    {opened closed : RegisteredType} (extended : (r.putObject name opened).Extends r')
    {e : String × RegisteredType} (present : e ∈ (r'.putObject name closed).objects)
    (new : e.1 ∉ r.objectNames) :
    e = (name, closed) ∨ e ∈ r'.objects ∧ e.1 ∉ (r.putObject name opened).objectNames := by
  obtain ⟨added, objects, replaced, names⟩ := closed_objects absent opened closed extended
  rw [replaced] at present
  rcases List.mem_append.mp present with old | present
  · exact absurd (List.mem_map_of_mem old) new
  rcases List.mem_cons.mp present with same | nested
  · exact .inl same
  · refine .inr ⟨by simp [objects, nested], ?_⟩
    have apart := names e nested
    simpa [objectNames, putObject_absent absent] using apart

theorem keepObjects_eq {r r' : Registry} {new : List (String × RegisteredType)}
    (objects : r'.objects = r.objects ++ new) (fresh : ∀ e ∈ new, e.1 ∉ r.objectNames) :
    (r'.keepObjects r.objectNames).objects = r.objects := by
  unfold keepObjects
  have old : r.objects.filter (fun p => r.objectNames.contains p.1) = r.objects := by
    apply List.filter_eq_self.mpr
    intro e member
    simpa [objectNames] using ⟨e.2, member⟩
  have gone : new.filter (fun p => r.objectNames.contains p.1) = [] := by
    apply List.filter_eq_nil_iff.mpr
    intro e member
    simpa using fresh e member
  simp only [objects, List.filter_append, old, gone, List.append_nil]

end Registry

namespace Derivation

def Framed (s : DerivationState) : Outcome → DerivationState → Prop
  | .type _ _, t => s.registry.Extends t.registry
  | .errors _, t =>
    t.registry.objects = s.registry.objects ∧ s.registry.scalars <+: t.registry.scalars

theorem Framed.extends {s t : DerivationState} {o : Outcome} (framed : Framed s o t) :
    s.registry.Extends t.registry := by
  cases o with
  | type => exact framed
  | errors => exact .of_objects_eq framed.1 framed.2

theorem registry_of_asking {α : Type} {question : CheckM α} {s t : DerivationState} {a : α}
    (asked : Returns (asking question) s a t) : t.registry = s.registry := by
  obtain ⟨c, _, rfl⟩ := (returns_asking_iff ..).mp asked
  rfl

theorem Walk.extends {C : Calls} {path : TypePath} {name : String} {members : Properties}
    {found whole : PropertyOutcomes} {s t : DerivationState}
    (each : ∀ path handle s o t, C path handle s o t → Framed s o t)
    (walked : Walk C path name members found s whole t) :
    s.registry.Extends t.registry := by
  induction walked with
  | done => exact .refl _
  | next derived _ later => exact (each _ _ _ _ _ derived).extends.trans later

theorem opened_extends {C : Calls} {P : Program} {path : TypePath} {name : String}
    {identity : Identity} {source : RecordSource} {arguments : List Handle} {members : Properties}
    {found whole : PropertyOutcomes} {s t u : DerivationState}
    (each : ∀ path handle s o t, C path handle s o t → Framed s o t)
    (asked : Returns (asking (P.propertiesOf source arguments)) (s.openObject name identity)
      members t)
    (walked : Walk C path name members found t whole u) :
    (s.registry.putObject name ⟨identity, {}⟩).Extends u.registry := by
  have extended := walked.extends each
  rwa [registry_of_asking asked] at extended

theorem Step.framed {P : Program} {C : Calls} {path : TypePath} {handle : Handle}
    {s t : DerivationState} {o : Outcome}
    (each : ∀ path handle s o t, C path handle s o t → Framed s o t)
    (step : Step P C path handle s o t) : Framed s o t := by
  cases step with
  | unsupported | outside | conflict => exact ⟨rfl, List.prefix_refl _⟩
  | known => exact Registry.Extends.refl _
  | scalar => exact Registry.extends_addScalar _ _
  | list derived => exact (each _ _ _ _ _ derived).extends
  | listFailed failed => exact each _ _ _ _ _ failed
  | nullable _ derived => exact (each _ _ _ _ _ derived).extends
  | nullableFailed _ failed => exact each _ _ _ _ _ failed
  | registered _ _ fresh asked walked =>
    have absent := Registry.object?_eq_none_iff.mp fresh
    have extended := opened_extends each asked walked
    obtain ⟨new, _, closed, names⟩ := Registry.closed_objects absent _ _ extended
    refine ⟨⟨_, closed, ?_⟩, extended.scalars⟩
    simp only [List.mem_cons, forall_eq_or_imp]
    exact ⟨absent, fun e member => (names e member).1⟩
  | evicted _ _ fresh asked walked =>
    have absent := Registry.object?_eq_none_iff.mp fresh
    have extended := opened_extends each asked walked
    obtain ⟨new, objects, _, names⟩ :=
      Registry.closed_objects absent _ ⟨handle.identity, {}⟩ extended
    refine ⟨Registry.keepObjects_eq objects ?_, extended.scalars⟩
    simp only [List.mem_cons, forall_eq_or_imp]
    exact ⟨absent, fun e member => (names e member).1⟩

theorem framed_of_returns {P : Program} {depth : Int} {path : TypePath} {handle : Handle}
    {s t : DerivationState} {o : Outcome}
    (returned : Returns (deriveType P depth path handle) s o t) : Framed s o t := by
  refine deriveType_induct (M := fun _ _ _ s o t => Framed s o t) ?_ returned
  intro _ _ _ _ s u o t _ seen step
  have framed := step.framed fun _ _ _ _ _ derived => derived.2
  unfold Framed at framed ⊢
  rwa [registry_of_asking seen] at framed

/-- Deriving a type never takes back or changes what was registered before: a failure leaves the
object types with their identities exactly as they were, a success adds new names behind them, and
scalars are only ever added. -/
theorem deriveType_frame (P : Program) (depth : Int) (path : TypePath) (handle : Handle)
    (s t : DerivationState) (o : Outcome)
    (returned : Returns (deriveType P depth path handle) s o t) :
    (∀ errors, o = .errors errors → t.registry.objects = s.registry.objects) ∧
    (∀ type warnings, o = .type type warnings →
      ∃ new, t.registry.objects = s.registry.objects ++ new ∧
        ∀ e ∈ new, e.1 ∉ s.registry.objectNames) ∧
    s.registry.scalars <+: t.registry.scalars := by
  have framed := framed_of_returns returned
  refine ⟨?_, ?_, framed.extends.scalars⟩
  · intro errors same
    obtain rfl := same
    exact framed.1
  · intro type warnings same
    obtain rfl := same
    exact framed.objects

/-- The type `Branch` cannot be expressed, although its first property can. -/
def partlyExpressible : Program := .ofLines ⟨.root, ["app", "functions.py"]⟩ [
  "from typing import Any, TypedDict",
  "class Leaf(TypedDict):",
  "    size: int",
  "class Branch(TypedDict):",
  "    leaf: Leaf",
  "    rest: Any"]

def branchInTree : DerivationM Outcome := do
  updateRegistry (·.putObject "Tree" ⟨.declared (some "Tree") [] [], {}⟩)
  let branch ← asking (partlyExpressible.resolve partlyExpressible.entry []
    (some (.name ⟨5, 10⟩ "Branch")))
  deriveType partlyExpressible 1 [.property "Tree" "branch"] branch

/-- `Leaf` is registered on the way to the failure, and taken back with `Branch`. -/
theorem deriveType_frame_branchInTree :
    ∃ branch s t, Returns (deriveType partlyExpressible 1 [.property "Tree" "branch"] branch) s
        (.errors ["The type 'Any' is not supported, but it was encountered in " ++
          "type 'Tree' property 'branch', type 'Branch' property 'rest'"]) t ∧
      t.registry.objects = s.registry.objects ∧ s.registry.objectNames = ["Tree"] := by
  have whole : (runFrom branchInTree { check := .start partlyExpressible }).1 =
      .ok (.errors ["The type 'Any' is not supported, but it was encountered in " ++
        "type 'Tree' property 'branch', type 'Branch' property 'rest'"]) := by decide +kernel
  have returned := returns_of_ok whole
  unfold branchInTree at returned
  simp only [returns_bind_iff, returns_updateRegistry_iff] at returned
  obtain ⟨_, _, rfl, branch, s, asked, returned⟩ := returned
  refine ⟨branch, s, _, returned, ?_, ?_⟩
  · exact (deriveType_frame _ _ _ _ _ _ _ returned).1 _ rfl
  · rw [registry_of_asking asked]
    rfl

end Derivation

end HintSchema

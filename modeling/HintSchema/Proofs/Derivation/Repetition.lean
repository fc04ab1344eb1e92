import HintSchema.Proofs.Derivation.Image

/-!
A derivation that is repeated. What has a type is found in the registry, and a failure has left the
object types as they were, so that it comes about again in the same way (`deriveType_repeats`).
-/

namespace HintSchema

open Schema

namespace Registry

theorem object?_putObject (r : Registry) (name : String) (entry : RegisteredType) :
    (r.putObject name entry).object? name = some entry :=
  Pairs.lookup_put ..

theorem mem_addScalar (r : Registry) (name : String) : name ∈ (r.addScalar name).scalars := by
  unfold addScalar
  split
  · rename_i known
    exact List.contains_iff_mem.mp known
  · simp

theorem addScalar_of_mem {r : Registry} {name : String} (known : name ∈ r.scalars) :
    r.addScalar name = r := by
  unfold addScalar
  rw [if_pos (List.contains_iff_mem.mpr known)]

end Registry

namespace Derivation

/-- `z` has the object types of `s`, and knows all the scalars and classes that `t` does. -/
structure Resumes (P : Program) (s t z : DerivationState) : Prop where
  objects : z.registry.objects = s.registry.objects
  scalars : t.registry.scalars ⊆ z.registry.scalars
  check : t.check.Grows P z.check

/-- From `z` to `z'` the object types have become those of `t`, without a new scalar. -/
structure Retraces (P : Program) (t z z' : DerivationState) : Prop where
  objects : z'.registry.objects = t.registry.objects
  scalars : z'.registry.scalars = z.registry.scalars
  check : z.check.Grows P z'.check

/-- A call that has returned, and returns the same from every state that resumes its own. -/
structure Replays (P : Program) (D : Calls) (path : TypePath) (handle : Handle)
    (s : DerivationState) (o : Outcome) (t : DerivationState) : Prop where
  framed : Framed s o t
  grown : s.check.Grows P t.check
  again : ∀ z, Resumes P s t z → ∃ z', D path handle z o z' ∧ Retraces P t z z'

section

variable {P : Program} {C D : Calls} {path : TypePath} {handle : Handle} {o : Outcome}
  {s t u z z' : DerivationState}

theorem Resumes.earlier (resumes : Resumes P s u z)
    (scalars : t.registry.scalars ⊆ u.registry.scalars)
    (check : t.check.Grows P u.check) : Resumes P s t z :=
  ⟨resumes.objects, List.Subset.trans scalars resumes.scalars, check.trans resumes.check⟩

theorem Resumes.next (resumes : Resumes P s u z) (retraces : Retraces P t z z') :
    Resumes P t u z' :=
  ⟨retraces.objects, retraces.scalars ▸ resumes.scalars, resumes.check.trans retraces.check⟩

theorem Retraces.trans {z'' : DerivationState} (first : Retraces P t z z')
    (second : Retraces P u z' z'') : Retraces P u z z'' :=
  ⟨second.objects, second.scalars.trans first.scalars, first.check.trans second.check⟩

theorem Resumes.asked {α : Type} {question : CheckM α} {R : α → Prop} {a : α}
    (settled : Settles P question R) (asked : Returns (asking question) s a t)
    (resumes : Resumes P s t z) :
    ∃ z', Returns (asking question) z a z' ∧ Retraces P t z z' := by
  obtain ⟨_, _, again⟩ := asked_settled settled asked
  obtain ⟨d, answered⟩ := again z.check resumes.check
  have repeated := (returns_asking_iff ..).mpr ⟨d, answered, rfl⟩
  refine ⟨_, repeated, ?_, rfl, (asked_settled settled repeated).2.1⟩
  rw [registry_of_asking asked]
  exact resumes.objects

theorem Walk.grown {name : String} {members : Properties} {found whole : PropertyOutcomes}
    (each : ∀ path handle s o t, C path handle s o t → Replays P D path handle s o t)
    (walked : Walk C path name members found s whole t) :
    s.registry.scalars ⊆ t.registry.scalars ∧ s.check.Grows P t.check := by
  induction walked with
  | done => exact ⟨List.Subset.refl _, .refl _⟩
  | next derived _ ih =>
    have first := each _ _ _ _ _ derived
    exact ⟨List.Subset.trans first.framed.extends.scalars.subset ih.1, first.grown.trans ih.2⟩

theorem Walk.replays {name : String} {members : Properties} {found whole : PropertyOutcomes}
    (each : ∀ path handle s o t, C path handle s o t → Replays P D path handle s o t)
    (walked : Walk C path name members found s whole t) (resumes : Resumes P s t z) :
    ∃ z', Walk D path name members found z whole z' ∧ Retraces P t z z' := by
  induction walked generalizing z with
  | done found s => exact ⟨z, .done _ _, resumes.objects, rfl, .refl _⟩
  | next derived later ih =>
    obtain ⟨scalars, check⟩ := later.grown each
    obtain ⟨v, first, retraced⟩ :=
      (each _ _ _ _ _ derived).again z (resumes.earlier scalars check)
    obtain ⟨z', rest, finished⟩ := ih (resumes.next retraced)
    exact ⟨z', .next first rest, retraced.trans finished⟩

theorem Resumes.object? (resumes : Resumes P s t z) (name : String) :
    z.registry.object? name = s.registry.object? name := by
  unfold Registry.object?
  rw [resumes.objects]

theorem Resumes.opened {name : String} {identity : Identity} {source : RecordSource}
    {arguments : List Handle} {members : Properties} {found : PropertyOutcomes}
    (each : ∀ path handle s o t, C path handle s o t → Replays P D path handle s o t)
    (asked : Returns (asking (P.propertiesOf source arguments)) (s.openObject name identity)
      members t)
    (walked : Walk C path name members {} t found u) (resumes : Resumes P s u z) :
    ∃ v z', Returns (asking (P.propertiesOf source arguments)) (z.openObject name identity)
        members v ∧ Walk D path name members {} v found z' ∧
      z'.registry.objects = u.registry.objects ∧ z'.registry.scalars = z.registry.scalars ∧
      z.check.Grows P z'.check := by
  obtain ⟨scalars, check⟩ := walked.grown each
  have open_ : Resumes P (s.openObject name identity) u (z.openObject name identity) := by
    refine ⟨?_, resumes.scalars, resumes.check⟩
    change Pairs.put z.registry.objects name _ = Pairs.put s.registry.objects name _
    rw [resumes.objects]
  obtain ⟨v, again, first⟩ := Resumes.asked
    (Program.settles_propertiesOf .any source fun _ _ => trivial) asked
    (open_.earlier scalars check)
  obtain ⟨z', rest, second⟩ := walked.replays each (open_.next first)
  have whole := first.trans second
  exact ⟨v, z', again, rest, whole.objects, whole.scalars, whole.check⟩

theorem Step.replays
    (each : ∀ path handle s o t, C path handle s o t → Replays P D path handle s o t)
    (step : Step P C path handle s o t) (resumes : Resumes P s t z) :
    ∃ z', Step P D path handle z o z' ∧ Retraces P t z z' := by
  have stay {s : DerivationState} (resumes : Resumes P s s z) : Retraces P s z z :=
    ⟨resumes.objects, rfl, .refl _⟩
  cases step with
  | unsupported inexpressible shown => exact ⟨z, .unsupported inexpressible shown, stay resumes⟩
  | @scalar _ name _ named =>
    refine ⟨_, .scalar named, ?_⟩
    rw [Registry.addScalar_of_mem (resumes.scalars (Registry.mem_addScalar _ name))]
    exact ⟨resumes.objects.trans (Registry.objects_addScalar _ _).symm, rfl, .refl _⟩
  | list derived =>
    obtain ⟨z', again, retraced⟩ := (each _ _ _ _ _ derived).again z resumes
    exact ⟨z', .list again, retraced⟩
  | listFailed failed =>
    obtain ⟨z', again, retraced⟩ := (each _ _ _ _ _ failed).again z resumes
    exact ⟨z', .listFailed again, retraced⟩
  | nullable split derived flat =>
    obtain ⟨z', again, retraced⟩ := (each _ _ _ _ _ derived).again z resumes
    exact ⟨z', .nullable split again flat, retraced⟩
  | nullableFailed split failed =>
    obtain ⟨z', again, retraced⟩ := (each _ _ _ _ _ failed).again z resumes
    exact ⟨z', .nullableFailed split again, retraced⟩
  | outside record named => exact ⟨z, .outside record named, stay resumes⟩
  | known record named found same =>
    exact ⟨z, .known record named ((resumes.object? _).trans found) same, stay resumes⟩
  | conflict record named found other shown =>
    exact ⟨z, .conflict record named ((resumes.object? _).trans found) other shown, stay resumes⟩
  | @registered _ _ _ name _ found _ _ u record named fresh asked walked clean =>
    have inside : Resumes P s u z := ⟨resumes.objects, resumes.scalars, resumes.check⟩
    obtain ⟨v, z', again, rest, objects, scalars, check⟩ := inside.opened each asked walked
    refine ⟨_, .registered record named ((resumes.object? _).trans fresh) again rest clean, ?_,
      scalars, check⟩
    change Pairs.put z'.registry.objects name _ = Pairs.put u.registry.objects name _
    rw [objects]
  | @evicted _ _ _ _ _ _ _ _ u record named fresh asked walked failed =>
    have inside : Resumes P s u z := ⟨resumes.objects, resumes.scalars, resumes.check⟩
    obtain ⟨v, z', again, rest, objects, scalars, check⟩ := inside.opened each asked walked
    refine ⟨_, .evicted record named ((resumes.object? _).trans fresh) again rest failed, ?_,
      scalars, check⟩
    unfold DerivationState.evictAfter Registry.keepObjects Registry.objectNames
    simp only [objects, resumes.objects]

theorem Step.grown {depth : Int}
    (each : ∀ path handle s o t, C path handle s o t →
      Returns (deriveType P depth path handle) s o t)
    (step : Step P C path handle s o t) :
    s.registry.scalars ⊆ t.registry.scalars ∧ s.check.Grows P t.check := by
  have framed := step.framed fun _ _ _ _ _ derived => framed_of_returns (each _ _ _ _ _ derived)
  have pictured := step.pictured fun path handle s o t derived =>
    have returned := each path handle s o t derived
    ⟨framed_of_returns returned, fun _ failed => errors_ne_nil (failed ▸ returned),
      pictured_of_returns returned⟩
  exact ⟨framed.extends.scalars.subset, pictured.grown⟩

end

theorem replays_of_returns {P : Program} {depth : Int} {path : TypePath} {handle : Handle}
    {s t : DerivationState} {o : Outcome}
    (returned : Returns (deriveType P depth path handle) s o t) :
    Replays P (fun path handle => Returns (deriveType P depth path handle)) path handle s o t := by
  have framed := framed_of_returns returned
  have grown := (pictured_of_returns returned).grown
  refine ⟨framed, grown, ?_⟩
  refine deriveType_induct (M := fun depth path handle s o t => ∀ z, Resumes P s t z →
    ∃ z', Returns (deriveType P depth path handle) z o z' ∧ Retraces P t z z') ?_ returned
  intro depth path handle shown s u o t within seen step z resumes
  have settled : Settles P (P.apparent handle) fun _ => True :=
    Program.settles_apparent .any trivial fun _ _ => trivial
  obtain ⟨scalars, later⟩ := step.grown fun _ _ _ _ _ derived => derived.1
  obtain ⟨v, again, first⟩ := Resumes.asked settled seen (resumes.earlier scalars later)
  obtain ⟨z', repeated, second⟩ := step.replays (fun _ _ _ _ _ derived =>
    ⟨framed_of_returns derived.1, (pictured_of_returns derived.1).grown, derived.2⟩)
    (resumes.next first)
  exact ⟨z', (returns_deriveType_iff ..).mpr ⟨shown, v, again, within, repeated⟩,
    first.trans second⟩

theorem found_of_returns {P : Program} {depth : Int} {path : TypePath} {handle : Handle}
    {s t z : DerivationState} {type : TypeDef} {warnings : List String}
    (returned : Returns (deriveType P depth path handle) s (.type type warnings) t)
    (resumes : Resumes P t t z) :
    ∃ fewer z', Returns (deriveType P depth path handle) z (.type type fewer) z' ∧
      z'.registry = z.registry := by
  refine deriveType_induct (M := fun depth path handle _ o t => ∀ type warnings,
    o = .type type warnings → ∀ z, Resumes P t t z →
    ∃ fewer z', Returns (deriveType P depth path handle) z (.type type fewer) z' ∧
      z'.registry = z.registry) ?_ returned type warnings rfl z resumes
  intro depth path handle shown s u o t within seen step type warnings same z resumes
  obtain rfl := same
  have settled : Settles P (P.apparent handle) fun _ => True :=
    Program.settles_apparent .any trivial fun _ _ => trivial
  obtain ⟨_, later⟩ := step.grown fun _ _ _ _ _ derived => derived.1
  obtain ⟨_, _, answers⟩ := asked_settled settled seen
  obtain ⟨d, answered⟩ := answers z.check (later.trans resumes.check)
  have again := (returns_asking_iff ..).mpr ⟨d, answered, rfl⟩
  have grown := (asked_settled settled again).2.1
  have after : Resumes P t t { z with check := d } :=
    ⟨resumes.objects, resumes.scalars, resumes.check.trans grown⟩
  suffices found : ∃ fewer z', Step P
      (fun path handle => Returns (deriveType P (depth + 1) path handle)) path shown
      { z with check := d } (.type type fewer) z' ∧ z'.registry = z.registry by
    obtain ⟨fewer, z', found, same⟩ := found
    exact ⟨fewer, z', (returns_deriveType_iff ..).mpr ⟨shown, _, again, within, found⟩, same⟩
  cases step with
  | scalar named =>
    refine ⟨_, _, .scalar named, ?_⟩
    exact Registry.addScalar_of_mem (resumes.scalars (Registry.mem_addScalar _ _))
  | list derived =>
    obtain ⟨fewer, z', found, same⟩ := derived.2 _ _ rfl _ after
    exact ⟨fewer, z', .list found, same⟩
  | nullable split derived flat =>
    obtain ⟨fewer, z', found, same⟩ := derived.2 _ _ rfl _ after
    exact ⟨fewer, z', .nullable split found flat, same⟩
  | known record named found same =>
    exact ⟨_, _, .known record named ((after.object? _).trans found) same, rfl⟩
  | registered record named fresh asked walked clean =>
    exact ⟨_, _, .known record named
      ((after.object? _).trans (Registry.object?_putObject ..)) rfl, rfl⟩

/-- Repeating a derivation changes nothing: it comes to the same type, or to the same errors, and
leaves the registry as it is. -/
theorem deriveType_repeats (P : Program) (depth : Int) (path : TypePath) (handle : Handle)
    (s t : DerivationState) (o : Outcome)
    (returned : Returns (deriveType P depth path handle) s o t) :
    ∃ o' t', Returns (deriveType P depth path handle) t o' t' ∧ t'.registry = t.registry ∧
      (∀ type warnings, o = .type type warnings → ∃ fewer, o' = .type type fewer) ∧
      ∀ errors, o = .errors errors → o' = .errors errors := by
  cases o with
  | type type warnings =>
    obtain ⟨fewer, t', again, same⟩ :=
      found_of_returns returned ⟨rfl, List.Subset.refl _, .refl _⟩
    refine ⟨_, t', again, same, ?_, nofun⟩
    intro _ _ found
    cases found
    exact ⟨fewer, rfl⟩
  | errors errors =>
    have replays := replays_of_returns returned
    obtain ⟨t', again, retraced⟩ :=
      replays.again t ⟨replays.framed.1, List.Subset.refl _, .refl _⟩
    refine ⟨_, t', again, ?_, nofun, fun _ => id⟩
    obtain ⟨objects, scalars, _⟩ := retraced
    cases h : t'.registry
    cases k : t.registry
    simp_all

def leavesThenBranch : DerivationM (Outcome × Outcome) := do
  let resolve name := asking (partlyExpressible.resolve partlyExpressible.entry []
    (some (.name ⟨5, 10⟩ name)))
  let leaf ← resolve "Leaf"
  let branch ← resolve "Branch"
  let found ← deriveType partlyExpressible 0 [.result "leaves"] (.list "list" leaf)
  let failed ← deriveType partlyExpressible 0 [.result "branch"] branch
  return (found, failed)

theorem deriveType_repeats_leavesThenBranch :
    ∃ leaf branch s t u, ∃ type : TypeDef, ∃ errors,
      Returns (deriveType partlyExpressible 0 [.result "leaves"] (.list "list" leaf)) s
        (.type type []) t ∧
      Returns (deriveType partlyExpressible 0 [.result "branch"] branch) t (.errors errors) u ∧
      (∃ fewer t', Returns (deriveType partlyExpressible 0 [.result "leaves"] (.list "list" leaf)) t
        (.type type fewer) t' ∧ t'.registry = t.registry) ∧
      ∃ u', Returns (deriveType partlyExpressible 0 [.result "branch"] branch) u
        (.errors errors) u' ∧ u'.registry = u.registry := by
  have whole : (runFrom leavesThenBranch { check := .start partlyExpressible }).1 =
      .ok (.type (.array (.named "Leaf" .object)) [], .errors
        ["The type 'Any' is not supported, but it was encountered in " ++
          "function 'branch' return value, type 'Branch' property 'rest'"]) := by decide +kernel
  have returned := returns_of_ok whole
  unfold leavesThenBranch at returned
  simp only [returns_bind_iff, returns_pure_iff, Prod.mk.injEq] at returned
  obtain ⟨leaf, _, _, branch, s, _, _, t, found, _, u, failed, ⟨rfl, rfl⟩, _⟩ := returned
  obtain ⟨_, t', again, same, kind, _⟩ := deriveType_repeats _ _ _ _ _ _ _ found
  obtain ⟨fewer, rfl⟩ := kind _ _ rfl
  obtain ⟨_, u', failedAgain, unchanged, _, reasons⟩ := deriveType_repeats _ _ _ _ _ _ _ failed
  obtain rfl := reasons _ rfl
  exact ⟨leaf, branch, s, t, u, _, _, found, failed, ⟨fewer, t', again, same⟩, u', failedAgain,
    unchanged⟩

end Derivation

end HintSchema

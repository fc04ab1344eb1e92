import HintSchema.Proofs.Derivation.Confined
import HintSchema.Proofs.Derivation.Identified
import HintSchema.Proofs.Hints.Inquiry

/-!
One context in its use: questions about a program's hints, and derivations for handles that have
come up. Deriving the functions of a module is such a use (`context_of_deriveUnchecked`).
-/

namespace HintSchema

namespace Derivation

/-- What has been done in one context: the handles that have come up in it, and the calls for types
that have returned, the last one first. At first nothing is known of classes. -/
inductive Context (P : Program) : List Handle → List Call → DerivationState → Prop
  | start {c : CheckState} (blank : c.records = []) : Context P [] [] { check := c }
  | asked {handles new : List Handle} {calls : List Call} {s : DerivationState} {d : CheckState}
      (context : Context P handles calls s) (asks : P.Asks handles s.check new d) :
      Context P (new ++ handles) calls { s with check := d }
  | derived {handles : List Handle} {calls : List Call} {s t : DerivationState} {depth : Int}
      {path : TypePath} {handle : Handle} {o : Outcome} (context : Context P handles calls s)
      (known : handle ∈ handles) (returned : Returns (deriveType P depth path handle) s o t) :
      Context P handles (⟨path, handle, o⟩ :: calls) t

variable {P : Program} {handles : List Handle} {calls : List Call} {s t : DerivationState}

theorem Context.sound (placed : P.Placed) (clean : P.NoQuotedRecord)
    (context : Context P handles calls t) :
    t.check.Genuine P ∧ (∀ h ∈ handles, Sourced P t.check h) ∧
      ∀ call ∈ calls, call.handle ∈ handles := by
  induction context with
  | start blank =>
    exact ⟨CheckState.genuine_of_blank blank, List.forall_mem_nil _, List.forall_mem_nil _⟩
  | asked _ asks ih =>
    obtain ⟨genuine, sourced, called⟩ := ih
    obtain ⟨grown, kept, new⟩ := asks.sound placed clean genuine sourced
    exact ⟨kept, List.forall_mem_append.mpr ⟨new, fun h member => (sourced h member).later grown⟩,
      fun call member => List.mem_append_right _ (called call member)⟩
  | derived _ known returned ih =>
    obtain ⟨genuine, sourced, called⟩ := ih
    have grown := (pictured_of_returns returned).grown
    exact ⟨genuine_of_returns returned genuine, fun h member => (sourced h member).later grown,
      List.forall_mem_cons.mpr ⟨known, called⟩⟩

theorem Context.pass (context : Context P handles calls t) : Pass P calls [] t := by
  induction context with
  | start => exact .start _
  | derived _ _ returned ih => exact ih.derived returned
  | asked _ asks ih =>
    have asking_of {α : Type} {question : CheckM α} {c d : CheckState} {a : α} {r : Registry}
        (answered : Returns question c a d) :
        Returns (asking question) (⟨c, r⟩ : DerivationState) a ⟨d, r⟩ :=
      (returns_asking_iff ..).mpr ⟨d, answered, rfl⟩
    cases asks with
    | hint _ _ answered =>
      exact ih.asked (Program.settles_resolve .any _ (fun _ _ => trivial) _) (asking_of answered)
    | signature _ answered => exact ih.asked (settles_anySignature P _) (asking_of answered)
    | apparent _ answered =>
      exact ih.asked (Program.settles_apparent .any trivial fun _ _ => trivial) (asking_of answered)
    | properties _ answered =>
      exact ih.asked (Program.settles_propertiesOf .any _ fun _ _ => trivial) (asking_of answered)
    | parts => exact ih

theorem Context.function (context : Context P handles calls s) {file : Path} {f : Function}
    (exported : f ∈ (P.source file).exportedFunctions) {o : FunctionOutcome}
    (returned : Returns (deriveFunction P f) s o t) :
    ∃ handles' calls', Context P handles' calls' t := by
  replace returned := (returns_deriveFunction_iff.mp returned).2
  unfold deriveNamed at returned
  simp only [returns_bind_iff] at returned
  obtain ⟨signature, _, asked, _, v, looped, outcome, w, derived, rest⟩ := returned
  obtain ⟨d, answered, rfl⟩ := (returns_asking_iff ..).mp asked
  have begun := context.asked (.signature exported answered)
  have ⟨calls', walked⟩ := looped.foldlM_keeps
    (fun _ v => ∃ calls', Context P
      ((signature.result :: signature.parameters.map (·.handle)) ++ handles) calls' v) ?_
    ⟨calls, begun⟩
  · have ended : t = w := by cases outcome <;> exact ((returns_pure_iff _ _).mp rest).2
    exact ⟨_, _, ended ▸ walked.derived (by simp) derived⟩
  · intro parameter declared _ _ _ _ ⟨calls', before⟩ returned
    unfold afterParameter at returned
    split at returned
    · obtain ⟨_, rfl⟩ := (returns_pure_iff _ _).mp returned
      exact ⟨calls', before⟩
    · obtain ⟨outcome, v, derived, rest⟩ := (returns_bind_iff ..).mp returned
      have known : parameter.handle ∈
          (signature.result :: signature.parameters.map (·.handle)) ++ handles := by
        simp only [List.cons_append, List.mem_cons, List.mem_append, List.mem_map]
        exact .inr (.inl ⟨parameter, declared, rfl⟩)
      have next := before.derived known derived
      cases outcome <;> (obtain ⟨_, rfl⟩ := (returns_pure_iff _ _).mp rest; exact ⟨_, next⟩)

theorem Context.mapM (context : Context P handles calls s) {file : Path}
    {functions : List Function} {outcomes : List FunctionOutcome}
    (exported : ∀ f ∈ functions, f ∈ (P.source file).exportedFunctions)
    (returned : Returns (functions.mapM (deriveFunction P)) s outcomes t) :
    ∃ handles' calls', Context P handles' calls' t := by
  induction functions generalizing handles calls s outcomes with
  | nil =>
    obtain ⟨_, rfl⟩ := (returns_pure_iff _ _).mp returned
    exact ⟨_, _, context⟩
  | cons f rest ih =>
    obtain ⟨first, others⟩ := List.forall_mem_cons.mp exported
    obtain ⟨_, v, _, derived, later, rfl⟩ := (returns_mapM_cons_iff ..).mp returned
    obtain ⟨_, _, next⟩ := context.function first derived
    exact ih next others later

/-- Deriving the schema of a file uses one context. -/
theorem context_of_deriveUnchecked {c : CheckState} (blank : c.records = [])
    {outcome : SchemaOutcome} (returned : Returns (deriveUnchecked P) { check := c } outcome t) :
    ∃ handles calls, Context P handles calls t := by
  unfold deriveUnchecked deriveFunctions at returned
  simp only [returns_bind_iff, returns_get_iff, returns_pure_iff] at returned
  obtain ⟨_, _, derived, _, _, ⟨rfl, rfl⟩, _, rfl⟩ := returned
  exact (Context.start blank).mapM (fun _ => id) derived

end Derivation

end HintSchema

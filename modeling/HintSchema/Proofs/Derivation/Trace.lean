import HintSchema.Derivation.Module
import HintSchema.Proofs.Derivation.Frame
import HintSchema.Proofs.Hints.Formation

/-!
Derivations as the calls they make. The schema of a function, and that of a file, come from calls
for types that return one after the other (`trace_of_deriveFunction`, `trace_of_deriveUnchecked`).
-/

namespace HintSchema

open Schema

namespace Derivation

/-- A call for a type, and what it came to. -/
structure Call where
  path : TypePath
  handle : Handle
  outcome : Outcome

/-- Calls that return one after the other. Between them more may become known of classes. -/
inductive Trace (P : Program) : DerivationState → List Call → DerivationState → Prop
  | done (s : DerivationState) : Trace P s [] s
  | asked {s u : DerivationState} {c : CheckState} {calls : List Call}
      (grown : s.check.Grows P c) (later : Trace P { s with check := c } calls u) :
      Trace P s calls u
  | derived {depth : Int} {path : TypePath} {handle : Handle} {o : Outcome}
      {s t u : DerivationState} {calls : List Call}
      (returned : Returns (deriveType P depth path handle) s o t) (later : Trace P t calls u) :
      Trace P s (⟨path, handle, o⟩ :: calls) u

variable {P : Program} {s t u : DerivationState} {calls more : List Call}

namespace Trace

theorem trans (first : Trace P s calls t) (second : Trace P t more u) :
    Trace P s (calls ++ more) u := by
  induction first with
  | done => exact second
  | asked grown _ ih => exact .asked grown (ih second)
  | derived returned _ ih => exact .derived returned (ih second)

theorem of_call {depth : Int} {path : TypePath} {handle : Handle} {o : Outcome}
    (returned : Returns (deriveType P depth path handle) s o t) :
    Trace P s [⟨path, handle, o⟩] t :=
  .derived returned (.done t)

theorem of_asking {α : Type} {question : CheckM α} {R : α → Prop} {a : α}
    (settled : Settles P question R) (asked : Returns (asking question) s a t) :
    Trace P s [] t := by
  have grown := (asked_settled settled asked).2.1
  obtain ⟨c, _, rfl⟩ := (returns_asking_iff ..).mp asked
  exact .asked grown (.done _)

end Trace

def ArgumentOf (function : String) (parameters : List TypedParameter) (calls : List Call)
    (a : Argument) : Prop :=
  ∃ p ∈ parameters, p.name = a.name ∧
    ∃ warnings, ⟨[.parameter function p.name], p.handle, .type a.type warnings⟩ ∈ calls

theorem ArgumentOf.mono {function : String} {parameters : List TypedParameter} {a : Argument}
    (argument : ArgumentOf function parameters calls a) (subset : calls ⊆ more) :
    ArgumentOf function parameters more a := by
  obtain ⟨p, member, same, warnings, called⟩ := argument
  exact ⟨p, member, same, warnings, subset called⟩

def ParameterCall (function : String) (parameters : List TypedParameter) (call : Call) : Prop :=
  ∃ p ∈ parameters, call.path = [.parameter function p.name] ∧ call.handle = p.handle

/-- The call is for the type of a parameter or for that of the result. -/
def SignatureCall (function : String) (signature : Signature) (call : Call) : Prop :=
  ParameterCall function signature.parameters call ∨
    call.path = [.result function] ∧ call.handle = signature.result

theorem trace_of_afterParameter {function : String} {docs : List (String × String)}
    {parameters : List TypedParameter} {parameter : TypedParameter}
    (declared : parameter ∈ parameters) {o o' : SignatureOutcome}
    (returned : Returns (afterParameter P function docs o parameter) s o' t)
    (before : Trace P u calls s) (made : ∀ call ∈ calls, ParameterCall function parameters call)
    (arguments : ∀ a ∈ o.arguments, ArgumentOf function parameters calls a) :
    ∃ more, Trace P u more t ∧ (∀ call ∈ more, ParameterCall function parameters call) ∧
      ∀ a ∈ o'.arguments, ArgumentOf function parameters more a := by
  unfold afterParameter at returned
  split at returned
  · obtain ⟨rfl, rfl⟩ := (returns_pure_iff _ _).mp returned
    exact ⟨calls, before, made, arguments⟩
  · obtain ⟨outcome, v, derived, rest⟩ := (returns_bind_iff ..).mp returned
    have traced := before.trans (.of_call derived)
    have kept := fun a member => (arguments a member).mono (List.subset_append_left calls
      [⟨[.parameter function parameter.name], parameter.handle, outcome⟩])
    have made : ∀ call ∈ calls ++ [⟨[.parameter function parameter.name], parameter.handle,
        outcome⟩], ParameterCall function parameters call :=
      List.forall_mem_append.mpr
        ⟨made, List.forall_mem_singleton.mpr ⟨parameter, declared, rfl, rfl⟩⟩
    cases outcome with
    | errors =>
      obtain ⟨rfl, rfl⟩ := (returns_pure_iff _ _).mp rest
      exact ⟨_, traced, made, kept⟩
    | type type warnings =>
      obtain ⟨rfl, rfl⟩ := (returns_pure_iff _ _).mp rest
      refine ⟨_, traced, made, ?_⟩
      intro a member
      rcases List.mem_append.mp member with old | new
      · exact kept a old
      · cases List.mem_singleton.mp new
        exact ⟨parameter, declared, rfl, warnings, List.mem_append_right _ List.mem_cons_self⟩

/-- A function's entry is made of the types that calls for its parameters and its result gave. -/
theorem trace_of_deriveFunction {f : Function} {o : FunctionOutcome}
    (returned : Returns (deriveFunction P f) s o t) :
    ∃ signature u calls, Returns (asking (P.signature f)) s signature u ∧ Trace P u calls t ∧
      (∀ call ∈ calls, SignatureCall f.name signature call) ∧ ∀ entry, o.entry = some entry →
        (∃ warnings, ⟨[.result f.name], signature.result, .type entry.result warnings⟩ ∈ calls) ∧
        ∀ a ∈ entry.arguments, ArgumentOf f.name signature.parameters calls a := by
  replace returned := (returns_deriveFunction_iff.mp returned).2
  unfold deriveNamed at returned
  simp only [returns_bind_iff] at returned
  obtain ⟨signature, u, asked, o', v, looped, outcome, w, derived, rest⟩ := returned
  have ⟨calls, traced, made, arguments⟩ := looped.foldlM_keeps
    (fun o v => ∃ calls, Trace P u calls v ∧
      (∀ call ∈ calls, ParameterCall f.name signature.parameters call) ∧
      ∀ a ∈ o.arguments, ArgumentOf f.name signature.parameters calls a)
    (fun _ declared _ _ _ _ ⟨_, before, made, arguments⟩ returned =>
      trace_of_afterParameter declared returned before made arguments)
    ⟨[], .done u, List.forall_mem_nil _, List.forall_mem_nil _⟩
  have ended : t = w := by cases outcome <;> exact ((returns_pure_iff _ _).mp rest).2
  obtain rfl := ended
  refine ⟨signature, u, calls ++ [⟨[.result f.name], signature.result, outcome⟩], asked,
    traced.trans (.of_call derived), ?_, ?_⟩
  · exact List.forall_mem_append.mpr ⟨fun call member => .inl (made call member),
      List.forall_mem_singleton.mpr (.inr ⟨rfl, rfl⟩)⟩
  · intro entry registered
    cases outcome with
    | errors =>
      obtain ⟨rfl, _⟩ := (returns_pure_iff _ _).mp rest
      cases registered
    | type result warnings =>
      obtain ⟨rfl, _⟩ := (returns_pure_iff _ _).mp rest
      split at registered
      · cases registered
      · cases registered
        refine ⟨⟨warnings, List.mem_append_right _ List.mem_cons_self⟩, ?_⟩
        intro a member
        exact (arguments a member).mono (List.subset_append_left _ _)

theorem settles_anySignature (P : Program) (f : Function) :
    Settles P (P.signature f) fun _ => True := by
  intro c signature d answered
  obtain ⟨_, settled⟩ := Program.settles_signature .any f c signature d answered
  exact ⟨trivial, settled⟩

theorem trace_of_mapM_deriveFunction {functions : List Function} {outcomes : List FunctionOutcome}
    (returned : Returns (functions.mapM (deriveFunction P)) s outcomes t) :
    ∃ calls, Trace P s calls t := by
  induction functions generalizing s outcomes with
  | nil =>
    obtain ⟨rfl, rfl⟩ := (returns_pure_iff _ _).mp returned
    exact ⟨[], .done t⟩
  | cons f rest ih =>
    obtain ⟨o, v, later, first, remaining, rfl⟩ := (returns_mapM_cons_iff ..).mp returned
    obtain ⟨signature, w, calls, asked, traced, _, _⟩ := trace_of_deriveFunction first
    obtain ⟨more, final⟩ := ih remaining
    exact ⟨_, (Trace.of_asking (settles_anySignature P f) asked).trans (traced.trans final)⟩

/-- The schema of a file holds what its functions' calls leave in the registry. -/
theorem trace_of_deriveUnchecked {outcome : SchemaOutcome}
    (returned : Returns (deriveUnchecked P) s outcome t) :
    ∃ calls, Trace P s calls t ∧ outcome.schema.objectTypes = t.registry.objectTypes ∧
      outcome.schema.scalarTypes = t.registry.scalars := by
  unfold deriveUnchecked deriveFunctions at returned
  simp only [returns_bind_iff, returns_get_iff, returns_pure_iff] at returned
  obtain ⟨outcomes, u, derived, _, _, ⟨rfl, rfl⟩, rfl, rfl⟩ := returned
  obtain ⟨calls, traced⟩ := trace_of_mapM_deriveFunction derived
  exact ⟨calls, traced, rfl, rfl⟩

end Derivation

end HintSchema

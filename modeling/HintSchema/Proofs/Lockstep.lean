import Mathlib.Data.List.Forall2
import HintSchema.Proofs.Returns

/-!
Computations in lockstep: from every state they give related answers, or stop with one fault, and
leave one state behind.
-/

namespace HintSchema

variable {ε σ α β γ δ : Type}

def Lockstep (R : α → β → Prop) (first : ExceptT ε (StateM σ) α) (second : ExceptT ε (StateM σ) β) :
    Prop :=
  ∀ s, (∃ a b t, Returns first s a t ∧ Returns second s b t ∧ R a b) ∨
    ∃ e t, Raises first s e t ∧ Raises second s e t

namespace Lockstep

variable {R : α → β → Prop} {S : γ → δ → Prop} {first : ExceptT ε (StateM σ) α}
  {second : ExceptT ε (StateM σ) β}

theorem pure {a : α} {b : β} (related : R a b) :
    Lockstep R (pure a : ExceptT ε (StateM σ) α) (pure b) :=
  fun _ => .inl ⟨a, b, _, rfl, rfl, related⟩

theorem throw (e : ε) :
    Lockstep R (throw e : ExceptT ε (StateM σ) α) (throw e : ExceptT ε (StateM σ) β) :=
  fun _ => .inr ⟨e, _, rfl, rfl⟩

theorem self (question : ExceptT ε (StateM σ) α) :
    Lockstep (fun a b => a = b ∧ ∃ s t, Returns question s a t) question question := by
  intro s
  cases ran : runFrom question s with
  | mk answer t =>
    cases answer with
    | ok a => exact .inl ⟨a, a, t, ran, ran, rfl, s, t, ran⟩
    | error e => exact .inr ⟨e, t, ran, ran⟩

theorem mono {Q : α → β → Prop} (lockstep : Lockstep R first second)
    (weaker : ∀ a b, R a b → Q a b) : Lockstep Q first second := by
  intro s
  rcases lockstep s with ⟨a, b, t, one, other, related⟩ | raised
  · exact .inl ⟨a, b, t, one, other, weaker a b related⟩
  · exact .inr raised

theorem symm (lockstep : Lockstep R first second) :
    Lockstep (fun b a => R a b) second first := by
  intro s
  rcases lockstep s with ⟨a, b, t, one, other, related⟩ | ⟨e, t, one, other⟩
  · exact .inl ⟨b, a, t, other, one, related⟩
  · exact .inr ⟨e, t, other, one⟩

theorem trans {third : ExceptT ε (StateM σ) γ} {Q : β → γ → Prop}
    (lockstep : Lockstep R first second) (next : Lockstep Q second third) :
    Lockstep (fun a c => ∃ b, R a b ∧ Q b c) first third := by
  intro s
  rcases lockstep s with ⟨a, b, t, one, other, related⟩ | ⟨e, t, one, other⟩
  · rcases next s with ⟨b', c, t', other', last, further⟩ | ⟨e, t', raised, _⟩
    · obtain ⟨rfl, rfl⟩ := other.unique other'
      exact .inl ⟨a, c, t, one, last, b, related, further⟩
    · cases other.symm.trans raised
  · rcases next s with ⟨b', c, t', returned, _, _⟩ | ⟨e', t', other', last⟩
    · cases other.symm.trans returned
    · cases other.symm.trans other'
      exact .inr ⟨e, t, one, last⟩

theorem bind {next : α → ExceptT ε (StateM σ) γ} {next' : β → ExceptT ε (StateM σ) δ}
    (lockstep : Lockstep R first second) (later : ∀ a b, R a b → Lockstep S (next a) (next' b)) :
    Lockstep S (first >>= next) (second >>= next') := by
  intro s
  rcases lockstep s with ⟨a, b, t, one, other, related⟩ | ⟨e, t, one, other⟩
  · rcases later a b related t with ⟨c, d, u, rest, rest', result⟩ | ⟨e, u, rest, rest'⟩
    · exact .inl ⟨c, d, u, (returns_bind_iff ..).mpr ⟨a, t, one, rest⟩,
        (returns_bind_iff ..).mpr ⟨b, t, other, rest'⟩, result⟩
    · exact .inr ⟨e, u, (raises_bind_iff ..).mpr (.inr ⟨a, t, one, rest⟩),
        (raises_bind_iff ..).mpr (.inr ⟨b, t, other, rest'⟩)⟩
  · exact .inr ⟨e, t, (raises_bind_iff ..).mpr (.inl one), (raises_bind_iff ..).mpr (.inl other)⟩

theorem map {f : α → γ} {g : β → δ} (lockstep : Lockstep (fun a b => S (f a) (g b)) first second) :
    Lockstep S (f <$> first) (g <$> second) := by
  rw [map_eq_pure_bind, map_eq_pure_bind]
  exact lockstep.bind fun _ _ related => .pure related

theorem mapM {ι κ : Type} {f : ι → ExceptT ε (StateM σ) γ} {g : κ → ExceptT ε (StateM σ) δ}
    {items : List ι} {others : List κ}
    (each : List.Forall₂ (fun i j => Lockstep S (f i) (g j)) items others) :
    Lockstep (List.Forall₂ S) (items.mapM f) (others.mapM g) := by
  induction each with
  | nil => exact .pure .nil
  | cons one _ ih =>
    rw [List.mapM_cons, List.mapM_cons]
    apply one.bind
    intro _ _ related
    apply ih.bind
    intro _ _ rest
    exact .pure (.cons related rest)

theorem bind_eq {next : α → ExceptT ε (StateM σ) γ} {next' : β → ExceptT ε (StateM σ) γ}
    (lockstep : Lockstep R first second) (later : ∀ a b, R a b → next a = next' b) :
    first >>= next = second >>= next' := by
  funext s
  change runFrom (first >>= next) s = runFrom (second >>= next') s
  rw [runFrom_bind, runFrom_bind]
  rcases lockstep s with ⟨a, b, t, one, other, related⟩ | ⟨e, t, one, other⟩
  · rw [show runFrom first s = _ from one, show runFrom second s = _ from other]
    exact congrArg (runFrom · t) (later a b related)
  · rw [show runFrom first s = _ from one, show runFrom second s = _ from other]

theorem map_eq {f : α → γ} {g : β → γ} (lockstep : Lockstep (fun a b => f a = g b) first second) :
    f <$> first = g <$> second := by
  rw [map_eq_pure_bind, map_eq_pure_bind]
  exact lockstep.bind_eq fun _ _ same => congrArg Pure.pure same

end Lockstep

end HintSchema

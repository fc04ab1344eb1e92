import HintSchema.Proofs.Hints.Kin

/-!
Questions that agree: put on handles of one identity, at any two times, the same question has
answers of one identity. The answers are compared where all that either question has learnt of
classes is known.
-/

namespace HintSchema

/-- From the state before a question to the one after it no knowledge of classes is lost. -/
def Moves {α : Type} (P : Program) (question : CheckM α) : Prop :=
  ∀ c a d, Returns question c a d → c.Grows P d

theorem Settles.moves {P : Program} {α : Type} {question : CheckM α} {R : α → Prop}
    (settled : Settles P question R) : Moves P question :=
  fun c a d answered => (settled c a d answered).2.1

namespace Moves

variable {P : Program} {α β : Type}

theorem pure (a : α) : Moves P (pure a) := (Settles.pure (R := fun _ => True) trivial).moves

theorem bind {question : CheckM α} {next : α → CheckM β} (first : Moves P question)
    (second : ∀ a, Moves P (next a)) : Moves P (question >>= next) := by
  intro c b d answered
  obtain ⟨a, m, asked, later⟩ := (returns_bind_iff _ _ _).mp answered
  exact (first c a m asked).trans (second a m b d later)

theorem mapM {f : α → CheckM β} {items : List α} (each : ∀ item ∈ items, Moves P (f item)) :
    Moves P (items.mapM f) := by
  induction items with
  | nil => exact .pure []
  | cons item rest ih =>
    rw [List.mapM_cons]
    apply (each item List.mem_cons_self).bind
    intro b
    exact (ih fun item member => each item (List.mem_cons_of_mem _ member)).bind fun _ => .pure _

theorem foldlM {f : β → α → CheckM β} {items : List α} (each : ∀ item b, Moves P (f b item))
    (b : β) : Moves P (items.foldlM f b) := by
  induction items generalizing b with
  | nil => exact .pure b
  | cons item rest ih =>
    rw [List.foldlM_cons]
    exact (each item b).bind ih

end Moves

namespace Program

variable (P : Program)

theorem moves_resolve (file : Path) (scope : TypeVariables) (hint : Option Expr) :
    Moves P (P.resolve file scope hint) :=
  (settles_resolve .any file (fun _ _ => trivial) hint).moves

theorem moves_apparent (handle : Handle) : Moves P (P.apparent handle) :=
  (settles_apparent .any trivial fun _ _ => trivial).moves

theorem moves_propertiesOf (source : RecordSource) (arguments : List Handle) :
    Moves P (P.propertiesOf source arguments) :=
  (settles_propertiesOf .any source fun _ _ => trivial).moves

theorem moves_signature (f : Function) : Moves P (P.signature f) :=
  (settles_signature .any f).moves

end Program

/-- The question has at most one answer, whatever is known, and that satisfies `R`. -/
def Fixed {α : Type} (question : CheckM α) (R : α → Prop) : Prop :=
  ∀ c a d e b f, Returns question c a d → Returns question e b f → a = b ∧ R a

namespace Fixed

variable {α β : Type} {Q : α → Prop} {R : β → Prop}

theorem pure {a : α} (right : Q a) : Fixed (pure a) Q := by
  intro c b d e b' f one other
  obtain ⟨rfl, _⟩ := (returns_pure_iff _ _).mp one
  obtain ⟨rfl, _⟩ := (returns_pure_iff _ _).mp other
  exact ⟨rfl, right⟩

theorem mono {question : CheckM α} {S : α → Prop} (fixed : Fixed question Q)
    (weaker : ∀ a, Q a → S a) : Fixed question S := by
  intro c a d e b f one other
  obtain ⟨same, right⟩ := fixed c a d e b f one other
  exact ⟨same, weaker a right⟩

theorem throw {fault : Fault} : Fixed (throw fault : CheckM α) Q := by
  intro c a d e b f one _
  cases (returns_throw_iff _ _).mp one

theorem bind {question : CheckM α} {next : α → CheckM β} (first : Fixed question Q)
    (second : ∀ a, Q a → Fixed (next a) R) : Fixed (question >>= next) R := by
  intro c a d e b f one other
  obtain ⟨x, m, asked, later⟩ := (returns_bind_iff _ _ _).mp one
  obtain ⟨y, n, asked', later'⟩ := (returns_bind_iff _ _ _).mp other
  obtain ⟨rfl, right⟩ := first _ _ _ _ _ _ asked asked'
  exact second x right _ _ _ _ _ _ later later'

theorem map {question : CheckM α} {f : α → β} (asked : Fixed question fun a => R (f a)) :
    Fixed (f <$> question) R := by
  rw [map_eq_pure_bind]
  exact asked.bind fun a right => .pure right

theorem foldlM {f : β → α → CheckM β} {items : List α} {b : β} (start : R b)
    (each : ∀ item b, R b → Fixed (f b item) R) : Fixed (items.foldlM f b) R := by
  induction items generalizing b with
  | nil => exact .pure start
  | cons item rest ih =>
    rw [List.foldlM_cons]
    exact (each item b start).bind fun _ next => ih next

theorem foldlM_eq {f : β → α → CheckM β} {g : β → α → β} {items : List α} {b : β}
    (each : ∀ b item, Fixed (f b item) (· = g b item)) :
    Fixed (items.foldlM f b) (· = items.foldl g b) := by
  induction items generalizing b with
  | nil => exact .pure rfl
  | cons item rest ih =>
    rw [List.foldlM_cons, List.foldl_cons]
    apply (each b item).bind
    rintro _ rfl
    exact ih

end Fixed

/-- Answers to the two questions are related, once `z` knows all that both have learnt. -/
def Agree (P : Program) (z : CheckState) {α β : Type} (first : CheckM α) (second : CheckM β)
    (R : α → β → Prop) : Prop :=
  ∀ c a d e b f, Returns first c a d → Returns second e b f →
    d.Grows P z → f.Grows P z → R a b

namespace Agree

variable {P : Program} {z : CheckState} {α β γ δ : Type} {S : α → β → Prop} {R : γ → δ → Prop}

theorem pure {a : α} {b : β} (right : S a b) : Agree P z (pure a) (pure b) S := by
  intro c a' d e b' f one other _ _
  obtain ⟨rfl, _⟩ := (returns_pure_iff _ _).mp one
  obtain ⟨rfl, _⟩ := (returns_pure_iff _ _).mp other
  exact right

theorem bind {first : CheckM α} {second : CheckM β} {next : α → CheckM γ} {next' : β → CheckM δ}
    (agree : Agree P z first second S) (moves : ∀ a, Moves P (next a))
    (moves' : ∀ b, Moves P (next' b)) (later : ∀ a b, S a b → Agree P z (next a) (next' b) R) :
    Agree P z (first >>= next) (second >>= next') R := by
  intro c a d e b f one other known known'
  obtain ⟨x, m, asked, rest⟩ := (returns_bind_iff _ _ _).mp one
  obtain ⟨y, n, asked', rest'⟩ := (returns_bind_iff _ _ _).mp other
  have related := agree _ _ _ _ _ _ asked asked' ((moves x _ _ _ rest).trans known)
    ((moves' y _ _ _ rest').trans known')
  exact later x y related _ _ _ _ _ _ rest rest' known known'

theorem bind_fixed {question : CheckM α} {Q : α → Prop} {next : α → CheckM γ} {next' : α → CheckM δ}
    (fixed : Fixed question Q) (later : ∀ a, Q a → Agree P z (next a) (next' a) R) :
    Agree P z (question >>= next) (question >>= next') R := by
  intro c a d e b f one other known known'
  obtain ⟨x, m, asked, rest⟩ := (returns_bind_iff _ _ _).mp one
  obtain ⟨y, n, asked', rest'⟩ := (returns_bind_iff _ _ _).mp other
  obtain ⟨rfl, right⟩ := fixed _ _ _ _ _ _ asked asked'
  exact later x right _ _ _ _ _ _ rest rest' known known'

theorem map {first : CheckM α} {second : CheckM β} {f : α → γ} {g : β → δ}
    (agree : Agree P z first second S) (later : ∀ a b, S a b → R (f a) (g b)) :
    Agree P z (do return f (← first)) (do return g (← second)) R :=
  agree.bind (fun _ => .pure _) (fun _ => .pure _) fun a b related => .pure (later a b related)

theorem mapM {ι κ : Type} {f : ι → CheckM γ} {g : κ → CheckM δ} {items : List ι} {others : List κ}
    (moves : ∀ i ∈ items, Moves P (f i)) (moves' : ∀ j ∈ others, Moves P (g j))
    (each : List.Forall₂ (fun i j => Agree P z (f i) (g j) R) items others) :
    Agree P z (items.mapM f) (others.mapM g) (List.Forall₂ R) := by
  induction each with
  | nil => exact .pure .nil
  | @cons i j items others first _ ih =>
    obtain ⟨_, moves⟩ := List.forall_mem_cons.mp moves
    obtain ⟨_, moves'⟩ := List.forall_mem_cons.mp moves'
    rw [List.mapM_cons, List.mapM_cons]
    refine first.bind (fun a => ?_) (fun b => ?_) fun a b related => ?_
    · exact (Moves.mapM moves).bind fun _ => .pure _
    · exact (Moves.mapM moves').bind fun _ => .pure _
    · exact (ih moves moves').bind (fun _ => .pure _) (fun _ => .pure _)
        fun as bs others => .pure (.cons related others)

theorem mapM_length {ι κ : Type} {f : ι → CheckM γ} {g : κ → CheckM δ} {items : List ι}
    {others : List κ} (moves : ∀ i ∈ items, Moves P (f i)) (moves' : ∀ j ∈ others, Moves P (g j))
    (each : List.Forall₂ (fun i j => Agree P z (f i) (g j) R) items others) :
    Agree P z (items.mapM f) (others.mapM g) fun as bs =>
      List.Forall₂ R as bs ∧ as.length = items.length :=
  fun _ _ _ _ _ _ one other known known' =>
    ⟨mapM moves moves' each _ _ _ _ _ _ one other known known', length_of_returns_mapM one⟩

theorem foldlM {ι : Type} {f : γ → ι → CheckM γ} {g : δ → ι → CheckM δ} {items : List ι} {b : γ}
    {b' : δ} (start : R b b') (moves : ∀ item b, Moves P (f b item))
    (moves' : ∀ item b, Moves P (g b item))
    (each : ∀ item ∈ items, ∀ b b', R b b' → Agree P z (f b item) (g b' item) R) :
    Agree P z (items.foldlM f b) (items.foldlM g b') R := by
  induction items generalizing b b' with
  | nil => exact .pure start
  | cons item rest ih =>
    rw [List.foldlM_cons, List.foldlM_cons]
    exact (each item List.mem_cons_self b b' start).bind (Moves.foldlM moves)
      (Moves.foldlM moves') fun _ _ next =>
        ih next fun item member => each item (List.mem_cons_of_mem _ member)

end Agree

end HintSchema

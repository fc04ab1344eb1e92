import HintSchema.Proofs.Hints.Settled

/-!
Questions with one answer: from any two states of a kind the same answer comes back, if one comes
back at all.
-/

namespace HintSchema

/-- Each answer of the first question, put in a state of the one kind, is given to the second one in
every state of the other kind, and the states stay of their kinds. -/
def Mirrors (I J : CheckState → Prop) {α : Type} (first second : CheckM α) : Prop :=
  ∀ c d, I c → J d → ∀ a c', Returns first c a c' →
    I c' ∧ ∃ d', Returns second d a d' ∧ J d'

/-- The question has the same answer in all states of the kind. -/
def Uniform (I : CheckState → Prop) {α : Type} (question : CheckM α) : Prop :=
  Mirrors I I question question

/-- Which files are open does not decide whether a state is of the kind. -/
def IgnoresFiles (I : CheckState → Prop) : Prop :=
  ∀ c d : CheckState, d.records = c.records → I c → I d

namespace Mirrors

variable {I J : CheckState → Prop} {α β γ : Type}

theorem pure (a : α) : Mirrors I J (pure a) (pure a) := by
  intro c d left right a' c' returned
  obtain ⟨rfl, rfl⟩ := (returns_pure_iff _ _).mp returned
  exact ⟨left, d, (returns_pure_iff _ _).mpr ⟨rfl, rfl⟩, right⟩

theorem throw (fault : Fault) : Mirrors I J (throw fault : CheckM α) (throw fault) := by
  intro c d _ _ a c' returned
  cases (returns_throw_iff _ _).mp returned

theorem bind {first second : CheckM α} {next next' : α → CheckM β}
    (asked : Mirrors I J first second) (later : ∀ a, Mirrors I J (next a) (next' a)) :
    Mirrors I J (first >>= next) (second >>= next') := by
  intro c d left right b c' returned
  obtain ⟨a, m, answered, rest⟩ := (returns_bind_iff _ _ _).mp returned
  obtain ⟨kept, n, answered', kept'⟩ := asked c d left right a m answered
  obtain ⟨final, d', rest', final'⟩ := later a m n kept kept' b c' rest
  exact ⟨final, d', (returns_bind_iff _ _ _).mpr ⟨a, n, answered', rest'⟩, final'⟩

theorem map {first second : CheckM α} (f : α → β) (asked : Mirrors I J first second) :
    Mirrors I J (f <$> first) (f <$> second) := by
  rw [map_eq_pure_bind, map_eq_pure_bind]
  exact asked.bind fun _ => .pure _

theorem mapM {f g : α → CheckM β} {items : List α}
    (each : ∀ item ∈ items, Mirrors I J (f item) (g item)) :
    Mirrors I J (items.mapM f) (items.mapM g) := by
  induction items with
  | nil => exact .pure []
  | cons item rest ih =>
    rw [List.mapM_cons, List.mapM_cons]
    apply (each item List.mem_cons_self).bind
    intro b
    exact (ih fun item member => each item (List.mem_cons_of_mem _ member)).bind fun _ => .pure _

theorem foldlM {f g : β → α → CheckM β} {items : List α}
    (each : ∀ item ∈ items, ∀ b, Mirrors I J (f b item) (g b item)) (b : β) :
    Mirrors I J (items.foldlM f b) (items.foldlM g b) := by
  induction items generalizing b with
  | nil => exact .pure b
  | cons item rest ih =>
    rw [List.foldlM_cons, List.foldlM_cons]
    apply (each item List.mem_cons_self b).bind
    intro next
    exact ih (fun item member => each item (List.mem_cons_of_mem _ member)) next

end Mirrors

namespace Program

variable {P : Program} {I J : CheckState → Prop} {β : Type}

theorem mirrors_openAll (left : IgnoresFiles I) (right : IgnoresFiles J) (paths : List Path) :
    Mirrors I J (modify (·.openAll paths) : CheckM PUnit) (modify (·.openAll paths)) := by
  intro c d held held' a c' returned
  obtain rfl := (returns_modify_iff _ _).mp returned
  exact ⟨left c _ rfl held, d.openAll paths, (returns_modify_iff _ _).mpr rfl,
    right d _ rfl held'⟩

theorem mirrors_find_bind (left : IgnoresFiles I) (right : IgnoresFiles J) (file : Path)
    (expr : Expr) {next next' : Binding → CheckM β}
    (later : ∀ found, (P.lookupExpr file expr).1 = .ok found →
      Mirrors I J (next found) (next' found)) :
    Mirrors I J (P.find file expr >>= next) (P.find file expr >>= next') := by
  unfold find
  simp only [bind_assoc]
  apply (mirrors_openAll left right _).bind
  intro _
  cases looked : (P.lookupExpr file expr).1 with
  | ok found => simpa only [PrintFault.lift_ok, pure_bind] using later found looked
  | error =>
    intro c d _ _ b c' returned
    obtain ⟨_, _, raised, _⟩ := (returns_bind_iff _ _ _).mp returned
    cases (returns_throw_iff _ _).mp raised

theorem mirrors_typeVariables (left : IgnoresFiles I) (right : IgnoresFiles J) (file : Path)
    (expr : Expr) (known : List String) :
    Mirrors I J (P.typeVariables file expr known) (P.typeVariables file expr known) := by
  unfold typeVariables findName
  apply Mirrors.foldlM
  intro name _ known
  split
  · exact .pure _
  · simp only [bind_assoc]
    apply (mirrors_openAll left right _).bind
    intro _
    simp only [pure_bind]
    split <;> exact .pure _

end Program

end HintSchema

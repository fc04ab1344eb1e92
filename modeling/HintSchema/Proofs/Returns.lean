import Mathlib.Control.Monad.Basic

/-!
Computations with a state and faults, taken apart: when one gives an answer, when it stops with a
fault, and what its parts came to before that.
-/

namespace HintSchema

/-- What a computation comes to from a state, and the state it leaves behind. -/
def runFrom {ε σ α : Type} (m : ExceptT ε (StateM σ) α) (s : σ) : Except ε α × σ := m.run s

/-- The computation answers `a`; it goes from `s` to `t`. -/
def Returns {ε σ α : Type} (m : ExceptT ε (StateM σ) α) (s : σ) (a : α) (t : σ) : Prop :=
  runFrom m s = (.ok a, t)

/-- The computation stops with the fault `e`; it goes from `s` to `t`. -/
def Raises {ε σ α : Type} (m : ExceptT ε (StateM σ) α) (s : σ) (e : ε) (t : σ) : Prop :=
  runFrom m s = (.error e, t)

variable {ε σ α β : Type} {s t : σ}

theorem Except.toOption_eq_some_iff {x : Except ε α} {a : α} : x.toOption = some a ↔ x = .ok a := by
  cases x <;> simp [Except.toOption]

theorem Except.map_eq_ok_iff {x : Except ε α} {f : α → β} {b : β} :
    x.map f = .ok b ↔ ∃ a, x = .ok a ∧ f a = b := by
  cases x <;> simp [Except.map]

theorem Except.mapError_eq_ok_iff {ε' : Type} {x : Except ε α} {f : ε → ε'} {a : α} :
    x.mapError f = .ok a ↔ x = .ok a := by
  cases x <;> simp [Except.mapError]

theorem Except.isOk_iff {x : Except ε α} : x.isOk ↔ ∃ a, x = .ok a := by
  cases x <;> simp [Except.isOk, Except.toBool]

theorem Except.pure_eq_ok_iff {a b : α} : (pure a : Except ε α) = .ok b ↔ a = b := by
  simp [pure, Except.pure]

theorem Except.bind_eq_ok_iff {x : Except ε α} {f : α → Except ε β} {b : β} :
    x >>= f = .ok b ↔ ∃ a, x = .ok a ∧ f a = .ok b := by
  cases x <;> simp [bind, Except.bind]

theorem Except.bind_eq_error_iff {x : Except ε α} {f : α → Except ε β} {e : ε} :
    x >>= f = .error e ↔ x = .error e ∨ ∃ a, x = .ok a ∧ f a = .error e := by
  cases x <;> simp [bind, Except.bind]

theorem Except.bind_pure_eq_error_iff {x : Except ε α} {f : α → β} {e : ε} :
    (do return f (← x)) = .error e ↔ x = .error e := by
  cases x <;> simp [bind, Except.bind, pure, Except.pure]

theorem runFrom_bind (m : ExceptT ε (StateM σ) α) (f : α → ExceptT ε (StateM σ) β) (s : σ) :
    runFrom (m >>= f) s = match runFrom m s with
      | (.ok a, u) => runFrom (f a) u
      | (.error e, u) => (.error e, u) := by
  change (ExceptT.bindCont f (runFrom m s).1) (runFrom m s).2 = _
  rcases runFrom m s with ⟨_ | _, u⟩ <;> rfl

theorem runFrom_bind_of_returns {m : ExceptT ε (StateM σ) α} {f : α → ExceptT ε (StateM σ) β}
    {a : α} (returned : Returns m s a t) : runFrom (m >>= f) s = runFrom (f a) t := by
  rw [runFrom_bind, returned]

theorem returns_bind_iff (m : ExceptT ε (StateM σ) α) (f : α → ExceptT ε (StateM σ) β) (b : β) :
    Returns (m >>= f) s b t ↔ ∃ a u, Returns m s a u ∧ Returns (f a) u b t := by
  simp only [Returns, runFrom_bind]
  rcases runFrom m s with ⟨_ | a, u⟩
  · simp
  · constructor
    · intro returned
      exact ⟨a, u, rfl, returned⟩
    · intro given
      obtain ⟨a, u, ⟨⟩, returned⟩ := given
      exact returned

theorem raises_bind_iff (m : ExceptT ε (StateM σ) α) (f : α → ExceptT ε (StateM σ) β) (e : ε) :
    Raises (m >>= f) s e t ↔
      Raises m s e t ∨ ∃ a u, Returns m s a u ∧ Raises (f a) u e t := by
  simp only [Raises, Returns, runFrom_bind]
  rcases runFrom m s with ⟨_ | a, u⟩
  · simp
  · constructor
    · intro raised
      exact .inr ⟨a, u, rfl, raised⟩
    · intro given
      rcases given with impossible | ⟨a, u, ⟨⟩, raised⟩
      · cases impossible
      · exact raised

theorem bind_congr_of_returns {m : ExceptT ε (StateM σ) α} {f g : α → ExceptT ε (StateM σ) β}
    (same : ∀ s a t, Returns m s a t → f a = g a) : m >>= f = m >>= g := by
  funext s
  change runFrom (m >>= f) s = runFrom (m >>= g) s
  rw [runFrom_bind, runFrom_bind]
  cases ran : runFrom m s with
  | mk answer t =>
    cases answer with
    | error => rfl
    | ok a => exact congrArg (runFrom · t) (same s a t ran)

theorem returns_of_ok {m : ExceptT ε (StateM σ) α} {a : α} (answered : (runFrom m s).1 = .ok a) :
    Returns m s a (runFrom m s).2 := by
  unfold Returns
  rw [← answered]

theorem raises_of_error {m : ExceptT ε (StateM σ) α} {e : ε}
    (stopped : (runFrom m s).1 = .error e) : Raises m s e (runFrom m s).2 := by
  unfold Raises
  rw [← stopped]

theorem Returns.unique {m : ExceptT ε (StateM σ) α} {a b : α} {u : σ}
    (first : Returns m s a t) (second : Returns m s b u) : a = b ∧ t = u := by
  have same := first.symm.trans second
  cases same
  exact ⟨rfl, rfl⟩

@[simp] theorem returns_pure_iff (a b : α) :
    Returns (pure a : ExceptT ε (StateM σ) α) s b t ↔ b = a ∧ t = s := by
  constructor
  · intro returned
    cases returned
    exact ⟨rfl, rfl⟩
  · intro given
    obtain ⟨rfl, rfl⟩ := given
    rfl

@[simp] theorem raises_pure_iff (a : α) (e : ε) :
    Raises (pure a : ExceptT ε (StateM σ) α) s e t ↔ False := by
  constructor
  · intro raised
    cases raised
  · exact False.elim

@[simp] theorem returns_throw_iff (e : ε) (a : α) :
    Returns (throw e : ExceptT ε (StateM σ) α) s a t ↔ False := by
  constructor
  · intro returned
    cases returned
  · exact False.elim

@[simp] theorem raises_throw_iff (e f : ε) :
    Raises (throw e : ExceptT ε (StateM σ) α) s f t ↔ f = e ∧ t = s := by
  constructor
  · intro raised
    cases raised
    exact ⟨rfl, rfl⟩
  · intro given
    obtain ⟨rfl, rfl⟩ := given
    rfl

@[simp] theorem returns_get_iff (u : σ) :
    Returns (get : ExceptT ε (StateM σ) σ) s u t ↔ u = s ∧ t = s := by
  constructor
  · intro returned
    cases returned
    exact ⟨rfl, rfl⟩
  · intro given
    obtain ⟨rfl, rfl⟩ := given
    rfl

@[simp] theorem raises_get_iff (e : ε) :
    Raises (get : ExceptT ε (StateM σ) σ) s e t ↔ False := by
  constructor
  · intro raised
    cases raised
  · exact False.elim

@[simp] theorem returns_modify_iff (f : σ → σ) (a : PUnit) :
    Returns (modify f : ExceptT ε (StateM σ) PUnit) s a t ↔ t = f s := by
  constructor
  · intro returned
    cases returned
    rfl
  · intro same
    obtain rfl := same
    rfl

@[simp] theorem raises_modify_iff (f : σ → σ) (e : ε) :
    Raises (modify f : ExceptT ε (StateM σ) PUnit) s e t ↔ False := by
  constructor
  · intro raised
    cases raised
  · exact False.elim

theorem returns_map_iff (f : α → β) (m : ExceptT ε (StateM σ) α) (b : β) :
    Returns (f <$> m) s b t ↔ ∃ a, Returns m s a t ∧ b = f a := by
  rw [map_eq_pure_bind, returns_bind_iff]
  constructor
  · intro given
    obtain ⟨a, u, answered, returned⟩ := given
    obtain ⟨rfl, rfl⟩ := (returns_pure_iff _ _).mp returned
    exact ⟨a, answered, rfl⟩
  · intro given
    obtain ⟨a, answered, rfl⟩ := given
    exact ⟨a, t, answered, (returns_pure_iff _ _).mpr ⟨rfl, rfl⟩⟩

theorem returns_mapM_cons_iff (f : α → ExceptT ε (StateM σ) β) (a : α) (rest : List α)
    (results : List β) :
    Returns ((a :: rest).mapM f) s results t ↔
      ∃ b u later,
        Returns (f a) s b u ∧ Returns (rest.mapM f) u later t ∧ results = b :: later := by
  simp only [List.mapM_cons, returns_bind_iff, returns_pure_iff]
  constructor
  · intro given
    obtain ⟨b, u, first, later, _, rest, rfl, rfl⟩ := given
    exact ⟨b, u, later, first, rest, rfl⟩
  · intro given
    obtain ⟨b, u, later, first, rest, rfl⟩ := given
    exact ⟨b, u, first, later, t, rest, rfl, rfl⟩

theorem length_of_returns_mapM {f : α → ExceptT ε (StateM σ) β} {items : List α}
    {results : List β} (returned : Returns (items.mapM f) s results t) :
    results.length = items.length := by
  induction items generalizing s results with
  | nil =>
    obtain ⟨rfl, rfl⟩ := (returns_pure_iff _ _).mp returned
    rfl
  | cons item rest ih =>
    obtain ⟨_, _, _, _, later, rfl⟩ := (returns_mapM_cons_iff ..).mp returned
    rw [List.length_cons, List.length_cons, ih later]

theorem exists_of_returns_mapM {f : α → ExceptT ε (StateM σ) β} {items : List α} {results : List β}
    (returned : Returns (items.mapM f) s results t) :
    ∀ b ∈ results, ∃ a ∈ items, ∃ u v, Returns (f a) u b v := by
  induction items generalizing s results with
  | nil =>
    obtain ⟨rfl, rfl⟩ := (returns_pure_iff _ _).mp returned
    exact List.forall_mem_nil _
  | cons a rest ih =>
    obtain ⟨b, u, later, first, others, rfl⟩ := (returns_mapM_cons_iff ..).mp returned
    refine List.forall_mem_cons.mpr ⟨⟨a, List.mem_cons_self, _, _, first⟩, fun b member => ?_⟩
    obtain ⟨a, inside, asked⟩ := ih others b member
    exact ⟨a, List.mem_cons_of_mem _ inside, asked⟩

theorem each_of_returns_mapM {f : α → ExceptT ε (StateM σ) β} {items : List α} {results : List β}
    (returned : Returns (items.mapM f) s results t) :
    ∀ a ∈ items, ∃ b ∈ results, ∃ u v, Returns (f a) u b v := by
  induction items generalizing s results with
  | nil => exact List.forall_mem_nil _
  | cons a rest ih =>
    obtain ⟨b, u, later, first, others, rfl⟩ := (returns_mapM_cons_iff ..).mp returned
    refine List.forall_mem_cons.mpr ⟨⟨b, List.mem_cons_self, _, _, first⟩, fun a member => ?_⟩
    obtain ⟨b, inside, asked⟩ := ih others a member
    exact ⟨b, List.mem_cons_of_mem _ inside, asked⟩

theorem Returns.foldlM_keeps {f : β → α → ExceptT ε (StateM σ) β} {items : List α}
    (keeps : β → σ → Prop)
    (each : ∀ item ∈ items, ∀ b s b' t, keeps b s → Returns (f b item) s b' t → keeps b' t)
    {b b' : β} (start : keeps b s) (returned : Returns (items.foldlM f b) s b' t) :
    keeps b' t := by
  induction items generalizing b s with
  | nil =>
    obtain ⟨rfl, rfl⟩ := (returns_pure_iff _ _).mp returned
    exact start
  | cons item rest ih =>
    rw [List.foldlM_cons, returns_bind_iff] at returned
    obtain ⟨c, u, first, later⟩ := returned
    have kept := each item List.mem_cons_self _ _ _ _ start first
    exact ih (fun item member => each item (List.mem_cons_of_mem _ member)) kept later

theorem runFrom_bind_congr {m n : ExceptT ε (StateM σ) α} {f g : α → ExceptT ε (StateM σ) β}
    (first : runFrom m s = runFrom n s)
    (later : ∀ a t, Returns n s a t → runFrom (f a) t = runFrom (g a) t) :
    runFrom (m >>= f) s = runFrom (n >>= g) s := by
  rw [runFrom_bind, runFrom_bind, first]
  match ran : runFrom n s with
  | (.ok a, t) => exact later a t ran
  | (.error _, _) => rfl

theorem runFrom_get_bind (f : σ → ExceptT ε (StateM σ) α) :
    runFrom (get >>= f) s = runFrom (f s) s := rfl

theorem runFrom_foldlM_congr {f g : β → α → ExceptT ε (StateM σ) β} {items : List α} {I : σ → Prop}
    (each : ∀ item ∈ items, ∀ b s, I s → runFrom (f b item) s = runFrom (g b item) s ∧
      ∀ b' t, Returns (g b item) s b' t → I t)
    {b : β} (start : I s) : runFrom (items.foldlM f b) s = runFrom (items.foldlM g b) s := by
  induction items generalizing b s with
  | nil => rfl
  | cons item rest ih =>
    obtain ⟨same, kept⟩ := each item List.mem_cons_self b s start
    rw [List.foldlM_cons, List.foldlM_cons]
    refine runFrom_bind_congr same fun b' t stepped => ?_
    exact ih (fun other member => each other (List.mem_cons_of_mem _ member)) (kept b' t stepped)

/-- The computation comes to an answer as `Q` says, or it stops with a fault as `E` says. -/
def Ends {ε σ α : Type} (m : ExceptT ε (StateM σ) α) (s : σ) (Q : α → σ → Prop) (E : ε → Prop) :
    Prop :=
  (∃ a t, Returns m s a t ∧ Q a t) ∨ ∃ e t, Raises m s e t ∧ E e

namespace Ends

variable {ε σ α β : Type} {s : σ} {E : ε → Prop}

theorem pure {a : α} {Q : α → σ → Prop} (right : Q a s) :
    Ends (pure a : ExceptT ε (StateM σ) α) s Q E :=
  .inl ⟨a, s, (returns_pure_iff ..).mpr ⟨rfl, rfl⟩, right⟩

theorem bind {m : ExceptT ε (StateM σ) α} {f : α → ExceptT ε (StateM σ) β} {Q : α → σ → Prop}
    {R : β → σ → Prop} (first : Ends m s Q E) (second : ∀ a t, Q a t → Ends (f a) t R E) :
    Ends (m >>= f) s R E := by
  rcases first with ⟨a, t, answered, right⟩ | ⟨e, t, raised, admitted⟩
  · rcases second a t right with ⟨b, u, later, right⟩ | ⟨e, u, raised, admitted⟩
    · exact .inl ⟨b, u, (returns_bind_iff ..).mpr ⟨a, t, answered, later⟩, right⟩
    · exact .inr ⟨e, u, (raises_bind_iff ..).mpr (.inr ⟨a, t, answered, raised⟩), admitted⟩
  · exact .inr ⟨e, t, (raises_bind_iff ..).mpr (.inl raised), admitted⟩

end Ends

end HintSchema

import HintSchema.Derivation.Function
import HintSchema.Proofs.Hints.Settled

/-!
The questions a derivation puts to the hints, and the parts of it that call no other derivation.
-/

namespace HintSchema

namespace Handle

/-- The name a handle is declared under, if it has one. `none` on the outside stands for a handle
that cannot be written out. -/
def declaredName? : Handle → Option (Option String)
  | record symbol source arguments .none =>
    if symbol.isAnonymous then some .none
    else (record symbol source arguments .none).display?.toOption.map some
  | h => h.display?.toOption.map some

end Handle

namespace Derivation

/-- The qualified name of a handle that is met at the end of a path. -/
def nameAt? (P : Program) (path : TypePath) (handle : Handle) :
    Option (Except NameFault String) :=
  handle.declaredName?.map fun name =>
    TypeName.qualify handle path name P.entry P.resolver.tree.cwd

theorem runFrom_asking {α : Type} (question : CheckM α) (s : DerivationState) :
    runFrom (asking question) s = ((runFrom question s.check).1.mapError .check,
      { s with check := (runFrom question s.check).2 }) := by
  change runFrom (do
    set { s with check := (runFrom question s.check).2 }
    MonadExcept.ofExcept ((runFrom question s.check).1.mapError .check) : DerivationM α) s = _
  rcases runFrom question s.check with ⟨_ | a, c⟩ <;> rfl

theorem returns_asking_iff {α : Type} (question : CheckM α) (s t : DerivationState) (a : α) :
    Returns (asking question) s a t ↔
      ∃ c, Returns question s.check a c ∧ t = { s with check := c } := by
  simp only [Returns, runFrom_asking]
  rcases runFrom question s.check with ⟨_ | b, c⟩
  · simp [Except.mapError]
  · constructor
    · intro same
      cases same
      exact ⟨c, rfl, rfl⟩
    · intro given
      obtain ⟨c, ⟨⟩, rfl⟩ := given
      rfl

theorem raises_asking_iff {α : Type} (question : CheckM α) (s t : DerivationState)
    (e : DerivationFault) :
    Raises (asking question) s e t ↔
      ∃ fault c, Raises question s.check fault c ∧ e = .check fault ∧
        t = { s with check := c } := by
  simp only [Raises, runFrom_asking]
  rcases runFrom question s.check with ⟨fault | b, c⟩
  · constructor
    · intro same
      cases same
      exact ⟨fault, c, rfl, rfl, rfl⟩
    · intro given
      obtain ⟨fault, c, ⟨⟩, rfl, rfl⟩ := given
      rfl
  · simp [Except.mapError]

theorem asked_settled {α : Type} {P : Program} {question : CheckM α} {R : α → Prop}
    {s t : DerivationState} {a : α} (settled : Settles P question R)
    (asked : Returns (asking question) s a t) :
    R a ∧ s.check.Grows P t.check ∧
      ∀ c, t.check.Grows P c → ∃ d, Returns question c a d := by
  obtain ⟨d, answered, rfl⟩ := (returns_asking_iff ..).mp asked
  obtain ⟨right, grown, again⟩ := settled _ _ _ answered
  refine ⟨right, grown, ?_⟩
  intro c later
  obtain ⟨f, answered, _⟩ := again c later
  exact ⟨f, answered⟩

theorem returns_display_iff (h : Handle) (c d : CheckState) (text : String) :
    Returns h.display c text d ↔ h.display? = .ok text ∧ d = c := by
  unfold Handle.display
  cases h.display? with
  | error => simp
  | ok shown => simp [eq_comm]

theorem returns_asking_display_iff (h : Handle) (s t : DerivationState) (text : String) :
    Returns (asking h.display) s text t ↔ h.display? = .ok text ∧ t = s := by
  simp only [returns_asking_iff, returns_display_iff]
  constructor
  · intro given
    obtain ⟨c, ⟨shown, rfl⟩, rfl⟩ := given
    exact ⟨shown, rfl⟩
  · intro given
    obtain ⟨shown, rfl⟩ := given
    exact ⟨t.check, ⟨shown, rfl⟩, rfl⟩

@[simp] theorem returns_updateRegistry_iff (f : Registry → Registry) (s t : DerivationState)
    (a : Unit) : Returns (updateRegistry f) s a t ↔ t = { s with registry := f s.registry } := by
  unfold updateRegistry
  exact returns_modify_iff _ _

@[simp] theorem raises_updateRegistry_iff (f : Registry → Registry) (s t : DerivationState)
    (e : DerivationFault) : Raises (updateRegistry f) s e t ↔ False := by
  unfold updateRegistry
  exact raises_modify_iff _ _

theorem returns_unsupported_iff (h : Handle) (path : TypePath) (s t : DerivationState)
    (o : Outcome) :
    Returns (unsupported h path) s o t ↔
      ∃ text, h.display? = .ok text ∧
        o = .errors [unsupportedMessage h.form text path.text] ∧ t = s := by
  unfold unsupported
  simp only [returns_bind_iff, returns_asking_display_iff, returns_pure_iff]
  constructor
  · intro given
    obtain ⟨text, _, ⟨shown, rfl⟩, rfl, rfl⟩ := given
    exact ⟨text, shown, rfl, rfl⟩
  · intro given
    obtain ⟨text, shown, rfl, rfl⟩ := given
    exact ⟨text, _, ⟨shown, rfl⟩, rfl, rfl⟩

theorem returns_some_display_iff (h : Handle) (s t : DerivationState) (name : Option String) :
    Returns (some <$> asking h.display) s name t ↔
      h.display?.toOption.map some = some name ∧ t = s := by
  simp only [returns_map_iff, returns_asking_display_iff, Option.map_eq_some_iff,
    Except.toOption_eq_some_iff]
  constructor
  · intro given
    obtain ⟨text, ⟨shown, rfl⟩, rfl⟩ := given
    exact ⟨⟨text, shown, rfl⟩, rfl⟩
  · intro given
    obtain ⟨⟨text, shown, rfl⟩, rfl⟩ := given
    exact ⟨text, ⟨shown, rfl⟩, rfl⟩

theorem returns_qualified_iff (P : Program) (path : TypePath) (h : Handle)
    (declared : DerivationM (Option String)) (name? : Option (Option String))
    (known : ∀ s u name, Returns declared s name u ↔ name? = some name ∧ u = s)
    (s t : DerivationState) (named : Except NameFault String) :
    Returns (do
        let name ← declared
        return TypeName.qualify h path name P.entry P.resolver.tree.cwd) s named t ↔
      (name?.map fun name => TypeName.qualify h path name P.entry P.resolver.tree.cwd) =
        some named ∧ t = s := by
  simp only [returns_bind_iff, known, returns_pure_iff, Option.map_eq_some_iff]
  constructor
  · intro given
    obtain ⟨name, _, ⟨declared, rfl⟩, rfl, rfl⟩ := given
    exact ⟨⟨name, declared, rfl⟩, rfl⟩
  · intro given
    obtain ⟨⟨name, declared, rfl⟩, rfl⟩ := given
    exact ⟨name, _, ⟨declared, rfl⟩, rfl, rfl⟩

theorem returns_objectName_iff (P : Program) (path : TypePath) (h : Handle)
    (s t : DerivationState) (named : Except NameFault String) :
    Returns (objectName P path h) s named t ↔ nameAt? P path h = some named ∧ t = s := by
  have shown (h g : Handle) := returns_qualified_iff P path g _ _
    (fun s u name => returns_some_display_iff h s u name) s t named
  unfold objectName nameAt?
  dsimp only
  split
  · rw [Handle.declaredName?]
    split
    · exact returns_qualified_iff P path _ _ (some none) (by simp [eq_comm]) s t named
    · exact shown _ _
  · rename_i other
    rw [Handle.declaredName?]
    · exact shown h h
    · exact other

theorem returns_deriveFunction_iff {P : Program} {f : Function} {s t : DerivationState}
    {o : FunctionOutcome} :
    Returns (deriveFunction P f) s o t ↔
      f.name.isEmpty = false ∧ Returns (deriveNamed P f) s o t := by
  unfold deriveFunction
  cases f.name.isEmpty <;> simp

theorem raises_deriveFunction_iff {P : Program} {f : Function} {s t : DerivationState}
    {e : DerivationFault} :
    Raises (deriveFunction P f) s e t ↔
      (f.name.isEmpty = true ∧ e = .namelessFunction ∧ t = s) ∨
        (f.name.isEmpty = false ∧ Raises (deriveNamed P f) s e t) := by
  unfold deriveFunction
  cases f.name.isEmpty <;> simp

end Derivation

end HintSchema

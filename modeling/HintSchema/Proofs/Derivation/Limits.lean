import HintSchema.Proofs.Derivation.Nested
import HintSchema.Proofs.Derivation.Runs

/-!
What can stop a derivation whose questions all have answers: the nesting limit, and a nullable type
inside another one.
-/

namespace HintSchema

open Schema

/-- The fault is about the form of a type, not about the questions asked for it. -/
def DerivationFault.IsFormal : DerivationFault → Prop
  | .tooDeep _ | .nestedNullable => True
  | _ => False

namespace Derivation

/-- Whatever is seen of the handles can be written out. -/
def Displayable (P : Program) (M : Handle → Prop) : Prop :=
  ∀ handle shown, M handle → Views P handle shown → ∃ text, shown.display? = .ok text

/-- What is seen of the handles, and the properties of records among it, can be asked for. -/
def Answerable (P : Program) (M : Handle → Prop) : Prop :=
  ∀ handle, M handle → ∃ shown, Views P handle shown ∧ Answered P shown

section

variable {P : Program} {M : Handle → Prop} {handle shown : Handle} {path : TypePath}
  {s t : DerivationState} {e : DerivationFault}

theorem Returns.not_raises {ε σ α : Type} {m : ExceptT ε (StateM σ) α} {s t u : σ} {a : α} {e : ε}
    (returned : Returns m s a t) : ¬ Raises m s e u := by
  intro raised
  cases returned.symm.trans raised

theorem not_raises_asking {α : Type} {question : CheckM α} {a : α}
    (uniform : Uniform (P.Consistent []) question) (consistent : P.Consistent [] s.check)
    (answers : Answers question a) : ¬ Raises (asking question) s e t := by
  obtain ⟨c, answered⟩ := Program.returns_of_answers uniform consistent answers
  exact Returns.not_raises ((returns_asking_iff ..).mpr ⟨c, answered, rfl⟩)

theorem not_raises_display {text : String} (displayed : handle.display? = .ok text) :
    ¬ Raises (asking handle.display) s e t :=
  Returns.not_raises ((returns_asking_display_iff ..).mpr ⟨displayed, rfl⟩)

theorem not_raises_unsupported {text : String} (displayed : handle.display? = .ok text) :
    ¬ Raises (unsupported handle path) s e t :=
  Returns.not_raises ((returns_unsupported_iff ..).mpr ⟨text, displayed, rfl, rfl⟩)

/-- Each call at the depth that is stopped is stopped by a formal fault. -/
def Formal (P : Program) (M : Handle → Prop) (depth : Int) : Prop :=
  ∀ path handle s e t, Raises (deriveType P depth path handle) s e t → M handle →
    P.Consistent [] s.check → Tracks P M s.registry → e.IsFormal

theorem ventured_returns (territory : Territory P M) (steadied : P.Steadied (P.Consistent []))
    (depth : Int) : Ventured P M fun path handle => Returns (deriveType P depth path handle) :=
  fun _ _ _ _ _ derived met consistent tracks => ⟨framed_of_returns derived,
    ventures_of_returns territory steadied derived met consistent tracks⟩

theorem formal_of_registerObject (territory : Territory P M)
    (steadied : P.Steadied (P.Consistent [])) {depth : Int} (below : Formal P M depth)
    {source : RecordSource} {arguments : List Handle} {name : String} (met : M handle)
    (seen : Views P handle shown) (record : shown.record? = some (source, arguments))
    (named : Names P shown name) {members : Properties}
    (answers : Answers (P.propertiesOf source arguments) members)
    (absent : name ∉ s.registry.objectNames) (consistent : P.Consistent [] s.check)
    (tracks : Tracks P M s.registry)
    (raised : Raises (registerObject P (deriveType P depth) path name shown.identity source
      arguments) s e t) : e.IsFormal := by
  have uniform := Program.uniform_propertiesOf steadied source arguments
  unfold registerObject at raised
  simp only [raises_bind_iff, returns_get_iff, raises_get_iff, returns_updateRegistry_iff,
    raises_updateRegistry_iff, raises_walk_iff, false_or] at raised
  obtain ⟨_, s, ⟨rfl, rfl⟩, _, _, rfl, stopped⟩ := raised
  rcases stopped with stopped | ⟨members', u, asked, stopped⟩
  · exact absurd stopped (not_raises_asking uniform (s := s.openObject name shown.identity)
      consistent answers)
  obtain ⟨again, after⟩ := answers_of_asking uniform
    (show P.Consistent [] (s.openObject ..).check from consistent) asked
  rcases stopped with ⟨before, p, part, later, found, v, rfl, walked, failed⟩ | ⟨_, _, _, rest⟩
  · have inside (m) (member : m ∈ before ++ (p, part) :: later) : M m.2 :=
      territory.further handle m.2 met ⟨shown, seen, .property record named again member⟩
    have begun : Tracks P M u.registry := by
      rw [registry_of_asking asked]
      exact tracks.opened absent met seen named
    obtain ⟨final, extended, ⟨_, _, explored⟩, _⟩ := walked.ventures territory
      (ventured_returns territory steadied depth)
      (fun m member => inside m (List.mem_append_left _ member)) after begun
    exact below _ _ _ _ _ failed (inside (p, part) (by simp)) final (explored.tracks extended begun)
  · split at rest
    all_goals
      simp only [raises_bind_iff, raises_updateRegistry_iff, raises_pure_iff, and_false,
        exists_false, or_false] at rest

theorem formal_of_objectType (territory : Territory P M) (displayable : Displayable P M)
    (steadied : P.Steadied (P.Consistent [])) {depth : Int} (below : Formal P M depth)
    {source : RecordSource} {arguments : List Handle} (met : M handle) (seen : Views P handle shown)
    (record : shown.record? = some (source, arguments)) (answered : Answered P shown)
    (consistent : P.Consistent [] s.check) (tracks : Tracks P M s.registry)
    (raised : Raises (objectType P (deriveType P depth) path shown source arguments) s e t) :
    e.IsFormal := by
  obtain ⟨text, displayed⟩ := displayable handle shown met seen
  have named := answered.named (Option.isSome_of_eq_some record) path
  unfold objectType at raised
  simp only [raises_bind_iff, returns_objectName_iff] at raised
  rcases raised with raised | ⟨result, _, ⟨known, rfl⟩, raised⟩
  · rcases named with ⟨name, named⟩ | ⟨name, file, named⟩
    · exact absurd raised (Returns.not_raises ((returns_objectName_iff ..).mpr ⟨named, rfl⟩))
    · exact absurd raised (Returns.not_raises ((returns_objectName_iff ..).mpr ⟨named, rfl⟩))
  · split at raised
    · exact absurd raised (raises_pure_iff _ _).mp
    · rename_i other
      rcases named with ⟨name, named⟩ | ⟨name, file, named⟩
      · cases known.symm.trans named
      · cases known.symm.trans named
        exact absurd rfl (other name file)
    · rename_i name
      have names := territory.names met seen record known
      simp only [raises_bind_iff, returns_get_iff, raises_get_iff, false_or] at raised
      obtain ⟨_, _, ⟨rfl, rfl⟩, raised⟩ := raised
      split at raised
      · split at raised
        · exact absurd raised (raises_pure_iff _ _).mp
        · simp only [raises_bind_iff, raises_pure_iff, and_false, exists_false, or_false] at raised
          exact absurd raised (not_raises_display displayed)
      · rename_i fresh
        obtain ⟨members, answers⟩ := answered.properties source arguments name record names
        exact formal_of_registerObject territory steadied below met seen record names answers
          (Registry.object?_eq_none_iff.mp fresh) consistent tracks raised

theorem formal_of_raises (territory : Territory P M) (displayable : Displayable P M)
    (steadied : P.Steadied (P.Consistent [])) (answerable : Answerable P M) (depth : Int) :
    Formal P M depth := by
  generalize bound : (depthLimit + 1 - depth).toNat = limit
  induction limit using Nat.strongRecOn generalizing depth with
  | ind limit ih =>
    intro path handle s e t raised met consistent tracks
    obtain ⟨shown, seen, answered⟩ := answerable handle met
    obtain ⟨text, displayed⟩ := displayable handle shown met seen
    have uniform := Program.uniform_apparent steadied handle
    rw [deriveType, raises_bind_iff] at raised
    rcases raised with raised | ⟨view, u, asked, raised⟩
    · exact absurd raised (not_raises_asking uniform consistent seen)
    obtain ⟨viewed, after⟩ := answers_of_asking uniform consistent asked
    obtain rfl := viewed.unique seen
    have tracks : Tracks P M u.registry := registry_of_asking asked ▸ tracks
    split at raised
    · rw [raises_bind_iff] at raised
      rcases raised with raised | ⟨_, _, _, raised⟩
      · exact absurd raised (not_raises_display displayed)
      · obtain ⟨rfl, _⟩ := (raises_throw_iff _ _).mp raised
        trivial
    · rename_i within
      have below := ih (depthLimit + 1 - (depth + 1)).toNat (by omega) (depth + 1) rfl
      have inner {path : TypePath} {part : Handle} (held : Part P view part)
          (failed : Raises (deriveType P (depth + 1) path part) u e t) : e.IsFormal :=
        below _ _ _ _ _ failed (territory.further handle part met ⟨view, viewed, held⟩) after tracks
      cases view with
      | list name element =>
        dsimp only [arrayType] at raised
        rw [raises_bind_iff] at raised
        rcases raised with failed | ⟨outcome, _, _, raised⟩
        · exact inner .element failed
        · split at raised
          all_goals exact absurd raised (raises_pure_iff _ _).mp
      | record symbol source arguments aliasName =>
        exact formal_of_objectType territory displayable steadied below met viewed rfl answered after
          tracks raised
      | intrinsic kind =>
        dsimp only at raised
        split at raised
        · unfold scalarType at raised
          simp only [raises_bind_iff, raises_updateRegistry_iff, raises_pure_iff, and_false,
            exists_false, or_false] at raised
        · exact absurd raised (not_raises_unsupported displayed)
      | union members =>
        dsimp only at raised
        split at raised
        · rename_i single absence split
          dsimp only [nullableType] at raised
          rw [raises_bind_iff] at raised
          rcases raised with failed | ⟨outcome, _, _, raised⟩
          · exact inner (.single split) failed
          · split at raised
            · split at raised
              · exact absurd raised (raises_pure_iff _ _).mp
              · obtain ⟨rfl, _⟩ := (raises_throw_iff _ _).mp raised
                trivial
            · exact absurd raised (raises_pure_iff _ _).mp
        · exact absurd raised (not_raises_unsupported displayed)
      | _ => exact absurd raised (not_raises_unsupported displayed)

theorem Runs.after (territory : Territory P M) (steadied : P.Steadied (P.Consistent []))
    {calls : List (Handle × Outcome)} (runs : Runs P s calls t) (met : ∀ c ∈ calls, M c.1)
    (consistent : P.Consistent [] s.check) (tracks : Tracks P M s.registry) :
    P.Consistent [] t.check ∧ Tracks P M t.registry := by
  obtain ⟨after, extended, _, _, explored⟩ :=
    runs.ventures territory steadied met consistent tracks
  exact ⟨after, explored.tracks extended tracks⟩

theorem formal_of_parameters (territory : Territory P M) (displayable : Displayable P M)
    (steadied : P.Steadied (P.Consistent [])) (answerable : Answerable P M) {function : String}
    {docs : List (String × String)} {o : SignatureOutcome} {parameters : List TypedParameter}
    (raised : Raises (parameters.foldlM (afterParameter P function docs) o) s e t)
    (met : ∀ p ∈ parameters, variadicMark p.kind = none → M p.handle)
    (consistent : P.Consistent [] s.check) (tracks : Tracks P M s.registry) : e.IsFormal := by
  induction parameters generalizing o s with
  | nil => exact absurd raised (raises_pure_iff _ _).mp
  | cons parameter rest ih =>
    obtain ⟨own, others⟩ := List.forall_mem_cons.mp met
    rw [List.foldlM_cons, raises_bind_iff] at raised
    rcases raised with raised | ⟨next, u, returned, raised⟩
    · unfold afterParameter at raised
      split at raised
      · exact absurd raised (raises_pure_iff _ _).mp
      · rename_i plain
        rw [raises_bind_iff] at raised
        rcases raised with raised | ⟨outcome, _, _, raised⟩
        · exact formal_of_raises territory displayable steadied answerable 0 _ _ _ _ _ raised
            (own plain) consistent tracks
        · split at raised
          all_goals exact absurd raised (raises_pure_iff _ _).mp
    · obtain ⟨tried, rfl, begin, _⟩ := tried_of_afterParameter returned
      have trials := begin [] u (.done u)
      have inside : ∀ c ∈ callsOf [tried], M c.1 := by
        intro c member
        obtain ⟨p, inside, same⟩ := List.mem_filterMap.mp member
        obtain rfl := List.mem_singleton.mp inside
        obtain ⟨o, called, rfl⟩ := Option.map_eq_some_iff.mp same
        exact own ((trials.called_iff p inside).mp (Option.isSome_of_eq_some called))
      obtain ⟨after, tracks'⟩ :=
        (runs_of_trials trials).after territory steadied inside consistent tracks
      exact ih raised others after tracks'

theorem formal_of_deriveFunction (territory : Territory P M) (displayable : Displayable P M)
    (steadied : P.Steadied (P.Consistent [])) (answerable : Answerable P M) {f : Function}
    (named : f.name.isEmpty = false) {signature : Signature}
    (signed : Answers (P.signature f) signature) (met : ∀ handle, Declares P f handle → M handle)
    (raised : Raises (deriveFunction P f) s e t) (consistent : P.Consistent [] s.check)
    (tracks : Tracks P M s.registry) : e.IsFormal := by
  have uniform := Program.uniform_signature steadied f
  rw [raises_deriveFunction_iff, named] at raised
  obtain ⟨impossible, _⟩ | ⟨_, raised⟩ := raised
  · cases impossible
  unfold deriveNamed at raised
  simp only [raises_bind_iff] at raised
  rcases raised with raised | ⟨signature', u, asked, raised⟩
  · exact absurd raised (not_raises_asking uniform consistent signed)
  obtain ⟨again, after⟩ := answers_of_asking uniform consistent asked
  obtain rfl := again.unique signed
  have tracks : Tracks P M u.registry := registry_of_asking asked ▸ tracks
  have own (p) (declared : p ∈ signature'.parameters) (plain : variadicMark p.kind = none) :
      M p.handle := met _ (.parameter signed declared plain)
  rcases raised with raised | ⟨signed', v, looped, raised⟩
  · exact formal_of_parameters territory displayable steadied answerable raised own after tracks
  obtain ⟨tried, declared, trials, _⟩ := tried_of_foldlM looped
  have inside : ∀ c ∈ callsOf tried, M c.1 := by
    intro c member
    obtain ⟨p, inside, same⟩ := List.mem_filterMap.mp member
    obtain ⟨o, called, rfl⟩ := Option.map_eq_some_iff.mp same
    refine own _ (declared ▸ List.mem_map_of_mem inside) ?_
    exact (trials.called_iff p inside).mp (Option.isSome_of_eq_some called)
  obtain ⟨after, tracks⟩ :=
    (runs_of_trials trials).after territory steadied inside after tracks
  rcases raised with raised | ⟨result, w, _, raised⟩
  · exact formal_of_raises territory displayable steadied answerable 0 _ _ _ _ _ raised
      (met _ (.result signed)) after tracks
  · split at raised
    all_goals exact absurd raised (raises_pure_iff _ _).mp

/-- If all functions have names, and all signatures and all that is met in them can be asked for,
only a formal fault stops the derivation of functions. -/
theorem formal_of_mapM (territory : Territory P M) (displayable : Displayable P M)
    (steadied : P.Steadied (P.Consistent [])) (answerable : Answerable P M) {fs : List Function}
    (named : ∀ f ∈ fs, f.name.isEmpty = false)
    (signed : ∀ f ∈ fs, ∃ signature, Answers (P.signature f) signature)
    (met : ∀ f ∈ fs, ∀ handle, Declares P f handle → M handle)
    (raised : Raises (fs.mapM (deriveFunction P)) s e t) (consistent : P.Consistent [] s.check)
    (tracks : Tracks P M s.registry) : e.IsFormal := by
  induction fs generalizing s with
  | nil => exact absurd raised (raises_pure_iff _ _).mp
  | cons f rest ih =>
    obtain ⟨spelled, names⟩ := List.forall_mem_cons.mp named
    obtain ⟨⟨signature, first⟩, later⟩ := List.forall_mem_cons.mp signed
    obtain ⟨own, others⟩ := List.forall_mem_cons.mp met
    rw [List.mapM_cons, raises_bind_iff] at raised
    rcases raised with raised | ⟨o, u, returned, raised⟩
    · exact formal_of_deriveFunction territory displayable steadied answerable spelled first own
        raised consistent tracks
    · obtain ⟨calls, runs, declares, _⟩ :=
        composed_of_deriveFunction steadied returned consistent
      obtain ⟨after, tracks⟩ := runs.after territory steadied
        (fun c member => own c.1 (declares c member)) consistent tracks
      simp only [raises_bind_iff, raises_pure_iff, and_false, exists_false, or_false] at raised
      exact ih names later others raised after tracks

end

end Derivation

end HintSchema

import HintSchema.Proofs.Derivation.Confined
import HintSchema.Proofs.Derivation.Nested
import HintSchema.Proofs.Hints.Gate
import HintSchema.Proofs.Hints.Homes

/-!
The errors of a derivation itself. Of what has come up in a pass over a program, each record has one
declaration, in a file that is loaded, and each function has a name. So a pass stops with an error
of its own only at a call beyond the depth limit (`overruns_of_internal`).
-/

namespace HintSchema

/-- The fault says that the derivation went wrong, not that a hint is at fault. -/
def DerivationFault.IsInternal : DerivationFault → Prop
  | .tooDeep _ | .name (.noSymbol _) | .name (.noDeclaration _) | .namelessFunction => True
  | _ => False

theorem DerivationFault.not_isInternal_of_check {e : DerivationFault}
    (check : ∃ fault, e = .check fault) : ¬ e.IsInternal := by
  obtain ⟨fault, rfl⟩ := check
  exact id

theorem TypeName.not_isInternal_of_qualify {symbol : Symbol} {source : RecordSource}
    {arguments : List Handle} {aliasName name : Option String} {path : TypePath}
    {entry cwd file : Path} {fault : NameFault} (declared : symbol.DeclaredIn file)
    (failed : qualify (.record symbol source arguments aliasName) path name entry cwd =
      .error fault) : ¬ (DerivationFault.name fault).IsInternal := by
  obtain ⟨pos, single⟩ := declared
  simp only [qualify, symbolOf, Handle.symbol?, single, bind, Except.bind] at failed
  split_ifs at failed
  · split at failed <;> cases failed
    exact id
  · cases failed
    exact id

namespace Handle.Homed

variable {F : Path → Prop} {h : Handle} {source : RecordSource} {arguments : List Handle}

theorem of_record? (homed : h.Homed F) (record : h.record? = some (source, arguments)) :
    F source.file ∧ ∀ part ∈ arguments, part.Homed F := by
  cases homed with
  | record _ home parts =>
    cases record
    exact ⟨home, parts⟩
  | _ => cases record

theorem not_isInternal_of_nameAt? {P : Program} {path : TypePath} {fault : NameFault}
    (homed : h.Homed F) (record : h.record? = some (source, arguments))
    (named : Derivation.nameAt? P path h = some (.error fault)) :
    ¬ (DerivationFault.name fault).IsInternal := by
  obtain ⟨name, _, failed⟩ := Option.map_eq_some_iff.mp named
  cases homed with
  | record declared => exact TypeName.not_isInternal_of_qualify declared failed
  | _ => cases record

end Handle.Homed

namespace Derivation

variable {P : Program} {path : TypePath} {handle : Handle} {s t : DerivationState} {o : Outcome}

/-! ### What a derivation loads -/

theorem leads_of_asking {α : Type} {question : CheckM α} {Q : CheckState → α → Prop} {a : α}
    (loading : Loading P s.check question Q) (asked : Returns (asking question) s a t)
    (genuine : s.check.Genuine P) : s.check.Leads P t.check ∧ Q t.check a := by
  obtain ⟨c, answered, rfl⟩ := (returns_asking_iff ..).mp asked
  exact loading _ _ _ (.refl genuine) answered

theorem course_homes (P : Program) :
    Course P (fun c h => c.Genuine P ∧ P.Homes c h) (CheckState.Leads P) where
  refl met := .refl met.1
  trans := .trans
  later leads met := ⟨leads.genuine, leads.homed met.2⟩
  element := by
    rintro c name h ⟨genuine, homed⟩
    cases homed with
    | list inner => exact ⟨genuine, inner⟩
  member := by
    rintro c members h ⟨genuine, homed⟩ member
    cases homed with
    | union parts => exact ⟨genuine, parts h member⟩
  apparent met answered := by
    obtain ⟨leads, shown⟩ := P.loading_apparent met.2 _ _ _ (.refl met.1) answered
    exact ⟨leads, leads.genuine, shown⟩
  properties met record answered := by
    obtain ⟨home, parts⟩ := met.2.of_record? record
    obtain ⟨leads, members⟩ := P.loading_propertiesOf home parts _ _ _ (.refl met.1) answered
    exact ⟨leads, fun m member => ⟨leads.genuine, members m member⟩⟩

theorem leads_of_returns {depth : Int} (returned : Returns (deriveType P depth path handle) s o t)
    (genuine : s.check.Genuine P) (homed : P.Homes s.check handle) :
    s.check.Leads P t.check :=
  (course_homes P).of_returns returned ⟨genuine, homed⟩

end Derivation

/-! ### Passes -/

namespace Program

variable {P : Program} {c d : CheckState} {f : Function} {file : Path}

/-- A question to a program in which handles have come up already, and the handles that it adds, or
a derivation for one of them. The file of a hint or of a function is loaded. -/
inductive Poses (P : Program) (handles : List Handle) :
    CheckState → List Handle → CheckState → Prop
  | check {found : List Diagnostic} {c d : CheckState} (answered : Returns P.check c found d) :
      Poses P handles c [] d
  | hint {file : Path} {scope : TypeVariables} {hint : Expr} {h : Handle} {c d : CheckState}
      (home : P.Loaded c file) (known : ∀ v ∈ scope, v.2 ∈ handles)
      (answered : Returns (P.resolve file scope (some hint)) c h d) : Poses P handles c [h] d
  | signature {f : Function} {s : Signature} {c d : CheckState} (home : P.Loaded c f.file)
      (answered : Returns (P.signature f) c s d) :
      Poses P handles c (s.result :: s.parameters.map (·.handle)) d
  | apparent {h shown : Handle} {c d : CheckState} (known : h ∈ handles)
      (answered : Returns (P.apparent h) c shown d) : Poses P handles c [shown] d
  | properties {symbol : Symbol} {source : RecordSource} {arguments : List Handle}
      {aliasName : Option String} {members : Properties} {c d : CheckState}
      (known : .record symbol source arguments aliasName ∈ handles)
      (answered : Returns (P.propertiesOf source arguments) c members d) :
      Poses P handles c (members.map (·.2)) d
  | parts {h : Handle} {c : CheckState} (known : h ∈ handles) : Poses P handles c h.parts c
  | derived {h : Handle} {depth : Int} {path : TypePath} {s t : DerivationState} {o : Outcome}
      (known : h ∈ handles) (returned : Returns (Derivation.deriveType P depth path h) s o t) :
      Poses P handles s.check [] t.check

/-- Questions and derivations, one after the other, and the handles that have come up. -/
inductive Pass (P : Program) : List Handle → CheckState → Prop
  | start : Pass P [] (.start P)
  | posed {handles new : List Handle} {c d : CheckState} (before : Pass P handles c)
      (poses : P.Poses handles c new d) : Pass P (new ++ handles) d

theorem leads_check {found : List Diagnostic} (genuine : c.Genuine P)
    (checked : Returns P.check c found d) : c.Leads P d := by
  have widens : c.Widens P d := by
    unfold check at checked
    split at checked
    · obtain ⟨_, rfl⟩ := (returns_pure_iff _ _).mp checked
      exact .refl _
    · exact widens_checkFrom checked
  exact ⟨widens.subset, genuine.of_records_eq widens.records⟩

theorem Poses.homes {handles new : List Handle} (poses : P.Poses handles c new d)
    (genuine : c.Genuine P) (homed : ∀ h ∈ handles, P.Homes c h) :
    c.Leads P d ∧ ∀ h ∈ new, P.Homes d h := by
  have begun : c.Leads P c := .refl genuine
  cases poses with
  | check answered => exact ⟨leads_check genuine answered, List.forall_mem_nil _⟩
  | hint home known answered =>
    obtain ⟨leads, own⟩ := loading_resolve home (fun v member => homed v.2 (known v member)) _
      _ _ _ begun answered
    exact ⟨leads, List.forall_mem_singleton.mpr own⟩
  | signature home answered =>
    obtain ⟨leads, parameters, result⟩ := loading_signature home _ _ _ begun answered
    exact ⟨leads, List.forall_mem_cons.mpr ⟨result, List.forall_mem_map.mpr parameters⟩⟩
  | apparent known answered =>
    obtain ⟨leads, own⟩ := loading_apparent (homed _ known) _ _ _ begun answered
    exact ⟨leads, List.forall_mem_singleton.mpr own⟩
  | properties known answered =>
    cases homed _ known with
    | record _ home parts =>
      obtain ⟨leads, members⟩ := loading_propertiesOf home parts _ _ _ begun answered
      exact ⟨leads, List.forall_mem_map.mpr members⟩
  | parts known => exact ⟨begun, (homed _ known).parts⟩
  | derived known returned =>
    exact ⟨Derivation.leads_of_returns returned genuine (homed _ known), List.forall_mem_nil _⟩

theorem Pass.homes {handles : List Handle} (pass : P.Pass handles c) :
    (CheckState.start P).Leads P c ∧ ∀ h ∈ handles, P.Homes c h := by
  induction pass with
  | start =>
    exact ⟨.refl (CheckState.genuine_of_blank rfl), List.forall_mem_nil _⟩
  | posed _ poses ih =>
    obtain ⟨leads, homed⟩ := ih
    obtain ⟨further, new⟩ := poses.homes leads.genuine homed
    exact ⟨leads.trans further, List.forall_mem_append.mpr ⟨new, further.homed_all homed⟩⟩

/-! ### Functions of the functions file -/

theorem source?_of_statement {statement : Statement}
    (member : statement ∈ (P.source file).statements) :
    P.source? file = some (P.source file) := by
  unfold source at member ⊢
  cases found : P.source? file with
  | none =>
    rw [found] at member
    cases member
  | some => rfl

theorem Parsed.exported (parsed : P.Parsed) (leads : (CheckState.start P).Leads P c)
    (exported : f ∈ (P.source P.entry).exportedFunctions) :
    f.name.isEmpty = false ∧ P.Loaded c f.file := by
  obtain ⟨defined, placed⟩ := SourceFile.mem_statements_of_exported exported
  have present := source?_of_statement defined
  rw [path_source] at placed
  have own : P.entry ∈ P.initial := by simp [initial, present]
  refine ⟨(parsed.modules _ (List.mem_of_find?_eq_some present)).named defined, ?_⟩
  rw [placed]
  exact ⟨leads.opened own, by simp [present]⟩

end Program

namespace Derivation

variable {P : Program} {path : TypePath} {handle shown : Handle} {s t u : DerivationState}
  {e : DerivationFault}

/-! ### Where a call stops -/

namespace Visit

/-- The call is made beyond the depth limit and stops with the fault that says so, which names the
handle that it sees. -/
def Overruns (P : Program) (v : Visit) (e : DerivationFault) (t : DerivationState) : Prop :=
  depthLimit < v.depth ∧ ∃ shown text,
    Returns (asking (P.apparent v.handle)) v.state shown t ∧ shown.display? = .ok text ∧
      e = .tooDeep text

/-- The call comes to one that overruns the limit. -/
def Exceeds (P : Program) (v : Visit) (e : DerivationFault) (t : DerivationState) : Prop :=
  ∃ last, Relation.ReflTransGen (Makes P) v last ∧ last.Overruns P e t

theorem Makes.exceeds {v w : Visit} (makes : v.Makes P w) (exceeds : w.Exceeds P e t) :
    v.Exceeds P e t := by
  obtain ⟨last, reached, overruns⟩ := exceeds
  exact ⟨last, .head makes reached, overruns⟩

end Visit

/-- Each call at the depth that stops with an internal fault comes to one beyond the limit. -/
def Deepening (P : Program) (depth : Int) : Prop :=
  ∀ path handle s e t, Raises (deriveType P depth path handle) s e t → e.IsInternal →
    s.check.Genuine P → P.Homes s.check handle → Visit.Exceeds P ⟨depth, path, handle, s⟩ e t

section

variable {depth : Int} {source : RecordSource} {arguments : List Handle}

theorem exceeds_of_registerObject (below : Deepening P (depth + 1)) (within : depth ≤ depthLimit)
    (seen : Returns (asking (P.apparent handle)) s shown u)
    (record : shown.record? = some (source, arguments)) (genuine : u.check.Genuine P)
    (homed : P.Homes u.check shown) {name : String}
    (named : nameAt? P path shown = some (.ok name)) (fresh : u.registry.object? name = none)
    (raised : Raises (registerObject P (deriveType P (depth + 1)) path name shown.identity source
      arguments) u e t) (internal : e.IsInternal) :
    Visit.Exceeds P ⟨depth, path, handle, s⟩ e t := by
  unfold registerObject at raised
  simp only [raises_bind_iff, returns_get_iff, raises_get_iff, returns_updateRegistry_iff,
    raises_updateRegistry_iff, raises_walk_iff, false_or] at raised
  obtain ⟨_, u, ⟨rfl, rfl⟩, _, _, rfl, raised⟩ := raised
  rcases raised with raised | ⟨members, v, asked, raised⟩
  · exact absurd internal (DerivationFault.not_isInternal_of_check (check_of_asking raised))
  obtain ⟨home, parts⟩ := homed.of_record? record
  obtain ⟨begun, members⟩ := leads_of_asking (s := u.openObject ..)
    (P.loading_propertiesOf home parts) asked genuine
  rcases raised with ⟨before, p, part, later, found, w, rfl, walked, failed⟩ | ⟨_, _, _, rest⟩
  · -- The calls before this one have returned, so they lead to a state in which it is homed.
    obtain ⟨earlier, others⟩ := List.forall_mem_append.mp members
    have further := (course_homes P).walk
      (fun _ _ _ _ _ derived => (course_homes P).of_returns derived) walked
      (.refl begun.genuine) fun m member => ⟨begun.genuine, earlier m member⟩
    have own := further.homed (List.forall_mem_cons.mp others).1
    exact (Visit.Makes.property within seen record named fresh asked walked).exceeds
      (below _ _ _ _ _ failed internal further.genuine own)
  · split at rest
    all_goals
      simp only [raises_bind_iff, raises_updateRegistry_iff, raises_pure_iff, and_false,
        exists_false, or_false] at rest

theorem exceeds_of_objectType (below : Deepening P (depth + 1)) (within : depth ≤ depthLimit)
    (seen : Returns (asking (P.apparent handle)) s shown u)
    (record : shown.record? = some (source, arguments)) (genuine : u.check.Genuine P)
    (homed : P.Homes u.check shown)
    (raised : Raises (objectType P (deriveType P (depth + 1)) path shown source arguments) u e t)
    (internal : e.IsInternal) : Visit.Exceeds P ⟨depth, path, handle, s⟩ e t := by
  have unasked {Q : Prop} (check : ∃ fault, e = .check fault) : Q :=
    absurd internal (DerivationFault.not_isInternal_of_check check)
  unfold objectType at raised
  simp only [raises_bind_iff, returns_objectName_iff] at raised
  rcases raised with raised | ⟨result, u, ⟨named, rfl⟩, raised⟩
  · exact unasked (check_of_objectName raised)
  split at raised
  · exact absurd raised (raises_pure_iff _ _).mp
  · obtain ⟨rfl, _⟩ := (raises_throw_iff _ _).mp raised
    exact absurd internal (homed.not_isInternal_of_nameAt? record named)
  · simp only [raises_bind_iff, returns_get_iff, raises_get_iff, false_or] at raised
    obtain ⟨_, u, ⟨rfl, rfl⟩, raised⟩ := raised
    split at raised
    · split at raised
      · exact absurd raised (raises_pure_iff _ _).mp
      · rcases (raises_bind_iff ..).mp raised with asked | ⟨_, _, _, returned⟩
        · exact unasked (check_of_asking asked)
        · exact absurd returned (raises_pure_iff _ _).mp
    · rename_i fresh
      exact exceeds_of_registerObject below within seen record genuine homed named fresh raised
        internal

end

theorem deepening (P : Program) (depth : Int) : Deepening P depth := by
  generalize bound : (depthLimit + 1 - depth).toNat = limit
  induction limit using Nat.strongRecOn generalizing depth with
  | ind limit ih =>
    intro path handle s e t raised internal genuine homed
    have unasked {Q : Prop} (check : ∃ fault, e = .check fault) : Q :=
      absurd internal (DerivationFault.not_isInternal_of_check check)
    rw [deriveType, raises_bind_iff] at raised
    rcases raised with raised | ⟨shown, u, seen, raised⟩
    · exact unasked (check_of_asking raised)
    obtain ⟨begun, own⟩ := leads_of_asking (P.loading_apparent homed) seen genuine
    split at raised
    · rename_i deep
      rcases (raises_bind_iff ..).mp raised with asked | ⟨text, v, displayed, thrown⟩
      · exact unasked (check_of_asking asked)
      · obtain ⟨written, rfl⟩ := (returns_asking_display_iff ..).mp displayed
        obtain ⟨rfl, rfl⟩ := (raises_throw_iff _ _).mp thrown
        exact ⟨_, .refl, deep, shown, text, seen, written, rfl⟩
    · rename_i within
      have within : depth ≤ depthLimit := by omega
      have below := ih (depthLimit + 1 - (depth + 1)).toNat (by omega) (depth + 1) rfl
      cases shown with
      | list name element =>
        cases own with
        | list inner =>
          rcases (raises_bind_iff ..).mp raised with failed | ⟨outcome, _, _, returned⟩
          · exact (Visit.Makes.element within seen).exceeds
              (below _ _ _ _ _ failed internal begun.genuine inner)
          · split at returned
            all_goals exact absurd returned (raises_pure_iff _ _).mp
      | record symbol source arguments aliasName =>
        exact exceeds_of_objectType below within seen rfl begun.genuine own raised internal
      | intrinsic kind =>
        dsimp only at raised
        split at raised
        · unfold scalarType at raised
          simp only [raises_bind_iff, raises_updateRegistry_iff, raises_pure_iff, and_false,
            exists_false, or_false] at raised
        · exact unasked (check_of_unsupported raised)
      | union members =>
        dsimp only at raised
        split at raised
        · rename_i single absence split
          cases own with
          | union parts =>
            rcases (raises_bind_iff ..).mp raised with failed | ⟨outcome, _, _, returned⟩
            · exact (Visit.Makes.single within seen split).exceeds (below _ _ _ _ _ failed internal
                begun.genuine (parts _ (Handle.mem_of_nullable? split)))
            · split at returned
              · split at returned
                · exact absurd returned (raises_pure_iff _ _).mp
                · obtain ⟨rfl, _⟩ := (raises_throw_iff _ _).mp returned
                  cases internal
              · exact absurd returned (raises_pure_iff _ _).mp
        · exact unasked (check_of_unsupported raised)
      | _ => exact unasked (check_of_unsupported raised)

/-! ### Functions -/

/-- Some call at the top comes to one that overruns the limit. -/
def Exceeded (P : Program) (e : DerivationFault) (t : DerivationState) : Prop :=
  ∃ first, first.depth = 0 ∧ Visit.Exceeds P first e t

/-- Begun in the state or in a later one, the derivation only loads further files, and it stops with
an internal fault only if some call overruns the limit. -/
def Guarded {α : Type} (P : Program) (c : CheckState) (run : DerivationM α)
    (Q : CheckState → α → Prop) : Prop :=
  ∀ s, c.Leads P s.check →
    (∀ a t, Returns run s a t → s.check.Leads P t.check ∧ Q t.check a) ∧
      ∀ e t, Raises run s e t → e.IsInternal → Exceeded P e t

namespace Guarded

variable {α β : Type} {c d : CheckState} {Q : CheckState → α → Prop} {R : CheckState → β → Prop}

theorem pure {a : α} (right : ∀ d, c.Leads P d → Q d a) : Guarded P c (pure a) Q := by
  refine fun s leads => ⟨fun b t returned => ?_, fun e t raised => ?_⟩
  · obtain ⟨rfl, rfl⟩ := (returns_pure_iff _ _).mp returned
    exact ⟨.refl leads.genuine, right _ leads⟩
  · exact absurd raised (raises_pure_iff _ _).mp

theorem bind {run : DerivationM α} {next : α → DerivationM β} (first : Guarded P c run Q)
    (second : ∀ d a, c.Leads P d → Q d a → Guarded P d (next a) R) :
    Guarded P c (run >>= next) R := by
  intro s leads
  obtain ⟨returns, raises⟩ := first s leads
  refine ⟨fun b t returned => ?_, fun e t raised internal => ?_⟩
  · obtain ⟨a, u, one, two⟩ := (returns_bind_iff ..).mp returned
    obtain ⟨begun, right⟩ := returns a u one
    obtain ⟨ended, result⟩ :=
      (second _ a (leads.trans begun) right u (.refl begun.genuine)).1 b t two
    exact ⟨begun.trans ended, result⟩
  · rcases (raises_bind_iff ..).mp raised with stopped | ⟨a, u, one, two⟩
    · exact raises e t stopped internal
    · obtain ⟨begun, right⟩ := returns a u one
      exact (second _ a (leads.trans begun) right u (.refl begun.genuine)).2 e t two internal

theorem later {run : DerivationM α} (guarded : Guarded P c run Q) (leads : c.Leads P d) :
    Guarded P d run Q :=
  fun s further => guarded s (leads.trans further)

theorem asking {question : CheckM α} (loading : Loading P c question Q) :
    Guarded P c (Derivation.asking question) Q := by
  refine fun s leads => ⟨fun a t asked => ?_, fun e t raised internal => ?_⟩
  · exact leads_of_asking (loading.later leads) asked leads.genuine
  · exact absurd internal (DerivationFault.not_isInternal_of_check (check_of_asking raised))

theorem deriveType (homed : P.Homes c handle) (path : TypePath) :
    Guarded P c (Derivation.deriveType P 0 path handle) fun _ _ => True := by
  refine fun s leads => ⟨fun o t returned => ⟨?_, trivial⟩, fun e t raised internal => ?_⟩
  · exact leads_of_returns returned leads.genuine (leads.homed homed)
  · exact ⟨_, rfl, deepening P 0 path handle s e t raised internal leads.genuine
      (leads.homed homed)⟩

theorem get : Guarded P c (get : DerivationM DerivationState) fun _ _ => True := by
  refine fun s leads => ⟨fun a t got => ?_, fun e t raised => ?_⟩
  · obtain ⟨rfl, rfl⟩ := (returns_get_iff ..).mp got
    exact ⟨.refl leads.genuine, trivial⟩
  · exact absurd raised (raises_get_iff ..).mp

theorem each {step : β → α → DerivationM β} {items : List α}
    (guarded : ∀ item ∈ items, ∀ b, Guarded P c (step b item) fun _ _ => True) (b : β) :
    Guarded P c (items.foldlM step b) fun _ _ => True := by
  induction items generalizing b c with
  | nil => exact .pure fun _ _ => trivial
  | cons item rest ih =>
    rw [List.foldlM_cons]
    exact (guarded item List.mem_cons_self b).bind fun d next leads _ =>
      ih (fun item member b => (guarded item (List.mem_cons_of_mem _ member) b).later leads) next

theorem all {f : α → DerivationM β} {items : List α}
    (guarded : ∀ item ∈ items, Guarded P c (f item) fun _ _ => True) :
    Guarded P c (items.mapM f) fun _ _ => True := by
  induction items generalizing c with
  | nil => exact .pure fun _ _ => trivial
  | cons item rest ih =>
    rw [List.mapM_cons]
    refine (guarded item List.mem_cons_self).bind fun d b leads _ => ?_
    refine (ih fun item member => (guarded item (List.mem_cons_of_mem _ member)).later leads).bind
      fun _ _ _ _ => ?_
    exact .pure fun _ _ => trivial

theorem afterParameter {function : String} {docs : List (String × String)} {o : SignatureOutcome}
    {parameter : TypedParameter} (homed : P.Homes c parameter.handle) :
    Guarded P c (Derivation.afterParameter P function docs o parameter) fun _ _ => True := by
  unfold Derivation.afterParameter
  split
  · exact .pure fun _ _ => trivial
  · refine (deriveType homed _).bind fun _ outcome _ _ => ?_
    split
    all_goals exact .pure fun _ _ => trivial

theorem deriveFunction {f : Function} (named : f.name.isEmpty = false)
    (home : P.Loaded c f.file) : Guarded P c (Derivation.deriveFunction P f) fun _ _ => True := by
  unfold Derivation.deriveFunction deriveNamed
  rw [named]
  refine (asking (P.loading_signature home)).bind fun d signature leads ⟨parameters, result⟩ => ?_
  refine (each (fun p member o => afterParameter (parameters p member)) _).bind
    fun e o further _ => ?_
  refine (deriveType (further.homed result) _).bind fun _ outcome _ _ => ?_
  split
  all_goals exact .pure fun _ _ => trivial

theorem deriveFunctions {fs : List Function}
    (fit : ∀ f ∈ fs, f.name.isEmpty = false ∧ P.Loaded c f.file) :
    Guarded P c (Derivation.deriveFunctions P fs) fun _ _ => True := by
  unfold Derivation.deriveFunctions
  refine (all fun f member => deriveFunction (fit f member).1 (fit f member).2).bind
    fun _ _ _ _ => get.bind fun _ _ _ _ => ?_
  exact .pure fun _ _ => trivial

end Guarded

/-- Each record that has come up in a pass has one declaration, which stands in a loaded file.
And where the derivation stops with an error of its own, the limit of the depth has stopped it: a
call at depth zero came to one beyond the limit. -/
theorem overruns_of_internal (P : Program) (parsed : P.Parsed) (handles : List Handle)
    (c : CheckState) (pass : P.Pass handles c) :
    (∀ symbol source arguments aliasName, .record symbol source arguments aliasName ∈ handles →
      ∃ file, symbol.DeclaredIn file ∧ P.Loaded c file) ∧
    ∀ registry e t, Raises (deriveUnchecked P) ⟨c, registry⟩ e t → e.IsInternal →
      ∃ first, first.depth = 0 ∧ Visit.Exceeds P first e t := by
  obtain ⟨leads, homed⟩ := pass.homes
  constructor
  · intro symbol source arguments aliasName member
    cases homed _ member with
    | record declared home => exact ⟨source.file, declared, home⟩
  · intro registry e t raised internal
    have guarded := Guarded.deriveFunctions fun f => parsed.exported leads
    exact (guarded ⟨c, registry⟩ (.refl leads.genuine)).2 e t raised internal

/-- A generic record, and a type that is nested too deep. -/
def deepBox : Program := .ofLines ⟨.root, ["app", "functions.py"]⟩ [
  "from typing import Generic, TypedDict, TypeVar",
  "T = TypeVar(\"T\")",
  "class Box(TypedDict, Generic[T]):",
  "    value: T",
  "Five = list[list[list[list[list[T]]]]]",
  "def pack(box: Box[int], deep: list[Five[Five[Five[Five[int]]]]]) -> int:",
  "    return 0"]

def takesApplied (P : Program) : CheckM Bool := do
  let _ ← P.check
  match (P.source P.entry).exportedFunctions with
  | f :: _ =>
    match (← P.signature f).parameters with
    | ⟨_, .record _ _ (_ :: _) _, _, _⟩ :: _ => return true
    | _ => return false
  | [] => return false

theorem pass_of_takesApplied (parsed : P.Parsed) {c : CheckState}
    (returned : Returns (takesApplied P) (.start P) true c) :
    ∃ handles symbol source part arguments aliasName, P.Pass handles c ∧
      .record symbol source (part :: arguments) aliasName ∈ handles := by
  unfold takesApplied at returned
  obtain ⟨found, d, checked, returned⟩ := (returns_bind_iff ..).mp returned
  have begun := Program.Pass.start.posed (.check checked)
  split at returned
  · rename_i f rest exports
    obtain ⟨signature, d, signed, returned⟩ := (returns_bind_iff ..).mp returned
    have home := (parsed.exported begun.homes.1 (exports ▸ List.mem_cons_self)).2
    split at returned
    · rename_i _ symbol source part arguments aliasName _ _ _ parameters
      obtain ⟨_, rfl⟩ := (returns_pure_iff _ _).mp returned
      have posed := begun.posed (.signature home signed)
      exact ⟨_, symbol, source, part, arguments, aliasName, posed, by simp [parameters]⟩
    · obtain ⟨impossible, _⟩ := (returns_pure_iff _ _).mp returned
      cases impossible
  · obtain ⟨impossible, _⟩ := (returns_pure_iff _ _).mp returned
    cases impossible

theorem overruns_of_internal_deepBox :
    ∃ handles c symbol source part arguments aliasName t,
      deepBox.Parsed ∧ deepBox.Pass handles c ∧
      .record symbol source (part :: arguments) aliasName ∈ handles ∧
      (∃ file, symbol.DeclaredIn file ∧ deepBox.Loaded c file) ∧
      Raises (deriveUnchecked deepBox) ⟨c, {}⟩ (.tooDeep "int") t ∧
      ∃ first, first.depth = 0 ∧ Visit.Exceeds deepBox first (.tooDeep "int") t := by
  have parsed : deepBox.Parsed := Program.parsed_ofLines (by decide +kernel) _
  have runs : (runFrom (takesApplied deepBox) (.start deepBox)).1 = .ok true ∧
      (runFrom (deriveUnchecked deepBox)
        ⟨(runFrom (takesApplied deepBox) (.start deepBox)).2, {}⟩).1 = .error (.tooDeep "int") := by
    decide +kernel
  obtain ⟨applied, stopped⟩ := runs
  obtain ⟨handles, symbol, source, part, arguments, aliasName, pass, member⟩ :=
    pass_of_takesApplied parsed (returns_of_ok applied)
  obtain ⟨declared, limited⟩ := overruns_of_internal deepBox parsed handles _ pass
  have raised := raises_of_error stopped
  exact ⟨handles, _, symbol, source, part, arguments, aliasName, _, parsed, pass, member,
    declared _ _ _ _ member, raised, limited _ _ _ raised trivial⟩

end Derivation

end HintSchema

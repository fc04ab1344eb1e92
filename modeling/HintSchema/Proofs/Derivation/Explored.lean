import HintSchema.Proofs.Derivation.Supported
import HintSchema.Proofs.Hints.Answers

/-!
How far a derivation that returns has looked. Whatever fails on the way, and whatever is taken back,
all handles that it has come to are handles whose parts it has come to as well, save for records that
were registered before (`explored_of_returns`).
-/

namespace HintSchema

open Schema

namespace Derivation

def Views (P : Program) (handle shown : Handle) : Prop := Answers (P.apparent handle) shown

/-- The handle is a record that has the name on whatever path it is met. -/
def Names (P : Program) (shown : Handle) (name : String) : Prop :=
  shown.record?.isSome ∧ ∀ path, nameAt? P path shown = some (.ok name)

/-- A handle that has to be derived for one that is seen. The properties of a record come to it only
if the record has a name. -/
inductive Part (P : Program) : Handle → Handle → Prop
  | element {name : String} {element : Handle} : Part P (.list name element) element
  | single {members : List Handle} {single : Handle} {absence : Absence}
      (split : (Handle.union members).nullable? = some (single, absence)) :
      Part P (.union members) single
  | property {shown : Handle} {source : RecordSource} {arguments : List Handle} {name : String}
      {members : Properties} {member : String × Handle}
      (record : shown.record? = some (source, arguments)) (named : Names P shown name)
      (answers : Answers (P.propertiesOf source arguments) members) (present : member ∈ members) :
      Part P shown member.2

def Yields (P : Program) (handle further : Handle) : Prop :=
  ∃ shown, Views P handle shown ∧ Part P shown further

/-- Some handles that deriving them does not lead out of. What is seen of them has a name, if it is
a record, that does not depend on the path and that no other record has. -/
structure Territory (P : Program) (M : Handle → Prop) : Prop where
  further : ∀ handle further, M handle → Yields P handle further → M further
  steady : ∀ handle shown, M handle → Views P handle shown → shown.record?.isSome →
    ∀ path path', nameAt? P path shown = nameAt? P path' shown
  apart : ∀ handle shown other shown' name, M handle → Views P handle shown → M other →
    Views P other shown' → Names P shown name → Names P shown' name → shown = shown'

section

variable {P : Program} {M : Handle → Prop} {handle shown : Handle} {path : TypePath}
  {name : String} {s t : DerivationState}

theorem Names.unique {other : String} (named : Names P shown name) (again : Names P shown other) :
    name = other := by
  have same := (named.2 []).symm.trans (again.2 [])
  cases same
  rfl

theorem Territory.names (territory : Territory P M) (met : M handle) (seen : Views P handle shown)
    {source : RecordSource} {arguments : List Handle}
    (record : shown.record? = some (source, arguments))
    (named : nameAt? P path shown = some (.ok name)) : Names P shown name := by
  have isRecord := Option.isSome_of_eq_some record
  exact ⟨isRecord, fun other => (territory.steady _ _ met seen isRecord other path).trans named⟩

theorem answers_of_asking {α : Type} {question : CheckM α} {a : α}
    (uniform : Uniform (P.Consistent []) question) (consistent : P.Consistent [] s.check)
    (asked : Returns (asking question) s a t) :
    Answers question a ∧ P.Consistent [] t.check := by
  obtain ⟨c, answered, rfl⟩ := (returns_asking_iff ..).mp asked
  exact Program.answers_of_returns uniform consistent answered

end

/-- Registered under its name, the record has an entry of its own identity. -/
def Lists (P : Program) (r : Registry) (shown : Handle) : Prop :=
  ∃ e ∈ r.objects, Names P shown e.1 ∧ e.2.identity = shown.identity

/-- Each entry is registered for a record that is met. -/
def Tracks (P : Program) (M : Handle → Prop) (r : Registry) : Prop :=
  ∀ e ∈ r.objects, ∃ handle shown, M handle ∧ Views P handle shown ∧ Names P shown e.1 ∧
    e.2.identity = shown.identity

/-- If it is a record, it has a name or is refused for where it is declared; with a name, its
properties can be asked for. -/
structure Answered (P : Program) (shown : Handle) : Prop where
  named : shown.record?.isSome → ∀ path, (∃ name, nameAt? P path shown = some (.ok name)) ∨
    ∃ name file, nameAt? P path shown = some (.error (.outside name file))
  properties : ∀ source arguments name, shown.record? = some (source, arguments) →
    Names P shown name → ∃ members, Answers (P.propertiesOf source arguments) members

/-- What is seen of the handle is registered already, or all parts of it are among the handles. -/
def Done (P : Program) (r : Registry) (V : Handle → Prop) (handle : Handle) : Prop :=
  ∃ shown, Views P handle shown ∧
    (Lists P r shown ∨ Answered P shown ∧ ∀ part, Part P shown part → V part)

/-- The handles `V` have been come to between two registries. -/
structure Explored (P : Program) (M : Handle → Prop) (r : Registry) (V : Handle → Prop)
    (r' : Registry) : Prop where
  met : ∀ handle, V handle → M handle
  finished : ∀ handle, V handle → Done P r V handle
  added : ∀ e ∈ r'.objects, e.1 ∉ r.objectNames → ∃ handle shown, V handle ∧
    Views P handle shown ∧ Names P shown e.1 ∧ e.2.identity = shown.identity

section

variable {P : Program} {M V W : Handle → Prop} {r r' r'' : Registry} {handle shown : Handle}
  {name : String}

theorem Lists.mem_objectNames (listed : Lists P r shown) (named : Names P shown name) :
    name ∈ r.objectNames := by
  obtain ⟨e, present, other, _⟩ := listed
  rw [named.unique other]
  exact List.mem_map_of_mem present

theorem Done.mono (finished : Done P r V handle) (wider : ∀ part, V part → W part) :
    Done P r W handle := by
  obtain ⟨shown, seen, listed | ⟨answered, parts⟩⟩ := finished
  · exact ⟨shown, seen, .inl listed⟩
  · exact ⟨shown, seen, .inr ⟨answered, fun part inside => wider part (parts part inside)⟩⟩

theorem explored_none (objects : r'.objects = r.objects) :
    Explored P M r (fun _ => False) r' := by
  refine ⟨fun _ => False.elim, fun _ => False.elim, ?_⟩
  intro e present new
  rw [objects] at present
  exact absurd (List.mem_map_of_mem present) new

theorem Explored.insert (explored : Explored P M r V r') (met : M handle)
    (finished : Done P r (fun g => g = handle ∨ V g) handle) :
    Explored P M r (fun g => g = handle ∨ V g) r' where
  met g inside := by
    rcases inside with rfl | inside
    · exact met
    · exact explored.met g inside
  finished g inside := by
    rcases inside with rfl | inside
    · exact finished
    · exact (explored.finished g inside).mono fun _ => .inr
  added e present new := by
    obtain ⟨g, shown, inside, rest⟩ := explored.added e present new
    exact ⟨g, shown, .inr inside, rest⟩

theorem Explored.tracks (explored : Explored P M r V r') (extended : r.Extends r')
    (tracks : Tracks P M r) : Tracks P M r' := by
  intro e present
  by_cases old : e.1 ∈ r.objectNames
  · exact tracks e (extended.mem_objects present old)
  · obtain ⟨handle, shown, inside, rest⟩ := explored.added e present old
    exact ⟨handle, shown, explored.met handle inside, rest⟩

/-- What was registered in between was come to in between: it is done with as well. -/
theorem Explored.trans (territory : Territory P M) (first : Explored P M r V r')
    (second : Explored P M r' W r'') (extended : r.Extends r')
    (later : r'.Extends r'') : Explored P M r (fun g => V g ∨ W g) r'' where
  met g inside := inside.elim (first.met g) (second.met g)
  finished g inside := by
    rcases inside with inside | inside
    · exact (first.finished g inside).mono fun _ => .inl
    · obtain ⟨shown, seen, listed | ⟨answered, parts⟩⟩ := second.finished g inside
      · obtain ⟨e, present, named, same⟩ := listed
        by_cases old : e.1 ∈ r.objectNames
        · exact ⟨shown, seen, .inl ⟨e, extended.mem_objects present old, named, same⟩⟩
        · obtain ⟨h, shown', inside', seen', named', _⟩ := first.added e present old
          obtain rfl := territory.apart _ _ _ _ _ (second.met g inside) seen
            (first.met h inside') seen' named named'
          obtain ⟨view, viewed, listed | ⟨answered, parts⟩⟩ := first.finished h inside'
          · obtain rfl := viewed.unique seen'
            exact absurd (listed.mem_objectNames named') old
          · obtain rfl := viewed.unique seen'
            exact ⟨view, seen, .inr ⟨answered, fun part inside => .inl (parts part inside)⟩⟩
      · exact ⟨shown, seen, .inr ⟨answered, fun part inside => .inr (parts part inside)⟩⟩
  added e present new := by
    by_cases old : e.1 ∈ r'.objectNames
    · obtain ⟨g, shown, inside, rest⟩ := first.added e (later.mem_objects present old) new
      exact ⟨g, shown, .inl inside, rest⟩
    · obtain ⟨g, shown, inside, rest⟩ := second.added e present old
      exact ⟨g, shown, .inr inside, rest⟩

theorem Tracks.opened (tracks : Tracks P M r) (absent : name ∉ r.objectNames) (met : M handle)
    (seen : Views P handle shown) (named : Names P shown name) :
    Tracks P M (r.putObject name ⟨shown.identity, {}⟩) := by
  intro e present
  rw [Registry.putObject_absent absent] at present
  rcases List.mem_append.mp present with old | new
  · exact tracks e old
  · cases List.mem_singleton.mp new
    exact ⟨handle, shown, met, seen, named, rfl⟩

/-- A record was opened, and then all its properties have been come to: what was done with because
of the open entry is done with. -/
theorem Explored.opened (territory : Territory P M) {identity : Identity}
    (absent : name ∉ r.objectNames) (met : M handle) (seen : Views P handle shown)
    (named : Names P shown name)
    (explored : Explored P M (r.putObject name ⟨identity, {}⟩) V r')
    (answered : Answered P shown) (parts : ∀ part, Part P shown part → V part)
    (added : ∀ e ∈ r''.objects, e.1 ∉ r.objectNames →
      e.1 = name ∧ e.2.identity = shown.identity ∨
        e ∈ r'.objects ∧ e.1 ∉ (r.putObject name ⟨identity, {}⟩).objectNames) :
    Explored P M r (fun g => g = handle ∨ V g) r'' where
  met g inside := by
    rcases inside with rfl | inside
    · exact met
    · exact explored.met g inside
  finished g inside := by
    rcases inside with rfl | inside
    · exact ⟨shown, seen, .inr ⟨answered, fun part own => .inr (parts part own)⟩⟩
    · obtain ⟨view, viewed, ⟨e, present, known, same⟩ | ⟨answered, parts⟩⟩ :=
        explored.finished g inside
      · rw [Registry.putObject_absent absent] at present
        rcases List.mem_append.mp present with old | new
        · exact ⟨view, viewed, .inl ⟨e, old, known, same⟩⟩
        · cases List.mem_singleton.mp new
          obtain rfl := territory.apart _ _ _ _ _ met seen (explored.met g inside) viewed named known
          exact ⟨shown, viewed, .inr ⟨answered, fun part own => .inr (parts part own)⟩⟩
      · exact ⟨view, viewed, .inr ⟨answered, fun part own => .inr (parts part own)⟩⟩
  added e present new := by
    rcases added e present new with ⟨rfl, same⟩ | ⟨present, new⟩
    · exact ⟨handle, shown, .inl rfl, seen, named, same⟩
    · obtain ⟨g, view, inside, rest⟩ := explored.added e present new
      exact ⟨g, view, .inr inside, rest⟩

end

def Refuses (P : Program) (handle : Handle) : Prop :=
  ∃ further shown, Relation.ReflTransGen (Yields P) handle further ∧ Views P further shown ∧
    ¬ Supported P shown

theorem Refuses.of_yields {P : Program} {handle further : Handle} (yields : Yields P handle further)
    (refuses : Refuses P further) : Refuses P handle := by
  obtain ⟨last, shown, reached, rest⟩ := refuses
  exact ⟨last, shown, .head yields reached, rest⟩

/-- What a call on a handle that is met does. -/
structure Ventures (P : Program) (M : Handle → Prop) (handle : Handle) (s : DerivationState)
    (o : Outcome) (t : DerivationState) : Prop where
  consistent : P.Consistent [] t.check
  explored : ∃ V, V handle ∧ Explored P M s.registry V t.registry
  refused : ∀ errors, o = .errors errors → Refuses P handle

def Ventured (P : Program) (M : Handle → Prop) (C : Calls) : Prop :=
  ∀ path handle s o t, C path handle s o t → M handle → P.Consistent [] s.check →
    Tracks P M s.registry → Framed s o t ∧ Ventures P M handle s o t

section

variable {P : Program} {M : Handle → Prop} {C : Calls} {path : TypePath} {name : String}
  {handle shown : Handle} {members : Properties} {found whole : PropertyOutcomes}
  {s t : DerivationState} {o : Outcome}

theorem Walk.ventures (territory : Territory P M) (each : Ventured P M C)
    (walked : Walk C path name members found s whole t) (met : ∀ m ∈ members, M m.2)
    (consistent : P.Consistent [] s.check) (tracks : Tracks P M s.registry) :
    P.Consistent [] t.check ∧ s.registry.Extends t.registry ∧
      (∃ V, (∀ m ∈ members, V m.2) ∧ Explored P M s.registry V t.registry) ∧
      (whole.errors ≠ found.errors → ∃ m ∈ members, Refuses P m.2) := by
  induction walked with
  | done =>
    exact ⟨consistent, .refl _, ⟨_, List.forall_mem_nil _, explored_none rfl⟩,
      fun differ => absurd rfl differ⟩
  | @next property handle rest outcome _ _ _ _ _ derived _ ih =>
    obtain ⟨first, others⟩ := List.forall_mem_cons.mp met
    obtain ⟨framed, after, ⟨V, own, explored⟩, refused⟩ :=
      each _ _ _ _ _ derived first consistent tracks
    obtain ⟨final, extended, ⟨W, inside, explored'⟩, failed⟩ :=
      ih others after (explored.tracks framed.extends tracks)
    refine ⟨final, framed.extends.trans extended, ⟨fun g => V g ∨ W g, ?_,
      explored.trans territory explored' framed.extends extended⟩, ?_⟩
    · exact List.forall_mem_cons.mpr ⟨.inl own, fun m member => .inr (inside m member)⟩
    · intro differ
      cases outcome with
      | errors errors => exact ⟨_, List.mem_cons_self, refused errors rfl⟩
      | type =>
        obtain ⟨m, member, refuses⟩ := failed differ
        exact ⟨m, List.mem_cons_of_mem _ member, refuses⟩

theorem answered_of_plain (plain : shown.record? = none) : Answered P shown where
  named isRecord := by
    rw [plain] at isRecord
    cases isRecord
  properties source arguments name record := by cases record.symm.trans plain

theorem record?_of_inexpressible (inexpressible : shown.isExpressible = false) :
    shown.record? = none := by
  cases record : shown.record? with
  | none => rfl
  | some => rw [Handle.isExpressible_of_record? record] at inexpressible; cases inexpressible

theorem not_part_of_inexpressible {part : Handle} (inexpressible : shown.isExpressible = false) :
    ¬ Part P shown part := by
  intro held
  cases held with
  | element => cases inexpressible
  | single split =>
    rw [Handle.isExpressible_union, split] at inexpressible
    cases inexpressible
  | property record =>
    rw [Handle.isExpressible_of_record? record] at inexpressible
    cases inexpressible

theorem Part.of_list {element part : Handle} (held : Part P (.list name element) part) :
    part = element := by
  cases held with
  | element => rfl
  | property record => cases record

theorem Part.of_union {alternatives : List Handle} {single part : Handle} {absence : Absence}
    (split : (Handle.union alternatives).nullable? = some (single, absence))
    (held : Part P (.union alternatives) part) : part = single := by
  cases held with
  | single split' =>
    cases split.symm.trans split'
    rfl
  | property record => cases record

theorem ventures_of_leaf (met : M handle) (seen : Views P handle shown) (answered : Answered P shown)
    (leaf : ∀ part, ¬ Part P shown part) (consistent : P.Consistent [] t.check)
    (objects : t.registry.objects = s.registry.objects)
    (refused : ∀ errors, o = .errors errors → ¬ Supported P shown) : Ventures P M handle s o t where
  consistent := consistent
  explored := by
    refine ⟨_, .inl rfl, (explored_none objects).insert met ?_⟩
    exact ⟨shown, seen, .inr ⟨answered, fun part held => absurd held (leaf part)⟩⟩
  refused errors failed := ⟨handle, shown, .refl, seen, refused errors failed⟩

theorem ventures_of_inner {inner : Handle} {o' : Outcome} (met : M handle)
    (seen : Views P handle shown) (plain : shown.record? = none) (held : Part P shown inner)
    (only : ∀ part, Part P shown part → part = inner) (ventured : Ventures P M inner s o' t)
    (failure : ∀ errors, o = .errors errors → o' = .errors errors) : Ventures P M handle s o t where
  consistent := ventured.consistent
  explored := by
    obtain ⟨V, own, explored⟩ := ventured.explored
    refine ⟨_, .inl rfl, explored.insert met ⟨shown, seen, .inr ⟨answered_of_plain plain, ?_⟩⟩⟩
    intro part held
    rw [only part held]
    exact .inr own
  refused errors failed :=
    (ventured.refused errors (failure errors failed)).of_yields ⟨shown, seen, held⟩

theorem ventures_of_opened (territory : Territory P M) (steadied : P.Steadied (P.Consistent []))
    (each : Ventured P M C) {source : RecordSource} {arguments : List Handle} {u : DerivationState}
    (met : M handle) (seen : Views P handle shown)
    (record : shown.record? = some (source, arguments))
    (named : nameAt? P path shown = some (.ok name)) (fresh : s.registry.object? name = none)
    (asked : Returns (asking (P.propertiesOf source arguments))
      (s.openObject name shown.identity) members t)
    (walked : Walk C path name members {} t found u) (consistent : P.Consistent [] s.check)
    (tracks : Tracks P M s.registry) {v : DerivationState} (check : v.check = u.check)
    (added : (s.registry.putObject name ⟨shown.identity, {}⟩).Extends u.registry →
      ∀ e ∈ v.registry.objects, e.1 ∉ s.registry.objectNames →
        e.1 = name ∧ e.2.identity = shown.identity ∨ e ∈ u.registry.objects ∧
          e.1 ∉ (s.registry.putObject name ⟨shown.identity, {}⟩).objectNames)
    (failure : ∀ errors, o = .errors errors → found.errors ≠ []) : Ventures P M handle s o v := by
  have named := territory.names met seen record named
  have absent := Registry.object?_eq_none_iff.mp fresh
  obtain ⟨answers, after⟩ := answers_of_asking (Program.uniform_propertiesOf steadied _ _)
    (show P.Consistent [] (s.openObject ..).check from consistent) asked
  have held (m) (member : m ∈ members) : Part P shown m.2 :=
    .property record named answers member
  have begun : Tracks P M t.registry := by
    rw [registry_of_asking asked]
    exact tracks.opened absent met seen named
  obtain ⟨final, extended, ⟨V, own, explored⟩, refused⟩ := walked.ventures territory each
    (fun m member => territory.further handle m.2 met ⟨shown, seen, held m member⟩) after begun
  rw [registry_of_asking asked] at extended explored
  refine ⟨check ▸ final, ⟨_, .inl rfl, explored.opened territory absent met seen named ?_ ?_
    (added extended)⟩, ?_⟩
  · refine ⟨fun _ other => .inl ⟨name, named.2 other⟩, fun source' arguments' _ record' _ => ?_⟩
    cases record.symm.trans record'
    exact ⟨members, answers⟩
  · intro part held
    cases held with
    | element => cases record
    | single => cases record
    | property record' _ answers' present =>
      cases record.symm.trans record'
      obtain rfl := answers.unique answers'
      exact own _ present
  · intro errors failed
    obtain ⟨m, member, refuses⟩ := refused (failure errors failed)
    exact refuses.of_yields ⟨shown, seen, held m member⟩

theorem Step.ventures (territory : Territory P M) (steadied : P.Steadied (P.Consistent []))
    (each : Ventured P M C) (met : M handle) (seen : Views P handle shown)
    (step : Step P C path shown s o t) (consistent : P.Consistent [] s.check)
    (tracks : Tracks P M s.registry) : Ventures P M handle s o t := by
  have inner {path : TypePath} {part : Handle} {o : Outcome} (held : Part P shown part)
      (derived : C path part s o t) : Ventures P M part s o t :=
    (each _ _ _ _ _ derived (territory.further handle part met ⟨shown, seen, held⟩) consistent
      tracks).2
  cases step with
  | unsupported inexpressible =>
    refine ventures_of_leaf met seen (answered_of_plain (record?_of_inexpressible inexpressible))
      (fun _ => not_part_of_inexpressible inexpressible) consistent rfl fun _ _ supported => ?_
    rw [isExpressible_of_supported supported] at inexpressible
    cases inexpressible
  | scalar named =>
    refine ventures_of_leaf met seen (answered_of_plain rfl) (fun part held => ?_) consistent
      (Registry.objects_addScalar _ _) (fun _ impossible => by cases impossible)
    cases held with
    | property record => cases record
  | list derived =>
    exact ventures_of_inner met seen rfl .element (fun _ => Part.of_list) (inner .element derived)
      fun _ impossible => by cases impossible
  | listFailed failed =>
    exact ventures_of_inner met seen rfl .element (fun _ => Part.of_list) (inner .element failed)
      fun _ same => same
  | nullable split derived =>
    exact ventures_of_inner met seen rfl (.single split) (fun _ => Part.of_union split)
      (inner (.single split) derived) fun _ impossible => by cases impossible
  | nullableFailed split failed =>
    exact ventures_of_inner met seen rfl (.single split) (fun _ => Part.of_union split)
      (inner (.single split) failed) fun _ same => same
  | outside record named =>
    have nameless (name : String) : ¬ Names P shown name := by
      intro other
      cases (other.2 path).symm.trans named
    have answered : Answered P shown := by
      refine ⟨fun isRecord other => .inr ?_, fun _ _ _ _ other => absurd other (nameless _)⟩
      exact ⟨_, _, (territory.steady _ _ met seen isRecord other path).trans named⟩
    refine ventures_of_leaf met seen answered ?_ consistent rfl ?_
    · intro part held
      cases held with
      | element | single => cases record
      | property _ other => exact nameless _ other
    · intro _ _ supported
      obtain ⟨symbol, aliasName, rfl⟩ := eq_record_of_record? record
      exact not_declaredInside_of_outside named supported
  | @known _ _ _ name entry _ record named found same =>
    have listed : Lists P s.registry shown := ⟨(name, entry), Registry.mem_of_object? found,
      territory.names met seen record named, same⟩
    exact ⟨consistent, ⟨_, .inl rfl, (explored_none rfl).insert met ⟨shown, seen, .inl listed⟩⟩,
      fun _ impossible => by cases impossible⟩
  | conflict record named found other =>
    obtain ⟨g, view, met', seen', named', same⟩ := tracks _ (Registry.mem_of_object? found)
    obtain rfl := territory.apart _ _ _ _ _ met seen met' seen'
      (territory.names met seen record named) named'
    exact absurd same other
  | registered record named fresh asked walked clean =>
    refine ventures_of_opened territory steadied each met seen record named fresh asked walked
      consistent tracks rfl (fun extended e present new => ?_) fun _ impossible => by cases impossible
    rcases Registry.mem_closed (Registry.object?_eq_none_iff.mp fresh) extended present new with
      rfl | nested
    · exact .inl ⟨rfl, rfl⟩
    · exact .inr nested
  | evicted record named fresh asked walked failed =>
    refine ventures_of_opened territory steadied each met seen record named fresh asked walked
      consistent tracks rfl (fun _ e present new => ?_) fun _ _ => failed
    -- Only what was registered before the call is left.
    have kept := (List.mem_filter.mp present).2
    exact absurd (List.contains_iff_mem.mp kept) new

theorem ventures_of_returns (territory : Territory P M) (steadied : P.Steadied (P.Consistent []))
    {depth : Int} (returned : Returns (deriveType P depth path handle) s o t) (met : M handle)
    (consistent : P.Consistent [] s.check) (tracks : Tracks P M s.registry) :
    Ventures P M handle s o t := by
  refine deriveType_induct (M := fun _ _ handle s o t => M handle → P.Consistent [] s.check →
    Tracks P M s.registry → Ventures P M handle s o t) ?_ returned met consistent tracks
  intro _ _ _ _ _ _ _ _ _ asked step met consistent tracks
  obtain ⟨seen, after⟩ :=
    answers_of_asking (Program.uniform_apparent steadied _) consistent asked
  have same := registry_of_asking asked
  have each := step.ventures territory steadied
    (fun _ _ _ _ _ derived met consistent tracks =>
      ⟨framed_of_returns derived.1, derived.2 met consistent tracks⟩) met seen after
    (same ▸ tracks)
  exact ⟨each.consistent, same ▸ each.explored, each.refused⟩

end

end Derivation

end HintSchema

import HintSchema.Proofs.Derivation.Explored

/-!
The types that handles have, told without the paths on which they were met: a handle has at most one
(`Typed.unique`), and if it has one, so has each handle that has to be derived for it.
-/

namespace HintSchema

open Schema

namespace Derivation

/-- The type stands for what is seen of the handle. A record is registered under the name that it
has. -/
inductive Typed (P : Program) (r : Registry) : Handle → TypeDef → Prop
  | scalar {handle : Handle} {kind : Intrinsic} {name : String}
      (seen : Views P handle (.intrinsic kind)) (named : kind.scalarName? = some name) :
      Typed P r handle (.named name .scalar)
  | list {handle element : Handle} {name : String} {type : TypeDef}
      (seen : Views P handle (.list name element)) (inner : Typed P r element type) :
      Typed P r handle (.array type)
  | nullable {handle single : Handle} {members : List Handle} {absence : Absence} {type : TypeDef}
      (seen : Views P handle (.union members))
      (split : (Handle.union members).nullable? = some (single, absence))
      (inner : Typed P r single type) : Typed P r handle (.nullable type absence)
  | record {handle shown : Handle} {name : String} (seen : Views P handle shown)
      (named : Names P shown name) (registered : r.identity? name = some shown.identity) :
      Typed P r handle (.named name .object)

/-- The entry holds the types of a record's properties. -/
def Holds (P : Program) (r : Registry) (shown : Handle) (e : String × RegisteredType) : Prop :=
  ∃ source arguments members, shown.record? = some (source, arguments) ∧ Names P shown e.1 ∧
    e.2.identity = shown.identity ∧ Answers (P.propertiesOf source arguments) members ∧
    List.Forall₂ (fun member property => property.name = member.1 ∧
      Typed P r member.2 property.type) members e.2.type.properties

/-- The entry is that of a record which has to be derived for the handle. -/
def Backs (P : Program) (r : Registry) (start : Handle) (e : String × RegisteredType) : Prop :=
  ∃ handle shown, Relation.ReflTransGen (Yields P) start handle ∧ Views P handle shown ∧
    Holds P r shown e

section

variable {P : Program} {M : Handle → Prop} {r R : Registry} {handle shown further : Handle}
  {e : String × RegisteredType}

theorem Backs.of_yields (yields : Yields P handle further) (backs : Backs P r further e) :
    Backs P r handle e := by
  obtain ⟨last, shown, reached, rest⟩ := backs
  exact ⟨last, shown, .head yields reached, rest⟩

theorem Territory.reached (territory : Territory P M) (met : M handle)
    (reached : Relation.ReflTransGen (Yields P) handle further) : M further := by
  induction reached with
  | refl => exact met
  | tail _ yields ih => exact territory.further _ _ ih yields

end

/-- What a call has come to, told of any registry that knows all that it has registered. -/
structure Attests (P : Program) (R : Registry) (handle : Handle) (s : DerivationState) (o : Outcome)
    (t : DerivationState) : Prop where
  typed : ∀ type warnings, o = .type type warnings → Typed P R handle type
  backed : ∀ e ∈ t.registry.objects, e.1 ∉ s.registry.objectNames → Backs P R handle e

def Attested (P : Program) (M : Handle → Prop) (C : Calls) : Prop :=
  ∀ path handle s o t, C path handle s o t → M handle → P.Consistent [] s.check →
    Tracks P M s.registry → (∀ errors, o = .errors errors → errors ≠ []) ∧ Framed s o t ∧
      Ventures P M handle s o t ∧ ∀ R, t.registry.Knows R → Attests P R handle s o t

section

variable {P : Program} {M : Handle → Prop} {C : Calls} {path : TypePath} {name : String}
  {handle shown : Handle} {members : Properties} {found whole : PropertyOutcomes}
  {s t : DerivationState} {o : Outcome} {R : Registry}

theorem Attested.ventured (each : Attested P M C) : Ventured P M C := by
  intro path handle s o t derived met consistent tracks
  obtain ⟨_, framed, ventures, _⟩ := each _ _ _ _ _ derived met consistent tracks
  exact ⟨framed, ventures⟩

theorem Ventures.tracks (ventures : Ventures P M handle s o t) (framed : Framed s o t)
    (tracks : Tracks P M s.registry) : Tracks P M t.registry := by
  obtain ⟨_, _, explored⟩ := ventures.explored
  exact explored.tracks framed.extends tracks

theorem Walk.attests (territory : Territory P M) (each : Attested P M C)
    (walked : Walk C path name members found s whole t) (met : ∀ m ∈ members, M m.2)
    (consistent : P.Consistent [] s.check) (tracks : Tracks P M s.registry)
    (known : t.registry.Knows R) :
    (whole.errors = [] → ∃ new, whole.properties = found.properties ++ new ∧
      List.Forall₂ (fun member property => property.name = member.1 ∧
        Typed P R member.2 property.type) members new) ∧
    ∀ e ∈ t.registry.objects, e.1 ∉ s.registry.objectNames → ∃ m ∈ members, Backs P R m.2 e := by
  induction walked with
  | done =>
    refine ⟨fun _ => ⟨[], by simp, .nil⟩, fun e present new => ?_⟩
    exact absurd (List.mem_map_of_mem present) new
  | @next property handle rest outcome found whole s t u derived walked ih =>
    obtain ⟨first, others⟩ := List.forall_mem_cons.mp met
    obtain ⟨reasons, framed, ventures, attests⟩ := each _ _ _ _ _ derived first consistent tracks
    have after := ventures.tracks framed tracks
    obtain ⟨_, extended, _, _⟩ :=
      walked.ventures territory each.ventured others ventures.consistent after
    have ⟨typed, backed⟩ := attests R (extended.knows.trans known)
    obtain ⟨properties, entries⟩ := ih others ventures.consistent after known
    constructor
    · intro clean
      obtain ⟨new, same, related⟩ := properties clean
      cases outcome with
      | errors errors =>
        have none := walked.errors_prefix
        rw [clean] at none
        have empty := (List.append_eq_nil_iff.mp (List.prefix_nil.mp none)).2
        exact absurd empty (reasons errors rfl)
      | type type warnings =>
        refine ⟨⟨property, type⟩ :: new, ?_, .cons ⟨rfl, typed type warnings rfl⟩ related⟩
        rw [same]
        simp [PropertyOutcomes.add]
    · intro e present new
      by_cases old : e.1 ∈ t.registry.objectNames
      · exact ⟨_, List.mem_cons_self, backed e (extended.mem_objects present old) new⟩
      · obtain ⟨m, member, backs⟩ := entries e present old
        exact ⟨m, List.mem_cons_of_mem _ member, backs⟩

theorem attests_of_objects_eq (objects : t.registry.objects = s.registry.objects)
    (typed : ∀ type warnings, o = .type type warnings → Typed P R handle type) :
    Attests P R handle s o t := by
  refine ⟨typed, fun e present new => ?_⟩
  rw [objects] at present
  exact absurd (List.mem_map_of_mem present) new

theorem Attests.of_inner {inner : Handle} {o' : Outcome} (attests : Attests P R inner s o' t)
    (yields : Yields P handle inner)
    (typed : ∀ type warnings, o = .type type warnings → Typed P R handle type) :
    Attests P R handle s o t :=
  ⟨typed, fun e present new => (attests.backed e present new).of_yields yields⟩

theorem attests_of_registered (territory : Territory P M)
    (steadied : P.Steadied (P.Consistent [])) (each : Attested P M C) {source : RecordSource}
    {arguments : List Handle} {warnings : List String} {u : DerivationState} (met : M handle)
    (seen : Views P handle shown) (record : shown.record? = some (source, arguments))
    (named : nameAt? P path shown = some (.ok name)) (fresh : s.registry.object? name = none)
    (asked : Returns (asking (P.propertiesOf source arguments))
      (s.openObject name shown.identity) members t)
    (walked : Walk C path name members {} t found u) (clean : found.errors = [])
    (consistent : P.Consistent [] s.check) (tracks : Tracks P M s.registry)
    (known : (u.closeObject name shown.identity found.properties).registry.Knows R) :
    Attests P R handle s (.type (.named name .object) warnings)
      (u.closeObject name shown.identity found.properties) := by
  have named := territory.names met seen record named
  have absent := Registry.object?_eq_none_iff.mp fresh
  obtain ⟨answers, after⟩ := answers_of_asking (Program.uniform_propertiesOf steadied _ _)
    (show P.Consistent [] (s.openObject ..).check from consistent) asked
  have yields (m) (member : m ∈ members) : Yields P handle m.2 :=
    ⟨shown, seen, .property record named answers member⟩
  have begun : Tracks P M t.registry := by
    rw [registry_of_asking asked]
    exact tracks.opened absent met seen named
  have inside (m) (member : m ∈ members) := territory.further handle m.2 met (yields m member)
  obtain ⟨_, extended, _⟩ := walked.ventures territory each.ventured inside after begun
  rw [registry_of_asking asked] at extended
  have closed : (u.closeObject name shown.identity found.properties).registry.identities =
      u.registry.identities := Registry.identities_closed absent extended
  have known := (Registry.Knows.of_identities_eq closed).trans known
  obtain ⟨properties, entries⟩ := walked.attests territory each inside after begun known
  constructor
  · intro type warnings same
    cases same
    refine .record seen named (known _ _ ?_)
    exact extended.knows _ _ (Registry.identity?_putObject absent _)
  · intro e present new
    rcases Registry.mem_closed absent extended present new with rfl | ⟨nested, apart⟩
    · obtain ⟨properties, same, typed⟩ := properties clean
      change found.properties = properties at same
      obtain rfl := same
      exact ⟨handle, shown, .refl, seen, source, arguments, members, record, named, rfl, answers,
        typed⟩
    · rw [registry_of_asking asked] at entries
      obtain ⟨m, member, backs⟩ := entries e nested apart
      exact backs.of_yields (yields m member)

theorem Step.attests (territory : Territory P M) (steadied : P.Steadied (P.Consistent []))
    (each : Attested P M C) (met : M handle) (seen : Views P handle shown)
    (step : Step P C path shown s o t) (consistent : P.Consistent [] s.check)
    (tracks : Tracks P M s.registry) (known : t.registry.Knows R) : Attests P R handle s o t := by
  have inner {path : TypePath} {part : Handle} {o : Outcome} (held : Part P shown part)
      (derived : C path part s o t) : Attests P R part s o t :=
    (each _ _ _ _ _ derived (territory.further handle part met ⟨shown, seen, held⟩) consistent
      tracks).2.2.2 R known
  cases step with
  | unsupported | outside | conflict =>
    exact attests_of_objects_eq rfl fun _ _ impossible => by cases impossible
  | scalar named =>
    refine attests_of_objects_eq (Registry.objects_addScalar _ _) fun _ _ same => ?_
    cases same
    exact .scalar seen named
  | list derived =>
    have below := inner .element derived
    refine below.of_inner ⟨_, seen, .element⟩ fun _ _ same => ?_
    cases same
    exact .list seen (below.typed _ _ rfl)
  | listFailed failed =>
    exact (inner .element failed).of_inner ⟨_, seen, .element⟩
      fun _ _ impossible => by cases impossible
  | nullable split derived =>
    have below := inner (.single split) derived
    refine below.of_inner ⟨_, seen, .single split⟩ fun _ _ same => ?_
    cases same
    exact .nullable seen split (below.typed _ _ rfl)
  | nullableFailed split failed =>
    exact (inner (.single split) failed).of_inner ⟨_, seen, .single split⟩
      fun _ _ impossible => by cases impossible
  | known record named found same =>
    refine attests_of_objects_eq rfl fun _ _ typed => ?_
    cases typed
    refine .record seen (territory.names met seen record named) (known _ _ ?_)
    rw [Registry.identity?_of_object? found, same]
  | registered record named fresh asked walked clean =>
    exact attests_of_registered territory steadied each met seen record named fresh asked walked
      clean consistent tracks known
  | evicted =>
    refine ⟨?_, fun e present new => ?_⟩
    · intro _ _ impossible
      cases impossible
    have kept := (List.mem_filter.mp present).2
    exact absurd (List.contains_iff_mem.mp kept) new

/-- The type that a call gives is one that the handle has, and the entries that it leaves are those
of records that have to be derived for the handle. -/
theorem attests_of_returns (territory : Territory P M) (steadied : P.Steadied (P.Consistent []))
    {depth : Int} (returned : Returns (deriveType P depth path handle) s o t) (met : M handle)
    (consistent : P.Consistent [] s.check) (tracks : Tracks P M s.registry)
    (known : t.registry.Knows R) : Attests P R handle s o t := by
  refine deriveType_induct (M := fun _ _ handle s o t => M handle → P.Consistent [] s.check →
    Tracks P M s.registry → ∀ R, t.registry.Knows R → Attests P R handle s o t) ?_ returned met
    consistent tracks R known
  intro _ _ _ _ _ _ _ _ _ asked step met consistent tracks R known
  obtain ⟨seen, after⟩ :=
    answers_of_asking (Program.uniform_apparent steadied _) consistent asked
  have same := registry_of_asking asked
  have each := step.attests territory steadied
    (fun _ _ _ _ _ derived met consistent tracks =>
      ⟨fun _ failed => errors_ne_nil (failed ▸ derived.1), framed_of_returns derived.1,
        ventures_of_returns territory steadied derived.1 met consistent tracks,
        fun R known => derived.2 met consistent tracks R known⟩)
    met seen after (same ▸ tracks) known
  exact ⟨each.typed, same ▸ each.backed⟩

end

section

variable {P : Program} {M : Handle → Prop} {r r' : Registry} {handle shown part : Handle}
  {type other : TypeDef}

/-- Each entry is that of a record which has to be derived for some handle that is met. -/
def Founded (P : Program) (M : Handle → Prop) (r : Registry) : Prop :=
  ∀ e ∈ r.objects, ∃ start, M start ∧ Backs P r start e

/-- Whatever is registered, a handle has one type. -/
theorem Typed.unique (typed : Typed P r handle type) (again : Typed P r' handle other) :
    type = other := by
  induction typed generalizing other with
  | scalar seen named =>
    cases again with
    | scalar seen' named' =>
      cases seen.unique seen'
      rw [Option.some.inj (named.symm.trans named')]
    | list seen' | nullable seen' => cases seen.unique seen'
    | record seen' named' =>
      obtain rfl := seen.unique seen'
      cases named'.1
  | list seen _ ih =>
    cases again with
    | list seen' inner =>
      cases seen.unique seen'
      rw [ih inner]
    | scalar seen' | nullable seen' => cases seen.unique seen'
    | record seen' named' =>
      obtain rfl := seen.unique seen'
      cases named'.1
  | nullable seen split _ ih =>
    cases again with
    | nullable seen' split' inner =>
      cases seen.unique seen'
      cases split.symm.trans split'
      rw [ih inner]
    | scalar seen' | list seen' => cases seen.unique seen'
    | record seen' named' =>
      obtain rfl := seen.unique seen'
      cases named'.1
  | record seen named =>
    cases again with
    | scalar seen' | list seen' | nullable seen' =>
      obtain rfl := seen.unique seen'
      cases named.1
    | record seen' named' =>
      obtain rfl := seen.unique seen'
      rw [named.unique named']

theorem Typed.supported (typed : Typed P r handle type) (seen : Views P handle shown) :
    Supported P shown := by
  cases typed with
  | scalar seen' named =>
    obtain rfl := seen.unique seen'
    exact Option.isSome_of_eq_some named
  | list seen' =>
    obtain rfl := seen.unique seen'
    trivial
  | nullable seen' split =>
    obtain rfl := seen.unique seen'
    exact Option.isSome_of_eq_some split
  | record seen' named =>
    obtain rfl := seen.unique seen'
    obtain ⟨⟨source, arguments⟩, record⟩ := Option.isSome_iff_exists.mp named.1
    obtain ⟨symbol, aliasName, rfl⟩ := eq_record_of_record? record
    exact declaredInside_of_named (named.2 [])

theorem holds_of_registered (territory : Territory P M) (founded : Founded P M r) {name : String}
    (met : M handle) (seen : Views P handle shown) (named : Names P shown name)
    (registered : r.identity? name = some shown.identity) :
    ∃ entry, r.object? name = some entry ∧ Holds P r shown (name, entry) := by
  obtain ⟨entry, found, _⟩ := Registry.object?_of_identity? registered
  obtain ⟨start, met', other, view, reached, viewed, holds⟩ :=
    founded _ (Registry.mem_of_object? found)
  have ⟨_, _, _, _, named', _⟩ := holds
  obtain rfl := territory.apart _ _ _ _ _ met seen (territory.reached met' reached) viewed named
    named'
  exact ⟨entry, found, holds⟩

theorem Typed.further (territory : Territory P M) (founded : Founded P M r) (met : M handle)
    (typed : Typed P r handle type) (yields : Yields P handle part) :
    ∃ inner, Typed P r part inner := by
  obtain ⟨shown, seen, held⟩ := yields
  cases typed with
  | scalar seen' =>
    obtain rfl := seen.unique seen'
    cases held with
    | property record => cases record
  | list seen' inner =>
    obtain rfl := seen.unique seen'
    rw [held.of_list]
    exact ⟨_, inner⟩
  | nullable seen' split inner =>
    obtain rfl := seen.unique seen'
    rw [held.of_union split]
    exact ⟨_, inner⟩
  | record seen' named registered =>
    obtain rfl := seen.unique seen'
    obtain ⟨entry, _, source, arguments, members, record, _, _, answers, typed⟩ :=
      holds_of_registered territory founded met seen named registered
    cases held with
    | element | single => cases record
    | property record' _ answers' present =>
      cases record.symm.trans record'
      obtain rfl := answers.unique answers'
      obtain ⟨property, _, _, inner⟩ := exists_of_forall₂ typed present
      exact ⟨_, inner⟩

theorem Typed.reached (territory : Territory P M) (founded : Founded P M r) (met : M handle)
    (typed : Typed P r handle type) (reached : Relation.ReflTransGen (Yields P) handle part) :
    ∃ inner, Typed P r part inner := by
  induction reached with
  | refl => exact ⟨type, typed⟩
  | tail before yields ih =>
    obtain ⟨inner, typed⟩ := ih
    exact typed.further territory founded (territory.reached met before) yields

theorem Typed.not_refuses (territory : Territory P M) (founded : Founded P M r) (met : M handle)
    (typed : Typed P r handle type) : ¬ Refuses P handle := by
  rintro ⟨further, shown, reached, seen, refused⟩
  obtain ⟨_, inner⟩ := typed.reached territory founded met reached
  exact refused (inner.supported seen)

theorem properties_unique {members : Properties} {properties others : List Property}
    (typed : List.Forall₂ (fun member property => property.name = member.1 ∧
      Typed P r member.2 property.type) members properties)
    (again : List.Forall₂ (fun member property => property.name = member.1 ∧
      Typed P r' member.2 property.type) members others) : properties = others := by
  induction typed generalizing others with
  | nil =>
    cases again
    rfl
  | @cons member property _ _ first _ ih =>
    cases again with
    | @cons _ other _ _ first' later =>
      have same : property = other := by
        obtain ⟨name, type⟩ := property
        obtain ⟨name', type'⟩ := other
        rw [Property.mk.injEq]
        exact ⟨first.1.trans first'.1.symm, first.2.unique first'.2⟩
      rw [same, ih later]

/-- What holds the types of a record's properties holds the same ones in any registry. -/
theorem Holds.unique {e e' : String × RegisteredType} (holds : Holds P r shown e)
    (again : Holds P r' shown e') : e.2.type = e'.2.type := by
  obtain ⟨source, arguments, members, record, _, _, answers, typed⟩ := holds
  obtain ⟨source', arguments', members', record', _, _, answers', typed'⟩ := again
  cases record.symm.trans record'
  obtain rfl := answers.unique answers'
  exact congrArg ObjectType.mk (properties_unique typed typed')

end

end Derivation

end HintSchema

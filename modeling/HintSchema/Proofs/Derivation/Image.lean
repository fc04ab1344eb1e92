import Mathlib.Data.List.Forall2
import Mathlib.Logic.Relation
import HintSchema.Proofs.Derivation.Frame
import HintSchema.Proofs.Hints.Formation

/-!
What a registered object type says of the record it stands for. While a type is in progress its
entry is empty; between two calls every entry is whole.
-/

namespace HintSchema

open Schema

namespace Derivation

inductive Image (P : Program) (c : CheckState) : TypePath → Handle → TypeDef → Prop
  | scalar {path : TypePath} {kind : Intrinsic} {name : String}
      (named : kind.scalarName? = some name) :
      Image P c path (.intrinsic kind) (.named name .scalar)
  | list {path : TypePath} {name : String} {element : Handle} {type : TypeDef}
      (inner : Image P c (path ++ [.element]) element type) :
      Image P c path (.list name element) (.array type)
  | nullable {path : TypePath} {members : List Handle} {single : Handle} {absence : Absence}
      {type : TypeDef} (split : (Handle.union members).nullable? = some (single, absence))
      (inner : Image P c path single type) :
      Image P c path (.union members) (.nullable type absence)
  | record {path : TypePath} {handle : Handle} {source : RecordSource} {arguments : List Handle}
      {name : String} (record : handle.record? = some (source, arguments))
      (named : nameAt? P path handle = some (.ok name)) :
      Image P c path handle (.named name .object)
  | deferred {path : TypePath} {target : AliasRef} {arguments : List Handle} {shown : Handle}
      {d : CheckState} {type : TypeDef}
      (seen : Returns (P.apparent (.deferred target arguments)) c shown d)
      (inner : Image P c path shown type) :
      Image P c path (.deferred target arguments) type

theorem Image.unique {P : Program} {c : CheckState} {path : TypePath} {handle : Handle}
    {first second : TypeDef} (one : Image P c path handle first)
    (other : Image P c path handle second) : first = second := by
  induction one generalizing second with
  | scalar named =>
    cases other with
    | scalar same =>
      cases named.symm.trans same
      rfl
    | record record => cases record
  | list _ ih =>
    cases other with
    | list inner => rw [ih inner]
    | record record => cases record
  | nullable split _ ih =>
    cases other with
    | nullable same inner =>
      cases split.symm.trans same
      rw [ih inner]
    | record record => cases record
  | record record named =>
    cases other with
    | record _ same =>
      cases named.symm.trans same
      rfl
    | _ => cases record
  | deferred seen _ ih =>
    cases other with
    | deferred same inner =>
      obtain ⟨rfl, _⟩ := seen.unique same
      exact ih inner
    | record record => cases record

/-- A handle at the end of a path, and one that its derivation goes on to. -/
inductive Leads (P : Program) (c : CheckState) : TypePath × Handle → TypePath × Handle → Prop
  | deferred {path : TypePath} {target : AliasRef} {arguments : List Handle} {shown : Handle}
      {d : CheckState} (seen : Returns (P.apparent (.deferred target arguments)) c shown d) :
      Leads P c (path, .deferred target arguments) (path, shown)
  | element {path : TypePath} {name : String} {element : Handle} :
      Leads P c (path, .list name element) (path ++ [.element], element)
  | single {path : TypePath} {members : List Handle} {single : Handle} {absence : Absence}
      (split : (Handle.union members).nullable? = some (single, absence)) :
      Leads P c (path, .union members) (path, single)
  | property {path : TypePath} {handle : Handle} {source : RecordSource} {arguments : List Handle}
      {name : String} {members : Properties} {d : CheckState} {member : String × Handle}
      (record : handle.record? = some (source, arguments))
      (named : nameAt? P path handle = some (.ok name))
      (asked : Returns (P.propertiesOf source arguments) c members d)
      (present : member ∈ members) :
      Leads P c (path, handle) (path ++ [.property name member.1], member.2)

/-- The properties of the type `name` are the images of the members of a record. -/
def Pictures (P : Program) (c : CheckState) (path : TypePath) (name : String) :
    Properties → List Property → Prop :=
  List.Forall₂ fun member property =>
    property.name = member.1 ∧
      Image P c (path ++ [.property name member.1]) member.2 property.type

/-- The entry is whole: it stands for a record that a call on `start` comes to, under the name of
that record, and has the record's properties. -/
def Faithful (P : Program) (c : CheckState) (start : TypePath × Handle)
    (e : String × RegisteredType) : Prop :=
  ∃ path handle source arguments members d,
    Relation.ReflTransGen (Leads P c) start (path, handle) ∧
    handle.record? = some (source, arguments) ∧
    nameAt? P path handle = some (.ok e.1) ∧
    e.2.identity = handle.identity ∧
    Returns (P.propertiesOf source arguments) c members d ∧
    Pictures P c path e.1 members e.2.type.properties

theorem Faithful.of_leads {P : Program} {c : CheckState} {start next : TypePath × Handle}
    {e : String × RegisteredType} (leads : Leads P c start next) (faithful : Faithful P c next e) :
    Faithful P c start e := by
  obtain ⟨path, handle, source, arguments, members, d, reached, rest⟩ := faithful
  exact ⟨path, handle, source, arguments, members, d, .head leads reached, rest⟩

/-- What a call has done, told at any later time: its type is the image of the handle, and the
entries it has added are whole. -/
structure Pictured (P : Program) (path : TypePath) (handle : Handle) (s : DerivationState)
    (o : Outcome) (t : DerivationState) : Prop where
  grown : s.check.Grows P t.check
  image : ∀ c, t.check.Grows P c →
    ∀ type warnings, o = .type type warnings → Image P c path handle type
  faithful : ∀ c, t.check.Grows P c →
    ∀ e ∈ t.registry.objects, e.1 ∉ s.registry.objectNames → Faithful P c (path, handle) e

theorem pictured_of_objects_eq {P : Program} {path : TypePath} {handle : Handle}
    {s t : DerivationState} {o : Outcome} (grown : s.check.Grows P t.check)
    (objects : t.registry.objects = s.registry.objects)
    (image : ∀ c type warnings, o = .type type warnings → Image P c path handle type) :
    Pictured P path handle s o t := by
  refine ⟨grown, fun c _ => image c, ?_⟩
  intro c _ e member new
  rw [objects] at member
  exact absurd (List.mem_map_of_mem member) new

theorem Pictured.of_inner {P : Program} {path path' : TypePath} {handle handle' : Handle}
    {s t : DerivationState} {o o' : Outcome} (inner : Pictured P path' handle' s o' t)
    (leads : ∀ c, t.check.Grows P c → Leads P c (path, handle) (path', handle'))
    (image : ∀ c, t.check.Grows P c →
      (∀ type warnings, o' = .type type warnings → Image P c path' handle' type) →
      ∀ type warnings, o = .type type warnings → Image P c path handle type) :
    Pictured P path handle s o t := by
  refine ⟨inner.grown, fun c later => image c later (inner.image c later), ?_⟩
  intro c later e member new
  exact (inner.faithful c later e member new).of_leads (leads c later)

structure Sound (P : Program) (path : TypePath) (handle : Handle) (s : DerivationState)
    (o : Outcome) (t : DerivationState) : Prop where
  framed : Framed s o t
  reasons : ∀ errors, o = .errors errors → errors ≠ []
  pictured : Pictured P path handle s o t

section

variable {P : Program} {C : Calls} {path : TypePath} {name : String} {members : Properties}
  {found whole : PropertyOutcomes} {s t : DerivationState}

theorem Walk.grows (each : ∀ path handle s o t, C path handle s o t → Sound P path handle s o t)
    (walked : Walk C path name members found s whole t) : s.check.Grows P t.check := by
  induction walked with
  | done => exact .refl _
  | next derived _ ih => exact (each _ _ _ _ _ derived).pictured.grown.trans ih

theorem Walk.pictures
    (each : ∀ path handle s o t, C path handle s o t → Sound P path handle s o t)
    (walked : Walk C path name members found s whole t) (clean : whole.errors = [])
    {c : CheckState} (later : t.check.Grows P c) :
    ∃ new, whole.properties = found.properties ++ new ∧ Pictures P c path name members new := by
  induction walked with
  | done => exact ⟨[], by simp, .nil⟩
  | @next property handle rest outcome _ _ _ _ _ derived walked ih =>
    have sound := each _ _ _ _ _ derived
    obtain ⟨new, properties, pictures⟩ := ih clean later
    cases outcome with
    | errors errors =>
      have none := walked.errors_prefix
      rw [clean] at none
      have empty := (List.append_eq_nil_iff.mp (List.prefix_nil.mp none)).2
      exact absurd empty (sound.reasons _ rfl)
    | type type warnings =>
      have image := sound.pictured.image c ((walked.grows each).trans later) _ _ rfl
      refine ⟨⟨property, type⟩ :: new, ?_, .cons ⟨rfl, image⟩ pictures⟩
      rw [properties]
      simp [PropertyOutcomes.add]

theorem Walk.faithful
    (each : ∀ path handle s o t, C path handle s o t → Sound P path handle s o t)
    (walked : Walk C path name members found s whole t) {c : CheckState}
    (later : t.check.Grows P c) {e : String × RegisteredType} (present : e ∈ t.registry.objects)
    (new : e.1 ∉ s.registry.objectNames) :
    ∃ m ∈ members, Faithful P c (path ++ [.property name m.1], m.2) e := by
  induction walked with
  | done => exact absurd (List.mem_map_of_mem present) new
  | @next property handle rest _ _ _ s t u derived walked ih =>
    by_cases known : e.1 ∈ t.registry.objectNames
    · have extended := walked.extends fun _ _ _ _ _ derived => (each _ _ _ _ _ derived).framed
      have pictured := (each _ _ _ _ _ derived).pictured
      have faithful := pictured.faithful c ((walked.grows each).trans later) e
      exact ⟨_, List.mem_cons_self, faithful (extended.mem_objects present known) new⟩
    · obtain ⟨m, member, faithful⟩ := ih later present known
      exact ⟨m, List.mem_cons_of_mem _ member, faithful⟩

end

/-- A record that is registered anew: its own entry comes first, then those of its properties. -/
theorem pictured_of_registered {P : Program} {C : Calls} {path : TypePath} {handle : Handle}
    {source : RecordSource} {arguments : List Handle} {name : String} {members : Properties}
    {found : PropertyOutcomes} {warnings : List String} {s t u : DerivationState}
    (each : ∀ path handle s o t, C path handle s o t → Sound P path handle s o t)
    (record : handle.record? = some (source, arguments))
    (named : nameAt? P path handle = some (.ok name)) (fresh : s.registry.object? name = none)
    (asked : Returns (asking (P.propertiesOf source arguments))
      (s.openObject name handle.identity) members t)
    (walked : Walk C path name members {} t found u) (clean : found.errors = []) :
    Pictured P path handle s (.type (.named name .object) warnings)
      (u.closeObject name handle.identity found.properties) := by
  obtain ⟨_, first, again⟩ :=
    asked_settled (Program.settles_propertiesOf .any _ fun _ _ => trivial) asked
  have second := walked.grows each
  constructor
  · exact first.trans second
  · intro c _ type warnings same
    cases same
    exact .record record named
  · intro c later e present new
    obtain ⟨d, answered⟩ := again c (second.trans later)
    have absent := Registry.object?_eq_none_iff.mp fresh
    have extended := opened_extends (fun _ _ _ _ _ derived => (each _ _ _ _ _ derived).framed)
      asked walked
    -- The type's own entry was empty until now; the others are whole since their calls returned.
    rcases Registry.mem_closed absent extended present new with rfl | ⟨nested, apart⟩
    · obtain ⟨properties, same, pictures⟩ := walked.pictures each clean later
      change found.properties = properties at same
      rw [← same] at pictures
      exact ⟨path, handle, source, arguments, members, d, .refl, record, named, rfl, answered,
        pictures⟩
    · obtain ⟨m, member, faithful⟩ :=
        walked.faithful each later nested (by rwa [registry_of_asking asked])
      exact faithful.of_leads (.property record named answered member)

theorem Step.pictured {P : Program} {C : Calls} {path : TypePath} {handle : Handle}
    {s t : DerivationState} {o : Outcome}
    (each : ∀ path handle s o t, C path handle s o t → Sound P path handle s o t)
    (step : Step P C path handle s o t) : Pictured P path handle s o t := by
  have framed : ∀ path handle s o t, C path handle s o t → Framed s o t :=
    fun _ _ _ _ _ derived => (each _ _ _ _ _ derived).framed
  cases step with
  | unsupported | outside | conflict =>
    exact pictured_of_objects_eq (.refl _) rfl fun _ _ _ same => by cases same
  | scalar named =>
    refine pictured_of_objects_eq (.refl _) (Registry.objects_addScalar _ _) ?_
    intro _ _ _ same
    cases same
    exact .scalar named
  | list derived =>
    apply (each _ _ _ _ _ derived).pictured.of_inner fun _ _ => .element
    intro c _ image _ _ same
    cases same
    exact .list (image _ _ rfl)
  | listFailed failed =>
    apply (each _ _ _ _ _ failed).pictured.of_inner fun _ _ => .element
    intro _ _ _ _ _ same
    cases same
  | nullable split derived =>
    apply (each _ _ _ _ _ derived).pictured.of_inner fun _ _ => .single split
    intro c _ image _ _ same
    cases same
    exact .nullable split (image _ _ rfl)
  | nullableFailed split failed =>
    apply (each _ _ _ _ _ failed).pictured.of_inner fun _ _ => .single split
    intro _ _ _ _ _ same
    cases same
  | known record named found same =>
    apply pictured_of_objects_eq (.refl _) rfl
    intro _ _ _ same
    cases same
    exact .record record named
  | registered record named fresh asked walked clean =>
    exact pictured_of_registered each record named fresh asked walked clean
  | evicted record named fresh asked walked failed =>
    have failure := Step.framed framed (.evicted record named fresh asked walked failed)
    obtain ⟨_, first, _⟩ :=
      asked_settled (Program.settles_propertiesOf .any _ fun _ _ => trivial) asked
    have second := walked.grows each
    exact pictured_of_objects_eq (first.trans second) failure.1 fun _ _ _ same => by cases same

theorem pictured_of_returns {P : Program} {depth : Int} {path : TypePath} {handle : Handle}
    {s t : DerivationState} {o : Outcome}
    (returned : Returns (deriveType P depth path handle) s o t) : Pictured P path handle s o t := by
  refine deriveType_induct (M := fun _ => Pictured P) ?_ returned
  intro depth path handle shown s u o t _ seen step
  have pictured := step.pictured fun _ _ _ _ _ derived =>
    ⟨framed_of_returns derived.1, fun _ failed => errors_ne_nil (failed ▸ derived.1), derived.2⟩
  obtain ⟨_, first, again⟩ :=
    asked_settled (Program.settles_apparent Formation.any trivial fun _ _ => trivial) seen
  have whole : Pictured P path shown s o t := by
    refine ⟨first.trans pictured.grown, pictured.image, ?_⟩
    rw [← registry_of_asking seen]
    exact pictured.faithful
  cases handle with
  | deferred target arguments =>
    apply whole.of_inner
    · intro c later
      obtain ⟨d, answered⟩ := again c (pictured.grown.trans later)
      exact .deferred answered
    · intro c later image type warnings same
      obtain ⟨d, answered⟩ := again c (pictured.grown.trans later)
      exact .deferred answered (image type warnings same)
  | _ =>
    obtain ⟨_, answered, _⟩ := (returns_asking_iff ..).mp seen
    obtain ⟨rfl, _⟩ := (returns_pure_iff _ _).mp answered
    exact whole

/-- A pass: calls for types on one context, and any other questions between them. -/
inductive Session (P : Program) : List (TypePath × Handle) → DerivationState → Prop
  | start (c : CheckState) : Session P [] { check := c }
  | asked {calls : List (TypePath × Handle)} {s t : DerivationState} {α : Type} {a : α}
      {question : CheckM α} {R : α → Prop} (session : Session P calls s)
      (settled : Settles P question R) (answered : Returns (asking question) s a t) :
      Session P calls t
  | derived {calls : List (TypePath × Handle)} {s t : DerivationState} {depth : Int}
      {path : TypePath} {handle : Handle} {o : Outcome} (session : Session P calls s)
      (returned : Returns (deriveType P depth path handle) s o t) :
      Session P ((path, handle) :: calls) t

theorem Session.faithful {P : Program} {calls : List (TypePath × Handle)} {t : DerivationState}
    (session : Session P calls t) {c : CheckState} (later : t.check.Grows P c) :
    ∀ e ∈ t.registry.objects, ∃ call ∈ calls, Faithful P c call e := by
  induction session with
  | start => exact List.forall_mem_nil _
  | asked _ settled answered ih =>
    rw [registry_of_asking answered]
    exact ih ((asked_settled settled answered).2.1.trans later)
  | @derived calls s t _ path handle _ _ returned ih =>
    have pictured := pictured_of_returns returned
    have extended := (framed_of_returns returned).extends
    intro e present
    by_cases known : e.1 ∈ s.registry.objectNames
    · have old := extended.mem_objects present known
      obtain ⟨call, member, earlier⟩ := ih (pictured.grown.trans later) e old
      exact ⟨call, List.mem_cons_of_mem _ member, earlier⟩
    · exact ⟨_, List.mem_cons_self, pictured.faithful c later e present known⟩

/-- After any calls that return, each registered object type stands for a record that one of the
calls came to: it has the record's properties in their order, and the type of each is the image of
its handle. -/
theorem registry_faithful (P : Program) (calls : List (TypePath × Handle)) (t : DerivationState)
    (session : Session P calls t) :
    ∀ e ∈ t.registry.objects, ∃ call ∈ calls, Faithful P t.check call e :=
  session.faithful (.refl _)

/-- Inside the alias `Nested` the name `Nested` stays a deferred alias. -/
def nestedBoxes : Program := .ofLines ⟨.root, ["app", "functions.py"]⟩ [
  "from typing import Generic, Optional, TypedDict, TypeVar",
  "T = TypeVar(\"T\")",
  "class Box(TypedDict, Generic[T]):",
  "    value: T",
  "Nested = Optional[\"Box[Nested]\"]"]

def unwrapBoxes : DerivationM (List (String × ObjectType)) := do
  let box ← asking (nestedBoxes.resolve nestedBoxes.entry [] (some (.name ⟨6, 16⟩ "Nested")))
  let _ ← deriveType nestedBoxes 0 [.parameter "unwrap" "box"] box
  let _ ← deriveType nestedBoxes 0 [.result "unwrap"] .any
  return (← get).registry.objectTypes

theorem registry_faithful_nestedBoxes :
    ∃ calls t, Session nestedBoxes calls t ∧
      t.registry.objectTypes =
        [("Box_Nested_", ⟨[⟨"value", .nullable (.named "Box_Nested_" .object) .null⟩]⟩)] ∧
      ∀ e ∈ t.registry.objects, ∃ call ∈ calls, Faithful nestedBoxes t.check call e := by
  have whole : (runFrom unwrapBoxes { check := .start nestedBoxes }).1 =
      .ok [("Box_Nested_", ⟨[⟨"value", .nullable (.named "Box_Nested_" .object) .null⟩]⟩)] := by
    decide +kernel
  have returned := returns_of_ok whole
  unfold unwrapBoxes at returned
  simp only [returns_bind_iff, returns_get_iff, returns_pure_iff] at returned
  obtain ⟨box, _, resolved, _, _, first, _, t, second, _, _, ⟨rfl, rfl⟩, types, _⟩ := returned
  have settled : Settles nestedBoxes
      (nestedBoxes.resolve nestedBoxes.entry [] (some (.name ⟨6, 16⟩ "Nested"))) fun _ => True :=
    Program.settles_resolve Formation.any _ (fun _ _ => trivial) _
  have session := (((Session.start _).asked settled resolved).derived first).derived second
  exact ⟨_, _, session, types.symm, registry_faithful _ _ _ session⟩

end Derivation

end HintSchema

import HintSchema.Proofs.Derivation.Closure
import HintSchema.Proofs.Derivation.Image
import HintSchema.Proofs.Derivation.Kept
import HintSchema.Proofs.Derivation.Tables

/-!
Which identities the names in derived types stand for. While a call is made a name can be taken
back and given to another record, but the types that have it then fail as well; of what a call
leaves, each reference has the identity of the record it was derived from
(`references_identified`).
-/

namespace HintSchema

open Schema

namespace Registry

variable {r r' r'' : Registry} {name : String}

theorem identity?_of_object? {entry : RegisteredType} (found : r.object? name = some entry) :
    r.identity? name = some entry.identity := by
  rw [identity?_eq, found, Option.map_some]

theorem object?_of_identity? {identity : Identity} (found : r.identity? name = some identity) :
    ∃ entry, r.object? name = some entry ∧ entry.identity = identity := by
  rw [identity?_eq] at found
  exact Option.map_eq_some_iff.mp found

def Knows (r r' : Registry) : Prop :=
  ∀ name identity, r.identity? name = some identity → r'.identity? name = some identity

theorem Knows.trans (first : r.Knows r') (second : r'.Knows r'') : r.Knows r'' :=
  fun name identity known => second name identity (first name identity known)

theorem Knows.of_identities_eq (same : r'.identities = r.identities) : r.Knows r' := by
  intro name identity known
  rwa [identity?, same]

theorem Extends.knows (extended : r.Extends r') : r.Knows r' := by
  obtain ⟨new, objects, _⟩ := extended.objects
  intro name identity known
  rw [identity?, identities, objects, List.map_append, List.lookup_append]
  unfold identity? identities at known
  rw [known]
  rfl

theorem identity?_putObject (absent : name ∉ r.objectNames) (entry : RegisteredType) :
    (r.putObject name entry).identity? name = some entry.identity := by
  apply identity?_of_object?
  have missing := object?_eq_none_iff.mpr absent
  unfold object? at missing ⊢
  rw [putObject_absent absent, List.lookup_append, missing]
  simp

end Registry

namespace Derivation

/-- The type was derived from the handle, and each name of an object type in it stands in the
registry for the record that it was derived from. -/
inductive Identified (P : Program) (c : CheckState) (r : Registry) :
    TypePath → Handle → TypeDef → Prop
  | scalar {path : TypePath} {handle : Handle} {kind : Intrinsic} {name : String} {d : CheckState}
      (seen : Returns (P.apparent handle) c (.intrinsic kind) d)
      (named : kind.scalarName? = some name) :
      Identified P c r path handle (.named name .scalar)
  | list {path : TypePath} {handle element : Handle} {name : String} {type : TypeDef}
      {d : CheckState} (seen : Returns (P.apparent handle) c (.list name element) d)
      (inner : Identified P c r (path ++ [.element]) element type) :
      Identified P c r path handle (.array type)
  | nullable {path : TypePath} {handle single : Handle} {members : List Handle}
      {absence : Absence} {type : TypeDef} {d : CheckState}
      (seen : Returns (P.apparent handle) c (.union members) d)
      (split : (Handle.union members).nullable? = some (single, absence))
      (inner : Identified P c r path single type) :
      Identified P c r path handle (.nullable type absence)
  | record {path : TypePath} {handle shown : Handle} {source : RecordSource}
      {arguments : List Handle} {name : String} {d : CheckState}
      (seen : Returns (P.apparent handle) c shown d)
      (record : shown.record? = some (source, arguments))
      (named : nameAt? P path shown = some (.ok name))
      (registered : r.identity? name = some shown.identity) :
      Identified P c r path handle (.named name .object)

/-- The entry was derived from a record that the start leads to, and stands for it: it has its
identity, and each property was derived from the member in its place. -/
def Certified (P : Program) (c : CheckState) (r : Registry) (start : TypePath × Handle)
    (e : String × RegisteredType) : Prop :=
  ∃ path handle source arguments members d,
    Relation.ReflTransGen (Leads P c) start (path, handle) ∧
    handle.record? = some (source, arguments) ∧
    nameAt? P path handle = some (.ok e.1) ∧
    e.2.identity = handle.identity ∧
    Returns (P.propertiesOf source arguments) c members d ∧
    List.Forall₂ (fun member property => property.name = member.1 ∧
      Identified P c r (path ++ [.property e.1 member.1]) member.2 property.type)
      members e.2.type.properties

section

variable {P : Program} {c : CheckState} {r : Registry} {path : TypePath} {handle : Handle}
  {type : TypeDef} {start next : TypePath × Handle} {e : String × RegisteredType}

theorem Certified.of_reached (reached : Relation.ReflTransGen (Leads P c) start next)
    (certified : Certified P c r next e) : Certified P c r start e := by
  obtain ⟨path, handle, source, arguments, members, d, further, rest⟩ := certified
  exact ⟨path, handle, source, arguments, members, d, reached.trans further, rest⟩

theorem leads_of_apparent {shown : Handle} {d : CheckState}
    (seen : Returns (P.apparent handle) c shown d) :
    Relation.ReflTransGen (Leads P c) (path, handle) (path, shown) := by
  cases handle with
  | deferred target arguments => exact .single (.deferred seen)
  | _ =>
    obtain ⟨rfl, _⟩ := (returns_pure_iff _ _).mp seen
    exact .refl

/-- Each name of an object type in a derived type comes from a record that the handle leads to, and
is registered for that record. -/
theorem Identified.origin (identified : Identified P c r path handle type) {name : String}
    (mentioned : (name, TypeKind.object) ∈ type.references) :
    ∃ place record, Relation.ReflTransGen (Leads P c) (path, handle) (place, record) ∧
      record.record?.isSome ∧ nameAt? P place record = some (.ok name) ∧
      r.identity? name = some record.identity := by
  induction identified with
  | scalar => cases List.mem_singleton.mp mentioned
  | list seen _ ih =>
    obtain ⟨place, record, reached, origin⟩ := ih mentioned
    exact ⟨place, record, (leads_of_apparent seen).trans (.head .element reached), origin⟩
  | nullable seen split _ ih =>
    obtain ⟨place, record, reached, origin⟩ := ih mentioned
    exact ⟨place, record, (leads_of_apparent seen).trans (.head (.single split) reached), origin⟩
  | record seen isRecord named registered =>
    cases List.mem_singleton.mp mentioned
    exact ⟨_, _, leads_of_apparent seen, Option.isSome_of_eq_some isRecord, named, registered⟩

end

/-- What a call has done, told at any later time: in its type and in the entries it has added, each
name stands for the record it was derived from. -/
structure Accounted (P : Program) (path : TypePath) (handle : Handle) (s : DerivationState)
    (o : Outcome) (t : DerivationState) : Prop where
  identified : ∀ c, t.check.Grows P c → ∀ r, t.registry.Knows r →
    ∀ type warnings, o = .type type warnings → Identified P c r path handle type
  certified : ∀ c, t.check.Grows P c → ∀ r, t.registry.Knows r →
    ∀ e ∈ t.registry.objects, e.1 ∉ s.registry.objectNames → Certified P c r (path, handle) e

theorem accounted_of_objects_eq {P : Program} {path : TypePath} {handle : Handle}
    {s t : DerivationState} {o : Outcome} (objects : t.registry.objects = s.registry.objects)
    (identified : ∀ c, t.check.Grows P c → ∀ r, t.registry.Knows r →
      ∀ type warnings, o = .type type warnings → Identified P c r path handle type) :
    Accounted P path handle s o t := by
  refine ⟨identified, ?_⟩
  intro _ _ _ _ e member new
  rw [objects] at member
  exact absurd (List.mem_map_of_mem member) new

theorem Accounted.of_inner {P : Program} {path path' : TypePath} {handle handle' : Handle}
    {s t : DerivationState} {o o' : Outcome} (inner : Accounted P path' handle' s o' t)
    (reached : ∀ c, t.check.Grows P c →
      Relation.ReflTransGen (Leads P c) (path, handle) (path', handle'))
    (identified : ∀ c, t.check.Grows P c → ∀ r, t.registry.Knows r →
      ∀ type warnings, o = .type type warnings → Identified P c r path handle type) :
    Accounted P path handle s o t := by
  refine ⟨identified, ?_⟩
  intro c later r known e member new
  exact (inner.certified c later r known e member new).of_reached (reached c later)

section

variable {P : Program} {C : Calls} {path : TypePath} {name : String} {members : Properties}
  {found whole : PropertyOutcomes} {s t : DerivationState}

theorem Walk.identified
    (sound : ∀ path handle s o t, C path handle s o t → Sound P path handle s o t)
    (each : ∀ path handle s o t, C path handle s o t → Accounted P path handle s o t)
    (walked : Walk C path name members found s whole t) (clean : whole.errors = [])
    {c : CheckState} (later : t.check.Grows P c) {r : Registry} (known : t.registry.Knows r) :
    ∃ new, whole.properties = found.properties ++ new ∧
      List.Forall₂ (fun member property => property.name = member.1 ∧
        Identified P c r (path ++ [.property name member.1]) member.2 property.type)
        members new := by
  induction walked with
  | done => exact ⟨[], by simp, .nil⟩
  | @next property handle rest outcome _ _ _ _ _ derived walked ih =>
    obtain ⟨new, properties, identified⟩ := ih clean later known
    cases outcome with
    | errors errors =>
      have none := walked.errors_prefix
      rw [clean] at none
      have empty := (List.append_eq_nil_iff.mp (List.prefix_nil.mp none)).2
      exact absurd empty ((sound _ _ _ _ _ derived).reasons _ rfl)
    | type type warnings =>
      have extended := walked.extends fun _ _ _ _ _ derived => (sound _ _ _ _ _ derived).framed
      have first := (each _ _ _ _ _ derived).identified c ((walked.grows sound).trans later) r
        (extended.knows.trans known) type warnings rfl
      refine ⟨⟨property, type⟩ :: new, ?_, .cons ⟨rfl, first⟩ identified⟩
      rw [properties]
      simp [PropertyOutcomes.add]

theorem Walk.certified
    (sound : ∀ path handle s o t, C path handle s o t → Sound P path handle s o t)
    (each : ∀ path handle s o t, C path handle s o t → Accounted P path handle s o t)
    (walked : Walk C path name members found s whole t) {c : CheckState}
    (later : t.check.Grows P c) {r : Registry} (known : t.registry.Knows r)
    {e : String × RegisteredType} (present : e ∈ t.registry.objects)
    (new : e.1 ∉ s.registry.objectNames) :
    ∃ m ∈ members, Certified P c r (path ++ [.property name m.1], m.2) e := by
  induction walked with
  | done => exact absurd (List.mem_map_of_mem present) new
  | @next property handle rest _ _ _ s t u derived walked ih =>
    by_cases old : e.1 ∈ t.registry.objectNames
    · have extended := walked.extends fun _ _ _ _ _ derived => (sound _ _ _ _ _ derived).framed
      have certified := (each _ _ _ _ _ derived).certified c ((walked.grows sound).trans later) r
        (extended.knows.trans known) e
      exact ⟨_, List.mem_cons_self, certified (extended.mem_objects present old) new⟩
    · obtain ⟨m, member, certified⟩ := ih later known present old
      exact ⟨m, List.mem_cons_of_mem _ member, certified⟩

end

/-- A record that is registered anew. Its properties were derived while its own entry was empty, but
under the same identity. -/
theorem accounted_of_registered {P : Program} {C : Calls} {path : TypePath} {handle shown : Handle}
    {source : RecordSource} {arguments : List Handle} {name : String} {members : Properties}
    {found : PropertyOutcomes} {warnings : List String} {s t u : DerivationState}
    (sound : ∀ path handle s o t, C path handle s o t → Sound P path handle s o t)
    (each : ∀ path handle s o t, C path handle s o t → Accounted P path handle s o t)
    (seen : ∀ c, u.check.Grows P c → ∃ d, Returns (P.apparent handle) c shown d)
    (record : shown.record? = some (source, arguments))
    (named : nameAt? P path shown = some (.ok name)) (fresh : s.registry.object? name = none)
    (asked : Returns (asking (P.propertiesOf source arguments))
      (s.openObject name shown.identity) members t)
    (walked : Walk C path name members {} t found u) (clean : found.errors = []) :
    Accounted P path handle s (.type (.named name .object) warnings)
      (u.closeObject name shown.identity found.properties) := by
  obtain ⟨_, _, again⟩ :=
    asked_settled (Program.settles_propertiesOf .any _ fun _ _ => trivial) asked
  have absent := Registry.object?_eq_none_iff.mp fresh
  have extended := opened_extends (fun _ _ _ _ _ derived => (sound _ _ _ _ _ derived).framed)
    asked walked
  have closed : (u.closeObject name shown.identity found.properties).registry.identities =
      u.registry.identities := Registry.identities_closed absent extended
  constructor
  · intro c later r known type warnings same
    cases same
    obtain ⟨d, seen⟩ := seen c later
    have opened : u.registry.identity? name = some shown.identity :=
      extended.knows _ _ (Registry.identity?_putObject absent _)
    apply Identified.record seen record named
    exact known _ _ (Registry.Knows.of_identities_eq closed _ _ opened)
  · intro c later r known e present new
    have known := (Registry.Knows.of_identities_eq closed).trans known
    obtain ⟨_, seen⟩ := seen c later
    obtain ⟨d, answered⟩ := again c ((walked.grows sound).trans later)
    apply Certified.of_reached (leads_of_apparent seen)
    rcases Registry.mem_closed absent extended present new with rfl | ⟨nested, apart⟩
    · obtain ⟨properties, same, identified⟩ := walked.identified sound each clean later known
      change found.properties = properties at same
      rw [← same] at identified
      exact ⟨path, shown, source, arguments, members, d, .refl, record, named, rfl, answered,
        identified⟩
    · obtain ⟨m, member, certified⟩ :=
        walked.certified sound each later known nested (by rwa [registry_of_asking asked])
      exact certified.of_reached (.single (.property record named answered member))

theorem Step.accounted {P : Program} {C : Calls} {path : TypePath} {handle shown : Handle}
    {s t : DerivationState} {o : Outcome}
    (sound : ∀ path handle s o t, C path handle s o t → Sound P path handle s o t)
    (each : ∀ path handle s o t, C path handle s o t → Accounted P path handle s o t)
    (seen : ∀ c, t.check.Grows P c → ∃ d, Returns (P.apparent handle) c shown d)
    (step : Step P C path shown s o t) : Accounted P path handle s o t := by
  have reached : ∀ c, t.check.Grows P c → ∀ place,
      Leads P c (path, shown) place → Relation.ReflTransGen (Leads P c) (path, handle) place := by
    intro c later place leads
    obtain ⟨_, seen⟩ := seen c later
    exact (leads_of_apparent seen).tail leads
  cases step with
  | unsupported | outside | conflict =>
    exact accounted_of_objects_eq rfl fun _ _ _ _ _ _ same => by cases same
  | scalar named =>
    refine accounted_of_objects_eq (Registry.objects_addScalar _ _) ?_
    intro c later _ _ _ _ same
    cases same
    obtain ⟨_, seen⟩ := seen c later
    exact .scalar seen named
  | list derived =>
    have inner := each _ _ _ _ _ derived
    apply inner.of_inner fun c later => reached c later _ .element
    intro c later r known _ _ same
    cases same
    obtain ⟨_, seen⟩ := seen c later
    exact .list seen (inner.identified c later r known _ _ rfl)
  | listFailed failed =>
    apply (each _ _ _ _ _ failed).of_inner fun c later => reached c later _ .element
    intro _ _ _ _ _ _ same
    cases same
  | nullable split derived =>
    have inner := each _ _ _ _ _ derived
    apply inner.of_inner fun c later => reached c later _ (.single split)
    intro c later r known _ _ same
    cases same
    obtain ⟨_, seen⟩ := seen c later
    exact .nullable seen split (inner.identified c later r known _ _ rfl)
  | nullableFailed split failed =>
    apply (each _ _ _ _ _ failed).of_inner fun c later => reached c later _ (.single split)
    intro _ _ _ _ _ _ same
    cases same
  | known record named found same =>
    apply accounted_of_objects_eq rfl
    intro c later r known _ _ given
    cases given
    obtain ⟨_, seen⟩ := seen c later
    have registered := Registry.identity?_of_object? found
    rw [same] at registered
    exact .record seen record named (known _ _ registered)
  | registered record named fresh asked walked clean =>
    exact accounted_of_registered sound each seen record named fresh asked walked clean
  | evicted record named fresh asked walked failed =>
    have framed := Step.framed (fun _ _ _ _ _ derived => (sound _ _ _ _ _ derived).framed)
      (.evicted record named fresh asked walked failed)
    exact accounted_of_objects_eq framed.1 fun _ _ _ _ _ _ same => by cases same

theorem accounted_of_returns {P : Program} {depth : Int} {path : TypePath} {handle : Handle}
    {s t : DerivationState} {o : Outcome}
    (returned : Returns (deriveType P depth path handle) s o t) :
    Accounted P path handle s o t := by
  refine deriveType_induct (M := fun _ => Accounted P) ?_ returned
  intro depth path handle shown s u o t _ seen step
  have sound : ∀ path handle s o t,
      Returns (deriveType P (depth + 1) path handle) s o t ∧ Accounted P path handle s o t →
      Sound P path handle s o t := fun _ _ _ _ _ derived =>
    ⟨framed_of_returns derived.1, fun _ failed => errors_ne_nil (failed ▸ derived.1),
      pictured_of_returns derived.1⟩
  obtain ⟨_, _, again⟩ :=
    asked_settled (Program.settles_apparent Formation.any trivial fun _ _ => trivial) seen
  have grown := (step.pictured sound).grown
  have accounted := step.accounted sound (fun _ _ _ _ _ derived => derived.2)
    fun c later => again c (grown.trans later)
  refine ⟨accounted.identified, ?_⟩
  rw [← registry_of_asking seen]
  exact accounted.certified

section

variable {P : Program} {s t : DerivationState} {calls : List Call}

theorem Trace.grown (traced : Trace P s calls t) : s.check.Grows P t.check := by
  induction traced with
  | done => exact .refl _
  | asked grown _ ih => exact grown.trans ih
  | derived returned _ ih => exact (pictured_of_returns returned).grown.trans ih

theorem Trace.extends (traced : Trace P s calls t) : s.registry.Extends t.registry := by
  induction traced with
  | done => exact .refl _
  | asked _ _ ih => exact ih
  | derived returned _ ih => exact (framed_of_returns returned).extends.trans ih

theorem Trace.identified (traced : Trace P s calls t) {c : CheckState} (later : t.check.Grows P c)
    {r : Registry} (known : t.registry.Knows r) :
    ∀ call ∈ calls, ∀ type warnings, call.outcome = .type type warnings →
      Identified P c r call.path call.handle type := by
  induction traced with
  | done => exact List.forall_mem_nil _
  | asked _ _ ih => exact ih later known
  | derived returned after ih =>
    refine List.forall_mem_cons.mpr ⟨?_, ih later known⟩
    exact (accounted_of_returns returned).identified c (after.grown.trans later) r
      (after.extends.knows.trans known)

theorem Trace.certified (traced : Trace P s calls t) {c : CheckState} (later : t.check.Grows P c)
    {r : Registry} (known : t.registry.Knows r) :
    ∀ e ∈ t.registry.objects, e.1 ∉ s.registry.objectNames →
      ∃ call ∈ calls, Certified P c r (call.path, call.handle) e := by
  induction traced with
  | done => exact fun e present new => absurd (List.mem_map_of_mem present) new
  | asked _ _ ih => exact ih later known
  | @derived _ _ _ _ _ middle _ _ returned after ih =>
    intro e present new
    by_cases old : e.1 ∈ middle.registry.objectNames
    · have early := after.extends.mem_objects present old
      exact ⟨_, List.mem_cons_self, (accounted_of_returns returned).certified c
        (after.grown.trans later) r (after.extends.knows.trans known) e early new⟩
    · obtain ⟨call, member, certified⟩ := ih later known e present old
      exact ⟨call, List.mem_cons_of_mem _ member, certified⟩

end

/-- What derivations in one context have come to, the last one first: calls for types, functions,
and any other questions between them. -/
inductive Pass (P : Program) :
    List Call → List (Function × FunctionOutcome) → DerivationState → Prop
  | start (c : CheckState) : Pass P [] [] { check := c }
  | asked {calls : List Call} {functions : List (Function × FunctionOutcome)}
      {s t : DerivationState} {α : Type} {a : α} {question : CheckM α} {R : α → Prop}
      (pass : Pass P calls functions s) (settled : Settles P question R)
      (answered : Returns (asking question) s a t) : Pass P calls functions t
  | derived {calls : List Call} {functions : List (Function × FunctionOutcome)}
      {s t : DerivationState} {depth : Int} {path : TypePath} {handle : Handle} {o : Outcome}
      (pass : Pass P calls functions s) (returned : Returns (deriveType P depth path handle) s o t) :
      Pass P (⟨path, handle, o⟩ :: calls) functions t
  | function {calls : List Call} {functions : List (Function × FunctionOutcome)}
      {s t : DerivationState} {f : Function} {o : FunctionOutcome}
      (pass : Pass P calls functions s) (returned : Returns (deriveFunction P f) s o t) :
      Pass P calls ((f, o) :: functions) t

/-- The handles that a pass starts from: those of its calls, and those of the parameters and the
results of its functions. -/
inductive Starts (P : Program) (c : CheckState) (calls : List Call)
    (functions : List (Function × FunctionOutcome)) : TypePath × Handle → Prop
  | call {call : Call} (member : call ∈ calls) :
      Starts P c calls functions (call.path, call.handle)
  | parameter {f : Function × FunctionOutcome} {signature : Signature} {d : CheckState}
      {p : TypedParameter} (member : f ∈ functions)
      (signed : Returns (P.signature f.1) c signature d) (declared : p ∈ signature.parameters) :
      Starts P c calls functions ([.parameter f.1.name p.name], p.handle)
  | result {f : Function × FunctionOutcome} {signature : Signature} {d : CheckState}
      (member : f ∈ functions) (signed : Returns (P.signature f.1) c signature d) :
      Starts P c calls functions ([.result f.1.name], signature.result)

/-- The types in a function's entry were derived from its signature, and each name in them stands in
the registry for the record that it was derived from. -/
def EntryIdentified (P : Program) (c : CheckState) (r : Registry) (f : Function)
    (entry : FunctionEntry) : Prop :=
  ∃ signature d, Returns (P.signature f) c signature d ∧
    Identified P c r [.result f.name] signature.result entry.result ∧
    ∀ a ∈ entry.arguments, ∃ p ∈ signature.parameters, p.name = a.name ∧
      Identified P c r [.parameter f.name p.name] p.handle a.type

section

variable {P : Program} {calls : List Call} {functions : List (Function × FunctionOutcome)}
  {c : CheckState} {r : Registry} {s t : DerivationState}

theorem Starts.call_cons {call : Call} {start : TypePath × Handle}
    (starts : Starts P c calls functions start) : Starts P c (call :: calls) functions start := by
  cases starts with
  | call member => exact .call (List.mem_cons_of_mem _ member)
  | parameter member signed declared => exact .parameter member signed declared
  | result member signed => exact .result member signed

theorem Starts.function_cons {f : Function × FunctionOutcome} {start : TypePath × Handle}
    (starts : Starts P c calls functions start) : Starts P c calls (f :: functions) start := by
  cases starts with
  | call member => exact .call member
  | parameter member signed declared =>
    exact .parameter (List.mem_cons_of_mem _ member) signed declared
  | result member signed => exact .result (List.mem_cons_of_mem _ member) signed

/-- All that a pass leaves, told at any later time. -/
structure Pass.Accounted (P : Program) (calls : List Call)
    (functions : List (Function × FunctionOutcome)) (t : DerivationState) (c : CheckState)
    (r : Registry) : Prop where
  registered : ∀ e ∈ t.registry.objects,
    ∃ start, Starts P c calls functions start ∧ Certified P c r start e
  called : ∀ call ∈ calls, ∀ type warnings, call.outcome = .type type warnings →
    Identified P c r call.path call.handle type
  returned : ∀ f ∈ functions, ∀ entry, f.2.entry = some entry → EntryIdentified P c r f.1 entry

theorem entryIdentified_of_deriveFunction (calls : List Call)
    (functions : List (Function × FunctionOutcome)) {f : Function} {o : FunctionOutcome}
    (returned : Returns (deriveFunction P f) s o t) (later : t.check.Grows P c)
    (known : t.registry.Knows r) :
    s.check.Grows P t.check ∧ s.registry.Extends t.registry ∧
    (∀ entry, o.entry = some entry → EntryIdentified P c r f entry) ∧
    ∀ e ∈ t.registry.objects, e.1 ∉ s.registry.objectNames →
      ∃ start, Starts P c calls ((f, o) :: functions) start ∧ Certified P c r start e := by
  obtain ⟨signature, u, made, asked, traced, signed, entered⟩ := trace_of_deriveFunction returned
  obtain ⟨_, grown, again⟩ := asked_settled (settles_anySignature P f) asked
  obtain ⟨d, answered⟩ := again c (traced.grown.trans later)
  have same := registry_of_asking asked
  have identified := traced.identified later known
  refine ⟨grown.trans traced.grown, same ▸ traced.extends, ?_, ?_⟩
  · intro entry registered
    obtain ⟨⟨warnings, result⟩, arguments⟩ := entered entry registered
    refine ⟨signature, d, answered, identified _ result _ warnings rfl, ?_⟩
    intro a member
    obtain ⟨p, declared, named, warnings, called⟩ := arguments a member
    exact ⟨p, declared, named, identified _ called _ warnings rfl⟩
  · intro e present new
    obtain ⟨call, member, certified⟩ := traced.certified later known e present (same ▸ new)
    refine ⟨_, ?_, certified⟩
    rcases signed call member with ⟨p, declared, path, handle⟩ | ⟨path, handle⟩
    · rw [path, handle]
      exact .parameter List.mem_cons_self answered declared
    · rw [path, handle]
      exact .result List.mem_cons_self answered

theorem Pass.accounted (pass : Pass P calls functions t) (later : t.check.Grows P c)
    (known : t.registry.Knows r) : Pass.Accounted P calls functions t c r := by
  induction pass with
  | start => exact ⟨List.forall_mem_nil _, List.forall_mem_nil _, List.forall_mem_nil _⟩
  | asked _ settled answered ih =>
    have grown := (asked_settled settled answered).2.1
    rw [registry_of_asking answered] at known
    have before := ih (grown.trans later) known
    exact ⟨registry_of_asking answered ▸ before.registered, before.called, before.returned⟩
  | @derived _ _ s _ _ path handle o _ returned ih =>
    have traced := Trace.of_call returned
    have before := ih (traced.grown.trans later) (traced.extends.knows.trans known)
    refine ⟨?_, List.forall_mem_cons.mpr ⟨?_, before.called⟩, before.returned⟩
    · intro e present
      by_cases old : e.1 ∈ s.registry.objectNames
      · obtain ⟨start, starts, certified⟩ :=
          before.registered e (traced.extends.mem_objects present old)
        exact ⟨start, starts.call_cons, certified⟩
      · obtain ⟨call, member, certified⟩ := traced.certified later known e present old
        rw [List.mem_singleton] at member
        obtain rfl := member
        exact ⟨_, .call List.mem_cons_self, certified⟩
    · exact traced.identified later known _ List.mem_cons_self
  | @function calls functions s _ f o _ returned ih =>
    obtain ⟨grown, extended, entered, added⟩ :=
      entryIdentified_of_deriveFunction calls functions returned later known
    have before := ih (grown.trans later) (extended.knows.trans known)
    refine ⟨?_, before.called, List.forall_mem_cons.mpr ⟨entered, before.returned⟩⟩
    intro e present
    by_cases old : e.1 ∈ s.registry.objectNames
    · obtain ⟨start, starts, certified⟩ := before.registered e (extended.mem_objects present old)
      exact ⟨start, starts.function_cons, certified⟩
    · exact added e present old

theorem Pass.kept {I : Registry → Prop} (kept : Registry.Kept P I) (start : I {})
    (pass : Pass P calls functions t) : I t.registry := by
  induction pass with
  | start => exact start
  | asked _ _ answered ih => rwa [registry_of_asking answered]
  | derived _ returned ih => exact kept_of_returns kept returned ih
  | function _ returned ih =>
    obtain ⟨_, _, _, asked, traced, _⟩ := trace_of_deriveFunction returned
    exact traced.kept kept (by rwa [registry_of_asking asked])

theorem Pass.trace (pass : Pass P calls functions t) :
    ∃ c made, Trace P { check := c } made t := by
  induction pass with
  | start c => exact ⟨c, [], .done _⟩
  | asked _ settled answered ih =>
    obtain ⟨c, made, traced⟩ := ih
    exact ⟨c, _, traced.trans (.of_asking settled answered)⟩
  | derived _ returned ih =>
    obtain ⟨c, made, traced⟩ := ih
    exact ⟨c, _, traced.trans (.of_call returned)⟩
  | function _ returned ih =>
    obtain ⟨c, made, traced⟩ := ih
    obtain ⟨_, _, more, asked, later, _⟩ := trace_of_deriveFunction returned
    exact ⟨c, _, traced.trans ((Trace.of_asking (settles_anySignature P _) asked).trans later)⟩

theorem Pass.mapM {fs : List Function} {outcomes : List FunctionOutcome}
    (pass : Pass P calls functions s)
    (returned : Returns (fs.mapM (deriveFunction P)) s outcomes t) :
    Pass P calls ((fs.zip outcomes).reverse ++ functions) t := by
  induction fs generalizing s outcomes functions with
  | nil =>
    obtain ⟨rfl, rfl⟩ := (returns_pure_iff _ _).mp returned
    exact pass
  | cons f rest ih =>
    obtain ⟨o, v, later, first, remaining, rfl⟩ := (returns_mapM_cons_iff ..).mp returned
    simpa using ih (pass.function first) remaining

end

/-- After any derivations in one context that return, of types and of functions, no name stands for
two identities: the calls leave the two tables of types and of identities with the same names in
both. Each object type that is registered has the identity of the record that its properties were
derived from, and each name of an object type in a registered property, in a type that a call gave
or in a function's entry stands for the record that it was derived from, whatever names were taken
back and given away again on the way. -/
theorem references_identified (P : Program) (calls : List Call)
    (functions : List (Function × FunctionOutcome)) (t : DerivationState)
    (pass : Pass P calls functions t) :
    (∃ c made, Tables.Trace P { check := c } made t.split) ∧
    Pairs.keys t.registry.objectTypes = Pairs.keys t.registry.identities ∧
    (Pairs.keys t.registry.identities).Nodup ∧
    (∀ e ∈ t.registry.objects, ∃ start, Starts P t.check calls functions start ∧
      Certified P t.check t.registry start e) ∧
    (∀ call ∈ calls, ∀ type warnings, call.outcome = .type type warnings →
      Identified P t.check t.registry call.path call.handle type) ∧
    ∀ f ∈ functions, ∀ entry, f.2.entry = some entry →
      EntryIdentified P t.check t.registry f.1 entry := by
  have accounted := pass.accounted (.refl _) fun _ _ known => known
  have tidy := pass.kept (Registry.kept_tidy P) (Registry.tidy_empty P)
  obtain ⟨c, made, traced⟩ := pass.trace
  have tables := Tables.Trace.of_registered traced
  refine ⟨⟨c, made, tables⟩, tables.aligned rfl, ?_, accounted.registered, accounted.called,
    accounted.returned⟩
  rw [Registry.keys_identities, Registry.keys_objectTypes]
  exact tidy.objects

/-- `Bad` fails after `Box[int]` has taken the name that the class `Box_int_` gets from `keep`. -/
def reusedName : Program := .ofLines ⟨.root, ["app", "functions.py"]⟩ [
  "from typing import Any, Generic, TypedDict, TypeVar",
  "T = TypeVar(\"T\")",
  "class Box(TypedDict, Generic[T]):",
  "    value: T",
  "class Bad(TypedDict):",
  "    box: Box[int]",
  "    rest: Any",
  "class Box_int_(TypedDict):",
  "    content: str",
  "def drop(bad: Bad) -> int:",
  "    return 0",
  "def keep(box: Box_int_) -> int:",
  "    return 0",
  "def late(box: Box[int]) -> int:",
  "    return 0"]

theorem references_identified_reusedName :
    ∃ functions t, Pass reusedName [] functions t ∧
      functions.map (fun f => (f.1.name, f.2.entry.isSome)) =
        [("late", false), ("keep", true), ("drop", false)] ∧
      t.registry.objectTypes = [("Box_int_", ⟨[⟨"content", .named "String" .scalar⟩]⟩)] ∧
      ∀ f ∈ functions, ∀ entry, f.2.entry = some entry →
        EntryIdentified reusedName t.check t.registry f.1 entry := by
  have shown : (runFrom (do
      let outcomes ← (reusedName.source reusedName.entry).exportedFunctions.mapM
        (deriveFunction reusedName)
      let registry := (← get).registry
      return (((reusedName.source reusedName.entry).exportedFunctions.zip outcomes).reverse.map
        fun f => (f.1.name, f.2.entry.isSome), registry.objectTypes))
      { check := .start reusedName }).1 =
      .ok ([("late", false), ("keep", true), ("drop", false)],
        [("Box_int_", ⟨[⟨"content", .named "String" .scalar⟩]⟩)]) := by decide +kernel
  have returned := returns_of_ok shown
  simp only [returns_bind_iff, returns_get_iff, returns_pure_iff, Prod.mk.injEq] at returned
  obtain ⟨outcomes, t, derived, _, _, ⟨rfl, rfl⟩, ⟨entries, objects⟩, _⟩ := returned
  have pass := (Pass.start _).mapM derived
  rw [List.append_nil] at pass
  exact ⟨_, _, pass, entries.symm, objects.symm, (references_identified _ _ _ _ pass).2.2.2.2.2⟩

end Derivation

end HintSchema

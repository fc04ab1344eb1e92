import HintSchema.Proofs.Derivation.Trace

/-!
The registry as two tables: object types under their names, and under the same names the identities
of the types that they stand for. An object type is opened in both tables and taken back from both,
but completed in the first one only. A derivation over the tables does just what one over registered
types does (`follows_derive`), so both have the same names after it (`aligned_of_derive`).
-/

namespace HintSchema

open Schema

structure Tables where
  types : List (String × ObjectType) := []
  identities : List (String × Identity) := []
  scalars : List String := []

namespace Tables

def openType (T : Tables) (name : String) (identity : Identity) : Tables :=
  { T with
    types := Pairs.put T.types name {}
    identities := Pairs.put T.identities name identity }

def commit (T : Tables) (name : String) (type : ObjectType) : Tables :=
  { T with types := Pairs.put T.types name type }

def evict (T : Tables) (before : List String) : Tables :=
  let evicted := (Pairs.keys T.types).filter fun name => !before.contains name
  { T with
    types := T.types.filter fun p => !evicted.contains p.1
    identities := T.identities.filter fun p => !evicted.contains p.1 }

def addScalar (T : Tables) (name : String) : Tables :=
  if T.scalars.contains name then T else { T with scalars := T.scalars ++ [name] }

/-- The names in the two tables are the same ones, in one order. -/
def Aligned (T : Tables) : Prop := Pairs.keys T.types = Pairs.keys T.identities

end Tables

structure TablesState where
  check : CheckState
  tables : Tables := {}

abbrev TablesM := ExceptT DerivationFault (StateM TablesState)

/-! ### Derivations over tables -/

namespace Tables

open HintSchema.Derivation (depthLimit noPropertiesMessage conflictMessage objectName unsupported
  PropertyOutcomes)

def asking {α : Type} (question : DerivationM α) : TablesM α := do
  let s ← get
  let (answer, t) := question.run { check := s.check }
  set { s with check := t.check }
  MonadExcept.ofExcept answer

def update (f : Tables → Tables) : TablesM Unit :=
  modify fun s => { s with tables := f s.tables }

def registerObject (P : Program) (derive : TypePath → Handle → TablesM Outcome) (path : TypePath)
    (name : String) (identity : Identity) (source : RecordSource) (arguments : List Handle) :
    TablesM Outcome := do
  let before := Pairs.keys (← get).tables.types
  update (·.openType name identity)
  let members ← asking (Derivation.asking (P.propertiesOf source arguments))
  let outcomes ← members.foldlM (fun (outcomes : PropertyOutcomes) (property, handle) => do
    let outcome ← derive (path ++ [.property name property]) handle
    return outcomes.add property outcome) {}
  if outcomes.errors.isEmpty then
    update (·.commit name ⟨outcomes.properties⟩)
    let warnings := if members.isEmpty then [noPropertiesMessage name path] else []
    return .type (.named name .object) (outcomes.warnings ++ warnings)
  else
    update (·.evict before)
    return .errors outcomes.errors

def objectType (P : Program) (derive : TypePath → Handle → TablesM Outcome) (path : TypePath)
    (handle : Handle) (source : RecordSource) (arguments : List Handle) : TablesM Outcome := do
  match ← asking (objectName P path handle) with
  | .error (.outside name file) =>
    return .errors [NameFault.outsideMessage name file ++ ", encountered in " ++ path.text]
  | .error fault => throw (.name fault)
  | .ok name =>
    let tables := (← get).tables
    if Pairs.has tables.types name then
      if tables.identities.lookup name = some handle.identity then
        return .type (.named name .object) []
      let type ← asking (Derivation.asking handle.display)
      return .errors [conflictMessage type name path]
    else registerObject P derive path name handle.identity source arguments

def arrayType (derive : TypePath → Handle → TablesM Outcome) (path : TypePath) (element : Handle) :
    TablesM Outcome := do
  match ← derive (path ++ [.element]) element with
  | .type type warnings => return .type (.array type) warnings
  | .errors errors => return .errors errors

def nullableType (derive : TypePath → Handle → TablesM Outcome) (path : TypePath)
    (single : Handle) (absence : Absence) : TablesM Outcome := do
  match ← derive path single with
  | .type type warnings =>
    match type.nullable? absence with
    | some type => return .type type warnings
    | none => throw .nestedNullable
  | .errors errors => return .errors errors

def derive (P : Program) (depth : Int) (path : TypePath) (handle : Handle) : TablesM Outcome := do
  let handle ← asking (Derivation.asking (P.apparent handle))
  if _within : depthLimit < depth then
    throw (.tooDeep (← asking (Derivation.asking handle.display)))
  else
    match handle with
    | .list _ element => arrayType (derive P (depth + 1)) path element
    | .record _ source arguments _ =>
      objectType P (derive P (depth + 1)) path handle source arguments
    | .intrinsic kind =>
      match kind.scalarName? with
      | some name => do
        update (·.addScalar name)
        return .type (.named name .scalar) []
      | none => asking (unsupported handle path)
    | .union _ =>
      match handle.nullable? with
      | some (single, absence) => nullableType (derive P (depth + 1)) path single absence
      | none => asking (unsupported handle path)
    | _ => asking (unsupported handle path)
termination_by (depthLimit + 1 - depth).toNat
decreasing_by all_goals (simp only [depthLimit] at *; omega)

end Tables

/-! ### Registered types as two tables -/

namespace Registry

variable {r : Registry} {name : String}

/-- The identities that object types were registered for, under their names. -/
def identities (r : Registry) : List (String × Identity) :=
  r.objects.map fun (name, entry) => (name, entry.identity)

def identity? (r : Registry) (name : String) : Option Identity := r.identities.lookup name

def split (r : Registry) : Tables := ⟨r.objectTypes, r.identities, r.scalars⟩

theorem keys_identities (r : Registry) : Pairs.keys r.identities = Pairs.keys r.objectTypes := by
  simp [identities, objectTypes, Pairs.keys]

theorem keys_objectTypes (r : Registry) : Pairs.keys r.objectTypes = r.objectNames := by
  simp [objectTypes, objectNames, Pairs.keys]

theorem identity?_eq (r : Registry) (name : String) :
    r.identity? name = (r.object? name).map (·.identity) :=
  Pairs.lookup_map_snd r.objects RegisteredType.identity name

theorem split_opened (r : Registry) (name : String) (identity : Identity) :
    (r.putObject name ⟨identity, {}⟩).split = r.split.openType name identity := by
  simp only [split, Tables.openType, objectTypes, identities, putObject, Pairs.map_snd_put]

theorem split_addScalar (r : Registry) (name : String) :
    (r.addScalar name).split = r.split.addScalar name := by
  unfold addScalar Tables.addScalar split
  dsimp only
  split <;> rfl

theorem identities_closed {r' : Registry} (absent : name ∉ r.objectNames) {identity : Identity}
    {opened closed : ObjectType} (extended : (r.putObject name ⟨identity, opened⟩).Extends r') :
    (r'.putObject name ⟨identity, closed⟩).identities = r'.identities := by
  obtain ⟨new, objects, replaced, _⟩ := closed_objects absent _ ⟨identity, closed⟩ extended
  simp [identities, objects, replaced]

theorem split_closed {r' : Registry} (absent : name ∉ r.objectNames) {identity : Identity}
    {opened : ObjectType} (extended : (r.putObject name ⟨identity, opened⟩).Extends r')
    (closed : ObjectType) :
    (r'.putObject name ⟨identity, closed⟩).split = r'.split.commit name closed := by
  have types : (r'.putObject name ⟨identity, closed⟩).objectTypes =
      Pairs.put r'.objectTypes name closed :=
    Pairs.map_snd_put r'.objects name ⟨identity, closed⟩ RegisteredType.type
  simp only [split, Tables.commit, identities_closed absent extended, types]
  rfl

theorem split_keepObjects (r : Registry) (before : List String) :
    (r.keepObjects before).split = r.split.evict before := by
  have evicted (p : String × RegisteredType) (member : p ∈ r.objects) :
      (!((Pairs.keys r.objectTypes).filter fun name => !before.contains name).contains p.1) =
        before.contains p.1 := by
    have known : p.1 ∈ Pairs.keys r.objectTypes := by
      rw [keys_objectTypes]
      exact List.mem_map_of_mem member
    by_cases kept : p.1 ∈ before <;> simp [known, kept]
  unfold split Tables.evict keepObjects
  simp only [objectTypes, identities, List.filter_map] at evicted ⊢
  congr 2 <;> exact List.filter_congr fun p member => (evicted p member).symm

theorem exists_split_eq {T : Tables} (aligned : T.Aligned) : ∃ r : Registry, r.split = T := by
  obtain ⟨types, identities, scalars⟩ := T
  have paired : ∃ objects : List (String × RegisteredType),
      objects.map (fun p => (p.1, p.2.type)) = types ∧
        objects.map (fun p => (p.1, p.2.identity)) = identities := by
    unfold Tables.Aligned Pairs.keys at aligned
    dsimp only at aligned
    induction types generalizing identities with
    | nil =>
      rw [List.map_nil, eq_comm, List.map_eq_nil_iff] at aligned
      exact ⟨[], rfl, aligned.symm⟩
    | cons first rest ih =>
      cases identities with
      | nil => cases aligned
      | cons other others =>
        obtain ⟨same, below⟩ := List.cons.inj aligned
        obtain ⟨objects, inTypes, inIdentities⟩ := ih others below
        refine ⟨(first.1, ⟨other.2, first.2⟩) :: objects, ?_, ?_⟩
        · rw [List.map_cons, inTypes]
        · rw [List.map_cons, inIdentities]
          exact congrArg (fun name => (name, other.2) :: others) same
  obtain ⟨objects, rfl, rfl⟩ := paired
  exact ⟨⟨objects, scalars⟩, rfl⟩

theorem aligned_split (r : Registry) : r.split.Aligned := r.keys_identities.symm

end Registry

/-! ### One derivation over both -/

def DerivationState.split (s : DerivationState) : TablesState := ⟨s.check, s.registry.split⟩

namespace Tables

open HintSchema.Derivation (PropertyOutcomes)

/-- The question does not look at what is registered, and leaves that as it is. -/
def Apart {α : Type} (question : DerivationM α) : Prop :=
  ∀ c, ∃ answer d, ∀ r, runFrom question ⟨c, r⟩ = (answer, ⟨d, r⟩)

namespace Apart

variable {α β : Type}

theorem pure (a : α) : Apart (pure a) := fun c => ⟨.ok a, c, fun _ => rfl⟩

theorem asking (question : CheckM α) : Apart (Derivation.asking question) :=
  fun c => ⟨(runFrom question c).1.mapError .check, (runFrom question c).2,
    fun r => Derivation.runFrom_asking question ⟨c, r⟩⟩

theorem bind {question : DerivationM α} {next : α → DerivationM β} (apart : Apart question)
    (later : ∀ a, Apart (next a)) : Apart (question >>= next) := by
  intro c
  obtain ⟨answer, d, ran⟩ := apart c
  cases answer with
  | error fault => exact ⟨.error fault, d, fun r => by rw [runFrom_bind, ran]⟩
  | ok a =>
    obtain ⟨answer, e, next⟩ := later a d
    refine ⟨answer, e, fun r => ?_⟩
    rw [runFrom_bind, ran]
    exact next r

theorem unsupported (handle : Handle) (path : TypePath) :
    Apart (Derivation.unsupported handle path) :=
  (asking _).bind fun _ => .pure _

theorem objectName (P : Program) (path : TypePath) (handle : Handle) :
    Apart (Derivation.objectName P path handle) := by
  have written (handle : Handle) : Apart (some <$> Derivation.asking handle.display) := by
    rw [map_eq_pure_bind]
    exact (asking _).bind fun _ => .pure _
  unfold Derivation.objectName
  split
  · split
    · exact (pure _).bind fun _ => .pure _
    · exact (written _).bind fun _ => .pure _
  · exact (written _).bind fun _ => .pure _

end Apart

/-- From the state the second computation does over tables what the first one does over registered
types. -/
def Follows {α : Type} (s : DerivationState) (first : DerivationM α) (second : TablesM α) : Prop :=
  runFrom second s.split = ((runFrom first s).1, (runFrom first s).2.split)

namespace Follows

variable {α β : Type} {s : DerivationState} {first : DerivationM α} {second : TablesM α}

theorem pure (a : α) : Follows s (pure a) (pure a) := rfl

theorem throw (fault : DerivationFault) :
    Follows s (throw fault : DerivationM α) (throw fault) := rfl

theorem bind {next : α → DerivationM β} {next' : α → TablesM β} (follows : Follows s first second)
    (later : ∀ a t, Returns first s a t → Follows t (next a) (next' a)) :
    Follows s (first >>= next) (second >>= next') := by
  unfold Follows at follows ⊢
  rw [runFrom_bind, runFrom_bind, follows]
  cases ran : runFrom first s with
  | mk answer t =>
    cases answer with
    | error => rfl
    | ok a => exact later a t ran

theorem foldlM {f : β → α → DerivationM β} {g : β → α → TablesM β} {items : List α}
    (each : ∀ item ∈ items, ∀ b t, Follows t (f b item) (g b item)) (b : β) :
    Follows s (items.foldlM f b) (items.foldlM g b) := by
  induction items generalizing b s with
  | nil => exact .pure b
  | cons item rest ih =>
    rw [List.foldlM_cons, List.foldlM_cons]
    refine (each item List.mem_cons_self b s).bind fun b t _ => ?_
    exact ih (fun item member => each item (List.mem_cons_of_mem _ member)) b

theorem get_bind {next : DerivationState → DerivationM β} {next' : TablesState → TablesM β}
    (follows : Follows s (next s) (next' s.split)) :
    Follows s (get >>= next) (get >>= next') :=
  follows

theorem asking {question : DerivationM α} (apart : Apart question) :
    Follows s question (Tables.asking question) := by
  obtain ⟨answer, d, ran⟩ := apart s.check
  have alone : runFrom (Tables.asking question) s.split = runFrom (do
      set { s.split with check := (runFrom question ⟨s.check, {}⟩).2.check }
      MonadExcept.ofExcept (runFrom question ⟨s.check, {}⟩).1 : TablesM α) s.split := rfl
  unfold Follows
  rw [alone, ran, show runFrom question s = _ from ran s.registry]
  cases answer <;> rfl

theorem update {f : Registry → Registry} {g : Tables → Tables}
    (same : (f s.registry).split = g s.registry.split) :
    Follows s (Derivation.updateRegistry f) (Tables.update g) :=
  congrArg (fun tables => (Except.ok (), (⟨s.check, tables⟩ : TablesState))) same.symm

end Follows

variable {P : Program} {call : TypePath → Handle → DerivationM Outcome}
  {call' : TypePath → Handle → TablesM Outcome} {path : TypePath} {s : DerivationState}

theorem follows_registerObject
    (each : ∀ path handle t, Follows t (call path handle) (call' path handle))
    (framed : ∀ path handle s o t, Returns (call path handle) s o t → Derivation.Framed s o t)
    {name : String} (absent : name ∉ s.registry.objectNames) (identity : Identity)
    (source : RecordSource) (arguments : List Handle) :
    Follows s (Derivation.registerObject P call path name identity source arguments)
      (registerObject P call' path name identity source arguments) := by
  refine .get_bind ?_
  have before : Pairs.keys s.split.tables.types = s.registry.objectNames :=
    s.registry.keys_objectTypes
  rw [before]
  refine (Follows.update (Registry.split_opened _ _ _)).bind fun _ t opened => ?_
  obtain rfl := (Derivation.returns_updateRegistry_iff ..).mp opened
  refine (Follows.asking (.asking _)).bind fun members u asked => ?_
  refine (Follows.foldlM (fun member _ found t => ?_) ({} : PropertyOutcomes)).bind
    fun found v walked => ?_
  · exact (each _ _ t).bind fun _ _ _ => .pure _
  · have extended := Derivation.opened_extends framed asked
      ((Derivation.returns_walk_iff ..).mp walked)
    split
    · exact (Follows.update (Registry.split_closed absent extended _)).bind fun _ _ _ => .pure _
    · exact (Follows.update (Registry.split_keepObjects _ _)).bind fun _ _ _ => .pure _

theorem follows_objectType
    (each : ∀ path handle t, Follows t (call path handle) (call' path handle))
    (framed : ∀ path handle s o t, Returns (call path handle) s o t → Derivation.Framed s o t)
    (handle : Handle) (source : RecordSource) (arguments : List Handle) :
    Follows s (Derivation.objectType P call path handle source arguments)
      (objectType P call' path handle source arguments) := by
  refine (Follows.asking (.objectName P path handle)).bind fun name t _ => ?_
  cases name with
  | error fault => cases fault <;> first | exact .pure _ | exact .throw _
  | ok name =>
    refine .get_bind ?_
    have known : Pairs.has t.split.tables.types name = (t.registry.object? name).isSome := by
      have types := Pairs.lookup_map_snd t.registry.objects RegisteredType.type name
      rw [Pairs.has_eq_isSome, Pairs.get?, show t.split.tables.types.lookup name = _ from types,
        Option.isSome_map]
      rfl
    have identity : t.split.tables.identities.lookup name =
        (t.registry.object? name).map (·.identity) := t.registry.identity?_eq name
    dsimp only
    rw [known, identity]
    cases found : t.registry.object? name with
    | none =>
      exact follows_registerObject each framed (Registry.object?_eq_none_iff.mp found) _ _ _
    | some entry =>
      simp only [Option.isSome_some, if_true, Option.map_some, Option.some.injEq]
      split
      · exact .pure _
      · exact (Follows.asking (.asking _)).bind fun _ _ _ => .pure _

/-- A call for a type is followed over the tables. -/
theorem follows_derive (P : Program) (depth : Int) (path : TypePath) (handle : Handle)
    (s : DerivationState) : Follows s (Derivation.deriveType P depth path handle)
      (derive P depth path handle) := by
  generalize bound : (Derivation.depthLimit + 1 - depth).toNat = below
  induction below using Nat.strongRecOn generalizing depth path handle s with
  | ind below ih =>
    rw [Derivation.deriveType, derive]
    refine (Follows.asking (.asking _)).bind fun shown t _ => ?_
    split
    · exact (Follows.asking (.asking _)).bind fun _ _ _ => .throw _
    · rename_i within
      have each path handle t : Follows t (Derivation.deriveType P (depth + 1) path handle)
          (derive P (depth + 1) path handle) := ih _ (by omega) _ _ _ t rfl
      cases shown with
      | list _ element =>
        refine (each _ _ t).bind fun o _ _ => ?_
        cases o <;> exact .pure _
      | record _ source arguments =>
        exact follows_objectType each (fun _ _ _ _ _ => Derivation.framed_of_returns) _ _ _
      | intrinsic kind =>
        dsimp only
        cases kind.scalarName? with
        | none => exact .asking (.unsupported _ _)
        | some name =>
          exact (Follows.update (t.registry.split_addScalar name)).bind fun _ _ _ => .pure _
      | union members =>
        dsimp only
        cases (Handle.union members).nullable? with
        | none => exact .asking (.unsupported _ _)
        | some found =>
          refine (each _ _ t).bind fun o _ _ => ?_
          cases o with
          | errors => exact .pure _
          | type type =>
            dsimp only
            cases type.nullable? found.2 with
            | none => exact .throw _
            | some => exact .pure _
      | _ => exact .asking (.unsupported _ _)

/-- A call leaves the same names in both tables if it finds the same ones there. -/
theorem aligned_of_derive {depth : Int} {handle : Handle} {o : Outcome} {T U : TablesState}
    (aligned : T.tables.Aligned) (returned : Returns (derive P depth path handle) T o U) :
    U.tables.Aligned := by
  obtain ⟨r, same⟩ := Registry.exists_split_eq aligned
  have whole : T = (⟨T.check, r⟩ : DerivationState).split := by
    rw [DerivationState.split, same]
  rw [whole] at returned
  obtain ⟨_, rfl⟩ := Prod.mk.inj ((follows_derive P depth path handle _).symm.trans returned)
  exact Registry.aligned_split _

/-- Calls for types over tables that return one after the other. Between them more may become known
of classes. -/
inductive Trace (P : Program) : TablesState → List Derivation.Call → TablesState → Prop
  | done (T : TablesState) : Trace P T [] T
  | asked {T U : TablesState} {c : CheckState} {calls : List Derivation.Call}
      (grown : T.check.Grows P c) (later : Trace P { T with check := c } calls U) :
      Trace P T calls U
  | derived {depth : Int} {path : TypePath} {handle : Handle} {o : Outcome}
      {T U V : TablesState} {calls : List Derivation.Call}
      (returned : Returns (derive P depth path handle) T o U) (later : Trace P U calls V) :
      Trace P T (⟨path, handle, o⟩ :: calls) V

theorem Trace.of_registered {t : DerivationState} {calls : List Derivation.Call}
    (traced : Derivation.Trace P s calls t) : Trace P s.split calls t.split := by
  induction traced with
  | done s => exact .done s.split
  | asked grown _ ih => exact .asked grown ih
  | @derived depth path handle o s t u calls returned _ ih =>
    have followed : runFrom (derive P depth path handle) s.split = (.ok o, t.split) := by
      rw [follows_derive, show runFrom _ s = _ from returned]
    exact .derived followed ih

theorem Trace.aligned {T U : TablesState} {calls : List Derivation.Call}
    (traced : Trace P T calls U) (aligned : T.tables.Aligned) : U.tables.Aligned := by
  induction traced with
  | done => exact aligned
  | asked _ _ ih => exact ih aligned
  | derived returned _ ih => exact ih (aligned_of_derive aligned returned)

end Tables

end HintSchema

import HintSchema.Proofs.Hints.Flat
import HintSchema.Proofs.Hints.Leaks

/-!
What can be looked at from a handle, through its members, its arguments, its properties and what it
expands to. A type variable that no declaration on the way leaks, and that cannot be looked at from
the arguments of a handle, cannot be looked at from the handle either (`Free.apart`).
-/

namespace HintSchema

namespace Program

variable {P : Program} {z : CheckState} {names : List String} {h part : Handle}

/-- The second handle is seen at the first one. All that has to be asked is known in `z`. -/
inductive Sees (P : Program) (z : CheckState) : Handle → Handle → Prop
  | member {members : List Handle} {part : Handle} (inside : part ∈ members) :
      Sees P z (.union members) part
  | argument {h part : Handle} (inside : part ∈ h.arguments) : Sees P z h part
  | property {symbol : Symbol} {source : RecordSource} {arguments : List Handle}
      {aliasName : Option String} {c d : CheckState} {members : Properties} {m : String × Handle}
      (asked : Returns (P.propertiesOf source arguments) c members d) (known : d.Grows P z)
      (inside : m ∈ members) : Sees P z (.record symbol source arguments aliasName) m.2
  | expanded {target : AliasRef} {arguments : List Handle} {c d : CheckState} {shown : Handle}
      (asked : Returns (P.apparent (.deferred target arguments)) c shown d)
      (known : d.Grows P z) : Sees P z (.deferred target arguments) shown

/-- The second handle can be looked at from the first one. -/
def Reaches (P : Program) (z : CheckState) : Handle → Handle → Prop :=
  Relation.ReflTransGen (P.Sees z)

def Apart (P : Program) (z : CheckState) (names : List String) (h : Handle) : Prop :=
  ∀ name ∈ names, ¬ P.Reaches z h (.typeParameter name)

theorem Apart.step (apart : P.Apart z names h) (sees : P.Sees z h part) : P.Apart z names part :=
  fun name member reached => apart name member (.head sees reached)

theorem apart_of_blind (blind : ∀ part, ¬ P.Sees z h part)
    (other : ∀ name ∈ names, h ≠ .typeParameter name) : P.Apart z names h := by
  intro name member reached
  rcases Relation.ReflTransGen.cases_head reached with same | ⟨part, sees, _⟩
  · exact other name member same
  · exact blind part sees

theorem apart_intrinsic (kind : Intrinsic) : P.Apart z names (.intrinsic kind) :=
  apart_of_blind (fun _ sees => by cases sees with | argument inside => cases inside)
    fun _ _ impossible => by cases impossible

theorem apart_void (text : String) : P.Apart z names (.void text) :=
  apart_of_blind (fun _ sees => by cases sees with | argument inside => cases inside)
    fun _ _ impossible => by cases impossible

theorem apart_unsupported (text : String) (symbol : Option Symbol) :
    P.Apart z names (.unsupported text symbol) :=
  apart_of_blind (fun _ sees => by cases sees with | argument inside => cases inside)
    fun _ _ impossible => by cases impossible

theorem apart_typeParameter {name : String} (other : name ∉ names) :
    P.Apart z names (.typeParameter name) := by
  refine apart_of_blind (fun _ sees => by cases sees with | argument inside => cases inside) ?_
  rintro _ member ⟨⟩
  exact other member

theorem Apart.renamed {symbol : Symbol} {source : RecordSource} {arguments : List Handle}
    {aliasName : Option String} (apart : P.Apart z names (.record symbol source arguments aliasName))
    (other : Option String) : P.Apart z names (.record symbol source arguments other) := by
  intro name member reached
  rcases Relation.ReflTransGen.cases_head reached with impossible | ⟨part, sees, later⟩
  · cases impossible
  · refine (apart.step ?_ : P.Apart z names part) name member later
    cases sees with
    | argument inside => exact .argument inside
    | property asked known inside => exact .property asked known inside

/-- The handle is formed from ones at which none of the type variables can be looked at, by
declarations that leak none of them. -/
inductive Free (P : Program) (z : CheckState) (names : List String) : Handle → Prop
  | foreign {h : Handle} (apart : P.Apart z names h) : Free P z names h
  | union {members : List Handle} (parts : ∀ h ∈ members, Free P z names h) :
      Free P z names (.union members)
  | list {name : String} {element : Handle} (inner : Free P z names element) :
      Free P z names (.list name element)
  | awaitable {name : String} {arguments : List Handle}
      (parts : ∀ h ∈ arguments, Free P z names h) : Free P z names (.awaitable name arguments)
  | classObject {symbol : Symbol} {arguments : List Handle}
      (parts : ∀ h ∈ arguments, Free P z names h) : Free P z names (.classObject symbol arguments)
  | record {symbol : Symbol} {source : RecordSource} {arguments : List Handle}
      {aliasName : Option String}
      (tight : P.Tight z names (.fields source (source.typeParameters.take arguments.length)))
      (parts : ∀ h ∈ arguments, Free P z names h) :
      Free P z names (.record symbol source arguments aliasName)
  | deferred {target : AliasRef} {arguments : List Handle}
      (tight : P.Tight z names (.hint target.key.file
        ((P.variablesOf target.key.file target.value []).take arguments.length) target.value))
      (parts : ∀ h ∈ arguments, Free P z names h) : Free P z names (.deferred target arguments)

namespace Free

theorem alternatives (free : P.Free z names h) (inside : part ∈ h.alternatives) :
    P.Free z names part := by
  cases h with
  | union members =>
    cases free with
    | foreign apart => exact .foreign (apart.step (.member inside))
    | union parts => exact parts part inside
  | _ =>
    cases List.mem_singleton.mp inside
    exact free

theorem unionOf {members : List Handle} (parts : ∀ h ∈ members, P.Free z names h) :
    P.Free z names (Handle.unionOf members) :=
  Handle.unionOf_of_alternatives (fun h member _ part => (parts h member).alternatives part)
    (fun _ each => each) fun _ each => .union each

theorem renamed {symbol : Symbol} {source : RecordSource} {arguments : List Handle}
    {aliasName : Option String}
    (free : P.Free z names (.record symbol source arguments aliasName)) (other : Option String) :
    P.Free z names (.record symbol source arguments other) := by
  cases free with
  | foreign apart => exact .foreign (apart.renamed other)
  | record tight parts => exact .record tight parts

end Free

/-- Hints that leak none of the type variables come to handles that are free of them, where the
names stand for such. -/
theorem recordCongruence_free (P : Program) (z : CheckState) (names : List String) :
    RecordCongruence P z (fun file keys e => P.Tight z names (.hint file keys e))
      (fun source keys => P.Tight z names (.fields source keys))
      fun _ b => P.Free z names b where
  __ := closedRecords_tight P z names
  intrinsic kind := .foreign (apart_intrinsic kind)
  void text := .foreign (apart_void text)
  unsupported text := .foreign (apart_unsupported text none)
  typeParameter _ _ _ _ tight stands free := .foreign (apart_typeParameter (tight.not_mem stands free))
  list _ _ _ free := .list free
  awaitable _ _ _ free := .awaitable (forall_mem_of_forall₂ free)
  union _ _ free := .unionOf (forall_mem_of_forall₂ free)
  classObject _ _ _ _ _ _ _ _ _ _ free := .classObject (forall_mem_of_forall₂ free)
  record _ _ _ _ _ _ _ _ tight stands known count free :=
    .record (by rw [← free.length_eq, count]; exact tight.step (.ofClass stands known))
      (forall_mem_of_forall₂ free)
  call _ _ _ _ _ tight stands := .record (tight.step (.ofCall stands)) (List.forall_mem_nil _)
  inline _ _ _ _ _ _ _ _ _ tight same first looked := by
    cases same
    exact .record (tight.step (.inline first looked)) (List.forall_mem_nil _)
  deferred _ _ _ _ _ _ _ tight stands count free :=
    .deferred (by rw [← free.length_eq, count]; exact tight.step (.value stands))
      (forall_mem_of_forall₂ free)
  renamedLeft _ _ _ _ _ free := free
  renamedRight _ _ _ name _ free := free.renamed (some name)

namespace Free

theorem forall₂_same {handles : List Handle} (free : ∀ h ∈ handles, P.Free z names h) :
    List.Forall₂ (fun _ b => P.Free z names b) handles handles :=
  List.forall₂_same.mpr free

theorem step (free : P.Free z names h) (sees : P.Sees z h part) : P.Free z names part := by
  cases free with
  | foreign apart => exact .foreign (apart.step sees)
  | union parts =>
    cases sees with
    | member inside => exact parts part inside
    | argument inside => cases inside
  | list inner =>
    cases sees with
    | argument inside => exact List.mem_singleton.mp inside ▸ inner
  | awaitable parts | classObject parts =>
    cases sees with
    | argument inside => exact parts part inside
  | record tight parts =>
    cases sees with
    | argument inside => exact parts part inside
    | property asked known inside =>
      have free := (recordCongruence_free P z names).propertiesOf tight (forall₂_same parts)
        _ _ _ _ _ _ asked asked known known
      exact forall_mem_of_forall₂ (free.imp fun _ _ named => named.2) _ inside
  | deferred tight parts =>
    cases sees with
    | argument inside => exact parts part inside
    | expanded asked known =>
      exact (recordCongruence_free P z names).apparent tight (forall₂_same parts)
        _ _ _ _ _ _ asked asked known known

/-- None of the type variables can be looked at from a free handle. -/
theorem apart (free : P.Free z names h) : P.Apart z names h := by
  intro name member reached
  generalize same : Handle.typeParameter name = target at reached
  induction reached using Relation.ReflTransGen.head_induction_on with
  | refl =>
    subst same
    cases free with
    | foreign apart => exact apart name member .refl
  | head sees _ ih => exact ih (free.step sees)

end Free

end Program

end HintSchema

import HintSchema.Handle.Form
import HintSchema.Proofs.Hints.Formation

/-!
Unions as far as they can be seen are flat: none is a member of another. A deferred alias is not
seen through, whatever it expands to.
-/

namespace HintSchema

namespace Handle

/-- Nowhere in the handle is a union a member of a union. -/
inductive Flat : Handle → Prop
  | intrinsic (kind : Intrinsic) : Flat (.intrinsic kind)
  | void (text : String) : Flat (.void text)
  | union {members : List Handle} (single : ∀ h ∈ members, h.members? = .none)
      (parts : ∀ h ∈ members, Flat h) : Flat (.union members)
  | list {name : String} {element : Handle} (inner : Flat element) : Flat (.list name element)
  | awaitable {name : String} {arguments : List Handle} (parts : ∀ h ∈ arguments, Flat h) :
      Flat (.awaitable name arguments)
  | classObject {symbol : Symbol} {arguments : List Handle} (parts : ∀ h ∈ arguments, Flat h) :
      Flat (.classObject symbol arguments)
  | record {symbol : Symbol} {source : RecordSource} {arguments : List Handle}
      {aliasName : Option String} (parts : ∀ h ∈ arguments, Flat h) :
      Flat (.record symbol source arguments aliasName)
  | typeParameter (name : String) : Flat (.typeParameter name)
  | unsupported (text : String) (symbol : Option Symbol) : Flat (.unsupported text symbol)
  | deferred {target : AliasRef} {arguments : List Handle} (parts : ∀ h ∈ arguments, Flat h) :
      Flat (.deferred target arguments)

theorem mem_of_mem_distinctFrom {h : Handle} {seen : List Identity} {handles : List Handle}
    (member : h ∈ distinctFrom seen handles) : h ∈ handles := by
  induction handles generalizing seen with
  | nil => exact member
  | cons first rest ih =>
    rw [distinctFrom] at member
    split at member
    · exact List.mem_cons_of_mem _ (ih member)
    · rcases List.mem_cons.mp member with rfl | later
      · exact List.mem_cons_self
      · exact List.mem_cons_of_mem _ (ih later)

theorem unionOf_of_alternatives {members : List Handle} {Q R : Handle → Prop}
    (each : ∀ h ∈ members, ∀ part ∈ h.alternatives, Q part) (single : ∀ h, Q h → R h)
    (union : ∀ distinct, (∀ h ∈ distinct, Q h) → R (.union distinct)) : R (unionOf members) := by
  have parts : ∀ h ∈ distinctFrom [] (members.flatMap alternatives), Q h := by
    intro h inside
    obtain ⟨whole, member, part⟩ := List.mem_flatMap.mp (mem_of_mem_distinctFrom inside)
    exact each whole member h part
  unfold unionOf
  split
  · rename_i h only
    exact single h (parts h (only ▸ List.mem_cons_self))
  · exact union _ parts

theorem mem_of_nullable? {members : List Handle} {single : Handle} {absence : Schema.Absence}
    (split : (Handle.union members).nullable? = some (single, absence)) : single ∈ members := by
  unfold Handle.nullable? at split
  dsimp only at split
  split at split
  · rename_i other only
    cases split
    have member : single ∈ [single] := List.mem_cons_self
    rw [← only] at member
    exact (List.mem_filter.mp member).1
  · cases split

namespace Flat

variable {h : Handle} {members : List Handle}

theorem of_mem_alternatives {part : Handle} (flat : h.Flat) (member : part ∈ h.alternatives) :
    part.members? = .none ∧ part.Flat := by
  cases flat with
  | union single parts => exact ⟨single part member, parts part member⟩
  | _ =>
    cases List.mem_singleton.mp member
    refine ⟨rfl, ?_⟩
    constructor <;> assumption

theorem unionOf (flat : ∀ h ∈ members, h.Flat) : (Handle.unionOf members).Flat :=
  unionOf_of_alternatives (fun h member _ part => (flat h member).of_mem_alternatives part)
    (fun _ each => each.2)
    fun _ each => .union (fun h member => (each h member).1) fun h member => (each h member).2

theorem arguments (flat : h.Flat) : ∀ part ∈ h.arguments, part.Flat := by
  cases flat with
  | list inner => exact List.forall_mem_singleton.mpr inner
  | awaitable parts | classObject parts | record parts | deferred parts => exact parts
  | _ => exact List.forall_mem_nil _

end Flat

end Handle

theorem Formation.flat : Formation Handle.Flat where
  intrinsic kind _ := .intrinsic kind
  void := .void
  union _ _ := .unionOf
  list _ _ _ := .list
  awaitable _ _ := .awaitable
  classObject _ _ := .classObject
  record _ _ _ := .record
  renamed _ _ _ _ _ flat := .record flat.arguments
  typeParameter := .typeParameter
  unsupported text := .unsupported text none
  deferred _ _ := .deferred

theorem FieldFormation.flat : FieldFormation Handle.Flat := ⟨.flat, .intrinsic _⟩

namespace Program

/-- The types of the parameters, results and properties of a program, with all types inside them. -/
inductive Denotes (P : Program) : Handle → Prop
  | parameter {f : Function} {c d : CheckState} {signature : Signature} {p : TypedParameter}
      (asked : Returns (P.signature f) c signature d) (member : p ∈ signature.parameters) :
      Denotes P p.handle
  | result {f : Function} {c d : CheckState} {signature : Signature}
      (asked : Returns (P.signature f) c signature d) : Denotes P signature.result
  | property {symbol : Symbol} {source : RecordSource} {arguments : List Handle}
      {aliasName : Option String} {c d : CheckState} {members : Properties}
      {m : String × Handle} (whole : Denotes P (.record symbol source arguments aliasName))
      (asked : Returns (P.propertiesOf source arguments) c members d) (member : m ∈ members) :
      Denotes P m.2
  | element {name : String} {element : Handle} (whole : Denotes P (.list name element)) :
      Denotes P element
  | member {members : List Handle} {h : Handle} (whole : Denotes P (.union members))
      (member : h ∈ members) : Denotes P h
  | expanded {h shown : Handle} {c d : CheckState} (whole : Denotes P h)
      (asked : Returns (P.apparent h) c shown d) : Denotes P shown

theorem Denotes.flat {P : Program} {h : Handle} (denoted : P.Denotes h) : h.Flat := by
  induction denoted with
  | parameter asked member => exact (settles_signature .flat _ _ _ _ asked).1.1 _ member
  | result asked => exact (settles_signature .flat _ _ _ _ asked).1.2
  | property _ asked member ih =>
    exact (settles_propertiesOf .flat _ ih.arguments _ _ _ asked).1 _ member
  | element _ ih => exact ih.arguments _ List.mem_cons_self
  | member _ member ih =>
    cases ih with
    | union single parts => exact parts _ member
  | expanded _ asked ih => exact (settles_apparent Formation.flat ih ih.arguments _ _ _ asked).1

end Program

end HintSchema

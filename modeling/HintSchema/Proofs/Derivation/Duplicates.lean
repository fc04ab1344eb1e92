import HintSchema.Derivation.File
import HintSchema.Proofs.Derivation.Naming

/-!
Types of one identity and their entries. Handles of one identity differ at most in the list form or
the alias that is written somewhere in them (`Kin.eq_or_respelled`). Where they do not, a record has
one name, and where they do and each record has a name of its own, it has two
(`one_entry_unless_respelled`).
-/

namespace HintSchema

open Schema

namespace Handle

/-- At some place in the two, a list has another form, or a record without a name is known by
another alias. -/
inductive Respelled : Handle → Handle → Prop
  | form {name name' : String} {element element' : Handle} (apart : name ≠ name') :
      Respelled (.list name element) (.list name' element')
  | known {symbol : Symbol} {source : RecordSource} {arguments arguments' : List Handle}
      {aliasName aliasName' : Option String} (nameless : symbol.isAnonymous = true)
      (apart : aliasName ≠ aliasName') :
      Respelled (.record symbol source arguments aliasName)
        (.record symbol source arguments' aliasName')
  | inside {a b part other : Handle} (place : Nat) (here : a.parts[place]? = some part)
      (there : b.parts[place]? = some other) (inner : Respelled part other) : Respelled a b

variable {a b : Handle} {as bs : List Handle}

theorem Respelled.ne (respelled : Respelled a b) : a ≠ b := by
  induction respelled with
  | form apart => exact fun same => apart (Handle.list.inj same).1
  | known _ apart => exact fun same => apart (Handle.record.inj same).2.2.2
  | inside place here there _ apart =>
    rintro rfl
    exact apart (Option.some.inj (here.symm.trans there))

theorem eq_or_respelled_all (each : List.Forall₂ (fun a b => a = b ∨ Respelled a b) as bs) :
    as = bs ∨ ∃ (place : Nat) (part other : Handle), as[place]? = some part ∧
      bs[place]? = some other ∧ Respelled part other := by
  induction each with
  | nil => exact .inl rfl
  | cons first _ ih =>
    rcases first with rfl | differ
    · rcases ih with rfl | ⟨place, part, other, here, there, differ⟩
      · exact .inl rfl
      · exact .inr ⟨place + 1, part, other, here, there, differ⟩
    · exact .inr ⟨0, _, _, rfl, rfl, differ⟩

theorem eq_or_respelled_of_parts
    (each : List.Forall₂ (fun a b => a = b ∨ Respelled a b) as bs) (left : a.parts = as)
    (right : b.parts = bs) (whole : as = bs → a = b) : a = b ∨ Respelled a b := by
  rcases eq_or_respelled_all each with same | ⟨place, part, other, here, there, differ⟩
  · exact .inl (whole same)
  · exact .inr (.inside place (left ▸ here) (right ▸ there) differ)

theorem parts_union (members : List Handle) : (Handle.union members).parts = members :=
  List.append_nil _

end Handle

open Handle

namespace Kin

variable {P : Program} {z : CheckState} {a b : Handle} {as bs : List Handle}

/-- Handles of one identity are equal but for what they are written with. -/
theorem eq_or_respelled (placed : P.Placed) (kin : Kin P z a b) (spelled : a.Spelled)
    (spelled' : b.Spelled) : a = b ∨ Respelled a b := by
  obtain ⟨same, left, right⟩ := kin
  induction left generalizing b with
  | intrinsic | void | typeParameter =>
    cases right <;> cases same
    exact .inl rfl
  | unsupported =>
    cases right <;> cases same
    cases spelled
    cases spelled'
    exact .inl rfl
  | union _ ih =>
    cases right with
    | union parts' =>
      have each := forall₂_of_each ih (Identity.union.inj same) parts' spelled.alternatives
        spelled'.alternatives
      exact eq_or_respelled_of_parts each (parts_union _) (parts_union _) (congrArg _)
    | _ => cases same
  | @list name element _ ih =>
    cases right with
    | @list name' element' inner' =>
      by_cases form : name = name'
      · obtain rfl := form
        rcases ih (spelled.arguments _ List.mem_cons_self) (spelled'.arguments _ List.mem_cons_self)
          (Identity.list.inj same) inner' with rfl | differ
        · exact .inl rfl
        · exact .inr (.inside 0 rfl rfl differ)
      · exact .inr (.form form)
    | _ => cases same
  | awaitable _ ih =>
    cases right with
    | awaitable parts' =>
      obtain ⟨rfl, others⟩ := Identity.awaitable.inj same
      have each := forall₂_of_each ih others parts' spelled.arguments spelled'.arguments
      exact eq_or_respelled_of_parts each rfl rfl (congrArg _)
    | _ => cases same
  | classObject bound known _ ih =>
    cases right with
    | classObject bound' _ parts' =>
      obtain ⟨_, places, others⟩ := Identity.declared.inj same
      obtain ⟨rfl, rfl⟩ := class_eq placed bound bound' places
      have each := forall₂_of_each ih others parts' spelled.arguments spelled'.arguments
      exact eq_or_respelled_of_parts each rfl rfl (congrArg _)
    | record origin' _ =>
      obtain ⟨_, places, _⟩ := Identity.declared.inj same
      exact absurd places.symm (origin'.declarations_ne placed bound known)
    | _ => cases same
  | @record symbol source arguments aliasName origin _ ih =>
    cases right with
    | @record _ _ arguments' aliasName' origin' parts' =>
      obtain ⟨_, places, others⟩ := Identity.declared.inj same
      obtain ⟨rfl, rfl⟩ := origin.unique placed origin' places
      have each := forall₂_of_each ih others parts' spelled.arguments spelled'.arguments
      by_cases known : aliasName = aliasName'
      · obtain rfl := known
        refine eq_or_respelled_of_parts each rfl rfl ?_
        rintro rfl
        rfl
      · cases nameless : symbol.isAnonymous with
        | true => exact .inr (.known nameless known)
        | false =>
          rw [spelled.aliasName_eq nameless, spelled'.aliasName_eq nameless] at known
          exact absurd rfl known
    | classObject bound' known' _ =>
      obtain ⟨_, places, _⟩ := Identity.declared.inj same
      exact absurd places (origin.declarations_ne placed bound' known')
    | _ => cases same
  | @deferred target _ bound _ ih =>
    cases right with
    | @deferred target' _ bound' parts' =>
      obtain ⟨keys, others⟩ := Identity.alias.inj same
      obtain ⟨key, value⟩ := target
      obtain ⟨key', value'⟩ := target'
      cases keys
      cases bound.symm.trans bound'
      have each := forall₂_of_each ih others parts' spelled.arguments spelled'.arguments
      exact eq_or_respelled_of_parts each rfl rfl (congrArg _)
    | _ => cases same

end Kin

namespace Derivation

section

variable {P : Program} {z : CheckState} {handles new : List Handle} {calls : List Call}
  {s t : DerivationState} {c d : CheckState} {a b : Handle} {path path' : TypePath} {name : String}

theorem spelled_parts (spelled : a.Spelled) : ∀ part ∈ a.parts, part.Spelled := by
  intro part member
  rcases List.mem_append.mp member with alternative | argument
  · cases spelled with
    | union parts => exact parts part alternative
    | _ => cases alternative
  · exact spelled.arguments part argument

theorem spelled_of_asks (asks : P.Asks handles c new d) (spelled : ∀ h ∈ handles, h.Spelled) :
    ∀ h ∈ new, h.Spelled := by
  cases asks with
  | hint _ known answered =>
    have among := fun v member => spelled _ (known v member)
    exact List.forall_mem_singleton.mpr
      (Program.settles_resolve .spelled _ among _ _ _ _ answered).1
  | @signature _ f _ _ _ _ answered =>
    obtain ⟨⟨parameters, result⟩, _⟩ := Program.settles_signature .spelled f _ _ _ answered
    exact List.forall_mem_cons.mpr ⟨result, List.forall_mem_map.mpr parameters⟩
  | apparent known answered =>
    have formed := spelled _ known
    exact List.forall_mem_singleton.mpr
      (Program.settles_apparent .spelled formed formed.arguments _ _ _ answered).1
  | properties known answered =>
    exact List.forall_mem_map.mpr
      (Program.settles_propertiesOf .spelled _ (spelled _ known).arguments _ _ _ answered).1
  | parts known => exact spelled_parts (spelled _ known)

theorem Context.spelled (context : Context P handles calls t) : ∀ h ∈ handles, h.Spelled := by
  induction context with
  | start => exact List.forall_mem_nil _
  | asked _ asks ih => exact List.forall_mem_append.mpr ⟨spelled_of_asks asks ih, ih⟩
  | derived _ _ _ ih => exact ih

theorem Leads.spelled {start place : TypePath × Handle} (leads : Leads P z start place)
    (spelled : start.2.Spelled) : place.2.Spelled := by
  cases leads with
  | deferred seen =>
    exact (Program.settles_apparent .spelled spelled spelled.arguments _ _ _ seen).1
  | element => exact spelled.arguments _ List.mem_cons_self
  | single split => exact spelled.alternatives _ (Handle.mem_of_nullable? split)
  | property record _ asked present =>
    obtain ⟨symbol, aliasName, same⟩ := eq_record_of_record? record
    obtain rfl := same
    exact (Program.settles_propertiesOf .spelled _ spelled.arguments _ _ _ asked).1 _ present

theorem spelled_of_reached {start place : TypePath × Handle}
    (reached : Relation.ReflTransGen (Leads P z) start place) (spelled : start.2.Spelled) :
    place.2.Spelled := by
  induction reached with
  | refl => exact spelled
  | tail _ leads ih => exact leads.spelled ih

theorem nameAt?_eq_of_not_respelled (placed : P.Placed) (kin : Kin P z a b) (spelled : a.Spelled)
    (spelled' : b.Spelled) (named : a.isNamed = true) (plain : ¬ Respelled a b)
    (path path' : TypePath) : nameAt? P path a = nameAt? P path' b := by
  obtain rfl := (kin.eq_or_respelled placed spelled spelled').resolve_right plain
  exact nameAt?_steady spelled named path path'

theorem returns_of_registered {depth : Int} (shallow : depth ≤ depthLimit)
    (record : a.record?.isSome) (named : nameAt? P path a = some (.ok name))
    (registered : t.registry.identity? name = some a.identity) :
    Returns (deriveType P depth path a) t (.type (.named name .object) []) t := by
  obtain ⟨⟨source, arguments⟩, same⟩ := Option.isSome_iff_exists.mp record
  obtain ⟨entry, found, identity⟩ := Registry.object?_of_identity? registered
  refine (returns_deriveType_iff ..).mpr ⟨a, t, ?_, shallow, .known same named found identity⟩
  obtain ⟨symbol, aliasName, rfl⟩ := eq_record_of_record? same
  exact (returns_asking_iff ..).mpr ⟨t.check, (returns_pure_iff _ _).mpr ⟨rfl, rfl⟩, rfl⟩

/-- The entry has the name and the identity of a record that the handles lead to. -/
def Represents (P : Program) (c : CheckState) (handles : List Handle) (e : String × RegisteredType)
    (record : Handle) : Prop :=
  ∃ start path, start.2 ∈ handles ∧ Relation.ReflTransGen (Leads P c) start (path, record) ∧
    record.record?.isSome ∧ nameAt? P path record = some (.ok e.1) ∧
    record.identity = e.2.identity

theorem represents_of_mem (placed : P.Placed) (clean : P.NoQuotedRecord)
    (context : Context P handles calls t) {e : String × RegisteredType}
    (member : e ∈ t.registry.objects) :
    ∃ record, Represents P (t.check.completed P) handles e record ∧ record.Spelled ∧
      Sourced P (t.check.completed P) record := by
  obtain ⟨genuine, sourced, called⟩ := context.sound placed clean
  -- Told where all classes are known, so that asking again teaches nothing.
  have grown := t.check.grows_completed (P := P)
  obtain ⟨start, starts, path, record, _, _, _, _, reached, isRecord, named, identity, _⟩ :=
    (context.pass.accounted grown fun _ _ known => known).registered e member
  have known : start.2 ∈ handles := by
    cases starts with
    | call member => exact called _ member
    | parameter impossible | result impossible => cases impossible
  exact ⟨record,
    ⟨start, path, known, reached, Option.isSome_of_eq_some isRecord, named, identity.symm⟩,
    spelled_of_reached reached (context.spelled _ known),
    sourced_of_reached placed clean genuine.completed t.check.complete_completed reached
      ((sourced _ known).later grown)⟩

end

/-- Of the handles that come up in a context, two of one identity with names of their own have the
same name wherever they come up, and once one of them is registered so is the other, unless they
are written with different list forms or with different aliases of a record that has no name; if
all records in them have names of their own, then different forms give different names. Two entries
of one identity are one, or they stand for records that have no name of their own or are written
differently. -/
theorem one_entry_unless_respelled (P : Program) (parsed : P.Parsed) (clean : P.NoQuotedRecord)
    (handles : List Handle) (calls : List Call) (t : DerivationState)
    (context : Context P handles calls t) :
    (∀ a ∈ handles, ∀ b ∈ handles, a.identity = b.identity → a.isNamed = true →
      (¬ Respelled a b → ∀ path path' name, nameAt? P path a = some (.ok name) →
        nameAt? P path' b = some (.ok name) ∧
        (t.registry.identity? name = some a.identity → ∀ depth ≤ depthLimit,
          Returns (deriveType P depth path' b) t (.type (.named name .object) []) t)) ∧
      (a.ownNames = true → b.ownNames = true → Respelled a b → ∀ path path' name,
        nameAt? P path a = some (.ok name) → nameAt? P path' b ≠ some (.ok name))) ∧
    ∀ e ∈ t.registry.objects, ∀ e' ∈ t.registry.objects, e.2.identity = e'.2.identity →
      e = e' ∨ ∃ a b, Represents P (t.check.completed P) handles e a ∧
        Represents P (t.check.completed P) handles e' b ∧ (a.isNamed = false ∨ Respelled a b) := by
  have placed := parsed.placed
  obtain ⟨genuine, sourced, called⟩ := context.sound placed clean
  constructor
  · intro a known b known' same named
    have spelled := context.spelled a known
    have spelled' := context.spelled b known'
    have kin : Kin P t.check a b := ⟨same, sourced a known, sourced b known'⟩
    have record : a.record?.isSome := by
      obtain ⟨_, _, _, rfl, _⟩ := spelled.eq_of_isNamed named
      rfl
    have record' : b.record?.isSome := by
      obtain ⟨_, _, _, rfl, _⟩ := spelled.eq_of_isNamed named
      obtain ⟨_, _, _, _, rfl, _⟩ := kin.of_record placed
      rfl
    constructor
    · intro plain path path' name given
      have also := (nameAt?_eq_of_not_respelled placed kin spelled spelled' named plain path
        path').symm.trans given
      refine ⟨also, fun registered depth shallow => ?_⟩
      exact returns_of_registered shallow record' also (registered.trans (congrArg some same))
    · intro own own' differ path path' name given also
      exact differ.ne (eq_of_nameAt? placed kin record record' spelled spelled' own own' given also)
  · intro e member e' member' same
    obtain ⟨a, stands, spelled, origin⟩ := represents_of_mem placed clean context member
    obtain ⟨b, stands', spelled', origin'⟩ := represents_of_mem placed clean context member'
    by_cases differ : a.isNamed = false ∨ Respelled a b
    · exact .inr ⟨a, b, stands, stands', differ⟩
    · left
      obtain ⟨named, plain⟩ := not_or.mp differ
      obtain ⟨_, path, _, _, _, given, identity⟩ := stands
      obtain ⟨_, path', _, _, _, given', identity'⟩ := stands'
      have kin : Kin P (t.check.completed P) a b :=
        ⟨identity.trans (same.trans identity'.symm), origin, origin'⟩
      have names := nameAt?_eq_of_not_respelled placed kin spelled spelled'
        (Bool.eq_true_of_not_eq_false named) plain path path'
      have distinct := (context.pass.kept (Registry.kept_tidy P) (Registry.tidy_empty P)).objects
      refine List.inj_on_of_nodup_map distinct member member' ?_
      rw [given, given'] at names
      exact Except.ok.inj (Option.some.inj names)

/-- A generic record with a list, written in two ways. -/
def listForms : Program := .ofLines ⟨.root, ["app", "functions.py"]⟩ [
  "from typing import Generic, List, TypedDict, TypeVar",
  "T = TypeVar(\"T\")",
  "class Box(TypedDict, Generic[T]):",
  "    item: T",
  "def f(a: Box[list[int]], b: Box[List[int]]) -> int:",
  "    return 0"]

/-- The two have one identity, and two entries. -/
theorem listForms_twice :
    ∃ outcome t, Returns (deriveUnchecked listForms) { check := .start listForms } outcome t ∧
      outcome.issues = [] ∧
      Pairs.keys outcome.schema.objectTypes = ["Box_list_int__", "Box_List_int__"] ∧
      ∃ identity, t.registry.identity? "Box_list_int__" = some identity ∧
        t.registry.identity? "Box_List_int__" = some identity := by
  have shown : (runFrom (do
      let outcome ← deriveUnchecked listForms
      let registry := (← get).registry
      return (outcome.issues, Pairs.keys outcome.schema.objectTypes,
        (registry.identity? "Box_list_int__").isSome,
        decide (registry.identity? "Box_List_int__" = registry.identity? "Box_list_int__")))
      { check := .start listForms }).1 =
      .ok ([], ["Box_list_int__", "Box_List_int__"], true, true) := by decide +kernel
  have returned := returns_of_ok shown
  simp only [returns_bind_iff, returns_get_iff, returns_pure_iff, Prod.mk.injEq] at returned
  obtain ⟨outcome, t, derived, _, _, ⟨rfl, rfl⟩, ⟨clean, names, known, same⟩, _⟩ := returned
  obtain ⟨identity, found⟩ := Option.isSome_iff_exists.mp known.symm
  exact ⟨outcome, _, derived, clean.symm, names.symm, identity, found,
    (of_decide_eq_true same.symm).trans found⟩

def deriveAndCompare (P : Program) (f : Function) (name other : String) :
    DerivationM (Outcome × Bool) := do
  let signature ← asking (P.signature f)
  match signature.parameters.map (·.handle) with
  | [a, b] =>
    let outcome ← deriveType P 0 [.parameter f.name "a"] a
    let registry := (← get).registry
    return (outcome, a.isNamed && decide (a.identity = b.identity ∧
      nameAt? P [] a = some (.ok name) ∧ nameAt? P [] b = some (.ok other) ∧
      registry.identity? name = some a.identity))
  | _ => return (.errors [], false)

theorem one_entry_unless_respelled_listForms :
    listForms.Parsed ∧ listForms.NoQuotedRecord ∧ ∃ handles calls t a b,
      Context listForms handles calls t ∧ a ∈ handles ∧ b ∈ handles ∧ a.identity = b.identity ∧
      a.isNamed = true ∧ Respelled a b ∧
      Returns (deriveType listForms 1 [.result "f"] a) t
        (.type (.named "Box_list_int__" .object) []) t := by
  have parsed : listForms.Parsed := Program.parsed_ofLines (by decide +kernel) _
  have clean : listForms.NoQuotedRecord := Program.noQuotedRecord_of_plain (by decide +kernel)
  have shown : ((listForms.source listForms.entry).exportedFunctions.map fun f =>
      (runFrom (deriveAndCompare listForms f "Box_list_int__" "Box_List_int__")
        { check := .start listForms }).1) =
      [.ok (.type (.named "Box_list_int__" .object) [], true)] := by decide +kernel
  obtain ⟨f, only, ran⟩ := List.map_eq_singleton_iff.mp shown
  have exported : f ∈ (listForms.source listForms.entry).exportedFunctions :=
    only ▸ List.mem_singleton_self f
  obtain ⟨signature, s, asked, rest⟩ := (returns_bind_iff ..).mp (returns_of_ok ran)
  obtain ⟨c, answered, rfl⟩ := (returns_asking_iff ..).mp asked
  have begun := (Context.start rfl).asked (.signature exported answered)
  split at rest
  · rename_i a b declared
    simp only [returns_bind_iff, returns_get_iff, returns_pure_iff, Prod.mk.injEq] at rest
    obtain ⟨outcome, t, derived, _, _, ⟨rfl, rfl⟩, ⟨rfl, all⟩, rfl⟩ := rest
    obtain ⟨named, all⟩ := (Bool.and_eq_true _ _).mp all.symm
    obtain ⟨same, given, given', registered⟩ := of_decide_eq_true all
    rw [declared] at begun
    have first : a ∈ signature.result :: [a, b] ++ [] := by simp
    have second : b ∈ signature.result :: [a, b] ++ [] := by simp
    have context := begun.derived first derived
    obtain ⟨each, _⟩ := one_entry_unless_respelled listForms parsed clean _ _ _ context
    have differ : Respelled a b := by
      by_contra plain
      have also := ((each a first b second same named).1 plain [] [] _ given).1
      rw [given'] at also
      exact absurd also (by decide)
    have again := (each a first a first rfl named).1 (fun other => other.ne rfl) [] [.result "f"] _
      given
    exact ⟨parsed, clean, _, _, _, a, b, context, first, second, same, named, differ,
      again.2 registered 1 (by decide)⟩
  · cases rest

end Derivation

end HintSchema

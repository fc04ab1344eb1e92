import HintSchema.Proofs.Derivation.Context
import HintSchema.Proofs.Hints.Flat

/-!
Which handles have a schema type. A call that ends without a name conflict succeeds exactly if all
that its handle is made of is supported (`succeeds_iff_supported`): a type that is in progress is
taken for granted where it mentions itself, and an entry that another handle of one identity has left
is taken over, but neither answer outlives a failure of what it relies on.
-/

namespace HintSchema

open Schema

namespace Derivation

def DeclaredInside (P : Program) (symbol : Symbol) : Prop :=
  ∃ declaration rest, symbol.declarations = declaration :: rest ∧
    ((Path.ofString declaration.file).resolve P.resolver.tree.cwd).isBelow P.root

/-- What a schema has types for: scalars, lists, nullable unions, and the records of the program's
own files. -/
def Supported (P : Program) : Handle → Prop
  | .intrinsic kind => kind.scalarName?.isSome
  | .list _ _ => True
  | .union members => (Handle.union members).nullable?.isSome
  | .record symbol _ _ _ => DeclaredInside P symbol
  | _ => False

/-- What one comes to from a handle: the handle is looked at, with its alias expanded, and then its
element, its single member beside those for absence, or one of its properties. -/
inductive MadeOf (P : Program) : CheckState → Handle → Handle → CheckState → Prop
  | element {handle element : Handle} {name : String} {c d : CheckState}
      (seen : Returns (P.apparent handle) c (.list name element) d) :
      MadeOf P c handle element d
  | single {handle single : Handle} {members : List Handle} {absence : Absence} {c d : CheckState}
      (seen : Returns (P.apparent handle) c (.union members) d)
      (split : (Handle.union members).nullable? = some (single, absence)) :
      MadeOf P c handle single d
  | property {handle : Handle} {symbol : Symbol} {source : RecordSource} {arguments : List Handle}
      {aliasName : Option String} {members : Properties} {member : String × Handle}
      {c d e : CheckState}
      (seen : Returns (P.apparent handle) c (.record symbol source arguments aliasName) d)
      (asked : Returns (P.propertiesOf source arguments) d members e)
      (present : member ∈ members) : MadeOf P c handle member.2 e

/-- What is seen of a handle and of all that it is made of. -/
inductive Reaches (P : Program) : CheckState → Handle → Handle → CheckState → Prop
  | seen {handle shown : Handle} {c d : CheckState}
      (seen : Returns (P.apparent handle) c shown d) : Reaches P c handle shown d
  | further {handle next shown : Handle} {c d e : CheckState} (made : MadeOf P c handle next d)
      (reached : Reaches P d next shown e) : Reaches P c handle shown e

/-- The error says that the name of a type is already used by another type. -/
def IsConflict (error : String) : Prop :=
  ∃ type name path, error = conflictMessage type name path

section

variable {P : Program} {path : TypePath} {handle : Handle} {name : String}

theorem isBelow_parent (file : Path) : file.isBelow file.parent := by
  simp [Path.isBelow, Path.below?, Path.parent, List.dropLast_prefix]

theorem declaredInside_of_named {symbol : Symbol} {source : RecordSource}
    {arguments : List Handle} {aliasName : Option String}
    (named : nameAt? P path (.record symbol source arguments aliasName) = some (.ok name)) :
    DeclaredInside P symbol := by
  obtain ⟨own, _, qualified⟩ := Option.map_eq_some_iff.mp named
  simp only [TypeName.qualify, TypeName.symbolOf, Handle.symbol?, bind, Except.bind] at qualified
  split at qualified
  · cases qualified
  · rename_i declaration rest declared
    refine ⟨declaration, rest, declared, ?_⟩
    split at qualified
    · rename_i same
      rw [same]
      exact isBelow_parent P.entry
    · split at qualified
      · assumption
      · cases qualified

theorem not_declaredInside_of_outside {symbol : Symbol} {source : RecordSource}
    {arguments : List Handle} {aliasName : Option String} {file : String}
    (named : nameAt? P path (.record symbol source arguments aliasName) =
      some (.error (.outside name file))) : ¬ DeclaredInside P symbol := by
  rintro ⟨declaration, rest, declared, inside⟩
  unfold Program.root at inside
  obtain ⟨own, _, qualified⟩ := Option.map_eq_some_iff.mp named
  simp only [TypeName.qualify, TypeName.symbolOf, Handle.symbol?, bind, Except.bind] at qualified
  rw [declared] at qualified
  dsimp only at qualified
  split at qualified
  · cases qualified
  · split at qualified <;> cases qualified

end

section

variable {P : Program} {C : Calls} {path : TypePath} {name : String} {members : Properties}
  {found whole : PropertyOutcomes} {s t : DerivationState}

theorem Walk.moves (each : ∀ path handle s o t, C path handle s o t → s.check.Grows P t.check)
    (walked : Walk C path name members found s whole t) : s.check.Grows P t.check := by
  induction walked with
  | done => exact .refl _
  | next derived _ ih => exact (each _ _ _ _ _ derived).trans ih

theorem Walk.failure (each : ∀ path handle s o t, C path handle s o t → s.check.Grows P t.check)
    (walked : Walk C path name members found s whole t) (failed : whole.errors ≠ found.errors) :
    ∃ m ∈ members, ∃ u errors v, C (path ++ [.property name m.1]) m.2 u (.errors errors) v ∧
      v.check.Grows P t.check ∧ errors ⊆ whole.errors := by
  induction walked with
  | done => exact absurd rfl failed
  | @next property handle rest outcome found whole _ v _ derived later ih =>
    have grown := later.moves each
    cases outcome with
    | type type warnings =>
      obtain ⟨m, member, rest⟩ := ih failed
      exact ⟨m, List.mem_cons_of_mem _ member, rest⟩
    | errors errors =>
      refine ⟨(property, handle), List.mem_cons_self, _, errors, v, derived, grown, ?_⟩
      exact List.Subset.trans (List.subset_append_right _ _) later.errors_prefix.subset

end

theorem isExpressible_of_supported {P : Program} {shown : Handle} (supported : Supported P shown) :
    shown.isExpressible := by
  cases shown with
  | intrinsic kind => rwa [Handle.isExpressible_intrinsic]
  | union members => rwa [Handle.isExpressible_union]
  | list | record => rfl
  | _ => exact supported.elim

theorem unsupported_of_errors {P : Program} {depth : Int} {path : TypePath} {handle : Handle}
    {s t : DerivationState} {errors : List String}
    (returned : Returns (deriveType P depth path handle) s (.errors errors) t)
    (clear : ∀ error ∈ errors, ¬ IsConflict error) {c : CheckState} (later : t.check.Grows P c) :
    ∃ shown d, Reaches P c handle shown d ∧ ¬ Supported P shown := by
  have moves {depth : Int} {path : TypePath} {handle : Handle} {s t : DerivationState} {o : Outcome}
      (returned : Returns (deriveType P depth path handle) s o t) : s.check.Grows P t.check :=
    (pictured_of_returns returned).grown
  refine deriveType_induct (M := fun _ _ handle _ o t => ∀ errors, o = .errors errors →
    (∀ error ∈ errors, ¬ IsConflict error) → ∀ c, t.check.Grows P c →
      ∃ shown d, Reaches P c handle shown d ∧ ¬ Supported P shown)
    ?_ returned errors rfl clear c later
  intro depth path handle shown s u o t _ asked step errors failing clear c later
  subst failing
  have apparent : Settles P (P.apparent handle) fun _ => True :=
    Program.settles_apparent .any trivial fun _ _ => trivial
  obtain ⟨_, _, again⟩ := asked_settled apparent asked
  cases step with
  | unsupported inexpressible _ =>
    obtain ⟨d, seen⟩ := again c later
    refine ⟨shown, d, .seen seen, fun supported => ?_⟩
    rw [isExpressible_of_supported supported] at inexpressible
    cases inexpressible
  | listFailed failed =>
    obtain ⟨d, seen⟩ := again c ((moves failed.1).trans later)
    obtain ⟨bad, e, reached, refused⟩ :=
      failed.2 errors rfl clear d (later.trans (apparent.moves _ _ _ seen))
    exact ⟨bad, e, .further (.element seen) reached, refused⟩
  | nullableFailed split failed =>
    obtain ⟨d, seen⟩ := again c ((moves failed.1).trans later)
    obtain ⟨bad, e, reached, refused⟩ :=
      failed.2 errors rfl clear d (later.trans (apparent.moves _ _ _ seen))
    exact ⟨bad, e, .further (.single seen split) reached, refused⟩
  | outside record named =>
    obtain ⟨symbol, aliasName, rfl⟩ := eq_record_of_record? record
    obtain ⟨d, seen⟩ := again c later
    exact ⟨_, d, .seen seen, not_declaredInside_of_outside named⟩
  | @conflict _ _ _ name text _ _ _ _ _ _ _ =>
    exact absurd ⟨text, name, path, rfl⟩ (clear _ List.mem_cons_self)
  | @evicted _ source arguments name members found _ _ _ record named _ asked walked failed =>
    obtain ⟨symbol, aliasName, rfl⟩ := eq_record_of_record? record
    have properties : Settles P (P.propertiesOf source arguments) fun _ => True :=
      (Program.settles_propertiesOf .any source fun _ _ => trivial).mono fun _ _ => trivial
    obtain ⟨_, first, members_again⟩ := asked_settled properties asked
    have walk := walked.moves fun _ _ _ _ _ derived => moves derived.1
    obtain ⟨m, member, _, reasons, v, derived, grown, among⟩ :=
      walked.failure (fun _ _ _ _ _ derived => moves derived.1) failed
    obtain ⟨d, seen⟩ := again c ((first.trans walk).trans later)
    have seen_moves := apparent.moves _ _ _ seen
    obtain ⟨e, answered⟩ := members_again d ((walk.trans later).trans seen_moves)
    have answered_moves := properties.moves _ _ _ answered
    obtain ⟨bad, f, reached, refused⟩ := derived.2 reasons rfl
      (fun error inside => clear error (among inside)) e
      (((grown.trans later).trans seen_moves).trans answered_moves)
    exact ⟨bad, f, .further (.property seen answered member) reached, refused⟩

/-- What a type was derived from, as it is seen. -/
inductive Underlies (P : Program) (z : CheckState) (r : Registry) : Handle → Prop
  | scalar {kind : Intrinsic} {name : String} (named : kind.scalarName? = some name) :
      Underlies P z r (.intrinsic kind)
  | list {path : TypePath} {name : String} {element : Handle} {type : TypeDef}
      (inner : Identified P z r path element type) : Underlies P z r (.list name element)
  | nullable {path : TypePath} {members : List Handle} {single : Handle} {absence : Absence}
      {type : TypeDef} (split : (Handle.union members).nullable? = some (single, absence))
      (inner : Identified P z r path single type) : Underlies P z r (.union members)
  | record {path : TypePath} {symbol : Symbol} {source : RecordSource} {arguments : List Handle}
      {aliasName : Option String} {name : String}
      (named : nameAt? P path (.record symbol source arguments aliasName) = some (.ok name))
      (registered : r.identity? name =
        some (Handle.record symbol source arguments aliasName).identity) :
      Underlies P z r (.record symbol source arguments aliasName)

/-- A handle of the identity of one that a type was derived from. -/
def Backed (P : Program) (z : CheckState) (r : Registry) (handle : Handle) : Prop :=
  ∃ other path type, Kin P z handle other ∧ Identified P z r path other type

section

variable {P : Program} {c d z : CheckState} {r : Registry} {handle shown further : Handle}

theorem Identified.underlies {path : TypePath} {type : TypeDef}
    (identified : Identified P z r path handle type) :
    ∃ shown d, Returns (P.apparent handle) z shown d ∧ Underlies P z r shown := by
  cases identified with
  | scalar seen named => exact ⟨_, _, seen, .scalar named⟩
  | list seen inner => exact ⟨_, _, seen, .list inner⟩
  | nullable seen split inner => exact ⟨_, _, seen, .nullable split inner⟩
  | record seen record named registered =>
    obtain ⟨symbol, aliasName, rfl⟩ := eq_record_of_record? record
    exact ⟨_, _, seen, .record named registered⟩

theorem Backed.view (placed : P.Placed) (clean : P.NoQuotedRecord) (complete : z.Complete P)
    (backed : Backed P z r handle) (seen : Returns (P.apparent handle) c shown d)
    (known : d.Grows P z) : ∃ other, Kin P z shown other ∧ Underlies P z r other := by
  obtain ⟨other, path, type, kin, identified⟩ := backed
  obtain ⟨view, e, viewed, underlies⟩ := identified.underlies
  have moves := P.moves_apparent other _ _ _ viewed
  exact ⟨view, Program.agree_apparent placed clean kin _ _ _ _ _ _ seen viewed known
    (complete.grows_back moves), underlies⟩

theorem Underlies.supported (placed : P.Placed) {other : Handle} (kin : Kin P z shown other)
    (underlies : Underlies P z r other) : Supported P shown := by
  cases underlies with
  | scalar named =>
    rw [kin.symm.of_intrinsic]
    exact Option.isSome_of_eq_some named
  | list =>
    obtain ⟨_, _, rfl, _⟩ := kin.symm.of_list
    trivial
  | nullable split =>
    obtain ⟨members, rfl, related⟩ := kin.symm.of_union
    have same := Kin.nullable? related
    rw [split] at same
    cases found : (Handle.union members).nullable? with
    | none =>
      rw [found] at same
      cases same
    | some => exact Option.isSome_of_eq_some found
  | record named =>
    obtain ⟨_, _, _, _, rfl, places, _, _⟩ := kin.symm.of_record placed
    obtain ⟨declaration, rest, declared, inside⟩ := declaredInside_of_named named
    exact ⟨declaration, rest, places ▸ declared, inside⟩

/-- Each entry was derived from a record of the program. -/
def Grounded (P : Program) (z : CheckState) (r : Registry) : Prop :=
  ∀ e ∈ r.objects, ∃ start, Sourced P z start.2 ∧ Certified P z r start e

theorem Leads.sourced (placed : P.Placed) (clean : P.NoQuotedRecord) (genuine : z.Genuine P)
    (complete : z.Complete P) {start place : TypePath × Handle} (leads : Leads P z start place)
    (sourced : Sourced P z start.2) : Sourced P z place.2 := by
  cases leads with
  | @deferred path target arguments shown d seen =>
    have known := complete.grows_back (P.moves_apparent _ _ _ _ seen)
    have alike := Program.agree_apparent placed clean (.refl sourced)
    exact (alike _ _ _ _ _ _ seen seen known known).left
  | element => exact sourced.parts _ List.mem_cons_self
  | @single _ members single absence split =>
    exact sourced.parts _ (List.mem_append_left _ (Handle.mem_of_nullable? split))
  | @property path handle source arguments name members d member record named asked present =>
    obtain ⟨symbol, aliasName, rfl⟩ := eq_record_of_record? record
    have known := complete.grows_back (P.moves_propertiesOf _ _ _ _ _ asked)
    have alike := Program.agree_propertiesOf placed clean genuine (.refl sourced)
    have related := alike _ _ _ _ _ _ asked asked known known
    exact (List.forall₂_same.mp related member present).2.left

theorem sourced_of_reached (placed : P.Placed) (clean : P.NoQuotedRecord) (genuine : z.Genuine P)
    (complete : z.Complete P) {start place : TypePath × Handle}
    (reached : Relation.ReflTransGen (Leads P z) start place) (sourced : Sourced P z start.2) :
    Sourced P z place.2 := by
  induction reached with
  | refl => exact sourced
  | tail _ leads ih => exact leads.sourced placed clean genuine complete ih

theorem exists_of_forall₂ {α β : Type} {R : α → β → Prop} {as : List α} {bs : List β}
    (related : List.Forall₂ R as bs) {a : α} (member : a ∈ as) : ∃ b ∈ bs, R a b := by
  induction related with
  | nil => cases member
  | cons first _ ih =>
    rcases List.mem_cons.mp member with rfl | later
    · exact ⟨_, List.mem_cons_self, first⟩
    · obtain ⟨b, inside, held⟩ := ih later
      exact ⟨b, List.mem_cons_of_mem _ inside, held⟩

/-- What a backed handle is made of is backed. A record may be backed by another one of its
identity: then its properties are, one by one. -/
theorem Backed.made (placed : P.Placed) (clean : P.NoQuotedRecord) (genuine : z.Genuine P)
    (complete : z.Complete P) (grounded : Grounded P z r) (backed : Backed P z r handle)
    (made : MadeOf P c handle further d) (known : d.Grows P z) : Backed P z r further := by
  cases made with
  | element seen =>
    obtain ⟨other, kin, underlies⟩ := backed.view placed clean complete seen known
    obtain ⟨_, _, rfl, elements⟩ := kin.of_list
    cases underlies with
    | list inner => exact ⟨_, _, _, elements, inner⟩
  | single seen split =>
    obtain ⟨other, kin, underlies⟩ := backed.view placed clean complete seen known
    obtain ⟨members, rfl, related⟩ := kin.of_union
    cases underlies with
    | nullable split' inner =>
      have same := Kin.nullable? related
      rw [split, split'] at same
      cases same with
      | some singles => exact ⟨_, _, _, singles.1, inner⟩
  | @property _ symbol source arguments _ members member _ middle _ seen asked present =>
    have learnt := P.moves_propertiesOf _ _ _ _ _ asked
    obtain ⟨other, kin, underlies⟩ := backed.view placed clean complete seen (learnt.trans known)
    obtain ⟨_, _, _, _, rfl, _⟩ := kin.of_record placed
    cases underlies with
    | @record path symbol' source' arguments' aliasName' name named registered =>
      obtain ⟨entry, found, same⟩ := Registry.object?_of_identity? registered
      obtain ⟨start, sourced, certified⟩ := grounded _ (Registry.mem_of_object? found)
      obtain ⟨place, found, source'', arguments'', members'', f, reached, record, _, identity,
        asked'', identified⟩ := certified
      obtain ⟨symbol'', aliasName'', rfl⟩ := eq_record_of_record? record
      have origin : Sourced P z (.record symbol'' source'' arguments'' aliasName'') :=
        sourced_of_reached placed clean genuine complete reached sourced
      have whole : Kin P z (.record symbol source arguments _)
          (.record symbol'' source'' arguments'' aliasName'') :=
        ⟨kin.same.trans (same.symm.trans identity), kin.left, origin⟩
      have known'' := complete.grows_back (P.moves_propertiesOf _ _ _ _ _ asked'')
      have alike := Program.agree_propertiesOf placed clean genuine whole
      have related := alike _ _ _ _ _ _ asked asked'' known known''
      obtain ⟨member'', inside, pair⟩ := exists_of_forall₂ related present
      obtain ⟨property, _, _, derived⟩ := exists_of_forall₂ identified inside
      exact ⟨_, _, _, pair.2, derived⟩

theorem MadeOf.moves (made : MadeOf P c handle further d) : c.Grows P d := by
  cases made with
  | element seen => exact P.moves_apparent _ _ _ _ seen
  | single seen => exact P.moves_apparent _ _ _ _ seen
  | property seen asked =>
    exact (P.moves_apparent _ _ _ _ seen).trans (P.moves_propertiesOf _ _ _ _ _ asked)

theorem Reaches.moves (reached : Reaches P c handle shown d) : c.Grows P d := by
  induction reached with
  | seen seen => exact P.moves_apparent _ _ _ _ seen
  | further made _ ih => exact made.moves.trans ih

theorem MadeOf.genuine (made : MadeOf P c handle further d) (genuine : c.Genuine P) :
    d.Genuine P := by
  cases made with
  | element seen => exact genuine.apparent seen
  | single seen => exact genuine.apparent seen
  | property seen asked =>
    exact (genuine.apparent seen).propertiesOf asked

theorem Reaches.genuine (reached : Reaches P c handle shown d) (genuine : c.Genuine P) :
    d.Genuine P := by
  induction reached with
  | seen seen => exact genuine.apparent seen
  | further made _ ih => exact ih (made.genuine genuine)

theorem Reaches.supported (placed : P.Placed) (clean : P.NoQuotedRecord) (genuine : z.Genuine P)
    (complete : z.Complete P) (grounded : Grounded P z r) (reached : Reaches P c handle shown d)
    (known : d.Grows P z) (backed : Backed P z r handle) : Supported P shown := by
  induction reached with
  | seen seen =>
    obtain ⟨other, kin, underlies⟩ := backed.view placed clean complete seen known
    exact underlies.supported placed kin
  | further made reached ih =>
    have next := backed.made placed clean genuine complete grounded made (reached.moves.trans known)
    exact ih known next

end

/-- In a context, a call for a handle that has come up, if it returns and none of its errors is a
name conflict, gives a type exactly if everything that one comes to from the handle, asking on from
there, is supported. -/
theorem succeeds_iff_supported (P : Program) (parsed : P.Parsed) (clean : P.NoQuotedRecord)
    (handles : List Handle) (calls : List Call) (s t : DerivationState)
    (context : Context P handles calls s) (handle : Handle) (known : handle ∈ handles) (depth : Int)
    (path : TypePath) (o : Outcome) (returned : Returns (deriveType P depth path handle) s o t)
    (clear : ∀ errors, o = .errors errors → ∀ error ∈ errors, ¬ IsConflict error) :
    (∃ type warnings, o = .type type warnings) ↔
      ∀ shown d, Reaches P t.check handle shown d → Supported P shown := by
  have placed := parsed.placed
  constructor
  · rintro ⟨type, warnings, rfl⟩ shown d reached
    have whole := context.derived known returned
    obtain ⟨genuine, sourced, called⟩ := whole.sound placed clean
    -- Told where all classes are known, so that asking again teaches nothing.
    have grown : t.check.Grows P (d.completed P) := reached.moves.trans d.grows_completed
    have accounted := whole.pass.accounted grown fun _ _ same => same
    have grounded : Grounded P (d.completed P) t.registry := by
      intro e entry
      obtain ⟨start, starts, certified⟩ := accounted.registered e entry
      refine ⟨start, ?_, certified⟩
      cases starts with
      | call member => exact (sourced _ (called _ member)).later grown
      | parameter impossible | result impossible => cases impossible
    have identified := accounted.called _ List.mem_cons_self type warnings rfl
    exact reached.supported placed clean (reached.genuine genuine).completed d.complete_completed
      grounded d.grows_completed
      ⟨handle, path, type, .refl ((sourced handle known).later grown), identified⟩
  · intro supported
    cases o with
    | type type warnings => exact ⟨type, warnings, rfl⟩
    | errors errors =>
      obtain ⟨shown, d, reached, refused⟩ :=
        unsupported_of_errors returned (clear errors rfl) (.refl _)
      exact absurd (supported shown d reached) refused

/-- A record that is made of itself, with a list of records of its own identity. -/
def linkedNodes : Program := .ofLines ⟨.root, ["app", "functions.py"]⟩ [
  "from typing import Optional, TypedDict",
  "class Node(TypedDict):",
  "    value: int",
  "    next: Optional[\"Node\"]",
  "    children: list[\"Node\"]",
  "def first(node: Node) -> int:",
  "    return 0"]

def isNode : Expr → Bool
  | .name _ "Node" => true
  | _ => false

def deriveTwice (P : Program) (hint : Expr) : DerivationM (Outcome × Outcome) := do
  let handle ← asking (P.resolve P.entry [] (some hint))
  return (← deriveType P 0 [.parameter "first" "node"] handle,
    ← deriveType P 0 [.result "first"] handle)

theorem succeeds_iff_supported_linkedNodes :
    linkedNodes.Parsed ∧ linkedNodes.NoQuotedRecord ∧ ∃ handles calls s t handle,
      Context linkedNodes handles calls s ∧ calls.length = 1 ∧ handle ∈ handles ∧
      Returns (deriveType linkedNodes 0 [.result "first"] handle) s
        (.type (.named "Node" .object) []) t ∧
      ∀ shown d, Reaches linkedNodes t.check handle shown d → Supported linkedNodes shown := by
  have parsed : linkedNodes.Parsed := Program.parsed_ofLines (by decide +kernel) _
  have clean : linkedNodes.NoQuotedRecord := Program.noQuotedRecord_of_plain (by decide +kernel)
  have shown : ((linkedNodes.hintsWhere isNode).map fun hint =>
      (runFrom (deriveTwice linkedNodes hint) { check := .start linkedNodes }).1) =
      [.ok (.type (.named "Node" .object) [], .type (.named "Node" .object) [])] := by
    decide +kernel
  obtain ⟨hint, found, ran⟩ := List.map_eq_singleton_iff.mp shown
  have kept : hint ∈ linkedNodes.hintsWhere isNode := found ▸ List.mem_singleton_self hint
  have hinted := Program.hint_of_node (Program.mem_nodes_of_hintsWhere kept)
  have returned := returns_of_ok ran
  simp only [deriveTwice, returns_bind_iff, returns_pure_iff, Prod.mk.injEq] at returned
  obtain ⟨handle, s, asked, _, t, first, _, _, second, ⟨rfl, rfl⟩, _⟩ := returned
  obtain ⟨c, answered, rfl⟩ := (returns_asking_iff ..).mp asked
  have context := ((Context.start rfl).asked (.hint hinted (List.forall_mem_nil _) answered)).derived
    List.mem_cons_self first
  have succeeded := succeeds_iff_supported linkedNodes parsed clean _ _ _ _ context handle
    List.mem_cons_self 0 _ _ second fun _ impossible => by cases impossible
  exact ⟨parsed, clean, _, _, _, _, handle, context, rfl, List.mem_cons_self, second,
    succeeded.mp ⟨_, _, rfl⟩⟩

end Derivation

end HintSchema

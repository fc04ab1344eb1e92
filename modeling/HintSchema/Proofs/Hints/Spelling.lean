import HintSchema.Derivation.TypeName
import HintSchema.Proofs.Hints.Flat
import HintSchema.Proofs.Hints.Kin
import HintSchema.Proofs.Modules.Calls

/-!
How handles of one identity are written. They can differ only in which list form they use, so unless
they are equal their written forms differ in the first letter of such a form (`Kin.told`). An object
type's name keeps that difference (`TypeName.sanitize_ne_of_diverge`).
-/

namespace HintSchema

/-- After a common beginning there are two different letters, each of which a name can begin with.
-/
def Diverge (s t : String) : Prop :=
  ∃ before x y after after', s.toList = before ++ x :: after ∧ t.toList = before ++ y :: after' ∧
    x ≠ y ∧ TypeName.isNameStart x ∧ TypeName.isNameStart y

namespace Diverge

variable {s t : String}

theorem append_left (before : String) (diverge : Diverge s t) :
    Diverge (before ++ s) (before ++ t) := by
  obtain ⟨common, x, y, after, after', left, right, rest⟩ := diverge
  refine ⟨before.toList ++ common, x, y, after, after', ?_, ?_, rest⟩ <;>
    simp [String.toList_append, left, right]

theorem append_right (after after' : String) (diverge : Diverge s t) :
    Diverge (s ++ after) (t ++ after') := by
  obtain ⟨common, x, y, later, later', left, right, rest⟩ := diverge
  refine ⟨common, x, y, later ++ after.toList, later' ++ after'.toList, ?_, ?_, rest⟩ <;>
    simp [String.toList_append, left, right]

end Diverge

namespace TypeName

/-- The letters that tell the texts apart are kept, and whatever is before them is treated alike. -/
theorem sanitize_ne_of_diverge {s t : String} (diverge : Diverge s t) :
    sanitize s ≠ sanitize t := by
  obtain ⟨before, x, y, after, after', left, right, apart, start, start'⟩ := diverge
  have kept {c : Char} (start : isNameStart c) (rest : List Char) :
      (before ++ c :: rest).dropWhile (fun c => !isNameStart c) =
        before.dropWhile (fun c => !isNameStart c) ++ c :: rest := by
    have head : (c :: rest).dropWhile (fun c => !isNameStart c) = c :: rest := by
      rw [List.dropWhile_cons, start]
      rfl
    rw [List.dropWhile_append, head]
    split
    · rename_i none
      rw [List.isEmpty_iff.mp none, List.nil_append]
    · rfl
  have same {c : Char} (start : isNameStart c) : (if isNameRest c then c else '_') = c := by
    have rest : isNameRest c := by
      simp only [isNameStart, isNameRest, Char.isAlphanum, Bool.or_eq_true] at start ⊢
      tauto
    rw [if_pos rest]
  intro equal
  have letters := congrArg String.toList equal
  rw [sanitize, sanitize, String.toList_ofList, String.toList_ofList, left, right, kept start,
    kept start', List.map_append, List.map_append, List.map_cons, List.map_cons] at letters
  have next := (List.cons.inj (List.append_cancel_left letters)).1
  rw [same start, same start'] at next
  exact apart next

end TypeName

namespace Handle

/-- Handles as hints come to them: a list goes by the name of a list form, a type that no schema
expresses has no symbol, and a record goes by an alias only if it has no name. -/
inductive Spelled : Handle → Prop
  | intrinsic (kind : Intrinsic) : Spelled (.intrinsic kind)
  | void (text : String) : Spelled (.void text)
  | union {members : List Handle} (parts : ∀ h ∈ members, Spelled h) : Spelled (.union members)
  | list {qualname : String} {element : Handle} (form : qualname ∈ SpecialForm.listForms)
      (inner : Spelled element) : Spelled (.list (Expr.lastName qualname) element)
  | awaitable {name : String} {arguments : List Handle} (parts : ∀ h ∈ arguments, Spelled h) :
      Spelled (.awaitable name arguments)
  | classObject {symbol : Symbol} {arguments : List Handle} (parts : ∀ h ∈ arguments, Spelled h) :
      Spelled (.classObject symbol arguments)
  | record {symbol : Symbol} {source : RecordSource} {arguments : List Handle}
      {aliasName : Option String} (renamed : aliasName.isSome → symbol.isAnonymous)
      (parts : ∀ h ∈ arguments, Spelled h) : Spelled (.record symbol source arguments aliasName)
  | typeParameter (name : String) : Spelled (.typeParameter name)
  | unsupported (text : String) : Spelled (.unsupported text .none)
  | deferred {target : AliasRef} {arguments : List Handle} (parts : ∀ h ∈ arguments, Spelled h) :
      Spelled (.deferred target arguments)

namespace Spelled

variable {h : Handle} {members : List Handle}

theorem alternatives (spelled : h.Spelled) : ∀ part ∈ h.alternatives, part.Spelled := by
  cases spelled with
  | union parts => exact parts
  | _ =>
    refine List.forall_mem_singleton.mpr ?_
    constructor <;> assumption

theorem unionOf (spelled : ∀ h ∈ members, h.Spelled) : (Handle.unionOf members).Spelled :=
  unionOf_of_alternatives (fun h member => (spelled h member).alternatives) (fun _ each => each)
    fun _ each => .union each

theorem arguments (spelled : h.Spelled) : ∀ part ∈ h.arguments, part.Spelled := by
  cases spelled with
  | list _ inner => exact List.forall_mem_singleton.mpr inner
  | awaitable parts | classObject parts | record _ parts | deferred parts => exact parts
  | _ => exact List.forall_mem_nil _

theorem aliasName_eq {symbol : Symbol} {source : RecordSource} {arguments : List Handle}
    {aliasName : Option String} (spelled : (Handle.record symbol source arguments aliasName).Spelled)
    (named : symbol.isAnonymous = false) : aliasName = .none := by
  cases spelled with
  | record renamed =>
    cases aliasName with
    | none => rfl
    | some => cases named.symm.trans (renamed rfl)

end Spelled

end Handle

theorem Formation.spelled : Formation Handle.Spelled where
  intrinsic kind _ := .intrinsic kind
  void := .void
  union _ _ := .unionOf
  list _ form _ := .list form
  awaitable _ _ := .awaitable
  classObject _ _ := .classObject
  record _ _ _ := .record fun impossible => by cases impossible
  renamed _ _ _ _ anonymous spelled := .record (fun _ => anonymous) spelled.arguments
  typeParameter := .typeParameter
  unsupported := .unsupported
  deferred _ _ := .deferred

theorem FieldFormation.spelled : FieldFormation Handle.Spelled := ⟨.spelled, .intrinsic _⟩

namespace Handle

mutual

/-- Each record in the handle has a name of its own. -/
def ownNames : Handle → Bool
  | .union members => ownNamesAll members
  | .list _ element => ownNames element
  | .awaitable _ arguments | .classObject _ arguments | .deferred _ arguments =>
    ownNamesAll arguments
  | .record symbol _ arguments _ =>
    !symbol.isAnonymous && !symbol.name.isEmpty && ownNamesAll arguments
  | .intrinsic _ | .void _ | .typeParameter _ | .unsupported _ _ => true

def ownNamesAll : List Handle → Bool
  | [] => true
  | h :: rest => ownNames h && ownNamesAll rest

end

variable {as bs arguments : List Handle} {a b h : Handle} {symbol : Symbol} {source : RecordSource}
  {aliasName : Option String}

theorem ownNamesAll_iff {handles : List Handle} :
    ownNamesAll handles = true ↔ ∀ h ∈ handles, h.ownNames = true := by
  induction handles with
  | nil => simp [ownNamesAll]
  | cons h rest ih => simp [ownNamesAll, ih]

theorem ownNames_record_iff :
    (record symbol source arguments aliasName).ownNames = true ↔
      symbol.isAnonymous = false ∧ symbol.name ≠ "" ∧ ∀ h ∈ arguments, h.ownNames = true := by
  simp [ownNames, ownNamesAll_iff, and_assoc]

/-- The handle is a record with a name of its own. -/
def isNamed : Handle → Bool
  | .record symbol _ _ _ => !symbol.isAnonymous && !symbol.name.isEmpty
  | _ => false

theorem Spelled.eq_of_isNamed (spelled : h.Spelled) (named : h.isNamed = true) :
    ∃ symbol source arguments, h = .record symbol source arguments .none ∧
      symbol.isAnonymous = false ∧ symbol.name ≠ "" := by
  cases h with
  | record symbol source arguments aliasName =>
    obtain ⟨anonymous, nonempty⟩ : symbol.isAnonymous = false ∧ symbol.name ≠ "" := by
      simpa [isNamed] using named
    obtain rfl := spelled.aliasName_eq anonymous
    exact ⟨symbol, source, arguments, rfl, anonymous, nonempty⟩
  | _ => cases named

def recordName (symbol : Symbol) (source : RecordSource) : String :=
  (source.name.filter (!·.isEmpty)).getD symbol.name

theorem display_record (named : symbol.isAnonymous = false) :
    (record symbol source arguments .none).display? = (do
      let texts ← displayAll? arguments
      return withArguments (recordName symbol source) texts) := by
  simp [display?, named, recordName]

mutual

theorem display_of_ownNames : ∀ h : Handle, h.ownNames = true → ∃ text, h.display? = .ok text
  | .intrinsic _, _ | .void _, _ | .typeParameter _, _ | .unsupported _ _, _ => ⟨_, rfl⟩
  | .union members, own => by
    obtain ⟨texts, written⟩ := displayAll_of_ownNames members own
    exact ⟨_, by rw [display?, written]; rfl⟩
  | .list name element, own => by
    obtain ⟨text, written⟩ := display_of_ownNames element own
    exact ⟨_, by rw [display?, written]; rfl⟩
  | .awaitable _ arguments, own | .classObject _ arguments, own | .deferred _ arguments, own => by
    obtain ⟨texts, written⟩ := displayAll_of_ownNames arguments own
    exact ⟨_, by rw [display?, written]; rfl⟩
  | .record symbol source arguments aliasName, own => by
    rw [ownNames, Bool.and_eq_true, Bool.and_eq_true] at own
    obtain ⟨texts, written⟩ := displayAll_of_ownNames arguments own.2
    rw [display?]
    split
    · exact ⟨_, rfl⟩
    · rw [if_neg (by simpa using own.1.1), written]
      exact ⟨_, rfl⟩

theorem displayAll_of_ownNames : ∀ handles : List Handle, ownNamesAll handles = true →
    ∃ texts, displayAll? handles = .ok texts
  | [], _ => ⟨[], rfl⟩
  | h :: rest, own => by
    rw [ownNamesAll, Bool.and_eq_true] at own
    obtain ⟨text, first⟩ := display_of_ownNames h own.1
    obtain ⟨texts, later⟩ := displayAll_of_ownNames rest own.2
    exact ⟨_, by rw [displayAll?, first, later]; rfl⟩

end

theorem display_ne_empty (named : symbol.isAnonymous = false) (nonempty : symbol.name ≠ "")
    {text : String} (written : (record symbol source arguments .none).display? = .ok text) :
    text ≠ "" := by
  rw [display_record named] at written
  simp only [Except.bind_eq_ok_iff, Except.pure_eq_ok_iff] at written
  obtain ⟨texts, _, rfl⟩ := written
  have base : recordName symbol source ≠ "" := by
    unfold recordName
    cases shown : source.name.filter (!·.isEmpty) with
    | none => exact nonempty
    | some name => simpa using (Option.filter_eq_some_iff.mp shown).2
  unfold withArguments
  split
  · exact base
  · simp

/-- The handles are equal, or their written forms tell them apart. -/
def Told (a b : Handle) : Prop :=
  ∀ s t, a.display? = .ok s → b.display? = .ok t → a = b ∨ Diverge s t

theorem Told.refl (h : Handle) : Told h h := fun _ _ _ _ => .inl rfl

theorem intercalate_cons (separator first : String) (rest : List String) :
    ∃ after, separator.intercalate (first :: rest) = first ++ after := by
  cases rest with
  | nil => exact ⟨"", by simp⟩
  | cons second rest => exact ⟨_, by rw [String.intercalate_cons_cons, String.append_assoc]⟩

theorem not_diverge_empty {t : String} : ¬ Diverge "" t := by
  rintro ⟨before, x, y, after, after', left, _⟩
  simp at left

theorem told_all (told : List.Forall₂ Told as bs) {ss ts : List String}
    (left : displayAll? as = .ok ss) (right : displayAll? bs = .ok ts) :
    as = bs ∨ ∀ separator : String,
      Diverge (separator.intercalate ss) (separator.intercalate ts) := by
  induction told generalizing ss ts with
  | nil => exact .inl rfl
  | @cons a b as bs first _ ih =>
    simp only [displayAll?, Except.bind_eq_ok_iff, Except.pure_eq_ok_iff] at left right
    obtain ⟨s, written, ss, others, rfl⟩ := left
    obtain ⟨t, written', ts, others', rfl⟩ := right
    rcases first s t written written' with rfl | diverge
    · obtain rfl := Except.ok.inj (written.symm.trans written')
      rcases ih others others' with rfl | diverge
      · exact .inl rfl
      · refine .inr fun separator => ?_
        have later := diverge separator
        cases ss with
        | nil => exact absurd later not_diverge_empty
        | cons u us =>
          cases ts with
          | nil =>
            obtain ⟨before, x, y, after, after', _, impossible, _⟩ := later
            simp at impossible
          | cons v vs =>
            rw [String.intercalate_cons_cons, String.intercalate_cons_cons]
            exact later.append_left _
    · refine .inr fun separator => ?_
      obtain ⟨after, left⟩ := intercalate_cons separator s ss
      obtain ⟨after', right⟩ := intercalate_cons separator t ts
      rw [left, right]
      exact diverge.append_right _ _

theorem told_withArguments {base : String}
    (left : a.display? = do
      let texts ← displayAll? as
      return withArguments base texts)
    (right : b.display? = do
      let texts ← displayAll? bs
      return withArguments base texts)
    (told : List.Forall₂ Told as bs) (whole : as = bs → a = b) : Told a b := by
  intro s t written written'
  rw [left] at written
  rw [right] at written'
  simp only [Except.bind_eq_ok_iff, Except.pure_eq_ok_iff] at written written'
  obtain ⟨ss, others, rfl⟩ := written
  obtain ⟨ts, others', rfl⟩ := written'
  rcases told_all told others others' with same | diverge
  · exact .inl (whole same)
  · refine .inr ?_
    cases ss with
    | nil => exact absurd (diverge "") not_diverge_empty
    | cons u us =>
      cases ts with
      | nil =>
        obtain ⟨before, x, y, after, after', _, impossible, _⟩ := diverge ""
        simp at impossible
      | cons v vs =>
        have inner := (diverge ", ").append_left (base ++ "[")
        exact inner.append_right _ _

theorem listForms_diverge : ∀ q ∈ SpecialForm.listForms, ∀ q' ∈ SpecialForm.listForms,
    Expr.lastName q = Expr.lastName q' ∨ Diverge (Expr.lastName q) (Expr.lastName q') := by
  have begins : ∀ q ∈ SpecialForm.listForms,
      (Expr.lastName q).toList.head?.any TypeName.isNameStart := by
    decide +kernel
  have apart : ∀ q ∈ SpecialForm.listForms, ∀ q' ∈ SpecialForm.listForms,
      (Expr.lastName q).toList.head? = (Expr.lastName q').toList.head? →
        Expr.lastName q = Expr.lastName q' := by
    decide +kernel
  intro q form q' form'
  obtain ⟨x, first, start⟩ := (Option.any_eq_true _ _).mp (begins q form)
  obtain ⟨y, first', start'⟩ := (Option.any_eq_true _ _).mp (begins q' form')
  by_cases same : x = y
  · exact .inl (apart q form q' form' (first.trans (same ▸ first'.symm)))
  · obtain ⟨after, left⟩ := List.head?_eq_some_iff.mp first
    obtain ⟨after', right⟩ := List.head?_eq_some_iff.mp first'
    exact .inr ⟨[], x, y, after, after', left, right, same, start, start'⟩

end Handle

section

variable {P : Program} {z : CheckState} {file file' : Path}

theorem Program.Placed.recordCall_unique (placed : P.Placed) {name name' : String}
    {call call' : RecordCall} (first : (name, .recordCall call) ∈ (P.source file).scope.names)
    (second : (name', .recordCall call') ∈ (P.source file).scope.names)
    (same : call.pos = call'.pos) : name = name' ∧ call = call' := by
  rcases P.source_cases file with ⟨present, _⟩ | missing
  · exact (placed.apart _ present).recordCall_unique (placed.scopes _ present) first second same
  · rw [missing] at first
    cases first

theorem node_eq (placed : P.Placed) {m n : Node} (first : m ∈ (P.source file).nodes)
    (second : n ∈ (P.source file').nodes) (site : m.isSite) (other : n.isSite)
    (same : ([⟨file.toString, m.pos.line, m.pos.column⟩] : List Declaration) =
      [⟨file'.toString, n.pos.line, n.pos.column⟩]) : file = file' ∧ m = n := by
  obtain ⟨rfl, pos⟩ := place_eq placed first second same
  exact ⟨rfl, placed.unique first second site other pos⟩

theorem class_eq (placed : P.Placed) {name name' : String} {home home' : Path}
    {definition definition' : ClassDef Statement}
    (bound : (name, .classDef definition) ∈ (P.source home).scope.names)
    (bound' : (name', .classDef definition') ∈ (P.source home').scope.names)
    (same : (Symbol.declaredAt definition.name home definition.pos).declarations =
      (Symbol.declaredAt definition'.name home' definition'.pos).declarations) :
    home = home' ∧ definition = definition' := by
  obtain ⟨rfl, node⟩ := node_eq placed (placed.written bound (class_mem_nodes definition))
    (placed.written bound' (class_mem_nodes definition')) rfl rfl same
  cases node
  exact ⟨rfl, rfl⟩

theorem Origin.unique (placed : P.Placed) {symbol other : Symbol} {source found : RecordSource}
    (one : Origin P z symbol source) (another : Origin P z other found)
    (same : symbol.declarations = other.declarations) : symbol = other ∧ source = found := by
  have class_node {name : String} {home : Path} {definition : ClassDef Statement}
      (bound : (name, .classDef definition) ∈ (P.source home).scope.names) :
      .classDef definition ∈ (P.source home).nodes :=
    placed.written bound (class_mem_nodes definition)
  cases one with
  | ofClass bound known =>
    cases another with
    | ofClass bound' known' =>
      obtain ⟨rfl, rfl⟩ := class_eq placed bound bound' same
      cases known.symm.trans known'
      exact ⟨rfl, rfl⟩
    | ofCall bound' =>
      obtain ⟨_, _, _, dotted, held⟩ := placed.written bound'
      cases (node_eq placed (class_node bound) (mem_of_parts held) rfl dotted same).2
    | written node => cases (node_eq placed (class_node bound) node rfl rfl same).2
  | @ofCall key call bound =>
    obtain ⟨_, _, _, dotted, held⟩ := placed.written bound
    cases another with
    | ofClass bound' _ =>
      cases (node_eq placed (mem_of_parts held) (class_node bound') dotted rfl same).2
    | @ofCall key' call' bound' =>
      obtain ⟨_, _, _, dotted', held'⟩ := placed.written bound'
      obtain ⟨files, pos⟩ := place_eq placed (mem_of_parts held) (mem_of_parts held') same
      obtain ⟨file, name⟩ := key
      obtain ⟨file', name'⟩ := key'
      obtain rfl : file = file' := files
      obtain ⟨rfl, rfl⟩ := placed.recordCall_unique bound bound' pos
      exact ⟨rfl, rfl⟩
    | written node => cases (node_eq placed (mem_of_parts held) node dotted rfl same).2
  | written node =>
    cases another with
    | ofClass bound' _ => cases (node_eq placed node (class_node bound') rfl rfl same).2
    | ofCall bound' =>
      obtain ⟨_, _, _, dotted, held⟩ := placed.written bound'
      cases (node_eq placed node (mem_of_parts held) rfl dotted same).2
    | written node' =>
      obtain ⟨rfl, equal⟩ := node_eq placed node node' rfl rfl same
      cases equal
      exact ⟨rfl, rfl⟩

end

namespace Kin

open Handle

variable {P : Program} {z : CheckState} {a b : Handle} {as bs : List Handle}

theorem forall₂_of_each {Q Q' : Handle → Prop} {R : Handle → Handle → Prop}
    (each : ∀ a ∈ as, ∀ {b}, Q a → Q' b → a.identity = b.identity → Sourced P z b → R a b)
    (same : identities as = identities bs) (right : ∀ b ∈ bs, Sourced P z b)
    (left : ∀ a ∈ as, Q a) (other : ∀ b ∈ bs, Q' b) : List.Forall₂ R as bs := by
  induction as generalizing bs with
  | nil =>
    cases bs with
    | nil => exact .nil
    | cons => cases same
  | cons a as ih =>
    cases bs with
    | nil => cases same
    | cons b bs =>
      obtain ⟨first, later⟩ := List.cons.inj same
      obtain ⟨here, there⟩ := List.forall_mem_cons.mp each
      obtain ⟨sourced, right⟩ := List.forall_mem_cons.mp right
      obtain ⟨one, ones⟩ := List.forall_mem_cons.mp left
      obtain ⟨another, others⟩ := List.forall_mem_cons.mp other
      exact .cons (here one another first sourced) (ih there later right ones others)

theorem forall₂_told
    (each : ∀ a ∈ as, ∀ {b}, a.Spelled → b.Spelled → a.ownNames = true →
      a.identity = b.identity → Sourced P z b → Told a b)
    (same : identities as = identities bs) (right : ∀ b ∈ bs, Sourced P z b)
    (spelled : ∀ a ∈ as, a.Spelled) (spelled' : ∀ b ∈ bs, b.Spelled)
    (own : ownNamesAll as = true) : List.Forall₂ Told as bs :=
  forall₂_of_each (Q := fun a => a.Spelled ∧ a.ownNames = true)
    (fun a member _ left other => each a member left.1 other left.2) same right
    (fun a member => ⟨spelled a member, ownNamesAll_iff.mp own a member⟩) spelled'

/-- Handles of one identity whose records have names are equal, or are told apart by how they are
written. -/
theorem told (placed : P.Placed) (kin : Kin P z a b) (spelled : a.Spelled) (spelled' : b.Spelled)
    (own : a.ownNames = true) : Told a b := by
  obtain ⟨same, left, right⟩ := kin
  induction left generalizing b with
  | intrinsic | void | typeParameter =>
    cases right <;> cases same
    exact .refl _
  | unsupported =>
    cases right <;> cases same
    cases spelled
    cases spelled'
    exact .refl _
  | @union members _ ih =>
    cases right with
    | @union others parts' =>
      cases spelled with | union spelled
      cases spelled' with | union spelled'
      have told := forall₂_told ih (Identity.union.inj same) parts' spelled spelled' own
      intro s t written written'
      simp only [display?, Except.bind_eq_ok_iff, Except.pure_eq_ok_iff] at written written'
      obtain ⟨ss, each, rfl⟩ := written
      obtain ⟨ts, each', rfl⟩ := written'
      rcases told_all told each each' with rfl | diverge
      · exact .inl rfl
      · exact .inr (diverge _)
    | _ => cases same
  | list _ ih =>
    cases right with
    | list inner' =>
      cases spelled with | list form spelled
      cases spelled' with | list form' spelled'
      have told := ih spelled spelled' own (Identity.list.inj same) inner'
      intro s t written written'
      simp only [display?, Except.bind_eq_ok_iff, Except.pure_eq_ok_iff] at written written'
      obtain ⟨text, inside, rfl⟩ := written
      obtain ⟨text', inside', rfl⟩ := written'
      simp only [String.append_assoc]
      rcases listForms_diverge _ form _ form' with equal | diverge
      · rw [equal]
        rcases told _ _ inside inside' with rfl | diverge
        · exact .inl rfl
        · exact .inr (((diverge.append_right _ _).append_left _).append_left _)
      · exact .inr (diverge.append_right _ _)
    | _ => cases same
  | awaitable _ ih =>
    cases right with
    | awaitable parts' =>
      obtain ⟨rfl, others⟩ := Identity.awaitable.inj same
      refine told_withArguments rfl rfl
        (forall₂_told ih others parts' spelled.arguments spelled'.arguments own) ?_
      rintro rfl
      rfl
    | _ => cases same
  | classObject bound known _ ih =>
    cases right with
    | classObject bound' _ parts' =>
      obtain ⟨_, places, others⟩ := Identity.declared.inj same
      obtain ⟨rfl, rfl⟩ := class_eq placed bound bound' places
      refine told_withArguments rfl rfl
        (forall₂_told ih others parts' spelled.arguments spelled'.arguments own) ?_
      rintro rfl
      rfl
    | record origin' _ =>
      obtain ⟨_, places, _⟩ := Identity.declared.inj same
      exact absurd places.symm (origin'.declarations_ne placed bound known)
    | _ => cases same
  | @record symbol source arguments aliasName origin _ ih =>
    cases right with
    | @record _ _ arguments' aliasName' origin' parts' =>
      obtain ⟨_, places, others⟩ := Identity.declared.inj same
      obtain ⟨rfl, rfl⟩ := origin.unique placed origin' places
      obtain ⟨named, _, owns⟩ := ownNames_record_iff.mp own
      obtain rfl := spelled.aliasName_eq named
      obtain rfl := spelled'.aliasName_eq named
      refine told_withArguments (display_record named) (display_record named)
        (forall₂_told ih others parts' spelled.arguments spelled'.arguments
          (ownNamesAll_iff.mpr owns)) ?_
      rintro rfl
      rfl
    | classObject bound' known' _ =>
      obtain ⟨_, places, _⟩ := Identity.declared.inj same
      exact absurd places (origin.declarations_ne placed bound' known')
    | _ => cases same
  | @deferred target _ bound _ ih =>
    cases right with
    | @deferred target' _ bound' parts' =>
      obtain ⟨keys, others⟩ := Identity.alias.inj same
      obtain ⟨key, value⟩ := target
      obtain ⟨key', value'⟩ := target'
      cases keys
      cases bound.symm.trans bound'
      refine told_withArguments rfl rfl
        (forall₂_told ih others parts' spelled.arguments spelled'.arguments own) ?_
      rintro rfl
      rfl
    | _ => cases same

end Kin

end HintSchema

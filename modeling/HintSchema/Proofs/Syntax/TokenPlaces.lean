import Mathlib.Tactic.SplitIfs
import HintSchema.Proofs.Syntax.Spending
import HintSchema.Proofs.Text.Normalization

/-!
No two names, keywords or signs of a text start at one place: the scan goes on behind each of them.
And no name that is read is empty.
-/

namespace HintSchema

namespace Position

def Before (a b : Position) : Prop := a.line < b.line ∨ a.line = b.line ∧ a.column < b.column

def Upto (a b : Position) : Prop := a = b ∨ a.Before b

variable {a b c : Position}

theorem Upto.refl (a : Position) : a.Upto a := .inl rfl

theorem Before.upto (before : a.Before b) : a.Upto b := .inr before

theorem Before.ne (before : a.Before b) : a ≠ b := by
  rintro rfl
  unfold Before at before
  omega

theorem Before.trans_upto (first : a.Before b) (second : b.Upto c) : a.Before c := by
  rcases second with rfl | later
  · exact first
  · unfold Before at *
    omega

theorem Upto.trans (first : a.Upto b) (second : b.Upto c) : a.Upto c := by
  rcases first with rfl | before
  · exact second
  · exact (before.trans_upto second).upto

theorem upto_nextLine (pos : Position) : pos.Upto ⟨pos.line + 1, 0⟩ :=
  .inr (.inl (Nat.lt_succ_self _))

end Position

namespace Lexer

open Position

theorem before_advance_one (pos : Position) (c : Char) : pos.Before (advance pos [c]) := by
  unfold advance
  rw [List.foldl_cons, List.foldl_nil]
  split
  · exact .inl (Nat.lt_succ_self _)
  · exact .inr ⟨rfl, Nat.lt_add_of_pos_right c.utf8Size_pos⟩

theorem upto_advance (pos : Position) (chars : List Char) : pos.Upto (advance pos chars) := by
  induction chars generalizing pos with
  | nil => exact .refl pos
  | cons c rest ih => exact (before_advance_one pos c).upto.trans (ih _)

theorem before_advance (pos : Position) {chars : List Char} (written : chars ≠ []) :
    pos.Before (advance pos chars) := by
  cases chars with
  | nil => exact absurd rfl written
  | cons c rest => exact (before_advance_one pos c).trans_upto (upto_advance _ rest)

/-- A step does not go back. It ends behind a name, keyword or sign if it reads one, and reads
nothing else then; the name has letters. -/
def Step.Forward (state : State) (next : Step) : Prop :=
  (state.pos.Upto next.state.pos ∧ ∀ kind ∈ next.kinds, ¬ kind.isMark) ∨
    (state.pos.Before next.state.pos ∧ next.pos = state.pos ∧
      ∃ kind, next.kinds = [kind] ∧ kind ≠ .name "")

variable {dialect : Dialect} {state : State} {chars rest : List Char} {next : Step} {c : Char}

theorem not_isMark_of_settleIndent {indent : Indent} {before after : List Indent}
    {kinds : List Token.Kind} (settled : settleIndent indent before = some (kinds, after)) :
    ∀ kind ∈ kinds, ¬ kind.isMark := by
  unfold settleIndent at settled
  dsimp only at settled
  split at settled
  · split at settled <;> cases settled
    exact List.forall_mem_nil _
  · split at settled
    · split at settled <;> cases settled
      exact List.forall_mem_singleton.mpr (by decide)
    · split at settled <;> cases settled
      intro kind member
      rw [List.eq_of_mem_replicate member]
      decide

theorem forward_lineStartStep (read : lineStartStep state chars = some next) :
    next.Forward state := by
  unfold lineStartStep at read
  obtain ⟨⟨margin, spaces, rest⟩, _, read⟩ := Option.bind_eq_some_iff.mp read
  have moved := upto_advance state.pos spaces
  dsimp only at read
  split at read
  · split at read <;> cases read
    · exact .inl ⟨moved.trans (upto_nextLine _), List.forall_mem_nil _⟩
    · exact .inl ⟨moved.trans (upto_advance _ _), List.forall_mem_nil _⟩
  · cases read
    exact .inl ⟨moved.trans (upto_nextLine _), List.forall_mem_nil _⟩
  · split at read
    · cases read
      exact .inl ⟨moved, List.forall_mem_nil _⟩
    · obtain ⟨⟨kinds, indents⟩, settled, same⟩ := Option.bind_eq_some_iff.mp read
      cases same
      exact .inl ⟨moved, not_isMark_of_settleIndent settled⟩

theorem forward_signStep (read : signStep state chars = some next) : next.Forward state := by
  unfold signStep at read
  obtain ⟨sign, found, read⟩ := Option.bind_eq_some_iff.mp read
  have written : ∀ s ∈ Token.signs, s.toList ≠ [] := by decide
  have moved := before_advance state.pos (written sign (List.mem_of_find?_eq_some found))
  dsimp only at read
  split at read
  · split at read <;> cases read
    exact .inr ⟨moved, rfl, _, rfl, nofun⟩
  · split at read
    · split at read
      · split at read <;> cases read
        exact .inr ⟨moved, rfl, _, rfl, nofun⟩
      · cases read
    · cases read
      exact .inr ⟨moved, rfl, _, rfl, nofun⟩

theorem forward_numberStep (read : numberStep dialect state chars = some next) :
    next.Forward state := by
  unfold numberStep at read
  obtain ⟨⟨value, rest⟩, _, read⟩ := Option.bind_eq_some_iff.mp read
  dsimp only at read
  split at read <;> cases read
  exact .inl ⟨upto_advance _ _, List.forall_mem_singleton.mpr Bool.false_ne_true⟩

theorem wordToken_ne {word : List Char} {kind : Token.Kind} (written : word ≠ [])
    (found : wordToken word = some kind) : kind ≠ .name "" := by
  have named {chars : List Char} (letters : chars ≠ []) :
      Token.Kind.name (String.ofList chars) ≠ .name "" := by
    simpa using letters
  unfold wordToken at found
  dsimp only at found
  split_ifs at found <;> cases found
  · nofun
  · exact named written
  · exact named (Text.normalize_ne_nil written)

theorem forward_plainWord {word : List Char} (written : word ≠ [])
    (read : wordStep.plain state word rest = some next) : next.Forward state := by
  unfold wordStep.plain at read
  obtain ⟨kind, found, same⟩ := Option.bind_eq_some_iff.mp read
  cases same
  exact .inr ⟨before_advance _ written, rfl, _, rfl, wordToken_ne written found⟩

theorem isWordLike_of_isWordStart (start : isWordStart c) : Number.isWordLike c := by
  unfold isWordStart at start
  unfold Number.isWordLike Char.isAlphanum
  simp only [Bool.or_eq_true] at start ⊢
  tauto

/-- No word is empty: one that no letter starts is the mark of the string that a quote opens. -/
theorem takeWhile_ne_nil (start : isQuote c || isWordStart c) {d : Char} {tail : List Char}
    (after : (c :: rest).dropWhile Number.isWordLike = d :: tail)
    (unmarked : (isQuote d && stringMarks.contains
      (String.ofList ((c :: rest).takeWhile Number.isWordLike)).toLower) = false) :
    (c :: rest).takeWhile Number.isWordLike ≠ [] := by
  cases like : Number.isWordLike c with
  | true => simp [like]
  | false =>
    have quoted : isQuote c := by
      rcases Bool.or_eq_true_iff.mp start with quote | letter
      · exact quote
      · exact absurd (isWordLike_of_isWordStart letter) (by simp [like])
    have bare : stringMarks.contains (String.ofList []).toLower := by decide +kernel
    rw [List.dropWhile_cons_of_neg (by simp [like])] at after
    cases after
    rw [List.takeWhile_cons_of_neg (by simp [like]), quoted, bare] at unmarked
    cases unmarked

theorem forward_wordStep (start : isQuote c || isWordStart c)
    (read : wordStep dialect state (c :: rest) = some next) : next.Forward state := by
  unfold wordStep at read
  rw [List.span_eq_takeWhile_dropWhile] at read
  dsimp only at read
  split at read
  · rename_i d tail after
    split at read
    · obtain ⟨⟨body, written, tail⟩, _, read⟩ := Option.bind_eq_some_iff.mp read
      dsimp only at read
      split at read <;> cases read
      exact .inl ⟨(upto_advance _ _).trans (upto_advance _ _),
        List.forall_mem_singleton.mpr Bool.false_ne_true⟩
    · rename_i unmarked
      exact forward_plainWord (takeWhile_ne_nil start after (by simpa using unmarked)) read
  · rename_i after
    refine forward_plainWord (fun empty => ?_) read
    have whole := List.takeWhile_append_dropWhile (p := Number.isWordLike) (l := c :: rest)
    rw [empty, after] at whole
    cases whole

theorem forward_step (read : step dialect state chars = some next) : next.Forward state := by
  unfold step at read
  split at read
  · exact forward_lineStartStep read
  · split at read
    · cases read
    · rename_i c rest
      dsimp only at read
      split_ifs at read with blank comment newline closed slash number word
      · cases read
        exact .inl ⟨upto_advance _ _, List.forall_mem_nil _⟩
      · cases read
        exact .inl ⟨upto_advance _ _, List.forall_mem_nil _⟩
      · cases read
        exact .inl ⟨upto_advance _ _, List.forall_mem_singleton.mpr Bool.false_ne_true⟩
      · cases read
        exact .inl ⟨upto_advance _ _, List.forall_mem_nil _⟩
      · split at read <;> cases read
        exact .inl ⟨upto_advance _ _, List.forall_mem_nil _⟩
      · exact forward_numberStep read
      · exact forward_wordStep word read
      · exact forward_signStep read

/-- The names, keywords and signs read so far stand before a place, each at one of its own, and no
name is empty. -/
structure Apart (pos : Position) (found : List Token) : Prop where
  before : ∀ t ∈ found, t.kind.isMark → t.pos.Before pos
  single : ∀ p, Parser.tally (.recordsAt p) found ≤ 1
  named : Parser.tally .nameless found = 0

namespace Apart

variable {pos later : Position} {found : List Token}

theorem advance (apart : Apart pos found) (moved : pos.Upto later) : Apart later found :=
  ⟨fun t member mark => (apart.before t member mark).trans_upto moved, apart.single, apart.named⟩

theorem quiet (apart : Apart pos found) {t : Token} (unmarked : ¬ t.kind.isMark) :
    Apart pos (t :: found) := by
  refine ⟨List.forall_mem_cons.mpr ⟨fun mark => absurd mark unmarked, apart.before⟩, fun p => ?_, ?_⟩
  · rw [Parser.tally_cons, Token.tally_recordsAt, if_neg fun given => unmarked given.1,
      Nat.zero_add]
    exact apart.single p
  · have other : t.kind ≠ .name "" := fun name => unmarked (by rw [name]; rfl)
    rw [Parser.tally_cons, Token.tally_nameless other, apart.named]

theorem tally_eq_zero (apart : Apart pos found) : Parser.tally (.recordsAt pos) found = 0 := by
  refine List.sum_eq_zero (List.forall_mem_map.mpr fun t member => ?_)
  rw [Token.tally_recordsAt]
  exact if_neg fun given => (apart.before t member given.1).ne given.2

theorem mark (apart : Apart pos found) {kind : Token.Kind} (named : kind ≠ .name "")
    (moved : pos.Before later) : Apart later (⟨kind, pos⟩ :: found) := by
  refine ⟨List.forall_mem_cons.mpr ⟨fun _ => moved, (apart.advance moved.upto).before⟩,
    fun p => ?_, ?_⟩
  · rw [Parser.tally_cons, Token.tally_recordsAt]
    by_cases same : pos = p
    · subst same
      rw [apart.tally_eq_zero]
      split <;> simp
    · have := apart.single p
      simp [same, this]
  · rw [Parser.tally_cons, Token.tally_nameless named, apart.named]

end Apart

theorem apart_step {found : List Token} (apart : Apart state.pos found)
    (forward : next.Forward state) :
    Apart next.state.pos
      (next.kinds.foldl (fun tokens kind => ⟨kind, next.pos⟩ :: tokens) found) := by
  rcases forward with ⟨moved, unmarked⟩ | ⟨moved, same, kind, kinds, named⟩
  · refine List.foldlRecOn (motive := Apart next.state.pos) next.kinds _ (apart.advance moved) ?_
    intro tokens apart kind member
    exact apart.quiet (unmarked kind member)
  · rw [kinds, same]
    exact apart.mark named moved

theorem apart_scan {fuel : Nat} {found tokens : List Token} (apart : Apart state.pos found)
    (scanned : scan dialect fuel state chars found = some tokens) :
    (∀ p, Parser.tally (.recordsAt p) tokens ≤ 1) ∧ Parser.tally .nameless tokens = 0 := by
  induction fuel generalizing state chars found with
  | zero => cases scanned
  | succ fuel ih =>
    unfold scan at scanned
    split at scanned
    · split at scanned
      · cases scanned
        have ended := apart.quiet (t := ⟨.finish, state.pos⟩) Bool.false_ne_true
        have reversed (p : Tally) (tokens : List Token) :
            Parser.tally p tokens.reverse = Parser.tally p tokens := by
          rw [Parser.tally, List.map_reverse, List.sum_reverse, Parser.tally]
        simpa only [reversed] using And.intro ended.single ended.named
      · cases scanned
    · obtain ⟨next, read, scanned⟩ := Option.bind_eq_some_iff.mp scanned
      exact ih (apart_step apart (forward_step read)) scanned

theorem tally_releaseAsync (scope : AsyncScope) (tokens : List Token) (p : Tally) :
    Parser.tally p (releaseAsync scope tokens) = Parser.tally p tokens := by
  induction tokens generalizing scope with
  | nil => rfl
  | cons token rest ih =>
    have kept (scope : AsyncScope) : Parser.tally p (token :: releaseAsync scope rest) =
        Parser.tally p (token :: rest) := by
      rw [Parser.tally_cons, ih, Parser.tally_cons]
    unfold releaseAsync
    dsimp only
    split
    · exact kept _
    · exact kept _
    · exact kept _
    · rename_i word kind
      have renamed (scope : AsyncScope) (written : p.name word = 0) :
          Parser.tally p ({ token with kind := .name word } :: releaseAsync scope rest) =
            Parser.tally p (token :: rest) := by
        rw [Parser.tally_cons, ih, Parser.tally_cons, Token.tally, Token.tally, kind]
        simp [written, Token.Kind.isMark]
      split
      · rename_i async
        split
        · exact kept _
        · split
          · exact kept _
          · exact renamed _ (by rw [async]; cases p <;> rfl)
      · split
        · rename_i await
          exact renamed _ (by rw [await.1]; cases p <;> rfl)
        · exact kept _
    · exact kept _
    · exact kept _

/-- No two names, keywords or signs of a text start at one place, and no name of it is empty. -/
theorem tally_tokens {isModule : Bool} {tokens : List Token}
    (lexed : tokens? dialect isModule chars = some tokens) :
    (∀ p, Parser.tally (.recordsAt p) tokens ≤ 1) ∧ Parser.tally .nameless tokens = 0 := by
  unfold tokens? at lexed
  obtain ⟨scanned, ran, same⟩ := Option.bind_eq_some_iff.mp lexed
  have counted := apart_scan ⟨List.forall_mem_nil _, fun _ => Nat.zero_le _, rfl⟩ ran
  cases same
  split
  · simpa only [tally_releaseAsync] using counted
  · exact counted

end Lexer

end HintSchema

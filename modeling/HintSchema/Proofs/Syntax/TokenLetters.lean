import Mathlib.Tactic.SplitIfs
import HintSchema.Proofs.Syntax.StatementSpending

/-!
Each string literal takes up more characters than its body has. So the texts in an expression are
shorter than what it is parsed from (`length_of_expression`).
-/

namespace HintSchema

namespace Number

variable {chars rest : List Char}

theorem length_digitRun {isDigit : Char → Bool} {digits : List Char}
    (read : digitRun isDigit chars = some (digits, rest)) : rest.length ≤ chars.length := by
  have more {after more tail : List Char} {c : Char} {bound : Nat}
      (ih : ∀ {digits rest : List Char}, digitRun isDigit after = some (digits, rest) →
        rest.length ≤ after.length)
      (read : (digitRun isDigit after).map (fun run => (c :: run.1, run.2)) =
        some (more, tail)) (bounded : after.length ≤ bound) : tail.length ≤ bound := by
    obtain ⟨found, run, same⟩ := Option.map_eq_some_iff.mp read
    cases same
    exact (ih run).trans bounded
  fun_induction digitRun isDigit chars generalizing digits rest with
  | case1 => cases read
  | case2 => cases read
  | case3 c digit after ih => exact more ih read (by simp +arith)
  | case4 c digit d after _ _ ih => exact more ih read (by simp)
  | case5 c digit d after =>
    cases read
    simp
  | case6 =>
    cases read
    simp

/-- What a number is followed by, and that it is no text. -/
structure Read (chars : List Char) (value : Literal) (rest : List Char) : Prop where
  length : rest.length ≤ chars.length
  plain : value.tally .letters = 0

theorem length_radixNumber {radix : Nat} {isDigit : Char → Bool} {value : Literal}
    (read : radixNumber radix isDigit chars = some (value, rest)) : Read chars value rest := by
  unfold radixNumber at read
  dsimp only at read
  obtain ⟨⟨digits, after⟩, run, read⟩ := Option.bind_eq_some_iff.mp read
  have shorter := length_digitRun run
  split at read <;> cases read
  refine ⟨?_, rfl⟩
  split at shorter
  · exact shorter.trans (Nat.le_succ _)
  · exact shorter

theorem length_exponentPart {exponent : Option Int}
    (read : exponentPart chars = some (exponent, rest)) : rest.length ≤ chars.length := by
  unfold exponentPart at read
  split at read
  · split at read
    · split at read
      · split at read
        · obtain ⟨found, run, same⟩ := Option.map_eq_some_iff.mp read
          cases same
          exact (length_digitRun run).trans (by simp +arith)
        · split at read
          · obtain ⟨found, run, same⟩ := Option.map_eq_some_iff.mp read
            cases same
            exact (length_digitRun run).trans (by simp +arith)
          · cases read
            exact Nat.le_refl _
      · cases read
        exact Nat.le_refl _
    · cases read
      exact Nat.le_refl _
  · cases read
    exact Nat.le_refl _

theorem length_finish {whole : List Char} {float : Binary64} {isFloat : Bool} {value : Literal}
    (read : decimalNumber.finish whole float isFloat chars = some (value, rest)) :
    Read chars value rest := by
  unfold decimalNumber.finish at read
  split_ifs at read <;> cases read <;> exact ⟨Nat.le_refl _, rfl⟩

theorem length_ending {whole : List Char} {float : Option Int × List Char → Binary64}
    {isFloat : Option Int × List Char → Bool} {value : Literal}
    (read : (exponentPart chars).bind (fun found =>
      match found.2 with
      | c :: after =>
        if c = 'j' ∨ c = 'J' then
          if endsHere after then some (Literal.imaginary (float found), after) else none
        else decimalNumber.finish whole (float found) (isFloat found) found.2
      | [] => decimalNumber.finish whole (float found) (isFloat found) []) =
      some (value, rest)) : Read chars value rest := by
  obtain ⟨⟨exponent, after⟩, found, read⟩ := Option.bind_eq_some_iff.mp read
  have shorter := length_exponentPart found
  dsimp only at read
  split at read
  · split at read
    · split at read <;> cases read
      exact ⟨(Nat.le_succ _).trans shorter, rfl⟩
    · have ended := length_finish read
      exact ⟨ended.length.trans shorter, ended.plain⟩
  · have ended := length_finish read
    exact ⟨ended.length.trans shorter, ended.plain⟩

theorem Read.of_le {longer : List Char} {value : Literal} (ended : Read chars value rest)
    (bounded : chars.length ≤ longer.length) : Read longer value rest :=
  ⟨ended.length.trans bounded, ended.plain⟩

theorem length_decimalNumber {value : Literal}
    (read : decimalNumber chars = some (value, rest)) : Read chars value rest := by
  unfold decimalNumber at read
  dsimp only at read
  split at read
  · dsimp only [Option.bind_eq_bind, Option.bind_some] at read
    split at read
    · split at read
      · obtain ⟨_, fraction, read⟩ := Option.bind_eq_some_iff.mp read
        obtain ⟨found, run, rfl⟩ := Option.map_eq_some_iff.mp fraction
        exact (length_ending read).of_le ((length_digitRun run).trans (by simp_all))
      · exact (length_ending read).of_le (by simp_all)
    · exact length_ending read
  · obtain ⟨⟨whole, one⟩, run, read⟩ := Option.bind_eq_some_iff.mp read
    have shorter := length_digitRun run
    dsimp only [Option.bind_eq_bind, Option.bind_some] at read
    split at read
    · rename_i after
      split at read
      · obtain ⟨_, fraction, read⟩ := Option.bind_eq_some_iff.mp read
        obtain ⟨found, run, rfl⟩ := Option.map_eq_some_iff.mp fraction
        have bounded := (length_digitRun run).trans ((Nat.le_succ _).trans shorter)
        exact (length_ending read).of_le bounded
      · exact (length_ending read).of_le ((Nat.le_succ _).trans shorter)
    · exact (length_ending read).of_le shorter

theorem length_scan {value : Literal} (read : scan chars = some (value, rest)) :
    Read chars value rest := by
  unfold scan at read
  split at read
  · have based {radix : Nat} {isDigit : Char → Bool} {mark : Char} {after : List Char}
        (read : radixNumber radix isDigit after = some (value, rest)) :
        Read ('0' :: mark :: after) value rest := by
      have found := length_radixNumber read
      exact ⟨found.length.trans (by simp +arith), found.plain⟩
    split at read
    · exact based read
    · split at read
      · exact based read
      · split at read
        · exact based read
        · exact length_decimalNumber read
  · exact length_decimalNumber read

end Number

namespace Lexer

def lettersOf (kinds : List Token.Kind) : Nat :=
  (kinds.map fun kind => Token.tally .letters ⟨kind, ⟨0, 0⟩⟩).sum

def Step.Covers (chars : List Char) (next : Step) : Prop :=
  lettersOf next.kinds + next.rest.length ≤ chars.length

variable {dialect : Dialect} {state : State} {chars rest : List Char} {next : Step} {c : Char}

theorem length_readMargin {margin found : Margin} {read before : List Char}
    (taken : readMargin margin before chars = some (found, read, rest)) :
    rest.length ≤ chars.length := by
  fun_induction readMargin margin before chars with
  | case1 margin before after ih => exact (ih taken).trans (Nat.le_succ _)
  | case2 margin before after ih => exact (ih taken).trans (Nat.le_succ _)
  | case3 margin before after ih => exact (ih taken).trans (Nat.le_succ _)
  | case4 margin before c after ih => exact (ih taken).trans (by simp +arith)
  | case5 => cases taken
  | case6 =>
    cases taken
    exact Nat.le_refl _

theorem lettersOf_settled {indent : Indent} {before after : List Indent} {kinds : List Token.Kind}
    (settled : settleIndent indent before = some (kinds, after)) : lettersOf kinds = 0 := by
  unfold settleIndent at settled
  dsimp only at settled
  split at settled
  · split at settled <;> cases settled
    rfl
  · split at settled
    · split at settled <;> cases settled
      rfl
    · split at settled <;> cases settled
      simp [lettersOf, Token.tally, Token.Kind.isMark]

theorem covers_lineStartStep (read : lineStartStep state chars = some next) :
    next.Covers chars := by
  unfold lineStartStep at read
  obtain ⟨⟨margin, spaces, after⟩, taken, read⟩ := Option.bind_eq_some_iff.mp read
  have shorter := length_readMargin taken
  have quiet {step : Step} (silent : lettersOf step.kinds = 0)
      (remains : step.rest.length ≤ after.length) : step.Covers chars := by
    unfold Step.Covers
    omega
  dsimp only at read
  split at read
  · rename_i body
    have comment : (skipComment ('#' :: body)).2.length ≤ ('#' :: body).length := by
      rw [skipComment, List.span_eq_takeWhile_dropWhile]
      exact (List.dropWhile_suffix _).length_le
    split at read <;> cases read
    · rename_i after same
      rw [same] at comment
      exact quiet rfl ((Nat.le_succ _).trans comment)
    · exact quiet rfl (Nat.zero_le _)
  · cases read
    exact quiet rfl (Nat.le_succ _)
  · split at read
    · cases read
      exact quiet rfl (Nat.le_refl _)
    · obtain ⟨⟨kinds, indents⟩, settled, same⟩ := Option.bind_eq_some_iff.mp read
      cases same
      exact quiet (lettersOf_settled settled) (Nat.le_refl _)

theorem covers_signStep (read : signStep state chars = some next) : next.Covers chars := by
  unfold signStep at read
  obtain ⟨sign, found, read⟩ := Option.bind_eq_some_iff.mp read
  have shorter : lettersOf [.sign sign] + (chars.drop sign.length).length ≤ chars.length := by
    rw [List.length_drop]
    change 0 + _ ≤ _
    omega
  dsimp only at read
  split at read
  · split at read <;> cases read
    exact shorter
  · split at read
    · split at read
      · split at read <;> cases read
        exact shorter
      · cases read
    · cases read
      exact shorter

theorem length_shortBody {quote : Char} {body tail : List Char}
    (read : shortBody quote chars = some (body, tail)) :
    body.length + tail.length + 1 ≤ chars.length := by
  fun_induction shortBody quote chars generalizing body tail with
  | case1 => cases read
  | case2 c rest ih =>
    obtain ⟨_, later, same⟩ := Option.map_eq_some_iff.mp read
    cases same
    have := ih later
    simp only [List.length_cons]
    omega
  | case3 =>
    cases read
    simp
  | case4 => cases read
  | case5 c rest _ _ _ ih =>
    obtain ⟨_, later, same⟩ := Option.map_eq_some_iff.mp read
    cases same
    have := ih later
    simp only [List.length_cons]
    omega

theorem length_longBody {quote : Char} {body tail : List Char}
    (read : longBody quote chars = some (body, tail)) :
    body.length + tail.length + 1 ≤ chars.length := by
  fun_induction longBody quote chars generalizing body tail with
  | case1 => cases read
  | case2 c rest ih =>
    obtain ⟨_, later, same⟩ := Option.map_eq_some_iff.mp read
    cases same
    have := ih later
    simp only [List.length_cons]
    omega
  | case3 =>
    cases read
    simp
  | case4 c d e rest _ _ ih =>
    obtain ⟨_, later, same⟩ := Option.map_eq_some_iff.mp read
    cases same
    have := ih later
    simp only [List.length_cons] at this ⊢
    omega
  | case5 => cases read

theorem length_stringBody {body written tail : List Char}
    (read : stringBody chars = some (body, written, tail)) :
    body.length + tail.length + 1 ≤ chars.length := by
  unfold stringBody at read
  split at read
  · split at read
    · split at read
      · obtain ⟨_, long, same⟩ := Option.map_eq_some_iff.mp read
        cases same
        exact (length_longBody long).trans (by simp +arith)
      · split at read
        · cases read
          simp +arith
        · obtain ⟨_, short, same⟩ := Option.map_eq_some_iff.mp read
          cases same
          exact (length_shortBody short).trans (Nat.le_succ _)
    · split at read <;> cases read
      simp
    · cases read
  · cases read

theorem lettersOf_wordToken {word : List Char} {kind : Token.Kind}
    (found : wordToken word = some kind) : lettersOf [kind] = 0 := by
  unfold wordToken at found
  dsimp only at found
  split_ifs at found <;> cases found <;> rfl

theorem covers_wordStep (read : wordStep dialect state chars = some next) : next.Covers chars := by
  unfold wordStep at read
  rw [List.span_eq_takeWhile_dropWhile] at read
  have shorter := (List.dropWhile_suffix Number.isWordLike (l := chars)).length_le
  have plain {word : List Char}
      (read : wordStep.plain state word (chars.dropWhile Number.isWordLike) = some next) :
      next.Covers chars := by
    unfold wordStep.plain at read
    obtain ⟨kind, found, same⟩ := Option.bind_eq_some_iff.mp read
    cases same
    unfold Step.Covers
    rw [lettersOf_wordToken found, Nat.zero_add]
    exact shorter
  dsimp only at read
  split at read
  · rename_i c tail after
    split at read
    · obtain ⟨⟨body, written, tail⟩, string, read⟩ := Option.bind_eq_some_iff.mp read
      have bounded := length_stringBody string
      dsimp only at read
      split at read <;> cases read
      change body.length + 1 + 0 + tail.length ≤ _
      omega
    · exact plain read
  · exact plain read

theorem covers_step (read : step dialect state chars = some next) : next.Covers chars := by
  unfold step at read
  split at read
  · exact covers_lineStartStep read
  · split at read
    · cases read
    · rename_i c rest
      dsimp only at read
      split_ifs at read with blank comment newline closed slash number word
      · cases read
        exact (Nat.zero_add _).trans_le (Nat.le_succ _)
      · cases read
        refine (Nat.zero_add _).trans_le ?_
        rw [skipComment, List.span_eq_takeWhile_dropWhile]
        exact (List.dropWhile_suffix _).length_le
      · cases read
        exact (Nat.zero_add _).trans_le (Nat.le_succ _)
      · cases read
        exact (Nat.zero_add _).trans_le (Nat.le_succ _)
      · split at read <;> cases read
        exact (Nat.zero_add _).trans_le (by simp +arith)
      · unfold numberStep at read
        obtain ⟨⟨value, after⟩, scanned, read⟩ := Option.bind_eq_some_iff.mp read
        have found := Number.length_scan scanned
        dsimp only at read
        split at read <;> cases read
        change Literal.tally .letters value + 0 + after.length ≤ _
        rw [found.plain]
        simpa using found.length
      · exact covers_wordStep read
      · exact covers_signStep read

theorem tally_pushed (kinds : List Token.Kind) (pos : Position) (found : List Token) :
    Parser.tally .letters (kinds.foldl (fun tokens kind => ⟨kind, pos⟩ :: tokens) found) =
      lettersOf kinds + Parser.tally .letters found := by
  have placed (kind : Token.Kind) :
      Token.tally .letters ⟨kind, pos⟩ = Token.tally .letters ⟨kind, ⟨0, 0⟩⟩ := by
    cases kind <;> rfl
  induction kinds generalizing found with
  | nil => exact (Nat.zero_add _).symm
  | cons kind rest ih =>
    rw [List.foldl_cons, ih, Parser.tally_cons, placed]
    simp only [lettersOf, List.map_cons, List.sum_cons]
    omega

theorem letters_scan {fuel : Nat} {found tokens : List Token}
    (scanned : scan dialect fuel state chars found = some tokens) :
    Parser.tally .letters tokens ≤ Parser.tally .letters found + chars.length := by
  induction fuel generalizing state chars found with
  | zero => cases scanned
  | succ fuel ih =>
    unfold scan at scanned
    split at scanned
    · split at scanned
      · cases scanned
        rw [Parser.tally, List.map_reverse, List.sum_reverse]
        exact (Nat.zero_add _).trans_le (Nat.le_add_right _ _)
      · cases scanned
    · obtain ⟨next, read, scanned⟩ := Option.bind_eq_some_iff.mp scanned
      have covered := covers_step read
      have later := ih scanned
      rw [tally_pushed] at later
      unfold Step.Covers at covered
      omega

theorem length_normalizeLines (chars : List Char) :
    (normalizeLines chars).length ≤ chars.length := by
  fun_induction normalizeLines chars with
  | case1 => exact Nat.le_refl _
  | case2 rest ih => exact (Nat.succ_le_succ ih).trans (Nat.le_succ _)
  | case3 c rest _ ih => exact Nat.succ_le_succ ih

end Lexer

namespace Parser

variable {chars : List Char} {e : Expr}

theorem length_of_expression (parsed : expression? chars = some e) {pos : Position}
    {value : CodeText} {marked : Bool} (within : .literal pos (.text value marked) ∈ e.parts) :
    value.length < chars.length := by
  obtain ⟨tokens, lexed, spent⟩ := tally_expression (p := .letters) parsed
  obtain ⟨_, scanned, same⟩ := Option.bind_eq_some_iff.mp lexed
  cases same
  have counted := Lexer.letters_scan scanned
  have shorter := Lexer.length_normalizeLines chars
  have own : Node.worth .letters (.expr (.literal pos (.text value marked))) ≤ e.tally .letters :=
    Node.worth_le_tally (List.mem_map_of_mem within)
  change value.length + 1 ≤ _ at own
  change _ ≤ 0 + (Lexer.normalizeLines chars).length at counted
  exact own.trans (spent.trans (counted.trans (by omega)))

end Parser

end HintSchema

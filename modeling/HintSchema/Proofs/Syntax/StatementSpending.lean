import HintSchema.Proofs.Syntax.ExpressionSpending
import HintSchema.Syntax.Parser.Statement

/-!
The grammar of statements spends on a class the keyword that it starts with, on a function its name,
and nothing on patterns. So a module counts no more than its tokens, and neither does an expression
by itself.
-/

namespace HintSchema.Parser

section

variable {p : Tally} {nested : Rule → Parser Expr}
  (inner : ∀ r, Spends p 0 (nested r) (Expr.tally p))

/-! ### Patterns -/

theorem silent_numberToken : Silent p numberToken := by
  refine .after silent_peek fun kind => ?_
  split
  · exact .after silent_skip fun _ => .done
  · exact .mismatch

theorem silent_numberPattern : Silent p numberPattern := by
  refine .after silent_here fun pos => .after (silent_acceptSign _) fun _ => ?_
  refine .after silent_here fun place => .after silent_numberToken fun first => ?_
  refine .after silent_peek fun kind => ?_
  split
  · refine .after silent_skip fun _ => .after silent_here fun _ => ?_
    exact .after silent_numberToken fun second => .ite .refuse .done
  · exact .done

theorem silent_captureTarget : Silent p captureTarget := by
  refine .after silent_name fun id => .ite .mismatch (.after silent_peek fun kind => ?_)
  split
  · exact .mismatch
  · exact .mismatch
  · exact .mismatch
  · exact .done

theorem silent_dots {α : Type} {separator : Parser Bool} {q : Parser α}
    (quiet : Silent p separator) (each : Silent p q) :
    Silent p (collect do if ← separator then return some (← q) else pure none) :=
  silent_collect (spends_when (f := fun _ => 0) quiet each).silent

theorem silent_dottedName : Silent p dottedName :=
  .after silent_here fun _ => .after silent_name fun _ =>
    .after (silent_dots (silent_acceptSign _) silent_name) fun _ => .done

theorem silent_literalPattern : Silent p (literalPattern nested) := by
  refine .after silent_here fun pos => .after silent_peek fun kind => ?_
  split
  · exact silent_numberPattern
  · exact silent_numberPattern
  · exact (spends_strings ⟨1, 0⟩).silent
  · exact .after silent_skip fun _ => .done
  · exact .after silent_skip fun _ => .done
  · exact .after silent_skip fun _ => .done
  · exact .mismatch

theorem silent_keyPattern : Silent p (keyPattern nested) := by
  refine .after silent_peek fun kind => ?_
  split
  · exact .after silent_dottedName fun _ => .ite .mismatch .done
  · exact silent_literalPattern

theorem silent_afterItem (closer : String) (state : PatternState) :
    Silent p (afterItem closer state) :=
  .after (silent_acceptSign _) fun _ => .ite .done (.after (silent_sign _) fun _ => .done)

section

variable {below : Parser Pattern} (quiet : Silent p below)

include quiet

theorem silent_maybeStarPattern : Silent p (maybeStarPattern below) := by
  refine .after (silent_acceptSign _) fun _ => .ite ?_ quiet
  refine .after silent_peek fun _ => .ite ?_ ?_
  · exact .after silent_skip fun _ => .done
  · exact .after silent_captureTarget fun _ => .done

theorem silent_mappingPattern : Silent p (mappingPattern nested below) := by
  refine .after (silent_iterate (fun state => ?_) _) fun _ => .done
  refine .ite .done (.after (silent_acceptSign _) fun _ => .ite .done (.ite .mismatch ?_))
  refine .after (silent_acceptSign _) fun _ => .ite ?_ ?_
  · exact .after silent_captureTarget fun _ => silent_afterItem _ _
  · refine .after silent_keyPattern fun _ => .after (silent_sign _) fun _ => ?_
    exact .after quiet fun _ => silent_afterItem _ _

theorem silent_classPattern (callee : Expr) : Silent p (classPattern below callee) := by
  refine .after (silent_iterate (fun state => ?_) _) fun _ => .done
  refine .ite .done (.after (silent_acceptSign _) fun _ => .ite .done ?_)
  refine .after silent_peek fun kind => .after silent_peekSecond fun second => ?_
  split
  · refine .after silent_skip fun _ => .after silent_skip fun _ => ?_
    exact .after quiet fun _ => silent_afterItem _ _
  · exact .ite .mismatch (.after quiet fun _ => silent_afterItem _ _)

theorem silent_sequenceItems (closer : String) : Silent p (sequenceItems below closer) := by
  have item := silent_maybeStarPattern quiet
  refine .after (silent_acceptSign _) fun _ => .ite .done (.after item fun first => ?_)
  refine .after (silent_commaItems item (silent_atSign _)) fun (rest, trailing) => ?_
  exact .after (silent_sign _) fun _ => .done

theorem silent_namePattern : Silent p (namePattern below) := by
  refine .after silent_peek fun kind => .ite (.after silent_skip fun _ => .done) ?_
  have called : Silent p (do
      let path ← dottedName
      if ← acceptSign "(" then classPattern below path
      else if isName path ∨ (← atSign "=") then mismatch
      else pure (.value path)) := by
    refine .after silent_dottedName fun path => .after (silent_acceptSign _) fun _ => ?_
    exact .ite (silent_classPattern quiet path)
      (.after (silent_atSign _) fun _ => .ite .mismatch .done)
  refine .after silent_peekSecond fun second => ?_
  split
  · exact called
  · exact called
  · exact .after silent_captureTarget fun _ => .done

theorem silent_closedPattern : Silent p (closedPattern nested below) := by
  refine .after silent_peek fun kind => ?_
  split
  · exact silent_namePattern quiet
  · refine .after silent_skip fun _ => .after (silent_sequenceItems quiet _) fun items => ?_
    split
    · exact .ite .mismatch .done
    · exact .done
  · exact .after silent_skip fun _ => .after (silent_sequenceItems quiet _) fun _ => .done
  · exact .after silent_skip fun _ => silent_mappingPattern quiet
  · exact .after silent_literalPattern fun _ => .done

theorem silent_pattern : Silent p (pattern nested below) := by
  have closed : Silent p (closedPattern nested below) := silent_closedPattern quiet
  refine .after closed fun _ => .after (silent_collect ?_) fun _ => ?_
  · exact .after (silent_acceptSign _) fun _ => .ite (.after closed fun _ => .done) .done
  · refine .after (silent_acceptKeyword _) fun _ => .ite ?_ .done
    exact .after silent_captureTarget fun _ => .done

end

theorem silent_patternRule (depth : Nat) : Silent p (patternRule nested depth) := by
  induction depth with
  | zero => exact .refuse
  | succ depth ih => exact silent_pattern ih

include inner

theorem silent_casePattern {below : Parser Pattern} (quiet : Silent p below) :
    Silent p (casePattern nested below) := by
  have item := silent_maybeStarPattern quiet
  refine .after item fun first => .after (silent_commaItems item ?_) fun (rest, trailing) => ?_
  · refine .after silent_peek fun kind => ?_
    split <;> exact .done
  · refine .when .mismatch (.after (silent_acceptKeyword _) fun _ => ?_)
    exact .branch (g := fun _ => 0) (.map (inner _).silent) .done fun guard => .done

/-! ### Statements on one line -/

theorem spends_value : Spends p 0 (value nested) (Expr.tally p) :=
  .after (silent_atKeyword _) fun _ => .ite (spends_yieldExpr inner) (inner _)

omit inner in
theorem silent_atLineEnd : Silent p atLineEnd := by
  refine .after silent_peek fun kind => ?_
  split <;> exact .done

theorem spends_assignment (first : Expr) :
    Spends p (first.tally p) (assignment nested first) (Statement.tally p) := by
  let spent (read : List Expr × Expr) : Nat := Expr.tallyAll p read.1 + read.2.tally p
  refine .chain (g := spent) ?_ fun (targets, last) => .pure (by simp [spent, Expr.tallyAll])
  refine (spends_iterate (f := spent) (fun (targets, last) => ?_) ([], first)).mono
    (by simp [spent]) fun _ => Nat.le_refl _
  refine .after (silent_acceptSign _) fun _ => .ite (.ite ?_ .mismatch) .done
  exact .bind (spends_value inner) fun next => .pure (by simp +arith [spent])

theorem spends_declaration (target : Expr) (bracketed : Bool) :
    Spends p (target.tally p) (declaration nested target bracketed) (Statement.tally p) := by
  have initial : Spends p 0 (some <$> value nested) fun found => found.elim 0 (Expr.tally p) :=
    .map (spends_value inner)
  unfold declaration
  refine .after (silent_sign _) fun _ => .bind (inner _) fun hint => ?_
  refine .after (silent_since 6) fun _ => .after (silent_acceptSign _) fun _ => ?_
  refine .given initial fun found => ?_
  exact .ite (.pure (by simp [Expr.tallyOption])) .mismatch

theorem spends_expressionStatement :
    Spends p 0 (expressionStatement nested) (Statement.tally p) := by
  refine .after (silent_atSign _) fun bracketed => .chain (inner _) fun first => ?_
  refine .after silent_peek fun kind => ?_
  split
  · exact spends_declaration inner first bracketed
  · exact spends_assignment inner first
  · split
    · refine .ite (.after silent_skip fun _ => .when (silent_since 5) ?_) .mismatch
      exact .bind (spends_value inner) fun e => .pure (by simp)
    · exact .done

omit inner in
theorem silent_moduleName : Silent p moduleName :=
  .after silent_name fun _ => .after (silent_dots (silent_acceptSign _) silent_name) fun _ => .done

omit inner in
theorem silent_alias? : Silent p alias? :=
  .after (silent_acceptKeyword _) fun _ => .ite (.map silent_name) .done

omit inner in
theorem silent_importedName : Silent p importedName :=
  .after silent_name fun _ => .after silent_alias? fun _ => .done

omit inner in
theorem spends_importStatement : Spends p 0 importStatement (Statement.tally p) := by
  refine .after (silent_keyword _) fun _ => .after (silent_separated ?_) fun _ => .done
  exact .after silent_moduleName fun _ => .after silent_alias? fun _ => .done

omit inner in
theorem silent_importTargets : Silent p importTargets := by
  refine .after (silent_acceptSign _) fun _ => .ite .done ?_
  refine .after (silent_acceptSign _) fun _ => .ite ?_ (silent_separated silent_importedName)
  refine .after silent_importedName fun first => ?_
  refine .after (silent_commaItems silent_importedName (silent_atSign _)) fun (rest, _) => ?_
  exact .after (silent_sign _) fun _ => .done

omit inner in
theorem spends_fromStatement : Spends p 0 fromStatement (Statement.tally p) := by
  refine .after silent_here fun pos => .after (silent_keyword _) fun _ => ?_
  refine .after (silent_collect ?_) fun dots => ?_
  · refine .after (silent_acceptSign _) fun _ => .ite .done ?_
    exact .after (silent_acceptSign _) fun _ => .ite .done .done
  · refine .after (silent_atKeyword _) fun _ => ?_
    refine .branch (g := fun _ => 0) .done (.map silent_moduleName) fun module => ?_
    exact .after (silent_keyword _) fun _ => .after silent_importTargets fun _ => .done

theorem spends_deleteStatement : Spends p 0 (deleteStatement nested) (Statement.tally p) := by
  have target : Silent p (nested .bitwiseOr) := (inner _).silent
  refine .after (silent_keyword _) fun _ => .after target fun first => ?_
  refine .after (silent_commaItems target silent_atLineEnd) fun (rest, _) => ?_
  exact .after silent_atLineEnd fun _ => .ite .done .mismatch

theorem spends_raiseStatement : Spends p 0 (raiseStatement nested) (Statement.tally p) := by
  refine .after (silent_keyword _) fun _ => .after silent_atLineEnd fun _ => .ite .done ?_
  refine .after (inner _).silent fun raised => .after (silent_acceptKeyword _) fun _ => ?_
  exact .branch (g := fun _ => 0) (.map (inner _).silent) .done fun cause => .done

theorem spends_assertStatement : Spends p 0 (assertStatement nested) (Statement.tally p) := by
  refine .after (silent_keyword _) fun _ => .after (inner _).silent fun condition => ?_
  refine .after (silent_acceptSign _) fun _ => ?_
  exact .branch (g := fun _ => 0) (.map (inner _).silent) .done fun message => .done

theorem spends_simpleStatement : Spends p 0 (simpleStatement nested) (Statement.tally p) := by
  refine .after silent_peek fun kind => ?_
  split
  · exact .after silent_skip fun _ => .done
  · exact .after silent_skip fun _ => .done
  · exact .after silent_skip fun _ => .done
  · refine .after silent_skip fun _ => .after silent_atLineEnd fun _ => .ite .done ?_
    exact .after (inner _).silent fun _ => .done
  · exact .after silent_skip fun _ => .after (silent_separated silent_name) fun _ => .done
  · exact .after silent_skip fun _ => .after (silent_separated silent_name) fun _ => .done
  · exact spends_raiseStatement inner
  · exact spends_deleteStatement inner
  · exact spends_assertStatement inner
  · exact spends_importStatement
  · exact spends_fromStatement
  · exact .map (spends_yieldExpr inner)
  · exact spends_expressionStatement inner

theorem spends_simpleLine : Spends p 0 (simpleLine nested) (Statement.tallyAll p) := by
  have each := spends_simpleStatement inner
  let spent (read : List Statement × Bool) : Nat := Statement.tallyAll p read.1
  refine .bind each fun first => .bind (g := spent) ?_ fun (rest, _) => ?_
  · refine spends_iterate (f := spent) (fun (found, closed) => ?_) ([], false)
    refine .ite .done (.after (silent_acceptSign _) fun _ => .ite ?_ .done)
    refine .after silent_peek fun _ => .ite .done (.bind each fun next => .pure ?_)
    simp +arith [spent]
  · refine .after (silent_expect _) fun _ => .pure ?_
    simp [spent, Statement.tallyAll]

/-! ### Statements with blocks -/

section

variable {below : Parser (List Statement)} (blocks : Spends p 0 below (Statement.tallyAll p))

include blocks

theorem spends_block : Spends p 0 (block nested below) (Statement.tallyAll p) := by
  refine .after (silent_sign _) fun _ => .after (silent_accept _) fun _ => .ite ?_ ?_
  · refine .after (silent_expect _) fun _ => .bind blocks fun body => ?_
    exact .after (silent_expect _) fun _ => .pure (by simp)
  · exact spends_simpleLine inner

theorem spends_elseBlock : Spends p 0 (elseBlock nested below) (Statement.tallyAll p) :=
  .after (silent_acceptKeyword _) fun _ => .ite (spends_block inner blocks) .done

omit inner blocks in
theorem tally_elif (others : List (Expr × List Statement)) (last : List Statement) :
    Statement.tallyAll p
        (others.foldr (fun (test, body) rest => [.branch test body rest]) last) =
      (others.map fun other => Statement.tallyAll p other.2).sum + Statement.tallyAll p last := by
  induction others with
  | nil => simp
  | cons other rest ih =>
    simp at ih ⊢
    omega

theorem spends_branches : Spends p 0 (branches nested below) (Statement.tally p) := by
  have body := spends_block inner blocks
  refine .after (silent_keyword _) fun _ => .after (inner _).silent fun _ => ?_
  refine .bind body fun first => ?_
  refine .bind (spends_collect (f := fun other => Statement.tallyAll p other.2) ?_)
    fun others => ?_
  · refine .after (silent_acceptKeyword _) fun _ => .ite ?_ .done
    exact .after (inner _).silent fun _ => .bind body fun arm => .pure (by simp)
  · refine .bind (spends_elseBlock inner blocks) fun last => .pure ?_
    simp [tally_elif, Nat.add_assoc]

theorem spends_whileStatement : Spends p 0 (whileStatement nested below) (Statement.tally p) := by
  refine .after (silent_keyword _) fun _ => .after (inner _).silent fun _ => ?_
  refine .bind (spends_block inner blocks) fun body => ?_
  exact .bind (spends_elseBlock inner blocks) fun after => .pure (by simp)

theorem spends_forStatement (isAsync : Bool) :
    Spends p 0 (forStatement nested below isAsync) (Statement.tally p) := by
  refine .after (silent_keyword _) fun _ => .after (spends_loopTargets inner).silent fun _ => ?_
  refine .after (silent_keyword _) fun _ => .after (inner _).silent fun _ => ?_
  refine .bind (spends_block inner blocks) fun body => ?_
  exact .bind (spends_elseBlock inner blocks) fun after => .pure (by simp)

omit blocks in
theorem silent_withItem : Silent p (withItem nested) := by
  refine .after (inner _).silent fun _ => .after (silent_acceptKeyword _) fun _ => .ite ?_ .done
  exact .after (spends_maybeStarred inner (inner _)).silent fun _ => .ite .done .mismatch

omit blocks in
theorem silent_parenthesizedItems (isAsync : Bool) :
    Silent p (parenthesizedItems nested isAsync) := by
  have item := silent_withItem inner
  refine .after (silent_sign _) fun _ => .after item fun _ => ?_
  refine .after (silent_commaItems item (silent_atSign _)) fun _ => ?_
  refine .after (silent_sign _) fun _ => .after (silent_atSign _) fun _ => .when .mismatch ?_
  exact .when (silent_since 9) .done

theorem spends_withStatement (isAsync : Bool) :
    Spends p 0 (withStatement nested below isAsync) (Statement.tally p) := by
  refine .after (silent_keyword _) fun _ => .after (.either ?_ ?_) fun _ => ?_
  · exact silent_parenthesizedItems inner isAsync
  · exact silent_separated (silent_withItem inner)
  · exact .bind (spends_block inner blocks) fun body => .pure (by simp)

omit blocks in
theorem silent_caught : Silent p (caught nested) :=
  .after (inner _).silent fun _ => .after silent_alias? fun _ => .done

theorem spends_handler : Spends p 0 (handler nested below) fun found =>
    found.elim 0 fun arm => Statement.tallyAll p arm.2.body := by
  refine .after (silent_acceptKeyword _) fun _ => .ite ?_ .done
  refine .after (silent_acceptSign _) fun isGroup => .after (silent_atSign _) fun _ => ?_
  refine .branch (g := fun _ => 0) (silent_caught inner) .done fun head => ?_
  exact .bind (spends_block inner blocks) fun body => .pure (by simp)

theorem spends_tryStatement : Spends p 0 (tryStatement nested below) (Statement.tally p) := by
  refine .after (silent_keyword _) fun _ => .bind (spends_block inner blocks) fun body => ?_
  refine .bind (spends_collect (spends_handler inner blocks)) fun handlers => ?_
  have cleanup : Spends p 0 (some <$> block nested below)
      fun found => found.elim 0 (Statement.tallyAll p) := .map (spends_block inner blocks)
  have other := spends_elseBlock inner blocks
  refine .branch (g := Statement.tallyAll p) .done other fun orelse => ?_
  refine .after (silent_acceptKeyword _) fun _ => .given cleanup fun found => .when .mismatch ?_
  have last : Statement.tallyAll p (found.getD []) =
      found.elim 0 (Statement.tallyAll p) := by cases found <;> rfl
  refine .ite (.pure ?_) (.ite (.after (silent_since 11) fun _ => .pure ?_) .mismatch)
  · simp [Statement.tallyArms, last, Function.comp_def]
  · simp +arith [Statement.tallyArms, last, Function.comp_def]

theorem spends_classStatement (decorators : List Expr) :
    Spends p (Expr.tallyAll p decorators) (classStatement nested below decorators)
      (Statement.tally p) := by
  intro tokens
  refine .here (.keyword (.after silent_name fun id => .after (silent_acceptSign _) fun _ => ?_))
  refine .branch (spends_arguments inner none) (.pure (by simp)) fun (bases, keywords) => ?_
  exact .bind (spends_block inner blocks) fun body => .pure (by simp +arith)

theorem spends_functionStatement (isAsync : Bool) (decorators : List Expr) :
    Spends p (Expr.tallyAll p decorators) (functionStatement nested below isAsync decorators)
      (Statement.tally p) := by
  refine .after (silent_keyword _) fun _ => .bind spends_name fun id => ?_
  refine .after (silent_sign _) fun _ => ?_
  refine .bind (spends_parameters inner true ")") fun parameters => ?_
  refine .after (silent_sign _) fun _ => .after (silent_acceptSign _) fun _ => ?_
  have hint : Spends p 0 (some <$> nested .expression)
      fun found => found.elim 0 (Expr.tally p) := .map (inner _)
  refine .given hint fun returns => .bind (spends_block inner blocks) fun body => .pure ?_
  simp +arith [Expr.tallyOption]

theorem spends_decorated : Spends p 0 (decorated nested below) (Statement.tally p) := by
  refine .chain (spends_collect (f := Expr.tally p) ?_) fun decorators => ?_
  · refine .after (silent_acceptSign _) fun _ => .ite (.bind (inner _) fun decorator => ?_) .done
    exact .after (silent_expect _) fun _ => .pure (by simp)
  · refine .after silent_peek fun kind => ?_
    split
    · exact spends_classStatement inner blocks decorators
    · refine .after silent_skip fun _ => ?_
      refine .chain (spends_functionStatement inner blocks true decorators) fun statement => ?_
      exact .after (silent_since 5) fun _ => .done
    · exact spends_functionStatement inner blocks false decorators

theorem spends_asyncStatement : Spends p 0 (asyncStatement nested below) (Statement.tally p) := by
  refine .after (silent_keyword _) fun _ => .after silent_peek fun kind => ?_
  have dated (s : Statement) : Spends p (s.tally p) (do since 5; pure s) (Statement.tally p) :=
    .after (silent_since 5) fun _ => .done
  dsimp only
  split
  · exact .chain (spends_functionStatement inner blocks true []) dated
  · exact .chain (spends_withStatement inner blocks true) dated
  · exact .chain (spends_forStatement inner blocks true) dated
  · exact .chain .mismatch dated

/-! ### Matching -/

omit blocks in
theorem silent_matchHeader : Silent p (matchHeader nested) := by
  have item := (spends_starNamed inner).silent
  refine .after (silent_expect _) fun _ => .after silent_here fun pos => .after item fun first => ?_
  refine .after (silent_commaItems item (silent_atSign _)) fun (rest, trailing) => ?_
  refine .when .mismatch (.after (silent_sign _) fun _ => .after (silent_expect _) fun _ => ?_)
  exact .after (silent_expect _) fun _ => .after silent_peek fun _ => .when .mismatch .done

theorem spends_caseBlock : Spends p 0 (caseBlock nested below) fun found =>
    found.elim 0 fun arm => Statement.tallyAll p arm.body := by
  refine .after silent_peek fun _ => .ite (.after silent_skip fun _ => ?_) .done
  refine .after silent_read fun setting => ?_
  refine .after (silent_casePattern inner (silent_patternRule _)) fun _ => ?_
  exact .bind (spends_block inner blocks) fun body => .pure (by simp)

theorem spends_cases (subject : Expr) :
    Spends p 0 (cases nested below subject) (Statement.tally p) := by
  refine .bind (spends_collect (spends_caseBlock inner blocks)) fun arms => ?_
  refine .after (silent_expect _) fun _ => .after (silent_since 10) fun _ => .pure ?_
  simp [Statement.tallyArms]

theorem spends_statement : Spends p 0 (statement nested below) (Statement.tallyAll p) := by
  have one {q : Parser Statement} (spends : Spends p 0 q (Statement.tally p)) :
      Spends p 0 (statement.one q) (Statement.tallyAll p) :=
    .bind spends fun s => .pure (by simp)
  refine .after silent_peek fun kind => ?_
  split
  · exact one (spends_branches inner blocks)
  · exact one (spends_whileStatement inner blocks)
  · exact one (spends_forStatement inner blocks false)
  · exact one (spends_withStatement inner blocks false)
  · exact one (spends_tryStatement inner blocks)
  · exact one (spends_classStatement inner blocks [])
  · exact one (spends_functionStatement inner blocks false [])
  · exact one (spends_asyncStatement inner blocks)
  · exact one (spends_decorated inner blocks)
  · refine .after (.either (.map (silent_matchHeader inner)) .done) fun found => ?_
    cases found with
    | some subject => exact one (spends_cases inner blocks subject)
    | none => exact spends_simpleLine inner
  · exact spends_simpleLine inner

omit inner blocks in
theorem tally_flatten (found : List (List Statement)) :
    Statement.tallyAll p found.flatten = (found.map (Statement.tallyAll p)).sum := by
  induction found with
  | nil => rfl
  | cons first rest ih => simp [ih]

theorem spends_statements : Spends p 0 (statements nested below) (Statement.tallyAll p) := by
  refine .bind (spends_collect (f := Statement.tallyAll p) ?_) fun found => .pure ?_
  · refine .after silent_peek fun kind => ?_
    split
    · exact .done
    · exact .done
    · exact .map (spends_statement inner blocks)
  · rw [Nat.zero_add]
    exact Nat.le_of_eq (tally_flatten found)

end

end

variable {p : Tally}

theorem spends_blockRule {nested : Rule → Parser Expr}
    (inner : ∀ r, Spends p 0 (nested r) (Expr.tally p)) (depth : Nat) :
    Spends p 0 (blockRule nested depth) (Statement.tallyAll p) := by
  induction depth with
  | zero => exact .refuse
  | succ depth ih => exact spends_statements inner ih

theorem tally_of_run {α : Type} {q : Parser α} {f : α → Nat} (spends : Spends p 0 q f)
    {dialect : Lexer.Dialect} {limit : Nat} {tokens : List Token} {a : α}
    (ran : run q dialect limit tokens = some a) : f a ≤ tally p tokens := by
  unfold run at ran
  split at ran
  · rename_i result rest read
    cases ran
    have whole : Spends p 0 (do
        let result ← q
        expect .finish
        pure result) f :=
      .bind spends fun found => .after (silent_expect _) fun _ => .pure (by simp)
    have := whole tokens _ _ _ read
    omega
  · cases ran

theorem tally_module {dialect : Lexer.Dialect} {chars : List Char} {statements : List Statement}
    (parsed : module? dialect chars = some statements) :
    ∃ tokens, Lexer.tokens? dialect true chars = some tokens ∧
      Statement.tallyAll p statements ≤ tally p tokens := by
  obtain ⟨tokens, lexed, ran⟩ := Option.bind_eq_some_iff.mp parsed
  exact ⟨tokens, lexed, tally_of_run (spends_blockRule (spends_rule _) _) ran⟩

theorem tally_expression {chars : List Char} {e : Expr} (parsed : expression? chars = some e) :
    ∃ tokens, Lexer.tokens? currentDialect false chars = some tokens ∧ e.tally p ≤ tally p tokens := by
  obtain ⟨tokens, lexed, ran⟩ := Option.bind_eq_some_iff.mp parsed
  refine ⟨tokens, lexed, tally_of_run (f := Expr.tally p) ?_ ran⟩
  refine .after silent_here fun pos => .bind (spends_rule _ _) fun first => ?_
  refine .bind (spends_exprs (spends_rule _ _) silent_atGroupEnd) fun (rest, trailing) => ?_
  refine .after (silent_collect (.after (silent_accept _) fun _ => .ite .done .done)) fun _ => ?_
  refine .pure ?_
  dsimp only
  split <;> simp +arith

end HintSchema.Parser

import HintSchema.Proofs.Syntax.Spending
import HintSchema.Proofs.Syntax.StringLengths

/-!
Each rule of the grammar of expressions spends on a record the token that the record starts with, if
the rules that it nests do.
-/

namespace HintSchema.Parser

section

variable {α : Type} {p : Tally} {k : Nat}

theorem spends_when {test : Parser Bool} {q : Parser α} {f : α → Nat} (quiet : Silent p test)
    (spends : Spends p 0 q f) :
    Spends p 0 (do if ← test then return some (← q) else pure none) fun found => found.elim 0 f :=
  .after quiet fun _ => .ite (.bind spends fun a => .pure (by simp)) (.done)

theorem spends_exprs {item : Parser Expr} {atEnd : Parser Bool}
    (each : Spends p 0 item (Expr.tally p)) (ends : Silent p atEnd) :
    Spends p 0 (commaItems item atEnd) fun found => Expr.tallyAll p found.1 :=
  spends_commaItems each ends

theorem silent_atClause : Silent p atClause := by
  refine .after silent_peek fun kind => ?_
  split
  · exact .done
  · exact .after silent_peekSecond fun _ => .done
  · exact .done

variable {nested : Rule → Parser Expr} (inner : ∀ r, Spends p 0 (nested r) (Expr.tally p))

include inner

theorem spends_maybeStarred {plain : Parser Expr} (spends : Spends p 0 plain (Expr.tally p)) :
    Spends p 0 (maybeStarred nested plain) (Expr.tally p) := by
  refine .after silent_here fun pos => .after (silent_acceptSign _) fun _ => .ite ?_ spends
  exact .bind (inner _) fun value => .pure (by simp)

theorem spends_starNamed : Spends p 0 (starNamed nested) (Expr.tally p) :=
  spends_maybeStarred inner (inner _)

theorem spends_loopTargets : Spends p 0 (loopTargets nested) (Expr.tally p) := by
  have item := spends_maybeStarred inner (inner .bitwiseOr)
  unfold loopTargets
  refine .after silent_here fun pos => .bind item fun first => ?_
  refine .bind (spends_exprs item (silent_atKeyword _)) fun (rest, trailing) => ?_
  dsimp only
  split
  · exact .ite (.pure (by simp +arith)) .mismatch
  · exact .ite (.pure (by simp +arith)) .mismatch

theorem spends_clause : Spends p 0 (clause nested) (Clause.tally p) := by
  unfold clause
  refine .after (silent_acceptKeyword _) fun isAsync => .after (silent_keyword _) fun _ => ?_
  refine .bind (spends_loopTargets inner) fun target => .after (silent_keyword _) fun _ => ?_
  refine .bind (inner _) fun source => ?_
  have condition := spends_when (silent_acceptKeyword "if") (inner .disjunction)
  refine .bind (spends_collect condition) fun conditions => ?_
  exact .when (silent_since 6) (.pure (by simp +arith [Clause.tally, Expr.tallyAll]))

theorem spends_clauses :
    Spends p 0 (clauses nested) fun found => (found.map (Clause.tally p)).sum :=
  spends_collect (spends_when silent_atClause (spends_clause inner))

/-! ### Parameters -/

def ParameterState.tally (p : Tally) (state : ParameterState) : Nat :=
  (state.found.map (Parameter.tally p)).sum

omit inner in
theorem spends_hint? {plain : Parser Expr} (hinted : Bool)
    (spends : Spends p 0 plain (Expr.tally p)) :
    Spends p 0 (hint? hinted plain) (Expr.tallyOption p) :=
  .ite (spends_when (silent_acceptSign _) spends) (.done)

omit inner in
theorem tally_markPositionalOnly (found : List Parameter) :
    ((found.map markPositionalOnly).map (Parameter.tally p)).sum =
      (found.map (Parameter.tally p)).sum := by
  rw [List.map_map]
  rfl

theorem spends_parameterItem (hinted : Bool) (state : ParameterState) :
    Spends p (state.tally p) (parameterItem nested hinted state)
      (ParameterState.tally p) := by
  unfold parameterItem
  refine .after silent_peek fun kind => ?_
  split
  · split
    · refine .ite .mismatch (.after silent_skip fun _ => .after (silent_since 8) fun _ => .pure ?_)
      exact Nat.le_of_eq (tally_markPositionalOnly state.found)
    · exact .mismatch
  · refine .ite (.after silent_skip fun _ => .after silent_peek fun _ => ?_) .mismatch
    split
    · exact .done
    · refine .after silent_name fun id => ?_
      refine .bind (spends_hint? hinted (spends_maybeStarred inner (inner _))) fun hint => .pure ?_
      simp +arith [ParameterState.tally, Parameter.tally, Parameter.hint, Parameter.default]
  · refine .ite .mismatch (.after silent_skip fun _ => .after silent_name fun id => ?_)
    refine .bind (spends_hint? hinted (inner _)) fun hint => .pure ?_
    simp +arith [ParameterState.tally, Parameter.tally, Parameter.hint, Parameter.default]
  · refine .after silent_name fun id => .bind (spends_hint? hinted (inner _)) fun hint => ?_
    have default : Spends p 0 (some <$> nested .expression)
        fun found => found.elim 0 (Expr.tally p) := .map (inner _)
    refine .after (silent_acceptSign _) fun _ => .given default fun value => ?_
    split
    · refine .ite .mismatch (.pure ?_)
      simp +arith [ParameterState.tally, Parameter.tally, Parameter.hint, Parameter.default,
        Expr.tallyOption]
    · exact .mismatch
    · refine .pure ?_
      simp +arith [ParameterState.tally, Parameter.tally, Parameter.hint, Parameter.default,
        Expr.tallyOption]
  · exact .mismatch

theorem spends_parameters (hinted : Bool) (closer : String) :
    Spends p 0 (parameters nested hinted closer) fun found =>
      (found.map (Parameter.tally p)).sum := by
  refine .bind (spends_iterate (f := ParameterState.tally p) (fun state => ?_) {})
    fun state => .pure (by simp [ParameterState.tally])
  have closing (n : Nat) (state : ParameterState) : Spends p (state.tally p)
      (if state.stage = .bareStar then Parser.mismatch
        else pure (some { state with closed := true }) : Parser (Option ParameterState))
      fun found => found.elim n (ParameterState.tally p) :=
    .ite .mismatch (.done)
  refine .ite (.done) (.after (silent_atSign _) fun _ => .ite (closing _ state) ?_)
  refine .chain (spends_parameterItem inner hinted state) fun next => ?_
  refine .after (silent_acceptSign _) fun _ => .ite (.done) ?_
  exact .after (silent_atSign _) fun _ => .ite (closing _ next) .mismatch

/-! ### Strings -/

omit inner in
theorem silent_interpolate (pos : Position) (fuel : Nat) (pieces : List Piece) :
    Silent p (interpolate nested pos fuel pieces) := by
  induction fuel generalizing pieces with
  | zero => exact .refuse
  | succ fuel ih =>
    cases pieces with
    | nil => exact .done
    | cons piece rest =>
      cases piece with
      | text value => exact .after (ih rest) fun _ => .done
      | field source shown conversion spec =>
        refine .after silent_read fun setting => ?_
        split
        · exact .mismatch
        · refine .after (silent_within _ _) fun value => ?_
          have remaining (spec : Option Expr) : Silent p (do
              let parts := .replacement pos value conversion spec ::
                (← interpolate nested pos fuel rest)
              pure (addText pos (.ofChars (shown.getD [])) parts)) :=
            .after (ih rest) fun _ => .done
          dsimp only
          split
          · exact .after (ih _) fun parts =>
              .after (.done) fun _ => remaining _
          · exact .after (.done) fun _ => remaining _

/-- What the expression declares at a place, and one more if a call of it at `pos` could. -/
def worthAt (p : Tally) (pos : Position) (e : Expr) : Nat :=
  e.tally p + if e.dotted?.isSome then p.record pos else 0

omit inner in
theorem worthAt_le (pos : Position) (e : Expr) : worthAt p pos e ≤ p.record pos + e.tally p := by
  unfold worthAt
  split <;> omega

omit inner in
theorem worthAt_text (start pos : Position) (value : CodeText) (marked : Bool) :
    worthAt p start (.literal pos (.text value marked)) = p.text value.length := by
  simp [worthAt, Expr.dotted?, Literal.tally]

omit inner in
theorem spends_joinStrings (start pos : Position) (tokens : List StringToken) :
    Spends p (tokens.map fun t => p.text t.body.length).sum (joinStrings nested pos tokens)
      (worthAt p start) := by
  unfold joinStrings
  split
  · split
    · exact .pure (by simp [worthAt, Expr.dotted?, Literal.tally])
    · exact .mismatch
  · rename_i texts
    refine .ite .mismatch (.after silent_read fun setting => ?_)
    split
    · exact .mismatch
    · rename_i pieces joined
      dsimp only
      split
      · refine .after silent_read fun _ => .after (silent_interpolate _ _ _) fun parts => ?_
        exact .pure (by simp [worthAt, Expr.dotted?])
      · rename_i plain
        have some_token : tokens ≠ [] := by
          rintro rfl
          exact texts rfl
        have counted := tally_joined p some_token (length_joined (by simpa using plain) joined)
        exact .pure ((worthAt_text start pos _ _).trans_le counted)

omit inner in
theorem spends_strings (start : Position) : Spends p 0 (strings nested) (worthAt p start) := by
  refine .after silent_here fun pos => ?_
  refine .chain (spends_collect (f := fun t : StringToken => p.text t.body.length) ?_)
    fun tokens => spends_joinStrings start pos tokens
  intro tokens
  cases tokens with
  | nil => exact .peek_nil (Spends.done _)
  | cons t rest =>
    refine .peek ?_
    split
    · rename_i token kind
      refine .skip (.pure ?_)
      simp [Token.tally, kind]
    · exact Spends.done _

/-! ### Arguments and subscripts -/

def ArgumentState.tally (p : Tally) (state : ArgumentState) : Nat :=
  Expr.tallyAll p state.arguments + (state.keywords.map (Keyword.tally p)).sum

theorem spends_plainArgument (opening : Option Position) (state : ArgumentState) :
    Spends p (state.tally p) (argumentItem.plain nested opening state)
      (ArgumentState.tally p) := by
  unfold argumentItem.plain
  refine .ite (.bind (inner _) fun value => ?_) .mismatch
  split
  · refine .after silent_atClause fun _ => .ite ?_ (.pure ?_)
    · refine .bind (spends_clauses inner) fun clauses => .after (silent_sign _) fun _ => .pure ?_
      simp +arith [ArgumentState.tally]
    · simp +arith [ArgumentState.tally]
  · exact .pure (by simp +arith [ArgumentState.tally])

theorem spends_argumentItem (opening : Option Position) (state : ArgumentState) :
    Spends p (state.tally p) (argumentItem nested opening state) (ArgumentState.tally p) := by
  unfold argumentItem
  refine .after silent_here fun pos => .after silent_peek fun kind => ?_
  split
  · refine .ite .mismatch (.after silent_skip fun _ => .bind (inner _) fun value => .pure ?_)
    simp +arith [ArgumentState.tally]
  · refine .after silent_skip fun _ => .bind (inner _) fun value => .pure ?_
    simp +arith [ArgumentState.tally, Keyword.tally, Keyword.value]
  · refine .after silent_peekSecond fun _ => .ite ?_ (spends_plainArgument inner opening state)
    refine .after silent_skip fun _ => .after silent_skip fun _ => ?_
    refine .bind (inner _) fun value => .pure ?_
    simp +arith [ArgumentState.tally, Keyword.tally, Keyword.value]
  · exact spends_plainArgument inner opening state

theorem spends_arguments (opening : Option Position) :
    Spends p 0 (arguments nested opening) fun found =>
      Expr.tallyAll p found.1 + (found.2.map (Keyword.tally p)).sum := by
  refine .bind (spends_iterate (f := ArgumentState.tally p) (fun state => ?_) {})
    fun state => .pure (by simp [ArgumentState.tally, Expr.tallyAll])
  refine .ite (.done) ?_
  refine .after (silent_acceptSign _) fun _ => .ite (.done) ?_
  refine .chain (spends_argumentItem inner opening state) fun next => ?_
  refine .ite (.done) ?_
  refine .after (silent_acceptSign _) fun _ => .ite (.done) ?_
  exact .after (silent_sign _) fun _ => .done

theorem spends_slicePart : Spends p 0 (slicePart nested) (Expr.tallyOption p) := by
  refine .after silent_peek fun kind => ?_
  split
  · exact .done
  · exact .done
  · exact .done
  · exact .map (inner _)

theorem spends_sliceAfter (pos : Position) (lower : Option Expr) :
    Spends p (Expr.tallyOption p lower) (sliceAfter nested pos lower) (Expr.tally p) := by
  unfold sliceAfter
  refine .after (silent_sign _) fun _ => .bind (spends_slicePart inner) fun upper => ?_
  refine .after (silent_acceptSign _) fun _ => .given (spends_slicePart inner) fun step => .pure ?_
  simp [Expr.tallyOption]

theorem spends_subscriptItem : Spends p 0 (subscriptItem nested) (Expr.tally p) := by
  refine .after silent_here fun pos => .after silent_peek fun kind => ?_
  split
  · exact spends_sliceAfter inner pos none
  · exact .after silent_skip fun _ => .bind (inner _) fun value => .pure (by simp)
  · refine .after silent_peek fun _ => .after silent_peekSecond fun _ => ?_
    refine .bind (inner _) fun first => .after (silent_atSign _) fun _ => .ite ?_ (.pure (by simp))
    exact (spends_sliceAfter inner pos (some first)).mono (by simp) fun _ => Nat.le_refl _

theorem spends_subscripts : Spends p 0 (subscripts nested) (Expr.tally p) := by
  have item := spends_subscriptItem inner
  refine .after silent_here fun pos => .bind item fun first => ?_
  refine .bind (spends_exprs item (silent_atSign _)) fun (rest, trailing) => ?_
  exact .after (silent_sign _) fun _ => .ite (.pure (by simp +arith)) (.pure (by simp +arith))

/-! ### Displays -/

theorem spends_yieldExpr : Spends p 0 (yieldExpr nested) (Expr.tally p) := by
  refine .after silent_here fun pos => .after (silent_keyword _) fun _ => ?_
  refine .after (silent_acceptKeyword _) fun _ => .ite ?_ (.after silent_peek fun kind => ?_)
  · exact .bind (inner _) fun value => .pure (by simp)
  · split
    iterate 9 exact .done
    exact .bind (inner _) fun value => .pure (by simp)

theorem spends_parenthesized (pos : Position) :
    Spends p 0 (parenthesized nested pos) (Expr.tally p) := by
  have item := spends_starNamed inner
  refine .after (silent_acceptSign _) fun _ => .ite (.pure (by simp)) ?_
  refine .after (silent_atKeyword _) fun _ => .ite ?_ (.bind item fun first => ?_)
  · refine .bind (spends_yieldExpr inner) fun value => .after (silent_sign _) fun _ => ?_
    exact .pure (by simp)
  · refine .after silent_atClause fun _ => .ite ?_ ?_
    · refine .bind (spends_clauses inner) fun clauses => .after (silent_sign _) fun _ => ?_
      exact .pure (by simp)
    · refine .bind (spends_exprs item (silent_atSign _)) fun (rest, trailing) => ?_
      refine .after (silent_sign _) fun _ => .ite ?_ (.pure (by simp))
      exact .ite .mismatch (.pure (by simp +arith))

theorem spends_listDisplay (pos : Position) :
    Spends p 0 (listDisplay nested pos) (Expr.tally p) := by
  have item := spends_starNamed inner
  refine .after (silent_acceptSign _) fun _ => .ite (.pure (by simp)) (.bind item fun first => ?_)
  refine .after silent_atClause fun _ => .ite ?_ ?_
  · refine .bind (spends_clauses inner) fun clauses => .after (silent_sign _) fun _ => ?_
    exact .pure (by simp)
  · refine .bind (spends_exprs item (silent_atSign _)) fun (rest, trailing) => ?_
    exact .after (silent_sign _) fun _ => .pure (by simp)

theorem spends_dictItem : Spends p 0 (dictItem nested) (DictItem.tally p) := by
  refine .after (silent_acceptSign _) fun _ => .ite (.bind (inner _) fun value => .pure ?_) ?_
  · simp [DictItem.tally]
  · refine .bind (inner _) fun key => .after (silent_sign _) fun _ => ?_
    exact .bind (inner _) fun value => .pure (by simp [DictItem.tally])

theorem spends_restOfDict (start pos : Position) (first : DictItem) :
    Spends p (p.record pos + first.tally p) (restOfDict nested pos first) (worthAt p start) := by
  unfold restOfDict
  refine .bind (spends_commaItems (spends_dictItem inner) (silent_atSign _)) fun (rest, _) => ?_
  exact .after (silent_sign _) fun _ => .pure (by simp +arith [worthAt, Expr.dotted?])

theorem spends_restOfSet (start pos : Position) (first : Expr) :
    Spends p (first.tally p) (restOfSet nested pos first) (worthAt p start) := by
  refine .after silent_atClause fun _ => .ite ?_ ?_
  · refine .bind (spends_clauses inner) fun clauses => .after (silent_sign _) fun _ => .pure ?_
    simp [worthAt, Expr.dotted?]
  · refine .bind (spends_exprs (spends_starNamed inner) (silent_atSign _)) fun (rest, _) => ?_
    exact .after (silent_sign _) fun _ => .pure (by simp [worthAt, Expr.dotted?])

theorem spends_braced (start pos : Position) :
    Spends p (p.record pos) (braced nested pos) (worthAt p start) := by
  have set (first : Expr) : Spends p (p.record pos + first.tally p) (restOfSet nested pos first)
      (worthAt p start) :=
    (spends_restOfSet inner start pos first).mono (Nat.le_add_left _ _) fun _ => Nat.le_refl _
  refine .after silent_peek fun kind => .after silent_peekSecond fun second => ?_
  split
  · exact .after silent_skip fun _ => .pure (by simp [worthAt, Expr.dotted?])
  · exact .bind (spends_dictItem inner) fun first => spends_restOfDict inner start pos first
  · exact .bind (spends_starNamed inner) set
  · exact .bind (spends_starNamed inner) set
  · refine .bind (inner _) fun first => .after (silent_acceptSign _) fun _ => .ite ?_ (set first)
    refine .bind (inner _) fun value => .after silent_atClause fun _ => .ite ?_ ?_
    · refine .bind (spends_clauses inner) fun clauses => .after (silent_sign _) fun _ => .pure ?_
      simp +arith [worthAt, Expr.dotted?]
    · refine (spends_restOfDict inner start pos _).mono ?_ fun _ => Nat.le_refl _
      simp +arith [DictItem.tally]

/-! ### Operators -/

omit inner in
theorem spends_literal (start pos : Position) (value : Literal) (free : value.tally p = 0) :
    Spends p 0 (do skip; pure (Expr.literal pos value)) (worthAt p start) :=
  .after silent_skip fun _ => .pure (by simp [worthAt, Expr.dotted?, free])

theorem spends_atom (tokens : List Token) :
    SpendsFrom p tokens 0 (atom nested) (worthAt p (place tokens)) := by
  refine .here ?_
  cases tokens with
  | nil =>
    rintro setting a rest ⟨⟩
  | cons t rest =>
    refine .peek ?_
    have called {q : Parser Expr} (spends : Spends p 0 q (Expr.tally p)) :
        Spends p (p.record t.pos) q (worthAt p t.pos) := spends.frame (worthAt_le t.pos)
    split
    case h_1 id kind =>
      exact .mark (by rw [kind]; rfl) (.pure (by simp [worthAt, Expr.dotted?, place]))
    case h_2 value kind =>
      exact .skip (.pure (by simp [worthAt, Expr.dotted?, Token.tally, kind]))
    case h_3 => exact spends_strings _ _
    case h_4 | h_5 | h_6 | h_7 => exact spends_literal _ _ _ rfl _
    case h_8 kind => exact .mark (by rw [kind]; rfl) (called (spends_parenthesized inner _))
    case h_9 kind => exact .mark (by rw [kind]; rfl) (called (spends_listDisplay inner _))
    case h_10 kind => exact .mark (by rw [kind]; rfl) (spends_braced inner _ _)
    case h_11 => exact Spends.mismatch _

theorem spends_primary : Spends p 0 (primary nested) (Expr.tally p) := by
  intro tokens
  refine .here (.chain (spends_atom inner tokens) fun first => ?_)
  refine (spends_iterate (f := worthAt p (place tokens)) (fun value => ?_) first).mono
    (Nat.le_refl _) fun e => Nat.le_add_right _ _
  refine .after silent_peek fun kind => ?_
  split
  · refine .after silent_skip fun _ => .after silent_name fun attr => .pure ?_
    simp [worthAt, Expr.dotted?]
  · refine .after silent_here fun opening => .after silent_skip fun _ => ?_
    refine .bind (spends_arguments inner (some opening)) fun (arguments, keywords) => .pure ?_
    simp +arith [worthAt, Expr.dotted?]
  · refine .after silent_skip fun _ => .bind (spends_subscripts inner) fun index => .pure ?_
    simp +arith [worthAt, Expr.dotted?]
  · exact .done

theorem spends_awaited : Spends p 0 (awaited nested) (Expr.tally p) := by
  have value := spends_primary inner
  refine .after silent_here fun pos => .after (silent_acceptKeyword _) fun _ => .ite ?_ value
  exact .after (silent_since 5) fun _ => .bind value fun e => .pure (by simp)

theorem spends_power : Spends p 0 (power nested) (Expr.tally p) := by
  refine .after silent_here fun pos => .bind (spends_awaited inner) fun base => ?_
  refine .after (silent_acceptSign _) fun _ => .ite ?_ (.pure (by simp))
  exact .bind (inner _) fun exponent => .pure (by simp)

theorem spends_factor : Spends p 0 (factor nested) (Expr.tally p) := by
  refine .after silent_here fun pos => .after silent_peek fun kind => ?_
  split
  · exact .after silent_skip fun _ => .bind (inner _) fun operand => .pure (by simp)
  · exact spends_power inner

omit inner in
theorem spends_leftward (op? : Token.Kind → Option BinaryOp) {operand : Parser Expr}
    (each : Spends p 0 operand (Expr.tally p)) :
    Spends p 0 (leftward op? operand) (Expr.tally p) := by
  refine .after silent_here fun pos => .chain each fun first => ?_
  refine spends_iterate (fun left => ?_) first
  refine .after silent_peek fun kind => ?_
  split
  · refine .after silent_skip fun _ => .when (silent_since 5) (.bind each fun right => .pure ?_)
    simp
  · exact .done

theorem spends_bitwiseOr : Spends p 0 (bitwiseOr nested) (Expr.tally p) := by
  have sum := spends_leftward sumOp? (spends_leftward termOp? (spends_factor inner))
  have bitAnd := spends_leftward (signOp? "&" .bitAnd) (spends_leftward shiftOp? sum)
  exact spends_leftward _ (spends_leftward _ bitAnd)

omit inner in
theorem silent_comparisonOp : Silent p comparisonOp := by
  refine .after silent_peek fun kind => .after silent_peekSecond fun second => ?_
  have skips (op : CompareOp) : Silent p (do skip; pure (some op)) :=
    .after silent_skip fun _ => .done
  split
  · exact .after silent_skip fun _ => skips _
  · exact .after silent_skip fun _ => skips _
  · exact skips _
  · exact skips _
  · split
    · exact skips _
    · exact .done
  · exact .done

theorem spends_comparison : Spends p 0 (comparison nested) (Expr.tally p) := by
  refine .after silent_here fun pos => .bind (spends_bitwiseOr inner) fun first => ?_
  refine .bind (spends_collect (f := Comparison.tally p) ?_) fun rest => .pure ?_
  · refine .after silent_comparisonOp fun op => ?_
    split
    · exact .bind (spends_bitwiseOr inner) fun right => .pure (by simp [Comparison.tally])
    · exact .done
  · split <;> simp

theorem spends_inversion : Spends p 0 (inversion nested) (Expr.tally p) := by
  refine .after silent_here fun pos => .after (silent_acceptKeyword _) fun _ => .ite ?_ ?_
  · exact .bind (inner _) fun operand => .pure (by simp)
  · exact spends_comparison inner

omit inner in
theorem spends_joined {word : String} {op : BoolOp} {operand : Parser Expr}
    (each : Spends p 0 operand (Expr.tally p)) :
    Spends p 0 (joined word op operand) (Expr.tally p) := by
  refine .after silent_here fun pos => .bind each fun first => ?_
  refine .bind (spends_collect (spends_when (silent_acceptKeyword _) each)) fun rest => .pure ?_
  split <;> simp [Expr.tallyAll]

theorem spends_disjunction : Spends p 0 (disjunction nested) (Expr.tally p) :=
  spends_joined (spends_joined (spends_inversion inner))

theorem spends_lambdaExpr : Spends p 0 (lambdaExpr nested) (Expr.tally p) := by
  refine .after silent_here fun pos => .after (silent_keyword _) fun _ => ?_
  refine .bind (spends_parameters inner false ":") fun parameters => ?_
  exact .after (silent_sign _) fun _ => .bind (inner _) fun body => .pure (by simp)

theorem spends_expression : Spends p 0 (expression nested) (Expr.tally p) := by
  refine .after (silent_atKeyword _) fun _ => .ite (spends_lambdaExpr inner) ?_
  refine .after silent_here fun pos => .bind (spends_disjunction inner) fun body => ?_
  refine .after (silent_acceptKeyword _) fun _ => .ite ?_ (.pure (by simp))
  refine .bind (inner _) fun test => .after (silent_keyword _) fun _ => ?_
  exact .bind (inner _) fun orelse => .pure (by simp +arith)

theorem spends_named : Spends p 0 (named nested) (Expr.tally p) := by
  refine .after silent_here fun pos => .after silent_peek fun kind => ?_
  refine .after silent_peekSecond fun second => ?_
  split
  · refine .after silent_skip fun _ => .after silent_skip fun _ => .bind (inner _) fun value => ?_
    exact .after (silent_since 8) fun _ => .pure (by simp)
  · exact spends_expression inner

omit inner in
theorem silent_atGroupEnd : Silent p atGroupEnd := by
  refine .after silent_peek fun kind => ?_
  split <;> exact .done

theorem spends_group : Spends p 0 (group nested) (Expr.tally p) := by
  have item := spends_maybeStarred inner (inner .expression)
  refine .after silent_here fun pos => .bind item fun first => ?_
  refine .bind (spends_exprs item silent_atGroupEnd) fun (rest, trailing) => .pure ?_
  dsimp only
  split <;> simp +arith

end

theorem spends_rule {p : Tally} (depth : Nat) (r : Rule) :
    Spends p 0 (rule depth r) (Expr.tally p) := by
  induction depth generalizing r with
  | zero => exact .refuse
  | succ depth ih =>
    cases r with
    | group => exact spends_group ih
    | named => exact spends_named ih
    | expression => exact spends_expression ih
    | disjunction => exact spends_disjunction ih
    | inversion => exact spends_inversion ih
    | bitwiseOr => exact spends_bitwiseOr ih
    | factor => exact spends_factor ih

end HintSchema.Parser

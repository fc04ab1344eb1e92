import HintSchema.Syntax.Interpolation
import HintSchema.Syntax.Parser.Basic

/-!
The grammar of expressions. Each rule is a definition over the parsers of the rules it nests, and
`Parser.rule` ties the knot: every nesting reads at least one token first.
-/

namespace HintSchema.Parser

/-- The rules that nest. `group` reads one or more expressions, `named` an expression that may bind
a name. -/
inductive Rule where
  | group
  | named
  | expression
  | disjunction
  | inversion
  | bitwiseOr
  | factor
  deriving DecidableEq, Repr

/-! ### Targets -/

mutual

/-- Whether an expression is written in a form that can be assigned to. -/
def isTarget : Expr → Bool
  | .name _ _ | .member _ _ _ | .subscript _ _ _ => true
  | .tuple _ items | .list _ items => areTargets items
  | _ => false

def areTargets : List Expr → Bool
  | [] => true
  | .starred _ value :: rest => isTarget value && areTargets rest
  | item :: rest => isTarget item && areTargets rest

end

def isStarTarget : Expr → Bool
  | .starred _ value => isTarget value
  | e => isTarget e

def isSingleTarget : Expr → Bool
  | .name _ _ | .member _ _ _ | .subscript _ _ _ => true
  | _ => false

mutual

def isDeletable : Expr → Bool
  | .name _ _ | .member _ _ _ | .subscript _ _ _ => true
  | .tuple _ items | .list _ items => areDeletable items
  | _ => false

def areDeletable : List Expr → Bool
  | [] => true
  | item :: rest => isDeletable item && areDeletable rest

end

def isStarred : Expr → Bool
  | .starred _ _ => true
  | _ => false

section

variable (nested : Rule → Parser Expr)

def maybeStarred (plain : Parser Expr) : Parser Expr := do
  let pos ← here
  if ← acceptSign "*" then
    return .starred pos (← nested .bitwiseOr)
  else plain

def starNamed : Parser Expr := maybeStarred nested (nested .named)

/-! ### Comprehensions -/

def atClause : Parser Bool := do
  match ← peek with
  | .keyword "for" => pure true
  | .keyword "async" => return (← peekSecond) = .keyword "for"
  | _ => pure false

def loopTargets : Parser Expr := do
  let pos ← here
  let item := maybeStarred nested (nested .bitwiseOr)
  let first ← item
  let (rest, trailing) ← commaItems item (atKeyword "in")
  let target := if rest.isEmpty && !trailing then first else .tuple pos (first :: rest)
  if rest.isEmpty && !trailing then
    if isStarTarget first then pure target else mismatch
  else if isTarget target then pure target
  else mismatch

def clause : Parser Clause := do
  let isAsync ← acceptKeyword "async"
  keyword "for"
  let target ← loopTargets nested
  keyword "in"
  let source ← nested .disjunction
  let conditions ← collect do
    if ← acceptKeyword "if" then return some (← nested .disjunction) else pure none
  if isAsync then since 6
  pure (.mk isAsync target source conditions)

def clauses : Parser (List Clause) := collect do
  if ← atClause then return some (← clause nested) else pure none

/-! ### Parameters -/

/-- Where a parameter list stands: before the star, right after a bare star, after the star, or
after the last parameter it can have. -/
inductive Section where
  | positional (sawDefault : Bool) (sawSlash : Bool)
  | bareStar
  | keywordOnly
  | done
  deriving DecidableEq, Repr

structure ParameterState where
  stage : Section := .positional false false
  found : List Parameter := []
  closed : Bool := false

def hint? (hinted : Bool) (plain : Parser Expr) : Parser (Option Expr) := do
  if hinted then
    if ← acceptSign ":" then return some (← plain) else pure none
  else pure none

def Section.isPositional : Section → Bool
  | .positional _ _ => true
  | _ => false

def markPositionalOnly (p : Parameter) : Parameter :=
  .mk .positionalOnly p.name p.hint p.default

/-- Reads one parameter, slash or star. The parameters are kept last first. -/
def parameterItem (hinted : Bool) (state : ParameterState) : Parser ParameterState := do
  match ← peek with
  | .sign "/" =>
    match state.stage with
    | .positional sawDefault false =>
      if state.found.isEmpty then mismatch
      else
        skip
        since 8
        pure { state with stage := .positional sawDefault true,
                          found := state.found.map markPositionalOnly }
    | _ => mismatch
  | .sign "*" =>
    if state.stage.isPositional then
      skip
      match ← peek with
      | .sign "," => pure { state with stage := .bareStar }
      | _ =>
        let id ← name
        let hint ← hint? hinted (maybeStarred nested (nested .expression))
        pure { state with stage := .keywordOnly,
                          found := .mk .variadicPositional id hint none :: state.found }
    else mismatch
  | .sign "**" =>
    if state.stage = .bareStar ∨ state.stage = .done then mismatch
    else
      skip
      let id ← name
      let hint ← hint? hinted (nested .expression)
      pure { state with stage := .done,
                        found := .mk .variadicKeyword id hint none :: state.found }
  | .name _ =>
    let id ← name
    let hint ← hint? hinted (nested .expression)
    let value ← if ← acceptSign "=" then some <$> nested .expression else pure none
    match state.stage with
    | .positional sawDefault sawSlash =>
      if sawDefault && value.isNone then mismatch
      else
        pure { state with
          stage := .positional (sawDefault || value.isSome) sawSlash,
          found := .mk .positionalOrKeyword id hint value :: state.found }
    | .done => mismatch
    | _ =>
      pure { state with stage := .keywordOnly,
                        found := .mk .keywordOnly id hint value :: state.found }
  | _ => mismatch

def parameters (hinted : Bool) (closer : String) : Parser (List Parameter) := do
  let state ← iterate (fun state : ParameterState => do
    if state.closed then pure none
    else if ← atSign closer then
      if state.stage = .bareStar then mismatch
      else return some { state with closed := true }
    else
      let state ← parameterItem nested hinted state
      if ← acceptSign "," then pure (some state)
      else if ← atSign closer then
        if state.stage = .bareStar then mismatch
        else return some { state with closed := true }
      else mismatch) {}
  pure state.found.reverse

/-! ### Strings -/

/-- Text parts that stand side by side become one, and empty ones none. -/
def addText (pos : Position) (value : CodeText) (parts : List Expr) : List Expr :=
  if value.isEmpty then parts
  else
    match parts with
    | .literal _ (.text next marked) :: rest => .literal pos (.text (value ++ next) marked) :: rest
    | _ => .literal pos (.text value false) :: parts

/-- The parts of an interpolated string; the source of a field is read between parentheses. -/
def interpolate (pos : Position) : Nat → List Piece → Parser (List Expr)
  | 0, _ => refuse
  | _ + 1, [] => pure []
  | fuel + 1, .text value :: rest => do
    return addText pos value (← interpolate pos fuel rest)
  | fuel + 1, .field source shown conversion spec :: rest => do
    match Lexer.tokens? (← read).dialect false ('(' :: source ++ [')']) with
    | none => mismatch
    | some tokens =>
      let value ← within tokens (nested .group)
      let spec ← match spec with
        | some inner => do
          let parts ← interpolate pos fuel inner
          pure (some (Expr.interpolated pos parts))
        | none => pure none
      let parts := .replacement pos value conversion spec :: (← interpolate pos fuel rest)
      pure (addText pos (.ofChars (shown.getD [])) parts)

def tokenPieces (dialect : Lexer.Dialect) (token : StringToken) : Option (List Piece) :=
  if token.interpolated then Interpolation.ofBody? dialect token.raw token.body
  else (StringLiteral.text? token.raw token.body).map fun value => [.text value]

/-- Adjacent strings are one: all bytes, or all text, interpolated if one of them is. -/
def joinStrings (pos : Position) (tokens : List StringToken) : Parser Expr := do
  if tokens.all (·.bytes) then
    match tokens.mapM fun t => StringLiteral.bytes? t.raw t.body with
    | some values => pure (.literal pos (.bytes values.flatten))
    | none => mismatch
  else if tokens.any (·.bytes) then mismatch
  else
    match tokens.mapM (tokenPieces (← read).dialect) with
    | none => mismatch
    | some pieces =>
      let pieces := pieces.flatten
      if tokens.any (·.interpolated) then
        return .interpolated pos (← interpolate nested pos (← read).limit pieces)
      else
        let value := pieces.flatMap fun
          | .text value => value
          | .field _ _ _ _ => []
        pure (.literal pos (.text value ((tokens.head?.map (·.marked)).getD false)))

def strings : Parser Expr := do
  let pos ← here
  let tokens ← collect do
    match ← peek with
    | .string token =>
      skip
      pure (some token)
    | _ => pure none
  joinStrings nested pos tokens

/-! ### Arguments -/

/-- Where an argument list stands: keywords bar plain arguments, a double star bars starred ones. -/
inductive ArgumentStage where
  | plain
  | keywords
  | spread
  deriving DecidableEq, Repr

structure ArgumentState where
  stage : ArgumentStage := .plain
  arguments : List Expr := []
  keywords : List Keyword := []
  closed : Bool := false

/-- Reads one argument. A comprehension may stand without parentheses of its own where it is the
only argument of a call, whose parenthesis is then at `opening`. -/
def argumentItem (opening : Option Position) (state : ArgumentState) : Parser ArgumentState := do
  let pos ← here
  match ← peek with
  | .sign "*" =>
    if state.stage = .spread then mismatch
    else
      skip
      return { state with arguments := .starred pos (← nested .expression) :: state.arguments }
  | .sign "**" =>
    skip
    return { state with stage := .spread,
                        keywords := .mk none (← nested .expression) :: state.keywords }
  | .name id =>
    if (← peekSecond) = .sign "=" then
      skip
      skip
      let stage := if state.stage = .spread then .spread else .keywords
      return { state with stage := stage,
                          keywords := .mk (some id) (← nested .expression) :: state.keywords }
    else plain state
  | _ => plain state
where
  plain (state : ArgumentState) : Parser ArgumentState := do
    if state.stage = .plain then
      let value ← nested .named
      match opening with
      | some pos =>
        if state.arguments.isEmpty && (← atClause) then
          let clauses ← clauses nested
          sign ")"
          pure { state with arguments := [.comprehension pos .generator value clauses],
                            closed := true }
        else pure { state with arguments := value :: state.arguments }
      | none => pure { state with arguments := value :: state.arguments }
    else mismatch

def arguments (opening : Option Position) : Parser (List Expr × List Keyword) := do
  let state ← iterate (fun state : ArgumentState => do
    if state.closed then pure none
    else if ← acceptSign ")" then return some { state with closed := true }
    else
      let state ← argumentItem nested opening state
      if state.closed then pure (some state)
      else if ← acceptSign "," then pure (some state)
      else
        sign ")"
        return some { state with closed := true }) {}
  pure (state.arguments.reverse, state.keywords.reverse)

/-! ### Subscripts -/

def slicePart : Parser (Option Expr) := do
  match ← peek with
  | .sign ":" | .sign "," | .sign "]" => pure none
  | _ => some <$> nested .expression

def sliceAfter (pos : Position) (lower : Option Expr) : Parser Expr := do
  sign ":"
  let upper ← slicePart nested
  let step ← if ← acceptSign ":" then slicePart nested else pure none
  pure (.slice pos lower upper step)

def subscriptItem : Parser Expr := do
  let pos ← here
  match ← peek with
  | .sign ":" => sliceAfter nested pos none
  | .sign "*" =>
    skip
    return .starred pos (← nested .expression)
  | _ =>
    let isNamed := match ← peek, ← peekSecond with
      | .name _, .sign ":=" => true
      | _, _ => false
    let first ← nested .named
    if !isNamed && (← atSign ":") then sliceAfter nested pos (some first) else pure first

def subscripts : Parser Expr := do
  let pos ← here
  let first ← subscriptItem nested
  let (rest, trailing) ← commaItems (subscriptItem nested) (atSign "]")
  sign "]"
  if rest.isEmpty && !trailing && !isStarred first then pure first
  else pure (.tuple pos (first :: rest))

/-! ### Displays -/

def yieldExpr : Parser Expr := do
  let pos ← here
  keyword "yield"
  if ← acceptKeyword "from" then
    return .yieldFrom pos (← nested .expression)
  else
    match ← peek with
    | .newline | .finish | .sign ")" | .sign "]" | .sign "\x7d" | .sign "=" | .sign ";"
    | .sign "," | .sign ":" => pure (.yield pos none)
    | _ => return .yield pos (some (← nested .group))

def parenthesized (pos : Position) : Parser Expr := do
  if ← acceptSign ")" then pure (.tuple pos [])
  else if ← atKeyword "yield" then
    let value ← yieldExpr nested
    sign ")"
    pure value
  else
    let first ← starNamed nested
    if !isStarred first && (← atClause) then
      let clauses ← clauses nested
      sign ")"
      pure (.comprehension pos .generator first clauses)
    else
      let (rest, trailing) ← commaItems (starNamed nested) (atSign ")")
      sign ")"
      if rest.isEmpty && !trailing then
        if isStarred first then mismatch else pure first
      else pure (.tuple pos (first :: rest))

def listDisplay (pos : Position) : Parser Expr := do
  if ← acceptSign "]" then pure (.list pos [])
  else
    let first ← starNamed nested
    if !isStarred first && (← atClause) then
      let clauses ← clauses nested
      sign "]"
      pure (.comprehension pos .list first clauses)
    else
      let (rest, _) ← commaItems (starNamed nested) (atSign "]")
      sign "]"
      pure (.list pos (first :: rest))

def dictItem : Parser DictItem := do
  if ← acceptSign "**" then return .spread (← nested .bitwiseOr)
  else
    let key ← nested .expression
    sign ":"
    return .pair key (← nested .expression)

def restOfDict (pos : Position) (first : DictItem) : Parser Expr := do
  let (rest, _) ← commaItems (dictItem nested) (atSign "\x7d")
  sign "\x7d"
  pure (.dict pos (first :: rest))

def restOfSet (pos : Position) (first : Expr) : Parser Expr := do
  if !isStarred first && (← atClause) then
    let clauses ← clauses nested
    sign "\x7d"
    pure (.comprehension pos .set first clauses)
  else
    let (rest, _) ← commaItems (starNamed nested) (atSign "\x7d")
    sign "\x7d"
    pure (.set pos (first :: rest))

def braced (pos : Position) : Parser Expr := do
  match ← peek, ← peekSecond with
  | .sign "\x7d", _ =>
    skip
    pure (.dict pos [])
  | .sign "**", _ => restOfDict nested pos (← dictItem nested)
  | .name _, .sign ":=" => restOfSet nested pos (← starNamed nested)
  | .sign "*", _ => restOfSet nested pos (← starNamed nested)
  | _, _ =>
    let first ← nested .expression
    if ← acceptSign ":" then
      let value ← nested .expression
      if ← atClause then
        let clauses ← clauses nested
        sign "\x7d"
        pure (.dictComprehension pos first value clauses)
      else restOfDict nested pos (.pair first value)
    else restOfSet nested pos first

/-! ### Operators, from the tightest to the loosest -/

def atom : Parser Expr := do
  let pos ← here
  match ← peek with
  | .name id =>
    skip
    pure (.name pos id)
  | .number value =>
    skip
    pure (.literal pos value)
  | .string _ => strings nested
  | .keyword "None" =>
    skip
    pure (.literal pos .none)
  | .keyword "True" =>
    skip
    pure (.literal pos .true)
  | .keyword "False" =>
    skip
    pure (.literal pos .false)
  | .sign "..." =>
    skip
    pure (.literal pos .ellipsis)
  | .sign "(" =>
    skip
    parenthesized nested pos
  | .sign "[" =>
    skip
    listDisplay nested pos
  | .sign "\x7b" =>
    skip
    braced nested pos
  | _ => mismatch

def primary : Parser Expr := do
  let pos ← here
  iterate (fun value => do
    match ← peek with
    | .sign "." =>
      skip
      return some (.member pos value (← name))
    | .sign "(" =>
      let opening ← here
      skip
      let (arguments, keywords) ← arguments nested (some opening)
      pure (some (.call pos value arguments keywords))
    | .sign "[" =>
      skip
      return some (.subscript pos value (← subscripts nested))
    | _ => pure none) (← atom nested)

def awaited : Parser Expr := do
  let pos ← here
  if ← acceptKeyword "await" then
    since 5
    return .await pos (← primary nested)
  else primary nested

def power : Parser Expr := do
  let pos ← here
  let base ← awaited nested
  if ← acceptSign "**" then
    return .binary pos .pow base (← nested .factor)
  else pure base

def unaryOp? : Token.Kind → Option UnaryOp
  | .sign "+" => some .plus
  | .sign "-" => some .minus
  | .sign "~" => some .invert
  | _ => none

def factor : Parser Expr := do
  let pos ← here
  match unaryOp? (← peek) with
  | some op =>
    skip
    return .unary pos op (← nested .factor)
  | none => power nested

def leftward (op? : Token.Kind → Option BinaryOp) (operand : Parser Expr) : Parser Expr := do
  let pos ← here
  iterate (fun left => do
    match op? (← peek) with
    | some op =>
      skip
      if op = .matMul then since 5
      return some (.binary pos op left (← operand))
    | none => pure none) (← operand)

def termOp? : Token.Kind → Option BinaryOp
  | .sign "*" => some .mul
  | .sign "/" => some .div
  | .sign "//" => some .floorDiv
  | .sign "%" => some .mod
  | .sign "@" => some .matMul
  | _ => none

def sumOp? : Token.Kind → Option BinaryOp
  | .sign "+" => some .add
  | .sign "-" => some .sub
  | _ => none

def shiftOp? : Token.Kind → Option BinaryOp
  | .sign "<<" => some .leftShift
  | .sign ">>" => some .rightShift
  | _ => none

def signOp? (text : String) (op : BinaryOp) (kind : Token.Kind) : Option BinaryOp :=
  if kind = .sign text then some op else none

def bitwiseOr : Parser Expr :=
  let sum := leftward sumOp? (leftward termOp? (factor nested))
  let bitAnd := leftward (signOp? "&" .bitAnd) (leftward shiftOp? sum)
  leftward (signOp? "|" .bitOr) (leftward (signOp? "^" .bitXor) bitAnd)

def comparisonOp : Parser (Option CompareOp) := do
  match ← peek, ← peekSecond with
  | .keyword "not", .keyword "in" =>
    skip
    skip
    pure (some .notIn)
  | .keyword "is", .keyword "not" =>
    skip
    skip
    pure (some .isNot)
  | .keyword "is", _ =>
    skip
    pure (some .is)
  | .keyword "in", _ =>
    skip
    pure (some .isIn)
  | .sign text, _ =>
    match ([("==", .eq), ("!=", .notEq), ("<", .less), ("<=", .lessEq), (">", .greater),
        (">=", .greaterEq)] : List (String × CompareOp)).lookup text with
    | some op =>
      skip
      pure (some op)
    | none => pure none
  | _, _ => pure none

def comparison : Parser Expr := do
  let pos ← here
  let first ← bitwiseOr nested
  let rest ← collect do
    match ← comparisonOp with
    | some op => return some (.mk op (← bitwiseOr nested))
    | none => pure none
  pure (if rest.isEmpty then first else .compare pos first rest)

def inversion : Parser Expr := do
  let pos ← here
  if ← acceptKeyword "not" then
    return .unary pos .not (← nested .inversion)
  else comparison nested

def joined (word : String) (op : BoolOp) (operand : Parser Expr) : Parser Expr := do
  let pos ← here
  let first ← operand
  let rest ← collect do
    if ← acceptKeyword word then return some (← operand) else pure none
  pure (if rest.isEmpty then first else .boolean pos op (first :: rest))

def disjunction : Parser Expr := joined "or" .or (joined "and" .and (inversion nested))

def lambdaExpr : Parser Expr := do
  let pos ← here
  keyword "lambda"
  let parameters ← parameters nested false ":"
  sign ":"
  return .lambda pos parameters (← nested .expression)

def expression : Parser Expr := do
  if ← atKeyword "lambda" then lambdaExpr nested
  else
    let pos ← here
    let body ← disjunction nested
    if ← acceptKeyword "if" then
      let test ← nested .disjunction
      keyword "else"
      return .conditional pos test body (← nested .expression)
    else pure body

def named : Parser Expr := do
  let pos ← here
  match ← peek, ← peekSecond with
  | .name id, .sign ":=" =>
    skip
    skip
    let value ← nested .expression
    since 8
    pure (.named pos (.name pos id) value)
  | _, _ => expression nested

def atGroupEnd : Parser Bool := do
  match ← peek with
  | .newline | .finish | .sign ")" | .sign "]" | .sign "\x7d" | .sign "=" | .sign ";"
  | .sign ":" => pure true
  | .keyword "in" => pure true
  | _ => pure false

def group : Parser Expr := do
  let pos ← here
  let item := maybeStarred nested (nested .expression)
  let first ← item
  let (rest, trailing) ← commaItems item atGroupEnd
  pure (if rest.isEmpty && !trailing then first else .tuple pos (first :: rest))

end

/-- The parser of a rule, for nestings up to the given depth. -/
def rule : Nat → Rule → Parser Expr
  | 0, _ => refuse
  | depth + 1, .group => group (rule depth)
  | depth + 1, .named => named (rule depth)
  | depth + 1, .expression => expression (rule depth)
  | depth + 1, .disjunction => disjunction (rule depth)
  | depth + 1, .inversion => inversion (rule depth)
  | depth + 1, .bitwiseOr => bitwiseOr (rule depth)
  | depth + 1, .factor => factor (rule depth)

end HintSchema.Parser

import HintSchema.Syntax.Parser.Expression
import HintSchema.Syntax.Statement

/-!
The grammar of case patterns.
-/

namespace HintSchema.Parser

section

variable (nested : Rule → Parser Expr) (inner : Parser Pattern)

def isImaginary : Literal → Bool
  | .imaginary _ => true
  | _ => false

def numberToken : Parser Literal := do
  match ← peek with
  | .number value =>
    skip
    pure value
  | _ => mismatch

def partSign? : Token.Kind → Option BinaryOp
  | .sign "+" => some .add
  | .sign "-" => some .sub
  | _ => none

/-- A number with an optional minus, or a real and an imaginary one joined by a sign. -/
def numberPattern : Parser Expr := do
  let pos ← here
  let negative ← acceptSign "-"
  let place ← here
  let first ← numberToken
  let number := Expr.literal place first
  let signed := if negative then .unary pos .minus number else number
  match partSign? (← peek) with
  | some op =>
    skip
    let after ← here
    let second ← numberToken
    if isImaginary first || !isImaginary second then refuse
    else pure (.binary pos op signed (.literal after second))
  | none => pure signed

/-- A name that captures: not the wildcard, and nothing follows that makes it part of more. -/
def captureTarget : Parser String := do
  let id ← name
  if id = "_" then mismatch
  else
    match ← peek with
    | .sign "." | .sign "(" | .sign "=" => mismatch
    | _ => pure id

def dottedName : Parser Expr := do
  let pos ← here
  let first ← name
  let rest ← collect do
    if ← acceptSign "." then return some (← name) else pure none
  pure (rest.foldl (.member pos) (.name pos first))

def isName : Expr → Bool
  | .name _ _ => true
  | _ => false

def literalPattern : Parser Expr := do
  let pos ← here
  match ← peek with
  | .number _ | .sign "-" => numberPattern
  | .string _ => strings nested
  | .keyword "None" =>
    skip
    pure (.literal pos .none)
  | .keyword "True" =>
    skip
    pure (.literal pos .true)
  | .keyword "False" =>
    skip
    pure (.literal pos .false)
  | _ => mismatch

def maybeStarPattern : Parser Pattern := do
  if ← acceptSign "*" then
    if (← peek) = .name "_" then
      skip
      pure (.star none)
    else return .star (some (← captureTarget))
  else inner

def isStarPattern : Pattern → Bool
  | .star _ => true
  | _ => false

def keyPattern : Parser Expr := do
  match ← peek with
  | .name _ =>
    let key ← dottedName
    if isName key then mismatch else pure key
  | _ => literalPattern nested

/-- What has been read of a mapping or of the arguments of a class, the last first. -/
structure PatternState where
  entries : List PatternEntry := []
  rest : Option String := none
  items : List Pattern := []
  fields : List PatternField := []
  closed : Bool := false

def afterItem (closer : String) (state : PatternState) : Parser (Option PatternState) := do
  if ← acceptSign "," then pure (some state)
  else
    sign closer
    pure (some { state with closed := true })

def mappingPattern : Parser Pattern := do
  let state ← iterate (fun state : PatternState => do
    if state.closed then pure none
    else if ← acceptSign "\x7d" then pure (some { state with closed := true })
    else if state.rest.isSome then mismatch
    else if ← acceptSign "**" then
      let rest ← captureTarget
      afterItem "\x7d" { state with rest := some rest }
    else
      let key ← keyPattern nested
      sign ":"
      let value ← inner
      afterItem "\x7d" { state with entries := .mk key value :: state.entries }) {}
  pure (.mapping state.entries.reverse state.rest)

def classPattern (callee : Expr) : Parser Pattern := do
  let state ← iterate (fun state : PatternState => do
    if state.closed then pure none
    else if ← acceptSign ")" then pure (some { state with closed := true })
    else
      match ← peek, ← peekSecond with
      | .name id, .sign "=" =>
        skip
        skip
        let value ← inner
        afterItem ")" { state with fields := .mk id value :: state.fields }
      | _, _ =>
        if !state.fields.isEmpty then mismatch
        else
          let item ← inner
          afterItem ")" { state with items := item :: state.items }) {}
  pure (.record callee state.items.reverse state.fields.reverse)

/-- Items up to a closing sign, which is read too, and whether they are one without a comma. -/
def sequenceItems (closer : String) : Parser (List Pattern × Bool) := do
  if ← acceptSign closer then pure ([], false)
  else
    let first ← maybeStarPattern inner
    let (rest, trailing) ← commaItems (maybeStarPattern inner) (atSign closer)
    sign closer
    pure (first :: rest, rest.isEmpty && !trailing)

def namePattern : Parser Pattern := do
  if (← peek) = .name "_" then
    skip
    pure (.capture none)
  else
    match ← peekSecond with
    | .sign "." | .sign "(" =>
      let path ← dottedName
      if ← acceptSign "(" then classPattern inner path
      else if isName path ∨ (← atSign "=") then mismatch
      else pure (.value path)
    | _ => return .capture (some (← captureTarget))

def closedPattern : Parser Pattern := do
  match ← peek with
  | .name _ => namePattern inner
  | .sign "(" =>
    skip
    match ← sequenceItems inner ")" with
    | ([item], true) => if isStarPattern item then mismatch else pure item
    | (items, _) => pure (.sequence items)
  | .sign "[" =>
    skip
    let (items, _) ← sequenceItems inner "]"
    pure (.sequence items)
  | .sign "\x7b" =>
    skip
    mappingPattern nested inner
  | _ => return .value (← literalPattern nested)

def pattern : Parser Pattern := do
  let first ← closedPattern nested inner
  let rest ← collect do
    if ← acceptSign "|" then return some (← closedPattern nested inner) else pure none
  let whole := if rest.isEmpty then first else .either (first :: rest)
  if ← acceptKeyword "as" then return .bind whole (← captureTarget) else pure whole

end

def patternRule (nested : Rule → Parser Expr) : Nat → Parser Pattern
  | 0 => refuse
  | depth + 1 => pattern nested (patternRule nested depth)

/-- The pattern of a case, one pattern or several without brackets, and its guard. -/
def casePattern (nested : Rule → Parser Expr) (inner : Parser Pattern) : Parser ArmHead := do
  let first ← maybeStarPattern inner
  let (rest, trailing) ← commaItems (maybeStarPattern inner) do
    match ← peek with
    | .sign ":" | .keyword "if" => pure true
    | _ => pure false
  let single := rest.isEmpty && !trailing
  if single && isStarPattern first then mismatch
  let whole := if single then first else .sequence (first :: rest)
  let guard ← if ← acceptKeyword "if" then some <$> nested .named else pure none
  pure (.case whole guard)

end HintSchema.Parser

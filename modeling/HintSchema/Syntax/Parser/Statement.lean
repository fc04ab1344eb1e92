import HintSchema.Syntax.Parser.Pattern
import HintSchema.Syntax.Statement

/-!
The grammar of statements, and the two things that are read whole: a module, and an expression that
stands alone.
-/

namespace HintSchema.Parser

section

variable (nested : Rule → Parser Expr) (inner : Parser (List Statement))

/-! ### Statements on one line -/

def value : Parser Expr := do
  if ← atKeyword "yield" then yieldExpr nested else nested .group

def atLineEnd : Parser Bool := do
  match ← peek with
  | .newline | .finish | .sign ";" => pure true
  | _ => pure false

def augmentSigns : List (String × BinaryOp) :=
  [("+=", .add), ("-=", .sub), ("*=", .mul), ("@=", .matMul), ("/=", .div), ("%=", .mod),
    ("&=", .bitAnd), ("|=", .bitOr), ("^=", .bitXor), ("<<=", .leftShift), (">>=", .rightShift),
    ("**=", .pow), ("//=", .floorDiv)]

def augmentOp? : Token.Kind → Option BinaryOp
  | .sign text => augmentSigns.lookup text
  | _ => none

def assignment (first : Expr) : Parser Statement := do
  let (targets, last) ← iterate (fun (targets, last) => do
    if ← acceptSign "=" then
      if isStarTarget last then return some (last :: targets, ← value nested) else mismatch
    else pure none) (([], first) : List Expr × Expr)
  pure (.assign targets.reverse last)

def declaration (target : Expr) (bracketed : Bool) : Parser Statement := do
  sign ":"
  let hint ← nested .expression
  since 6
  let initial ← if ← acceptSign "=" then some <$> value nested else pure none
  if isSingleTarget target then
    pure (.declare target hint initial !(bracketed && isName target))
  else mismatch

def expressionStatement : Parser Statement := do
  let bracketed ← atSign "("
  let first ← nested .group
  match ← peek with
  | .sign ":" => declaration nested first bracketed
  | .sign "=" => assignment nested first
  | kind =>
    match augmentOp? kind with
    | some op =>
      if isSingleTarget first then
        skip
        if op = .matMul then since 5
        return .augment first op (← value nested)
      else mismatch
    | none => pure (.expression first)

def moduleName : Parser String := do
  let first ← name
  let rest ← collect do
    if ← acceptSign "." then return some (← name) else pure none
  pure (".".intercalate (first :: rest))

def alias? : Parser (Option String) := do
  if ← acceptKeyword "as" then some <$> name else pure none

def importedName : Parser ImportAlias := do
  let id ← name
  return ⟨id, ← alias?⟩

def importStatement : Parser Statement := do
  keyword "import"
  return .importModules (← separated do
    let module ← moduleName
    return ⟨module, ← alias?⟩)

def importTargets : Parser (List ImportAlias) := do
  if ← acceptSign "*" then pure [⟨"*", none⟩]
  else if ← acceptSign "(" then
    let first ← importedName
    let (rest, _) ← commaItems importedName (atSign ")")
    sign ")"
    pure (first :: rest)
  else separated importedName

def fromStatement : Parser Statement := do
  let pos ← here
  keyword "from"
  let dots ← collect do
    if ← acceptSign "." then pure (some 1)
    else if ← acceptSign "..." then pure (some 3)
    else pure none
  let level := dots.foldl (· + ·) 0
  let module ← if level ≠ 0 ∧ (← atKeyword "import") then pure none else some <$> moduleName
  keyword "import"
  return .importFrom pos module level (← importTargets)

def deleteStatement : Parser Statement := do
  keyword "del"
  let first ← nested .bitwiseOr
  let (rest, _) ← commaItems (nested .bitwiseOr) atLineEnd
  if areDeletable (first :: rest) && (← atLineEnd) then pure (.simple (.delete (first :: rest)))
  else mismatch

def raiseStatement : Parser Statement := do
  keyword "raise"
  if ← atLineEnd then pure (.simple (.raises none))
  else
    let raised ← nested .expression
    let cause ← if ← acceptKeyword "from" then some <$> nested .expression else pure none
    pure (.simple (.raises (some (raised, cause))))

def assertStatement : Parser Statement := do
  keyword "assert"
  let condition ← nested .expression
  let message ← if ← acceptSign "," then some <$> nested .expression else pure none
  pure (.simple (.assert condition message))

def simpleStatement : Parser Statement := do
  match ← peek with
  | .keyword "pass" =>
    skip
    pure (.simple .pass)
  | .keyword "break" =>
    skip
    pure (.simple .breakLoop)
  | .keyword "continue" =>
    skip
    pure (.simple .continueLoop)
  | .keyword "return" =>
    skip
    if ← atLineEnd then pure (.simple (.returns none))
    else return .simple (.returns (some (← nested .group)))
  | .keyword "global" =>
    skip
    return .simple (.globals (← separated name))
  | .keyword "nonlocal" =>
    skip
    return .simple (.nonlocals (← separated name))
  | .keyword "raise" => raiseStatement nested
  | .keyword "del" => deleteStatement nested
  | .keyword "assert" => assertStatement nested
  | .keyword "import" => importStatement
  | .keyword "from" => fromStatement
  | .keyword "yield" => .expression <$> yieldExpr nested
  | _ => expressionStatement nested

def simpleLine : Parser (List Statement) := do
  let first ← simpleStatement nested
  let (rest, _) ← iterate (fun (found, closed) => do
    if closed then pure none
    else if ← acceptSign ";" then
      if (← peek) = .newline then pure (some (found, true))
      else return some ((← simpleStatement nested) :: found, false)
    else pure none) (([], false) : List Statement × Bool)
  expect .newline
  pure (first :: rest.reverse)

/-! ### Statements with blocks -/

/-- What follows a colon: an indented block, or statements on the same line. -/
def block : Parser (List Statement) := do
  sign ":"
  if ← accept .newline then
    expect .indent
    let body ← inner
    expect .dedent
    pure body
  else simpleLine nested

def elseBlock : Parser (List Statement) := do
  if ← acceptKeyword "else" then block nested inner else pure []

/-- The tests and blocks of `elif`, the last first, and the block of `else`. -/
def branches : Parser Statement := do
  keyword "if"
  let test ← nested .named
  let body ← block nested inner
  let others ← collect do
    if ← acceptKeyword "elif" then
      let test ← nested .named
      return some (test, ← block nested inner)
    else pure none
  let last ← elseBlock nested inner
  pure (.branch test body (others.foldr (fun (test, body) rest => [.branch test body rest]) last))

def whileStatement : Parser Statement := do
  keyword "while"
  let test ← nested .named
  let body ← block nested inner
  return .loop (.test test) body (← elseBlock nested inner)

def forStatement (isAsync : Bool) : Parser Statement := do
  keyword "for"
  let target ← loopTargets nested
  keyword "in"
  let source ← nested .group
  let body ← block nested inner
  return .loop (.each isAsync target source) body (← elseBlock nested inner)

def withItem : Parser WithItem := do
  let context ← nested .expression
  if ← acceptKeyword "as" then
    let target ← maybeStarred nested (nested .bitwiseOr)
    if isStarTarget target then pure ⟨context, some target⟩ else mismatch
  else pure ⟨context, none⟩

def parenthesizedItems (isAsync : Bool) : Parser (List WithItem) := do
  sign "("
  let first ← withItem nested
  let (rest, _) ← commaItems (withItem nested) (atSign ")")
  sign ")"
  if !(← atSign ":") then mismatch
  if !isAsync then since 9
  pure (first :: rest)

def withStatement (isAsync : Bool) : Parser Statement := do
  keyword "with"
  let items ← either (parenthesizedItems nested isAsync) (separated (withItem nested))
  return .within isAsync items (← block nested inner)

/-- What the handler takes, by itself or out of a group, and the name for it. -/
def caught : Parser ArmHead := do
  let caught ← nested .expression
  return .handler (some caught) (← alias?)

def handler : Parser (Option (Bool × Arm Statement)) := do
  if ← acceptKeyword "except" then
    let isGroup ← acceptSign "*"
    let head ← if isGroup || !(← atSign ":") then caught nested else pure (.handler none none)
    return some (isGroup, ⟨head, ← block nested inner⟩)
  else pure none

def tryStatement : Parser Statement := do
  keyword "try"
  let body ← block nested inner
  let handlers ← collect (handler nested inner)
  let orelse ← if handlers.isEmpty then pure [] else elseBlock nested inner
  let cleanup ← if ← acceptKeyword "finally" then some <$> block nested inner else pure none
  if handlers.isEmpty && cleanup.isNone then mismatch
  let arms := handlers.map (·.2)
  if handlers.all fun h => !h.1 then pure (.attempt false body arms orelse (cleanup.getD []))
  else if handlers.all (·.1) then
    since 11
    pure (.attempt true body arms orelse (cleanup.getD []))
  else mismatch

def classStatement (decorators : List Expr) : Parser Statement := do
  let pos ← here
  keyword "class"
  let id ← name
  let (bases, keywords) ← if ← acceptSign "(" then arguments nested none else pure ([], [])
  let body ← block nested inner
  pure (.classDef ⟨pos, id, bases, keywords, decorators, body⟩)

def functionStatement (isAsync : Bool) (decorators : List Expr) : Parser Statement := do
  keyword "def"
  let id ← name
  sign "("
  let parameters ← parameters nested true ")"
  sign ")"
  let returns ← if ← acceptSign "->" then some <$> nested .expression else pure none
  let body ← block nested inner
  pure (.functionDef ⟨isAsync, id, parameters, returns, decorators, body⟩)

def decorated : Parser Statement := do
  let decorators ← collect do
    if ← acceptSign "@" then
      let decorator ← nested .named
      expect .newline
      pure (some decorator)
    else pure none
  match ← peek with
  | .keyword "class" => classStatement nested inner decorators
  | .keyword "async" =>
    skip
    let statement ← functionStatement nested inner true decorators
    since 5
    pure statement
  | _ => functionStatement nested inner false decorators

def asyncStatement : Parser Statement := do
  keyword "async"
  let statement ← match ← peek with
    | .keyword "def" => functionStatement nested inner true []
    | .keyword "with" => withStatement nested inner true
    | .keyword "for" => forStatement nested inner true
    | _ => mismatch
  since 5
  pure statement

/-! ### Matching -/

/-- The subject, up to the first case; until there the line may as well be something else. -/
def matchHeader : Parser Expr := do
  expect (.name "match")
  let pos ← here
  let first ← starNamed nested
  let (rest, trailing) ← commaItems (starNamed nested) (atSign ":")
  let single := rest.isEmpty && !trailing
  if isStarred first && single then mismatch
  sign ":"
  expect .newline
  expect .indent
  if (← peek) ≠ .name "case" then mismatch
  pure (if single then first else .tuple pos (first :: rest))

def caseBlock : Parser (Option (Arm Statement)) := do
  if (← peek) = .name "case" then
    skip
    let head ← casePattern nested (patternRule nested (← read).limit)
    return some ⟨head, ← block nested inner⟩
  else pure none

def cases (subject : Expr) : Parser Statement := do
  let arms ← collect (caseBlock nested inner)
  expect .dedent
  since 10
  pure (.choice subject arms)

def statement : Parser (List Statement) := do
  match ← peek with
  | .keyword "if" => one (branches nested inner)
  | .keyword "while" => one (whileStatement nested inner)
  | .keyword "for" => one (forStatement nested inner false)
  | .keyword "with" => one (withStatement nested inner false)
  | .keyword "try" => one (tryStatement nested inner)
  | .keyword "class" => one (classStatement nested inner [])
  | .keyword "def" => one (functionStatement nested inner false [])
  | .keyword "async" => one (asyncStatement nested inner)
  | .sign "@" => one (decorated nested inner)
  | .name "match" =>
    match ← either (some <$> matchHeader nested) (pure none) with
    | some subject => one (cases nested inner subject)
    | none => simpleLine nested
  | _ => simpleLine nested
where
  one (p : Parser Statement) : Parser (List Statement) := do
    return [← p]

def statements : Parser (List Statement) := do
  let found ← collect do
    match ← peek with
    | .dedent | .finish => pure none
    | _ => some <$> statement nested inner
  pure found.flatten

end

def blockRule (nested : Rule → Parser Expr) : Nat → Parser (List Statement)
  | 0 => refuse
  | depth + 1 => statements nested (blockRule nested depth)

def bound (chars : List Char) : Nat := 2 * chars.length + 16

def run {α : Type} (p : Parser α) (dialect : Lexer.Dialect) (limit : Nat) (tokens : List Token) :
    Option α :=
  match (do let result ← p; expect .finish; pure result : Parser α) ⟨dialect, limit⟩ tokens with
  | .ok (result, _) => some result
  | .error _ => none

def currentDialect : Lexer.Dialect := 11

def module? (dialect : Lexer.Dialect) (chars : List Char) : Option (List Statement) := do
  let tokens ← Lexer.tokens? dialect true chars
  let limit := bound chars
  run (blockRule (rule limit) limit) dialect limit tokens

def expression? (chars : List Char) : Option Expr := do
  let tokens ← Lexer.tokens? currentDialect false chars
  let limit := bound chars
  run (do
    let pos ← here
    let first ← rule limit .expression
    let (rest, trailing) ← commaItems (rule limit .expression) atGroupEnd
    let _ ← collect do
      if ← accept .newline then pure (some ()) else pure none
    pure (if rest.isEmpty && !trailing then first else .tuple pos (first :: rest)))
    currentDialect limit tokens

end HintSchema.Parser

import HintSchema.Syntax.Number
import HintSchema.Text.Normalization

/-!
From characters to tokens. Lines that hold no token are skipped, indentation becomes `indent` and
`dedent`, and line ends inside brackets are white space. `none` stands for a text that has no
tokens: every such text is malformed.
-/

namespace HintSchema.Lexer

open HintSchema.Text (isIdentifier normalize isAscii)

/-- The minor version of the language that is read. -/
abbrev Dialect := Nat

/-- Columns within a line's indentation: with tabs to the next multiple of eight, and with tabs as
single columns. Both must agree on how lines compare. -/
structure Indent where
  column : Nat
  alternate : Nat
  deriving DecidableEq, Repr

structure State where
  pos : Position := ⟨1, 0⟩
  atLineStart : Bool := true
  indents : List Indent := []
  brackets : List String := []

def advance (pos : Position) (chars : List Char) : Position :=
  chars.foldl (fun p c => if c = '\n' then ⟨p.line + 1, 0⟩ else ⟨p.line, p.column + c.utf8Size⟩) pos

def bracketLimit : Nat := 200

def indentLimit : Nat := 100

def normalizeLines : List Char → List Char
  | [] => []
  | '\r' :: '\n' :: rest => '\n' :: normalizeLines rest
  | c :: rest => (if c = '\r' then '\n' else c) :: normalizeLines rest

/-! ### Words -/

def isWordStart (c : Char) : Bool := c.isAlpha || c == '_' || 128 ≤ c.toNat

def stringMarks : List String := ["", "b", "r", "u", "f", "br", "rb", "fr", "rf"]

def wordToken (word : List Char) : Option Token.Kind :=
  let text := String.ofList word
  if Token.keywords.contains text then some (.keyword text)
  else if word.all isAscii then some (.name text)
  else if isIdentifier word then some (.name (.ofList (normalize word)))
  else none

/-! ### Strings -/

/-- The body of a string closed by one quote on its own line, and what follows. -/
def shortBody (quote : Char) : List Char → Option (List Char × List Char)
  | [] => none
  | '\\' :: c :: rest => (shortBody quote rest).map fun (body, tail) => ('\\' :: c :: body, tail)
  | c :: rest =>
    if c = quote then some ([], rest)
    else if c = '\n' then none
    else (shortBody quote rest).map fun (body, tail) => (c :: body, tail)

def longBody (quote : Char) : List Char → Option (List Char × List Char)
  | [] => none
  | '\\' :: c :: rest => (longBody quote rest).map fun (body, tail) => ('\\' :: c :: body, tail)
  | c :: rest =>
    match rest with
    | d :: e :: tail =>
      if c = quote ∧ d = quote ∧ e = quote then some ([], tail)
      else (longBody quote (d :: e :: tail)).map fun (body, tail) => (c :: body, tail)
    | _ => none

def isQuote (c : Char) : Bool := c == '\x27' || c == '\x22'

/-- Reads a string whose opening quote is at the head: its body, its whole text, and what follows.
-/
def stringBody (chars : List Char) : Option (List Char × List Char × List Char) :=
  match chars with
  | q :: rest =>
    match rest with
    | d :: e :: after =>
      if q = d ∧ q = e then
        (longBody q after).map fun (body, tail) => (body, q :: q :: q :: body ++ [q, q, q], tail)
      else if q = d then some ([], [q, q], e :: after)
      else (shortBody q rest).map fun (body, tail) => (body, q :: body ++ [q], tail)
    | [d] => if q = d then some ([], [q, q], []) else none
    | [] => none
  | [] => none

def stringToken (mark body : List Char) : StringToken where
  raw := mark.any fun c => c.toLower == 'r'
  bytes := mark.any fun c => c.toLower == 'b'
  interpolated := mark.any fun c => c.toLower == 'f'
  marked := mark == ['u']
  body := body

/-! ### Indentation -/

/-- Where the first token of a line stands. A line continued by a backslash keeps the column of its
first backslash, unless that is zero. -/
structure Margin where
  indent : Indent := ⟨0, 0⟩
  continued : Nat := 0

/-- Reads the white space at the start of a line: the margin, the characters read, and what follows.
A backslash has to be followed by a line end and by something after it. -/
def readMargin (margin : Margin) (read : List Char) : List Char →
    Option (Margin × List Char × List Char)
  | ' ' :: rest =>
    readMargin { margin with indent := ⟨margin.indent.column + 1, margin.indent.alternate + 1⟩ }
      (' ' :: read) rest
  | '\t' :: rest =>
    readMargin { margin with
      indent := ⟨(margin.indent.column / 8 + 1) * 8, margin.indent.alternate + 1⟩ }
      ('\t' :: read) rest
  | '\x0c' :: rest => readMargin { margin with indent := ⟨0, 0⟩ } ('\x0c' :: read) rest
  | '\\' :: '\n' :: c :: rest =>
    readMargin { margin with
      continued := if margin.continued = 0 then margin.indent.column else margin.continued }
      ('\n' :: '\\' :: read) (c :: rest)
  | '\\' :: _ => none
  | rest => some (margin, read.reverse, rest)

def Margin.settled (margin : Margin) : Indent :=
  if margin.continued = 0 then margin.indent else ⟨margin.continued, margin.continued⟩

/-- Compares a line's indentation with the open ones: the tokens it makes and the open ones after.
-/
def settleIndent (indent : Indent) (openIndents : List Indent) :
    Option (List Token.Kind × List Indent) :=
  let top := openIndents.headD ⟨0, 0⟩
  if indent.column = top.column then
    if indent.alternate = top.alternate then some ([], openIndents) else none
  else if top.column < indent.column then
    if openIndents.length + 1 < indentLimit ∧ top.alternate < indent.alternate then
      some ([.indent], indent :: openIndents)
    else none
  else
    let kept := openIndents.dropWhile fun i => indent.column < i.column
    if kept.headD ⟨0, 0⟩ = indent then
      some (List.replicate (openIndents.length - kept.length) .dedent, kept)
    else none

/-! ### The scan -/

/-- One token or a piece of white space: the kinds it yields, the state after it, and the rest. -/
structure Step where
  kinds : List Token.Kind
  pos : Position
  state : State
  rest : List Char

def skipComment (chars : List Char) : List Char × List Char := chars.span (· != '\n')

def lineStartStep (state : State) (chars : List Char) : Option Step := do
  let (margin, read, rest) ← readMargin {} [] chars
  let pos := advance state.pos read
  match rest with
  | '#' :: _ =>
    let (comment, after) := skipComment rest
    match after with
    | _ :: after => some ⟨[], pos, { state with pos := ⟨pos.line + 1, 0⟩ }, after⟩
    | [] =>
      some ⟨[], pos, { state with pos := advance pos comment, atLineStart := false }, []⟩
  | '\n' :: after => some ⟨[], pos, { state with pos := ⟨pos.line + 1, 0⟩ }, after⟩
  | _ =>
    if !state.brackets.isEmpty then
      some ⟨[], pos, { state with pos := pos, atLineStart := false }, rest⟩
    else
      let (kinds, indents) ← settleIndent margin.settled state.indents
      some ⟨kinds, pos, { state with pos := pos, atLineStart := false, indents := indents }, rest⟩

def signStep (state : State) (chars : List Char) : Option Step := do
  let sign ← Token.signs.find? fun s => s.toList.isPrefixOf chars
  let rest := chars.drop sign.length
  let after := { state with pos := advance state.pos sign.toList }
  match Token.closerOf sign with
  | some closer =>
    if bracketLimit ≤ state.brackets.length then none
    else some ⟨[.sign sign], state.pos, { after with brackets := closer :: state.brackets }, rest⟩
  | none =>
    if Token.isCloser sign then
      match state.brackets with
      | closer :: outer =>
        if closer = sign then some ⟨[.sign sign], state.pos, { after with brackets := outer }, rest⟩
        else none
      | [] => none
    else some ⟨[.sign sign], state.pos, after, rest⟩

def wordStep (dialect : Dialect) (state : State) (chars : List Char) : Option Step := do
  let (word, rest) := chars.span Number.isWordLike
  match rest with
  | c :: _ =>
    if isQuote c && stringMarks.contains (String.ofList word).toLower then
      let (body, written, tail) ← stringBody rest
      let token := stringToken word body
      if token.interpolated && dialect < 6 then none
      else some ⟨[.string token], state.pos,
        { state with pos := advance (advance state.pos word) written }, tail⟩
    else plain word rest
  | [] => plain word rest
where
  plain (word rest : List Char) : Option Step := do
    let kind ← wordToken word
    some ⟨[kind], state.pos, { state with pos := advance state.pos word }, rest⟩

def numberStep (dialect : Dialect) (state : State) (chars : List Char) : Option Step := do
  let (value, rest) ← Number.scan chars
  let written := chars.take (chars.length - rest.length)
  if dialect < 6 ∧ '_' ∈ written then none
  else some ⟨[.number value], state.pos, { state with pos := advance state.pos written }, rest⟩

def isNumberStart : List Char → Bool
  | '.' :: c :: _ => c.isDigit
  | c :: _ => c.isDigit
  | [] => false

def step (dialect : Dialect) (state : State) (chars : List Char) : Option Step :=
  if state.atLineStart then lineStartStep state chars
  else
    match chars with
    | [] => none
    | c :: rest =>
      let after := { state with pos := advance state.pos [c] }
      if c = ' ' ∨ c = '\t' ∨ c = '\x0c' then some ⟨[], state.pos, after, rest⟩
      else if c = '#' then
        let (comment, tail) := skipComment chars
        some ⟨[], state.pos, { state with pos := advance state.pos comment }, tail⟩
      else if c = '\n' then
        some ⟨if state.brackets.isEmpty then [.newline] else [], state.pos,
          { after with atLineStart := true }, rest⟩
      else if c = '\\' then
        match rest with
        | '\n' :: d :: tail =>
          some ⟨[], state.pos, { state with pos := advance state.pos ['\\', '\n'] }, d :: tail⟩
        | _ => none
      else if isNumberStart chars then numberStep dialect state chars
      else if isQuote c || isWordStart c then wordStep dialect state chars
      else signStep state chars

/-- Reads all tokens into `found`, the last one first. Each step reads a character or settles the
start of a line. -/
def scan (dialect : Dialect) : Nat → State → List Char → List Token → Option (List Token)
  | 0, _, _, _ => none
  | fuel + 1, state, chars, found =>
    if chars.isEmpty && !state.atLineStart then
      if state.brackets.isEmpty then
        some (⟨.finish, state.pos⟩ :: found).reverse
      else none
    else do
      let next ← step dialect state chars
      scan dialect fuel next.state next.rest
        (next.kinds.foldl (fun tokens kind => ⟨kind, next.pos⟩ :: tokens) found)

/-! ### Words that became keywords late -/

/-- Up to version 3.6 `async` is a keyword before `def`, and `async` and `await` are keywords inside
such a function, whose extent is told from the indentation. -/
structure AsyncScope where
  level : Nat := 0
  depth : Nat := 0
  opened : Option Nat := none
  pastHeader : Bool := false

def AsyncScope.settle (scope : AsyncScope) : AsyncScope :=
  match scope.opened with
  | some level =>
    if scope.depth = 0 ∧ scope.pastHeader ∧ scope.level ≤ level then
      { scope with opened := none, pastHeader := false }
    else scope
  | none => scope

def releaseAsync (scope : AsyncScope) : List Token → List Token
  | [] => []
  | token :: rest =>
    match token.kind with
    | .indent => token :: releaseAsync { scope with level := scope.level + 1 } rest
    | .dedent => token :: releaseAsync { scope with level := scope.level - 1 } rest
    | .newline =>
      let pastHeader := scope.pastHeader || scope.opened.isSome
      token :: releaseAsync { scope with pastHeader } rest
    | .keyword word =>
      let scope := scope.settle
      if word = "async" then
        if scope.opened.isSome then token :: releaseAsync scope rest
        else if (rest.head?.map (·.kind)) == some (.keyword "def") then
          token :: releaseAsync { scope with opened := some scope.level } rest
        else { token with kind := .name word } :: releaseAsync scope rest
      else if word = "await" ∧ scope.opened.isNone then
        { token with kind := .name word } :: releaseAsync scope rest
      else token :: releaseAsync scope rest
    | .sign sign =>
      let scope := scope.settle
      let depth := if (Token.closerOf sign).isSome then scope.depth + 1
        else if Token.isCloser sign then scope.depth - 1 else scope.depth
      token :: releaseAsync { scope with depth := depth } rest
    | _ => token :: releaseAsync scope.settle rest

/-- The tokens of a text. A module's last line is closed even if the text does not close it. -/
def tokens? (dialect : Dialect) (isModule : Bool) (chars : List Char) : Option (List Token) := do
  let chars := normalizeLines chars
  let chars := if isModule && chars.getLast? != some '\n' then chars ++ ['\n'] else chars
  let tokens ← scan dialect (2 * chars.length + 2) {} chars []
  some (if dialect < 7 then releaseAsync {} tokens else tokens)

end HintSchema.Lexer

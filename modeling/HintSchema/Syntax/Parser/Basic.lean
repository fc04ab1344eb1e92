import HintSchema.Syntax.Lexer

/-!
Parsers over tokens. A mismatch lets an alternative try; a refusal does not.
-/

namespace HintSchema

inductive Parser.Failure where
  | mismatch
  | refused
  deriving DecidableEq, Repr

/-- What is read, and a bound on how often anything repeats in it. -/
structure Parser.Setting where
  dialect : Lexer.Dialect
  limit : Nat

abbrev Parser := ReaderT Parser.Setting (StateT (List Token) (Except Parser.Failure))

namespace Parser

variable {α β : Type}

def mismatch : Parser α := throw .mismatch

def refuse : Parser α := throw .refused

/-- The second parser runs from the same place if the first one does not match. -/
def either (first second : Parser α) : Parser α := fun setting tokens =>
  match first setting tokens with
  | .error .mismatch => second setting tokens
  | result => result

def optional (p : Parser α) : Parser (Option α) := either (some <$> p) (pure none)

def since (minor : Nat) : Parser Unit := do
  if (← read).dialect < minor then refuse

def peek : Parser Token.Kind := do
  match ← get with
  | token :: _ => pure token.kind
  | [] => pure .finish

def peekSecond : Parser Token.Kind := do
  match ← get with
  | _ :: token :: _ => pure token.kind
  | _ => pure .finish

def here : Parser Position := do
  match ← get with
  | token :: _ => pure token.pos
  | [] => pure ⟨1, 0⟩

def skip : Parser Unit := modify (·.drop 1)

def expect (kind : Token.Kind) : Parser Unit := do
  if (← peek) = kind then skip else mismatch

def accept (kind : Token.Kind) : Parser Bool := do
  if (← peek) = kind then
    skip
    pure true
  else pure false

def sign (text : String) : Parser Unit := expect (.sign text)

def acceptSign (text : String) : Parser Bool := accept (.sign text)

def atSign (text : String) : Parser Bool := do
  return (← peek) = .sign text

def keyword (word : String) : Parser Unit := expect (.keyword word)

def acceptKeyword (word : String) : Parser Bool := accept (.keyword word)

def atKeyword (word : String) : Parser Bool := do
  return (← peek) = .keyword word

def name : Parser String := do
  match ← peek with
  | .name id =>
    skip
    pure id
  | _ => mismatch

/-- Runs a parser on other tokens, all of which it has to read. -/
def within (tokens : List Token) (p : Parser α) : Parser α := do
  let outer ← get
  set tokens
  let result ← p
  if (← peek) = .finish then
    set outer
    pure result
  else mismatch

def iterateFrom (next : α → Parser (Option α)) : Nat → α → Parser α
  | 0, _ => refuse
  | fuel + 1, a => do
    match ← next a with
    | some b => iterateFrom next fuel b
    | none => pure a

def iterate (next : α → Parser (Option α)) (a : α) : Parser α := do
  iterateFrom next (← read).limit a

def collect (item : Parser (Option α)) : Parser (List α) := do
  let found ← iterate (fun found : List α => do
    return (← item).map (· :: found)) []
  pure found.reverse

/-- Further items, each after a comma; a last comma may stay open where `atEnd` holds after it. -/
def commaItems (item : Parser α) (atEnd : Parser Bool) : Parser (List α × Bool) := do
  let (found, trailing) ← iterate (fun (found, trailing) => do
    if trailing then pure none
    else if ← acceptSign "," then
      if ← atEnd then pure (some (found, true))
      else
        let next ← item
        pure (some (next :: found, false))
    else pure none) (([], false) : List α × Bool)
  pure (found.reverse, trailing)

def separated (item : Parser α) : Parser (List α) := do
  let first ← item
  let (rest, _) ← commaItems item (pure false)
  pure (first :: rest)

end Parser

end HintSchema

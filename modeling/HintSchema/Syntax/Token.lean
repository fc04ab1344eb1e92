import HintSchema.Syntax.Expr

/-!
Tokens, and the words and signs that are tokens of their own.
-/

namespace HintSchema

/-- A string literal before its escapes are read. -/
structure StringToken where
  raw : Bool
  bytes : Bool
  interpolated : Bool
  marked : Bool
  body : List Char
  deriving DecidableEq, Repr

namespace Token

inductive Kind where
  | name (id : String)
  | keyword (word : String)
  | number (value : Literal)
  | string (value : StringToken)
  | sign (text : String)
  | newline
  | indent
  | dedent
  | finish
  deriving DecidableEq, Repr

end Token

structure Token where
  kind : Token.Kind
  pos : Position
  deriving DecidableEq, Repr

namespace Token

def keywords : List String :=
  ["False", "None", "True", "and", "as", "assert", "async", "await", "break", "class", "continue",
    "def", "del", "elif", "else", "except", "finally", "for", "from", "global", "if", "import",
    "in", "is", "lambda", "nonlocal", "not", "or", "pass", "raise", "return", "try", "while",
    "with", "yield"]

/-- Longer signs come first. -/
def signs : List String :=
  ["**=", "//=", ">>=", "<<=", "...",
    "!=", "%=", "&=", "**", "*=", "+=", "-=", "->", "//", "/=", ":=", "<<", "<=", "==", ">=", ">>",
    "@=", "^=", "|=",
    "%", "&", "(", ")", "*", "+", ",", "-", ".", "/", ":", ";", "<", "=", ">", "@", "[", "]", "^",
    "\x7b", "|", "\x7d", "~"]

def closerOf (opener : String) : Option String :=
  if opener = "(" then some ")"
  else if opener = "[" then some "]"
  else if opener = "\x7b" then some "\x7d"
  else none

def isCloser (sign : String) : Bool := sign = ")" || sign = "]" || sign = "\x7d"

end Token

end HintSchema

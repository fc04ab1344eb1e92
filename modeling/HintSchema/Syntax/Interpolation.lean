import HintSchema.Syntax.StringLiteral

/-!
The pieces of an interpolated string: text, and replacement fields whose expressions are still
source text. A field's format spec is made of such pieces again, and may nest once more.
-/

namespace HintSchema

/-- `shown` is the text of a field that also documents itself. -/
inductive Piece where
  | text (value : CodeText)
  | field (source : List Char) (shown : Option (List Char)) (conversion : Option Char)
      (spec : Option (List Piece))

namespace Interpolation

/-- What ended a run of literal text. -/
inductive Stop where
  | doubled
  | brace
  | finish
  deriving DecidableEq

def skipName (chars : List Char) : List Char × List Char :=
  match chars with
  | '\x7b' :: rest =>
    let name := rest.takeWhile (· != '\x7d')
    ('\x7b' :: name ++ (rest.drop name.length).take 1, rest.drop (name.length + 1))
  | c :: rest => ([c], rest)
  | [] => ([], [])

/-- A brace in literal text. Doubled it stands for itself, outside of specs; alone it ends the text,
except that a closing one outside of specs is an error. -/
def atBrace (level : Nat) (c : Char) (rest : List Char) (read : List Char) :
    Option (List Char × Stop × List Char) :=
  if level = 0 then
    match rest with
    | d :: after =>
      if d = c then some ((c :: read).reverse, .doubled, after)
      else if c = '\x7d' then none
      else some (read.reverse, .brace, c :: rest)
    | [] => if c = '\x7d' then none else some (read.reverse, .brace, [c])
  else some (read.reverse, .brace, c :: rest)

def isBrace (c : Char) : Bool := c == '\x7b' || c == '\x7d'

def literal (level : Nat) (raw : Bool) : Nat → List Char → List Char →
    Option (List Char × Stop × List Char)
  | 0, read, rest => some (read.reverse, .finish, rest)
  | _ + 1, read, [] => some (read.reverse, .finish, [])
  | fuel + 1, read, c :: rest =>
    if !raw && c == '\\' then
      match rest with
      | [] => some ((c :: read).reverse, .finish, [])
      | d :: after =>
        if d = 'N' then
          let (name, after) := skipName after
          literal level raw fuel (name.reverse ++ d :: c :: read) after
        else if isBrace d then atBrace level d after (c :: read)
        else literal level raw fuel (d :: c :: read) after
    else if isBrace c then atBrace level c rest read
    else literal level raw fuel (c :: read) rest

/-- Inside the source of a field: the quote of an open string and its length, and the open brackets.
-/
structure Nesting where
  quote : Option (Char × Nat) := none
  brackets : List Char := []

def closing (c : Char) : Char :=
  if c = '(' then ')' else if c = '[' then ']' else '\x7d'

def startsTriple (q : Char) (rest : List Char) : Bool := [q, q].isPrefixOf rest

/-- Reads the source of a field up to the sign that ends it. Backslashes and comments are errors
everywhere. -/
def source : Nat → Nesting → List Char → List Char → Option (List Char × List Char)
  | 0, _, _, _ => none
  | _ + 1, _, _, [] => none
  | fuel + 1, nesting, read, c :: rest =>
    if c = '\\' then none
    else
      match nesting.quote with
      | some (q, length) =>
        if c = q ∧ length = 3 then
          if startsTriple q rest then
            source fuel { nesting with quote := none } (q :: q :: c :: read) (rest.drop 2)
          else source fuel nesting (c :: read) rest
        else if c = q then source fuel { nesting with quote := none } (c :: read) rest
        else source fuel nesting (c :: read) rest
      | none =>
        if c = '\x27' ∨ c = '\x22' then
          if startsTriple c rest then
            source fuel { nesting with quote := some (c, 3) } (c :: c :: c :: read) (rest.drop 2)
          else source fuel { nesting with quote := some (c, 1) } (c :: read) rest
        else if c = '(' ∨ c = '[' ∨ c = '\x7b' then
          if 200 ≤ nesting.brackets.length then none
          else
            source fuel { nesting with brackets := closing c :: nesting.brackets } (c :: read) rest
        else if c = '#' then none
        else if nesting.brackets.isEmpty && ['!', ':', '\x7d', '=', '>', '<'].contains c then
          if ['!', '=', '<', '>'].contains c && rest.head? == some '=' then
            source fuel nesting ('=' :: c :: read) (rest.drop 1)
          else if c = '>' ∨ c = '<' then source fuel nesting (c :: read) rest
          else some (read.reverse, c :: rest)
        else if c = ')' ∨ c = ']' ∨ c = '\x7d' then
          match nesting.brackets with
          | closer :: outer =>
            if closer = c then source fuel { nesting with brackets := outer } (c :: read) rest
            else none
          | [] => none
        else source fuel nesting (c :: read) rest

def isAsciiSpace (c : Char) : Bool := c == ' ' || (9 ≤ c.toNat && c.toNat ≤ 13)

def isSourceSpace (c : Char) : Bool :=
  c == ' ' || c == '\t' || c == '\n' || c == '\x0c' || c == '\r'

def shownText (dialect : Nat) (written rest : List Char) :
    Option (Option (List Char) × List Char) :=
  match rest with
  | '=' :: after =>
    if dialect < 8 then none
    else
      let space := after.takeWhile isAsciiSpace
      some (some (written ++ '=' :: space), after.drop space.length)
  | _ => some (none, rest)

def conversionMark (chars : List Char) : Option (Option Char × List Char) :=
  match chars with
  | '!' :: c :: rest => if c = 's' ∨ c = 'r' ∨ c = 'a' then some (some c, rest) else none
  | '!' :: [] => none
  | _ => some (none, chars)

/-- Reads pieces up to the end, or inside a spec up to the brace that closes its field. -/
def pieces (dialect : Nat) (raw : Bool) : Nat → Nat → List Char → Option (List Piece × List Char)
  | 0, _, _ => none
  | fuel + 1, level, chars => do
    let (read, stop, rest) ← literal level raw chars.length [] chars
    let value ← StringLiteral.text? raw read
    match stop with
    | .finish => some ([.text value], rest)
    | .doubled =>
      let (more, rest) ← pieces dialect raw fuel level rest
      some (.text value :: more, rest)
    | .brace =>
      if rest.head? == some '\x7d' then some ([.text value], rest)
      else if 2 ≤ level then none
      else
        let (written, after) ← source (rest.length + 1) {} [] (rest.drop 1)
        if written.all isSourceSpace then none
        else
          let (shown, after) ← shownText dialect written after
          let (conversion, after) ← conversionMark after
          let (spec, after) ← match after with
            | ':' :: more =>
              if more.isEmpty then none
              else
                (pieces dialect raw fuel (level + 1) more).map fun (spec, tail) => (some spec, tail)
            | _ => some (none, after)
          match after with
          | '\x7d' :: tail =>
            let conversion := if shown.isSome && spec.isNone && conversion.isNone then some 'r'
              else conversion
            let (more, rest) ← pieces dialect raw fuel level tail
            some (.text value :: .field written shown conversion spec :: more, rest)
          | _ => none

def ofBody? (dialect : Nat) (raw : Bool) (body : List Char) : Option (List Piece) :=
  match pieces dialect raw (body.length + 1) 0 body with
  | some (found, []) => some found
  | _ => none

end Interpolation

end HintSchema

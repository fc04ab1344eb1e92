import HintSchema.Syntax.Token
import HintSchema.Text.RangeTable

/-!
Number literals: the longest prefix that is a number, provided that no word character follows which
could not start a keyword.
-/

namespace HintSchema.Number

open HintSchema.Text (hexDigit?)

/-- Digits of a radix with single underscores between them: the digits, and what follows. -/
def digitRun (isDigit : Char → Bool) : List Char → Option (List Char × List Char)
  | [] => none
  | c :: rest =>
    if !isDigit c then none
    else
      match rest with
      | '_' :: after => (digitRun isDigit after).map fun (more, tail) => (c :: more, tail)
      | d :: after =>
        if isDigit d then (digitRun isDigit (d :: after)).map fun (more, tail) => (c :: more, tail)
        else some ([c], rest)
      | [] => some ([c], [])

def value (radix : Nat) (digits : List Char) : Nat :=
  digits.foldl (fun n c => radix * n + (hexDigit? c).getD 0) 0

def isWordLike (c : Char) : Bool := c.isAlphanum || c == '_' || 128 ≤ c.toNat

def mayFollow (rest : List Char) : Bool :=
  ["and", "else", "for", "if", "in", "is", "or", "not"].any fun word => word.toList.isPrefixOf rest

def endsHere (rest : List Char) : Bool :=
  match rest with
  | c :: _ => mayFollow rest || !isWordLike c
  | [] => true

/-- More decimal digits than this are refused, as no conversion takes them. -/
def digitLimit : Nat := 4300

def radixNumber (radix : Nat) (isDigit : Char → Bool) (chars : List Char) :
    Option (Literal × List Char) := do
  let chars := match chars with
    | '_' :: rest => rest
    | _ => chars
  let (digits, rest) ← digitRun isDigit chars
  if endsHere rest then some (.int (value radix digits), rest) else none

/-- An exponent, if its mark is followed by one; `none` for a sign that no digit follows. -/
def exponentPart (chars : List Char) : Option (Option Int × List Char) :=
  match chars with
  | mark :: rest =>
    if mark = 'e' ∨ mark = 'E' then
      match rest with
      | sign :: more =>
        if sign = '+' ∨ sign = '-' then
          (digitRun Char.isDigit more).map fun (digits, tail) =>
            (some (if sign = '-' then -(value 10 digits : Int) else value 10 digits), tail)
        else if sign.isDigit then
          (digitRun Char.isDigit rest).map fun (digits, tail) => (some (value 10 digits), tail)
        else some (none, chars)
      | [] => some (none, chars)
    else some (none, chars)
  | [] => some (none, chars)

def decimalNumber (chars : List Char) : Option (Literal × List Char) := do
  let (whole, rest) ← match chars with
    | '.' :: _ => some ([], chars)
    | _ => digitRun Char.isDigit chars
  let (fraction, pointed, rest) ← match rest with
    | '.' :: after =>
      if (after.headD ' ').isDigit then
        (digitRun Char.isDigit after).map fun (digits, tail) => (digits, true, tail)
      else some ([], true, after)
    | _ => some ([], false, rest)
  let (exponent, rest) ← exponentPart rest
  let digits := whole ++ fraction
  let float := Binary64.ofDecimal false (value 10 digits) (digits.dropWhile (· == '0')).length
    (exponent.getD 0 - fraction.length)
  match rest with
  | c :: after =>
    if c = 'j' ∨ c = 'J' then
      if endsHere after then some (.imaginary float, after) else none
    else finish whole float (pointed || exponent.isSome) rest
  | [] => finish whole float (pointed || exponent.isSome) []
where
  finish (whole : List Char) (float : Binary64) (isFloat : Bool) (rest : List Char) :
      Option (Literal × List Char) :=
    if !endsHere rest then none
    else if isFloat then some (.float float, rest)
    else if whole.head? == some '0' && whole.any (· != '0') then none
    else if digitLimit < whole.length then none
    else some (.int (value 10 whole), rest)

/-- Reads a number at the head of `chars`, which starts with a digit or with a point and a digit. -/
def scan (chars : List Char) : Option (Literal × List Char) :=
  match chars with
  | '0' :: mark :: rest =>
    if mark = 'x' ∨ mark = 'X' then radixNumber 16 (fun c => (hexDigit? c).isSome) rest
    else if mark = 'o' ∨ mark = 'O' then radixNumber 8 (fun c => '0' ≤ c && c ≤ '7') rest
    else if mark = 'b' ∨ mark = 'B' then radixNumber 2 (fun c => c == '0' || c == '1') rest
    else decimalNumber chars
  | _ => decimalNumber chars

end HintSchema.Number

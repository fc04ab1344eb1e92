import HintSchema.Settings.Toml.Value
import HintSchema.Syntax.Number
import HintSchema.Text.CodePoint

/-!
The values of a TOML document that hold no others: texts, numbers, dates and times.
-/

namespace HintSchema.Toml

open HintSchema.Text (hexDigit? hexNumber)

/-- Why a text is no document. A number with too many digits is refused in a way of its own. -/
inductive SyntaxFault where
  | malformed
  | tooManyDigits (count : Nat)
  deriving DecidableEq, Repr

abbrev Scan := StateT (List Char) (Except SyntaxFault)

namespace Scan

def malformed {α : Type} : Scan α := throw .malformed

def peek : Scan (Option Char) := return (← get).head?

def skip (count : Nat) : Scan Unit := modify (·.drop count)

def skipWhile (p : Char → Bool) : Scan Unit := modify (·.dropWhile p)

def startsWith (lead : List Char) : Scan Bool := return lead.isPrefixOf (← get)

def accept (lead : List Char) : Scan Bool := do
  if ← startsWith lead then
    skip lead.length
    return true
  else return false

def expect (lead : List Char) : Scan Unit := do
  unless ← accept lead do malformed

end Scan

def isBlank (c : Char) : Bool := c == ' ' || c == '\t'

def isBlankOrFeed (c : Char) : Bool := isBlank c || c == '\n'

def isControl (c : Char) : Bool := (c.toNat < 32 && c != '\t') || c.toNat == 127

def singleQuote : Char := '\x27'

def doubleQuote : Char := '\x22'

def threeOf (c : Char) : List Char := [c, c, c]

def untilMark (mark : List Char) : Nat → List Char → List Char → Option (List Char × List Char)
  | 0, _, _ => none
  | limit + 1, taken, chars =>
    if mark.isPrefixOf chars then some (taken.reverse, chars.drop mark.length)
    else
      match chars with
      | [] => none
      | c :: rest => untilMark mark limit (c :: taken) rest

def literalText (mark : List Char) (allowed : Char → Bool) : Scan (List Char) := do
  let chars ← get
  match untilMark mark (chars.length + 1) [] chars with
  | some (inside, rest) =>
    if inside.all allowed then
      set rest
      return inside
    else Scan.malformed
  | none => Scan.malformed

def hexEscape (count : Nat) : Scan (List Char) := do
  let digits := (← get).take count
  if digits.length = count && digits.all (hexDigit? · |>.isSome) then
    Scan.skip count
    match CodePoint.ofNat? (hexNumber digits) with
    | some (.scalar c) => return [c]
    | _ => Scan.malformed
  else Scan.malformed

/-- What follows a backslash. In a text of several lines it may be a line end, which is left out
together with the white space behind it. -/
def escape (multiline : Bool) : Scan (List Char) := do
  match ← Scan.peek with
  | none => Scan.malformed
  | some c =>
    if multiline && isBlankOrFeed c then
      Scan.skipWhile isBlank
      match ← Scan.peek with
      | none => return []
      | some '\n' =>
        Scan.skipWhile isBlankOrFeed
        return []
      | some _ => Scan.malformed
    else
      Scan.skip 1
      match c with
      | 'b' => return ['\x08']
      | 't' => return ['\t']
      | 'n' => return ['\n']
      | 'f' => return ['\x0c']
      | 'r' => return ['\r']
      | '\x22' => return ['\x22']
      | '\\' => return ['\\']
      | 'u' => hexEscape 4
      | 'U' => hexEscape 8
      | _ => Scan.malformed

/-- The rest of a text with escapes, up to its end mark, which is read too. -/
def escapedText (multiline : Bool) : Nat → List Char → Scan (List Char)
  | 0, _ => Scan.malformed
  | limit + 1, taken => do
    if ← Scan.accept (if multiline then threeOf doubleQuote else [doubleQuote]) then
      return taken.reverse
    match ← Scan.peek with
    | none => Scan.malformed
    | some '\\' =>
      Scan.skip 1
      let inside ← escape multiline
      escapedText multiline limit (inside.reverse ++ taken)
    | some c =>
      if isControl c && !(multiline && c == '\n') then Scan.malformed
      else
        Scan.skip 1
        escapedText multiline limit (c :: taken)

def escaped (multiline : Bool) : Scan (List Char) := do
  escapedText multiline ((← get).length + 1) []

/-- At most two further quotes right behind the end mark belong to the text. -/
def closingQuotes (quote : Char) (inside : List Char) : Scan (List Char) := do
  if ← Scan.accept [quote] then
    if ← Scan.accept [quote] then return inside ++ [quote, quote]
    return inside ++ [quote]
  return inside

def oneLine (quote : Char) : Scan (List Char) := do
  Scan.expect [quote]
  if quote = doubleQuote then escaped false else literalText [quote] (!isControl ·)

def severalLines (quote : Char) : Scan (List Char) := do
  Scan.expect (threeOf quote)
  let _ ← Scan.accept ['\n']
  let inside ← if quote = doubleQuote then escaped true
    else literalText (threeOf quote) fun c => c == '\n' || !isControl c
  closingQuotes quote inside

def quotedText (quote : Char) : Scan String := do
  if ← Scan.startsWith (threeOf quote) then return .ofList (← severalLines quote)
  return .ofList (← oneLine quote)

/-! ### Dates and times -/

def fixed? (count low high : Nat) (chars : List Char) : Option (Nat × List Char) :=
  let digits := chars.take count
  let n := Number.value 10 digits
  if digits.length = count && digits.all Char.isDigit && low ≤ n && n ≤ high then
    some (n, chars.drop count)
  else none

def after? (mark : Char) : List Char → Option (List Char)
  | c :: rest => if c = mark then some rest else none
  | [] => none

def date? (chars : List Char) : Option (Date × List Char) := do
  let (year, rest) ← fixed? 4 0 9999 chars
  let (month, rest) ← fixed? 2 1 12 (← after? '-' rest)
  let (day, rest) ← fixed? 2 1 31 (← after? '-' rest)
  some (⟨year, month, day⟩, rest)

def fraction (chars : List Char) : Nat × List Char :=
  match chars with
  | '.' :: rest =>
    let digits := rest.takeWhile Char.isDigit
    if digits.isEmpty then (0, chars)
    else
      let shown := digits.take 6
      (Number.value 10 (shown ++ List.replicate (6 - shown.length) '0'),
        rest.dropWhile Char.isDigit)
  | _ => (0, chars)

def time? (chars : List Char) : Option (TimeOfDay × List Char) := do
  let (hour, rest) ← fixed? 2 0 23 chars
  let (minute, rest) ← fixed? 2 0 59 (← after? ':' rest)
  let (second, rest) ← fixed? 2 0 59 (← after? ':' rest)
  let (microsecond, rest) := fraction rest
  some (⟨hour, minute, second, microsecond⟩, rest)

def offset (chars : List Char) : Option Int × List Char :=
  match chars with
  | [] => (none, [])
  | sign :: rest =>
    if sign = 'Z' ∨ sign = 'z' then (some 0, rest)
    else if sign = '+' ∨ sign = '-' then
      let found := do
        let (hours, rest) ← fixed? 2 0 23 rest
        let (minutes, rest) ← fixed? 2 0 59 (← after? ':' rest)
        let total : Int := hours * 60 + minutes
        some (if sign = '-' then -total else total, rest)
      match found with
      | some (minutes, rest) => (some minutes, rest)
      | none => (none, chars)
    else (none, chars)

def moment? (chars : List Char) : Option (Toml × List Char) := do
  let (day, rest) ← date? chars
  let clock := match rest with
    | mark :: more => if mark = 'T' ∨ mark = 't' ∨ mark = ' ' then time? more else none
    | [] => none
  match clock with
  | some (clock, rest) =>
    let (zone, rest) := offset rest
    some (.moment day clock zone, rest)
  | none => some (.date day, rest)

def hasValidDate : Toml → Bool
  | .date d | .moment d _ _ => d.isValid
  | _ => true

/-! ### Numbers -/

def radixNumber? (chars : List Char) : Option (Nat × List Char) :=
  let digits (radix : Nat) (isDigit : Char → Bool) (rest : List Char) :=
    (Number.digitRun isDigit rest).map fun (digits, rest) => (Number.value radix digits, rest)
  match chars with
  | '0' :: 'x' :: rest => digits 16 (hexDigit? · |>.isSome) rest
  | '0' :: 'o' :: rest => digits 8 (fun c => '0' ≤ c && c ≤ '7') rest
  | '0' :: 'b' :: rest => digits 2 (fun c => c == '0' || c == '1') rest
  | _ => none

def sign (chars : List Char) : Bool × List Char :=
  match chars with
  | '-' :: rest => (true, rest)
  | '+' :: rest => (false, rest)
  | _ => (false, chars)

/-- A zero stands alone. -/
def whole? (chars : List Char) : Option (List Char × List Char) :=
  match chars with
  | '0' :: rest => some (['0'], rest)
  | _ => Number.digitRun Char.isDigit chars

def fractionDigits (chars : List Char) : List Char × List Char :=
  match chars with
  | '.' :: rest => (Number.digitRun Char.isDigit rest).getD ([], chars)
  | _ => ([], chars)

def exponent (chars : List Char) : Option Int × List Char :=
  match chars with
  | mark :: rest =>
    if mark = 'e' ∨ mark = 'E' then
      let (negative, rest) := sign rest
      match Number.digitRun Char.isDigit rest with
      | some (digits, rest) =>
        let n : Int := Number.value 10 digits
        (some (if negative then -n else n), rest)
      | none => (none, chars)
    else (none, chars)
  | [] => (none, chars)

def decimal (chars : List Char) : Except SyntaxFault (Toml × List Char) :=
  let (negative, rest) := sign chars
  match whole? rest with
  | none => .error .malformed
  | some (whole, rest) =>
    let (fraction, rest) := fractionDigits rest
    let (exponent, rest) := exponent rest
    if fraction.isEmpty && exponent.isNone then
      if Number.digitLimit < whole.length then .error (.tooManyDigits whole.length)
      else
        let n : Int := Number.value 10 whole
        .ok (.int (if negative then -n else n), rest)
    else
      let digits := whole ++ fraction
      .ok (.float (.ofDecimal negative (Number.value 10 digits)
        (digits.dropWhile (· == '0')).length (exponent.getD 0 - fraction.length)), rest)

def specialFloat? (chars : List Char) : Option (Toml × List Char) :=
  let (negative, rest) := sign chars
  if "inf".toList.isPrefixOf rest then some (.float (.infinite negative), rest.drop 3)
  else if "nan".toList.isPrefixOf rest then some (.float .nan, rest.drop 3)
  else none

def bare (chars : List Char) : Except SyntaxFault (Toml × List Char) :=
  if "true".toList.isPrefixOf chars then .ok (.bool true, chars.drop 4)
  else if "false".toList.isPrefixOf chars then .ok (.bool false, chars.drop 5)
  else
    match moment? chars with
    | some (value, rest) => if hasValidDate value then .ok (value, rest) else .error .malformed
    | none =>
      match time? chars with
      | some (clock, rest) => .ok (.time clock, rest)
      | none =>
        match radixNumber? chars with
        | some (n, rest) => .ok (.int n, rest)
        | none =>
          match specialFloat? chars with
          | some found => .ok found
          | none => decimal chars

end HintSchema.Toml

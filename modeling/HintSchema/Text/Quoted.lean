import HintSchema.Text.CodePoint

/-!
The quoted form of a text or of bytes, in which every character that does not print is escaped. The
quote is the apostrophe, unless the text holds apostrophes and no double quotes.
-/

namespace HintSchema.Text.Quoted

def apostrophe : Char := '\x27'

def doubleQuote : Char := '\x22'

def hexDigits (width n : Nat) : List Char :=
  let digits := Nat.toDigits 16 n
  List.replicate (width - digits.length) '0' ++ digits

def numericEscape (n : Nat) : List Char :=
  if n ≤ 0xff then '\\' :: 'x' :: hexDigits 2 n
  else if n ≤ 0xffff then '\\' :: 'u' :: hexDigits 4 n
  else '\\' :: 'U' :: hexDigits 8 n

def chooseQuote (holds : Char → Bool) : Char :=
  if holds apostrophe && !holds doubleQuote then doubleQuote else apostrophe

def shortEscape? (quote c : Char) : Option (List Char) :=
  if c = quote ∨ c = '\\' then some ['\\', c]
  else if c = '\n' then some ['\\', 'n']
  else if c = '\r' then some ['\\', 'r']
  else if c = '\t' then some ['\\', 't']
  else none

def escapeChar (quote c : Char) : List Char :=
  (shortEscape? quote c).getD (if isPrintable c then [c] else numericEscape c.toNat)

def escape (quote : Char) : CodePoint → List Char
  | .scalar c => escapeChar quote c
  | .surrogate offset => numericEscape (0xd800 + offset.val)

def text (value : CodeText) : String :=
  let quote := chooseQuote fun c => value.contains (.scalar c)
  .ofList (quote :: value.flatMap (escape quote) ++ [quote])

def string (s : String) : String := text (.ofString s)

def escapeByte (quote : Char) (b : UInt8) : List Char :=
  let c := Char.ofNat b.toNat
  (shortEscape? quote c).getD
    (if 0x20 ≤ b.toNat ∧ b.toNat < 0x7f then [c] else numericEscape b.toNat)

def bytes (value : List UInt8) : String :=
  let quote := chooseQuote fun c => value.contains c.toNat.toUInt8
  .ofList ('b' :: quote :: value.flatMap (escapeByte quote) ++ [quote])

end HintSchema.Text.Quoted

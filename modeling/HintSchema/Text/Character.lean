import HintSchema.Text.DigitTable
import HintSchema.Text.IdentifierTable
import HintSchema.Text.PrintableTable
import HintSchema.Text.WordTable

/-!
Character classes. Below 128 each class is a rule; above it is a table.
-/

namespace HintSchema.Text

def isBlank (c : Char) : Bool :=
  let n := c.toNat
  (9 ≤ n && n ≤ 13) || (0x1c ≤ n && n ≤ 0x20) || n == 0x85 || n == 0xa0 || n == 0x1680 ||
    (0x2000 ≤ n && n ≤ 0x200a) || n == 0x2028 || n == 0x2029 || n == 0x202f || n == 0x205f ||
    n == 0x3000

/-- Characters that end a line. A carriage return before a line feed ends the same line. -/
def isLineBreak (c : Char) : Bool :=
  let n := c.toNat
  (0xa ≤ n && n ≤ 0xd) || (0x1c ≤ n && n ≤ 0x1e) || n == 0x85 || n == 0x2028 || n == 0x2029

def isAscii (c : Char) : Bool := c.toNat < 128

def isIdentifierStart (c : Char) : Bool :=
  if isAscii c then c.isAlpha || c == '_' else xidStart.contains c.toNat

def isIdentifierRest (c : Char) : Bool :=
  if isAscii c then c.isAlphanum || c == '_' else xidContinue.contains c.toNat

def isIdentifier : List Char → Bool
  | [] => false
  | c :: rest => isIdentifierStart c && rest.all isIdentifierRest

def isWordChar (c : Char) : Bool :=
  if isAscii c then c.isAlphanum || c == '_' else alphanumeric.contains c.toNat

def isPrintable (c : Char) : Bool :=
  if isAscii c then 32 ≤ c.toNat && c.toNat < 127 else printable.contains c.toNat

def isDigit (c : Char) : Bool :=
  if isAscii c then c.isDigit else digit.contains c.toNat

def decimalDigit? (c : Char) : Option Nat :=
  if isAscii c then if c.isDigit then some (c.toNat - '0'.toNat) else none
  else (List.range 10).find? fun d => decimalZeros.contains (c.toNat - d) && d ≤ c.toNat

end HintSchema.Text

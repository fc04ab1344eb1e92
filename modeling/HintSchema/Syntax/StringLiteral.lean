import HintSchema.Syntax.Token
import HintSchema.Text.CodePoint
import HintSchema.Text.CharacterName

/-!
The value of a string literal's body. An unknown escape keeps its backslash; a numeric escape that
is cut short has no value.
-/

namespace HintSchema.StringLiteral

open HintSchema.Text (hexDigit? characterNamed?)

def simpleEscape? (c : Char) : Option Char :=
  if c = '\\' ∨ c = '\x27' ∨ c = '\x22' then some c
  else if c = 'a' then some '\x07'
  else if c = 'b' then some '\x08'
  else if c = 'f' then some '\x0c'
  else if c = 'n' then some '\n'
  else if c = 'r' then some '\r'
  else if c = 't' then some '\t'
  else if c = 'v' then some '\x0b'
  else none

def isOctal (c : Char) : Bool := '0' ≤ c && c ≤ '7'

def radixValue (radix : Nat) (digits : List Char) : Nat :=
  digits.foldl (fun n c => radix * n + (hexDigit? c).getD 0) 0

def hexEscape? (count : Nat) (chars : List Char) : Option Nat :=
  let digits := chars.take count
  if digits.length = count ∧ digits.all (fun c => (hexDigit? c).isSome) then
    some (radixValue 16 digits)
  else none

def hexWidth? (mark : Char) : Option Nat :=
  if mark = 'x' then some 2 else if mark = 'u' then some 4 else if mark = 'U' then some 8 else none

/-- Reads what follows a backslash in a text: the value, and how many characters that took. -/
def textEscape? (chars : List Char) : Option (CodeText × Nat) :=
  match chars with
  | [] => some ([.scalar '\\'], 0)
  | c :: rest =>
    if c = '\n' then some ([], 1)
    else if isOctal c then
      let digits := (chars.take 3).takeWhile isOctal
      (CodePoint.ofNat? (radixValue 8 digits)).map fun p => ([p], digits.length)
    else if c = 'N' then
      match rest with
      | '\x7b' :: after =>
        let name := after.takeWhile (· != '\x7d')
        if name.length = after.length then none
        else (characterNamed? name).map fun found => ([.scalar found], name.length + 3)
      | _ => none
    else
      match hexWidth? c with
      | some width => do
        let n ← hexEscape? width rest
        let p ← CodePoint.ofNat? n
        some ([p], width + 1)
      | none =>
        match simpleEscape? c with
        | some value => some ([.scalar value], 1)
        | none => some ([.scalar '\\', .scalar c], 1)

def textFrom : Nat → List Char → Option CodeText
  | 0, _ => some []
  | _ + 1, [] => some []
  | fuel + 1, '\\' :: rest => do
    let (value, taken) ← textEscape? rest
    let more ← textFrom fuel (rest.drop taken)
    some (value ++ more)
  | fuel + 1, c :: rest => (textFrom fuel rest).map (.scalar c :: ·)

def text? (raw : Bool) (body : List Char) : Option CodeText :=
  if raw then some (.ofChars body) else textFrom body.length body

def byteEscape? (chars : List Char) : Option (List Nat × Nat) :=
  match chars with
  | [] => none
  | c :: rest =>
    if c = '\n' then some ([], 1)
    else if isOctal c then
      let digits := (chars.take 3).takeWhile isOctal
      some ([radixValue 8 digits % 256], digits.length)
    else if c = 'x' then (hexEscape? 2 rest).map fun n => ([n], 3)
    else
      match simpleEscape? c with
      | some value => some ([value.toNat], 1)
      | none => some ([92, c.toNat], 1)

def bytesFrom : Nat → List Char → Option (List Nat)
  | 0, _ => some []
  | _ + 1, [] => some []
  | fuel + 1, '\\' :: rest => do
    let (value, taken) ← byteEscape? rest
    let more ← bytesFrom fuel (rest.drop taken)
    some (value ++ more)
  | fuel + 1, c :: rest => (bytesFrom fuel rest).map (c.toNat :: ·)

def bytes? (raw : Bool) (body : List Char) : Option (List UInt8) :=
  if body.any fun c => 128 ≤ c.toNat then none
  else if raw then some (body.map fun c => c.toNat.toUInt8)
  else (bytesFrom body.length body).map (·.map Nat.toUInt8)

end HintSchema.StringLiteral

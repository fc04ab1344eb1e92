import HintSchema.Decimal.Binary64

/-!
The fewest decimal digits that read back, and of those the nearest.
-/

namespace HintSchema.Binary64

def leadingZeros : Nat → Nat → Nat → Nat
  | 0, _, _ => 0
  | fuel + 1, numerator, denominator =>
    if denominator ≤ numerator then 0 else leadingZeros fuel (10 * numerator) denominator + 1

/-- The number of digits before the point, zero or less for a fraction below one. -/
def decimalPoint (numerator denominator : Nat) : Int :=
  if denominator ≤ numerator then (Nat.toDigits 10 (numerator / denominator)).length
  else 1 - (leadingZeros 400 numerator denominator : Int)

/-- Of the two decimals with `count` digits around the fraction, the nearer one that reads back. -/
def decimalNear? (m : Nat) (q : Int) (point : Int) (count : Nat) : Option Nat :=
  let (n, d) := scale m 2 q
  let (low, unit) := if 0 ≤ point - count then
      (n / (d * Nat.pow 10 (point - count).toNat), d * Nat.pow 10 (point - count).toNat)
    else (n * Nat.pow 10 (count - point).toNat / d, d)
  let scaled := if 0 ≤ point - count then n else n * Nat.pow 10 (count - point).toNat
  let readsBack (digits : Nat) : Bool :=
    let (a, b) := scale digits 10 (point - count)
    nearest? a b == some (m, q)
  let lowFits := readsBack low
  let highFits := readsBack (low + 1)
  if lowFits && highFits then
    let below := scaled - low * unit
    let above := (low + 1) * unit - scaled
    if below < above ∨ (below = above ∧ low % 2 = 0) then some low else some (low + 1)
  else if lowFits then some low
  else if highFits then some (low + 1)
  else none

/-- Digits without trailing zeros, and the position of the decimal point before which they start. -/
def shortest (m : Nat) (q : Int) : List Char × Int :=
  if m = 0 then (['0'], 1)
  else
    let (n, d) := scale m 2 q
    let point := decimalPoint n d
    match (List.range 17).findSome? fun k =>
        (decimalNear? m q point (k + 1)).map fun digits => (digits, k + 1) with
    | none => (['0'], 1)
    | some (digits, count) =>
      let written := Nat.toDigits 10 digits
      let trimmed := (written.reverse.dropWhile (· == '0')).reverse
      (trimmed, point + (written.length - count))

/-- A number is written out in place while its point stands no more than sixteen places to the right
and four to the left, and with an exponent of two digits or more beyond. -/
def positional (point : Int) : Bool := -4 < point && point ≤ 16

def exponentText (e : Int) : List Char :=
  let digits := Nat.toDigits 10 e.natAbs
  'e' :: (if e < 0 then '-' else '+') :: (if digits.length < 2 then '0' :: digits else digits)

def digitsText (whole : Bool) (digits : List Char) (point : Int) : List Char :=
  if positional point then
    if point ≤ 0 then '0' :: '.' :: List.replicate (-point).toNat '0' ++ digits
    else
      let p := point.toNat
      if digits.length ≤ p then
        digits ++ List.replicate (p - digits.length) '0' ++ if whole then ['.', '0'] else []
      else digits.take p ++ '.' :: digits.drop p
  else
    match digits with
    | first :: [] => first :: exponentText (point - 1)
    | first :: rest => first :: '.' :: rest ++ exponentText (point - 1)
    | [] => []

def render (whole : Bool) : Binary64 → String
  | .finite negative m q =>
    let (digits, point) := shortest m q
    .ofList ((if negative then ['-'] else []) ++ digitsText whole digits point)
  | .infinite negative => if negative then "-inf" else "inf"
  | .nan => "nan"

end HintSchema.Binary64

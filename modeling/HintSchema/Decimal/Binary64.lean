/-!
Numbers with 53 significant bits, read from a decimal fraction by rounding to the nearest, a tie to
the even neighbour.
-/

namespace HintSchema

/-- `finite` stands for `significand * 2 ^ exponent` with its sign. -/
inductive Binary64 where
  | finite (negative : Bool) (significand : Nat) (exponent : Int)
  | infinite (negative : Bool)
  | nan
  deriving DecidableEq, Repr

namespace Binary64

/-- `numerator / denominator` to the nearest natural number, a tie to the even one. -/
def roundDiv (numerator denominator : Nat) : Nat :=
  let quotient := numerator / denominator
  let twice := 2 * (numerator % denominator)
  if twice < denominator then quotient
  else if denominator < twice then quotient + 1
  else quotient + quotient % 2

def scale (n base : Nat) (e : Int) : Nat × Nat :=
  if 0 ≤ e then (n * Nat.pow base e.toNat, 1) else (n, Nat.pow base (-e).toNat)

/-- The exponent of the power of two at or below a positive fraction. -/
def binaryExponent (numerator denominator : Nat) : Int :=
  let guess : Int := numerator.log2 - denominator.log2
  let (n, d) := if 0 ≤ guess then (numerator, denominator * Nat.pow 2 guess.toNat)
    else (numerator * Nat.pow 2 (-guess).toNat, denominator)
  if n < d then guess - 1 else guess

def nearest? (numerator denominator : Nat) : Option (Nat × Int) :=
  if numerator = 0 then some (0, -1074)
  else
    let e := max (binaryExponent numerator denominator - 52) (-1074)
    let m := if 0 ≤ e then roundDiv numerator (denominator * Nat.pow 2 e.toNat)
      else roundDiv (numerator * Nat.pow 2 (-e).toNat) denominator
    let (m, e) := if m = Nat.pow 2 53 then (Nat.pow 2 52, e + 1) else (m, e)
    if 971 < e then none else some (m, e)

/-- `digits * 10 ^ e`, where `digits` has `count` digits. Far from the range of the format the power
is not worked out. -/
def ofDecimal (negative : Bool) (digits count : Nat) (e : Int) : Binary64 :=
  if digits = 0 ∨ e + count < -330 then .finite negative 0 (-1074)
  else if 330 < e + count then .infinite negative
  else
    let (n, d) := scale digits 10 e
    match nearest? n d with
    | some (m, q) => .finite negative m q
    | none => .infinite negative

def isZero : Binary64 → Bool
  | finite _ significand _ => significand == 0
  | _ => false

end Binary64

end HintSchema

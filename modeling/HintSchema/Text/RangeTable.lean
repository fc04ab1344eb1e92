/-!
Sets of code points written as hexadecimal ranges, and rows of hexadecimal numbers.
-/

namespace HintSchema.Text

def hexDigit? (c : Char) : Option Nat :=
  if '0' ≤ c ∧ c ≤ '9' then some (c.toNat - '0'.toNat)
  else if 'a' ≤ c ∧ c ≤ 'f' then some (c.toNat - 'a'.toNat + 10)
  else if 'A' ≤ c ∧ c ≤ 'F' then some (c.toNat - 'A'.toNat + 10)
  else none

def hexNumber (digits : List Char) : Nat :=
  digits.foldl (fun n c => 16 * n + (hexDigit? c).getD 0) 0

def splitChars (separator : Char) : List Char → List (List Char)
  | [] => [[]]
  | c :: rest =>
    match splitChars separator rest with
    | [] => [[c]]
    | piece :: pieces => if c = separator then [] :: piece :: pieces else (c :: piece) :: pieces

def entries (text : String) : List (List Char) :=
  (splitChars ' ' (text.toList.map fun c => if c = '\n' then ' ' else c)).filter (!·.isEmpty)

def hexRows (text : String) : List (List Nat) :=
  (entries text).map fun row => (splitChars ',' row).map hexNumber

/-- Ranges in increasing order, both ends included. -/
structure RangeTable where
  ranges : Array (Nat × Nat)

namespace RangeTable

def ofText (text : String) : RangeTable :=
  ⟨((entries text).map fun range =>
    match splitChars '-' range with
    | [first, last] => (hexNumber first, hexNumber last)
    | _ => (hexNumber range, hexNumber range)).toArray⟩

/-- Halves the slice from `first` of the given length until a range holds `n` or none is left. -/
def search (table : RangeTable) (n first length : Nat) : Bool :=
  if _ : length = 0 then false
  else
    match table.ranges[first + length / 2]? with
    | none => false
    | some (low, high) =>
      if n < low then search table n first (length / 2)
      else if high < n then search table n (first + length / 2 + 1) (length - length / 2 - 1)
      else true
termination_by length
decreasing_by all_goals omega

def contains (table : RangeTable) (n : Nat) : Bool :=
  table.search n 0 table.ranges.size

end RangeTable

end HintSchema.Text

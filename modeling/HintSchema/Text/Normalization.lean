import HintSchema.Text.Character
import HintSchema.Text.NormalizationTable

/-!
Normalization form KC, the form in which identifiers are compared. A compatibility decomposition is
followed by sorting each run of marks by combining class and by composing again.
-/

namespace HintSchema.Text

/-- Hangul syllables are numbered by leading consonant, vowel and trailing consonant. -/
def hangulParts (n : Nat) : List Nat :=
  let index := n - 0xac00
  let lead := 0x1100 + index / 588
  let vowel := 0x1161 + index % 588 / 28
  if index % 28 = 0 then [lead, vowel] else [lead, vowel, 0x11a7 + index % 28]

def decompose (c : Char) : List Char :=
  let n := c.toNat
  if n < 128 then [c]
  else if 0xac00 ≤ n ∧ n ≤ 0xd7a3 then (hangulParts n).map Char.ofNat
  else
    match decompositions.find? fun row => row.headD 0 ≤ n && n ≤ (row.drop 1).headD 0 with
    | some (first :: last :: head :: rest) =>
      if first = last then (head :: rest).map Char.ofNat
      else (head :: rest).map fun t => Char.ofNat (t + (n - first))
    | _ => [c]

def combiningClass (c : Char) : Nat :=
  if isAscii c then 0
  else
    let covers (row : List Nat) := row.headD 0 ≤ c.toNat && c.toNat ≤ (row.drop 1).headD 0
    match combiningClasses.find? covers with
    | some [_, _, value] => value
    | _ => 0

/-- Puts a mark before the marks of its own class and higher, and a starter in front. -/
def insertMark (c : Char) : List Char → List Char
  | [] => [c]
  | d :: rest =>
    if combiningClass d ≠ 0 ∧ combiningClass d < combiningClass c then d :: insertMark c rest
    else c :: d :: rest

def composePair? (a b : Char) : Option Char :=
  let m := a.toNat
  let n := b.toNat
  if 0x1100 ≤ m ∧ m < 0x1113 ∧ 0x1161 ≤ n ∧ n < 0x1176 then
    some (Char.ofNat (0xac00 + (m - 0x1100) * 588 + (n - 0x1161) * 28))
  else if 0xac00 ≤ m ∧ m ≤ 0xd7a3 ∧ (m - 0xac00) % 28 = 0 ∧ 0x11a7 < n ∧ n < 0x11c3 then
    some (Char.ofNat (m + (n - 0x11a7)))
  else
    match compositions.find? fun row => row.take 2 == [m, n] with
    | some [_, _, target] => some (Char.ofNat target)
    | _ => none

/-- Composes onto `starter`, past the marks already skipped, what is not cut off from it by a mark
of the same class or a higher one. -/
def composeOnto (starter : Char) (skipped : List Char) (highest : Nat) : List Char → List Char
  | [] => starter :: skipped.reverse
  | c :: rest =>
    let own := combiningClass c
    match if skipped.isEmpty || highest < own then composePair? starter c else none with
    | some composite => composeOnto composite skipped highest rest
    | none =>
      if own = 0 then starter :: skipped.reverse ++ composeOnto c [] 0 rest
      else composeOnto starter (c :: skipped) own rest

def compose : List Char → List Char
  | [] => []
  | c :: rest => if combiningClass c = 0 then composeOnto c [] 0 rest else c :: compose rest

def normalize (chars : List Char) : List Char :=
  if chars.all isAscii then chars
  else compose ((chars.flatMap decompose).foldr insertMark [])

end HintSchema.Text

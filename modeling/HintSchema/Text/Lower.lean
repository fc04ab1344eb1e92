import HintSchema.Text.Character
import HintSchema.Text.LowerTable

/-!
Lower case. Only the capital sigma looks at its neighbours: at the end of a word it has a form of
its own.
-/

namespace HintSchema.Text

def lowerChar (c : Char) : List Char :=
  if isAscii c then [c.toLower]
  else if c = '\u0130' then ['i', '\u0307']
  else
    let n := c.toNat
    match lowerRuns.find? fun row => row.headD 0 ≤ n && n ≤ (row.drop 1).headD 0 &&
        (n - row.headD 0) % max 1 ((row.drop 2).headD 1) == 0 with
    | some [first, _, _, target] => [Char.ofNat (target + (n - first))]
    | _ => [c]

def hasCase (c : Char) : Bool :=
  if isAscii c then c.isAlpha else casedTable.contains c.toNat

def isCaseIgnorable (c : Char) : Bool :=
  if isAscii c then [0x27, 0x2e, 0x3a, 0x5e, 0x60].contains c.toNat
  else caseIgnorable.contains c.toNat

/-- Whether the nearest character that shows whether there is case shows that there is. -/
def facesCase (chars : List Char) : Bool :=
  match chars.dropWhile isCaseIgnorable with
  | c :: _ => hasCase c
  | [] => false

def lowerAfter (before : List Char) : List Char → List Char
  | [] => []
  | c :: rest =>
    let form :=
      if c = '\u03a3' then
        if facesCase before && !facesCase rest then ['\u03c2'] else ['\u03c3']
      else lowerChar c
    form ++ lowerAfter (c :: before) rest

def lower (s : String) : String := .ofList (lowerAfter [] s.toList)

end HintSchema.Text

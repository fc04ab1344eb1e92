import HintSchema.Text.Character

/-!
Stripping, splitting into words and splitting into lines.
-/

namespace HintSchema.Text

def stripLeft (chars : List Char) : List Char := chars.dropWhile isBlank

def stripRight (chars : List Char) : List Char := (chars.reverse.dropWhile isBlank).reverse

def strip (chars : List Char) : List Char := stripRight (stripLeft chars)

def stripString (s : String) : String := .ofList (strip s.toList)

/-- The runs of characters between white space, given the run that is being read. -/
def wordsAfter (current : List Char) : List Char → List (List Char)
  | [] => if current.isEmpty then [] else [current.reverse]
  | c :: rest =>
    if isBlank c then
      if current.isEmpty then wordsAfter [] rest else current.reverse :: wordsAfter [] rest
    else wordsAfter (c :: current) rest

def words (chars : List Char) : List (List Char) := wordsAfter [] chars

def splitLinesAfter (current : List Char) : List Char → List (List Char)
  | [] => if current.isEmpty then [] else [current.reverse]
  | '\r' :: '\n' :: rest => current.reverse :: splitLinesAfter [] rest
  | c :: rest =>
    if isLineBreak c then current.reverse :: splitLinesAfter [] rest
    else splitLinesAfter (c :: current) rest

/-- The lines without their ends; a break at the very end opens no further line. -/
def splitLines (chars : List Char) : List (List Char) := splitLinesAfter [] chars

def joinWith (separator : List Char) (pieces : List (List Char)) : List Char :=
  separator.intercalate pieces

end HintSchema.Text

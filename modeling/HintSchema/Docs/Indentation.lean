import HintSchema.Text.CodePoint
import HintSchema.Text.Strip

/-!
The text of a documentation string without the indentation that its source gives it.
-/

namespace HintSchema.Docs

open HintSchema.Text

/-- Tabs become spaces up to the next multiple of eight columns. A mark takes no column of its own:
what is spelled with it is one character. -/
def expandTabsFrom (column : Nat) : List Char → List Char
  | [] => []
  | c :: rest =>
    if c = '\t' then
      let width := 8 - column % 8
      List.replicate width ' ' ++ expandTabsFrom (column + width) rest
    else if c = '\n' ∨ c = '\r' then c :: expandTabsFrom 0 rest
    else c :: expandTabsFrom (if c = CodePoint.mark then column else column + 1) rest

def splitAtFeeds (current : List Char) : List Char → List (List Char)
  | [] => [current.reverse]
  | c :: rest =>
    if c = '\n' then current.reverse :: splitAtFeeds [] rest else splitAtFeeds (c :: current) rest

def indentation (line : List Char) : Nat := (line.takeWhile isBlank).length

def margin (lines : List (List Char)) : Nat :=
  ((lines.filter fun line => !(stripLeft line).isEmpty).map indentation).min?.getD 0

/-- The first line loses its own indentation, the others lose what they have in common, and empty
lines at both ends go. -/
def clean (chars : List Char) : List Char :=
  match splitAtFeeds [] (expandTabsFrom 0 chars) with
  | [] => []
  | first :: rest =>
    let lines := stripLeft first :: rest.map (·.drop (margin rest))
    let lines := (lines.reverse.dropWhile (·.isEmpty)).reverse.dropWhile (·.isEmpty)
    joinWith ['\n'] lines

end HintSchema.Docs

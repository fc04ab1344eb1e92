import HintSchema.Settings.Basic
import HintSchema.Syntax.Number
import HintSchema.Text.Quoted
import HintSchema.Text.Strip

/-!
Versions as text: two numbers with a point between them; further parts do not count.
-/

namespace HintSchema

open HintSchema.Text (isDigit decimalDigit?)

/-- Why a text is no version. A digit such as a superscript is none of a number. -/
inductive VersionError where
  | invalid (quoted : String)
  | notDecimal (part : String)
  | tooManyDigits (count : Nat)
  deriving DecidableEq, Repr

def tooManyDigitsMessage (count : Nat) : String :=
  "Exceeds the limit (" ++ toString Number.digitLimit ++
    " digits) for integer string conversion: value has " ++ toString count ++
    " digits; use sys.set_int_max_str_digits() to increase the limit"

namespace VersionError

def message : VersionError → String
  | invalid quoted => "Invalid python version: " ++ quoted
  | notDecimal part => "invalid literal for int() with base 10: " ++ Text.Quoted.string part
  | tooManyDigits count => tooManyDigitsMessage count

end VersionError

namespace Version

def number (part : String) : Except VersionError Int :=
  match part.toList.mapM decimalDigit? with
  | none => .error (.notDecimal part)
  | some digits =>
    if Number.digitLimit < digits.length then .error (.tooManyDigits digits.length)
    else .ok (digits.foldl (fun n d => 10 * n + d) 0 : Nat)

def isNumeral (part : String) : Bool := !part.isEmpty && part.toList.all isDigit

/-- Reads a version; `quoted` is how the text is shown when it is none. -/
def parse (text quoted : String) : Except VersionError Version :=
  match Text.splitAt '.' (Text.stripString text) with
  | major :: minor :: _ =>
    if isNumeral major && isNumeral minor then do
      let major ← number major
      let minor ← number minor
      return ⟨major, minor⟩
    else .error (.invalid quoted)
  | _ => .error (.invalid quoted)

def parseText (text : String) : Except VersionError Version := parse text (Text.Quoted.string text)

end Version

end HintSchema

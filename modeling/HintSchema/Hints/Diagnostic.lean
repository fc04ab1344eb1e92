import HintSchema.Files.Path

/-!
Problems that are found before anything is derived, and their text.
-/

namespace HintSchema

/-- What is wrong with a file that cannot be read is left open: neither a cause nor a place is part
of it. -/
inductive Diagnostic where
  | problem (message : String) (file : Option String) (line column : Option Int)
  | unparsable (file : String)
  | unreadableSettings (file : String)
  deriving DecidableEq, Repr

namespace Diagnostic

def category : String := "error"

def ofFile (message file : String) : Diagnostic := .problem message (some file) none none

def message : Diagnostic → String
  | problem message _ _ _ => message
  | unparsable _ => "invalid syntax"
  | unreadableSettings _ => "invalid settings"

def location : Diagnostic → String
  | problem _ none _ _ => "<unknown>"
  | problem _ (some file) none _ => file
  | problem _ (some file) (some line) none => file ++ ":" ++ toString line
  | problem _ (some file) (some line) (some column) =>
    file ++ ":" ++ toString line ++ ":" ++ toString column
  | unparsable file | unreadableSettings file => file

def text (d : Diagnostic) : String := d.location ++ " - " ++ category ++ ": " ++ d.message

end Diagnostic

end HintSchema

/-!
Texts cut at a separator.
-/

namespace HintSchema.Text

/-- The pieces between separators, empty ones included: there is always one more than separators. -/
def pieces (separator : Char) : List Char → List (List Char)
  | [] => [[]]
  | c :: rest =>
    if c = separator then [] :: pieces separator rest
    else
      match pieces separator rest with
      | [] => [[c]]
      | first :: more => (c :: first) :: more

def splitAt (separator : Char) (s : String) : List String :=
  (pieces separator s.toList).map .ofList

end HintSchema.Text

import HintSchema.Pairs
import HintSchema.Text.Lower
import HintSchema.Text.Strip

/-!
Documentation strings: a description, then sections with headers and fields between colons. What a
section or field says of a parameter is kept under its name, other fields are tags.
-/

namespace HintSchema.Docs

open HintSchema.Text

structure Docstring where
  description : String := ""
  parameters : List (String × String) := []
  tags : List (String × String) := []
  deriving DecidableEq, Repr

def sectionHeaders : List String :=
  ["args", "arguments", "parameters", "params", "returns", "return", "yields", "raises",
    "examples", "example", "note", "notes", "usage", "see also"]

def parameterSections : List String := ["args", "arguments", "parameters", "params"]

def parameterFields : List String := ["param", "parameter", "arg", "argument"]

def signatureFields : List String :=
  ["param", "parameter", "arg", "argument", "type", "rtype", "returns", "return", "raises", "raise"]

/-- `:name argument: text`. -/
structure Field where
  name : String
  argument : List Char
  text : List Char

def isAsciiLetter (c : Char) : Bool := c.isAlpha || c == '_'

def field? (line : List Char) : Option Field :=
  match line with
  | ':' :: c :: rest =>
    if isAsciiLetter c then
      let name := c :: rest.takeWhile fun d => isWordChar d || d == '-'
      let after := rest.dropWhile fun d => isWordChar d || d == '-'
      let argument := after.takeWhile (· ≠ ':')
      match after.dropWhile (· ≠ ':') with
      | ':' :: text =>
        let spaced := match argument with
          | [] => true
          | d :: more => isBlank d && !more.isEmpty
        if spaced then some ⟨lower (.ofList name), strip argument, strip text⟩ else none
      | _ => none
    else none
  | _ => none

def entry? (line : List Char) : Option (String × List Char) :=
  let stars := line.takeWhile (· = '*')
  match line.dropWhile (· = '*') with
  | c :: rest =>
    if stars.length ≤ 2 && isAsciiLetter c then
      let name := c :: rest.takeWhile isWordChar
      let after := stripLeft (rest.dropWhile isWordChar)
      let after := match after with
        | '(' :: inner =>
          match inner.dropWhile (· ≠ ')') with
          | ')' :: behind => stripLeft behind
          | _ => after
        | _ => after
      match after with
      | ':' :: text => some (.ofList name, strip text)
      | _ => none
    else none
  | [] => none

def isIndented (line : List Char) : Bool := line.head?.any isBlank

def header? (line : List Char) : Option String :=
  match (strip line).reverse with
  | ':' :: title =>
    let title := lower (.ofList (strip title.reverse))
    if sectionHeaders.contains title && !isIndented line then some title else none
  | _ => none

structure Reading where
  description : List (List Char) := []
  parameters : List (String × String) := []
  tags : List (String × String) := []
  inSection : Option String := none
  current : Option String := none
  indent : Nat := 0

namespace Reading

def lastWord (chars : List Char) : String := .ofList ((words chars).getLast?.getD [])

def afterField (r : Reading) (field : Field) : Reading :=
  let r := { r with inSection := none, current := none }
  if parameterFields.contains field.name && !field.argument.isEmpty then
    let name := lastWord field.argument
    { r with
      current := some name
      parameters := Pairs.put r.parameters name (.ofList field.text) }
  else if signatureFields.contains field.name then r
  else { r with tags := Pairs.put r.tags field.name (.ofList field.text) }

def continued (r : Reading) (name : String) (line : List Char) : Reading :=
  let before := (Pairs.get? r.parameters name).getD ""
  let whole := strip (before.toList ++ ' ' :: line)
  { r with parameters := Pairs.put r.parameters name (.ofList whole) }

def continuedIfAny (r : Reading) (line : List Char) : Reading :=
  match r.current with
  | some name => r.continued name line
  | none => r

def outsideSections (r : Reading) (line stripped : List Char) : Reading :=
  let described := { r with current := none, description := r.description ++ [line] }
  match r.current with
  | some name =>
    if !stripped.isEmpty && isIndented line then r.continued name stripped else described
  | none => described

/-- In a section on parameters an entry starts a parameter, unless it is indented deeper than the
entry before it. -/
def inParameters (r : Reading) (line stripped : List Char) : Reading :=
  if stripped.isEmpty then { r with current := none }
  else
    let indent := (line.takeWhile isBlank).length
    let starts := r.current.isNone || indent ≤ r.indent
    match entry? stripped with
    | some (name, text) =>
      if starts then
        { r with
          current := some name
          indent
          parameters := Pairs.put r.parameters name (.ofList text) }
      else r.continuedIfAny stripped
    | none => r.continuedIfAny stripped

def step (r : Reading) (line : List Char) : Reading :=
  let stripped := strip line
  match if isIndented line then none else field? stripped with
  | some field => r.afterField field
  | none =>
    match header? line with
    | some title => { r with inSection := some title, current := none }
    | none =>
      match r.inSection with
      | none => r.outsideSections line stripped
      | some title =>
        if parameterSections.contains title then r.inParameters line stripped else r

end Reading

namespace Docstring

def parse (text : String) : Docstring :=
  let r := (splitLines text.toList).foldl Reading.step {}
  ⟨.ofList (strip (joinWith ['\n'] r.description)), r.parameters, r.tags⟩

end Docstring

end HintSchema.Docs

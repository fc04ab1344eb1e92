import HintSchema.Pairs
import HintSchema.Settings.Toml.Scalar

/-!
TOML documents: keys, arrays, tables, and the rules on which tables may be opened again.
-/

namespace HintSchema.Toml

/-- A table that a header has opened cannot be opened again; an inline value is never added to. -/
inductive Mark where
  | opened
  | inlined
  deriving DecidableEq, Repr

abbrev KeyPath := List String

/-- The marks of paths. An inline mark also counts for every path below. -/
abbrev Marks := List (KeyPath × Mark)

namespace Marks

def isOpened (marks : Marks) (path : KeyPath) : Bool := marks.contains (path, .opened)

def isInlined (marks : Marks) (path : KeyPath) : Bool :=
  marks.any fun (marked, mark) => mark == .inlined && !marked.isEmpty && marked.isPrefixOf path

def forget (marks : Marks) (path : KeyPath) : Marks := marks.filter fun p => !path.isPrefixOf p.1

end Marks

/-- Changes the table at a path, through tables that are created where they are missing. In an array
of tables the path goes on in the last one, if it may. -/
def changeAt (throughArrays : Bool) (change : Table → Option Table) : KeyPath → Table → Option Table
  | [], members => change members
  | key :: path, members =>
    match members.lookup key with
    | none => (changeAt throughArrays change path []).map fun inner =>
        Pairs.put members key (.table inner)
    | some (.table inner) => (changeAt throughArrays change path inner).map fun inner =>
        Pairs.put members key (.table inner)
    | some (.array items) =>
      match throughArrays, items.getLast? with
      | true, some (.table inner) => (changeAt throughArrays change path inner).map fun inner =>
          Pairs.put members key (.array (items.dropLast ++ [.table inner]))
      | _, _ => none
    | some _ => none

def addMember (key : String) (value : Toml) (table : Table) : Option Table :=
  if Pairs.has table key then none else some (Pairs.put table key value)

def addToArray (key : String) (table : Table) : Option Table :=
  match table.lookup key with
  | none => some (Pairs.put table key (.array [.table []]))
  | some (.array items) => some (Pairs.put table key (.array (items ++ [.table []])))
  | some _ => none

def isNested : Toml → Bool
  | .array _ | .table _ => true
  | _ => false

def skipBlanks : Scan Unit := Scan.skipWhile isBlank

def skipComment : Scan Unit := do
  if (← Scan.peek) = some '#' then
    let chars ← get
    let comment := chars.takeWhile (· ≠ '\n')
    if comment.all (!isControl ·) then set (chars.drop comment.length) else Scan.malformed

def skipBetweenItems : Nat → Scan Unit
  | 0 => pure ()
  | limit + 1 => do
    Scan.skipWhile isBlankOrFeed
    if (← Scan.peek) = some '#' then
      skipComment
      skipBetweenItems limit

def skipSpace : Scan Unit := do skipBetweenItems ((← get).length + 1)

def isKeyChar (c : Char) : Bool := c.isAlphanum || c == '-' || c == '_'

def keyPart : Scan String := do
  match ← Scan.peek with
  | none => Scan.malformed
  | some c =>
    if isKeyChar c then
      let part := (← get).takeWhile isKeyChar
      Scan.skip part.length
      return .ofList part
    else if c = singleQuote ∨ c = doubleQuote then return .ofList (← oneLine c)
    else Scan.malformed

def moreKeyParts : Nat → Scan KeyPath
  | 0 => return []
  | limit + 1 => do
    skipBlanks
    if ← Scan.accept ['.'] then
      skipBlanks
      let part ← keyPart
      return part :: (← moreKeyParts limit)
    return []

def key : Scan KeyPath := do
  let first ← keyPart
  return first :: (← moreKeyParts ((← get).length + 1))

def keyAndValue (value : Scan Toml) : Scan (KeyPath × Toml) := do
  let path ← key
  Scan.expect ['=']
  skipBlanks
  return (path, ← value)

def arrayItems (value : Scan Toml) : Nat → Scan (List Toml)
  | 0 => Scan.malformed
  | limit + 1 => do
    skipSpace
    if ← Scan.accept [']'] then return []
    let item ← value
    skipSpace
    if ← Scan.accept [']'] then return [item]
    Scan.expect [',']
    return item :: (← arrayItems value limit)

/-- The members of an inline table, of which the first is not optional. -/
def inlineMembers (value : Scan Toml) : Nat → Table → Marks → Scan Table
  | 0, _, _ => Scan.malformed
  | limit + 1, before, marks => do
    let (path, item) ← keyAndValue value
    if marks.isInlined path then Scan.malformed
    else
      match changeAt false (addMember (path.getLastD "") item) path.dropLast before with
      | none => Scan.malformed
      | some members =>
        skipBlanks
        if ← Scan.accept ['\x7d'] then return members
        Scan.expect [',']
        skipBlanks
        inlineMembers value limit members
          (if isNested item then (path, .inlined) :: marks else marks)

/-- A value, for nestings up to the given depth. -/
def valueWithin : Nat → Scan Toml
  | 0 => Scan.malformed
  | depth + 1 => do
    let chars ← get
    match chars with
    | [] => Scan.malformed
    | c :: rest =>
      if c = singleQuote ∨ c = doubleQuote then return .text (← quotedText c)
      else if c = '[' then
        set rest
        return .array (← arrayItems (valueWithin depth) chars.length)
      else if c = '\x7b' then
        set rest
        skipBlanks
        if ← Scan.accept ['\x7d'] then return .table []
        return .table (← inlineMembers (valueWithin depth) chars.length [] [])
      else
        match bare chars with
        | .ok (value, rest) =>
          set rest
          return value
        | .error fault => throw fault

/-- What has been read: the members, the marks, and those marks that count from the next header on.
-/
structure Reading where
  root : Table := []
  marks : Marks := []
  pending : Marks := []
  header : KeyPath := []

namespace Reading

/-- Each dotted part of a key opens a table, which later headers cannot open again. -/
def addValue (r : Reading) (path : KeyPath) (value : Toml) : Option Reading :=
  let opens := (List.range (path.length - 1)).map fun n => r.header ++ path.take (n + 1)
  let parent := r.header ++ path.dropLast
  if opens.any r.marks.isOpened || r.marks.isInlined parent then none
  else
    (changeAt true (addMember (path.getLastD "") value) parent r.root).map fun root =>
      { r with
        root
        pending := opens.map (·, Mark.opened) ++ r.pending
        marks := if isNested value then (r.header ++ path, .inlined) :: r.marks else r.marks }

def beforeHeader (r : Reading) : Reading :=
  { r with marks := r.pending ++ r.marks, pending := [] }

def openTable (r : Reading) (path : KeyPath) : Option Reading :=
  if r.marks.isOpened path || r.marks.isInlined path then none
  else
    (changeAt true some path r.root).map fun root =>
      { r with root, marks := (path, .opened) :: r.marks, header := path }

def openArrayItem (r : Reading) (path : KeyPath) : Option Reading :=
  if r.marks.isInlined path then none
  else
    (changeAt true (addToArray (path.getLastD "")) path.dropLast r.root).map fun root =>
      { r with root, marks := (path, .opened) :: r.marks.forget path, header := path }

end Reading

def accepted {α : Type} : Option α → Scan α
  | some value => return value
  | none => Scan.malformed

def tableHeader (r : Reading) : Scan Reading := do
  let r := r.beforeHeader
  if ← Scan.accept ['[', '['] then
    skipBlanks
    let r ← accepted (r.openArrayItem (← key))
    Scan.expect [']', ']']
    return r
  Scan.expect ['[']
  skipBlanks
  let r ← accepted (r.openTable (← key))
  Scan.expect [']']
  return r

def statement (r : Reading) (c : Char) : Scan Reading := do
  if isKeyChar c || c == singleQuote || c == doubleQuote then
    let (path, value) ← keyAndValue (valueWithin ((← get).length + 1))
    accepted (r.addValue path value)
  else if c = '[' then tableHeader r
  else if c = '#' then return r
  else Scan.malformed

def statements : Nat → Reading → Scan Reading
  | 0, r => return r
  | limit + 1, r => do
    skipBlanks
    match ← Scan.peek with
    | none => return r
    | some '\n' =>
      Scan.skip 1
      statements limit r
    | some c =>
      let r ← statement r c
      skipBlanks
      skipComment
      match ← Scan.peek with
      | none => return r
      | some '\n' =>
        Scan.skip 1
        statements limit r
      | some _ => Scan.malformed

def dropReturns : List Char → List Char
  | '\r' :: '\n' :: rest => '\n' :: dropReturns rest
  | c :: rest => c :: dropReturns rest
  | [] => []

def read (chars : List Char) : Except SyntaxFault Table := do
  let chars := dropReturns chars
  let (r, _) ← (statements (chars.length + 1) {}).run chars
  return r.root

end HintSchema.Toml

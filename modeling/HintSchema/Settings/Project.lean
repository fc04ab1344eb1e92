import HintSchema.Files.Tree
import HintSchema.Settings.Toml.Document
import HintSchema.Settings.Version

/-!
The settings of a project: a table in the nearest settings file at or above a directory, over given
defaults.
-/

namespace HintSchema

/-- Why the settings of a project cannot be used. -/
inductive SettingsFault where
  /-- The file is no document. -/
  | malformed (file : Path)
  /-- The table holds a value that cannot be used. -/
  | invalid (file : Path) (message : String)
  /-- The file is no text. -/
  | notText
  /-- The file holds a number with too many digits. -/
  | tooManyDigits (count : Nat)
  /-- What should hold the table is no table. -/
  | toolNotTable
  /-- What should be the table is none. -/
  | notTable
  deriving DecidableEq, Repr

namespace Settings

def fileName : String := "pyproject.toml"

def toolName : String := "tool"

def tableName : String := "functions-sdk"

def versionKey : String := "python-version"

def searchPathsKey : String := "search-paths"

def loadErrorMessage : String := "Error loading project configuration (" ++ fileName ++ ")"

def searchPathsMessage : String := "'search-paths' must be a list of strings"

def nullMessage : String := "embedded null byte"

def tooLongMessage : String :=
  "Exceeds the limit (" ++ toString Number.digitLimit ++
    " digits) for integer string conversion; use sys.set_int_max_str_digits() to increase the limit"

def find? (tree : FileTree) (directory : Path) : Option Path :=
  let start := tree.resolve directory
  ((start :: start.ancestors).map (· / fileName)).find? tree.isFile

def readDocument (file : Path) (bytes : ByteArray) : Except SettingsFault Toml.Table :=
  match String.fromUTF8? bytes with
  | none => .error .notText
  | some text =>
    match Toml.read text.toList with
    | .ok document => .ok document
    | .error .malformed => .error (.malformed file)
    | .error (.tooManyDigits count) => .error (.tooManyDigits count)

/-- What stands in the place of the table; an empty table if there is nothing. -/
def tableOf (document : Toml.Table) : Except SettingsFault Toml :=
  match document.lookup toolName with
  | none => .ok (.table [])
  | some (.table tools) => .ok ((tools.lookup tableName).getD (.table []))
  | some _ => .error .toolNotTable

def occursIn (needle : String) (text : String) : Bool := (text.splitOn needle).length > 1

/-- Whether a value that is no table seems to hold a key: a text a part, a list an item. Other
values hold nothing at all. -/
def mentions? (key : String) : Toml → Option Bool
  | .text value => some (occursIn key value)
  | .array items => some (items.any fun item => item.text? == some key)
  | _ => none

def searchPath (file : Path) (tree : FileTree) (entry : String) : Except SettingsFault String :=
  if entry.contains '\x00' then .error (.invalid file nullMessage)
  else .ok (tree.resolve (file.parent / entry)).toString

def searchPathsIn (file : Path) (tree : FileTree) (value : Toml) :
    Except SettingsFault (List String) :=
  match value with
  | .array items =>
    match items.mapM Toml.text? with
    | some entries => entries.mapM (searchPath file tree)
    | none => .error (.invalid file searchPathsMessage)
  | _ => .error (.invalid file searchPathsMessage)

def versionIn (file : Path) (value : Toml) : Except SettingsFault Version :=
  if value.isTooLong then .error (.invalid file tooLongMessage)
  else
    match Version.parse value.plain value.quoted with
    | .ok version => .ok version
    | .error error => .error (.invalid file error.message)

def withVersion (s : Settings) (file : Path) (table : Toml.Table) :
    Except SettingsFault Settings := do
  match table.lookup versionKey with
  | none => return s
  | some value => return { s with version := some (← versionIn file value) }

def withSearchPaths (s : Settings) (file : Path) (tree : FileTree) (table : Toml.Table) :
    Except SettingsFault Settings := do
  match table.lookup searchPathsKey with
  | none => return s
  | some value => return { s with searchPaths := ← searchPathsIn file tree value }

def withTable (s : Settings) (file : Path) (tree : FileTree) (table : Toml.Table) :
    Except SettingsFault Settings := do
  (← s.withVersion file table).withSearchPaths file tree table

def load (tree : FileTree) (directory : Path) (defaults : Settings) :
    Except SettingsFault Settings := do
  match find? tree directory with
  | none => return defaults
  | some file =>
    let bytes := (tree.locate? file).bind tree.fileAt?
    let document ← readDocument file (bytes.getD .empty)
    let value ← tableOf document
    let settings := { defaults with origin := some file }
    if value.isEmpty then return settings
    match value with
    | .table table => settings.withTable file tree table
    | other =>
      match mentions? versionKey other, mentions? searchPathsKey other with
      | some false, some false => return settings
      | _, _ => throw .notTable

end Settings

end HintSchema

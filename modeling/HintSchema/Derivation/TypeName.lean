import HintSchema.Derivation.TypePath
import HintSchema.Handle.Basic

/-!
Names of object types. A type of another module below the functions file carries the module's path.
-/

namespace HintSchema

inductive NameFault where
  | noSymbol (path : TypePath)
  | noDeclaration (name : String)
  | outside (name file : String)
  | noModuleName
  | emptyUnion
  deriving DecidableEq, Repr

namespace NameFault

def outsideMessage (name file : String) : String :=
  "Unsupported location for type " ++ name ++ " in " ++ file

def message : NameFault → String
  | noSymbol path => "Couldn't find symbol for type at " ++ path.text
  | noDeclaration name => "Couldn't find any declarations for type " ++ name
  | outside name file => outsideMessage name file
  | noModuleName => "PosixPath('.') has an empty name"
  | emptyUnion => "tuple index out of range"

end NameFault

namespace TypeName

def isNameStart (c : Char) : Bool := c.isAlpha || c == '_'

def isNameRest (c : Char) : Bool := c.isAlphanum || c == '_'

def sanitize (name : String) : String :=
  .ofList ((name.toList.dropWhile fun c => !isNameStart c).map fun c =>
    if isNameRest c then c else '_')

/-- The path of a module below a directory, as in `models/user`. -/
def modulePath? (file root : Path) : Option String :=
  match file.below? root with
  | none | some [] => none
  | some parts =>
    let parts := parts.dropLast ++ [file.stem]
    some ("/".intercalate (if parts.getLast? = some "__init__" then parts.dropLast else parts))

/-- The symbol of a handle; a union goes by its first member. -/
def symbolOf (path : TypePath) (handle : Handle) : Except NameFault Symbol :=
  match handle.symbol?, handle with
  | some symbol, _ => .ok symbol
  | none, .union [] => .error .emptyUnion
  | none, .union (first :: _) =>
    match first.symbol? with
    | some symbol => .ok symbol
    | none => .error (.noSymbol path)
  | none, _ => .error (.noSymbol path)

/-- The first declaration decides: a type of the functions file keeps its name, and one outside the
functions file's directory has none. -/
def qualify (handle : Handle) (path : TypePath) (name : Option String) (entry cwd : Path) :
    Except NameFault String := do
  let symbol ← symbolOf path handle
  let name := (name.filter (!·.isEmpty)).getD path.typeName
  match symbol.declarations with
  | [] => .error (.noDeclaration name)
  | declaration :: _ =>
    let file := (Path.ofString declaration.file).resolve cwd
    let root := entry.parent
    if file = entry then .ok (sanitize name)
    else if file.isBelow root then
      match modulePath? file root with
      | some module => .ok (sanitize (module ++ "_" ++ name))
      | none => .error .noModuleName
    else .error (.outside name file.toString)

end TypeName

end HintSchema

import HintSchema.Modules.Source
import HintSchema.Settings.Basic

/-!
A functions file together with every module that its imports could reach, and the search for a
module by its name. Nothing is ever run.
-/

namespace HintSchema

/-- Where a module may be found: below one of the directories, the first that has it. -/
structure Resolver where
  tree : FileTree
  directories : List Path

namespace Resolver

/-- Directories that do not exist or come twice are left out, the first one is always kept. -/
def make (tree : FileTree) (root : Path) (searchPaths : List String) : Resolver :=
  ⟨tree, searchPaths.foldl (fun dirs entry =>
    let directory := tree.resolve (.ofString entry)
    if tree.isDirectory directory && !dirs.contains directory then dirs ++ [directory] else dirs)
    [root]⟩

def joinAll (base : Path) (parts : List String) : Path := parts.foldl (· / ·) base

/-- A package comes before a module, a module before its stub. -/
def candidates (base : Path) (parts : List String) : List Path :=
  match parts.getLast? with
  | none => [base / "__init__.py"]
  | some last =>
    let directory := joinAll base parts.dropLast
    [joinAll base parts / "__init__.py", directory / (last ++ ".py"), directory / (last ++ ".pyi")]

def findIn? (r : Resolver) (base : Path) (parts : List String) : Option Path :=
  (candidates base parts).find? r.tree.isFile

def findModule? (r : Resolver) (module : String) : Option Path :=
  r.directories.findSome? fun directory => r.findIn? directory (Text.splitAt '.' module)

/-- One dot is the directory of the importing file, each further dot its parent. -/
def findRelative? (r : Resolver) (importer : Path) (module : Option String) (level : Nat) :
    Option Path :=
  let base := (List.replicate (level - 1) ()).foldl (fun base _ => base.parent) importer.parent
  let parts := match module with
    | some name => if name.isEmpty then [] else Text.splitAt '.' name
    | none => []
  r.findIn? base parts

/-- The dotted name under which a file is imported from the first directory above it. -/
def moduleName (r : Resolver) (path : Path) : String :=
  match r.directories.findSome? path.below? with
  | none => path.stem
  | some parts =>
    let parts := parts.dropLast ++ [path.stem]
    ".".intercalate (if parts.getLast? = some "__init__" then parts.dropLast else parts)

end Resolver

structure NameKey where
  file : Path
  name : String
  deriving DecidableEq, Repr

structure ClassKey where
  file : Path
  pos : Position
  deriving DecidableEq, Repr

structure Program where
  resolver : Resolver
  entry : Path
  sources : List SourceFile

inductive VersionFault where
  | unknownMajor
  | minorOutOfRange
  deriving DecidableEq, Repr

namespace Version

/-- The largest minor version that can be asked for, in absolute value. -/
def limit : Int := 2147483647

/-- A negative minor version asks for the current one. -/
def dialect (v : Version) : Except VersionFault Lexer.Dialect :=
  if v.major ≠ 3 then .error .unknownMajor
  else if v.minor > limit ∨ v.minor < -limit - 1 then .error .minorOutOfRange
  else .ok (if v.minor < 0 then Parser.currentDialect else v.minor.toNat)

end Version

namespace Program

def isModulePath (path : Path) : Bool := path.name.endsWith ".py" || path.name.endsWith ".pyi"

/-- The program of a functions file, which need not exist. A version is only asked for when the
functions file is text. -/
def load (tree : FileTree) (libraries : List String) (entry : Path) (settings : Settings) :
    Except VersionFault Program := do
  let entry := tree.resolve entry
  let resolver := Resolver.make tree entry.parent (settings.searchPaths ++ libraries)
  let readable := ((tree.fileAt? entry).bind SourceFile.decode?).isSome
  let dialect ← match settings.version with
    | some version => if readable then version.dialect else pure Parser.currentDialect
    | none => pure Parser.currentDialect
  let sources := tree.files.filterMap fun (path, bytes) =>
    if path = entry || isModulePath path then
      some (.read dialect (resolver.moduleName path) path bytes)
    else none
  pure ⟨resolver, entry, sources⟩

def ofLines (entry : Path) (lines : List String) : Program :=
  ⟨.make ⟨entry.parent, [], []⟩ entry.parent [], entry, [.ofLines entry lines]⟩

/-- The program of modules that stand next to each other, by their lines. -/
def ofModules (modules : List (String × List String)) : Program :=
  let home : Path := ⟨.root, ["app"]⟩
  let files := modules.map fun m => SourceFile.ofLines (home / m.1) m.2
  let resolver := Resolver.make ⟨home, files.map fun s => (s.path, .empty), []⟩ home []
  ⟨resolver, home / "functions.py",
    files.map fun s => { s with module := resolver.moduleName s.path }⟩

def root (P : Program) : Path := P.entry.parent

def source? (P : Program) (path : Path) : Option SourceFile := P.sources.find? (·.path = path)

def source (P : Program) (path : Path) : SourceFile := (P.source? path).getD (.missing path)

def isLocal (P : Program) (path : Path) : Bool := path.isBelow P.root

/-- The files that are open before anything is asked. -/
def initial (P : Program) : List Path := if (P.source? P.entry).isSome then [P.entry] else []

def resolveImport? (P : Program) (importer : Path) (module : Option String) (level : Nat) :
    Option Path :=
  let found := if level > 0 then P.resolver.findRelative? importer module level
    else match module with
      | some name => if name.isEmpty then none else P.resolver.findModule? name
      | none => none
  found.map P.resolver.tree.resolve

def resolveSubmodule? (P : Program) (package : Path) (name : String) : Option Path :=
  if (P.source package).isPackage then
    (P.resolver.findIn? package.parent [name]).map P.resolver.tree.resolve
  else none

def aliases (P : Program) : List NameKey :=
  P.sources.flatMap fun s => s.scope.names.filterMap fun (name, bound) =>
    match bound with
    | .alias _ => some ⟨s.path, name⟩
    | _ => none

def classes (P : Program) : List ClassKey :=
  P.sources.flatMap fun s => s.scope.names.filterMap fun (_, bound) =>
    match bound with
    | .classDef definition => some ⟨s.path, definition.pos⟩
    | _ => none

def reachableNames (P : Program) (name : String) : List String :=
  name :: P.sources.flatMap fun s => s.scope.names.filterMap fun (_, bound) =>
    match bound with
    | .member _ _ source => some source
    | _ => none

/-- A search visits no name of a module twice. -/
def searchLimit (P : Program) (name : String) : Nat :=
  P.sources.length * (P.reachableNames name).length + 1

end Program

end HintSchema

import HintSchema.Files.Path

/-!
A tree of files as a value: what each absolute path holds.
-/

namespace HintSchema

/-- Paths are normal and absolute; every ancestor of a file is a directory. -/
structure FileTree where
  cwd : Path
  files : List (Path × ByteArray)
  directories : List Path

namespace FileTree

def fileAt? (t : FileTree) (p : Path) : Option ByteArray := t.files.lookup p

def holdsDirectory (t : FileTree) (p : Path) : Bool :=
  t.directories.any (·.isBelow p) || t.files.any (·.1.parent.isBelow p)

/-- Where a walk along the components ends, if each step leaves from a directory. -/
def walk (t : FileTree) (place : Path) : List String → Option Path
  | [] => some place
  | part :: rest =>
    if t.holdsDirectory place then
      if part = ".." then t.walk place.parent rest
      else t.walk { place with parts := place.parts ++ [part] } rest
    else none

def locate? (t : FileTree) (p : Path) : Option Path :=
  let whole := t.cwd.append p
  t.walk ⟨whole.anchor, []⟩ whole.parts

def isFile (t : FileTree) (p : Path) : Bool :=
  match t.locate? p with
  | some place => (t.fileAt? place).isSome
  | none => false

def isDirectory (t : FileTree) (p : Path) : Bool :=
  match t.locate? p with
  | some place => t.holdsDirectory place
  | none => false

def resolve (t : FileTree) (p : Path) : Path := p.resolve t.cwd

end FileTree

end HintSchema

import HintSchema.Text.Split

/-!
Slash-separated paths, without empty and single-dot components.
-/

namespace HintSchema

/-- Two slashes at the start, and no more, are kept as two. -/
inductive Anchor where
  | relative
  | root
  | doubleRoot
  deriving DecidableEq, Repr

structure Path where
  anchor : Anchor
  parts : List String
  deriving DecidableEq, Repr

namespace Anchor

def text : Anchor → String
  | relative => ""
  | root => "/"
  | doubleRoot => "//"

end Anchor

namespace Path

def components (s : String) : List String :=
  (Text.splitAt '/' s).filter fun part => part ≠ "" && part ≠ "."

def anchorOf (s : String) : Anchor :=
  match s.toList with
  | '/' :: '/' :: '/' :: _ => .root
  | '/' :: '/' :: _ => .doubleRoot
  | '/' :: _ => .root
  | _ => .relative

def ofString (s : String) : Path := ⟨anchorOf s, components s⟩

def toString (p : Path) : String :=
  match p.anchor, p.parts with
  | .relative, [] => "."
  | anchor, parts => anchor.text ++ "/".intercalate parts

instance : ToString Path := ⟨toString⟩

/-- A further path replaces everything before it if it is absolute. -/
def append (p q : Path) : Path :=
  match q.anchor with
  | .relative => ⟨p.anchor, p.parts ++ q.parts⟩
  | _ => q

instance : HDiv Path String Path := ⟨fun p s => p.append (ofString s)⟩

def parent (p : Path) : Path := { p with parts := p.parts.dropLast }

def ancestors (p : Path) : List Path :=
  (List.range p.parts.length).reverse.map fun n => { p with parts := p.parts.take n }

def name (p : Path) : String := p.parts.getLast?.getD ""

/-- A name up to its last dot, if that dot is neither its first nor its last character. -/
def stemOf (name : String) : String :=
  let after := name.toList.reverse.takeWhile (· ≠ '.')
  let before := (name.toList.reverse.drop (after.length + 1)).reverse
  if after.isEmpty || before.isEmpty then name else .ofList before

def stem (p : Path) : String := stemOf p.name

def below? (p base : Path) : Option (List String) :=
  if p.anchor = base.anchor ∧ base.parts <+: p.parts then some (p.parts.drop base.parts.length)
  else none

def isBelow (p base : Path) : Bool := (p.below? base).isSome

/-- Double dots take the component before them away; above the root there is nothing. -/
def normalParts : List String → List String → List String
  | done, [] => done.reverse
  | done, ".." :: rest => normalParts done.tail rest
  | done, part :: rest => normalParts (part :: done) rest

def resolve (p cwd : Path) : Path :=
  let whole := cwd.append p
  { whole with parts := normalParts [] whole.parts }

end Path

end HintSchema

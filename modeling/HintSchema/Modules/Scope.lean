import HintSchema.Syntax.Statement

/-!
What the statements of a module bind, before any import is followed.
-/

namespace HintSchema

/-- The written form of a record in a call: its fields as a dictionary, and the other arguments. -/
structure RecordCall where
  pos : Position
  fields : Expr
  keywords : List Keyword

/-- A name's meaning as far as one statement tells it. -/
inductive Bound where
  | classDef (definition : ClassDef Statement)
  | alias (value : Expr)
  | typeVariable
  | recordCall (call : RecordCall)
  | value
  | module (name : String)
  | member (module : Option String) (level : Nat) (name : String)

/-- The bindings of a module, the latest first, its star imports, and the names it exports if it
lists them. -/
structure Scope where
  names : List (String × Bound) := []
  stars : List (Option String × Nat) := []
  exports : Option (List String) := none

namespace Scope

def empty : Scope := {}

/-- The bindings of a name, the last one first. -/
def boundTo (s : Scope) (name : String) : List Bound :=
  (s.names.filter (·.1 == name)).map (·.2)

def bind (s : Scope) (name : String) (bound : Bound) : Scope :=
  { s with names := (name, bound) :: s.names }

end Scope

namespace Expr

def textItems? : Expr → Option (List String)
  | list _ items | tuple _ items => some (items.filterMap fun
    | literal _ (.text value _) => value.chars?.map .ofList
    | _ => none)
  | _ => none

def isAliasMarker (hint : Expr) : Bool :=
  match hint.dotted? with
  | some dotted => ["TypeAlias", "typing.TypeAlias", "typing_extensions.TypeAlias"].contains dotted
  | none => false

end Expr

namespace Bound

def typeVariableMakers : List String := ["TypeVar", "ParamSpec", "TypeVarTuple"]

def ofAssignment : Expr → Bound
  | .call pos callee arguments keywords =>
    let maker := Expr.lastName (callee.dotted?.getD "")
    if typeVariableMakers.contains maker then .typeVariable
    else
      match maker, arguments with
      | "TypedDict", _ :: fields :: _ =>
        match fields with
        | .dict _ _ => .recordCall ⟨pos, fields, keywords⟩
        | _ => .value
      | _, _ => .value
  | assigned =>
    match assigned with
    | .name _ _ | .member _ _ _ | .subscript _ _ _ | .binary _ _ _ _ | .literal _ _ =>
      .alias assigned
    | _ => .value

end Bound

namespace Scope

def exportsName : String := "__all__"

def assign (s : Scope) (name : String) (value : Expr) : Scope :=
  let s := if name = exportsName then { s with exports := value.textItems? } else s
  s.bind name (.ofAssignment value)

def declare (s : Scope) (name : String) (hint : Expr) : Option Expr → Scope
  | none => s.bind name .value
  | some value =>
    if hint.isAliasMarker then s.bind name (.alias value)
    else
      let s := if name = exportsName then { s with exports := value.textItems? } else s
      s.bind name .value

/-- Without an alias, `import a.b` binds `a`. -/
def importModule (s : Scope) (item : ImportAlias) : Scope :=
  match item.asName with
  | some name => s.bind name (.module item.name)
  | none =>
    let top := String.ofList (item.name.toList.takeWhile (· ≠ '.'))
    s.bind top (.module top)

def importMember (module : Option String) (level : Nat) (s : Scope) (item : ImportAlias) : Scope :=
  if item.name = "*" then { s with stars := s.stars ++ [(module, level)] }
  else s.bind (item.asName.getD item.name) (.member module level item.name)

mutual

/-- Both branches of a condition bind, and so does every part of a `try`, unless its handlers take
groups apart. -/
def afterStatement (s : Scope) : Statement → Scope
  | .classDef definition => s.bind definition.name (.classDef definition)
  | .functionDef definition => s.bind definition.name .value
  | .importModules items => items.foldl importModule s
  | .importFrom _ module level items => items.foldl (importMember module level) s
  | .assign [.name _ id] value => s.assign id value
  | .declare (.name _ id) hint value _ => s.declare id hint value
  | .branch _ body orelse => (s.afterAll body).afterAll orelse
  | .attempt false body handlers orelse cleanup =>
    (((s.afterAll body).afterArms handlers).afterAll orelse).afterAll cleanup
  | _ => s

def afterAll (s : Scope) : List Statement → Scope
  | [] => s
  | statement :: rest => (s.afterStatement statement).afterAll rest

def afterArms (s : Scope) : List (Arm Statement) → Scope
  | [] => s
  | ⟨_, body⟩ :: rest => (s.afterAll body).afterArms rest

end

def ofStatements (statements : List Statement) : Scope := empty.afterAll statements

end Scope

end HintSchema

import HintSchema.Syntax.Traversal

/-!
Statements of the analysed language, with the blocks inside them.
-/

namespace HintSchema

/-- `name as alias`; a star import has the name `*`. -/
structure ImportAlias where
  name : String
  asName : Option String
  deriving DecidableEq, Repr

/-- `pos` is where the keyword stands, after the decorators. -/
structure ClassDef (α : Type) where
  pos : Position
  name : String
  bases : List Expr
  keywords : List Keyword
  decorators : List Expr
  body : List α

structure FunctionDef (α : Type) where
  isAsync : Bool
  name : String
  parameters : List Parameter
  returns : Option Expr
  decorators : List Expr
  body : List α

mutual

/-- What the subject of a match is held against. A star or a capture without a name takes anything.
-/
inductive Pattern where
  | value (constant : Expr)
  | sequence (items : List Pattern)
  | mapping (entries : List PatternEntry) (rest : Option String)
  | record (callee : Expr) (items : List Pattern) (fields : List PatternField)
  | star (name : Option String)
  | capture (name : Option String)
  | bind (inner : Pattern) (name : String)
  | either (items : List Pattern)

inductive PatternEntry where
  | mk (key : Expr) (value : Pattern)

inductive PatternField where
  | mk (name : String) (value : Pattern)

end

/-- What stands before a block of a `try` or of a match. -/
inductive ArmHead where
  | handler (caught : Option Expr) (name : Option String)
  | case (pattern : Pattern) (guard : Option Expr)

structure Arm (α : Type) where
  head : ArmHead
  body : List α

inductive LoopHead where
  | test (condition : Expr)
  | each (isAsync : Bool) (target source : Expr)

structure WithItem where
  context : Expr
  target : Option Expr

/-- Statements on one line that neither bind names nor import. -/
inductive SimpleStatement where
  | pass
  | breakLoop
  | continueLoop
  | returns (value : Option Expr)
  | raises (raised : Option (Expr × Option Expr))
  | delete (targets : List Expr)
  | assert (condition : Expr) (message : Option Expr)
  | globals (names : List String)
  | nonlocals (names : List String)

/-- A declaration is `bare` unless its target stands in parentheses, an attempt `groups` if its
handlers take groups of exceptions apart. -/
inductive Statement where
  | classDef (definition : ClassDef Statement)
  | functionDef (definition : FunctionDef Statement)
  | importModules (names : List ImportAlias)
  | importFrom (pos : Position) (module : Option String) (level : Nat) (names : List ImportAlias)
  | assign (targets : List Expr) (value : Expr)
  | augment (target : Expr) (op : BinaryOp) (value : Expr)
  | declare (target hint : Expr) (value : Option Expr) (bare : Bool)
  | expression (value : Expr)
  | branch (test : Expr) (body orelse : List Statement)
  | loop (head : LoopHead) (body orelse : List Statement)
  | within (isAsync : Bool) (items : List WithItem) (body : List Statement)
  | attempt (groups : Bool) (body : List Statement) (handlers : List (Arm Statement))
      (orelse cleanup : List Statement)
  | choice (subject : Expr) (arms : List (Arm Statement))
  | simple (statement : SimpleStatement)

structure RelativeImport where
  pos : Position
  module : Option String
  level : Nat
  deriving DecidableEq, Repr

namespace Statement

mutual

/-- The from-imports with dots, each with the depth of its node. Handlers and cases are nodes of
their own. -/
def relativeImportsAt (depth : Nat) : Statement → List (Nat × RelativeImport)
  | .importFrom pos module level _ => if level = 0 then [] else [(depth, ⟨pos, module, level⟩)]
  | .classDef ⟨_, _, _, _, _, body⟩ => relativeImportsOf (depth + 1) body
  | .functionDef ⟨_, _, _, _, _, body⟩ => relativeImportsOf (depth + 1) body
  | .branch _ body orelse | .loop _ body orelse =>
    relativeImportsOf (depth + 1) body ++ relativeImportsOf (depth + 1) orelse
  | .within _ _ body => relativeImportsOf (depth + 1) body
  | .attempt _ body handlers orelse cleanup =>
    relativeImportsOf (depth + 1) body ++ relativeImportsOfArms (depth + 2) handlers ++
      relativeImportsOf (depth + 1) orelse ++ relativeImportsOf (depth + 1) cleanup
  | .choice _ arms => relativeImportsOfArms (depth + 2) arms
  | _ => []

def relativeImportsOf (depth : Nat) : List Statement → List (Nat × RelativeImport)
  | [] => []
  | s :: rest => relativeImportsAt depth s ++ relativeImportsOf depth rest

def relativeImportsOfArms (depth : Nat) : List (Arm Statement) → List (Nat × RelativeImport)
  | [] => []
  | ⟨_, body⟩ :: rest => relativeImportsOf depth body ++ relativeImportsOfArms depth rest

end

def relativeImports (statements : List Statement) : List RelativeImport :=
  ((relativeImportsOf 0 statements).mergeSort fun a b => a.1 ≤ b.1).map (·.2)

def documentation? : List Statement → Option CodeText
  | .expression (.literal _ (.text value _)) :: _ => some value
  | _ => none

end Statement

end HintSchema

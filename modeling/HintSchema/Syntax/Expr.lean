import HintSchema.Decimal.Binary64
import HintSchema.Text.CodePoint

/-!
Expressions of the analysed language, as far as their written form decides anything: every node
keeps where it starts, no node keeps its parentheses.
-/

namespace HintSchema

/-- Lines count from one, columns are bytes of the line before the node. -/
structure Position where
  line : Nat
  column : Nat
  deriving DecidableEq, Repr, Inhabited

/-- A text remembers whether it was marked with a `u`. -/
inductive Literal where
  | none
  | true
  | false
  | ellipsis
  | int (value : Nat)
  | float (value : Binary64)
  | imaginary (value : Binary64)
  | text (value : CodeText) (marked : Bool)
  | bytes (value : List UInt8)
  deriving DecidableEq, Repr

inductive BinaryOp where
  | add | sub | mul | matMul | div | mod | pow | leftShift | rightShift
  | bitOr | bitXor | bitAnd | floorDiv
  deriving DecidableEq, Repr

inductive UnaryOp where
  | invert | not | plus | minus
  deriving DecidableEq, Repr

inductive BoolOp where
  | and | or
  deriving DecidableEq, Repr

inductive CompareOp where
  | eq | notEq | less | lessEq | greater | greaterEq | is | isNot | isIn | notIn
  deriving DecidableEq, Repr

inductive ParameterKind where
  | positionalOnly | positionalOrKeyword | variadicPositional | keywordOnly | variadicKeyword
  deriving DecidableEq, Repr

inductive ComprehensionKind where
  | list | set | generator
  deriving DecidableEq, Repr

mutual

/-- The spec of a `replacement` is again an `interpolated` text. -/
inductive Expr where
  | name (pos : Position) (id : String)
  | literal (pos : Position) (value : Literal)
  | member (pos : Position) (value : Expr) (attr : String)
  | subscript (pos : Position) (value index : Expr)
  | call (pos : Position) (callee : Expr) (arguments : List Expr) (keywords : List Keyword)
  | binary (pos : Position) (op : BinaryOp) (left right : Expr)
  | unary (pos : Position) (op : UnaryOp) (operand : Expr)
  | boolean (pos : Position) (op : BoolOp) (operands : List Expr)
  | compare (pos : Position) (first : Expr) (rest : List Comparison)
  | conditional (pos : Position) (test body orelse : Expr)
  | lambda (pos : Position) (parameters : List Parameter) (body : Expr)
  | tuple (pos : Position) (items : List Expr)
  | list (pos : Position) (items : List Expr)
  | set (pos : Position) (items : List Expr)
  | dict (pos : Position) (items : List DictItem)
  | comprehension (pos : Position) (kind : ComprehensionKind) (element : Expr)
      (clauses : List Clause)
  | dictComprehension (pos : Position) (key value : Expr) (clauses : List Clause)
  | await (pos : Position) (value : Expr)
  | yield (pos : Position) (value : Option Expr)
  | yieldFrom (pos : Position) (value : Expr)
  | starred (pos : Position) (value : Expr)
  | named (pos : Position) (target value : Expr)
  | slice (pos : Position) (lower upper step : Option Expr)
  | interpolated (pos : Position) (parts : List Expr)
  | replacement (pos : Position) (value : Expr) (conversion : Option Char) (spec : Option Expr)

/-- Without a name the argument is spread over the remaining keywords. -/
inductive Keyword where
  | mk (name : Option String) (value : Expr)

inductive Comparison where
  | mk (op : CompareOp) (right : Expr)

inductive DictItem where
  | pair (key value : Expr)
  | spread (value : Expr)

inductive Clause where
  | mk (isAsync : Bool) (target source : Expr) (conditions : List Expr)

inductive Parameter where
  | mk (kind : ParameterKind) (name : String) (hint : Option Expr) (default : Option Expr)

end

instance : Inhabited Expr := ⟨.name default ""⟩

namespace Parameter

def kind : Parameter → ParameterKind
  | mk kind _ _ _ => kind

def name : Parameter → String
  | mk _ name _ _ => name

def hint : Parameter → Option Expr
  | mk _ _ hint _ => hint

def default : Parameter → Option Expr
  | mk _ _ _ default => default

end Parameter

namespace Keyword

def name : Keyword → Option String
  | mk name _ => name

def value : Keyword → Expr
  | mk _ value => value

end Keyword

namespace Expr

def pos : Expr → Position
  | name pos _ | literal pos _ | member pos _ _ | subscript pos _ _ | call pos _ _ _
  | binary pos _ _ _ | unary pos _ _ | boolean pos _ _ | compare pos _ _ | conditional pos _ _ _
  | lambda pos _ _ | tuple pos _ | list pos _ | set pos _ | dict pos _ | comprehension pos _ _ _
  | dictComprehension pos _ _ _ | await pos _ | yield pos _ | yieldFrom pos _ | starred pos _
  | named pos _ _ | slice pos _ _ _ | interpolated pos _ | replacement pos _ _ _ => pos

/-- `a.b.c` for a chain of members that starts at a name. -/
def dotted? : Expr → Option String
  | name _ id => some id
  | member _ value attr => value.dotted?.map (· ++ "." ++ attr)
  | _ => none

/-- The last component of a dotted name. -/
def lastName (dotted : String) : String :=
  .ofList (dotted.toList.reverse.takeWhile (· != '.')).reverse

def callee : Expr → Expr
  | call _ target _ _ => target
  | e => e

def base : Expr → Expr
  | subscript _ value _ => value
  | e => e

/-- The arguments inside a subscript: a tuple holds several. -/
def indices : Expr → List Expr
  | tuple _ items => items
  | e => [e]

end Expr

end HintSchema

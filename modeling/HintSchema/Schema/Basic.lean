import HintSchema.Pairs

/-!
The schema of a module's functions: what they take and return, and the object and scalar types that
those mention.
-/

namespace HintSchema.Schema

inductive TypeKind where
  | scalar | object
  deriving DecidableEq, Repr

/-- How a value may be absent: as a null, by being left out, or either way. -/
inductive Absence where
  | null | undefined | either
  deriving DecidableEq, Repr

inductive TypeDef where
  | named (name : String) (kind : TypeKind)
  | nullable (underlying : TypeDef) (absence : Absence)
  | array (element : TypeDef)
  deriving DecidableEq, Repr

inductive FunctionKind where
  | query | mutation
  deriving DecidableEq, Repr

structure Argument where
  name : String
  type : TypeDef
  description : Option String := none
  deriving DecidableEq, Repr

structure FunctionEntry where
  kind : FunctionKind
  result : TypeDef
  arguments : List Argument := []
  description : Option String := none
  deriving DecidableEq, Repr

structure Property where
  name : String
  type : TypeDef
  deriving DecidableEq, Repr

structure ObjectType where
  properties : List Property := []
  deriving DecidableEq, Repr

end HintSchema.Schema

namespace HintSchema

open Schema

/-- Everything derived from one functions file, in the order of derivation. -/
structure FunctionsSchema where
  functions : List (String × FunctionEntry) := []
  objectTypes : List (String × ObjectType) := []
  scalarTypes : List String := []
  deriving DecidableEq, Repr

namespace Schema

namespace TypeKind

def text : TypeKind → String
  | scalar => "scalar"
  | object => "object"

end TypeKind

namespace Absence

def text : Absence → String
  | null => "accepts_null_only"
  | undefined => "accepts_undefined_only"
  | either => "accepts_either"

end Absence

namespace FunctionKind

def text : FunctionKind → String
  | query => "query"
  | mutation => "mutation"

end FunctionKind

namespace TypeDef

def isNullable : TypeDef → Bool
  | nullable _ _ => true
  | _ => false

def nullable? (underlying : TypeDef) (absence : Absence) : Option TypeDef :=
  if underlying.isNullable then none else some (.nullable underlying absence)

end TypeDef

namespace FunctionEntry

def argument? (f : FunctionEntry) (name : String) : Option Argument :=
  f.arguments.find? (·.name = name)

end FunctionEntry

namespace ObjectType

def property? (t : ObjectType) (name : String) : Option Property :=
  t.properties.find? (·.name = name)

end ObjectType

end Schema

end HintSchema

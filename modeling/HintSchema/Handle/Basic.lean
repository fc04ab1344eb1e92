import HintSchema.Modules.Lookup

/-!
What a hint denotes. A handle never holds the properties of a record, so recursive types are finite
values.
-/

namespace HintSchema

structure Declaration where
  file : String
  line : Int
  column : Int
  deriving DecidableEq, Repr

/-- A named entity and where it is declared. -/
structure Symbol where
  name : String
  declarations : List Declaration
  deriving DecidableEq, Repr

namespace Symbol

def anonymousName : String := "__type"

def declaredAt (name : String) (file : Path) (pos : Position) : Symbol :=
  ⟨name, [⟨file.toString, pos.line, pos.column⟩]⟩

def isAnonymous (s : Symbol) : Bool := s.name == anonymousName

end Symbol

/-- `missing` stands for a value that may be left out. -/
inductive Intrinsic where
  | bool | str | int | float | none | missing | any
  deriving DecidableEq, Repr

inductive RecordKind where
  | typedDict | dataclass | namedTuple | inlineTypedDict
  deriving DecidableEq, Repr

/-- Where the fields of a record are written. -/
inductive RecordFields where
  | ofClass (definition : ClassDef Statement)
  | ofDict (fields : Expr)

/-- The declaration from which a record's properties are read. -/
structure RecordSource where
  kind : RecordKind
  file : Path
  fields : RecordFields
  name : Option String := none
  typeParameters : List String := []
  total : Bool := true

/-- An alias that is not expanded yet. -/
structure AliasRef where
  key : NameKey
  value : Expr

/-- `unsupported` is whatever a schema cannot express, kept as it is written. -/
inductive Handle where
  | intrinsic (kind : Intrinsic)
  | void (text : String)
  | union (members : List Handle)
  | list (name : String) (element : Handle)
  | awaitable (name : String) (arguments : List Handle)
  | classObject (symbol : Symbol) (arguments : List Handle)
  | record (symbol : Symbol) (source : RecordSource) (arguments : List Handle)
      (aliasName : Option String)
  | typeParameter (name : String)
  | unsupported (text : String) (symbol : Option Symbol)
  | deferred (target : AliasRef) (arguments : List Handle)

namespace Intrinsic

def text : Intrinsic → String
  | bool => "bool"
  | str => "str"
  | int => "int"
  | float => "float"
  | none => "None"
  | missing => "Missing"
  | any => "Any"

end Intrinsic

namespace RecordKind

def isTypedDict : RecordKind → Bool
  | typedDict | inlineTypedDict => true
  | _ => false

end RecordKind

namespace Handle

instance : Inhabited Handle := ⟨.intrinsic .any⟩

def any : Handle := .intrinsic .any

def none : Handle := .intrinsic .none

def missing : Handle := .intrinsic .missing

def symbol? : Handle → Option Symbol
  | classObject symbol _ | record symbol _ _ _ => some symbol
  | unsupported _ symbol => symbol
  | _ => .none

def arguments : Handle → List Handle
  | list _ element => [element]
  | awaitable _ arguments | classObject _ arguments | record _ _ arguments _
  | deferred _ arguments => arguments
  | _ => []

def members? : Handle → Option (List Handle)
  | union members => some members
  | _ => .none

def alternatives : Handle → List Handle
  | union members => members
  | h => [h]

end Handle

end HintSchema

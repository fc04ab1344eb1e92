import HintSchema.Json.Basic
import HintSchema.Schema.Basic

/-!
The schema as a data connector announces it: queries are functions, mutations are procedures, and
how a value is absent does not show.
-/

namespace HintSchema.Connector

open Schema

inductive TypeRef where
  | named (name : String)
  | nullable (underlying : TypeRef)
  | array (element : TypeRef)
  deriving DecidableEq, Repr

structure ArgumentInfo where
  type : TypeRef
  description : Option String
  deriving DecidableEq, Repr

structure FunctionInfo where
  name : String
  arguments : List (String × ArgumentInfo)
  result : TypeRef
  description : Option String
  deriving DecidableEq, Repr

structure SchemaResponse where
  scalarTypes : List String
  objectTypes : List (String × List (String × TypeRef))
  functions : List FunctionInfo
  procedures : List FunctionInfo
  deriving DecidableEq, Repr

namespace TypeRef

def ofType : TypeDef → TypeRef
  | .named name _ => .named name
  | .nullable underlying _ => .nullable (ofType underlying)
  | .array element => .array (ofType element)

def toJson : TypeRef → Json
  | named name => .obj [("type", .str "named"), ("name", .str name)]
  | nullable underlying =>
    .obj [("type", .str "nullable"), ("underlying_type", underlying.toJson)]
  | array element => .obj [("type", .str "array"), ("element_type", element.toJson)]

end TypeRef

def shownDescription (description : Option String) : Option String :=
  description.filter (!·.isEmpty)

def descriptionMember (description : Option String) : List (String × Json) :=
  description.toList.map fun text => ("description", .str text)

namespace ArgumentInfo

def toJson (a : ArgumentInfo) : Json :=
  .obj (("type", a.type.toJson) :: descriptionMember a.description)

end ArgumentInfo

namespace FunctionInfo

def ofEntry (name : String) (f : FunctionEntry) : FunctionInfo where
  name
  arguments := f.arguments.foldl (fun arguments a =>
    Pairs.put arguments a.name ⟨.ofType a.type, shownDescription a.description⟩) []
  result := .ofType f.result
  description := shownDescription f.description

def toJson (f : FunctionInfo) : Json :=
  .obj ([("name", .str f.name),
    ("arguments", .obj (f.arguments.map fun (name, a) => (name, a.toJson))),
    ("result_type", f.result.toJson)] ++ descriptionMember f.description)

end FunctionInfo

namespace SchemaResponse

def fieldsOf (t : ObjectType) : List (String × TypeRef) :=
  t.properties.foldl (fun fields p => Pairs.put fields p.name (.ofType p.type)) []

def ofSchema (s : FunctionsSchema) : SchemaResponse :=
  let ofKind (kind : FunctionKind) := s.functions.filterMap fun (name, f) =>
    if f.kind = kind then some (FunctionInfo.ofEntry name f) else none
  { scalarTypes := s.scalarTypes
    objectTypes := s.objectTypes.map fun (name, t) => (name, fieldsOf t)
    functions := ofKind .query
    procedures := ofKind .mutation }

def scalarInfo : Json := .obj [("aggregate_functions", .obj []), ("comparison_operators", .obj [])]

def objectInfo (fields : List (String × TypeRef)) : Json :=
  .obj [("fields", .obj (fields.map fun (name, type) => (name, .obj [("type", type.toJson)])))]

def toJson (r : SchemaResponse) : Json :=
  .obj [("scalar_types", .obj (r.scalarTypes.map fun name => (name, scalarInfo))),
    ("object_types", .obj (r.objectTypes.map fun (name, fields) => (name, objectInfo fields))),
    ("collections", .arr []),
    ("functions", .arr (r.functions.map FunctionInfo.toJson)),
    ("procedures", .arr (r.procedures.map FunctionInfo.toJson))]

end SchemaResponse

end HintSchema.Connector

import HintSchema.Json.Basic
import HintSchema.Schema.Basic
import HintSchema.Text.Quoted

/-!
Schemas as documents, and back.
-/

namespace HintSchema.Schema

inductive DocumentFault where
  | missingMember (name : String)
  | unknownTag (tag : Json)
  | unknownKind (of : String) (value : Json)
  | nestedNullable
  | notAnObject

namespace DocumentFault

/-- A value as it is quoted in a message; documents hold nothing but texts and nulls there. -/
def quoted : Json → String
  | .str value => Text.Quoted.string value
  | .bool true => "True"
  | .bool false => "False"
  | .int value => toString value
  | _ => "None"

def nestedNullableMessage : String :=
  "A nullable type cannot directly wrap another nullable type"

def message : DocumentFault → String
  | missingMember name => Text.Quoted.string name
  | unknownTag tag => "Unknown type definition tag: " ++ quoted tag
  | unknownKind kind value => quoted value ++ " is not a valid " ++ kind
  | nestedNullable => nestedNullableMessage
  | notAnObject => "Not an object"

end DocumentFault

namespace TypeDef

def toJson : TypeDef → Json
  | named name kind =>
    .obj [("type", .str "named"), ("name", .str name), ("kind", .str kind.text)]
  | nullable underlying absence =>
    .obj [("type", .str "nullable"), ("underlying_type", underlying.toJson),
      ("null_or_undefinability", .str absence.text)]
  | array element => .obj [("type", .str "array"), ("element_type", element.toJson)]

end TypeDef

namespace Argument

def toJson (a : Argument) : Json :=
  .obj [("name", .str a.name), ("description", .optional a.description), ("type", a.type.toJson)]

end Argument

namespace FunctionEntry

def toJson (f : FunctionEntry) : Json :=
  .obj [("description", .optional f.description), ("kind", .str f.kind.text),
    ("arguments", .arr (f.arguments.map Argument.toJson)), ("result_type", f.result.toJson)]

end FunctionEntry

namespace Property

def toJson (p : Property) : Json := .obj [("name", .str p.name), ("type", p.type.toJson)]

end Property

namespace ObjectType

def toJson (t : ObjectType) : Json := .obj [("properties", .arr (t.properties.map Property.toJson))]

end ObjectType

abbrev Reader (α : Type) := Except DocumentFault α

def require (name : String) (document : Json) : Reader Json :=
  match document.member? name with
  | some value => .ok value
  | none => .error (.missingMember name)

def textOf (value : Json) : Reader String :=
  match value.text? with
  | some text => .ok text
  | none => .error .notAnObject

/-- A value out of a fixed set, named in the fault if it is none of them. -/
def oneOf {α : Type} (kind : String) (choices : List (String × α)) (value : Json) : Reader α :=
  match value.text?.bind fun text => List.lookup text choices with
  | some choice => .ok choice
  | none => .error (.unknownKind kind value)

namespace TypeKind

def read : Json → Reader TypeKind :=
  oneOf "TypeKind" ([TypeKind.scalar, .object].map fun k => (k.text, k))

end TypeKind

namespace Absence

def read : Json → Reader Absence :=
  oneOf "NullOrUndefinability"
    ([Absence.null, .undefined, .either].map fun a => (a.text, a))

end Absence

namespace FunctionKind

def read : Json → Reader FunctionKind :=
  oneOf "FunctionKind" ([FunctionKind.query, .mutation].map fun k => (k.text, k))

end FunctionKind

namespace TypeDef

def ofJson (document : Json) : Reader TypeDef :=
  match (document.member? "type").bind Json.text? with
  | some "named" => do
    let name ← textOf (← require "name" document)
    let kind ← TypeKind.read (← require "kind" document)
    return .named name kind
  | some "nullable" =>
    match _inner : document.member? "underlying_type" with
    | none => .error (.missingMember "underlying_type")
    | some underlying => do
      let underlying ← ofJson underlying
      let absence ← Absence.read (← require "null_or_undefinability" document)
      match nullable? underlying absence with
      | some type => return type
      | none => .error .nestedNullable
  | some "array" =>
    match _inner : document.member? "element_type" with
    | none => .error (.missingMember "element_type")
    | some element => do
      return .array (← ofJson element)
  | _ => .error (.unknownTag ((document.member? "type").getD .null))
termination_by sizeOf document
decreasing_by all_goals exact Json.sizeOf_member_lt ‹_›

end TypeDef

/-- An absent description and a null one are the same. -/
def descriptionOf (document : Json) : Option String :=
  (document.member? "description").bind Json.text?

namespace Argument

def ofJson (document : Json) : Reader Argument := do
  let name ← textOf (← require "name" document)
  let type ← TypeDef.ofJson (← require "type" document)
  return { name, type, description := descriptionOf document }

end Argument

def itemsOf (name : String) (document : Json) : List Json :=
  ((document.member? name).getD (.arr [])).items

def membersOf (name : String) (document : Json) : List (String × Json) :=
  ((document.member? name).getD (.obj [])).members

namespace FunctionEntry

def ofJson (document : Json) : Reader FunctionEntry := do
  let kind ← FunctionKind.read (← require "kind" document)
  let arguments ← (itemsOf "arguments" document).mapM Argument.ofJson
  let result ← TypeDef.ofJson (← require "result_type" document)
  return { kind, result, arguments, description := descriptionOf document }

end FunctionEntry

namespace Property

def ofJson (document : Json) : Reader Property := do
  let name ← textOf (← require "name" document)
  let type ← TypeDef.ofJson (← require "type" document)
  return ⟨name, type⟩

end Property

namespace ObjectType

def ofJson (document : Json) : Reader ObjectType := do
  return ⟨← (itemsOf "properties" document).mapM Property.ofJson⟩

end ObjectType

def readMembers {α : Type} (read : Json → Reader α) (members : List (String × Json)) :
    Reader (List (String × α)) :=
  members.mapM fun (name, value) => do return (name, ← read value)

end HintSchema.Schema

namespace HintSchema.FunctionsSchema

open Schema

def toJson (s : FunctionsSchema) : Json :=
  .obj [("functions", .obj (s.functions.map fun (name, f) => (name, f.toJson))),
    ("object_types", .obj (s.objectTypes.map fun (name, t) => (name, t.toJson))),
    ("scalar_types", .obj (s.scalarTypes.map fun name => (name, .obj [])))]

def ofJson (document : Json) : Reader FunctionsSchema := do
  let functions ← readMembers FunctionEntry.ofJson (membersOf "functions" document)
  let objectTypes ← readMembers ObjectType.ofJson (membersOf "object_types" document)
  return { functions, objectTypes, scalarTypes := (membersOf "scalar_types" document).map (·.1) }

end HintSchema.FunctionsSchema

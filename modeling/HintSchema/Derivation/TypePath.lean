/-!
The way from a function to a type.
-/

namespace HintSchema

inductive PathStep where
  | parameter (function name : String)
  | result (function : String)
  | property (type name : String)
  | element
  deriving DecidableEq, Repr

abbrev TypePath := List PathStep

namespace PathStep

def text : PathStep → String
  | parameter function name => s!"function '{function}' parameter '{name}'"
  | result function => s!"function '{function}' return value"
  | property type name => s!"type '{type}' property '{name}'"
  | element => "array type"

/-- What a step adds to the name of a type that has none. -/
def nameText : PathStep → String
  | parameter function name => function ++ "_arguments_" ++ name
  | result function => function ++ "_output"
  | property _ name => "field_" ++ name
  | element => "array"

end PathStep

namespace TypePath

def text (path : TypePath) : String := ", ".intercalate (path.map PathStep.text)

def typeName (path : TypePath) : String := "_".intercalate (path.map PathStep.nameText)

end TypePath

end HintSchema

import HintSchema.Docs.Docstring
import HintSchema.Docs.Indentation
import HintSchema.Hints.Properties

/-!
The functions that a module exports, and what their headers and documentation strings say.
-/

namespace HintSchema

structure Function where
  file : Path
  definition : FunctionDef Statement

structure TypedParameter where
  name : String
  handle : Handle
  kind : ParameterKind
  hasDefault : Bool

structure Signature where
  parameters : List TypedParameter
  result : Handle

namespace Statement

/-- Without a leading underscore, without the mark of an overload, and on the export list if there
is one. -/
def isExported (exports : Option (List String)) (definition : FunctionDef Statement) : Bool :=
  !definition.name.startsWith "_" &&
    (match exports with
      | some names => names.contains definition.name
      | none => true) &&
    !definition.decorators.any fun decorator =>
      Expr.lastName (decorator.dotted?.getD "") == "overload"

end Statement

namespace SourceFile

/-- The exported functions in the order of their first definition, each with its last one. -/
def exportedFunctions (s : SourceFile) : List Function :=
  let named := s.statements.foldl (fun functions statement =>
    match statement with
    | .functionDef definition =>
      if Statement.isExported s.scope.exports definition then
        Pairs.put functions definition.name ⟨s.path, definition⟩
      else functions
    | _ => functions) ([] : List (String × Function))
  named.map (·.2)

end SourceFile

namespace Function

def name (f : Function) : String := f.definition.name

def docstring (f : Function) : Docs.Docstring :=
  match Statement.documentation? f.definition.body with
  | some text => .parse (.ofList (Docs.clean text.toName.toList))
  | none => {}

/-- The last names of the decorators, and the fields of the documentation string. -/
def tags (f : Function) : List (String × String) :=
  let decorators := f.definition.decorators.filterMap fun decorator => decorator.callee.dotted?
  let marks := decorators.map fun dotted => (Expr.lastName dotted, "")
  Pairs.putAll (Pairs.putAll [] marks) f.docstring.tags

end Function

namespace Program

def typedParameter (P : Program) (file : Path) (parameter : Parameter) : CheckM TypedParameter := do
  let handle ← P.resolve file [] parameter.hint
  let hasDefault := parameter.default.isSome
  return {
    name := parameter.name
    handle := if hasDefault then .unionOf [handle, .missing] else handle
    kind := parameter.kind
    hasDefault }

def resultHandle (P : Program) (file : Path) (returns : Option Expr) : CheckM Handle :=
  match returns with
  | some (.literal _ .none) => return .void "None"
  | some (.literal pos (.text text marked)) =>
    if text = .ofString "None" then return .void "None"
    else P.resolve file [] (some (.literal pos (.text text marked)))
  | _ => P.resolve file [] returns

def signature (P : Program) (f : Function) : CheckM Signature := do
  let parameters ← f.definition.parameters.mapM (P.typedParameter f.file)
  let result ← P.resultHandle f.file f.definition.returns
  return ⟨parameters, if f.definition.isAsync then .awaitable "Coroutine" [result] else result⟩

end Program

end HintSchema

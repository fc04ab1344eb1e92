import HintSchema.Derivation.Type
import HintSchema.Hints.Function

/-!
The schema entry of a function. A function with a parameter or a result that has no schema type gets
no entry, and its issues say why.
-/

namespace HintSchema

open Schema

/-- A function can have an entry and issues: then those are warnings. -/
structure FunctionOutcome where
  name : String
  entry : Option FunctionEntry := none
  issues : List String := []
  deriving DecidableEq, Repr

namespace Derivation

def pureTag : String := "pure"

def nonEmpty (text : String) : Option String := if text.isEmpty then none else some text

def variadicMark : ParameterKind → Option String
  | .variadicPositional => some "*"
  | .variadicKeyword => some "**"
  | _ => none

def variadicMessage (mark name function : String) : String :=
  s!"Variadic parameters are not supported, but '{mark}{name}' was declared by " ++
    s!"function '{function}'"

def namelessMessage : String := "Function didn't have an identifier"

def undeclaredMessage (name function : String) : String :=
  s!"Documentation describes parameter '{name}' which function '{function}' does not declare"

/-- What the parameters and the result of a function came to so far. -/
structure SignatureOutcome where
  arguments : List Argument := []
  issues : List String := []
  broken : Bool := false

def afterParameter (P : Program) (function : String) (docs : List (String × String))
    (o : SignatureOutcome) (parameter : TypedParameter) : DerivationM SignatureOutcome := do
  match variadicMark parameter.kind with
  | some mark =>
    return { o with
      issues := o.issues ++ [variadicMessage mark parameter.name function]
      broken := true }
  | none =>
    match ← deriveType P 0 [.parameter function parameter.name] parameter.handle with
    | .errors errors => return { o with issues := o.issues ++ errors, broken := true }
    | .type type warnings =>
      let text := Text.stripString ((Pairs.get? docs parameter.name).getD "")
      let argument : Argument := { name := parameter.name, type, description := nonEmpty text }
      return { o with arguments := o.arguments ++ [argument], issues := o.issues ++ warnings }

def deriveNamed (P : Program) (f : Function) : DerivationM FunctionOutcome := do
  let docs := f.docstring
  let signature ← asking (P.signature f)
  let o ← signature.parameters.foldlM (afterParameter P f.name docs.parameters) {}
  let declared := signature.parameters.map (·.name)
  let undeclared := (Pairs.keys docs.parameters).filter fun name => !declared.contains name
  let issues := o.issues ++ undeclared.map fun name => undeclaredMessage name f.name
  match ← deriveType P 0 [.result f.name] signature.result with
  | .errors errors => return { name := f.name, issues := issues ++ errors }
  | .type result warnings =>
    let entry : FunctionEntry := {
      kind := if Pairs.has f.tags pureTag then .query else .mutation
      result
      arguments := o.arguments
      description := nonEmpty (Text.stripString docs.description) }
    return {
      name := f.name
      entry := if o.broken then none else some entry
      issues := issues ++ warnings }

def deriveFunction (P : Program) (f : Function) : DerivationM FunctionOutcome :=
  if f.name.isEmpty then throw .namelessFunction else deriveNamed P f

end Derivation

end HintSchema

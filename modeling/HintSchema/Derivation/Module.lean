import HintSchema.Derivation.Function

/-!
The schema of all exported functions of a file.
-/

namespace HintSchema

open Schema

/-- A schema, and the issues of each function that has some. -/
structure SchemaOutcome where
  schema : FunctionsSchema
  issues : List (String × List String) := []
  deriving DecidableEq, Repr

namespace SchemaOutcome

def brokenFunctions (o : SchemaOutcome) : List String :=
  (Pairs.keys o.issues).filter fun name => !Pairs.has o.schema.functions name

def hasBrokenFunctions (o : SchemaOutcome) : Bool := !o.brokenFunctions.isEmpty

def sortedBroken (o : SchemaOutcome) : List String :=
  o.brokenFunctions.mergeSort fun a b => a ≤ b

end SchemaOutcome

namespace Derivation

def deriveFunctions (P : Program) (functions : List Function) : DerivationM SchemaOutcome := do
  let outcomes ← functions.mapM (deriveFunction P)
  let registry := (← get).registry
  return {
    schema := {
      functions := outcomes.filterMap fun o => o.entry.map (o.name, ·)
      objectTypes := registry.objectTypes
      scalarTypes := registry.scalars }
    issues := outcomes.filterMap fun o =>
      if o.issues.isEmpty then none else some (o.name, o.issues) }

def deriveUnchecked (P : Program) : DerivationM SchemaOutcome :=
  deriveFunctions P (P.source P.entry).exportedFunctions

end Derivation

end HintSchema

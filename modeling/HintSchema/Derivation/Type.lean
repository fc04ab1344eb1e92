import HintSchema.Derivation.Registry
import HintSchema.Derivation.TypeName
import HintSchema.Handle.Form
import HintSchema.Hints.Properties

/-!
The schema type of a handle. An object type is registered under its name before its properties are
derived, so a type that mentions itself finds the entry; if a property fails, everything registered
since is taken back.
-/

namespace HintSchema

open Schema

inductive DerivationFault where
  | check (fault : Fault)
  | name (fault : NameFault)
  | tooDeep (type : String)
  | nestedNullable
  | namelessFunction
  deriving DecidableEq, Repr

structure DerivationState where
  check : CheckState
  registry : Registry := {}

abbrev DerivationM := ExceptT DerivationFault (StateM DerivationState)

/-- A type with warnings, or all the reasons why there is none. -/
inductive Outcome where
  | type (type : TypeDef) (warnings : List String)
  | errors (errors : List String)
  deriving DecidableEq, Repr

namespace Derivation

/-- The nesting limit along one path. -/
def depthLimit : Int := 20

def asking {α : Type} (question : CheckM α) : DerivationM α := do
  let s ← get
  let (answer, check) := question.run s.check
  set { s with check }
  MonadExcept.ofExcept (answer.mapError DerivationFault.check)

def updateRegistry (f : Registry → Registry) : DerivationM Unit :=
  modify fun s => { s with registry := f s.registry }

def tooDeepMessage (type : String) : String :=
  "Schema inference validation exceeded depth " ++ toString depthLimit ++ " for type " ++ type

def unsupportedMessage (form : Form) (type path : String) : String :=
  match form with
  | .awaitable => s!"Awaitable types are not supported, but '{type}' was encountered in {path}"
  | .classObject => s!"Class types are not supported, but '{type}' was encountered in {path}"
  | .void => s!"The void type is not supported, but '{type}' was encountered in {path}"
  | _ => s!"The type '{type}' is not supported, but it was encountered in {path}"

def unsupported (handle : Handle) (path : TypePath) : DerivationM Outcome := do
  let type ← asking handle.display
  return .errors [unsupportedMessage handle.form type path.text]

def conflictMessage (type name : String) (path : TypePath) : String :=
  s!"Type '{type}' would be named '{name}', which is already used by another type, " ++
    "encountered in " ++ path.text

def noPropertiesMessage (name : String) (path : TypePath) : String :=
  s!"Type '{name}' has no properties, encountered in " ++ path.text

/-- The name of a record; one that has none is named after its path. -/
def objectName (P : Program) (path : TypePath) (handle : Handle) :
    DerivationM (Except NameFault String) := do
  let name ← match handle with
    | .record symbol _ _ none =>
      if symbol.isAnonymous then pure none else some <$> asking handle.display
    | _ => some <$> asking handle.display
  return TypeName.qualify handle path name P.entry P.resolver.tree.cwd

/-- What the properties of an object type came to. -/
structure PropertyOutcomes where
  properties : List Property := []
  warnings : List String := []
  errors : List String := []

namespace PropertyOutcomes

def add (o : PropertyOutcomes) (name : String) : Outcome → PropertyOutcomes
  | .type type warnings =>
    { o with properties := o.properties ++ [⟨name, type⟩], warnings := o.warnings ++ warnings }
  | .errors errors => { o with errors := o.errors ++ errors }

end PropertyOutcomes

/-- The object type of a record that is not registered; `derive` derives a property's type. -/
def registerObject (P : Program) (derive : TypePath → Handle → DerivationM Outcome)
    (path : TypePath) (name : String) (identity : Identity) (source : RecordSource)
    (arguments : List Handle) : DerivationM Outcome := do
  let before := (← get).registry.objectNames
  updateRegistry (·.putObject name ⟨identity, {}⟩)
  let members ← asking (P.propertiesOf source arguments)
  let outcomes ← members.foldlM (fun (outcomes : PropertyOutcomes) (property, handle) => do
    let outcome ← derive (path ++ [.property name property]) handle
    return outcomes.add property outcome) {}
  if outcomes.errors.isEmpty then
    updateRegistry (·.putObject name ⟨identity, ⟨outcomes.properties⟩⟩)
    let warnings := if members.isEmpty then [noPropertiesMessage name path] else []
    return .type (.named name .object) (outcomes.warnings ++ warnings)
  else
    updateRegistry (·.keepObjects before)
    return .errors outcomes.errors

def objectType (P : Program) (derive : TypePath → Handle → DerivationM Outcome) (path : TypePath)
    (handle : Handle) (source : RecordSource) (arguments : List Handle) : DerivationM Outcome := do
  match ← objectName P path handle with
  | .error (.outside name file) =>
    return .errors [NameFault.outsideMessage name file ++ ", encountered in " ++ path.text]
  | .error fault => throw (.name fault)
  | .ok name =>
    match (← get).registry.object? name with
    | some entry =>
      if entry.identity = handle.identity then return .type (.named name .object) []
      let type ← asking handle.display
      return .errors [conflictMessage type name path]
    | none => registerObject P derive path name handle.identity source arguments

def arrayType (derive : TypePath → Handle → DerivationM Outcome) (path : TypePath)
    (element : Handle) : DerivationM Outcome := do
  match ← derive (path ++ [.element]) element with
  | .type type warnings => return .type (.array type) warnings
  | .errors errors => return .errors errors

def scalarType (name : String) : DerivationM Outcome := do
  updateRegistry (·.addScalar name)
  return .type (.named name .scalar) []

def nullableType (derive : TypePath → Handle → DerivationM Outcome) (path : TypePath)
    (single : Handle) (absence : Absence) : DerivationM Outcome := do
  match ← derive path single with
  | .type type warnings =>
    match type.nullable? absence with
    | some type => return .type type warnings
    | none => throw .nestedNullable
  | .errors errors => return .errors errors

def deriveType (P : Program) (depth : Int) (path : TypePath) (handle : Handle) :
    DerivationM Outcome := do
  let handle ← asking (P.apparent handle)
  if _within : depthLimit < depth then
    throw (.tooDeep (← asking handle.display))
  else
    match handle with
    | .list _ element => arrayType (deriveType P (depth + 1)) path element
    | .record _ source arguments _ =>
      objectType P (deriveType P (depth + 1)) path handle source arguments
    | .intrinsic kind =>
      match kind.scalarName? with
      | some name => scalarType name
      | none => unsupported handle path
    | .union _ =>
      match handle.nullable? with
      | some (single, absence) => nullableType (deriveType P (depth + 1)) path single absence
      | none => unsupported handle path
    | _ => unsupported handle path
termination_by (depthLimit + 1 - depth).toNat
decreasing_by all_goals (simp only [depthLimit] at *; omega)

end Derivation

end HintSchema

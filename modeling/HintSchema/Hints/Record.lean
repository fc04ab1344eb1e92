import HintSchema.Hints.Checking

/-!
Which classes are records, and of what kind: decorators and bases decide, and a class without a sign
of its own is a typed dictionary if one of its bases is.
-/

namespace HintSchema

/-- What is known of a class while its decorators and bases are read. -/
structure RecordForm where
  kind : Option RecordKind := none
  typeParameters : List String := []

namespace Keyword

/-- The last constant under the given name decides. -/
def flag (name : String) (otherwise : Bool) (keywords : List Keyword) : Bool :=
  keywords.foldl (fun flag keyword =>
    match keyword with
    | .mk (some label) (.literal _ value) => if label = name then value.isTrue else flag
    | _ => flag) otherwise

def total (keywords : List Keyword) : Bool := flag "total" true keywords

end Keyword

namespace RecordForm

def afterSpecial (form : RecordForm) (qualname : String) : RecordForm :=
  match qualname with
  | "typing.TypedDict" => { form with kind := some .typedDict }
  | "typing.NamedTuple" => { form with kind := some .namedTuple }
  | _ => form

def afterDecorator (P : Program) (file : Path) (form : RecordForm) (decorator : Expr) :
    CheckM RecordForm := do
  match ← P.find file decorator.callee with
  | .special "dataclasses.dataclass" => return { form with kind := some .dataclass }
  | _ => return form

def afterParameters (P : Program) (file : Path) (form : RecordForm) (base : Expr) :
    CheckM RecordForm := do
  match base with
  | .subscript _ _ index =>
    let parameters ← P.typeVariables file index form.typeParameters
    return { form with typeParameters := parameters }
  | _ => return form

def afterBase (P : Program)
    (recur : Path → ClassDef Statement → CheckM (Option RecordSource)) (file : Path)
    (form : RecordForm) (base : Expr) : CheckM RecordForm := do
  let found ← P.find file base.base
  let form ← form.afterParameters P file base
  match found with
  | .special qualname => return form.afterSpecial qualname
  | .classDef file parent =>
    if form.kind.isSome then return form
    match ← recur file parent with
    | some record =>
      return if record.kind = .typedDict then { form with kind := some .typedDict } else form
    | none => return form
  | _ => return form

def finish (form : RecordForm) (file : Path) (definition : ClassDef Statement) :
    Option RecordSource :=
  form.kind.map fun kind => {
    kind, file
    fields := .ofClass definition
    name := some definition.name
    typeParameters := form.typeParameters
    total := Keyword.total definition.keywords }

end RecordForm

namespace Program

/-- The record that a class declares. Each class is looked at once; `pending` are the classes that
no caller is looking at. -/
def recordAmong (P : Program) (pending : List ClassKey) (file : Path)
    (definition : ClassDef Statement) : CheckM (Option RecordSource) := do
  let key : ClassKey := ⟨file, definition.pos⟩
  match (← get).records.lookup key with
  | some known => return known
  | none =>
    if _open : key ∈ pending then
      modify (·.remember key none)
      let form ← definition.decorators.foldlM (RecordForm.afterDecorator P file) {}
      let form ← definition.bases.foldlM
        (RecordForm.afterBase P (P.recordAmong (Pending.without pending key)) file) form
      let record := form.finish file definition
      modify (·.remember key record)
      return record
    else return none
termination_by pending.length
decreasing_by
  exact Pending.length_without_lt ‹_›

def recordOf (P : Program) (file : Path) (definition : ClassDef Statement) :
    CheckM (Option RecordSource) :=
  P.recordAmong P.classes file definition

def recordOfCall (key : NameKey) (call : RecordCall) : RecordSource where
  kind := .inlineTypedDict
  file := key.file
  fields := .ofDict call.fields
  name := some key.name
  total := Keyword.total call.keywords

end Program

end HintSchema

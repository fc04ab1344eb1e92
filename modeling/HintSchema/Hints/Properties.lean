import HintSchema.Hints.Resolve
import HintSchema.Pairs

/-!
The properties of a record: those of its bases first, then its own, in the order of declaration.
-/

namespace HintSchema

abbrev Properties := List (String × Handle)

namespace SpecialForm

def ignoredForms : List String :=
  ["typing.ClassVar", "dataclasses.InitVar", "dataclasses.KW_ONLY"]

end SpecialForm

namespace Program

def isIgnoredForm (P : Program) (file : Path) (target : Expr) : CheckM Bool := do
  match target with
  | .name _ _ | .member _ _ _ =>
    match ← P.find file target with
    | .special qualname => return SpecialForm.ignoredForms.contains qualname
    | _ => return false
  | _ => return false

def isIgnoredField (P : Program) (file : Path) (hint : Expr) : CheckM Bool := do
  match hint.base with
  | .literal _ (.text text _) =>
    match ← Expr.ofQuoted? text with
    | some inner => P.isIgnoredForm file inner.base
    | none => return false
  | target => P.isIgnoredForm file target

/-- A hint without the qualifiers around it, and whether a value is required. The innermost
qualifier decides. `quoted` goes on inside a text, if that holds a hint. -/
def peelExpr (P : Program) (quoted : Bool → CodeText → CheckM (Option (Expr × Bool)))
    (file : Path) (required : Bool) (hint : Expr) : CheckM (Expr × Bool) := do
  match hint with
  | .literal pos (.text text marked) =>
    match ← quoted required text with
    | some peeled => return peeled
    | none => return (.literal pos (.text text marked), required)
  | .subscript pos value index =>
    match ← P.find file value with
    | .special qualname =>
      match _parts : index.indices with
      | [] => throw .noArgument
      | first :: _ =>
        match qualname with
        | "typing.Required" => P.peelExpr quoted file true first
        | "typing.NotRequired" => P.peelExpr quoted file false first
        | "typing.ReadOnly" | "typing.Annotated" => P.peelExpr quoted file required first
        | _ => return (.subscript pos value index, required)
    | _ => return (.subscript pos value index, required)
  | other => return (other, required)
termination_by sizeOf hint
decreasing_by
  all_goals
    have := @Expr.sizeOf_le_of_mem_indices index first (by simp [_parts])
    simp only [Expr.subscript.sizeOf_spec]
    omega

def peel (P : Program) (file : Path) (limit : Nat) (required : Bool) (hint : Expr) :
    CheckM (Expr × Bool) :=
  P.peelExpr (fun required text => do
    if _shorter : text.length < limit then
      match ← Expr.ofQuoted? text with
      | some inner => some <$> P.peel file text.length required inner
      | none => return none
    else return none) file required hint
termination_by limit

/-- The handle of a field. A key of a typed dictionary that may be left out also admits `missing`.
-/
def fieldHandle (P : Program) (source : RecordSource) (scope : TypeVariables) (hint : Expr) :
    CheckM Handle := do
  if source.kind.isTypedDict then
    let (inner, required) ← P.peel source.file hint.weight source.total hint
    let handle ← P.resolve source.file scope inner
    return if required then handle else .unionOf [handle, .missing]
  else P.resolve source.file scope hint

def dictFields (P : Program) (source : RecordSource) (scope : TypeVariables) :
    List DictItem → CheckM Properties :=
  List.foldlM (fun properties item => do
    match item with
    | .pair (.literal _ (.text key _)) value =>
      return Pairs.put properties key.toName (← P.fieldHandle source scope value)
    | _ => return properties) []

def ownFields (P : Program) (source : RecordSource) (scope : TypeVariables)
    (inherited : Properties) : List Statement → CheckM Properties :=
  List.foldlM (fun properties statement => do
    match statement with
    | .declare (.name _ id) hint _ _ =>
      if ← P.isIgnoredField source.file hint then return properties
      return Pairs.put properties id (← P.fieldHandle source scope hint)
    | _ => return properties) inherited

def baseArguments (P : Program) (file : Path) (scope : TypeVariables) (base : Expr) :
    CheckM (List Handle) :=
  match base with
  | .subscript _ _ index => index.indices.mapM fun hint => P.resolve file scope (some hint)
  | _ => return []

/-- What one base adds. Each class is visited once; `recur` visits a class. -/
def afterParent (P : Program)
    (recur : List ClassKey → RecordSource → List Handle → CheckM (Properties × List ClassKey))
    (file : Path) (scope : TypeVariables) (state : Properties × List ClassKey) (base : Expr) :
    CheckM (Properties × List ClassKey) := do
  let (properties, seen) := state
  match ← P.find file base.base with
  | .classDef home definition =>
    let record ← P.recordOf home definition
    match record with
    | none => return state
    | some record =>
      if seen.contains ⟨home, definition.pos⟩ then return state
      let arguments ← P.baseArguments file scope base
      let (inherited, seen) ← recur seen record arguments
      return (Pairs.putAll properties inherited, seen)
  | _ => return state

/-- The properties of a record and the classes seen so far; `pending` are the classes that no caller
is visiting. -/
def propertiesAmong (P : Program) (pending : List ClassKey) (seen : List ClassKey)
    (source : RecordSource) (arguments : List Handle) : CheckM (Properties × List ClassKey) := do
  let scope := source.typeParameters.zip arguments
  match source.fields with
  | .ofDict (.dict _ items) => return (← P.dictFields source scope items, seen)
  | .ofDict _ => return ([], seen)
  | .ofClass definition =>
    let key : ClassKey := ⟨source.file, definition.pos⟩
    if _open : key ∈ pending then
      let (inherited, seen) ← definition.bases.foldlM
        (P.afterParent (P.propertiesAmong (Pending.without pending key)) source.file scope)
        ([], key :: seen)
      return (← P.ownFields source scope inherited definition.body, seen)
    else return ([], seen)
termination_by pending.length
decreasing_by
  exact Pending.length_without_lt ‹_›

def propertiesOf (P : Program) (source : RecordSource) (arguments : List Handle) :
    CheckM Properties := do
  let (properties, _) ← P.propertiesAmong P.classes [] source arguments
  return properties

end Program

end HintSchema

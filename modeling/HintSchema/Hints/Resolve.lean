import HintSchema.Hints.Record

/-!
From a hint to the handle it denotes. An alias is expanded where it is used, unless it is already
being expanded: then it stays deferred.
-/

namespace HintSchema

abbrev TypeVariables := List (String × Handle)

structure HintArgument where
  expr : Expr
  resolve : CheckM Handle

namespace SpecialForm

def scalar? (qualname : String) : Option Intrinsic :=
  match qualname with
  | "builtins.bool" => some .bool
  | "builtins.str" => some .str
  | "builtins.int" => some .int
  | "builtins.float" => some .float
  | _ => none

def listForms : List String :=
  ["builtins.list", "typing.List", "typing.Sequence", "typing.MutableSequence"]

def awaitableForms : List String := ["typing.Awaitable", "asyncio.Future"]

def voidForms : List String := ["typing.NoReturn", "typing.Never"]

def wrappers : List String :=
  ["typing.Annotated", "typing.Required", "typing.NotRequired", "typing.ReadOnly"]

end SpecialForm

namespace HintArgument

def resolveAll (arguments : List HintArgument) : CheckM (List Handle) :=
  arguments.mapM (·.resolve)

end HintArgument

namespace Program

def inlineRecord (file : Path) (fields : Expr) : Handle :=
  .record (.declaredAt Symbol.anonymousName file fields.pos)
    { kind := .inlineTypedDict, file, fields := .ofDict fields } [] none

def handleOfSpecial (file : Path) (qualname : String) (arguments : List HintArgument)
    (expr : Expr) : CheckM Handle := do
  if let some kind := SpecialForm.scalar? qualname then return .intrinsic kind
  let short := Expr.lastName qualname
  if SpecialForm.listForms.contains qualname then
    match arguments with
    | first :: _ => return .list short (← first.resolve)
    | [] => return .list short .any
  if SpecialForm.awaitableForms.contains qualname then
    return .awaitable short (← HintArgument.resolveAll arguments)
  if SpecialForm.voidForms.contains qualname then return .void short
  match qualname, arguments with
  | "typing.Any", _ => return .any
  | "typing.Coroutine", _ =>
    match arguments.getLast? with
    | some last => return .awaitable short [← last.resolve]
    | none => return .awaitable short []
  | "typing.Optional", first :: _ => return .unionOf [← first.resolve, .none]
  | "typing.Union", _ :: _ => return .unionOf (← HintArgument.resolveAll arguments)
  | "typing.TypedDict", ⟨.dict pos items, _⟩ :: _ => return inlineRecord file (.dict pos items)
  | _, first :: _ =>
    if SpecialForm.wrappers.contains qualname then first.resolve
    else return .unsupported (← expr.source) none
  | _, [] => return .unsupported (← expr.source) none

/-- The handle of an alias, given how its value resolves. A record without a name takes the alias's.
-/
def expandAlias (P : Program) (resolveValue : TypeVariables → CheckM Handle) (target : AliasRef)
    (arguments : List Handle) : CheckM Handle := do
  let free ← P.typeVariables target.key.file target.value []
  match ← resolveValue (free.zip arguments) with
  | .record symbol source own none =>
    if symbol.isAnonymous then
      let texts ← arguments.mapM (·.display)
      return .record symbol source own (some (Handle.withArguments target.key.name texts))
    else return .record symbol source own none
  | other => return other

/-- The name under which a type variable is looked up that is bound nowhere. -/
def variableName (expr : Expr) : CheckM String :=
  match expr.dotted? with
  | some name => return name
  | none => expr.source

def handleOfBinding (P : Program) (expand : AliasRef → List Handle → CheckM Handle) (file : Path)
    (scope : TypeVariables) (found : Binding) (arguments : List HintArgument) (expr : Expr) :
    CheckM Handle := do
  match found with
  | .special qualname => handleOfSpecial file qualname arguments expr
  | .classDef home definition =>
    let symbol := Symbol.declaredAt definition.name home definition.pos
    match ← P.recordOf home definition with
    | some record => return .record symbol record (← HintArgument.resolveAll arguments) none
    | none => return .classObject symbol (← HintArgument.resolveAll arguments)
  | .recordCall key call =>
    return .record (.declaredAt key.name key.file call.pos) (recordOfCall key call) [] none
  | .alias key value => expand ⟨key, value⟩ (← HintArgument.resolveAll arguments)
  | .typeVariable name => return (scope.lookup name).getD (.typeParameter name)
  | .unresolved _ =>
    let name ← variableName expr
    match scope.lookup name with
    | some handle => return handle
    | none => return .unsupported (← expr.source) none
  | _ => return .unsupported (← expr.source) none

end Program

theorem Expr.sizeOf_le_of_mem_indices {index e : Expr} (h : e ∈ index.indices) :
    sizeOf e ≤ sizeOf index := by
  unfold Expr.indices at h
  split at h
  · have := List.sizeOf_lt_of_mem h
    simp
    omega
  · simp at h
    simp [h]

namespace Program

/-- The handle of an expression; `expand` expands an alias, and `quoted` resolves what a text
quotes. -/
def resolveExpr (P : Program) (expand : AliasRef → List Handle → CheckM Handle)
    (quoted : CodeText → CheckM Handle) (file : Path) (scope : TypeVariables) (expr : Expr) :
    CheckM Handle := do
  match expr with
  | .literal _ .none => return .none
  | .literal _ (.text text _) => quoted text
  | .literal _ value => return .unsupported (← PrintFault.lift value.quoted) none
  | .binary _ .bitOr left right =>
    let first ← P.resolveExpr expand quoted file scope left
    let second ← P.resolveExpr expand quoted file scope right
    return .unionOf [first, second]
  | .name pos id =>
    match scope.lookup id with
    | some handle => return handle
    | none =>
      let found ← P.find file (.name pos id)
      P.handleOfBinding expand file scope found [] (.name pos id)
  | .member pos value attr =>
    let found ← P.find file (.member pos value attr)
    P.handleOfBinding expand file scope found [] (.member pos value attr)
  | .subscript pos value index =>
    let found ← P.find file value
    let arguments := index.indices.attach.map fun ⟨argument, _⟩ =>
      HintArgument.mk argument (P.resolveExpr expand quoted file scope argument)
    P.handleOfBinding expand file scope found arguments (.subscript pos value index)
  | other => return .unsupported (← other.source) none
termination_by sizeOf expr
decreasing_by
  · simp only [Expr.binary.sizeOf_spec]
    omega
  · simp only [Expr.binary.sizeOf_spec]
    omega
  · have := Expr.sizeOf_le_of_mem_indices ‹_›
    simp only [Expr.subscript.sizeOf_spec]
    omega

/-- The handle of a hint whose texts are all shorter than `limit`: a text is longer than what it
quotes. -/
def resolveQuoting (P : Program) (expand : AliasRef → List Handle → CheckM Handle) (limit : Nat)
    (file : Path) (scope : TypeVariables) (expr : Expr) : CheckM Handle :=
  P.resolveExpr expand (fun text => do
    if _shorter : text.length < limit then
      match ← Expr.ofQuoted? text with
      | some inner => P.resolveQuoting expand text.length file scope inner
      | none => return .unsupported (Text.Quoted.text text) none
    else return .unsupported (Text.Quoted.text text) none) file scope expr
termination_by limit

/-- The handle of a hint; `pending` are the aliases that are not being expanded. -/
def resolveAmong (P : Program) (pending : List NameKey) (file : Path) (scope : TypeVariables)
    (expr : Expr) : CheckM Handle :=
  P.resolveQuoting (fun target arguments => do
    if _open : target.key ∈ pending then
      P.expandAlias
        (fun scope => P.resolveAmong (Pending.without pending target.key) target.key.file scope
          target.value)
        target arguments
    else return .deferred target arguments) expr.weight file scope expr
termination_by pending.length
decreasing_by
  exact Pending.length_without_lt ‹_›

/-- The handle of a hint; without a hint anything goes. -/
def resolve (P : Program) (file : Path) (scope : TypeVariables) : Option Expr → CheckM Handle
  | some hint => P.resolveAmong P.aliases file scope hint
  | none => return .any

/-- A deferred alias is expanded once, any other handle stays as it is. -/
def apparent (P : Program) : Handle → CheckM Handle
  | .deferred target arguments =>
    P.expandAlias
      (fun scope => P.resolveAmong (Pending.without P.aliases target.key) target.key.file scope
        target.value)
      target arguments
  | other => return other

end Program

end HintSchema

import HintSchema.Derivation.File
import HintSchema.Proofs.Hints.Gate

/-!
Hints resolved with another look-up of names. Look-ups that agree on the names which a hint asks for
are interchangeable, so a hint whose handle is the same for all look-ups that agree on names which
stand for something asks for no other name. The hints of a program that passes its check are such
(`resolve_of_check`).
-/

namespace HintSchema

abbrev LookUp := Path → Expr → CheckM Binding

namespace Program

def resolveExprVia (P : Program) (find : LookUp)
    (expand : AliasRef → List Handle → CheckM Handle) (quoted : CodeText → CheckM Handle)
    (file : Path) (scope : TypeVariables) (expr : Expr) : CheckM Handle := do
  match expr with
  | .literal _ .none => return .none
  | .literal _ (.text text _) => quoted text
  | .literal _ value => return .unsupported (← PrintFault.lift value.quoted) none
  | .binary _ .bitOr left right =>
    let first ← P.resolveExprVia find expand quoted file scope left
    let second ← P.resolveExprVia find expand quoted file scope right
    return .unionOf [first, second]
  | .name pos id =>
    match scope.lookup id with
    | some handle => return handle
    | none =>
      let found ← find file (.name pos id)
      P.handleOfBinding expand file scope found [] (.name pos id)
  | .member pos value attr =>
    let found ← find file (.member pos value attr)
    P.handleOfBinding expand file scope found [] (.member pos value attr)
  | .subscript pos value index =>
    let found ← find file value
    let arguments := index.indices.attach.map fun ⟨argument, _⟩ =>
      HintArgument.mk argument (P.resolveExprVia find expand quoted file scope argument)
    P.handleOfBinding expand file scope found arguments (.subscript pos value index)
  | other => return .unsupported (← other.source) none
termination_by sizeOf expr
decreasing_by
  · simp only [Expr.binary.sizeOf_spec]
    omega
  · simp only [Expr.binary.sizeOf_spec]
    omega
  · have := Expr.sizeOf_le_of_mem_indices ‹_›
    simp only [Expr.subscript.sizeOf_spec]
    omega

def resolveQuotingVia (P : Program) (find : LookUp)
    (expand : AliasRef → List Handle → CheckM Handle) (limit : Nat) (file : Path)
    (scope : TypeVariables) (expr : Expr) : CheckM Handle :=
  P.resolveExprVia find expand (fun text => do
    if _shorter : text.length < limit then
      match ← Expr.ofQuoted? text with
      | some inner => P.resolveQuotingVia find expand text.length file scope inner
      | none => return .unsupported (Text.Quoted.text text) none
    else return .unsupported (Text.Quoted.text text) none) file scope expr
termination_by limit

def resolveAmongVia (P : Program) (find : LookUp) (pending : List NameKey) (file : Path)
    (scope : TypeVariables) (expr : Expr) : CheckM Handle :=
  P.resolveQuotingVia find (fun target arguments => do
    if _open : target.key ∈ pending then
      P.expandAlias
        (fun scope => P.resolveAmongVia find (Pending.without pending target.key) target.key.file
          scope target.value)
        target arguments
    else return .deferred target arguments) expr.weight file scope expr
termination_by pending.length
decreasing_by
  exact Pending.length_without_lt ‹_›

def resolveVia (P : Program) (find : LookUp) (file : Path) (scope : TypeVariables) :
    Option Expr → CheckM Handle
  | some hint => P.resolveAmongVia find P.aliases file scope hint
  | none => return .any

/-- As `fieldHandle`, with another look-up of the names that are resolved. -/
def fieldHandleVia (P : Program) (find : LookUp) (source : RecordSource) (scope : TypeVariables)
    (hint : Expr) : CheckM Handle := do
  if source.kind.isTypedDict then
    let (inner, required) ← P.peel source.file hint.weight source.total hint
    let handle ← P.resolveVia find source.file scope inner
    return if required then handle else .unionOf [handle, .missing]
  else P.resolveVia find source.file scope hint

def Faithful (P : Program) (find : LookUp) (file : Path) (hint : Expr) : Prop :=
  ∀ part, Relation.ReflTransGen (P.Shows file) hint part → find file part = P.find file part

variable {P : Program} {find : LookUp} {file : Path} {scope : TypeVariables} {hint part : Expr}

theorem Faithful.of_reached (faithful : P.Faithful find file hint)
    (reached : Relation.ReflTransGen (P.Shows file) hint part) : P.Faithful find file part :=
  fun other further => faithful other (reached.trans further)

theorem Faithful.of_shows (faithful : P.Faithful find file hint)
    (shows : P.Shows file hint part) : P.Faithful find file part :=
  faithful.of_reached (.single shows)

theorem find_bind_congr {α : Type} {f g : Binding → CheckM α}
    (same : ∀ found, (P.lookupExpr file hint).1 = .ok found → f found = g found) :
    P.find file hint >>= f = P.find file hint >>= g :=
  bind_congr_of_returns fun _ found _ answered => same found (returns_find_iff.mp answered).1

theorem ofQuoted?_bind_congr {α : Type} {text : CodeText} {f g : Option Expr → CheckM α}
    (none : f none = g none) (some : ∀ inner, text.Quotes inner → f (some inner) = g (some inner)) :
    Expr.ofQuoted? text >>= f = Expr.ofQuoted? text >>= g := by
  refine bind_congr_of_returns fun c found d answered => ?_
  have quotes := (fixed_ofQuoted? text c found d c found d answered answered).2
  cases found with
  | none => exact none
  | some inner => exact some inner (quotes inner rfl)

structure SameArguments (found : Binding) (arguments others : List HintArgument) : Prop where
  exprs : arguments.map (·.expr) = others.map (·.expr)
  shown : shown found arguments = shown found others

theorem SameArguments.refl (found : Binding) (arguments : List HintArgument) :
    SameArguments found arguments arguments := ⟨rfl, rfl⟩

theorem handleOfSpecial_congr {qualname : String} {arguments others : List HintArgument}
    (same : SameArguments (.special qualname) arguments others) (expr : Expr) :
    handleOfSpecial file qualname arguments expr = handleOfSpecial file qualname others expr := by
  obtain ⟨exprs, shown⟩ := same
  by_cases literal : qualname = "typing.Literal"
  · subst literal
    cases arguments with
    | nil =>
      cases others with
      | nil => rfl
      | cons => cases exprs
    | cons =>
      cases others with
      | nil => cases exprs
      | cons => rfl
  by_cases annotated : qualname = "typing.Annotated"
  · subst annotated
    cases arguments with
    | nil =>
      cases others with
      | nil => rfl
      | cons => cases exprs
    | cons =>
      cases others with
      | nil => cases exprs
      | cons =>
        cases List.cons.inj shown |>.1
        rfl
  · have whole := Program.shown_special (α := HintArgument) literal annotated
    rw [whole, whole] at shown
    rw [shown]

/-- The handle of a name depends on the arguments that its meaning shows and, if that is an alias,
on its expansion. -/
theorem handleOfBinding_congr {expand other : AliasRef → List Handle → CheckM Handle}
    {found : Binding} {arguments others : List HintArgument}
    (expanded : ∀ key value handles, found = .alias key value →
      expand ⟨key, value⟩ handles = other ⟨key, value⟩ handles)
    (same : SameArguments found arguments others) (expr : Expr) :
    P.handleOfBinding expand file scope found arguments expr =
      P.handleOfBinding other file scope found others expr := by
  match found with
  | .special qualname => exact handleOfSpecial_congr same expr
  | .classDef home definition =>
    cases same.shown
    rfl
  | .alias key value =>
    cases same.shown
    exact bind_congr fun handles => expanded key value handles rfl
  | .typeVariable _ | .recordCall _ _ | .module _ _ | .value _ | .unresolved _ => rfl

theorem resolveExprVia_eq {expand other : AliasRef → List Handle → CheckM Handle}
    {quoted otherQuoted : CodeText → CheckM Handle}
    (expanded : ∀ key value handles, P.Grounds (.alias key value) →
      expand ⟨key, value⟩ handles = other ⟨key, value⟩ handles)
    (read : ∀ text, (∀ inner, text.Quotes inner → P.Faithful find file inner) →
      quoted text = otherQuoted text)
    (faithful : P.Faithful find file hint) :
    P.resolveExprVia find expand quoted file scope hint =
      P.resolveExpr other otherQuoted file scope hint := by
  have bound {target : Expr} {found : Binding} (looked : (P.lookupExpr file target).1 = .ok found)
      (key value handles) (same : found = .alias key value) :
      expand ⟨key, value⟩ handles = other ⟨key, value⟩ handles :=
    expanded key value handles (same ▸ grounds_lookupExpr looked)
  generalize size : sizeOf hint = limit
  induction limit using Nat.strongRecOn generalizing hint with
  | ind limit ih =>
    subst size
    have own := faithful hint .refl
    cases hint with
    | literal pos value =>
      rw [resolveExprVia.eq_def, resolveExpr.eq_def]
      cases value with
      | text text marked => exact read text fun inner quotes => faithful.of_shows (.text quotes)
      | _ => rfl
    | binary pos op left right =>
      rw [resolveExprVia.eq_def, resolveExpr.eq_def]
      cases op with
      | bitOr =>
        dsimp only
        rw [ih (sizeOf left) (by simp +arith) (faithful.of_shows .left) rfl,
          ih (sizeOf right) (by simp +arith) (faithful.of_shows .right) rfl]
      | _ => rfl
    | name pos id =>
      rw [resolveExprVia, resolveExpr, own]
      cases scope.lookup id with
      | some handle => rfl
      | none =>
        refine find_bind_congr fun found looked => ?_
        exact handleOfBinding_congr (bound looked) (.refl _ _) _
    | member pos value attr =>
      rw [resolveExprVia, resolveExpr, own]
      refine find_bind_congr fun found looked => ?_
      exact handleOfBinding_congr (bound looked) (.refl _ _) _
    | subscript pos value index =>
      rw [resolveExprVia, resolveExpr, faithful value (.single .base)]
      refine find_bind_congr fun found looked => ?_
      refine handleOfBinding_congr (bound looked) ⟨?_, ?_⟩ _
      · rw [List.map_map, List.map_map]
        rfl
      · rw [shown_map, shown_map]
        refine List.map_congr_left fun argument member => ?_
        have inside := mem_shown_attach.mp member
        have part_le := Expr.sizeOf_le_of_mem_indices argument.2
        have smaller := Expr.subscript.sizeOf_spec pos value index
        exact congrArg (HintArgument.mk argument.1) (ih (sizeOf argument.1) (by omega)
          (faithful.of_shows (.argument looked inside)) rfl)
    | _ => rw [resolveExprVia.eq_def, resolveExpr.eq_def]

theorem resolveQuotingVia_eq {expand other : AliasRef → List Handle → CheckM Handle}
    (expanded : ∀ key value handles, P.Grounds (.alias key value) →
      expand ⟨key, value⟩ handles = other ⟨key, value⟩ handles)
    (limit : Nat) (faithful : P.Faithful find file hint) :
    P.resolveQuotingVia find expand limit file scope hint =
      P.resolveQuoting other limit file scope hint := by
  induction limit using Nat.strongRecOn generalizing hint with
  | ind limit ih =>
    rw [resolveQuotingVia, resolveQuoting]
    refine resolveExprVia_eq expanded (fun text inside => ?_) faithful
    split
    · rename_i shorter
      exact ofQuoted?_bind_congr rfl fun inner quotes => ih _ shorter (inside inner quotes)
    · rfl

def FaithfulToAliases (P : Program) (find : LookUp) : Prop :=
  ∀ home name value, (name, .alias value) ∈ (P.source home).scope.names →
    P.Faithful find home value

theorem resolveAmongVia_eq (aliases : P.FaithfulToAliases find) (pending : List NameKey)
    (faithful : P.Faithful find file hint) :
    P.resolveAmongVia find pending file scope hint = P.resolveAmong pending file scope hint := by
  generalize bound : pending.length = limit
  induction limit using Nat.strongRecOn generalizing pending file scope hint with
  | ind limit ih =>
    rw [resolveAmongVia, resolveAmong]
    refine resolveQuotingVia_eq (fun key value handles grounds => ?_) _ faithful
    dsimp only
    split
    · rename_i present
      subst bound
      have bound := aliases _ _ _ (mem_names_of_findSome? grounds)
      congr 1
      funext scope
      exact ih _ (Pending.length_without_lt present) _ bound rfl
    · rfl

theorem resolveVia_eq (aliases : P.FaithfulToAliases find) (faithful : P.Faithful find file hint) :
    P.resolveVia find file scope (some hint) = P.resolve file scope (some hint) :=
  resolveAmongVia_eq aliases _ faithful

theorem fieldHandleVia_eq (aliases : P.FaithfulToAliases find) {source : RecordSource}
    (faithful : P.Faithful find source.file hint) :
    P.fieldHandleVia find source scope hint = P.fieldHandle source scope hint := by
  unfold fieldHandleVia fieldHandle
  split
  · refine bind_congr_of_returns fun c peeled d answered => ?_
    have reached := (subhint_peel P _ _ _ hint c peeled d c peeled d answered answered).2
    have shown := Relation.ReflTransGen.mono (fun _ _ inside => Subhint.shows inside) _ _ reached
    dsimp only
    rw [resolveVia_eq aliases (faithful.of_reached shown)]
  · exact resolveVia_eq aliases faithful

def Stands (P : Program) (file : Path) (e : Expr) : Prop :=
  e.isReference = true → ∃ found, (P.lookupExpr file e).1 = .ok found ∧ found.unresolved? = none

/-- In a program that passes its check, take a hint at the top level of a local module that the
check has opened, or a part of such a hint. If it is a name, it stands for something; and to resolve
it, as it is or as the hint of a field, asks for no name that stands for nothing, except inside the
values of aliases: any look-up gives the same handle that answers as the program's own does in those
values and wherever a name stands for something. -/
theorem resolve_of_check (P : Program) (whole : P.Whole) (d : CheckState)
    (checked : Returns P.check (.start P) [] d) (file : Path) (own : P.isLocal file = true)
    (loaded : file ∈ d.opened) (top hint : Expr) (written : top ∈ (P.source file).topHints)
    (shown : Relation.ReflTransGen (P.Shows file) top hint) :
    P.Stands file hint ∧
      ∀ find : LookUp, (∀ home e, P.Stands home e → find home e = P.find home e) →
        P.FaithfulToAliases find →
          (∀ scope, P.resolveVia find file scope (some hint) =
            P.resolve file scope (some hint)) ∧
          ∀ source scope, source.file = file →
            P.fieldHandleVia find source scope hint = P.fieldHandle source scope hint := by
  have clear := clear_of_check whole checked own loaded written
  refine ⟨(clear hint shown).found, fun find agrees aliases => ?_⟩
  have faithful : P.Faithful find file hint := fun part further =>
    agrees file part (clear part (shown.trans further)).found
  refine ⟨fun scope => resolveVia_eq aliases faithful, ?_⟩
  rintro source scope rfl
  exact fieldHandleVia_eq aliases faithful

/-- A class that stands under a condition, with a field whose hint names nothing. -/
def conditionalRecord : Program := .ofLines ⟨.root, ["app", "functions.py"]⟩ [
  "from typing import TypedDict",
  "if True:",
  "    class Thing(TypedDict):",
  "        value: Missing",
  "def f(x: Thing) -> int:",
  "    return 0"]

/-- Whether the name is bound to a class that has a field whose hint is a name and stands for
nothing. -/
def bindsMissingField (P : Program) (file : Path) (name : String) : Bool :=
  ((P.source file).scope.boundTo name).any fun
    | .classDef definition => definition.body.any fun
      | .declare _ hint _ _ => ((P.lookupExpr file hint).1.toOption.bind Binding.unresolved?).isSome
      | _ => false
    | _ => false

/-- The check passes over a class that does not stand at the top level, and the name that its field
mentions comes up as a type that is not supported. -/
theorem conditionalRecord_unreported :
    (runFrom conditionalRecord.check (.start conditionalRecord)).1 = .ok [] ∧
      conditionalRecord.bindsMissingField conditionalRecord.entry "Thing" = true ∧
      (Derivation.deriveProgram conditionalRecord).toOption.map (·.issues) = some [("f",
        ["The type 'Missing' is not supported, but it was encountered in " ++
          "function 'f' parameter 'x', type 'Thing' property 'value'"])] := by
  decide +kernel

def findStanding (P : Program) : LookUp := fun file e => do
  let found ← P.find file e
  if e.isReference && found.unresolved?.isSome then throw .noArgument
  return found

theorem findStanding_eq {e : Expr} (stands : P.Stands file e) :
    P.findStanding file e = P.find file e := by
  unfold findStanding
  conv_rhs => rw [← bind_pure (P.find file e)]
  refine find_bind_congr fun found looked => ?_
  rw [if_neg]
  rw [Bool.and_eq_true]
  rintro ⟨reference, unresolved⟩
  obtain ⟨other, same, resolved⟩ := stands reference
  cases looked.symm.trans same
  rw [resolved] at unresolved
  cases unresolved

def linkedRecord : Program := .ofLines ⟨.root, ["app", "functions.py"]⟩ [
  "from typing import Optional, TypedDict",
  "class Thing(TypedDict):",
  "    value: 'Optional[Thing]'",
  "def f(x: Thing) -> int:",
  "    return 0"]

theorem faithful_linkedRecord (find : LookUp) : linkedRecord.FaithfulToAliases find := by
  intro home name value bound
  have none : linkedRecord.sources.all (fun s => s.scope.names.all fun b => b.2.alias?.isNone) =
      true := by decide +kernel
  rcases linkedRecord.source_cases home with ⟨present, _⟩ | missing
  · cases List.all_eq_true.mp (List.all_eq_true.mp none _ present) _ bound
  · rw [missing] at bound
    cases bound

/-- The hints of the record are resolved by a look-up that stops at each name that stands for
nothing. -/
theorem resolve_of_check_linkedRecord :
    ∃ d, linkedRecord.Whole ∧ Returns linkedRecord.check (.start linkedRecord) [] d ∧
      linkedRecord.isLocal linkedRecord.entry = true ∧ linkedRecord.entry ∈ d.opened ∧
      ∃ top ∈ (linkedRecord.source linkedRecord.entry).topHints, top.isReference = false ∧
        linkedRecord.FaithfulToAliases linkedRecord.findStanding ∧
        linkedRecord.resolveVia linkedRecord.findStanding linkedRecord.entry [] (some top) =
          linkedRecord.resolve linkedRecord.entry [] (some top) := by
  have whole : linkedRecord.Whole := whole_ofLines _ _
  have tests : (runFrom linkedRecord.check (.start linkedRecord)).1 = .ok [] ∧
      linkedRecord.entry ∈ (runFrom linkedRecord.check (.start linkedRecord)).2.opened ∧
      linkedRecord.isLocal linkedRecord.entry = true ∧
      (linkedRecord.source linkedRecord.entry).topHints.any (fun top => !top.isReference) =
        true := by decide +kernel
  obtain ⟨passes, loaded, own, quoted⟩ := tests
  obtain ⟨top, written, text⟩ := List.any_eq_true.mp quoted
  have checked := returns_of_ok passes
  have resolved := (resolve_of_check linkedRecord whole _ checked linkedRecord.entry own loaded top
    top written .refl).2 linkedRecord.findStanding (fun _ _ => findStanding_eq)
    (faithful_linkedRecord _)
  exact ⟨_, whole, checked, own, loaded, top, written, by simpa using text,
    faithful_linkedRecord _, resolved.1 []⟩

end Program

end HintSchema

import HintSchema.Handle.Identity
import HintSchema.Text.Strip

/-!
What every question about hints is asked in: the files that are open so far, the classes whose form
is known, and the causes for which there is no answer.
-/

namespace HintSchema

inductive Fault where
  /-- A quoted hint holds a null character. -/
  | nullInHint
  /-- A quoted hint holds half of a surrogate pair. -/
  | surrogateInHint
  /-- The first of no arguments is asked for. -/
  | noArgument
  /-- What stands in a hint has no written form. -/
  | unprintable (cause : PrintFault)
  deriving DecidableEq, Repr

/-- A class that is being looked at counts as no record until its form is known. -/
structure CheckState where
  opened : List Path := []
  records : List (ClassKey × Option RecordSource) := []

abbrev CheckM := ExceptT Fault (StateM CheckState)

namespace PrintFault

def lift {α : Type} : Except PrintFault α → CheckM α
  | .ok value => return value
  | .error cause => throw (.unprintable cause)

@[simp] theorem lift_ok {α : Type} (text : α) : lift (.ok text) = pure text := rfl

@[simp] theorem lift_error {α : Type} (cause : PrintFault) :
    (lift (.error cause) : CheckM α) = throw (.unprintable cause) := rfl

end PrintFault

namespace Pending

variable {α : Type} [DecidableEq α]

def without (items : List α) (item : α) : List α := items.filter fun other => other ≠ item

theorem length_without_lt {items : List α} {item : α} (h : item ∈ items) :
    (without items item).length < items.length := by
  unfold without
  exact List.length_filter_lt_length_iff_exists.mpr ⟨item, h, by simp⟩

end Pending

namespace CheckState

def start (P : Program) : CheckState := ⟨P.initial, []⟩

/-- Files keep the order in which they were opened first. -/
def openAll (s : CheckState) (paths : List Path) : CheckState :=
  { s with opened := paths.foldl (fun opened path =>
      if opened.contains path then opened else opened ++ [path]) s.opened }

def remember (s : CheckState) (key : ClassKey) (record : Option RecordSource) : CheckState :=
  { s with records := (key, record) :: s.records }

end CheckState

namespace Program

def find (P : Program) (file : Path) (expr : Expr) : CheckM Binding := do
  let (found, opened) := P.lookupExpr file expr
  modify (·.openAll opened)
  PrintFault.lift found

def findName (P : Program) (file : Path) (name : String) : CheckM Binding := do
  let (found, opened) := P.lookupName file name
  modify (·.openAll opened)
  return found

def openImported (P : Program) (file : Path) (module : Option String) (level : Nat) :
    CheckM (Option Path) := do
  let target := P.resolveImport? file module level
  modify (·.openAll target.toList)
  return target

/-- The names of `expr` that are type variables in `file`, each once, added to those known. -/
def typeVariables (P : Program) (file : Path) (expr : Expr) (known : List String) :
    CheckM (List String) :=
  expr.namesByLevel.foldlM (fun known name => do
    if known.contains name then return known
    match ← P.findName file name with
    | .typeVariable _ => return known ++ [name]
    | _ => return known) known

end Program

namespace Handle

def display (h : Handle) : CheckM String := PrintFault.lift h.display?

end Handle

namespace Expr

def source (e : Expr) : CheckM String := PrintFault.lift e.source?

def ofQuoted? (text : CodeText) : CheckM (Option Expr) :=
  match text.chars? with
  | none => throw .surrogateInHint
  | some chars =>
    let inner := Text.strip chars
    if inner.contains '\x00' then throw .nullInHint else return Parser.expression? inner

end Expr

namespace Literal

def isTrue : Literal → Bool
  | none | false => Bool.false
  | true | ellipsis => Bool.true
  | int value => value != 0
  | float value | imaginary value => !value.isZero
  | text value _ => !value.isEmpty
  | bytes value => !value.isEmpty

/-- The value by itself, where an infinity has a name and an ellipsis is spelled out. -/
def quoted : Literal → Except PrintFault String
  | none => return "None"
  | true => return "True"
  | false => return "False"
  | ellipsis => return "Ellipsis"
  | int value => Printer.decimal value
  | float value => return value.render Bool.true
  | imaginary value => return value.render Bool.false ++ "j"
  | text value _ => return Text.Quoted.text value
  | bytes value => return Text.Quoted.bytes value

end Literal

end HintSchema

import HintSchema.Hints.Diagnostic
import HintSchema.Hints.Resolve

/-!
The check that every name in a hint resolves. It starts at the functions file and goes on to every
local module that it opens.
-/

namespace HintSchema

namespace Diagnostic

def atPosition (file : Path) (pos : Position) (message : String) : Diagnostic :=
  .problem message (some file.toString) (some pos.line) (some (pos.column + 1))

end Diagnostic

namespace DictItem

def value : DictItem → Expr
  | pair _ value => value
  | spread value => value

theorem sizeOf_value_lt (item : DictItem) : sizeOf item.value < sizeOf item := by
  cases item <;> simp only [value, pair.sizeOf_spec, spread.sizeOf_spec] <;> omega

end DictItem

namespace Program

def shown {α : Type} (form : Binding) (arguments : List α) : List α :=
  match form with
  | .special "typing.Literal" => []
  | .special "typing.Annotated" => arguments.take 1
  | _ => arguments

def checkName (P : Program) (file : Path) (pos : Position) (target : Expr) :
    CheckM (List Diagnostic) := do
  match ← P.find file target with
  | .unresolved message => return [.atPosition file pos message]
  | _ => return []

/-- The names in a hint that do not resolve. Inside a quoted hint every node counts as standing at
`place`, where the text itself stands; `quoted` goes on inside a text. -/
def checkExpr (P : Program) (quoted : Position → CodeText → CheckM (List Diagnostic)) (file : Path)
    (place : Option Position) (hint : Expr) : CheckM (List Diagnostic) := do
  let pos := place.getD hint.pos
  match hint with
  | .literal _ (.text text _) => quoted pos text
  | .name own id => P.checkName file pos (.name own id)
  | .member own value attr => P.checkName file pos (.member own value attr)
  | .subscript _ value index =>
    let outer ← P.checkExpr quoted file place value
    let form ← P.find file value
    let inner ← (shown form index.indices.attach).mapM fun ⟨argument, _⟩ =>
      P.checkExpr quoted file place argument
    return outer ++ inner.flatten
  | .binary _ _ left right =>
    let first ← P.checkExpr quoted file place left
    let second ← P.checkExpr quoted file place right
    return first ++ second
  | .tuple _ items =>
    let inner ← items.attach.mapM fun ⟨item, _⟩ => P.checkExpr quoted file place item
    return inner.flatten
  | .list _ items =>
    let inner ← items.attach.mapM fun ⟨item, _⟩ => P.checkExpr quoted file place item
    return inner.flatten
  | .dict _ items =>
    let inner ← items.attach.mapM fun ⟨item, _⟩ => P.checkExpr quoted file place item.value
    return inner.flatten
  | _ => return []
termination_by sizeOf hint
decreasing_by
  · simp only [Expr.subscript.sizeOf_spec]
    omega
  · have := Expr.sizeOf_le_of_mem_indices ‹_›
    simp only [Expr.subscript.sizeOf_spec]
    omega
  · simp only [Expr.binary.sizeOf_spec]
    omega
  · simp only [Expr.binary.sizeOf_spec]
    omega
  · have := List.sizeOf_lt_of_mem ‹_›
    simp only [Expr.tuple.sizeOf_spec]
    omega
  · have := List.sizeOf_lt_of_mem ‹_›
    simp only [Expr.list.sizeOf_spec]
    omega
  · have := List.sizeOf_lt_of_mem ‹_›
    have := item.sizeOf_value_lt
    simp only [Expr.dict.sizeOf_spec]
    omega

def checkHint (P : Program) (file : Path) (limit : Nat) (place : Option Position) (hint : Expr) :
    CheckM (List Diagnostic) :=
  P.checkExpr (fun pos text => do
    if _shorter : text.length < limit then
      match ← Expr.ofQuoted? text with
      | some inner => P.checkHint file text.length (some pos) inner
      | none =>
        return [.atPosition file pos ("Invalid forward reference " ++ Text.Quoted.text text)]
    else return []) file place hint
termination_by limit

def checkHint? (P : Program) (file : Path) : Option Expr → CheckM (List Diagnostic)
  | some hint => P.checkHint file hint.weight none hint
  | none => return []

/-- The parameters in the order of the check: those with a star come last. -/
def parametersToCheck (definition : FunctionDef Statement) : List Parameter :=
  let (starred, plain) := definition.parameters.partition fun p =>
    p.kind == .variadicPositional || p.kind == .variadicKeyword
  plain ++ starred

/-- The hints of functions and of the fields of classes, as far as they stand at the top level. -/
def checkStatement (P : Program) (file : Path) : Statement → CheckM (List Diagnostic)
  | .functionDef definition => do
    let found ← (parametersToCheck definition).mapM fun p => P.checkHint? file p.hint
    return found.flatten ++ (← P.checkHint? file definition.returns)
  | .classDef definition => do
    let found ← definition.body.mapM fun
      | .declare _ hint _ _ => P.checkHint? file (some hint)
      | _ => return []
    return found.flatten
  | _ => return []

def checkRelativeImport (P : Program) (file : Path) (item : RelativeImport) :
    CheckM (List Diagnostic) := do
  match ← P.openImported file item.module item.level with
  | some _ => return []
  | none =>
    return [.atPosition file item.pos (Binding.cannotFindModule item.module item.level)]

def checkFile (P : Program) (file : Path) : CheckM (List Diagnostic) := do
  match (P.source file).body with
  | none => return [.unparsable file.toString]
  | some statements =>
    let imports ← (Statement.relativeImports statements).mapM (P.checkRelativeImport file)
    let hints ← statements.mapM (P.checkStatement file)
    return imports.flatten ++ hints.flatten

/-- Checks the open files from the given position on, and those that are opened meanwhile. Files
outside the functions file's directory are left alone. -/
def checkFrom (P : Program) : Nat → Nat → CheckM (List Diagnostic)
  | 0, _ => return []
  | limit + 1, position => do
    match (← get).opened[position]? with
    | none => return []
    | some file =>
      let found ← if P.isLocal file then P.checkFile file else pure []
      return found ++ (← P.checkFrom limit (position + 1))

/-- Everything that is wrong with the functions file and the local modules it opens, in the order in
which they are opened. -/
def check (P : Program) : CheckM (List Diagnostic) := do
  if (P.source? P.entry).isNone then
    let name := P.entry.toString
    return [.ofFile s!"File '{name}' not found" name]
  P.checkFrom (P.sources.length + 1) 0

end Program

end HintSchema

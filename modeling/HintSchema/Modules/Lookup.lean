import HintSchema.Modules.Program
import HintSchema.Modules.SpecialForm
import HintSchema.Syntax.Printer

/-!
What a name or a chain of members stands for: imports are followed from module to module, and no
name of a module is visited twice in one search.
-/

namespace HintSchema

inductive Binding where
  | special (qualname : String)
  | classDef (file : Path) (definition : ClassDef Statement)
  | alias (key : NameKey) (value : Expr)
  | typeVariable (name : String)
  | recordCall (key : NameKey) (call : RecordCall)
  | module (name : String) (file : Option Path)
  | value (name : String)
  | unresolved (message : String)

namespace Binding

def cannotFindName (name : String) : String := s!"Cannot find name '{name}'"

def cannotFindModule (module : Option String) (level : Nat) : String :=
  "Cannot find module '" ++ String.ofList (List.replicate level '.') ++ module.getD "" ++ "'"

def unresolved? : Binding → Option String
  | unresolved message => some message
  | _ => none

end Binding

/-- The names of modules a search has visited, and the files it has opened, in order. -/
structure Search where
  visited : List NameKey := []
  opened : List Path := []

abbrev SearchM := StateM Search

namespace Search

def openFile (path : Path) : SearchM Unit :=
  modify fun s => { s with opened := s.opened ++ [path] }

def openFile? (path : Option Path) : SearchM Unit :=
  match path with
  | some path => openFile path
  | none => pure ()

end Search

namespace Program

def memberOfSpecial (module name : String) : Binding :=
  let qualname := module ++ "." ++ name
  if SpecialForm.isModule qualname then .module qualname none
  else .special (SpecialForm.canonical qualname)

def openImport (P : Program) (file : Path) (module : Option String) (level : Nat) :
    SearchM (Option Path) := do
  let target := P.resolveImport? file module level
  Search.openFile? target
  return target

/-- What a member of a module stands for, or the module of that name inside it. -/
def orSubmodule (P : Program) (target : Path) (name : String) (found : Binding) :
    SearchM Binding := do
  if found.unresolved?.isNone then return found
  let submodule := P.resolveSubmodule? target name
  Search.openFile? submodule
  match submodule with
  | some path => return .module (P.source path).module (some path)
  | none => return found

def importedModule (P : Program) (file : Path) (module : String) : SearchM Binding := do
  if SpecialForm.isModule module then return .module module none
  match ← P.openImport file module 0 with
  | some path => return .module module (some path)
  | none => return .unresolved (Binding.cannotFindModule module 0)

def specialSource? (module : Option String) (level : Nat) : Option String :=
  module.filter fun name => level == 0 && SpecialForm.isModule name

def resolveBound (P : Program) (recur : Path → String → SearchM Binding) (file : Path)
    (name : String) : Bound → SearchM Binding
  | .classDef definition => return .classDef file definition
  | .alias value => return .alias ⟨file, name⟩ value
  | .typeVariable => return .typeVariable name
  | .recordCall call => return .recordCall ⟨file, name⟩ call
  | .value => return .value name
  | .module module => P.importedModule file module
  | .member module level source => do
    match specialSource? module level with
    | some special => return memberOfSpecial special source
    | none =>
      match ← P.openImport file module level with
      | none => return .unresolved (Binding.cannotFindModule module level)
      | some target => P.orSubmodule target source (← recur target source)

/-- The first binding that resolves; if none does, what the first one failed with. -/
def firstResolved (P : Program) (recur : Path → String → SearchM Binding) (file : Path)
    (name : String) : List Bound → SearchM (Option Binding)
  | [] => return none
  | bound :: rest => do
    let found ← P.resolveBound recur file name bound
    if found.unresolved?.isNone then return some found
    match ← P.firstResolved recur file name rest with
    | some later => return some (if later.unresolved?.isNone then later else found)
    | none => return some found

def throughStars (P : Program) (recur : Path → String → SearchM Binding) (file : Path)
    (name : String) : List (Option String × Nat) → SearchM (Option Binding)
  | [] => return none
  | (module, level) :: rest => do
    match specialSource? module level with
    | some special => return some (.special (SpecialForm.canonical (special ++ "." ++ name)))
    | none =>
      match ← P.openImport file module level with
      | none => P.throughStars recur file name rest
      | some target =>
        let found ← recur target name
        if found.unresolved?.isNone then return some found
        P.throughStars recur file name rest

/-- A module's own bindings hide star imports, and those hide what is bound everywhere. -/
def searchStep (P : Program) (recur : Path → String → SearchM Binding) (file : Path)
    (name : String) : SearchM Binding := do
  let key : NameKey := ⟨file, name⟩
  if (← get).visited.contains key then return .unresolved (Binding.cannotFindName name)
  modify fun s => { s with visited := key :: s.visited }
  let scope := (P.source file).scope
  match ← P.firstResolved recur file name (scope.boundTo name) with
  | some found => return found
  | none =>
    match ← P.throughStars recur file name scope.stars with
    | some found => return found
    | none =>
      if SpecialForm.isBuiltin name then return .special ("builtins." ++ name)
      return .unresolved (Binding.cannotFindName name)

def search (P : Program) : Nat → Path → String → SearchM Binding
  | 0, _, name => return .unresolved (Binding.cannotFindName name)
  | limit + 1, file, name => P.searchStep (P.search limit) file name

/-- What a name stands for at the top level of a module, and the files opened on the way. -/
def lookupName (P : Program) (file : Path) (name : String) : Binding × List Path :=
  let (found, s) := (P.search (P.searchLimit name) file name).run {}
  (found, s.opened)

/-- What a name or a chain of members stands for. Any other expression is written out for the
message. -/
def lookupExpr (P : Program) (file : Path) : Expr → Except PrintFault Binding × List Path
  | .name _ id =>
    let (found, opened) := P.lookupName file id
    (.ok found, opened)
  | .member pos value attr =>
    let (base, opened) := P.lookupExpr file value
    match base with
    | .error fault => (.error fault, opened)
    | .ok (.unresolved message) => (.ok (.unresolved message), opened)
    | .ok (.module name none) => (.ok (memberOfSpecial name attr), opened)
    | .ok (.module _ (some target)) =>
      let (found, more) := P.lookupName target attr
      let (found, s) := (P.orSubmodule target attr found).run {}
      (.ok found, opened ++ more ++ s.opened)
    | .ok _ =>
      let whole := (Expr.member pos value attr).dotted?.getD attr
      (.ok (.unresolved (Binding.cannotFindName whole)), opened)
  | other => (other.source?.map fun text => .unresolved s!"Cannot resolve '{text}'", [])

end Program

end HintSchema

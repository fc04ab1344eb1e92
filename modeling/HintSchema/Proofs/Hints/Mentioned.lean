import HintSchema.Proofs.Hints.Flat
import HintSchema.Proofs.Hints.Quoting
import HintSchema.Proofs.Modules.Opening

/-!
The expressions of a module that are looked up for what its names are bound to, and sets of files
that no such look-up leaves. A handle is within such a set if its records and aliases are.
-/

namespace HintSchema

inductive RecordFields.Mentions (P : Program) (file : Path) : RecordFields → Expr → Prop
  | base {definition : ClassDef Statement} {base : Expr} (member : base ∈ definition.bases) :
      Mentions P file (.ofClass definition) base.base
  | argument {definition : ClassDef Statement} {pos : Position} {value index hint part : Expr}
      (member : .subscript pos value index ∈ definition.bases) (inside : hint ∈ index.indices)
      (shown : Relation.ReflTransGen (P.Shows file) hint part) :
      Mentions P file (.ofClass definition) part
  | field {definition : ClassDef Statement} {pos : Position} {name : String} {hint part : Expr}
      {value : Option Expr} {bare : Bool}
      (member : .declare (.name pos name) hint value bare ∈ definition.body)
      (shown : Relation.ReflTransGen (P.Shows file) hint part) :
      Mentions P file (.ofClass definition) part
  | item {pos place : Position} {items : List DictItem} {key : CodeText} {marked : Bool}
      {hint part : Expr} (member : .pair (.literal place (.text key marked)) hint ∈ items)
      (shown : Relation.ReflTransGen (P.Shows file) hint part) :
      Mentions P file (.ofDict (.dict pos items)) part

inductive Bound.Mentions (P : Program) (file : Path) : Bound → Expr → Prop
  | decorator {definition : ClassDef Statement} {decorator : Expr}
      (member : decorator ∈ definition.decorators) :
      Mentions P file (.classDef definition) decorator.callee
  | parameter {definition : ClassDef Statement} {pos place : Position} {value index : Expr}
      {name : String} (member : .subscript pos value index ∈ definition.bases)
      (named : name ∈ index.namesByLevel) : Mentions P file (.classDef definition) (.name place name)
  | record {definition : ClassDef Statement} {e : Expr}
      (mentioned : (RecordFields.ofClass definition).Mentions P file e) :
      Mentions P file (.classDef definition) e
  | call {call : RecordCall} {e : Expr}
      (mentioned : (RecordFields.ofDict call.fields).Mentions P file e) :
      Mentions P file (.recordCall call) e
  | value {value part : Expr} (shown : Relation.ReflTransGen (P.Shows file) value part) :
      Mentions P file (.alias value) part
  | free {value : Expr} {place : Position} {name : String} (named : name ∈ value.namesByLevel) :
      Mentions P file (.alias value) (.name place name)

namespace Program

variable {P : Program} {F : Path → Prop} {file : Path} {hint part : Expr}

/-- Some expression that is looked up for a name of `origin` opens the other file. -/
def Draws (P : Program) (origin target : Path) : Prop :=
  ∃ name bound e, (name, bound) ∈ (P.source origin).scope.names ∧ bound.Mentions P origin e ∧
    target ∈ (P.lookupExpr origin e).2

def LooksWithin (P : Program) (F : Path → Prop) (file : Path) (e : Expr) : Prop :=
  ∀ path ∈ (P.lookupExpr file e).2, F path

def ShowsWithin (P : Program) (F : Path → Prop) (file : Path) (hint : Expr) : Prop :=
  ∀ part, Relation.ReflTransGen (P.Shows file) hint part → P.LooksWithin F file part

/-- Whatever is looked up for the names of the files opens only these files. -/
def ClosedFiles (P : Program) (F : Path → Prop) : Prop :=
  ∀ origin target, F origin → P.Draws origin target → F target

end Program

structure RecordSource.Within (P : Program) (F : Path → Prop) (source : RecordSource) : Prop where
  home : F source.file
  mentions : ∀ e, source.fields.Mentions P source.file e → P.LooksWithin F source.file e

structure AliasRef.Within (P : Program) (F : Path → Prop) (target : AliasRef) : Prop where
  home : F target.key.file
  mentions : ∀ e, (Bound.alias target.value).Mentions P target.key.file e →
    P.LooksWithin F target.key.file e

namespace Program.ClosedFiles

variable {P : Program} {F : Path → Prop} {file : Path} {name : String} {bound : Bound} {e : Expr}

theorem looks (closed : P.ClosedFiles F) (home : F file)
    (member : (name, bound) ∈ (P.source file).scope.names) (mentioned : bound.Mentions P file e) :
    P.LooksWithin F file e :=
  fun target opened => closed file target home ⟨name, bound, e, member, mentioned, opened⟩

theorem ofClass (closed : P.ClosedFiles F) {definition : ClassDef Statement} (home : F file)
    (member : (name, .classDef definition) ∈ (P.source file).scope.names) {source : RecordSource}
    (placed : source.file = file) (read : source.fields = .ofClass definition) :
    source.Within P F := by
  subst placed
  refine ⟨home, fun e mentioned => closed.looks home member (.record ?_)⟩
  rwa [read] at mentioned

theorem ofCall (closed : P.ClosedFiles F) {key : NameKey} {call : RecordCall} (home : F key.file)
    (member : (key.name, .recordCall call) ∈ (P.source key.file).scope.names) :
    (recordOfCall key call).Within P F :=
  ⟨home, fun _ mentioned => closed.looks home member (.call mentioned)⟩

theorem ofAlias (closed : P.ClosedFiles F) {key : NameKey} {value : Expr} (home : F key.file)
    (first : ((P.source key.file).scope.boundTo key.name).findSome? Bound.alias? = some value) :
    AliasRef.Within P F ⟨key, value⟩ := by
  obtain ⟨bound, member, same⟩ := List.exists_of_findSome?_eq_some first
  match bound, same with
  | .alias _, rfl =>
    exact ⟨home, fun e mentioned => closed.looks home (mem_names_of_boundTo member) mentioned⟩

end Program.ClosedFiles

namespace Handle

/-- The records and the aliases in the handle are declared in files of the set, and looked up there.
-/
inductive Within (P : Program) (F : Path → Prop) : Handle → Prop
  | intrinsic (kind : Intrinsic) : Within P F (.intrinsic kind)
  | void (text : String) : Within P F (.void text)
  | union {members : List Handle} (parts : ∀ h ∈ members, Within P F h) :
      Within P F (.union members)
  | list {name : String} {element : Handle} (inner : Within P F element) :
      Within P F (.list name element)
  | awaitable {name : String} {arguments : List Handle} (parts : ∀ h ∈ arguments, Within P F h) :
      Within P F (.awaitable name arguments)
  | classObject {symbol : Symbol} {arguments : List Handle}
      (parts : ∀ h ∈ arguments, Within P F h) : Within P F (.classObject symbol arguments)
  | record {symbol : Symbol} {source : RecordSource} {arguments : List Handle}
      {aliasName : Option String} (own : source.Within P F)
      (parts : ∀ h ∈ arguments, Within P F h) :
      Within P F (.record symbol source arguments aliasName)
  | typeParameter (name : String) : Within P F (.typeParameter name)
  | unsupported (text : String) (symbol : Option Symbol) : Within P F (.unsupported text symbol)
  | deferred {target : AliasRef} {arguments : List Handle} (own : target.Within P F)
      (parts : ∀ h ∈ arguments, Within P F h) : Within P F (.deferred target arguments)

theorem Within.arguments {P : Program} {F : Path → Prop} {h : Handle} (within : h.Within P F) :
    ∀ part ∈ h.arguments, part.Within P F := by
  cases within with
  | list inner => exact List.forall_mem_singleton.mpr inner
  | awaitable parts | classObject parts | record _ parts | deferred _ parts => exact parts
  | _ => exact List.forall_mem_nil _

end Handle

/-- What is remembered of classes is genuine, and only files of the set are open. -/
structure CheckState.Within (P : Program) (F : Path → Prop) (c : CheckState) : Prop where
  genuine : c.Genuine P
  opened : ∀ file ∈ c.opened, F file

section

variable {P : Program} {F : Path → Prop}

/-! Within the set of all files is everything. -/

theorem Program.showsWithin_of_all (all : ∀ path, F path) (file : Path) (hint : Expr) :
    P.ShowsWithin F file hint :=
  fun _ _ path _ => all path

theorem Program.closedFiles_of_all (all : ∀ path, F path) : P.ClosedFiles F :=
  fun _ target _ _ => all target

theorem RecordSource.within_of_all (all : ∀ path, F path) (source : RecordSource) :
    source.Within P F :=
  ⟨all _, fun _ _ path _ => all path⟩

theorem Handle.within_of_all (all : ∀ path, F path) (h : Handle) : h.Within P F := by
  generalize bound : sizeOf h = limit
  induction limit using Nat.strongRecOn generalizing h with
  | ind limit ih =>
    subst bound
    have parts {handles : List Handle} (smaller : sizeOf handles < sizeOf h) :
        ∀ g ∈ handles, g.Within P F := fun g member =>
      ih (sizeOf g) (Nat.lt_trans (List.sizeOf_lt_of_mem member) smaller) g rfl
    cases h with
    | intrinsic kind => exact .intrinsic kind
    | void text => exact .void text
    | union members => exact .union (parts (by simp +arith))
    | list name element => exact .list (ih (sizeOf element) (by simp +arith) element rfl)
    | awaitable name arguments => exact .awaitable (parts (by simp +arith))
    | classObject symbol arguments => exact .classObject (parts (by simp +arith))
    | record symbol source arguments aliasName =>
      exact .record (source.within_of_all all) (parts (by simp +arith))
    | typeParameter name => exact .typeParameter name
    | unsupported text symbol => exact .unsupported text symbol
    | deferred target arguments =>
      exact .deferred ⟨all _, fun _ _ path _ => all path⟩ (parts (by simp +arith))

end

end HintSchema

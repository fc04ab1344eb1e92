import HintSchema.Hints.Resolve
import HintSchema.Proofs.Modules.Execution
import HintSchema.Proofs.Returns

/-!
Names that no module binds, such as those of the builtin types. A search for one follows star
imports from module to module. It ends at the first special module, which is taken to have every
name, or else with what is bound everywhere. So a star import of a special module captures the name
for each module whose search meets it (`lookupName_addStar`).
-/

namespace HintSchema

namespace Statement

def starImport (pos : Position) (module : String) : Statement :=
  .importFrom pos (some module) 0 [⟨"*", none⟩]

end Statement

namespace Scope

variable {star : Option String × Nat} {before : List (Option String × Nat)} {s t : Scope}

/-- The second scope has one more star import, right after those that come before. -/
structure Inserts (star : Option String × Nat) (before : List (Option String × Nat))
    (s t : Scope) : Prop where
  names : t.names = s.names
  stars : ∃ after, s.stars = before ++ after ∧ t.stars = before ++ star :: after

namespace Inserts

theorem bind (inserts : Inserts star before s t) (name : String) (bound : Bound) :
    Inserts star before (s.bind name bound) (t.bind name bound) where
  names := congrArg (List.cons (name, bound)) inserts.names
  stars := inserts.stars

theorem list (inserts : Inserts star before s t) (exports : Option (List String)) :
    Inserts star before { s with exports } { t with exports } :=
  ⟨inserts.names, inserts.stars⟩

theorem assign (inserts : Inserts star before s t) (name : String) (value : Expr) :
    Inserts star before (s.assign name value) (t.assign name value) := by
  unfold Scope.assign
  split
  · exact (inserts.list _).bind name _
  · exact inserts.bind name _

theorem declare (inserts : Inserts star before s t) (name : String) (hint : Expr)
    (value : Option Expr) :
    Inserts star before (s.declare name hint value) (t.declare name hint value) := by
  cases value with
  | none => exact inserts.bind name _
  | some value =>
    unfold Scope.declare
    dsimp only
    split
    · exact inserts.bind name _
    · split
      · exact (inserts.list _).bind name _
      · exact inserts.bind name _

theorem importModule (inserts : Inserts star before s t) (item : ImportAlias) :
    Inserts star before (s.importModule item) (t.importModule item) := by
  unfold Scope.importModule
  split <;> exact inserts.bind _ _

theorem importMember (inserts : Inserts star before s t) (module : Option String) (level : Nat)
    (item : ImportAlias) :
    Inserts star before (s.importMember module level item) (t.importMember module level item) := by
  unfold Scope.importMember
  split
  · obtain ⟨after, old, new⟩ := inserts.stars
    refine ⟨inserts.names, after ++ [(module, level)], ?_, ?_⟩
    · rw [old, List.append_assoc]
    · rw [new, List.append_assoc, List.cons_append]
  · exact inserts.bind _ _

theorem foldl {α : Type} {step : Scope → α → Scope}
    (each : ∀ {s t : Scope} item, Inserts star before s t →
      Inserts star before (step s item) (step t item))
    (inserts : Inserts star before s t) (items : List α) :
    Inserts star before (items.foldl step s) (items.foldl step t) := by
  induction items generalizing s t with
  | nil => exact inserts
  | cons item rest ih => exact ih (each item inserts)

theorem afterAssign (inserts : Inserts star before s t) (targets : List Expr) (value : Expr) :
    Inserts star before (s.afterStatement (.assign targets value))
      (t.afterStatement (.assign targets value)) := by
  cases targets with
  | nil => exact inserts
  | cons target rest =>
    cases rest with
    | cons => cases target <;> exact inserts
    | nil =>
      cases target with
      | name _ id => exact inserts.assign id value
      | _ => exact inserts

mutual

theorem afterStatement : ∀ (statement : Statement) {s t : Scope}, Inserts star before s t →
    Inserts star before (s.afterStatement statement) (t.afterStatement statement)
  | .classDef _, _, _, inserts | .functionDef _, _, _, inserts => inserts.bind _ _
  | .importModules items, _, _, inserts => foldl (fun item => (·.importModule item)) inserts items
  | .importFrom _ module level items, _, _, inserts =>
    foldl (fun item => (·.importMember module level item)) inserts items
  | .assign targets value, _, _, inserts => inserts.afterAssign targets value
  | .declare target hint value _, _, _, inserts => by
    cases target with
    | name _ id => exact inserts.declare id hint value
    | _ => exact inserts
  | .branch _ body orelse, _, _, inserts => afterAll orelse (afterAll body inserts)
  | .attempt false body handlers orelse cleanup, _, _, inserts =>
    afterAll cleanup (afterAll orelse (afterArms handlers (afterAll body inserts)))
  | .attempt true _ _ _ _, _, _, inserts | .augment _ _ _, _, _, inserts
  | .expression _, _, _, inserts | .loop _ _ _, _, _, inserts | .within _ _ _, _, _, inserts
  | .choice _ _, _, _, inserts | .simple _, _, _, inserts => inserts

theorem afterAll : ∀ (statements : List Statement) {s t : Scope}, Inserts star before s t →
    Inserts star before (s.afterAll statements) (t.afterAll statements)
  | [], _, _, inserts => inserts
  | statement :: rest, _, _, inserts => afterAll rest (afterStatement statement inserts)

theorem afterArms : ∀ (arms : List (Arm Statement)) {s t : Scope}, Inserts star before s t →
    Inserts star before (s.afterArms arms) (t.afterArms arms)
  | [], _, _, inserts => inserts
  | ⟨_, body⟩ :: rest, _, _, inserts => afterArms rest (afterAll body inserts)

end

end Inserts

theorem afterAll_append (s : Scope) (first second : List Statement) :
    s.afterAll (first ++ second) = (s.afterAll first).afterAll second := by
  induction first generalizing s with
  | nil => rfl
  | cons statement rest ih => exact ih _

theorem inserts_starImport (early late : List Statement) (pos : Position) (module : String) :
    Inserts (some module, 0) (ofStatements early).stars (.ofStatements (early ++ late))
      (.ofStatements (early ++ .starImport pos module :: late)) := by
  unfold ofStatements
  rw [afterAll_append, afterAll_append, afterAll, Statement.starImport]
  refine Inserts.afterAll late ⟨rfl, [], ?_, rfl⟩
  rw [List.append_nil]

end Scope

namespace Program

/-- No statement of a module binds the name. -/
def NoneBinds (P : Program) (name : String) : Prop :=
  ∀ file, (P.source file).scope.boundTo name = []

inductive Lead where
  | special (module : String)
  | file (target : Path)
  deriving DecidableEq

/-- Where a star import leads a search that has been in some files: to a special module, or to a
file that is new to it. -/
def lead? (P : Program) (been : List Path) (file : Path) (star : Option String × Nat) :
    Option Lead :=
  match specialSource? star.1 star.2 with
  | some special => some (.special special)
  | none => (P.resolveImport? file star.1 star.2).bind fun target =>
    if target ∈ been then none else some (.file target)

def firstLead? (P : Program) (been : List Path) (file : Path)
    (stars : List (Option String × Nat)) : Option Lead :=
  stars.findSome? (P.lead? been file)

def onward? (P : Program) (been : List Path) (file : Path) : Option Lead :=
  P.firstLead? (file :: been) file (P.source file).scope.stars

/-- What a search for a name that no module binds fetches where it is led. -/
inductive Fetches (P : Program) (name : String) : List Path → Option Lead → Binding → Prop
  | special (been : List Path) (module : String) :
      Fetches P name been (some (.special module))
        (.special (SpecialForm.canonical (module ++ "." ++ name)))
  | everywhere (been : List Path) : Fetches P name been none (.special ("builtins." ++ name))
  | onward {been : List Path} {target : Path} {found : Binding}
      (there : Fetches P name (target :: been) (P.onward? been target) found) :
      Fetches P name been (some (.file target)) found

/-- A search goes to the file, and there the star imports up to some place lead it nowhere. -/
inductive Meets (P : Program) (file : Path) (before : List (Option String × Nat)) :
    List Path → Option Lead → Prop
  | here {been : List Path} (idle : P.firstLead? (file :: been) file before = none) :
      Meets P file before been (some (.file file))
  | onward {been : List Path} {target : Path}
      (there : Meets P file before (target :: been) (P.onward? been target)) :
      Meets P file before been (some (.file target))

variable {P Q : Program} {file start : Path} {name : String} {been : List Path}
  {lead : Option Lead} {found found' : Binding}
  {recur : Path → String → SearchM Binding} {names : List String} {limit : Nat}

namespace Fetches

theorem resolves (fetches : P.Fetches name been lead found) : found.Resolves := by
  induction fetches with
  | special | everywhere => rfl
  | onward _ ih => exact ih

theorem unique (fetches : P.Fetches name been lead found)
    (other : P.Fetches name been lead found') : found = found' := by
  induction fetches with
  | special | everywhere =>
    cases other
    rfl
  | onward _ ih =>
    cases other with
    | onward there => exact ih there

end Fetches

/-- The names visited are those of the files that the search has been in. -/
def Tracks (name : String) (been : List Path) (visited : List NameKey) : Prop :=
  ∀ file, ⟨file, name⟩ ∈ visited ↔ file ∈ been

theorem Tracks.cons {visited : List NameKey} (tracks : Tracks name been visited) (file : Path) :
    Tracks name (file :: been) (⟨file, name⟩ :: visited) := by
  intro other
  rw [List.mem_cons, List.mem_cons, tracks other, NameKey.mk.injEq, and_iff_left rfl]

theorem run_throughStars_fetches {stars : List (Option String × Nat)} {visited : List NameKey}
    (old : ∀ target ∈ been, ∀ s : Search, s.visited = visited →
      ¬ ((recur target name).run s).1.Resolves ∧ ((recur target name).run s).2 = s)
    (new : ∀ module level target, (module, level) ∈ stars → specialSource? module level = none →
      P.resolveImport? file module level = some target → target ∉ been →
        ∀ s : Search, s.visited = visited →
          P.Fetches name been (some (.file target)) ((recur target name).run s).1)
    {s : Search} (same : s.visited = visited) :
    (∃ found, ((P.throughStars recur file name stars).run s).1 = some found ∧
        P.Fetches name been (P.firstLead? been file stars) found) ∨
      ((P.throughStars recur file name stars).run s).1 = none ∧
        P.firstLead? been file stars = none := by
  induction stars generalizing s with
  | nil => exact .inr ⟨rfl, rfl⟩
  | cons star rest ih =>
    obtain ⟨module, level⟩ := star
    have later := @ih fun module level target member =>
      new module level target (List.mem_cons_of_mem _ member)
    unfold firstLead? at later ⊢
    rw [List.findSome?_cons]
    cases ordinary : specialSource? module level with
    | some special =>
      simp only [throughStars, lead?, ordinary]
      exact .inl ⟨_, rfl, .special been special⟩
    | none =>
      simp only [throughStars, lead?, ordinary]
      obtain ⟨opened, kept⟩ := Still.openImport P file module level s
      rw [run_bind_of_eq opened]
      replace same := kept.trans same
      cases there : P.resolveImport? file module level with
      | none => exact later same
      | some target =>
        rw [Option.bind_some]
        by_cases visited : target ∈ been
        · obtain ⟨fails, unchanged⟩ := old target visited _ same
          rw [if_pos visited, run_bind_of_eq rfl, if_neg fails, unchanged]
          exact later same
        · have fetches := new module level target List.mem_cons_self ordinary there visited _ same
          rw [if_neg visited, run_bind_of_eq rfl, if_pos fetches.resolves]
          exact .inl ⟨_, rfl, fetches⟩

theorem fetches_search (unbound : P.NoneBinds name) (builtin : SpecialForm.isBuiltin name)
    (named : name ∈ names) {s : Search} (tracks : Tracks name been s.visited) (new : file ∉ been)
    (enough : P.room names s.visited < limit) :
    P.Fetches name been (some (.file file)) ((P.search limit file name).run s).1 := by
  induction limit generalizing been file s with
  | zero => exact absurd enough (Nat.not_lt_zero _)
  | succ limit ih =>
    have unvisited : ⟨file, name⟩ ∉ s.visited := mt (tracks file).mp new
    have old (target : Path) (visited : target ∈ file :: been) (s' : Search)
        (same : s'.visited = ⟨file, name⟩ :: s.visited) :
        ¬ ((P.search limit target name).run s').1.Resolves ∧
          ((P.search limit target name).run s').2 = s' := by
      rw [run_search_of_visited (same ▸ (tracks.cons file target).mpr visited)]
      exact ⟨Bool.false_ne_true, rfl⟩
    have below (module : Option String) (level : Nat) (target : Path)
        (star : (module, level) ∈ (P.source file).scope.stars)
        (ordinary : specialSource? module level = none)
        (found : P.resolveImport? file module level = some target) (new : target ∉ file :: been)
        (s' : Search) (same : s'.visited = ⟨file, name⟩ :: s.visited) :
        P.Fetches name (file :: been) (some (.file target))
          ((P.search limit target name).run s').1 := by
      have refers : P.Refers ⟨file, name⟩ ⟨target, name⟩ := .star star ordinary found
      refine ih (same ▸ tracks.cons file) new ?_
      rw [same]
      exact (room_cons_lt (refers.place named) unvisited).trans_le (Nat.le_of_lt_succ enough)
    rw [run_search_of_not_visited unvisited, lookIn, unbound file, firstResolved, pure_bind]
    refine .onward ?_
    dsimp only
    rcases run_throughStars_fetches old below (s := { s with visited := ⟨file, name⟩ :: s.visited })
        rfl with ⟨found, brought, fetches⟩ | ⟨missed, idle⟩
    · rw [run_bind_of_eq brought]
      exact fetches
    · rw [run_bind_of_eq missed, onward?, idle]
      dsimp only
      rw [if_pos builtin]
      exact .everywhere _

theorem fetches_lookupName (unbound : P.NoneBinds name) (builtin : SpecialForm.isBuiltin name)
    (start : Path) : P.Fetches name [] (some (.file start)) (P.lookupName start name).1 := by
  have tracks : Tracks name [] ({} : Search).visited := fun _ =>
    iff_of_false List.not_mem_nil List.not_mem_nil
  exact fetches_search unbound builtin (P.mem_reachableNames name) tracks List.not_mem_nil
    (P.room_lt_searchLimit name _)

/-! ### One more star import -/

/-- The program in which a star import of `module` is added to a file, after so many of its
statements. -/
def addStar (P : Program) (file : Path) (count : Nat) (pos : Position) (module : String) :
    Program :=
  { P with sources := P.sources.map fun s =>
      if s.path = file then
        .ofBody s.module s.path (s.body.map fun statements =>
          statements.take count ++ .starImport pos module :: statements.drop count)
      else s }

/-- The star imports that come before the added one. -/
def starsBefore (P : Program) (file : Path) (count : Nat) : List (Option String × Nat) :=
  (Scope.ofStatements ((P.source file).statements.take count)).stars

variable {count : Nat} {pos : Position} {module : String} {statements : List Statement}

theorem source?_addStar (P : Program) (file other : Path) (count : Nat) (pos : Position)
    (module : String) : (P.addStar file count pos module).source? other =
      (P.source? other).map fun s =>
        if s.path = file then
          .ofBody s.module s.path (s.body.map fun statements =>
            statements.take count ++ .starImport pos module :: statements.drop count)
        else s := by
  unfold source? addStar
  rw [List.find?_map]
  congr 2
  funext s
  dsimp only [Function.comp_apply]
  split <;> rfl

theorem source_addStar_of_ne {other : Path} (apart : other ≠ file) :
    (P.addStar file count pos module).source other = P.source other := by
  unfold source
  rw [source?_addStar]
  cases found : P.source? other with
  | none => rfl
  | some s =>
    have path := P.path_source other
    rw [source, found, Option.getD_some] at path
    rw [Option.map_some, if_neg (path ▸ apart)]

theorem source_addStar (body : (P.source file).body = some statements) :
    (P.addStar file count pos module).source file =
      .ofBody (P.source file).module file
        (some (statements.take count ++ .starImport pos module :: statements.drop count)) := by
  unfold source at body ⊢
  rw [source?_addStar]
  cases found : P.source? file with
  | none =>
    rw [found] at body
    cases body
  | some s =>
    have path := P.path_source file
    rw [source, found, Option.getD_some] at path
    rw [found, Option.getD_some] at body
    rw [Option.map_some, if_pos path, Option.getD_some, Option.getD_some, body, path]
    rfl

theorem inserts_addStar (body : (P.source file).body = some statements)
    (read : (P.source file).scope = .ofStatements statements) :
    Scope.Inserts (some module, 0) (P.starsBefore file count) (P.source file).scope
      ((P.addStar file count pos module).source file).scope := by
  have whole : (P.source file).statements = statements := congrArg (·.getD []) body
  rw [source_addStar body, read, starsBefore, whole]
  have inserts := Scope.inserts_starImport (statements.take count) (statements.drop count) pos
    module
  rwa [List.take_append_drop] at inserts

theorem noneBinds_addStar (unbound : P.NoneBinds name)
    (body : (P.source file).body = some statements)
    (read : (P.source file).scope = .ofStatements statements) :
    (P.addStar file count pos module).NoneBinds name := by
  intro other
  by_cases itself : other = file
  · subst itself
    rw [Scope.boundTo, (inserts_addStar body read).names]
    exact unbound other
  · rw [source_addStar_of_ne itself]
    exact unbound other

theorem onward?_addStar_of_ne {other : Path} (apart : other ≠ file) :
    (P.addStar file count pos module).onward? been other = P.onward? been other := by
  unfold onward?
  rw [source_addStar_of_ne apart]
  rfl

theorem onward?_addStar_of_idle (body : (P.source file).body = some statements)
    (read : (P.source file).scope = .ofStatements statements)
    (special : SpecialForm.isModule module)
    (idle : P.firstLead? (file :: been) file (P.starsBefore file count) = none) :
    (P.addStar file count pos module).onward? been file = some (.special module) := by
  have inserts : Scope.Inserts (some module, 0) (P.starsBefore file count) (P.source file).scope
      ((P.addStar file count pos module).source file).scope := inserts_addStar body read
  obtain ⟨after, _, stars⟩ := inserts.stars
  have leads : P.lead? (file :: been) file (some module, 0) = some (.special module) := by
    rw [lead?, specialSource?, Option.filter_some, special]
    rfl
  rw [onward?, stars]
  change (P.starsBefore file count ++ _).findSome? (P.lead? (file :: been) file) = _
  rw [List.findSome?_append, List.findSome?_cons, leads]
  change (P.firstLead? (file :: been) file (P.starsBefore file count)).or _ = _
  rw [idle]
  rfl

theorem onward?_addStar_of_led (body : (P.source file).body = some statements)
    (read : (P.source file).scope = .ofStatements statements)
    (led : P.firstLead? (file :: been) file (P.starsBefore file count) ≠ none) :
    (P.addStar file count pos module).onward? been file = P.onward? been file := by
  have inserts : Scope.Inserts (some module, 0) (P.starsBefore file count) (P.source file).scope
      ((P.addStar file count pos module).source file).scope := inserts_addStar body read
  obtain ⟨after, old, stars⟩ := inserts.stars
  obtain ⟨first, leads⟩ := Option.ne_none_iff_exists'.mp led
  have early (later : List (Option String × Nat)) :
      P.firstLead? (file :: been) file (P.starsBefore file count ++ later) = some first := by
    rw [firstLead?, List.findSome?_append]
    change (P.firstLead? (file :: been) file (P.starsBefore file count)).or _ = _
    rw [leads]
    rfl
  rw [onward?, onward?, stars, old, early]
  exact early _

theorem Meets.fetches (meets : P.Meets file (P.starsBefore file count) been lead)
    (body : (P.source file).body = some statements)
    (read : (P.source file).scope = .ofStatements statements)
    (special : SpecialForm.isModule module) :
    (P.addStar file count pos module).Fetches name been lead
      (.special (SpecialForm.canonical (module ++ "." ++ name))) := by
  induction meets with
  | here idle =>
    refine .onward ?_
    rw [onward?_addStar_of_idle body read special idle]
    exact .special _ _
  | @onward been target there ih =>
    refine .onward ?_
    by_cases itself : target = file
    · subst itself
      by_cases idle : P.firstLead? (target :: been) target (P.starsBefore target count) = none
      · rw [onward?_addStar_of_idle body read special idle]
        exact .special _ _
      · rw [onward?_addStar_of_led body read idle]
        exact ih
    · rw [onward?_addStar_of_ne itself]
      exact ih

theorem Fetches.addStar (fetches : P.Fetches name been lead found)
    (missed : ¬ P.Meets file (P.starsBefore file count) been lead)
    (body : (P.source file).body = some statements)
    (read : (P.source file).scope = .ofStatements statements) :
    (P.addStar file count pos module).Fetches name been lead found := by
  induction fetches with
  | special | everywhere => constructor
  | @onward been target found there ih =>
    refine .onward ?_
    by_cases itself : target = file
    · subst itself
      have led : P.firstLead? (target :: been) target (P.starsBefore target count) ≠ none :=
        fun idle => missed (.here idle)
      rw [onward?_addStar_of_led body read led]
      exact ih fun meets => missed (.onward meets)
    · rw [onward?_addStar_of_ne itself]
      exact ih fun meets => missed (.onward meets)

/-! ### Builtin types in hints -/

/-- The builtin types that a schema can express. -/
def typeNames : List String := ["bool", "str", "int", "float", "list"]

def isForeign (qualname : String) : Bool :=
  (SpecialForm.scalar? qualname).isNone && !SpecialForm.listForms.contains qualname &&
    !SpecialForm.awaitableForms.contains qualname && !SpecialForm.voidForms.contains qualname &&
    !(["typing.Any", "typing.Coroutine"].contains qualname)

theorem isBuiltin_of_typeNames : ∀ name ∈ typeNames, SpecialForm.isBuiltin name := by
  decide +kernel

theorem isForeign_of_typeNames : ∀ name ∈ typeNames, ∀ module ∈ SpecialForm.modules,
    module ≠ "builtins" → isForeign (SpecialForm.canonical (module ++ "." ++ name)) := by
  decide +kernel

variable {p : Position} {qualname : String}

theorem handleOfSpecial_of_foreign (foreign : isForeign qualname) :
    handleOfSpecial file qualname [] (.name p name) = pure (.unsupported name none) := by
  simp only [isForeign, Bool.and_eq_true, Bool.not_eq_true', Option.isNone_iff_eq_none] at foreign
  obtain ⟨⟨⟨⟨scalar, list⟩, awaitable⟩, void⟩, other⟩ := foreign
  unfold handleOfSpecial
  simp only [scalar, list, awaitable, void, Bool.false_eq_true, if_false]
  split <;> first | contradiction | cases other | rfl

theorem exists_handleOfSpecial (file : Path) (qualname : String) (p : Position) (name : String) :
    ∃ handle, handleOfSpecial file qualname [] (.name p name) = pure handle := by
  unfold handleOfSpecial
  dsimp only
  split
  · exact ⟨_, rfl⟩
  split
  · exact ⟨_, rfl⟩
  split
  · exact ⟨_, rfl⟩
  split
  · exact ⟨_, rfl⟩
  split <;> first | contradiction | exact ⟨_, rfl⟩

theorem resolve_of_special (looked : (P.lookupName file name).1 = .special qualname)
    (s : CheckState) :
    runFrom (P.resolve file [] (some (.name p name))) s =
      runFrom (handleOfSpecial file qualname [] (.name p name))
        (s.openAll (P.lookupName file name).2) := by
  rw [resolve, resolveAmong, resolveQuoting, resolveExpr]
  have found : runFrom (P.find file (.name p name)) s =
      (.ok (.special qualname), s.openAll (P.lookupName file name).2) := by
    rw [← looked]
    rfl
  dsimp only [List.lookup_nil]
  rw [runFrom_bind, found]
  rfl

theorem answer_of_special {handle : Handle}
    (looked : (P.lookupName file name).1 = .special qualname)
    (denotes : handleOfSpecial file qualname [] (.name p name) = pure handle) (s : CheckState) :
    (runFrom (P.resolve file [] (some (.name p name))) s).1 = .ok handle := by
  rw [resolve_of_special looked, denotes]
  rfl

theorem Fetches.isSpecial (fetches : P.Fetches name been lead found) :
    ∃ qualname, found = .special qualname := by
  induction fetches with
  | special | everywhere => exact ⟨_, rfl⟩
  | onward _ ih => exact ih

/-- A star import of a special module captures the name of a builtin type in each module whose
search for it meets that star import, and changes nothing for the others. In a hint the name then
is unsupported, unless the special module is that of the builtins themselves. -/
theorem lookupName_addStar (builtin : name ∈ typeNames) (unbound : P.NoneBinds name)
    (parsed : (P.source file).body.isSome)
    (read : (P.source file).scope = .ofStatements (P.source file).statements)
    (special : SpecialForm.isModule module) (start : Path) (s : CheckState) :
    (P.Meets file (P.starsBefore file count) [] (some (.file start)) →
      ((P.addStar file count pos module).lookupName start name).1 =
          .special (SpecialForm.canonical (module ++ "." ++ name)) ∧
        (module ≠ "builtins" →
          (runFrom ((P.addStar file count pos module).resolve start [] (some (.name p name)))
            s).1 = .ok (.unsupported name none))) ∧
    (¬ P.Meets file (P.starsBefore file count) [] (some (.file start)) →
      ((P.addStar file count pos module).lookupName start name).1 = (P.lookupName start name).1 ∧
        (runFrom ((P.addStar file count pos module).resolve start [] (some (.name p name))) s).1 =
          (runFrom (P.resolve start [] (some (.name p name))) s).1) := by
  obtain ⟨statements, body⟩ := Option.isSome_iff_exists.mp parsed
  rw [SourceFile.statements, body, Option.getD_some] at read
  have everywhere := isBuiltin_of_typeNames name builtin
  have unbound' : (P.addStar file count pos module).NoneBinds name :=
    noneBinds_addStar unbound body read
  have fetches := fetches_lookupName unbound everywhere start
  have fetches' := fetches_lookupName unbound' everywhere start
  refine ⟨fun meets => ?_, fun missed => ?_⟩
  · have captured := fetches'.unique (meets.fetches body read special)
    refine ⟨captured, fun other => answer_of_special captured (handleOfSpecial_of_foreign ?_) s⟩
    exact isForeign_of_typeNames name builtin module (List.contains_iff_mem.mp special) other
  · have same := fetches'.unique (fetches.addStar missed body read)
    obtain ⟨qualname, looked⟩ := fetches.isSpecial
    obtain ⟨handle, denotes⟩ := exists_handleOfSpecial start qualname p name
    rw [answer_of_special looked denotes, answer_of_special (same.trans looked) denotes]
    exact ⟨same, rfl⟩

/-- A functions file with a function of integers. -/
def integers : Program := .ofLines ⟨.root, ["app", "functions.py"]⟩ [
  "def f(x: int) -> int:",
  "    return 0"]

theorem noneBinds_of_sources (unbound : ∀ s ∈ P.sources, s.scope.boundTo name = []) :
    P.NoneBinds name := by
  intro file
  rcases P.source_cases file with ⟨present, _⟩ | missing
  · exact unbound _ present
  · rw [missing]
    rfl

theorem noneBinds_integers : integers.NoneBinds "int" := noneBinds_of_sources (by decide +kernel)

theorem read_integers : (integers.source integers.entry).scope =
    .ofStatements (integers.source integers.entry).statements :=
  SourceFile.scope_ofBody ..

theorem Meets.at_start (P : Program) (file : Path) :
    P.Meets file (P.starsBefore file 0) [] (some (.file file)) := by
  refine .here ?_
  rw [starsBefore, List.take_zero]
  rfl

theorem meets_file_iff {before : List (Option String × Nat)} {target : Path} :
    P.Meets file before been (some (.file target)) ↔
      (target = file ∧ P.firstLead? (file :: been) file before = none) ∨
        P.Meets file before (target :: been) (P.onward? been target) := by
  constructor
  · intro meets
    cases meets with
    | here idle => exact .inl ⟨rfl, idle⟩
    | onward there => exact .inr there
  · rintro (⟨rfl, idle⟩ | there)
    · exact .here idle
    · exact .onward there

theorem scope_source_ofModules (modules : List (String × List String)) (file : Path) :
    ((ofModules modules).source file).scope =
      .ofStatements ((ofModules modules).source file).statements := by
  rcases (ofModules modules).source_cases file with ⟨present, _⟩ | missing
  · obtain ⟨s, listed, same⟩ := List.mem_map.mp present
    obtain ⟨m, _, rfl⟩ := List.mem_map.mp listed
    rw [← same]
    exact SourceFile.scope_ofBody ..
  · rw [missing]
    rfl

/-- Integers in three modules. The star import of the second one leads to the third one, and from
there the search goes nowhere. -/
def integerModules : Program := .ofModules [
  ("functions.py", [
    "from models import Pair",
    "def f(x: int, pair: Pair) -> int:",
    "    return 0"]),
  ("models.py", [
    "from typing import TypedDict",
    "from sizes import *",
    "class Pair(TypedDict):",
    "    first: Size",
    "    second: int"]),
  ("sizes.py", ["Size = int"])]

/-- With a star import in the first line of the functions file, the hints of its function are
unsupported. Those of the other modules are what they were. -/
theorem lookupName_addStar_integerModules :
    let home : Path := ⟨.root, ["app"]⟩
    let starred := integerModules.addStar integerModules.entry 0 ⟨1, 0⟩ "typing"
    (starred.lookupName integerModules.entry "int").1 =
        .special (SpecialForm.canonical "typing.int") ∧
      (runFrom (starred.resolve integerModules.entry [] (some (.name ⟨3, 9⟩ "int"))) {}).1 =
        .ok (.unsupported "int" none) ∧
      (starred.lookupName (home / "models.py") "int").1 = .special "builtins.int" ∧
      (runFrom (starred.resolve (home / "models.py") [] (some (.name ⟨5, 12⟩ "int"))) {}).1 =
        (runFrom (integerModules.resolve (home / "models.py") []
          (some (.name ⟨5, 12⟩ "int"))) {}).1 := by
  intro home starred
  have tests : (∀ s ∈ integerModules.sources, s.scope.boundTo "int" = []) ∧
      (integerModules.source integerModules.entry).body.isSome ∧
      integerModules.onward? [] (home / "models.py") = some (.file (home / "sizes.py")) ∧
      integerModules.onward? [home / "models.py"] (home / "sizes.py") = none := by decide +kernel
  obtain ⟨nowhere, parsed, first, second⟩ := tests
  have unbound : integerModules.NoneBinds "int" := noneBinds_of_sources nowhere
  have read : (integerModules.source integerModules.entry).scope =
      .ofStatements (integerModules.source integerModules.entry).statements :=
    scope_source_ofModules ..
  have special : SpecialForm.isModule "typing" := by decide
  obtain ⟨captured, unsupported⟩ := (lookupName_addStar (by decide) unbound parsed read special
    integerModules.entry {}).1 (.at_start integerModules integerModules.entry)
  have missed : ¬ integerModules.Meets integerModules.entry
      (integerModules.starsBefore integerModules.entry 0) []
      (some (.file (home / "models.py"))) := by
    rw [meets_file_iff, first, meets_file_iff, second]
    rintro (⟨same, _⟩ | ⟨same, _⟩ | meets)
    · exact absurd same (by decide)
    · exact absurd same (by decide)
    · cases meets
  obtain ⟨kept, resolved⟩ := (lookupName_addStar (by decide) unbound parsed read special
    (home / "models.py") {}).2 missed
  refine ⟨captured, unsupported (by decide), kept.trans ?_, resolved⟩
  refine (fetches_lookupName unbound (isBuiltin_of_typeNames "int" (by decide)) _).unique ?_
  refine .onward ?_
  rw [first]
  refine .onward ?_
  rw [second]
  exact .everywhere _

/-- The star import of a special module changes what a builtin type is. -/
theorem starImport_captures :
    integers.NoneBinds "int" ∧
      (integers.lookupName integers.entry "int").1 = .special "builtins.int" ∧
      ((integers.addStar integers.entry 0 ⟨1, 0⟩ "typing").lookupName integers.entry "int").1 =
        .special (SpecialForm.canonical "typing.int") ∧
      SpecialForm.canonical "typing.int" ≠ "builtins.int" := by
  have everywhere := isBuiltin_of_typeNames "int" (by decide)
  have parsed : (integers.source integers.entry).body.isSome := by decide +kernel
  obtain ⟨statements, body⟩ := Option.isSome_iff_exists.mp parsed
  have read := read_integers
  rw [SourceFile.statements, body, Option.getD_some] at read
  refine ⟨noneBinds_integers, ?_, ?_, by decide +kernel⟩
  · have idle : integers.onward? [] integers.entry = none := by
      have stars : (integers.source integers.entry).scope.stars = [] := by decide +kernel
      rw [onward?, stars]
      rfl
    refine (fetches_lookupName noneBinds_integers everywhere _).unique (.onward ?_)
    rw [idle]
    exact .everywhere _
  · have unbound : (integers.addStar integers.entry 0 ⟨1, 0⟩ "typing").NoneBinds "int" :=
      noneBinds_addStar noneBinds_integers body read
    refine (fetches_lookupName unbound everywhere _).unique ?_
    exact (Meets.at_start integers integers.entry).fetches body read (by decide)

end Program

end HintSchema

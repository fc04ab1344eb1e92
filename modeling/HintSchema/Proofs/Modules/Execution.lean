import HintSchema.Proofs.Modules.Opening
import HintSchema.Proofs.Modules.Unfolding

/-!
Modules that are a straight sequence of statements. A name stands for what the last statement that
binds it makes of it, save where that is a star import and an earlier statement already offers the
name.
-/

namespace HintSchema

/-- What a statement binds: one name, or whatever a module exports. -/
inductive Binder where
  | own (name : String) (bound : Bound)
  | star (module : Option String) (level : Nat)

namespace Binder

def own? : Binder → Option (String × Bound)
  | own name bound => some (name, bound)
  | star _ _ => none

def star? : Binder → Option (Option String × Nat)
  | own _ _ => none
  | star source level => some (source, level)

def ofModule (item : ImportAlias) : Binder :=
  match item.asName with
  | some name => own name (.module item.name)
  | none =>
    let top := String.ofList (item.name.toList.takeWhile (· ≠ '.'))
    own top (.module top)

def ofMember (source : Option String) (level : Nat) (item : ImportAlias) : Binder :=
  if item.name = "*" then star source level
  else own (item.asName.getD item.name) (.member source level item.name)

theorem eq_star_of_star? {binder : Binder} {source : Option String} {level : Nat}
    (same : binder.star? = some (source, level)) : binder = star source level := by
  cases binder with
  | own => cases same
  | star =>
    cases same
    rfl

theorem exists_eq_own {binder : Binder} {name : String}
    (same : binder.own?.map (·.1) = some name) : ∃ bound, binder = own name bound := by
  cases binder with
  | own other bound =>
    cases same
    exact ⟨bound, rfl⟩
  | star => cases same

end Binder

namespace Statement

/-- Classes, functions, imports, and values assigned to one name. -/
def isStraight : Statement → Bool
  | classDef _ | functionDef _ | importModules _ | importFrom _ _ _ _ => true
  | assign [.name _ _] _ => true
  | declare (.name _ _) _ (some _) _ => true
  | _ => false

/-- What a straight statement binds, in turn. -/
def binders : Statement → List Binder
  | classDef definition => [.own definition.name (.classDef definition)]
  | functionDef definition => [.own definition.name .value]
  | importModules items => items.map .ofModule
  | importFrom _ module level items => items.map (.ofMember module level)
  | assign [.name _ id] value => [.own id (.ofAssignment value)]
  | declare (.name _ id) hint (some value) _ =>
    [.own id (if hint.isAliasMarker then .alias value else .value)]
  | _ => []

end Statement

namespace Scope

variable {s t u : Scope} {first second : List Binder}

/-- The second scope is the first one after these have been bound. -/
structure Grows (s : Scope) (binders : List Binder) (t : Scope) : Prop where
  names : t.names = (binders.filterMap Binder.own?).reverse ++ s.names
  stars : t.stars = s.stars ++ binders.filterMap Binder.star?

namespace Grows

theorem refl (s : Scope) : s.Grows [] s := ⟨rfl, (List.append_nil _).symm⟩

theorem trans (one : s.Grows first t) (other : t.Grows second u) : s.Grows (first ++ second) u := by
  refine ⟨?_, ?_⟩
  · rw [other.names, one.names, List.filterMap_append, List.reverse_append, List.append_assoc]
  · rw [other.stars, one.stars, List.filterMap_append, List.append_assoc]

theorem bind (s : Scope) (name : String) (bound : Bound) :
    s.Grows [.own name bound] (s.bind name bound) :=
  ⟨rfl, (List.append_nil _).symm⟩

theorem assign (s : Scope) (name : String) (value : Expr) :
    s.Grows [.own name (.ofAssignment value)] (s.assign name value) := by
  unfold Scope.assign
  split <;> exact ⟨rfl, (List.append_nil _).symm⟩

theorem declare (s : Scope) (name : String) (hint value : Expr) :
    s.Grows [.own name (if hint.isAliasMarker then .alias value else .value)]
      (s.declare name hint (some value)) := by
  unfold Scope.declare
  dsimp only
  split
  · exact .bind s name _
  · split <;> exact ⟨rfl, (List.append_nil _).symm⟩

theorem importModule (s : Scope) (item : ImportAlias) :
    s.Grows [.ofModule item] (s.importModule item) := by
  unfold Scope.importModule Binder.ofModule
  cases item.asName <;> exact .bind s _ _

theorem importMember (s : Scope) (module : Option String) (level : Nat) (item : ImportAlias) :
    s.Grows [.ofMember module level item] (s.importMember module level item) := by
  unfold Scope.importMember Binder.ofMember
  split
  · exact ⟨rfl, rfl⟩
  · exact .bind s _ _

theorem foldl {α : Type} {step : Scope → α → Scope} {binder : α → Binder}
    (each : ∀ (s : Scope) item, s.Grows [binder item] (step s item)) (s : Scope) (items : List α) :
    s.Grows (items.map binder) (items.foldl step s) := by
  induction items generalizing s with
  | nil => exact .refl s
  | cons item rest ih => exact (each s item).trans (ih _)

theorem afterStatement (s : Scope) {statement : Statement}
    (straight : statement.isStraight = true) :
    s.Grows statement.binders (s.afterStatement statement) := by
  unfold Statement.isStraight at straight
  split at straight
  · exact .bind s _ _
  · exact .bind s _ _
  · exact .foldl importModule s _
  · exact .foldl (importMember · _ _) s _
  · exact .assign s _ _
  · exact .declare s _ _ _
  · cases straight

theorem afterAll (s : Scope) {statements : List Statement}
    (straight : ∀ statement ∈ statements, statement.isStraight = true) :
    s.Grows (statements.flatMap Statement.binders) (s.afterAll statements) := by
  induction statements generalizing s with
  | nil => exact .refl s
  | cons statement rest ih =>
    obtain ⟨here, later⟩ := List.forall_mem_cons.mp straight
    exact (afterStatement s here).trans (ih _ later)

theorem ofStatements {statements : List Statement}
    (straight : ∀ statement ∈ statements, statement.isStraight = true) :
    empty.Grows (statements.flatMap Statement.binders) (.ofStatements statements) :=
  .afterAll _ straight

end Grows

theorem filter_own_eq_nil {name : String} {binders : List Binder}
    (absent : ∀ bound, .own name bound ∉ binders) :
    (binders.filterMap Binder.own?).reverse.filter (·.1 == name) = [] := by
  refine List.filter_eq_nil_iff.mpr fun pair member named => ?_
  obtain ⟨binder, inside, same⟩ := List.mem_filterMap.mp (List.mem_reverse.mp member)
  cases binder with
  | star => cases same
  | own other bound =>
    cases same
    cases eq_of_beq named
    exact absent bound inside

theorem Grows.boundTo_eq_cons {name : String} {bound : Bound} {before after : List Binder}
    (grows : s.Grows (before ++ .own name bound :: after) t)
    (last : ∀ other, .own name other ∉ after) : ∃ older, t.boundTo name = bound :: older := by
  refine ⟨(((before.filterMap Binder.own?).reverse ++ s.names).filter (·.1 == name)).map (·.2), ?_⟩
  rw [boundTo, grows.names]
  simp [Binder.own?, filter_own_eq_nil last]

theorem Grows.boundTo_eq_nil {name : String} {binders : List Binder}
    (grows : empty.Grows binders t) (absent : ∀ bound, .own name bound ∉ binders) :
    t.boundTo name = [] := by
  rw [boundTo, grows.names, List.filter_append, filter_own_eq_nil absent]
  rfl

end Scope

theorem SourceFile.scope_ofBody (module : String) (path : Path) (body : Option (List Statement)) :
    (ofBody module path body).scope = .ofStatements (ofBody module path body).statements := by
  cases body <;> rfl

namespace Program

variable {P : Program} {file target : Path} {name : String} {module : Option String} {level : Nat}

/-- A star import brings the name: the module lists it, or it lists no names and binds this one,
which does not start with an underscore. -/
inductive Exports (P : Program) : Path → String → Prop
  | listed {file : Path} {names : List String} {name : String}
      (list : (P.source file).scope.exports = some names) (member : name ∈ names) :
      Exports P file name
  | bound {file : Path} {name : String} (unlisted : (P.source file).scope.exports = none)
      (visible : name.startsWith "_" = false)
      (bound : name ∈ (P.source file).scope.names.map (·.1)) : Exports P file name
  | brought {file target : Path} {name : String} {module : Option String} {level : Nat}
      (unlisted : (P.source file).scope.exports = none) (visible : name.startsWith "_" = false)
      (star : (module, level) ∈ (P.source file).scope.stars)
      (ordinary : specialSource? module level = none)
      (found : P.resolveImport? file module level = some target) (there : Exports P target name) :
      Exports P file name

/-- What is bound in a file binds this name. -/
inductive Sets (P : Program) (file : Path) (name : String) : Binder → Prop
  | own (bound : Bound) : Sets P file name (.own name bound)
  | star {module : Option String} {level : Nat} {target : Path}
      (ordinary : specialSource? module level = none)
      (found : P.resolveImport? file module level = some target)
      (exported : P.Exports target name) : Sets P file name (.star module level)

/-- The name is bound, or it resolves in the module that the star import names, exported or not. -/
inductive Offers (P : Program) (file : Path) (name : String) : Binder → Prop
  | own (bound : Bound) : Offers P file name (.own name bound)
  | special {module : Option String} {level : Nat}
      (special : (specialSource? module level).isSome = true) :
      Offers P file name (.star module level)
  | star {module : Option String} {level : Nat} {target : Path}
      (found : P.resolveImport? file module level = some target)
      (resolves : (P.lookupName target name).1.Resolves) : Offers P file name (.star module level)

/-- What a name stands for once it has been bound. Imports are of ordinary modules, and all of them
resolve. -/
inductive Produces (P : Program) (file : Path) (name : String) : Binder → Binding → Prop
  | classDef (definition : ClassDef Statement) :
      Produces P file name (.own name (.classDef definition)) (.classDef file definition)
  | alias (value : Expr) :
      Produces P file name (.own name (.alias value)) (.alias ⟨file, name⟩ value)
  | typeVariable : Produces P file name (.own name .typeVariable) (.typeVariable name)
  | recordCall (call : RecordCall) :
      Produces P file name (.own name (.recordCall call)) (.recordCall ⟨file, name⟩ call)
  | value : Produces P file name (.own name .value) (.value name)
  | module {module : String} {target : Path} (ordinary : SpecialForm.isModule module = false)
      (found : P.resolveImport? file (some module) 0 = some target) :
      Produces P file name (.own name (.module module)) (.module module (some target))
  | member {module : Option String} {level : Nat} {source : String} {target : Path}
      (ordinary : specialSource? module level = none)
      (found : P.resolveImport? file module level = some target)
      (resolves : (P.memberOf target source).Resolves) :
      Produces P file name (.own name (.member module level source)) (P.memberOf target source)
  | star {module : Option String} {level : Nat} {target : Path}
      (ordinary : specialSource? module level = none)
      (found : P.resolveImport? file module level = some target)
      (exported : P.Exports target name) (resolves : (P.lookupName target name).1.Resolves) :
      Produces P file name (.star module level) (P.lookupName target name).1

theorem run_resolveBound_alone {source : String} (ordinary : specialSource? module level = none)
    (found : P.resolveImport? file module level = some target) :
    ((P.resolveBound P.alone file name (.member module level source)).run {}).1 =
      P.memberOf target source := by
  simp only [resolveBound, ordinary]
  rw [run_bind_of_eq ((Still.openImport P file module level {}).1.trans found)]
  by_cases resolves : (P.lookupName target source).1.Resolves
  · rw [memberOf_of_resolves resolves]
    exact (still_orSubmodule_of_resolves target source resolves _).1
  · rw [memberOf_of_not_resolves resolves]
    exact (still_orSubmodule target source resolves _).1

theorem Produces.of_own {other : String} {bound : Bound} {b : Binding}
    (produces : P.Produces file name (.own other bound) b) :
    other = name ∧ ((P.resolveBound P.alone file name bound).run {}).1 = b ∧ b.Resolves := by
  cases produces with
  | module ordinary found =>
    exact ⟨rfl, (P.still_importedModule file _ {}).1.trans (moduleNamed_of_ordinary ordinary found),
      rfl⟩
  | member ordinary found resolves =>
    exact ⟨rfl, run_resolveBound_alone ordinary found, resolves⟩
  | _ => exact ⟨rfl, rfl, rfl⟩

theorem run_throughStars_alone {before after : List (Option String × Nat)}
    (ordinary : specialSource? module level = none)
    (found : P.resolveImport? file module level = some target)
    (resolves : (P.lookupName target name).1.Resolves)
    (first : ∀ star ∈ before, ¬ P.Offers file name (.star star.1 star.2)) (s : Search) :
    ((P.throughStars P.alone file name (before ++ (module, level) :: after)).run s).1 =
      some (P.lookupName target name).1 := by
  induction before generalizing s with
  | nil =>
    simp only [List.nil_append, throughStars, ordinary]
    rw [run_bind_of_eq ((Still.openImport P file module level s).1.trans found),
      run_bind_of_eq (Still.pure (P.lookupName target name).1 _).1, if_pos resolves]
    rfl
  | cons star rest ih =>
    obtain ⟨here, later⟩ := List.forall_mem_cons.mp first
    have other : specialSource? star.1 star.2 = none :=
      Option.not_isSome_iff_eq_none.mp fun special => here (.special special)
    simp only [List.cons_append, throughStars, other]
    cases there : P.resolveImport? file star.1 star.2 with
    | none =>
      rw [run_bind_of_eq ((Still.openImport P file star.1 star.2 s).1.trans there)]
      exact ih later _
    | some target =>
      have fails : ¬ (P.lookupName target name).1.Resolves := fun resolves =>
        here (.star there resolves)
      rw [run_bind_of_eq ((Still.openImport P file star.1 star.2 s).1.trans there),
        run_bind_of_eq (Still.pure (P.lookupName target name).1 _).1, if_neg fails]
      exact ih later _

theorem unfolded_of_star {before after : List (Option String × Nat)}
    (unbound : (P.source file).scope.boundTo name = [])
    (stars : (P.source file).scope.stars = before ++ (module, level) :: after)
    (ordinary : specialSource? module level = none)
    (found : P.resolveImport? file module level = some target)
    (resolves : (P.lookupName target name).1.Resolves)
    (first : ∀ star ∈ before, ¬ P.Offers file name (.star star.1 star.2)) :
    P.unfolded file name = (P.lookupName target name).1 := by
  rw [unfolded, lookIn, unbound, stars, firstResolved, pure_bind]
  dsimp only
  rw [run_bind_of_eq (run_throughStars_alone ordinary found resolves first _)]
  rfl

/-- The name stands for what the last statement that binds it makes of it, unless that statement is
a star import and an earlier one already offers the name. -/
theorem lookupName_of_last_binder {before after : List Binder} {binder : Binder} {b : Binding}
    (acyclic : P.NoImportCycle)
    (read : (P.source file).scope = .ofStatements (P.source file).statements)
    (straight : ∀ statement ∈ (P.source file).statements, statement.isStraight = true)
    (whole : (P.source file).statements.flatMap Statement.binders = before ++ binder :: after)
    (produces : P.Produces file name binder b) (last : ∀ later ∈ after, ¬ P.Sets file name later)
    (first : ∀ star, binder.star? = some star → ∀ earlier ∈ before, ¬ P.Offers file name earlier) :
    (P.lookupName file name).1 = b := by
  have grows : Scope.empty.Grows (before ++ binder :: after) (P.source file).scope := by
    rw [read, ← whole]
    exact .ofStatements straight
  have unbound (bound : Bound) : .own name bound ∉ after := fun member =>
    last _ member (.own bound)
  suffices P.unfolded file name = b ∧ b.Resolves by
    rw [lookupName_eq_unfolded acyclic (this.1 ▸ this.2), this.1]
  cases binder with
  | own other bound =>
    obtain ⟨rfl, stands, resolves⟩ := produces.of_own
    obtain ⟨older, latest⟩ := grows.boundTo_eq_cons unbound
    exact ⟨run_lookIn_of_bound latest stands resolves, resolves⟩
  | star module level =>
    cases produces with
    | star ordinary found exported resolves =>
      refine ⟨?_, resolves⟩
      have given := first _ rfl
      have none : (P.source file).scope.boundTo name = [] := by
        refine grows.boundTo_eq_nil fun bound member => ?_
        rcases List.mem_append.mp member with earlier | later
        · exact given _ earlier (.own bound)
        · rcases List.mem_cons.mp later with same | later
          · cases same
          · exact unbound bound later
      have stars : (P.source file).scope.stars =
          before.filterMap Binder.star? ++ (module, level) :: after.filterMap Binder.star? := by
        rw [grows.stars]
        simp [Binder.star?, Scope.empty]
      have earlier : ∀ star ∈ before.filterMap Binder.star?,
          ¬ P.Offers file name (.star star.1 star.2) := by
        intro star member
        obtain ⟨binder, inside, same⟩ := List.mem_filterMap.mp member
        rw [← Binder.eq_star_of_star? same]
        exact given binder inside
      exact unfolded_of_star none stars ordinary found resolves earlier

/-- A functions file takes a class from the module beside it by a star import, before another class
or after a class of that name. -/
def starImport (late : Bool) : Program :=
  let home : Path := ⟨.root, ["app"]⟩
  let entry := home / "functions.py"
  let models := home / "models.py"
  let lines := if late then ["class Thing:", "    pass", "from models import *"]
    else ["from models import *", "class Other:", "    pass"]
  let tree : FileTree := ⟨home, [(entry, .empty), (models, .empty)], []⟩
  ⟨.make tree home [], entry, [.ofLines entry lines, .ofLines models ["class Thing:", "    pass"]]⟩

theorem scope_starImport (late : Bool) (file : Path) : ((starImport late).source file).scope =
    .ofStatements ((starImport late).source file).statements := by
  rcases (starImport late).source_cases file with ⟨present, _⟩ | missing
  · rcases List.mem_pair.mp present with same | same <;> rw [same] <;>
      exact SourceFile.scope_ofBody ..
  · rw [missing]
    rfl

/-- What is read off the two programs: no circle of imports, the statements of the entry, and what
the star import offers. -/
theorem starImport_facts (late : Bool) :
    (∀ s ∈ (starImport late).sources, ∀ target ∈ (starImport late).takenFrom s.path,
      (if target = (starImport late).entry then 1 else 0) <
        if s.path = (starImport late).entry then 1 else 0) ∧
    (∀ statement ∈ ((starImport late).source (starImport late).entry).statements,
      statement.isStraight = true) ∧
    (((starImport late).source (starImport late).entry).statements.flatMap
        Statement.binders).map (fun binder => (binder.star?, binder.own?.map (·.1))) =
      (if late then [(none, some "Thing"), (some (some "models", 0), none)]
      else [(some (some "models", 0), none), (none, some "Other")]) ∧
    (starImport late).resolveImport? (starImport late).entry (some "models") 0 =
      some ⟨.root, ["app", "models.py"]⟩ ∧
    ((starImport late).source ⟨.root, ["app", "models.py"]⟩).scope.exports = none ∧
    "Thing".startsWith "_" = false ∧
    "Thing" ∈ ((starImport late).source ⟨.root, ["app", "models.py"]⟩).scope.names.map (·.1) ∧
    ((starImport late).lookupName ⟨.root, ["app", "models.py"]⟩ "Thing").1.Resolves ∧
    ((starImport late).lookupName ⟨.root, ["app", "models.py"]⟩ "Thing").1.home? =
      some ⟨.root, ["app", "models.py"]⟩ ∧
    ((starImport late).lookupName (starImport late).entry "Thing").1.home? =
      some (if late then (starImport late).entry else ⟨.root, ["app", "models.py"]⟩) := by
  cases late <;> decide +kernel

theorem noImportCycle_starImport (late : Bool) : (starImport late).NoImportCycle :=
  noImportCycle_of_rank (fun path => if path = (starImport late).entry then 1 else 0)
    (starImport_facts late).1

theorem produces_starImport (late : Bool) :
    (starImport late).Produces (starImport late).entry "Thing" (.star (some "models") 0)
      ((starImport late).lookupName ⟨.root, ["app", "models.py"]⟩ "Thing").1 := by
  obtain ⟨_, _, _, found, exported, apparent, named, resolves, _⟩ := starImport_facts late
  exact .star (by decide) found (.bound exported apparent named) resolves

theorem binders_starImport (late : Bool) : ∃ bound,
    ((starImport late).source (starImport late).entry).statements.flatMap Statement.binders =
      if late then [.own "Thing" bound, .star (some "models") 0]
      else [.star (some "models") 0, .own "Other" bound] := by
  have outline := (starImport_facts late).2.2.1
  generalize ((starImport late).source (starImport late).entry).statements.flatMap
    Statement.binders = binders at outline ⊢
  cases late
  all_goals
    obtain ⟨first, rest, rfl, one, others⟩ := List.map_eq_cons_iff.mp outline
    obtain ⟨second, rest, rfl, two, nothing⟩ := List.map_eq_cons_iff.mp others
    cases List.map_eq_nil_iff.mp nothing
  · obtain ⟨bound, rfl⟩ := Binder.exists_eq_own (Prod.mk.inj two).2
    exact ⟨bound, by rw [Binder.eq_star_of_star? (Prod.mk.inj one).1]; rfl⟩
  · obtain ⟨bound, rfl⟩ := Binder.exists_eq_own (Prod.mk.inj one).2
    exact ⟨bound, by rw [Binder.eq_star_of_star? (Prod.mk.inj two).1]; rfl⟩

/-- Nothing offers the name before the star import does. -/
theorem lookupName_starImport :
    ((starImport false).lookupName (starImport false).entry "Thing").1 =
        ((starImport false).lookupName ⟨.root, ["app", "models.py"]⟩ "Thing").1 ∧
      ((starImport false).lookupName (starImport false).entry "Thing").1.home? =
        some ⟨.root, ["app", "models.py"]⟩ := by
  obtain ⟨_, straight, _, _, _, _, _, _, _, home⟩ := starImport_facts false
  refine ⟨?_, home⟩
  obtain ⟨bound, whole⟩ := binders_starImport false
  replace whole : ((starImport false).source (starImport false).entry).statements.flatMap
      Statement.binders = [] ++ .star (some "models") 0 :: [.own "Other" bound] := whole
  refine lookupName_of_last_binder (noImportCycle_starImport false) (scope_starImport false _)
    straight whole (produces_starImport false) ?_ ?_
  · intro later member sets
    cases List.mem_singleton.mp member
    generalize thing : "Thing" = name at sets
    cases sets
    exact absurd thing (by decide)
  · exact fun _ _ => List.forall_mem_nil _

/-- The class that the file itself declares stays, though the star import comes after it. -/
theorem starImport_hidden :
    (∃ bound, ((starImport true).source (starImport true).entry).statements.flatMap
        Statement.binders = [.own "Thing" bound, .star (some "models") 0]) ∧
      (starImport true).Produces (starImport true).entry "Thing" (.star (some "models") 0)
        ((starImport true).lookupName ⟨.root, ["app", "models.py"]⟩ "Thing").1 ∧
      ((starImport true).lookupName (starImport true).entry "Thing").1 ≠
        ((starImport true).lookupName ⟨.root, ["app", "models.py"]⟩ "Thing").1 := by
  refine ⟨binders_starImport true, produces_starImport true, fun same => ?_⟩
  obtain ⟨_, _, _, _, _, _, _, _, other, own⟩ := starImport_facts true
  exact absurd (own.symm.trans ((congrArg Binding.home? same).trans other)) (by decide)

end Program

end HintSchema

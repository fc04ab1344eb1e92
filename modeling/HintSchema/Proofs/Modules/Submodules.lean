import HintSchema.Proofs.Modules.Defined
import HintSchema.Proofs.Modules.Spellings

/-!
Modules inside a package. A name that the package does not bind stands for the module inside, or
for nothing, unless the name is bound everywhere or a star import brings all the names of a special
module: these come before the module inside (`member_of_package`).
-/

namespace HintSchema

namespace Program

def Gathers (P : Program) (file target : Path) : Prop :=
  ∃ star ∈ (P.source file).scope.stars, specialSource? star.1 star.2 = none ∧
    P.resolveImport? file star.1 star.2 = some target

/-- No statement binds the name, in the file or where its star imports lead. -/
def Unassigned (P : Program) (file : Path) (name : String) : Prop :=
  ∀ other, Relation.ReflTransGen P.Gathers file other → (P.source other).scope.boundTo name = []

/-- A name that is bound nowhere, and still taken for a special form. -/
inductive Captures (P : Program) (file : Path) (name : String) : String → Prop
  | builtin (builtin : SpecialForm.isBuiltin name) : Captures P file name ("builtins." ++ name)
  | star {other : Path} {module : Option String} {level : Nat} {special : String}
      (gathered : Relation.ReflTransGen P.Gathers file other)
      (star : (module, level) ∈ (P.source other).scope.stars)
      (named : specialSource? module level = some special) :
      Captures P file name (SpecialForm.canonical (special ++ "." ++ name))

/-- The last statement that binds the name imports the other one. -/
inductive Imports (P : Program) : NameKey → NameKey → Prop
  | intro {file target : Path} {name source : String} {module : Option String} {level : Nat}
      {older : List Bound}
      (last : (P.source file).scope.boundTo name = .member module level source :: older)
      (ordinary : specialSource? module level = none)
      (found : P.resolveImport? file module level = some target) :
      Imports P ⟨file, name⟩ ⟨target, source⟩

/-- The name is taken from the other module: it is imported from there, or it comes with a star
import, and the star imports before that one do not have it. -/
inductive Takes (P : Program) : NameKey → NameKey → Prop
  | imported {key next : NameKey} (imports : P.Imports key next) : Takes P key next
  | star {file target : Path} {name : String} {module : Option String} {level : Nat}
      {earlier later : List (Option String × Nat)}
      (unbound : (P.source file).scope.boundTo name = [])
      (stars : (P.source file).scope.stars = earlier ++ (module, level) :: later)
      (ordinary : specialSource? module level = none)
      (found : P.resolveImport? file module level = some target)
      (vain : ∀ star ∈ earlier, specialSource? star.1 star.2 = none ∧
        ∀ other, P.resolveImport? file star.1 star.2 = some other → ¬ P.Arrives ⟨other, name⟩) :
      Takes P ⟨file, name⟩ ⟨target, name⟩

/-- The name is forwarded to the other one, and leads nowhere else. -/
structure Relays (P : Program) (key next : NameKey) : Prop where
  undefined : ¬ P.Defines key
  forwards : P.Forwards key next
  alone : ∀ other, P.Forwards key other → other = next

variable {P : Program} {file package : Path} {name : String} {names : List String} {limit : Nat}
  {key next : NameKey} {goal : NameKey → Prop} {visited : List NameKey}

/-! ### Names that no statement binds -/

theorem Unassigned.here (unbound : P.Unassigned file name) : (P.source file).scope.boundTo name = [] :=
  unbound file .refl

theorem Unassigned.gathered (unbound : P.Unassigned file name) {other : Path}
    (gathers : P.Gathers file other) : P.Unassigned other name :=
  fun _ path => unbound _ (.head gathers path)

theorem Captures.gathered {other : Path} {qualname : String} (gathers : P.Gathers file other)
    (captures : P.Captures other name qualname) : P.Captures file name qualname := by
  cases captures with
  | builtin builtin => exact .builtin builtin
  | star path star named => exact .star (.head gathers path) star named

theorem Gathers.forwards {other : Path} (gathers : P.Gathers file other)
    (unbound : (P.source file).scope.boundTo name = []) :
    P.Forwards ⟨file, name⟩ ⟨other, name⟩ := by
  obtain ⟨star, member, ordinary, found⟩ := gathers
  exact .star unbound member ordinary found

theorem exists_gathers_of_forwards (unbound : (P.source file).scope.boundTo name = [])
    (forwards : P.Forwards ⟨file, name⟩ next) :
    ∃ other, P.Gathers file other ∧ next = ⟨other, name⟩ := by
  obtain ⟨star, member, ordinary, other, found, rfl⟩ :=
    (forwards_iff_of_unbound unbound).mp forwards
  exact ⟨other, ⟨star, member, ordinary, found⟩, rfl⟩

theorem exists_captures_of_defines (unbound : (P.source file).scope.boundTo name = [])
    (defines : P.Defines ⟨file, name⟩) : ∃ qualname, P.Captures file name qualname := by
  rcases (defines_iff_of_unbound unbound).mp defines with
    ⟨⟨module, level⟩, star, special, named⟩ | builtin
  · exact ⟨_, .star .refl star named⟩
  · exact ⟨_, .builtin builtin⟩

theorem exists_captures_of_arrives (unbound : P.Unassigned file name)
    (arrives : P.Arrives ⟨file, name⟩) : ∃ qualname, P.Captures file name qualname := by
  obtain ⟨last, path, defines⟩ := arrives
  generalize start : (⟨file, name⟩ : NameKey) = key at path
  induction path using Relation.ReflTransGen.head_induction_on generalizing file with
  | refl => exact exists_captures_of_defines unbound.here (start ▸ defines)
  | head forwards _ ih =>
    subst start
    obtain ⟨other, gathers, rfl⟩ := exists_gathers_of_forwards unbound.here forwards
    obtain ⟨qualname, captures⟩ := ih (unbound.gathered gathers) rfl
    exact ⟨qualname, captures.gathered gathers⟩

/-- The binding, if it stands for something, is the special form that captures the name. -/
def IsCaptured (P : Program) (file : Path) (name : String) (b : Binding) : Prop :=
  b.Resolves → ∃ qualname, P.Captures file name qualname ∧ b = .special qualname

theorem isCaptured_unresolved (message : String) : P.IsCaptured file name (.unresolved message) :=
  fun resolves => absurd resolves Bool.false_ne_true

theorem IsCaptured.gathered {other : Path} {b : Binding} (gathers : P.Gathers file other)
    (captured : P.IsCaptured other name b) : P.IsCaptured file name b := by
  intro resolves
  obtain ⟨qualname, captures, same⟩ := captured resolves
  exact ⟨qualname, captures.gathered gathers, same⟩

theorem yields_captured_throughStars {recur : Path → String → SearchM Binding}
    (below : ∀ other, P.Gathers file other → Yields (P.IsCaptured other name) (recur other name))
    {stars : List (Option String × Nat)} (own : stars ⊆ (P.source file).scope.stars) :
    Yields (fun found => ∀ b, found = some b → P.IsCaptured file name b)
      (P.throughStars recur file name stars) := by
  induction stars with
  | nil => exact .pure nofun
  | cons star rest ih =>
    obtain ⟨member, others⟩ := List.cons_subset.mp own
    cases ordinary : specialSource? star.1 star.2 with
    | some special =>
      simp only [throughStars, ordinary]
      refine .pure ?_
      rintro _ ⟨⟩ _
      exact ⟨_, .star .refl member ordinary, rfl⟩
    | none =>
      simp only [throughStars, ordinary]
      have opens : Yields (· = P.resolveImport? file star.1 star.2)
          (P.openImport file star.1 star.2) := fun s => (Still.openImport P file _ _ s).1
      refine opens.bind fun target found => ?_
      cases target with
      | none => exact ih others
      | some other =>
        have gathers : P.Gathers file other := ⟨star, member, ordinary, found.symm⟩
        refine (below other gathers).bind fun b captured => ?_
        split
        · refine .pure ?_
          rintro _ ⟨⟩
          exact captured.gathered gathers
        · exact ih others

theorem yields_captured (unbound : P.Unassigned file name) (limit : Nat) :
    Yields (P.IsCaptured file name) (P.search limit file name) := by
  induction limit generalizing file with
  | zero => exact .pure (isCaptured_unresolved _)
  | succ limit ih =>
    have stars := yields_captured_throughStars (fun other gathers => ih (unbound.gathered gathers))
      (List.Subset.refl (P.source file).scope.stars)
    unfold search searchStep
    apply Yields.after
    intro s
    split
    · exact .pure (isCaptured_unresolved _)
    · apply Yields.after
      intro _
      dsimp only
      rw [unbound.here, firstResolved, pure_bind]
      refine stars.bind fun found through => ?_
      cases found with
      | some found => exact .pure (through found rfl)
      | none =>
        dsimp only
        split
        · rename_i builtin
          exact .pure fun _ => ⟨_, .builtin builtin, rfl⟩
        · exact .pure (isCaptured_unresolved _)

/-! ### Names that are taken from elsewhere -/

theorem Imports.refers (imports : P.Imports key next) : P.Refers key next := by
  cases imports with
  | intro last ordinary found => exact .member (last ▸ List.mem_cons_self) ordinary found

theorem Imports.defines {path : Path} (imports : P.Imports key next)
    (inside : P.resolveSubmodule? next.file next.name = some path) : P.Defines key := by
  cases imports with
  | intro last ordinary found =>
    exact .bound (last ▸ List.mem_cons_self) (.submodule ordinary found inside)

theorem Takes.refers (takes : P.Takes key next) : P.Refers key next := by
  cases takes with
  | imported imports => exact imports.refers
  | star _ stars ordinary found => exact .star (stars ▸ List.mem_append_cons_self) ordinary found

theorem Takes.defines_or_forwards (takes : P.Takes key next) :
    P.Defines key ∨ P.Forwards key next := by
  cases takes with
  | imported imports =>
    cases inside : P.resolveSubmodule? next.file next.name with
    | some path => exact .inl (imports.defines inside)
    | none =>
      cases imports with
      | intro last ordinary found =>
        exact .inr (.bound (last ▸ List.mem_cons_self) (.member ordinary found inside))
  | star unbound stars ordinary found =>
    exact .inr (.star unbound (stars ▸ List.mem_append_cons_self) ordinary found)

/-- The name leads to the goal in this many steps, or in fewer. -/
def Near (P : Program) (goal : NameKey → Prop) : Nat → NameKey → Prop
  | 0, key => goal key
  | count + 1, key => P.Near goal count key ∨ ∃ next, P.Takes key next ∧ P.Near goal count next

theorem exists_near {first : NameKey} (path : Relation.ReflTransGen P.Takes key first)
    (arrived : goal first) : ∃ count, P.Near goal count key := by
  induction path using Relation.ReflTransGen.head_induction_on with
  | refl => exact ⟨0, arrived⟩
  | head takes _ ih =>
    obtain ⟨count, near⟩ := ih
    exact ⟨count + 1, .inr ⟨_, takes, near⟩⟩

/-- What a failed search leaves behind does not come to the goal. -/
def Lasts (P : Program) (goal : NameKey → Prop) : Prop :=
  ∀ before after, P.Spent before after → (∀ key ∈ before, ¬ goal key) → ∀ key ∈ after, ¬ goal key

theorem Lasts.near (lasts : P.Lasts goal) (count : Nat) : P.Lasts (P.Near goal count) := by
  induction count with
  | zero => exact lasts
  | succ count ih =>
    rintro before after spent away key visited near
    have nearer := ih before after spent fun key member close => away key member (.inl close)
    rcases near with near | ⟨next, takes, near⟩
    · exact nearer key visited near
    · have new : key ∉ before := fun old => away key old (.inr ⟨next, takes, near⟩)
      rcases takes.defines_or_forwards with defines | forwards
      · exact spent.undefined key visited new defines
      · exact nearer next (spent.closed key visited new next forwards) near

theorem exists_run_throughStars (closed : P.takenNames ⊆ names) (named : name ∈ names)
    {earlier : List (Option String × Nat)} (later : List (Option String × Nat))
    (vain : ∀ star ∈ earlier, specialSource? star.1 star.2 = none ∧
      ∀ other, P.resolveImport? file star.1 star.2 = some other → ¬ P.Arrives ⟨other, name⟩)
    {s : Search} (room : P.room names s.visited < limit) :
    ∃ t : Search, P.Spent s.visited t.visited ∧
      (P.throughStars (P.search limit) file name (earlier ++ later)).run s =
        (P.throughStars (P.search limit) file name later).run t := by
  induction earlier generalizing s with
  | nil => exact ⟨s, .refl _, rfl⟩
  | cons star rest ih =>
    obtain ⟨⟨ordinary, idle⟩, others⟩ := List.forall_mem_cons.mp vain
    obtain ⟨same, kept⟩ := Still.openImport P file star.1 star.2 s
    simp only [List.cons_append, throughStars, ordinary]
    cases found : P.resolveImport? file star.1 star.2 with
    | none =>
      rw [run_bind_of_eq (same.trans found), ← kept]
      exact ih others (kept.symm ▸ room)
    | some other =>
      rw [run_bind_of_eq (same.trans found), ← kept]
      rw [← kept] at room
      rcases explores_search closed named _ room with
        ⟨_, impossible | ⟨_, rfl, arrives⟩⟩ | ⟨fails, _, spent, _⟩
      · exact impossible.elim
      · exact absurd arrives (idle other found)
      · dsimp only
        rw [run_bind_of_eq rfl, if_neg fails]
        obtain ⟨t, more, result⟩ := ih others ((room_anti spent.kept).trans_lt room)
        exact ⟨t, spent.trans more, result⟩

theorem run_resolveBound_of_good {Good : Binding → Prop} (resolves : ∀ b, Good b → b.Resolves)
    {recur : Path → String → SearchM Binding} {target : Path} {module : Option String}
    {level : Nat} {source : String} (ordinary : specialSource? module level = none)
    (found : P.resolveImport? file module level = some target) {s : Search}
    (good : ∀ t, t.visited = s.visited → Good ((recur target source).run t).1) :
    Good ((P.resolveBound recur file name (.member module level source)).run s).1 := by
  obtain ⟨same, kept⟩ := Still.openImport P file module level s
  have good := good _ kept
  simp only [resolveBound, ordinary]
  rw [run_bind_of_eq (same.trans found)]
  dsimp only
  rw [run_bind_of_eq rfl, (still_orSubmodule_of_resolves target source (resolves _ good) _).1]
  exact good

theorem run_throughStars_of_good {Good : Binding → Prop} (resolves : ∀ b, Good b → b.Resolves)
    {recur : Path → String → SearchM Binding} {target : Path} {module : Option String}
    {level : Nat} {later : List (Option String × Nat)}
    (ordinary : specialSource? module level = none)
    (found : P.resolveImport? file module level = some target) {s : Search}
    (good : ∀ t, t.visited = s.visited → Good ((recur target name).run t).1) :
    ∃ b, Good b ∧
      ((P.throughStars recur file name ((module, level) :: later)).run s).1 = some b := by
  obtain ⟨same, kept⟩ := Still.openImport P file module level s
  have good := good _ kept
  refine ⟨_, good, ?_⟩
  simp only [throughStars, ordinary]
  rw [run_bind_of_eq (same.trans found)]
  dsimp only
  rw [run_bind_of_eq rfl, if_pos (resolves _ good)]
  rfl

theorem run_lookIn_of_takes {Good : Binding → Prop} (resolves : ∀ b, Good b → b.Resolves)
    (closed : P.takenNames ⊆ names) (takes : P.Takes key next) (named : key.name ∈ names)
    {s : Search} (room : P.room names s.visited < limit)
    (below : ∀ t : Search, P.Spent s.visited t.visited →
      Good ((P.search limit next.file next.name).run t).1) :
    Good ((P.lookIn (P.search limit) key.file key.name).run s).1 := by
  cases takes with
  | imported imports =>
    obtain @⟨file, target, name, source, module, level, older, last, ordinary, found⟩ := imports
    have good : Good ((P.resolveBound (P.search limit) file name _).run s).1 :=
      run_resolveBound_of_good resolves ordinary found fun t same => below t (same ▸ .refl _)
    rw [run_lookIn_of_bound last rfl (resolves _ good)]
    exact good
  | star unbound stars ordinary found vain =>
    obtain ⟨t, spent, same⟩ := exists_run_throughStars closed named _ vain room
    obtain ⟨b, good, result⟩ := run_throughStars_of_good resolves ordinary found
      fun u kept => below u (kept.symm ▸ spent)
    rw [lookIn, unbound, firstResolved, pure_bind]
    dsimp only
    rw [stars, run_bind_of_eq ((congrArg Prod.fst same).trans result)]
    exact good

theorem search_near {Good : Binding → Prop} (resolves : ∀ b, Good b → b.Resolves)
    (closed : P.takenNames ⊆ names) (lasts : P.Lasts goal)
    (arrived : ∀ key, goal key → key.name ∈ names → ∀ limit s, (∀ old ∈ s.visited, ¬ goal old) →
      P.room names s.visited < limit → Good ((P.search limit key.file key.name).run s).1)
    {count : Nat} (near : P.Near goal count key) (named : key.name ∈ names) {s : Search}
    (away : ∀ old ∈ s.visited, ¬ P.Near goal count old) (room : P.room names s.visited < limit) :
    Good ((P.search limit key.file key.name).run s).1 := by
  induction count generalizing key limit s with
  | zero => exact arrived key near named limit s away room
  | succ count ih =>
    by_cases already : P.Near goal count key
    · exact ih already named (fun old member close => away old member (.inl close)) room
    obtain ⟨next, takes, nearer⟩ := near.resolve_left already
    obtain ⟨limit, rfl⟩ := Nat.exists_eq_succ_of_ne_zero (Nat.ne_zero_of_lt room)
    have new : key ∉ s.visited := fun old => away key old (.inr ⟨next, takes, nearer⟩)
    have away' : ∀ old ∈ key :: s.visited, ¬ P.Near goal count old :=
      List.forall_mem_cons.mpr ⟨already, fun old member close => away old member (.inl close)⟩
    have room' : P.room names (key :: s.visited) < limit :=
      (room_cons_lt (takes.refers.place named) new).trans_le (Nat.le_of_lt_succ room)
    have below (t : Search) (spent : P.Spent (key :: s.visited) t.visited) :
        Good ((P.search limit next.file next.name).run t).1 :=
      ih nearer (takes.refers.named closed named) (lasts.near count _ _ spent away')
        ((room_anti spent.kept).trans_lt room')
    rw [run_search_of_not_visited new]
    exact run_lookIn_of_takes resolves closed takes named room' below

/-! ### Names of a package -/

/-- The name is imported, by way of other modules perhaps. -/
def Reexports (P : Program) (key last : NameKey) : Prop :=
  ∃ first, Relation.ReflTransGen P.Takes key first ∧ P.Imports first last

/-- All that leads to the name of the package, as a member or as an import, stands for such a
binding. -/
structure LeadsTo (P : Program) (package : Path) (name : String) (Good : Binding → Prop) : Prop where
  member (user : Path) (module : String) (pos : Position) (value : Expr)
    (base : (P.lookupExpr user value).1 = .ok (.module module (some package))) :
    ∃ b, (P.lookupExpr user (.member pos value name)).1 = .ok b ∧ Good b
  imported (key : NameKey) (reexports : P.Reexports key ⟨package, name⟩) :
    Good (P.lookupName key.file key.name).1

/-- A search that has not come to the goal yet comes to a good binding. -/
def Concludes (P : Program) (Good : Binding → Prop) (goal : NameKey → Prop) : Prop :=
  ∀ key, goal key → ∀ limit names s, P.takenNames ⊆ names → key.name ∈ names →
    (∀ old ∈ s.visited, ¬ goal old) → P.room names s.visited < limit →
      Good ((P.search limit key.file key.name).run s).1

theorem lookupName_near {Good : Binding → Prop} (resolves : ∀ b, Good b → b.Resolves)
    (lasts : P.Lasts goal) (ends : P.Concludes Good goal) {first : NameKey}
    (path : Relation.ReflTransGen P.Takes key first) (last : goal first) :
    Good (P.lookupName key.file key.name).1 := by
  obtain ⟨count, near⟩ := exists_near path last
  have closed := P.takenNames_subset key.name
  have away : ∀ old ∈ ({} : Search).visited, ¬ P.Near goal count old := List.forall_mem_nil _
  exact search_near resolves closed lasts
    (fun key reached named limit s => ends key reached limit _ s closed named) near
    (P.mem_reachableNames _) away (P.room_lt_searchLimit _ _)

theorem not_resolves_of_not_arrives (closed : P.takenNames ⊆ names) (named : name ∈ names)
    (lost : ¬ P.Arrives ⟨file, name⟩) {s : Search} (room : P.room names s.visited < limit) :
    ¬ ((P.search limit file name).run s).1.Resolves := by
  rcases explores_search closed named s room with
    ⟨_, impossible | ⟨_, rfl, arrives⟩⟩ | ⟨fails, _⟩
  · exact impossible.elim
  · exact absurd arrives lost
  · exact fails

theorem lookupName_of_not_arrives (lost : ¬ P.Arrives ⟨file, name⟩) :
    ¬ (P.lookupName file name).1.Resolves :=
  not_resolves_of_not_arrives (P.takenNames_subset name) (P.mem_reachableNames name) lost
    (s := {}) (P.room_lt_searchLimit name _)

theorem lasts_imports {b : Binding} (inside : P.submodule? package name = some b) :
    P.Lasts fun key => P.Imports key ⟨package, name⟩ := by
  obtain ⟨path, there, _⟩ := Option.map_eq_some_iff.mp inside
  intro before after spent away key visited imports
  by_cases old : key ∈ before
  · exact away key old imports
  · exact spent.undefined key visited old (imports.defines there)

theorem ends_imports (lost : ¬ P.Arrives ⟨package, name⟩) {b : Binding}
    (inside : P.submodule? package name = some b) :
    P.Concludes (· = b) fun key => P.Imports key ⟨package, name⟩ := by
  intro key imports limit names s closed named away room
  obtain ⟨limit, rfl⟩ := Nat.exists_eq_succ_of_ne_zero (Nat.ne_zero_of_lt room)
  have new : key ∉ s.visited := fun old => away key old imports
  have room' : P.room names (key :: s.visited) < limit :=
    (room_cons_lt (imports.refers.place named) new).trans_le (Nat.le_of_lt_succ room)
  have named' : name ∈ names := imports.refers.named closed named
  rw [run_search_of_not_visited new]
  obtain @⟨file, _, own, _, module, level, older, last, ordinary, found⟩ := imports
  refine run_lookIn_of_bound last ?_ (resolves_of_submodule inside)
  obtain ⟨same, kept⟩ := Still.openImport P file module level
    { s with visited := ⟨file, own⟩ :: s.visited }
  rw [show _ :: s.visited = _ from kept.symm] at room'
  have fails := not_resolves_of_not_arrives closed named' lost room'
  simp only [resolveBound, ordinary]
  rw [run_bind_of_eq (same.trans found)]
  dsimp only
  rw [run_bind_of_eq rfl, (still_orSubmodule package name fails _).1, inside]
  rfl

theorem reads_submodule (lost : ¬ P.Arrives ⟨package, name⟩) {b : Binding}
    (inside : P.submodule? package name = some b) : P.LeadsTo package name (· = b) where
  member user module pos value base := by
    refine ⟨_, lookupExpr_member base, ?_⟩
    rw [memberOf_of_not_resolves (lookupName_of_not_arrives lost), inside]
    rfl
  imported key := by
    rintro ⟨first, path, imports⟩
    have resolves : ∀ found, found = b → found.Resolves :=
      fun _ same => same.symm ▸ resolves_of_submodule inside
    exact lookupName_near resolves (lasts_imports inside) (ends_imports lost inside) path imports

/-! ### Captured names -/

theorem Unassigned.along (unbound : P.Unassigned package name)
    (path : Relation.ReflTransGen P.Gathers package file) : P.Unassigned file name :=
  fun _ further => unbound _ (path.trans further)

theorem Captures.along {qualname : String} (path : Relation.ReflTransGen P.Gathers package file)
    (captures : P.Captures file name qualname) : P.Captures package name qualname := by
  induction path using Relation.ReflTransGen.head_induction_on with
  | refl => exact captures
  | head gathers _ ih => exact ih.gathered gathers

/-- The name, in a file whose star imports come to what captures it. -/
def Led (P : Program) (package : Path) (name : String) (key : NameKey) : Prop :=
  ∃ file, key = ⟨file, name⟩ ∧ Relation.ReflTransGen P.Gathers package file ∧
    ∃ qualname, P.Captures file name qualname

theorem lasts_led (unbound : P.Unassigned package name) : P.Lasts (P.Led package name) := by
  rintro before after spent away _ visited ⟨file, rfl, path, qualname, captures⟩
  cases captures with
  | builtin builtin =>
    have new : (⟨file, name⟩ : NameKey) ∉ before := fun old =>
      away _ old ⟨file, rfl, path, _, .builtin builtin⟩
    exact spent.undefined _ visited new (.builtin (unbound file path) builtin)
  | star gathered star named =>
    induction gathered using Relation.ReflTransGen.head_induction_on with
    | refl =>
      have new : (⟨_, name⟩ : NameKey) ∉ before := fun old =>
        away _ old ⟨_, rfl, path, _, .star .refl star named⟩
      exact spent.undefined _ visited new (.star (unbound _ path) star named)
    | head gathers further ih =>
      have new : (⟨_, name⟩ : NameKey) ∉ before := fun old =>
        away _ old ⟨_, rfl, path, _, .star (.head gathers further) star named⟩
      exact ih (spent.closed _ visited new _ (gathers.forwards (unbound _ path)))
        (path.tail gathers)

/-- The special form that captures the name in the package. -/
def IsCapture (P : Program) (package : Path) (name : String) (b : Binding) : Prop :=
  ∃ qualname, P.Captures package name qualname ∧ b = .special qualname

theorem IsCapture.resolves {b : Binding} (capture : P.IsCapture package name b) : b.Resolves := by
  obtain ⟨_, _, rfl⟩ := capture
  rfl

theorem ends_led (unbound : P.Unassigned package name) :
    P.Concludes (P.IsCapture package name) (P.Led package name) := by
  intro key led limit names s closed named away room
  have explores : P.ExploresBinding names limit False (· = key)
      (P.search limit key.file key.name) := explores_search closed named
  rcases explores s room with ⟨resolves, _⟩ | ⟨_, _, spent, visited⟩
  · obtain ⟨file, rfl, path, _⟩ := led
    obtain ⟨qualname, captures, same⟩ := yields_captured (unbound.along path) limit s resolves
    exact ⟨qualname, captures.along path, same⟩
  · exact absurd led (lasts_led unbound _ _ spent away key (visited key rfl))

theorem reads_capture (unbound : P.Unassigned package name) {qualname : String}
    (captures : P.Captures package name qualname) :
    P.LeadsTo package name (P.IsCapture package name) := by
  have led : P.Led package name ⟨package, name⟩ := ⟨package, rfl, .refl, qualname, captures⟩
  have resolves : ∀ b, P.IsCapture package name b → b.Resolves := fun _ => IsCapture.resolves
  have found {key : NameKey} (path : Relation.ReflTransGen P.Takes key ⟨package, name⟩) :
      P.IsCapture package name (P.lookupName key.file key.name).1 :=
    lookupName_near resolves (lasts_led unbound) (ends_led unbound) path led
  constructor
  · intro user module pos value base
    have here := found .refl
    refine ⟨_, lookupExpr_member base, ?_⟩
    rwa [memberOf_of_resolves here.resolves]
  · rintro key ⟨first, path, imports⟩
    exact found (path.tail (.imported imports))

/-! ### Members of packages -/

/-- What leads to the name of the package and nowhere else stands for nothing. -/
structure Lost (P : Program) (package : Path) (name : String) : Prop where
  member (user : Path) (module : String) (pos : Position) (value : Expr)
    (base : (P.lookupExpr user value).1 = .ok (.module module (some package))) :
    ∃ message, (P.lookupExpr user (.member pos value name)).1 = .ok (.unresolved message)
  imported (key : NameKey) (path : Relation.ReflTransGen P.Relays key ⟨package, name⟩) :
    ∃ message, (P.lookupName key.file key.name).1 = .unresolved message

theorem Relays.not_arrives (relays : P.Relays key next) (lost : ¬ P.Arrives next) :
    ¬ P.Arrives key := by
  rintro ⟨last, path, defines⟩
  rcases Relation.ReflTransGen.cases_head path with rfl | ⟨other, forwards, further⟩
  · exact relays.undefined defines
  · obtain rfl := relays.alone other forwards
    exact lost ⟨last, further, defines⟩

theorem relays_of_sole {source : String} {module : Option String} {level : Nat}
    (sole : (P.source file).scope.boundTo name = [.member module level source])
    (ordinary : specialSource? module level = none)
    (found : P.resolveImport? file module level = some package)
    (outside : P.resolveSubmodule? package source = none) :
    P.Relays ⟨file, name⟩ ⟨package, source⟩ where
  undefined defines := by
    obtain ⟨_, member, defines⟩ := (defines_iff_of_bound sole).mp defines
    obtain rfl := List.mem_singleton.mp member
    cases defines with
    | specialMember named => cases ordinary.symm.trans named
    | submodule _ there inside =>
      cases found.symm.trans there
      cases outside.symm.trans inside
  forwards := .bound (sole ▸ List.mem_singleton_self _) (.member ordinary found outside)
  alone other forwards := by
    obtain ⟨_, member, forwards⟩ := (forwards_iff_of_bound sole).mp forwards
    obtain rfl := List.mem_singleton.mp member
    obtain ⟨_, there, _⟩ := forwards
    cases found.symm.trans there
    rfl

theorem lost_of_outside (lost : ¬ P.Arrives ⟨package, name⟩)
    (outside : P.resolveSubmodule? package name = none) : P.Lost package name where
  member user module pos value base := by
    have fails := lookupName_of_not_arrives lost
    have none : P.submodule? package name = none := by rw [submodule?, outside]; rfl
    rw [lookupExpr_member base, memberOf_of_not_resolves fails, none]
    obtain ⟨message, same⟩ := Binding.not_resolves_iff.mp fails
    exact ⟨message, congrArg Except.ok same⟩
  imported key path := by
    refine Binding.not_resolves_iff.mp (lookupName_of_not_arrives ?_)
    induction path using Relation.ReflTransGen.head_induction_on with
    | refl => exact lost
    | head relays _ ih => exact relays.not_arrives ih

/-- A name that no statement of a package binds, nor of the modules that its star imports lead to,
stands for the module inside the package, or for nothing if there is none, unless it is captured:
then it stands for a special form, whatever is inside the package. -/
theorem member_of_package (unbound : P.Unassigned package name) :
    ((¬ ∃ qualname, P.Captures package name qualname) →
      (∀ path, P.resolveSubmodule? package name = some path →
        P.LeadsTo package name (· = .module (P.source path).module (some path))) ∧
      (P.resolveSubmodule? package name = none → P.Lost package name)) ∧
    ((∃ qualname, P.Captures package name qualname) →
      P.LeadsTo package name (P.IsCapture package name)) := by
  refine ⟨fun free => ?_, fun ⟨qualname, captures⟩ => reads_capture unbound captures⟩
  have lost : ¬ P.Arrives ⟨package, name⟩ := fun arrives =>
    free (exists_captures_of_arrives unbound arrives)
  refine ⟨fun path inside => reads_submodule lost ?_, lost_of_outside lost⟩
  rw [submodule?, inside]
  rfl

/-- A functions file that imports a package, and the module inside it. -/
def packaged (inner : String) : Program :=
  let home : Path := ⟨.root, ["app"]⟩
  let files : List SourceFile := [
    .ofLines (home / "functions.py")
      ["import pkg", "from pkg import " ++ inner ++ " as inner", "from pkg import missing"],
    .ofLines (home / "pkg" / "__init__.py") ["from pkg.base import *"],
    .ofLines (home / "pkg" / "base.py") ["class Base:", "    pass"],
    .ofLines (home / "pkg" / (inner ++ ".py")) ["class User:", "    pass"]]
  let resolver := Resolver.make ⟨home, files.map fun s => (s.path, .empty), []⟩ home []
  ⟨resolver, home / "functions.py",
    files.map fun s => { s with module := resolver.moduleName s.path }⟩

def pkg : Path := ⟨.root, ["app", "pkg", "__init__.py"]⟩

def base : Path := ⟨.root, ["app", "pkg", "base.py"]⟩

/-- What is read off the programs: the stars of the package, the names that it does not bind, what
the functions file imports, and which modules are inside the package. -/
theorem packaged_facts :
    (∀ inner ∈ ["models", "type"],
      (((packaged inner).source pkg).scope.stars = [(some "pkg.base", 0)] ∧
        (packaged inner).resolveImport? pkg (some "pkg.base") 0 = some base ∧
        ((packaged inner).source base).scope.stars = []) ∧
      (∀ name ∈ [inner, "missing"], ∀ file ∈ [pkg, base],
        (((packaged inner).source file).scope.boundTo name).length = 0) ∧
      (packaged inner).resolveImport? (packaged inner).entry (some "pkg") 0 = some pkg ∧
      [("pkg", none), ("inner", some inner), ("missing", some "missing")].all fun p =>
        (((packaged inner).source (packaged inner).entry).scope.boundTo p.1).map Bound.imported? =
          [some (some "pkg", 0, p.2)]) ∧
    (packaged "models").resolveSubmodule? pkg "models" =
      some ⟨.root, ["app", "pkg", "models.py"]⟩ ∧
    ((packaged "models").source ⟨.root, ["app", "pkg", "models.py"]⟩).module = "pkg.models" ∧
    (packaged "models").resolveSubmodule? pkg "missing" = none ∧
    (packaged "type").resolveSubmodule? pkg "type" = some ⟨.root, ["app", "pkg", "type.py"]⟩ := by
  decide +kernel

theorem packaged_gathered {inner : String} (named : inner ∈ ["models", "type"]) {file : Path}
    (path : Relation.ReflTransGen (packaged inner).Gathers pkg file) :
    file = pkg ∨ file = base := by
  obtain ⟨stars, found, starless⟩ := (packaged_facts.1 inner named).1
  induction path with
  | refl => exact .inl rfl
  | tail _ gathers ih =>
    obtain ⟨star, member, _, there⟩ := gathers
    rcases ih with rfl | rfl
    · rw [stars] at member
      obtain rfl := List.mem_singleton.mp member
      exact .inr (Option.some.inj (there.symm.trans found))
    · rw [starless] at member
      exact absurd member List.not_mem_nil

theorem packaged_unbound {inner name : String} (named : inner ∈ ["models", "type"])
    (asked : name ∈ [inner, "missing"]) : (packaged inner).Unassigned pkg name := by
  intro file path
  refine List.eq_nil_of_length_eq_zero ((packaged_facts.1 inner named).2.1 name asked file ?_)
  rcases packaged_gathered named path with rfl | rfl <;> decide

theorem packaged_captures {inner name qualname : String} (named : inner ∈ ["models", "type"])
    (captures : (packaged inner).Captures pkg name qualname) :
    SpecialForm.isBuiltin name ∧ qualname = "builtins." ++ name := by
  obtain ⟨stars, _, starless⟩ := (packaged_facts.1 inner named).1
  cases captures with
  | builtin builtin => exact ⟨builtin, rfl⟩
  | star gathered star special =>
    rcases packaged_gathered named gathered with rfl | rfl
    · rw [stars] at star
      cases List.mem_singleton.mp star
      cases special.symm.trans (by decide : specialSource? (some "pkg.base") 0 = none)
    · rw [starless] at star
      exact absurd star List.not_mem_nil

theorem packaged_base {inner : String} (named : inner ∈ ["models", "type"]) :
    ((packaged inner).lookupExpr (packaged inner).entry (.name ⟨4, 0⟩ "pkg")).1 =
      .ok (.module "pkg" (some pkg)) := by
  obtain ⟨_, _, found, bound⟩ := packaged_facts.1 inner named
  have sole := of_decide_eq_true (List.all_eq_true.mp bound ("pkg", none) (by simp))
  exact lookupExpr_of_module (Scope.boundTo_eq_singleton rfl sole)
    (moduleNamed_of_ordinary (by decide) found) rfl

theorem packaged_sole {inner name source : String} (named : inner ∈ ["models", "type"])
    (asked : (name, source) ∈ [("inner", inner), ("missing", "missing")]) :
    ((packaged inner).source (packaged inner).entry).scope.boundTo name =
      [.member (some "pkg") 0 source] := by
  obtain ⟨_, _, _, bound⟩ := packaged_facts.1 inner named
  have among : (name, some source) ∈
      [("pkg", none), ("inner", some inner), ("missing", some "missing")] := by simpa using asked
  have sole := of_decide_eq_true (List.all_eq_true.mp bound _ among)
  exact Scope.boundTo_eq_singleton rfl sole

theorem packaged_reexports {inner : String} (named : inner ∈ ["models", "type"]) :
    (packaged inner).Reexports ⟨(packaged inner).entry, "inner"⟩ ⟨pkg, inner⟩ :=
  ⟨_, .refl, .intro (packaged_sole named (by simp)) (by decide)
    (packaged_facts.1 inner named).2.2.1⟩

/-- A module `models` is found, as a member and as an import; no name is found that is missing. -/
theorem member_of_package_models :
    ((packaged "models").lookupExpr (packaged "models").entry
        (.member ⟨4, 0⟩ (.name ⟨4, 0⟩ "pkg") "models")).1 =
        .ok (.module "pkg.models" (some ⟨.root, ["app", "pkg", "models.py"]⟩)) ∧
      ((packaged "models").lookupName (packaged "models").entry "inner").1 =
        .module "pkg.models" (some ⟨.root, ["app", "pkg", "models.py"]⟩) ∧
      ∃ message, ((packaged "models").lookupName (packaged "models").entry "missing").1 =
        .unresolved message := by
  have named : "models" ∈ ["models", "type"] := by decide
  have free (name : String) (other : SpecialForm.isBuiltin name = false) :
      ¬ ∃ qualname, (packaged "models").Captures pkg name qualname := by
    rintro ⟨qualname, captures⟩
    rw [(packaged_captures named captures).1] at other
    cases other
  obtain ⟨each, inside, dotted, outside, _⟩ := packaged_facts
  have unbound : (packaged "models").Unassigned pkg "models" := packaged_unbound named (by decide)
  have unbound' : (packaged "models").Unassigned pkg "missing" := packaged_unbound named (by decide)
  have reads := ((member_of_package unbound).1 (free _ (by decide))).1 _ inside
  have lost := ((member_of_package unbound').1 (free _ (by decide))).2 outside
  obtain ⟨_, member, same⟩ := reads.member _ _ ⟨4, 0⟩ _ (packaged_base named)
  have imported := reads.imported _ (packaged_reexports named)
  rw [dotted] at same imported
  refine ⟨same ▸ member, imported, lost.imported ⟨_, "missing"⟩ (.single ?_)⟩
  exact relays_of_sole (packaged_sole named (by decide)) (by decide)
    (each _ named).2.2.1 outside

/-- A module `type` is inside the package, and not found. -/
theorem packaged_type_captured :
    (packaged "type").Unassigned pkg "type" ∧
      (packaged "type").resolveSubmodule? pkg "type" =
        some ⟨.root, ["app", "pkg", "type.py"]⟩ ∧
      (packaged "type").Reexports ⟨(packaged "type").entry, "inner"⟩ ⟨pkg, "type"⟩ ∧
      ((packaged "type").lookupName (packaged "type").entry "inner").1 = .special "builtins.type" ∧
      ((packaged "type").lookupExpr (packaged "type").entry (.name ⟨4, 0⟩ "pkg")).1 =
        .ok (.module "pkg" (some pkg)) ∧
      ((packaged "type").lookupExpr (packaged "type").entry
        (.member ⟨4, 0⟩ (.name ⟨4, 0⟩ "pkg") "type")).1 = .ok (.special "builtins.type") := by
  have named : "type" ∈ ["models", "type"] := by decide
  have unbound : (packaged "type").Unassigned pkg "type" := packaged_unbound named (by decide)
  have reads := reads_capture unbound (.builtin (by decide))
  have reexports := packaged_reexports named
  have base := packaged_base named
  obtain ⟨_, captured, imported⟩ := reads.imported _ reexports
  obtain ⟨_, member, _, captured', rfl⟩ := reads.member _ _ ⟨4, 0⟩ _ base
  obtain ⟨_, rfl⟩ := packaged_captures named captured
  obtain ⟨_, rfl⟩ := packaged_captures named captured'
  exact ⟨unbound, packaged_facts.2.2.2.2, reexports, imported, base, member⟩

end Program

end HintSchema

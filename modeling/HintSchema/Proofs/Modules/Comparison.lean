import Mathlib.Data.Finset.Card
import Mathlib.Logic.Relation
import HintSchema.Proofs.Modules.Bound

/-!
Two searches compared. They come to one binding if what they ask for below does, or fails in both;
after a failure the names that they have visited still are in the relation in which they were
(`compares_lookIn`).
-/

namespace HintSchema

abbrev Binding.Resolves (b : Binding) : Prop := b.unresolved?.isNone = true

theorem run_bind_of_eq {α β : Type} {m : SearchM α} {next : α → SearchM β} {s : Search} {a : α}
    (first : (m.run s).1 = a) : (m >>= next).run s = (next a).run (m.run s).2 := by
  subst first
  rfl

/-- The result is known, whatever has been visited, and nothing is visited for it. -/
def Still {α : Type} (m : SearchM α) (a : α) : Prop :=
  ∀ s, (m.run s).1 = a ∧ (m.run s).2.visited = s.visited

namespace Still

variable {α β : Type} {m : SearchM α} {next : α → SearchM β} {a : α} {b : β}

theorem pure (a : α) : Still (pure a) a := fun _ => ⟨rfl, rfl⟩

theorem bind (first : Still m a) (later : Still (next a) b) : Still (m >>= next) b := by
  intro s
  obtain ⟨same, unvisited⟩ := first s
  obtain ⟨found, kept⟩ := later (m.run s).2
  rw [run_bind_of_eq same]
  exact ⟨found, kept.trans unvisited⟩

theorem openFile? (target : Option Path) : Still (Search.openFile? target) () := by
  cases target <;> exact fun _ => ⟨rfl, rfl⟩

theorem openImport (P : Program) (file : Path) (module : Option String) (level : Nat) :
    Still (P.openImport file module level) (P.resolveImport? file module level) :=
  (openFile? _).bind (.pure _)

end Still

namespace Program

def submodule? (P : Program) (package : Path) (name : String) : Option Binding :=
  (P.resolveSubmodule? package name).map fun path => .module (P.source path).module (some path)

def moduleNamed (P : Program) (file : Path) (module : String) : Binding :=
  if SpecialForm.isModule module then .module module none
  else
    match P.resolveImport? file (some module) 0 with
    | some path => .module module (some path)
    | none => .unresolved (Binding.cannotFindModule module 0)

/-- To tell what a name stands for, a search may have to tell what the other stands for: the name
is imported from there, or it may come with a star import. -/
inductive Refers (P : Program) : NameKey → NameKey → Prop
  | member {file target : Path} {name source : String} {module : Option String} {level : Nat}
      (bound : .member module level source ∈ (P.source file).scope.boundTo name)
      (ordinary : specialSource? module level = none)
      (found : P.resolveImport? file module level = some target) :
      Refers P ⟨file, name⟩ ⟨target, source⟩
  | star {file target : Path} {name : String} {module : Option String} {level : Nat}
      (star : (module, level) ∈ (P.source file).scope.stars)
      (ordinary : specialSource? module level = none)
      (found : P.resolveImport? file module level = some target) :
      Refers P ⟨file, name⟩ ⟨target, name⟩

def lookIn (P : Program) (recur : Path → String → SearchM Binding) (file : Path) (name : String) :
    SearchM Binding := do
  match ← P.firstResolved recur file name ((P.source file).scope.boundTo name) with
  | some found => return found
  | none =>
    match ← P.throughStars recur file name (P.source file).scope.stars with
    | some found => return found
    | none =>
      if SpecialForm.isBuiltin name then return .special ("builtins." ++ name)
      return .unresolved (Binding.cannotFindName name)

end Program

/-- From states whose visited names are in the relation `I`, both searches come to one result, with
which a search ends (`Hit`), or to two that let it go on, and `I` still holds then. -/
def Compares {α : Type} (Hit : α → Prop) (Miss : α → α → Prop)
    (I : List NameKey → List NameKey → Prop) (m m' : SearchM α) : Prop :=
  ∀ s s', I s.visited s'.visited →
    (m.run s).1 = (m'.run s').1 ∧ Hit (m.run s).1 ∨
      Miss (m.run s).1 (m'.run s').1 ∧ I (m.run s).2.visited (m'.run s').2.visited

def BothFail (b b' : Binding) : Prop := ¬ b.Resolves ∧ ¬ b'.Resolves

abbrev ComparesBindings : (List NameKey → List NameKey → Prop) → SearchM Binding → SearchM Binding →
    Prop := Compares Binding.Resolves BothFail

namespace Compares

variable {α β : Type} {Hit : α → Prop} {Miss : α → α → Prop} {HitB : β → Prop}
  {MissB : β → β → Prop} {I : List NameKey → List NameKey → Prop} {m m' : SearchM α}
  {next next' : α → SearchM β} {a a' : α}

theorem miss (left : Still m a) (right : Still m' a') (both : Miss a a') :
    Compares Hit Miss I m m' := by
  intro s s' related
  obtain ⟨rfl, kept⟩ := left s
  obtain ⟨rfl, kept'⟩ := right s'
  refine .inr ⟨both, ?_⟩
  rwa [kept, kept']

theorem hit (left : Still m a) (right : Still m' a) (good : Hit a) :
    Compares Hit Miss I m m' := by
  intro s s' _
  rw [(left s).1, (right s').1]
  exact .inl ⟨rfl, good⟩

theorem after (left : Still m a) (right : Still m' a')
    (later : Compares HitB MissB I (next a) (next' a')) :
    Compares HitB MissB I (m >>= next) (m' >>= next') := by
  intro s s' related
  obtain ⟨same, kept⟩ := left s
  obtain ⟨same', kept'⟩ := right s'
  rw [run_bind_of_eq same, run_bind_of_eq same']
  refine later (m.run s).2 (m'.run s').2 ?_
  rwa [kept, kept']

theorem bind (first : Compares Hit Miss I m m')
    (hit : ∀ a, Hit a → ∃ b, Still (next a) b ∧ Still (next' a) b ∧ HitB b)
    (miss : ∀ a a', Miss a a' → Compares HitB MissB I (next a) (next' a')) :
    Compares HitB MissB I (m >>= next) (m' >>= next') := by
  intro s s' related
  rcases first s s' related with ⟨same, good⟩ | ⟨both, kept⟩
  · obtain ⟨b, found, found', good⟩ := hit _ good
    rw [run_bind_of_eq rfl, run_bind_of_eq same.symm, (found _).1, (found' _).1]
    exact .inl ⟨rfl, good⟩
  · exact miss _ _ both _ _ kept

end Compares

namespace Program

variable {P : Program} {recur recur' : Path → String → SearchM Binding} {file : Path}
  {name : String} {I : List NameKey → List NameKey → Prop}

theorem still_orSubmodule (target : Path) (name : String) {found : Binding}
    (failed : ¬ found.Resolves) :
    Still (P.orSubmodule target name found) ((P.submodule? target name).getD found) := by
  unfold orSubmodule submodule?
  rw [if_neg failed]
  refine (Still.openFile? _).bind ?_
  cases P.resolveSubmodule? target name <;> exact .pure _

theorem still_orSubmodule_of_resolves (target : Path) (name : String) {found : Binding}
    (resolves : found.Resolves) : Still (P.orSubmodule target name found) found := by
  unfold orSubmodule
  rw [if_pos resolves]
  exact .pure _

theorem still_importedModule (P : Program) (file : Path) (module : String) :
    Still (P.importedModule file module) (P.moduleNamed file module) := by
  unfold importedModule moduleNamed
  split
  · exact .pure _
  · refine (Still.openImport P file (some module) 0).bind ?_
    cases P.resolveImport? file (some module) 0 <;> exact .pure _

theorem moduleNamed_of_ordinary {module : String} {target : Path}
    (ordinary : SpecialForm.isModule module = false)
    (found : P.resolveImport? file (some module) 0 = some target) :
    P.moduleNamed file module = .module module (some target) := by
  simp [moduleNamed, ordinary, found]

theorem resolves_of_submodule {target : Path} {b : Binding}
    (inside : P.submodule? target name = some b) : b.Resolves := by
  obtain ⟨_, _, rfl⟩ := Option.map_eq_some_iff.mp inside
  rfl

theorem compares_member {target : Path} {source : String}
    (below : ComparesBindings I (recur target source) (recur' target source)) :
    ComparesBindings I (recur target source >>= P.orSubmodule target source)
      (recur' target source >>= P.orSubmodule target source) := by
  refine below.bind ?_ ?_
  · intro b resolves
    have still := still_orSubmodule_of_resolves (P := P) target source resolves
    exact ⟨b, still, still, resolves⟩
  · rintro b b' ⟨failed, failed'⟩
    have left := still_orSubmodule (P := P) target source failed
    have right := still_orSubmodule (P := P) target source failed'
    cases inside : P.submodule? target source with
    | none =>
      rw [inside] at left right
      exact .miss left right ⟨failed, failed'⟩
    | some module =>
      rw [inside] at left right
      exact .hit left right (resolves_of_submodule inside)

theorem compares_resolveBound {bound : Bound}
    (below : ∀ module level source target, bound = .member module level source →
      specialSource? module level = none → P.resolveImport? file module level = some target →
        ComparesBindings I (recur target source) (recur' target source)) :
    ComparesBindings I (P.resolveBound recur file name bound)
      (P.resolveBound recur' file name bound) := by
  cases bound with
  | member module level source =>
    cases ordinary : specialSource? module level with
    | some special =>
      simp only [resolveBound, ordinary]
      refine .hit (.pure _) (.pure _) ?_
      unfold memberOfSpecial
      dsimp only
      split <;> rfl
    | none =>
      simp only [resolveBound, ordinary]
      refine .after (.openImport P file module level) (.openImport P file module level) ?_
      cases found : P.resolveImport? file module level with
      | none => exact .miss (.pure _) (.pure _) ⟨Bool.false_ne_true, Bool.false_ne_true⟩
      | some target => exact compares_member (below _ _ _ _ rfl ordinary found)
  | module other =>
    have still := P.still_importedModule file other
    by_cases resolves : (P.moduleNamed file other).Resolves
    · exact .hit still still resolves
    · exact .miss still still ⟨resolves, resolves⟩
  | _ => exact .hit (.pure _) (.pure _) rfl

def SomeResolves (found : Option Binding) : Prop := ∃ b, found = some b ∧ b.Resolves

def SomeFail (found found' : Option Binding) : Prop :=
  ∃ b b', found = some b ∧ found' = some b' ∧ BothFail b b'

def NoneFound (found found' : Option Binding) : Prop := found = none ∧ found' = none

theorem compares_firstResolved {bounds : List Bound}
    (below : ∀ module level source target, .member module level source ∈ bounds →
      specialSource? module level = none → P.resolveImport? file module level = some target →
        ComparesBindings I (recur target source) (recur' target source)) :
    Compares SomeResolves (if bounds = [] then NoneFound else SomeFail) I
      (P.firstResolved recur file name bounds) (P.firstResolved recur' file name bounds) := by
  induction bounds with
  | nil => exact .miss (.pure _) (.pure _) ⟨rfl, rfl⟩
  | cons bound rest ih =>
    rw [if_neg (List.cons_ne_nil _ _)]
    have here : ComparesBindings I (P.resolveBound recur file name bound)
        (P.resolveBound recur' file name bound) := by
      refine compares_resolveBound fun module level source target same => ?_
      exact below module level source target (same ▸ List.mem_cons_self)
    have there := ih fun module level source target member =>
      below module level source target (List.mem_cons_of_mem _ member)
    unfold firstResolved
    refine here.bind ?_ ?_
    · intro b resolves
      rw [if_pos resolves, if_pos resolves]
      exact ⟨_, .pure _, .pure _, b, rfl, resolves⟩
    · rintro b b' ⟨failed, failed'⟩
      rw [if_neg failed, if_neg failed']
      have fails : SomeFail (some b) (some b') := ⟨b, b', rfl, rfl, failed, failed'⟩
      refine there.bind ?_ ?_
      · rintro _ ⟨later, rfl, resolves⟩
        dsimp only
        rw [if_pos resolves, if_pos resolves]
        exact ⟨_, .pure _, .pure _, later, rfl, resolves⟩
      · intro found found' missed
        split at missed
        · obtain ⟨rfl, rfl⟩ := missed
          exact .miss (.pure _) (.pure _) fails
        · obtain ⟨later, later', rfl, rfl, unresolved, unresolved'⟩ := missed
          dsimp only
          rw [if_neg unresolved, if_neg unresolved']
          exact .miss (.pure _) (.pure _) fails

theorem compares_throughStars {stars : List (Option String × Nat)}
    (below : ∀ module level target, (module, level) ∈ stars → specialSource? module level = none →
      P.resolveImport? file module level = some target →
        ComparesBindings I (recur target name) (recur' target name)) :
    Compares SomeResolves NoneFound I (P.throughStars recur file name stars)
      (P.throughStars recur' file name stars) := by
  induction stars with
  | nil => exact .miss (.pure _) (.pure _) ⟨rfl, rfl⟩
  | cons star rest ih =>
    obtain ⟨module, level⟩ := star
    have there := ih fun module level target member =>
      below module level target (List.mem_cons_of_mem _ member)
    cases ordinary : specialSource? module level with
    | some special =>
      simp only [throughStars, ordinary]
      exact .hit (.pure _) (.pure _) ⟨_, rfl, rfl⟩
    | none =>
      simp only [throughStars, ordinary]
      refine .after (.openImport P file module level) (.openImport P file module level) ?_
      cases found : P.resolveImport? file module level with
      | none => exact there
      | some target =>
        refine (below module level target List.mem_cons_self ordinary found).bind ?_ ?_
        · intro b resolves
          rw [if_pos resolves, if_pos resolves]
          exact ⟨_, .pure _, .pure _, b, rfl, resolves⟩
        · rintro b b' ⟨failed, failed'⟩
          rw [if_neg failed, if_neg failed']
          exact there

/-- Two searches for one name agree if they agree on whatever is asked for it. -/
theorem compares_lookIn (below : ∀ next, P.Refers ⟨file, name⟩ next →
      ComparesBindings I (recur next.file next.name) (recur' next.file next.name)) :
    ComparesBindings I (P.lookIn recur file name) (P.lookIn recur' file name) := by
  have own : Compares SomeResolves
      (if (P.source file).scope.boundTo name = [] then NoneFound else SomeFail) I
      (P.firstResolved recur file name ((P.source file).scope.boundTo name))
      (P.firstResolved recur' file name ((P.source file).scope.boundTo name)) :=
    compares_firstResolved fun module level source target bound ordinary found =>
      below ⟨target, source⟩ (.member bound ordinary found)
  have stars : Compares SomeResolves NoneFound I
      (P.throughStars recur file name (P.source file).scope.stars)
      (P.throughStars recur' file name (P.source file).scope.stars) :=
    compares_throughStars fun module level target star ordinary found =>
      below ⟨target, name⟩ (.star star ordinary found)
  unfold lookIn
  refine own.bind ?_ ?_
  · rintro _ ⟨b, rfl, resolves⟩
    exact ⟨b, .pure _, .pure _, resolves⟩
  · intro found found' missed
    split at missed
    · obtain ⟨rfl, rfl⟩ := missed
      refine stars.bind ?_ ?_
      · rintro _ ⟨b, rfl, resolves⟩
        exact ⟨b, .pure _, .pure _, resolves⟩
      · rintro _ _ ⟨rfl, rfl⟩
        dsimp only
        split
        · exact .hit (.pure _) (.pure _) rfl
        · exact .miss (.pure _) (.pure _) ⟨Bool.false_ne_true, Bool.false_ne_true⟩
    · obtain ⟨b, b', rfl, rfl, both⟩ := missed
      exact .miss (.pure _) (.pure _) both

/-! ### Visited names -/

theorem run_search_of_visited {s : Search} (visited : ⟨file, name⟩ ∈ s.visited) (limit : Nat) :
    (P.search limit file name).run s = (.unresolved (Binding.cannotFindName name), s) := by
  cases limit with
  | zero => rfl
  | succ limit =>
    have known : s.visited.contains ⟨file, name⟩ = true := List.contains_iff_mem.mpr visited
    change (if s.visited.contains ⟨file, name⟩ = true then _ else _ : SearchM Binding).run s = _
    rw [if_pos known]
    rfl

theorem run_search_of_not_visited {s : Search} (new : ⟨file, name⟩ ∉ s.visited) (limit : Nat) :
    (P.search (limit + 1) file name).run s =
      (P.lookIn (P.search limit) file name).run
        { s with visited := ⟨file, name⟩ :: s.visited } := by
  have unknown : ¬ s.visited.contains ⟨file, name⟩ = true := fun known =>
    new (List.contains_iff_mem.mp known)
  change (if s.visited.contains ⟨file, name⟩ = true then _ else _ : SearchM Binding).run s = _
  rw [if_neg unknown]
  rfl

def takenNames (P : Program) : List String :=
  P.sources.flatMap fun s => s.scope.names.filterMap fun p =>
    match p.2 with
    | .member _ _ source => some source
    | _ => none

def places (P : Program) (names : List String) : List NameKey :=
  P.sources.flatMap fun s => names.map fun name => ⟨s.path, name⟩

/-- How many of these names a search can still visit. -/
def room (P : Program) (names : List String) (visited : List NameKey) : Nat :=
  ((P.places names).toFinset \ visited.toFinset).card

variable {names : List String} {visited more : List NameKey} {key next : NameKey}

theorem length_places (P : Program) (names : List String) :
    (P.places names).length = P.sources.length * names.length := by
  simp [places]

theorem room_le (P : Program) (names : List String) (visited : List NameKey) :
    P.room names visited ≤ P.sources.length * names.length := by
  calc
    P.room names visited ≤ (P.places names).toFinset.card :=
      Finset.card_le_card Finset.sdiff_subset
    _ ≤ (P.places names).length := List.toFinset_card_le _
    _ = P.sources.length * names.length := P.length_places names

theorem room_anti (subset : visited ⊆ more) : P.room names more ≤ P.room names visited := by
  refine Finset.card_le_card (Finset.sdiff_subset_sdiff (Finset.Subset.refl _) ?_)
  exact fun key member => List.mem_toFinset.mpr (subset (List.mem_toFinset.mp member))

theorem room_cons_lt (place : key ∈ P.places names) (new : key ∉ visited) :
    P.room names (key :: visited) < P.room names visited := by
  have left : key ∈ (P.places names).toFinset \ visited.toFinset :=
    Finset.mem_sdiff.mpr ⟨List.mem_toFinset.mpr place, fun old => new (List.mem_toFinset.mp old)⟩
  unfold room
  rw [List.toFinset_cons, Finset.sdiff_insert]
  exact Finset.card_erase_lt_of_mem left

theorem mem_takenNames {module : Option String} {level : Nat} {source : String}
    (present : P.source file ∈ P.sources)
    (bound : .member module level source ∈ (P.source file).scope.boundTo name) :
    source ∈ P.takenNames :=
  List.mem_flatMap.mpr ⟨_, present, List.mem_filterMap.mpr ⟨_, mem_names_of_boundTo bound, rfl⟩⟩

namespace Refers

theorem present (refers : P.Refers key next) :
    P.source key.file ∈ P.sources ∧ (P.source key.file).path = key.file := by
  rcases P.source_cases key.file with present | missing
  · exact present
  · cases refers with
    | member bound =>
      rw [missing] at bound
      cases bound
    | star star =>
      rw [missing] at star
      cases star

theorem place (refers : P.Refers key next) (named : key.name ∈ names) : key ∈ P.places names := by
  obtain ⟨present, own⟩ := refers.present
  refine List.mem_flatMap.mpr ⟨_, present, List.mem_map.mpr ⟨key.name, named, ?_⟩⟩
  rw [own]

theorem named (refers : P.Refers key next) (closed : P.takenNames ⊆ names)
    (named : key.name ∈ names) : next.name ∈ names := by
  obtain ⟨present, _⟩ := refers.present
  cases refers with
  | member bound => exact closed (mem_takenNames present bound)
  | star => exact named

end Refers

theorem takenNames_subset (P : Program) (name : String) : P.takenNames ⊆ P.reachableNames name :=
  List.subset_cons_self _ _

theorem mem_reachableNames (P : Program) (name : String) : name ∈ P.reachableNames name :=
  List.mem_cons_self

theorem room_lt_searchLimit (P : Program) (name : String) (visited : List NameKey) :
    P.room (P.reachableNames name) visited < P.searchLimit name :=
  Nat.lt_succ_of_le (P.room_le _ _)

/-! ### Whole searches -/

/-- What a member of a module stands for: a name there, or a module inside. -/
def memberOf (P : Program) (target : Path) (name : String) : Binding :=
  ((P.orSubmodule target name (P.lookupName target name).1).run {}).1

theorem memberOf_of_resolves {target : Path} (resolves : (P.lookupName target name).1.Resolves) :
    P.memberOf target name = (P.lookupName target name).1 :=
  (still_orSubmodule_of_resolves target name resolves {}).1

theorem memberOf_of_not_resolves {target : Path}
    (fails : ¬ (P.lookupName target name).1.Resolves) :
    P.memberOf target name = (P.submodule? target name).getD (P.lookupName target name).1 :=
  (still_orSubmodule target name fails {}).1

theorem lookupName_eq_run_lookIn (P : Program) (file : Path) (name : String) :
    (P.lookupName file name).1 =
      ((P.lookIn (P.search (P.searchLimit name - 1)) file name).run
        { visited := [⟨file, name⟩] }).1 := by
  have fresh : (⟨file, name⟩ : NameKey) ∉ ({} : Search).visited := List.not_mem_nil
  exact congrArg Prod.fst (run_search_of_not_visited fresh (P.sources.length * _))

theorem run_lookIn_of_bound {bound : Bound} {older : List Bound} {b : Binding} {s : Search}
    (last : (P.source file).scope.boundTo name = bound :: older)
    (stands : ((P.resolveBound recur file name bound).run s).1 = b) (resolves : b.Resolves) :
    ((P.lookIn recur file name).run s).1 = b := by
  have own : ((P.firstResolved recur file name (bound :: older)).run s).1 = some b := by
    rw [firstResolved, run_bind_of_eq stands, if_pos resolves]
    rfl
  rw [lookIn, last, run_bind_of_eq own]
  rfl

theorem lookupName_of_bound {bound : Bound} {older : List Bound} {b : Binding}
    (last : (P.source file).scope.boundTo name = bound :: older)
    (stands : ((P.resolveBound (P.search (P.searchLimit name - 1)) file name bound).run
      { visited := [⟨file, name⟩] }).1 = b) (resolves : b.Resolves) :
    (P.lookupName file name).1 = b :=
  (P.lookupName_eq_run_lookIn file name).trans (run_lookIn_of_bound last stands resolves)

end Program

end HintSchema

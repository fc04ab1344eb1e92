import Mathlib.Data.Fintype.EquivFin
import HintSchema.Proofs.Modules.Comparison

/-!
Modules that take no names from each other in a circle. There it does not matter what a search has
visited before: a name stands for what the names that it is imported from stand for by themselves
(`lookupName_eq_unfolded`).
-/

namespace HintSchema

def Bound.source? : Bound → Option (Option String × Nat)
  | .member source level _ => some (source, level)
  | _ => none

namespace Program

def takenFrom (P : Program) (file : Path) : List Path :=
  let scope := (P.source file).scope
  (scope.names.filterMap (·.2.source?) ++ scope.stars).filterMap fun source =>
    if (specialSource? source.1 source.2).isSome then none
    else P.resolveImport? file source.1 source.2

def TakesFrom (P : Program) (file target : Path) : Prop := target ∈ P.takenFrom file

/-- No module takes names from itself, not even by way of others. -/
def NoImportCycle (P : Program) : Prop := ∀ file, ¬ Relation.TransGen P.TakesFrom file file

variable {P : Program} {file target : Path} {name : String} {names : List String}
  {key next : NameKey} {module : Option String} {level : Nat}

theorem takesFrom_of_source
    (named : (module, level) ∈ (P.source file).scope.names.filterMap (·.2.source?) ++
      (P.source file).scope.stars)
    (ordinary : specialSource? module level = none)
    (found : P.resolveImport? file module level = some target) : P.TakesFrom file target := by
  refine List.mem_filterMap.mpr ⟨_, named, ?_⟩
  rw [ordinary]
  exact found

theorem Refers.takesFrom (refers : P.Refers key next) : P.TakesFrom key.file next.file := by
  cases refers with
  | member bound ordinary found =>
    refine takesFrom_of_source (List.mem_append_left _ ?_) ordinary found
    exact List.mem_filterMap.mpr ⟨_, mem_names_of_boundTo bound, rfl⟩
  | star star ordinary found =>
    exact takesFrom_of_source (List.mem_append_right _ star) ordinary found

theorem TakesFrom.mem_paths (takes : P.TakesFrom file target) :
    file ∈ P.sources.map (·.path) := by
  rcases P.source_cases file with ⟨present, own⟩ | missing
  · exact List.mem_map.mpr ⟨_, present, own⟩
  · unfold TakesFrom takenFrom at takes
    rw [missing] at takes
    cases takes

theorem noImportCycle_of_rank (rank : Path → Nat)
    (lower : ∀ s ∈ P.sources, ∀ target ∈ P.takenFrom s.path, rank target < rank s.path) :
    P.NoImportCycle := by
  have step {file target : Path} (takes : P.TakesFrom file target) : rank target < rank file := by
    obtain ⟨s, present, rfl⟩ := List.mem_map.mp takes.mem_paths
    exact lower s present target takes
  have falls {file target : Path} (taken : Relation.TransGen P.TakesFrom file target) :
      rank target < rank file := by
    induction taken with
    | single takes => exact step takes
    | tail _ takes ih => exact (step takes).trans ih
  exact fun file cycle => Nat.lt_irrefl _ (falls cycle)

theorem NoImportCycle.wellFounded (acyclic : P.NoImportCycle) :
    WellFounded fun target file => P.TakesFrom file target := by
  let Module := { file // file ∈ P.sources.map (·.path) }
  have : Finite Module := inferInstanceAs (Finite { file // file ∈ P.sources.map (·.path) })
  let Leads (target file : Module) : Prop := Relation.TransGen P.TakesFrom file.1 target.1
  have transitive : IsTrans Module Leads := ⟨fun _ _ _ first second => second.trans first⟩
  have irreflexive : Std.Irrefl Leads := ⟨fun file => acyclic file.1⟩
  have outside {file : Path} (absent : file ∉ P.sources.map (·.path)) :
      Acc (fun target file => P.TakesFrom file target) file :=
    ⟨_, fun _ takes => absurd takes.mem_paths absent⟩
  have inside (file : Module) : Acc (fun target file => P.TakesFrom file target) file.1 := by
    induction file using (Finite.wellFounded_of_trans_of_irrefl Leads).induction with
    | _ file ih =>
      refine ⟨_, fun target takes => ?_⟩
      by_cases present : target ∈ P.sources.map (·.path)
      · exact ih ⟨target, present⟩ (.single takes)
      · exact outside present
  refine ⟨fun file => ?_⟩
  by_cases present : file ∈ P.sources.map (·.path)
  · exact inside ⟨file, present⟩
  · exact outside present

def FailsAlone (P : Program) (key : NameKey) : Prop :=
  ¬ (P.lookupName key.file key.name).1.Resolves

abbrev alone (P : Program) (file : Path) (name : String) : SearchM Binding :=
  pure (P.lookupName file name).1

/-- What a search comes to that knows what the names it is referred to stand for by themselves. -/
def unfolded (P : Program) (file : Path) (name : String) : Binding :=
  ((P.lookIn P.alone file name).run {}).1

/-- The search comes to the binding, or fails if that is none; then it has visited only names that
come to nothing, save for those it had visited before. -/
def ComesTo (P : Program) (b : Binding) (before : List NameKey) (result : Binding × Search) :
    Prop :=
  result.1 = b ∧ b.Resolves ∨
    BothFail result.1 b ∧ before ⊆ result.2.visited ∧
      ∀ key ∈ result.2.visited, key ∈ before ∨ P.FailsAlone key

/-- The names visited before stand in no search's way from this file. -/
def Unblocked (P : Program) (file : Path) (visited : List NameKey) : Prop :=
  ∀ key ∈ visited, Relation.ReflTransGen P.TakesFrom file key.file → P.FailsAlone key

theorem Unblocked.below {visited before : List NameKey} (unblocked : P.Unblocked file before)
    (acyclic : P.NoImportCycle) (takes : P.TakesFrom file target)
    (known : ∀ key ∈ visited, key ∈ (⟨file, name⟩ :: before : List NameKey) ∨ P.FailsAlone key) :
    P.Unblocked target visited := by
  intro key member taken
  rcases known key member with old | fails
  · rcases List.mem_cons.mp old with rfl | old
    · exact absurd (.head' takes taken) (acyclic file)
    · exact unblocked key old (.head takes taken)
  · exact fails

/-- Every search in the file that nothing stands in the way of comes to what its name stands for by
itself. -/
def Straightforward (P : Program) (names : List String) (file : Path) : Prop :=
  ∀ limit name s, name ∈ names → P.room names s.visited < limit → P.Unblocked file s.visited →
    P.ComesTo (P.lookupName file name).1 s.visited ((P.search limit file name).run s)

theorem comesTo_unfolded (acyclic : P.NoImportCycle) (closed : P.takenNames ⊆ names)
    (below : ∀ target, P.TakesFrom file target → P.Straightforward names target) {limit : Nat}
    {s : Search} (named : name ∈ names) (new : ⟨file, name⟩ ∉ s.visited)
    (enough : P.room names s.visited < limit) (unblocked : P.Unblocked file s.visited) :
    P.ComesTo (P.unfolded file name) (⟨file, name⟩ :: s.visited)
      ((P.search limit file name).run s) := by
  obtain ⟨limit, rfl⟩ := Nat.exists_eq_succ_of_ne_zero (Nat.ne_zero_of_lt enough)
  rw [run_search_of_not_visited new]
  let Known (visited _ : List NameKey) : Prop := ⟨file, name⟩ :: s.visited ⊆ visited ∧
    ∀ key ∈ visited, key ∈ (⟨file, name⟩ :: s.visited : List NameKey) ∨ P.FailsAlone key
  have agree : ComparesBindings Known (P.lookIn (P.search limit) file name)
      (P.lookIn P.alone file name) := by
    refine compares_lookIn fun next refers t t' related => ?_
    obtain ⟨grown, known⟩ := related
    have takes := refers.takesFrom
    have less := (room_anti grown).trans_lt (room_cons_lt (refers.place named) new)
    rcases below next.file takes limit next.name t (refers.named closed named)
        (less.trans_le (Nat.le_of_lt_succ enough)) (unblocked.below acyclic takes known) with
      ⟨same, resolves⟩ | ⟨fail, kept, visits⟩
    · exact .inl ⟨same, same ▸ resolves⟩
    · refine .inr ⟨fail, List.Subset.trans grown kept, fun key member => ?_⟩
      exact (visits key member).elim (known key) .inr
  rcases agree { s with visited := ⟨file, name⟩ :: s.visited } {}
      ⟨List.Subset.refl _, fun _ => .inl⟩ with ⟨same, resolves⟩ | failed
  · rw [same] at resolves
    exact .inl ⟨same, resolves⟩
  · exact .inr failed

theorem lookupName_unfolds (acyclic : P.NoImportCycle)
    (below : ∀ target, P.TakesFrom file target →
      P.Straightforward (P.reachableNames name) target) :
    (P.lookupName file name).1 = P.unfolded file name ∧ (P.unfolded file name).Resolves ∨
      BothFail (P.lookupName file name).1 (P.unfolded file name) := by
  have comes : P.ComesTo (P.unfolded file name) [⟨file, name⟩]
      ((P.search (P.searchLimit name) file name).run {}) :=
    comesTo_unfolded acyclic (P.takenNames_subset name) below (P.mem_reachableNames name)
      List.not_mem_nil (P.room_lt_searchLimit name _)
      (fun _ member => absurd member List.not_mem_nil)
  exact comes.imp_right And.left

theorem NoImportCycle.straightforward (acyclic : P.NoImportCycle) (closed : P.takenNames ⊆ names)
    (file : Path) : P.Straightforward names file := by
  induction file using acyclic.wellFounded.induction generalizing names with
  | _ file ih =>
    intro limit name s named enough unblocked
    have alone := lookupName_unfolds acyclic fun target takes =>
      ih target takes (P.takenNames_subset name)
    by_cases old : ⟨file, name⟩ ∈ s.visited
    · rw [run_search_of_visited old]
      have fails : P.FailsAlone ⟨file, name⟩ := unblocked _ old .refl
      exact .inr ⟨⟨Bool.false_ne_true, fails⟩, List.Subset.refl _, fun _ => .inl⟩
    · rcases comesTo_unfolded acyclic closed (fun target takes => ih target takes closed) named old
          enough unblocked with ⟨same, resolves⟩ | ⟨⟨fails, fails'⟩, grown, known⟩
      · rcases alone with ⟨same', _⟩ | ⟨_, fails⟩
        · exact .inl ⟨same.trans same'.symm, same' ▸ resolves⟩
        · exact absurd resolves fails
      · have spent : P.FailsAlone ⟨file, name⟩ := by
          rcases alone with ⟨_, resolves⟩ | ⟨fails, _⟩
          · exact absurd resolves fails'
          · exact fails
        refine .inr ⟨⟨fails, spent⟩, List.Subset.trans (List.subset_cons_self _ _) grown, ?_⟩
        intro key member
        rcases known key member with old | fails
        · exact (List.mem_cons.mp old).elim (fun same => .inr (same ▸ spent)) .inl
        · exact .inr fails

/-- Where modules take names from each other in no circle, a name stands for what it comes to with
the names it refers to looked up by themselves. -/
theorem lookupName_eq_unfolded (acyclic : P.NoImportCycle)
    (resolves : (P.unfolded file name).Resolves) :
    (P.lookupName file name).1 = P.unfolded file name := by
  rcases lookupName_unfolds acyclic fun target _ =>
      acyclic.straightforward (P.takenNames_subset name) target
    with ⟨same, _⟩ | ⟨_, fails⟩
  · exact same
  · exact absurd resolves fails

end Program

end HintSchema

import HintSchema.Proofs.Modules.Comparison
import HintSchema.Proofs.Modules.Packages

/-!
The spellings of an import: `from m import X`, and `X` as a member of `m` or of another name for
`m`.
-/

namespace HintSchema

/-- The expression is a chain of members with these names, `first.second.third`. -/
inductive Expr.Spells : Expr → List String → Prop
  | name (pos : Position) (id : String) : Spells (.name pos id) [id]
  | member (pos : Position) {value : Expr} {parts : List String} (attr : String)
      (base : Spells value parts) : Spells (.member pos value attr) (parts ++ [attr])

namespace Expr.Spells

variable {expr : Expr} {parts : List String} {first last : String}

theorem ne_nil (spells : expr.Spells parts) : parts ≠ [] := by
  cases spells <;> simp

theorem of_singleton (spells : expr.Spells [first]) : ∃ pos, expr = .name pos first := by
  generalize same : [first] = whole at spells
  cases spells with
  | name pos id =>
    cases same
    exact ⟨pos, rfl⟩
  | member pos attr base =>
    exact absurd (List.append_eq_singleton_iff.mp same.symm) (by simp [base.ne_nil])

theorem of_concat (spells : expr.Spells (parts ++ [last])) (longer : parts ≠ []) :
    ∃ pos value, expr = .member pos value last ∧ value.Spells parts := by
  generalize same : parts ++ [last] = whole at spells
  cases spells with
  | name pos id => exact absurd (List.append_eq_singleton_iff.mp same) (by simp [longer])
  | member pos attr base =>
    obtain ⟨rfl, last⟩ := List.append_inj' same rfl
    cases last
    exact ⟨pos, _, rfl, base⟩

end Expr.Spells

namespace Bound

def imported? : Bound → Option (Option String × Nat × Option String)
  | .module name => some (some name, 0, none)
  | .member source level name => some (source, level, some name)
  | _ => none

theorem eq_of_imported? {b c : Bound} (imports : c.imported?.isSome = true)
    (same : b.imported? = c.imported?) : b = c := by
  cases b <;> cases c <;> simp_all [imported?]

end Bound

theorem Scope.boundTo_eq_singleton {s : Scope} {name : String} {b : Bound}
    (imports : b.imported?.isSome = true)
    (same : (s.boundTo name).map Bound.imported? = [b.imported?]) : s.boundTo name = [b] := by
  obtain ⟨c, rest, whole, first, none⟩ := List.map_eq_cons_iff.mp same
  rw [whole, Bound.eq_of_imported? imports first, List.map_eq_nil_iff.mp none]

namespace Program

variable {P : Program} {file target user : Path} {name module top : String}
  {names : List String} {key k first : NameKey} {older : List Bound}

/-! ### A search below another one -/

/-- The names that the first search has visited are those of the second one and this one. -/
def VisitedWith (k : NameKey) (visited visited' : List NameKey) : Prop :=
  ∀ key, key ∈ visited ↔ key = k ∨ key ∈ visited'

/-- While the first name is searched for, the other one comes to nothing. -/
def Idle (P : Program) (names : List String) (first k : NameKey) : Prop :=
  ∀ limit s, first ∈ s.visited → k ∉ s.visited → P.room names s.visited < limit →
    ¬ ((P.search limit k.file k.name).run s).1.Resolves ∧
      ((P.search limit k.file k.name).run s).2.visited = k :: s.visited

/-- Two runs come to one result, or both fail; the names visited then are what they were, up to the
one name. -/
def Concur (k : NameKey) (m m' : SearchM Binding) (s s' : Search) : Prop :=
  (m.run s).1 = (m'.run s').1 ∧ (m.run s).1.Resolves ∨
    BothFail (m.run s).1 (m'.run s').1 ∧
      VisitedWith k (m.run s).2.visited (m'.run s').2.visited ∧
      s.visited ⊆ (m.run s).2.visited ∧ s'.visited ⊆ (m'.run s').2.visited

/-- A search below the search for `k` finds what it finds by itself, where `k` is not asked for or
comes to nothing. -/
theorem concur_search (closed : P.takenNames ⊆ names) (apart : first ≠ k)
    (idle : Relation.ReflTransGen P.Refers first k → P.Idle names first k) {limit limit' : Nat}
    {s s' : Search} (key : NameKey) (named : key.name ∈ names)
    (reached : Relation.ReflTransGen P.Refers first key)
    (started : key = first ∨ first ∈ s'.visited) (related : VisitedWith k s.visited s'.visited)
    (enough : P.room names s.visited < limit) (enough' : P.room names s'.visited < limit') :
    Concur k (P.search limit key.file key.name) (P.search limit' key.file key.name) s s' := by
  induction limit generalizing limit' key s s' with
  | zero => exact absurd enough (Nat.not_lt_zero _)
  | succ limit ih =>
    unfold Concur
    by_cases old : key ∈ s.visited
    · rw [run_search_of_visited old]
      by_cases old' : key ∈ s'.visited
      · rw [run_search_of_visited old']
        exact .inr ⟨⟨Bool.false_ne_true, Bool.false_ne_true⟩, related, List.Subset.refl _,
          List.Subset.refl _⟩
      · cases ((related key).mp old).resolve_right old'
        obtain ⟨fails, visits⟩ :=
          idle reached limit' s' (started.resolve_left apart.symm) old' enough'
        refine .inr ⟨⟨Bool.false_ne_true, fails⟩, ?_, List.Subset.refl _, ?_⟩
        · intro other
          rw [visits, related other, List.mem_cons]
          exact ⟨fun or => or.imp_right .inr, fun or => or.elim .inl id⟩
        · rw [visits]
          exact List.subset_cons_self _ _
    · have old' : key ∉ s'.visited := fun visited => old ((related key).mpr (.inr visited))
      obtain ⟨limit', rfl⟩ := Nat.exists_eq_succ_of_ne_zero (Nat.ne_zero_of_lt enough')
      rw [run_search_of_not_visited old, run_search_of_not_visited old']
      let Related (visited visited' : List NameKey) : Prop := VisitedWith k visited visited' ∧
        key :: s.visited ⊆ visited ∧ key :: s'.visited ⊆ visited'
      have step : ComparesBindings Related (P.lookIn (P.search limit) key.file key.name)
          (P.lookIn (P.search limit') key.file key.name) := by
        refine compares_lookIn fun next refers t t' related => ?_
        obtain ⟨related, grown, grown'⟩ := related
        -- there is less room below, in both searches
        have place := refers.place named
        have less := (room_anti grown).trans_lt (room_cons_lt place old)
        have less' := (room_anti grown').trans_lt (room_cons_lt place old')
        have started' : first ∈ t'.visited :=
          started.elim (fun same => same ▸ grown' List.mem_cons_self)
            fun member => grown' (List.mem_cons_of_mem _ member)
        have below := ih next (refers.named closed named) (reached.tail refers) (.inr started')
          related (less.trans_le (Nat.le_of_lt_succ enough))
          (less'.trans_le (Nat.le_of_lt_succ enough'))
        refine below.imp_right fun missed => ⟨missed.1, missed.2.1, ?_, ?_⟩
        · exact List.Subset.trans grown missed.2.2.1
        · exact List.Subset.trans grown' missed.2.2.2
      have now : VisitedWith k (key :: s.visited) (key :: s'.visited) := by
        intro found
        simp only [List.mem_cons, related found]
        exact or_left_comm
      refine (step { s with visited := key :: s.visited } { s' with visited := key :: s'.visited }
        ⟨now, List.Subset.refl _, List.Subset.refl _⟩).imp_right fun missed => ?_
      refine ⟨missed.1, missed.2.1, ?_, ?_⟩
      · exact List.Subset.trans (List.subset_cons_self _ _) missed.2.2.1
      · exact List.Subset.trans (List.subset_cons_self _ _) missed.2.2.2

/-! ### Members of modules -/

def taken (P : Program) (file : Path) (module name : String) : Binding :=
  ((P.resolveBound (P.search (P.searchLimit name - 1)) file name
    (.member (some module) 0 name)).run { visited := [⟨file, name⟩] }).1

/-- What is taken from a module is what its member stands for there, if that is told without the
name that it is taken for. -/
def Aside (P : Program) (target file : Path) (name : String) (older : List Bound) : Prop :=
  target = file ∨ ¬ Relation.ReflTransGen P.Refers ⟨target, name⟩ ⟨file, name⟩ ∨
    older = [] ∧ P.resolveSubmodule? target name = none

theorem specialSource?_of_ordinary (ordinary : SpecialForm.isModule module = false) :
    specialSource? (some module) 0 = none := by
  simp [specialSource?, ordinary]

theorem idle_of_no_other (ordinary : specialSource? (some module) 0 = none)
    (found : P.resolveImport? file (some module) 0 = some target)
    (only : (P.source file).scope.boundTo name = [.member (some module) 0 name])
    (outside : P.resolveSubmodule? target name = none) :
    P.Idle names ⟨target, name⟩ ⟨file, name⟩ := by
  intro limit s started new enough
  obtain ⟨limit, rfl⟩ := Nat.exists_eq_succ_of_ne_zero (Nat.ne_zero_of_lt enough)
  rw [run_search_of_not_visited new]
  have again : ∀ t : Search, t.visited = ⟨file, name⟩ :: s.visited →
      (P.search limit target name).run t = (.unresolved (Binding.cannotFindName name), t) :=
    fun t same => run_search_of_visited (same ▸ List.mem_cons_of_mem _ started) limit
  simp [lookIn, only, firstResolved, resolveBound, ordinary, openImport, found, again,
    Search.openFile?, Search.openFile, orSubmodule, outside, Binding.unresolved?]

theorem exists_findModule?_of_resolveImport?
    (found : P.resolveImport? file (some module) 0 = some target) :
    ∃ place, P.resolver.findModule? module = some place ∧
      P.resolver.tree.resolve place = target := by
  obtain ⟨place, there, same⟩ := Option.map_eq_some_iff.mp found
  refine ⟨place, ?_, same⟩
  rw [if_neg (Nat.lt_irrefl 0)] at there
  dsimp only at there
  split at there
  · cases there
  · exact there

theorem lookupName_eq_taken
    (imported : (P.source file).scope.boundTo name = .member (some module) 0 name :: older)
    (resolves : (P.taken file module name).Resolves) :
    (P.lookupName file name).1 = P.taken file module name :=
  lookupName_of_bound imported rfl resolves

theorem taken_of_special (special : SpecialForm.isModule module = true) :
    P.taken file module name = memberOfSpecial module name := by
  have source : specialSource? (some module) 0 = some module := by
    simp [specialSource?, special]
  unfold taken
  simp only [resolveBound, source]
  rfl

theorem exists_taken_eq (name : String) (ordinary : specialSource? (some module) 0 = none)
    (found : P.resolveImport? file (some module) 0 = some target) :
    ∃ s, s.visited = [⟨file, name⟩] ∧ P.taken file module name =
      ((P.search (P.searchLimit name - 1) target name >>= P.orSubmodule target name).run s).1 := by
  obtain ⟨opened, kept⟩ := Still.openImport P file (some module) 0 { visited := [⟨file, name⟩] }
  refine ⟨_, kept, ?_⟩
  unfold taken
  simp only [resolveBound, ordinary]
  rw [run_bind_of_eq (opened.trans found)]

theorem memberOf_eq_taken
    (imported : (P.source file).scope.boundTo name = .member (some module) 0 name :: older)
    (resolves : (P.taken file module name).Resolves)
    (ordinary : SpecialForm.isModule module = false)
    (found : P.resolveImport? file (some module) 0 = some target)
    (aside : P.Aside target file name older) :
    P.memberOf target name = P.taken file module name := by
  by_cases own : target = file
  · have same := lookupName_eq_taken imported resolves
    rw [own, memberOf_of_resolves (same ▸ resolves), same]
  · replace ordinary := specialSource?_of_ordinary ordinary
    obtain ⟨s, visited, taken⟩ := exists_taken_eq name ordinary found
    rw [run_bind_of_eq rfl] at taken
    have refers : P.Refers ⟨file, name⟩ ⟨target, name⟩ :=
      .member (imported ▸ List.mem_cons_self) ordinary found
    have room := (room_cons_lt (refers.place (P.mem_reachableNames name))
      List.not_mem_nil).trans_le (P.room_le (P.reachableNames name) [])
    have apart : (⟨target, name⟩ : NameKey) ≠ ⟨file, name⟩ := fun same =>
      own (NameKey.mk.inj same).1
    have idle : Relation.ReflTransGen P.Refers ⟨target, name⟩ ⟨file, name⟩ →
        P.Idle (P.reachableNames name) ⟨target, name⟩ ⟨file, name⟩ := by
      intro asked
      obtain ⟨rfl, outside⟩ := (aside.resolve_left own).resolve_left (not_not_intro asked)
      exact idle_of_no_other ordinary found imported outside
    have agree : Concur ⟨file, name⟩ (P.search (P.searchLimit name - 1) target name)
        (P.search (P.searchLimit name) target name) s {} := by
      refine concur_search (P.takenNames_subset name) apart idle ⟨target, name⟩
        (P.mem_reachableNames name) .refl (.inl rfl) ?_ (visited ▸ room)
        (P.room_lt_searchLimit name _)
      intro key
      rw [visited, List.mem_singleton]
      exact (or_iff_left List.not_mem_nil).symm
    rcases agree with ⟨same, finds⟩ | ⟨⟨fails, fails'⟩, _⟩
    · rw [taken, (still_orSubmodule_of_resolves target name finds _).1, same]
      exact memberOf_of_resolves (same ▸ finds)
    · rw [taken, (still_orSubmodule target name fails _).1] at resolves ⊢
      rw [memberOf_of_not_resolves fails']
      cases inside : P.submodule? target name with
      | none =>
        rw [inside] at resolves
        exact absurd resolves fails
      | some module => rfl

/-! ### Chains of members -/

theorem lookupExpr_member {pos : Position} {value : Expr}
    (base : (P.lookupExpr user value).1 = .ok (.module module (some target))) :
    (P.lookupExpr user (.member pos value name)).1 = .ok (P.memberOf target name) := by
  rw [lookupExpr]
  generalize P.lookupExpr user value = result at base
  obtain ⟨found, opened⟩ := result
  cases base
  rfl

theorem lookupExpr_member_of_special {pos : Position} {value : Expr}
    (base : (P.lookupExpr user value).1 = .ok (.module module none)) :
    (P.lookupExpr user (.member pos value name)).1 = .ok (memberOfSpecial module name) := by
  rw [lookupExpr]
  generalize P.lookupExpr user value = result at base
  obtain ⟨found, opened⟩ := result
  cases base
  rfl

theorem lookupExpr_of_module {b : Binding} {pos : Position}
    (imported : (P.source user).scope.boundTo top = .module module :: older)
    (named : P.moduleNamed user module = b) (resolves : b.Resolves) :
    (P.lookupExpr user (.name pos top)).1 = .ok b :=
  congrArg Except.ok (lookupName_of_bound imported
    ((P.still_importedModule user module _).1.trans named) resolves)

/-- The module is found below the directory, in packages all the way, and so is its first part. No
package on the way uses the name of the next part for anything but the module inside. -/
structure InPackages (P : Program) (directory : Path) (module : String) : Prop where
  settled : directory.IsSettled
  components : ∀ part ∈ Text.splitAt '.' module, Path.IsComponent part
  whole : P.resolver.findModule? module =
    P.resolver.findIn? directory (Text.splitAt '.' module)
  top : ∀ first ∈ (Text.splitAt '.' module).head?,
    P.resolver.findModule? first = P.resolver.findIn? directory [first]
  packages : ∀ front rest, front ≠ [] → rest ≠ [] → front ++ rest = Text.splitAt '.' module →
    P.resolver.tree.isFile (Resolver.joinAll directory front / "__init__.py") = true
  unhidden : ∀ front part rest, front ≠ [] → front ++ part :: rest = Text.splitAt '.' module →
    (P.lookupName (P.packageAt directory front) part).1.Resolves →
      ∃ name, (P.lookupName (P.packageAt directory front) part).1 =
        .module name (P.resolveSubmodule? (P.packageAt directory front) part)

namespace InPackages

variable {directory : Path} {front rest : List String} {part : String}

theorem exists_findIn? (packaged : P.InPackages directory module)
    (found : P.resolver.findModule? module = some target) (nonempty : front ≠ [])
    (start : front ++ rest = Text.splitAt '.' module) :
    ∃ place, P.resolver.findIn? directory front = some place := by
  cases rest with
  | nil =>
    rw [List.append_nil] at start
    exact ⟨target, by rw [start, ← packaged.whole, found]⟩
  | cons part rest =>
    have package := packaged.packages front _ nonempty (List.cons_ne_nil part rest) start
    exact ⟨_, Resolver.findIn?_of_package nonempty package⟩

theorem exists_memberOf_eq (packaged : P.InPackages directory module)
    (found : P.resolver.findModule? module = some target) (nonempty : front ≠ [])
    (start : front ++ part :: rest = Text.splitAt '.' module) :
    ∃ name place, P.resolver.findIn? directory (front ++ [part]) = some place ∧
      P.memberOf (P.packageAt directory front) part =
        .module name (some (P.resolver.tree.resolve place)) := by
  have longer : (front ++ [part]) ++ rest = Text.splitAt '.' module := by
    rw [List.append_assoc]
    exact start
  obtain ⟨place, there⟩ := packaged.exists_findIn? found (by simp) longer
  have inside := P.resolveSubmodule?_packageAt packaged.settled front
    (fun other member => packaged.components other (start ▸ List.mem_append_left _ member)) part
  rw [there] at inside
  by_cases resolves : (P.lookupName (P.packageAt directory front) part).1.Resolves
  · obtain ⟨name, stands⟩ := packaged.unhidden front part rest nonempty start resolves
    refine ⟨name, place, there, ?_⟩
    rw [memberOf_of_resolves resolves, stands, inside]
    rfl
  · have member := (still_orSubmodule (P := P) (P.packageAt directory front) part resolves {}).1
    rw [submodule?, inside] at member
    exact ⟨_, place, there, member⟩

theorem exists_lookupExpr_eq (packaged : P.InPackages directory module)
    (found : P.resolver.findModule? module = some target)
    (imported : (P.source user).scope.boundTo top = .module top :: older)
    (first : (Text.splitAt '.' module).head? = some top)
    (ordinary : SpecialForm.isModule top = false) {expr : Expr} (spells : expr.Spells front)
    (start : front ++ rest = Text.splitAt '.' module) :
    ∃ name place, P.resolver.findIn? directory front = some place ∧
      (P.lookupExpr user expr).1 = .ok (.module name (some (P.resolver.tree.resolve place))) := by
  induction spells generalizing rest with
  | name pos id =>
    rw [← start] at first
    cases first
    obtain ⟨place, there⟩ := packaged.exists_findIn? found (List.cons_ne_nil _ _) start
    have component := packaged.components top (start ▸ List.mem_cons_self)
    have own := packaged.top top (by rw [← start]; rfl)
    have named : P.resolveImport? user (some top) 0 = some (P.resolver.tree.resolve place) := by
      simp [resolveImport?, component.named.1, own, there]
    exact ⟨top, place, there,
      lookupExpr_of_module imported (moduleNamed_of_ordinary ordinary named) rfl⟩
  | @member pos value parts attr base ih =>
    have start' : parts ++ attr :: rest = Text.splitAt '.' module := by
      rw [← start, List.append_assoc]
      rfl
    obtain ⟨name, place, there, stands⟩ := ih start'
    have package := packaged.packages parts _ base.ne_nil (List.cons_ne_nil attr rest) start'
    rw [Resolver.findIn?_of_package base.ne_nil package] at there
    cases there
    obtain ⟨name, place, there, member⟩ := packaged.exists_memberOf_eq found base.ne_nil start'
    exact ⟨name, place, there, (lookupExpr_member stands).trans (congrArg Except.ok member)⟩

end InPackages

/-! ### The spellings -/

theorem splitAt_of_special (special : SpecialForm.isModule module = true) :
    Text.splitAt '.' module = [module] ∨
      module = "collections.abc" ∧ Text.splitAt '.' module = ["collections", "abc"] := by
  have all : ∀ m ∈ SpecialForm.modules, Text.splitAt '.' m = [m] ∨
      m = "collections.abc" ∧ Text.splitAt '.' m = ["collections", "abc"] := by decide
  exact all module (List.contains_iff_mem.mp special)

theorem lookupExpr_eq_lookupName
    (imported : (P.source file).scope.boundTo name = .member (some module) 0 name :: older)
    (resolves : (P.taken file module name).Resolves)
    (ordinary : SpecialForm.isModule module = false)
    (found : P.resolveImport? file (some module) 0 = some target)
    (aside : P.Aside target file name older) {pos : Position} {value : Expr} {other : String}
    (base : (P.lookupExpr user value).1 = .ok (.module other (some target))) :
    (P.lookupExpr user (.member pos value name)).1 = .ok (P.lookupName file name).1 := by
  rw [lookupExpr_member base, memberOf_eq_taken imported resolves ordinary found aside,
    lookupName_eq_taken imported resolves]

theorem lookupExpr_eq_lookupName_of_special
    (imported : (P.source file).scope.boundTo name = .member (some module) 0 name :: older)
    (resolves : (P.taken file module name).Resolves) (special : SpecialForm.isModule module = true)
    {pos : Position} {value : Expr}
    (base : (P.lookupExpr user value).1 = .ok (.module module none)) :
    (P.lookupExpr user (.member pos value name)).1 = .ok (P.lookupName file name).1 := by
  rw [lookupExpr_member_of_special base, lookupName_eq_taken imported resolves,
    taken_of_special special]

theorem lookupExpr_of_special_module {older : List Bound} {pos : Position}
    (imported : (P.source user).scope.boundTo top = .module module :: older)
    (special : SpecialForm.isModule module = true) :
    (P.lookupExpr user (.name pos top)).1 = .ok (.module module none) := by
  have named : P.moduleNamed user module = .module module none := by
    simp [moduleNamed, special]
  exact lookupExpr_of_module imported named rfl

theorem importAs_agrees
    (imported : (P.source file).scope.boundTo name = .member (some module) 0 name :: older)
    (resolves : (P.taken file module name).Resolves)
    (told : SpecialForm.isModule module = true ∨
      ∃ target, P.resolveImport? file (some module) 0 = some target ∧
        P.Aside target file name older)
    {other : String} {others : List Bound} {pos start : Position}
    (bound : (P.source user).scope.boundTo other = .module module :: others) :
    (P.lookupExpr user (.member pos (.name start other) name)).1 =
      .ok (P.lookupName file name).1 := by
  by_cases special : SpecialForm.isModule module = true
  · exact lookupExpr_eq_lookupName_of_special imported resolves special
      (lookupExpr_of_special_module bound special)
  · obtain ⟨target, found, aside⟩ := told.resolve_left special
    have ordinary := Bool.eq_false_of_not_eq_true special
    exact lookupExpr_eq_lookupName imported resolves ordinary found aside
      (lookupExpr_of_module bound (moduleNamed_of_ordinary ordinary found) rfl)

theorem import_agrees
    (imported : (P.source file).scope.boundTo name = .member (some module) 0 name :: older)
    (resolves : (P.taken file module name).Resolves)
    (told : SpecialForm.isModule module = true ∨
      ∃ target, P.resolveImport? file (some module) 0 = some target ∧
        P.Aside target file name older) {others : List Bound} {expr : Expr}
    (first : (Text.splitAt '.' module).head? = some top)
    (bound : (P.source user).scope.boundTo top = .module top :: others)
    (spells : expr.Spells (Text.splitAt '.' module ++ [name]))
    (packaged : SpecialForm.isModule module = true ∨
      SpecialForm.isModule top = false ∧ ∃ directory, P.InPackages directory module) :
    (P.lookupExpr user expr).1 = .ok (P.lookupName file name).1 := by
  have longer : Text.splitAt '.' module ≠ [] := fun none => by simp [none] at first
  obtain ⟨pos, value, rfl, below⟩ := spells.of_concat longer
  by_cases special : SpecialForm.isModule module = true
  · refine lookupExpr_eq_lookupName_of_special imported resolves special ?_
    rcases splitAt_of_special special with single | ⟨rfl, double⟩
    · rw [single] at first below
      cases first
      obtain ⟨_, rfl⟩ := below.of_singleton
      exact lookupExpr_of_special_module bound special
    · rw [double] at first below
      cases first
      have double : value.Spells (["collections"] ++ ["abc"]) := below
      obtain ⟨_, value, rfl, inner⟩ := double.of_concat (List.cons_ne_nil _ _)
      obtain ⟨_, rfl⟩ := inner.of_singleton
      rw [lookupExpr_member_of_special (lookupExpr_of_special_module bound (by decide))]
      rfl
  · obtain ⟨target, found, aside⟩ := told.resolve_left special
    obtain ⟨ordinary, directory, packaged⟩ := packaged.resolve_left special
    obtain ⟨place, there, rfl⟩ := exists_findModule?_of_resolveImport? found
    obtain ⟨_, place', there', base⟩ := packaged.exists_lookupExpr_eq there bound first ordinary
      below (List.append_nil _)
    rw [← packaged.whole, there] at there'
    cases there'
    exact lookupExpr_eq_lookupName imported resolves (Bool.eq_false_of_not_eq_true special) found
      aside base

/-- The spellings of an import agree: a name that a from-import takes is what its spelling as a
member of the module stands for, by another name for the module or by the module's own name. -/
theorem importSpellings_agree
    (imported : (P.source file).scope.boundTo name = .member (some module) 0 name :: older)
    (resolves : (P.taken file module name).Resolves)
    (told : SpecialForm.isModule module = true ∨
      ∃ target, P.resolveImport? file (some module) 0 = some target ∧
        P.Aside target file name older) :
    (∀ user other others pos start,
      (P.source user).scope.boundTo other = .module module :: others →
        (P.lookupExpr user (.member pos (.name start other) name)).1 =
          .ok (P.lookupName file name).1) ∧
    ∀ user top others expr, (Text.splitAt '.' module).head? = some top →
      (P.source user).scope.boundTo top = .module top :: others →
      expr.Spells (Text.splitAt '.' module ++ [name]) →
      SpecialForm.isModule module = true ∨
        SpecialForm.isModule top = false ∧ (∃ directory, P.InPackages directory module) →
      (P.lookupExpr user expr).1 = .ok (P.lookupName file name).1 :=
  ⟨fun _ _ _ _ _ bound => importAs_agrees imported resolves told bound,
    fun _ _ _ _ first bound spells packaged =>
      import_agrees imported resolves told first bound spells packaged⟩

/-- A class below `models`, imported in three ways; `models` may be a package. -/
def threeWays (package : Bool) : Program :=
  let home : Path := ⟨.root, ["app"]⟩
  let entry := home / "functions.py"
  let user := home / "models" / "user.py"
  let init := home / "models" / "__init__.py"
  let lines := ["from models.user import User", "import models.user", "import models.user as p"]
  let packages : List SourceFile := if package then [.ofLines init []] else []
  let sources := .ofLines entry lines :: .ofLines user ["class User:", "    pass"] :: packages
  ⟨.make ⟨home, sources.map fun s => (s.path, .empty), []⟩ home [], entry, sources⟩

def memberSpellings : List Expr :=
  let start : Position := ⟨1, 0⟩
  [.member start (.name start "p") "User",
    .member start (.member start (.name start "models") "user") "User"]

theorem threeWays_imported (package : Bool) :
    ((threeWays package).source (threeWays package).entry).scope.boundTo "User" =
      [.member (some "models.user") 0 "User"] ∧
    ((threeWays package).source (threeWays package).entry).scope.boundTo "models" =
      [.module "models"] ∧
    ((threeWays package).source (threeWays package).entry).scope.boundTo "p" =
      [.module "models.user"] := by
  have tests : ∀ bound ∈ [("User", Bound.member (some "models.user") 0 "User"),
        ("models", .module "models"), ("p", .module "models.user")],
      (((threeWays package).source (threeWays package).entry).scope.boundTo bound.1).map
        Bound.imported? = [bound.2.imported?] := by
    cases package <;> decide +kernel
  simp only [List.forall_mem_cons] at tests
  obtain ⟨member, top, other, _⟩ := tests
  exact ⟨Scope.boundTo_eq_singleton rfl member, Scope.boundTo_eq_singleton rfl top,
    Scope.boundTo_eq_singleton rfl other⟩

theorem threeWays_inPackages : (threeWays true).InPackages ⟨.root, ["app"]⟩ "models.user" := by
  have parts : Text.splitAt '.' "models.user" = ["models", "user"] := by decide
  have lone {front rest : List String} (some : front ≠ []) (more : rest ≠ [])
      (whole : front ++ rest = ["models", "user"]) : front = ["models"] := by
    rcases List.append_eq_cons_iff.mp whole with ⟨none, _⟩ | ⟨tail, rfl, user⟩
    · exact absurd none some
    · rcases List.append_eq_cons_iff.mp user.symm with ⟨rfl, _⟩ | ⟨tail, rfl, nothing⟩
      · rfl
      · exact absurd (List.append_eq_nil_iff.mp nothing.symm).2 more
  have hidden : ¬ ((threeWays true).lookupName
      ((threeWays true).packageAt ⟨.root, ["app"]⟩ ["models"]) "user").1.Resolves := by
    decide +kernel
  refine ⟨⟨by decide, by decide⟩, ?_, by decide +kernel, ?_, ?_, ?_⟩
  · rw [parts]
    intro part member
    rcases List.mem_pair.mp member with rfl | rfl <;>
      exact ⟨by decide, by decide, by decide⟩
  · rw [parts]
    rintro first ⟨⟩
    decide +kernel
  · rw [parts]
    intro front rest some more whole
    cases lone some more whole
    decide +kernel
  · rw [parts]
    intro front part rest some whole resolves
    cases lone some (List.cons_ne_nil _ _) whole
    cases whole
    exact absurd resolves hidden

/-- All three spellings stand for the class, where `models` is a package. -/
theorem threeWays_agree :
    ((threeWays true).lookupName (threeWays true).entry "User").1.home? =
        some ⟨.root, ["app", "models", "user.py"]⟩ ∧
      ∀ expr ∈ memberSpellings, ((threeWays true).lookupExpr (threeWays true).entry expr).1 =
        .ok ((threeWays true).lookupName (threeWays true).entry "User").1 := by
  obtain ⟨member, top, other⟩ := threeWays_imported true
  have parts : Text.splitAt '.' "models.user" = ["models", "user"] := by decide
  have outside : (threeWays true).resolveSubmodule? ⟨.root, ["app", "models", "user.py"]⟩ "User" =
      none := by decide +kernel
  obtain ⟨named, dotted⟩ := importSpellings_agree member (by decide +kernel)
    (.inr ⟨_, by decide +kernel, .inr (.inr ⟨rfl, outside⟩)⟩)
  refine ⟨by decide +kernel, ?_⟩
  rintro expr member
  rcases List.mem_pair.mp member with rfl | rfl
  · exact named _ _ _ _ _ other
  · refine dotted _ "models" _ _ (by rw [parts]; rfl) top ?_
      (.inr ⟨by decide, _, threeWays_inPackages⟩)
    have inner : (Expr.member ⟨1, 0⟩ (.name ⟨1, 0⟩ "models") "user").Spells
        (["models"] ++ ["user"]) := .member _ _ (.name _ _)
    rw [parts]
    exact .member _ _ inner

/-- Without `__init__.py` the class still can be taken from its module, and the other name of that
module works too; the dotted name does not. -/
theorem threeWays_disagree :
    ((threeWays false).source (threeWays false).entry).scope.boundTo "User" =
        [.member (some "models.user") 0 "User"] ∧
      ((threeWays false).source (threeWays false).entry).scope.boundTo "models" =
        [.module "models"] ∧
      ((threeWays false).resolver.findModule? "models.user").isSome ∧
      ((threeWays false).taken (threeWays false).entry "models.user" "User").Resolves ∧
      ((threeWays false).lookupName (threeWays false).entry "User").1.Resolves ∧
      memberSpellings.map (fun expr =>
        ((threeWays false).lookupExpr (threeWays false).entry expr).1.toOption.bind
          Binding.unresolved?) =
        [none, some "Cannot find module 'models'"] := by
  obtain ⟨member, top, _⟩ := threeWays_imported false
  refine ⟨member, top, ?_⟩
  decide +kernel

end Program

end HintSchema

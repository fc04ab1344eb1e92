import HintSchema.Proofs.Modules.Comparison

/-!
What a search finds. Names are forwarded from module to module, in circles or not; a search visits
all that a name is forwarded to, and fails just if none of that is defined. It never comes to its
limit (`lookupName_fails_iff`).
-/

namespace HintSchema

namespace Bound

/-- In this file, a name that is bound so is defined. -/
inductive Defines (P : Program) (file : Path) : Bound → Prop
  | classDef (definition : ClassDef Statement) : Defines P file (.classDef definition)
  | alias (value : Expr) : Defines P file (.alias value)
  | typeVariable : Defines P file .typeVariable
  | recordCall (call : RecordCall) : Defines P file (.recordCall call)
  | value : Defines P file .value
  | specialModule {module : String} (special : SpecialForm.isModule module) :
      Defines P file (.module module)
  | module {module : String} {target : Path}
      (found : P.resolveImport? file (some module) 0 = some target) :
      Defines P file (.module module)
  | specialMember {module : Option String} {level : Nat} {source special : String}
      (named : Program.specialSource? module level = some special) :
      Defines P file (.member module level source)
  | submodule {module : Option String} {level : Nat} {source : String} {target path : Path}
      (ordinary : Program.specialSource? module level = none)
      (found : P.resolveImport? file module level = some target)
      (inside : P.resolveSubmodule? target source = some path) :
      Defines P file (.member module level source)

/-- In this file, a name that is bound so is forwarded to a name of another module. -/
inductive Forwards (P : Program) (file : Path) : Bound → NameKey → Prop
  | member {module : Option String} {level : Nat} {source : String} {target : Path}
      (ordinary : Program.specialSource? module level = none)
      (found : P.resolveImport? file module level = some target)
      (outside : P.resolveSubmodule? target source = none) :
      Forwards P file (.member module level source) ⟨target, source⟩

end Bound

theorem Binding.not_resolves_iff {b : Binding} :
    ¬ b.Resolves ↔ ∃ message, b = .unresolved message := by
  cases b <;> simp [Binding.Resolves, Binding.unresolved?]

namespace Program

/-- The name is defined where it stands. -/
inductive Defines (P : Program) : NameKey → Prop
  | bound {file : Path} {name : String} {bound : Bound}
      (member : bound ∈ (P.source file).scope.boundTo name) (defines : bound.Defines P file) :
      Defines P ⟨file, name⟩
  | star {file : Path} {name : String} {module : Option String} {level : Nat} {special : String}
      (unbound : (P.source file).scope.boundTo name = [])
      (star : (module, level) ∈ (P.source file).scope.stars)
      (named : specialSource? module level = some special) : Defines P ⟨file, name⟩
  | builtin {file : Path} {name : String} (unbound : (P.source file).scope.boundTo name = [])
      (builtin : SpecialForm.isBuiltin name) : Defines P ⟨file, name⟩

/-- The name is forwarded to the other one: it is imported from there, or it is not bound where it
stands and may come with a star import. -/
inductive Forwards (P : Program) : NameKey → NameKey → Prop
  | bound {file : Path} {name : String} {bound : Bound} {next : NameKey}
      (member : bound ∈ (P.source file).scope.boundTo name)
      (forwards : bound.Forwards P file next) : Forwards P ⟨file, name⟩ next
  | star {file target : Path} {name : String} {module : Option String} {level : Nat}
      (unbound : (P.source file).scope.boundTo name = [])
      (star : (module, level) ∈ (P.source file).scope.stars)
      (ordinary : specialSource? module level = none)
      (found : P.resolveImport? file module level = some target) :
      Forwards P ⟨file, name⟩ ⟨target, name⟩

/-- The name is forwarded to one that is defined where it stands. -/
def Arrives (P : Program) (key : NameKey) : Prop :=
  ∃ last, Relation.ReflTransGen P.Forwards key last ∧ P.Defines last

variable {P : Program} {file : Path} {name : String} {names : List String} {limit : Nat}
  {recur recur' : Path → String → SearchM Binding} {key next : NameKey}
  {early between late : List NameKey}

theorem Forwards.arrives (forwards : P.Forwards key next) (arrives : P.Arrives next) :
    P.Arrives key := by
  obtain ⟨last, path, defines⟩ := arrives
  exact ⟨last, .head forwards path, defines⟩

theorem Defines.arrives (defines : P.Defines key) : P.Arrives key := ⟨key, .refl, defines⟩

theorem Forwards.refers (forwards : P.Forwards key next) : P.Refers key next := by
  cases forwards with
  | bound member forwards =>
    cases forwards with
    | member ordinary found => exact .member member ordinary found
  | star _ star ordinary found => exact .star star ordinary found

/-! ### What a failed search leaves behind -/

/-- From some visited names to more of them: those visited in between are not defined, and all that
they are forwarded to has been visited. -/
structure Spent (P : Program) (before after : List NameKey) : Prop where
  kept : before ⊆ after
  undefined : ∀ key ∈ after, key ∉ before → ¬ P.Defines key
  closed : ∀ key ∈ after, key ∉ before → ∀ next, P.Forwards key next → next ∈ after

namespace Spent

theorem refl (visited : List NameKey) : P.Spent visited visited where
  kept := List.Subset.refl _
  undefined _ old new := absurd old new
  closed _ old new := absurd old new

theorem trans (first : P.Spent early between) (second : P.Spent between late) :
    P.Spent early late where
  kept := List.Subset.trans first.kept second.kept
  undefined key visited new := by
    by_cases soon : key ∈ between
    · exact first.undefined key soon new
    · exact second.undefined key visited soon
  closed key visited new next forwards := by
    by_cases soon : key ∈ between
    · exact second.kept (first.closed key soon new next forwards)
    · exact second.closed key visited soon next forwards

theorem visit (spent : P.Spent (key :: early) late) (undefined : ¬ P.Defines key)
    (forwarded : ∀ next, P.Forwards key next → next ∈ late) : P.Spent early late where
  kept := List.Subset.trans (List.subset_cons_self _ _) spent.kept
  undefined other visited new := by
    by_cases itself : other = key
    · exact itself ▸ undefined
    · exact spent.undefined other visited (by simp [itself, new])
  closed other visited new := by
    by_cases itself : other = key
    · exact itself ▸ forwarded
    · exact spent.closed other visited (by simp [itself, new])

theorem not_arrives (spent : P.Spent [] late) (visited : key ∈ late) : ¬ P.Arrives key := by
  rintro ⟨last, path, defines⟩
  have arrived : last ∈ late := by
    clear defines
    induction path with
    | refl => exact visited
    | tail _ forwards ih => exact spent.closed _ ih List.not_mem_nil _ forwards
  exact spent.undefined last arrived List.not_mem_nil defines

end Spent

/-- Where a search has room for these names, it comes to a hit because of `Found` or of a name that
is asked for, or it misses; then all that is asked for has been visited in vain. -/
def Explores (P : Program) (names : List String) (limit : Nat) {α : Type} (Hit Miss : α → Prop)
    (Found : Prop) (Asked : NameKey → Prop) (m : SearchM α) : Prop :=
  ∀ s, P.room names s.visited < limit →
    Hit (m.run s).1 ∧ (Found ∨ ∃ key, Asked key ∧ P.Arrives key) ∨
      Miss (m.run s).1 ∧ ¬ Found ∧ P.Spent s.visited (m.run s).2.visited ∧
        ∀ key, Asked key → key ∈ (m.run s).2.visited

namespace Explores

variable {α β : Type} {Hit Miss : α → Prop} {HitB MissB : β → Prop} {Found Found' : Prop}
  {Asked Asked' : NameKey → Prop} {m : SearchM α} {next : α → SearchM β} {a : α}

theorem hit (still : Still m a) (good : Hit a) (found : Found) :
    P.Explores names limit Hit Miss Found Asked m := by
  intro s _
  rw [(still s).1]
  exact .inl ⟨good, .inl found⟩

theorem miss (still : Still m a) (bad : Miss a) (unfound : ¬ Found) (idle : ∀ key, ¬ Asked key) :
    P.Explores names limit Hit Miss Found Asked m := by
  intro s _
  rw [(still s).1, (still s).2]
  exact .inr ⟨bad, unfound, .refl _, fun key asked => absurd asked (idle key)⟩

theorem mono {room : Nat} (explores : P.Explores names limit Hit Miss Found Asked m)
    (enough : room ≤ limit) : P.Explores names room Hit Miss Found Asked m :=
  fun s less => explores s (less.trans_le enough)

theorem congr (explores : P.Explores names limit Hit Miss Found Asked m) (found : Found ↔ Found')
    (asked : ∀ key, Asked key ↔ Asked' key) :
    P.Explores names limit Hit Miss Found' Asked' m := by
  obtain rfl := propext found
  obtain rfl : Asked = Asked' := funext fun key => propext (asked key)
  exact explores

theorem after (still : Still m a)
    (later : P.Explores names limit HitB MissB Found Asked (next a)) :
    P.Explores names limit HitB MissB Found Asked (m >>= next) := by
  intro s room
  obtain ⟨same, kept⟩ := still s
  rw [run_bind_of_eq same, ← kept]
  exact later _ (kept.symm ▸ room)

theorem bind (first : P.Explores names limit Hit Miss Found Asked m)
    (hit : ∀ a, Hit a → ∃ b, Still (next a) b ∧ HitB b)
    (miss : ∀ a, Miss a → P.Explores names limit HitB MissB Found' Asked' (next a)) :
    P.Explores names limit HitB MissB (Found ∨ Found') (fun key => Asked key ∨ Asked' key)
      (m >>= next) := by
  intro s room
  rw [run_bind_of_eq rfl]
  rcases first s room with ⟨good, found⟩ | ⟨bad, unfound, spent, visited⟩
  · obtain ⟨b, still, good⟩ := hit _ good
    rw [(still _).1]
    refine .inl ⟨good, ?_⟩
    rcases found with found | ⟨key, asked, arrives⟩
    · exact .inl (.inl found)
    · exact .inr ⟨key, .inl asked, arrives⟩
  · rcases miss _ bad _ ((room_anti spent.kept).trans_lt room) with
      ⟨good, found⟩ | ⟨bad', unfound', spent', visited'⟩
    · refine .inl ⟨good, ?_⟩
      rcases found with found | ⟨key, asked, arrives⟩
      · exact .inl (.inr found)
      · exact .inr ⟨key, .inr asked, arrives⟩
    · refine .inr ⟨bad', not_or.mpr ⟨unfound, unfound'⟩, spent.trans spent', fun key asked => ?_⟩
      exact asked.elim (fun asked => spent'.kept (visited key asked)) (visited' key)

theorem bind_last (first : P.Explores names limit Hit Miss Found Asked m)
    (hit : ∀ a, Hit a → ∃ b, Still (next a) b ∧ HitB b)
    (miss : ∀ a, Miss a → ∃ b, Still (next a) b ∧ MissB b) :
    P.Explores names limit HitB MissB Found Asked (m >>= next) := by
  have ended (a : α) (bad : Miss a) :
      P.Explores names limit HitB MissB False (fun _ => False) (next a) := by
    obtain ⟨b, still, bad⟩ := miss a bad
    exact .miss still bad id fun _ => id
  exact (first.bind hit ended).congr (or_iff_left id) fun _ => or_iff_left id

end Explores

abbrev ExploresBinding (P : Program) (names : List String) (limit : Nat) :
    Prop → (NameKey → Prop) → SearchM Binding → Prop :=
  P.Explores names limit Binding.Resolves fun b => ¬ b.Resolves

def OneFails (found : Option Binding) : Prop := ∃ b, found = some b ∧ ¬ b.Resolves

theorem resolves_memberOfSpecial (module name : String) :
    (memberOfSpecial module name).Resolves := by
  unfold memberOfSpecial
  dsimp only
  split <;> rfl

theorem explores_member {module : Option String} {level : Nat} {source : String} {target : Path}
    (ordinary : specialSource? module level = none)
    (found : P.resolveImport? file module level = some target)
    (below : P.ExploresBinding names limit False (· = ⟨target, source⟩) (recur target source)) :
    P.ExploresBinding names limit ((Bound.member module level source).Defines P file)
      ((Bound.member module level source).Forwards P file)
      (recur target source >>= P.orSubmodule target source) := by
  cases inside : P.resolveSubmodule? target source with
  | some path =>
    refine fun s _ => .inl ⟨?_, .inl (.submodule ordinary found inside)⟩
    rw [run_bind_of_eq rfl]
    by_cases resolves : (((recur target source).run s).1).Resolves
    · rw [(still_orSubmodule_of_resolves target source resolves _).1]
      exact resolves
    · rw [(still_orSubmodule target source resolves _).1, submodule?, inside]
      rfl
  | none =>
    have outside : P.submodule? target source = none := by rw [submodule?, inside]; rfl
    have searched : P.ExploresBinding names limit False (· = ⟨target, source⟩)
        (recur target source >>= P.orSubmodule target source) := by
      refine below.bind_last (fun b resolves => ?_) fun b fails => ?_
      · exact ⟨b, still_orSubmodule_of_resolves target source resolves, resolves⟩
      · have still := still_orSubmodule (P := P) target source fails
        rw [outside] at still
        exact ⟨b, still, fails⟩
    refine searched.congr ⟨False.elim, fun defines => ?_⟩ fun key => ⟨?_, fun forwards => ?_⟩
    · cases defines with
      | specialMember named => cases named.symm.trans ordinary
      | submodule _ found' inside' =>
        cases found.symm.trans found'
        cases inside.symm.trans inside'
    · rintro rfl
      exact .member ordinary found inside
    · cases forwards with
      | member _ found' =>
        cases found.symm.trans found'
        rfl

theorem explores_importedModule (module : String) :
    P.ExploresBinding names limit ((Bound.module module).Defines P file)
      ((Bound.module module).Forwards P file) (P.importedModule file module) := by
  unfold importedModule
  split
  · rename_i special
    exact .hit (.pure _) rfl (.specialModule special)
  · rename_i ordinary
    refine .after (.openImport P file (some module) 0) ?_
    cases found : P.resolveImport? file (some module) 0 with
    | some target => exact .hit (.pure _) rfl (.module found)
    | none =>
      refine .miss (.pure _) Bool.false_ne_true (fun defines => ?_) nofun
      cases defines with
      | specialModule special => exact ordinary special
      | module found' => cases found.symm.trans found'

theorem explores_resolveBound {bound : Bound}
    (below : ∀ module level source target, bound = .member module level source →
      specialSource? module level = none → P.resolveImport? file module level = some target →
        P.ExploresBinding names limit False (· = ⟨target, source⟩) (recur target source)) :
    P.ExploresBinding names limit (bound.Defines P file) (bound.Forwards P file)
      (P.resolveBound recur file name bound) := by
  match bound with
  | .classDef definition => exact .hit (.pure _) rfl (.classDef definition)
  | .alias value => exact .hit (.pure _) rfl (.alias value)
  | .typeVariable => exact .hit (.pure _) rfl .typeVariable
  | .recordCall call => exact .hit (.pure _) rfl (.recordCall call)
  | .value => exact .hit (.pure _) rfl .value
  | .module other => exact explores_importedModule other
  | .member module level source =>
    cases ordinary : specialSource? module level with
    | some special =>
      simp only [resolveBound, ordinary]
      exact .hit (.pure _) (resolves_memberOfSpecial special source) (.specialMember ordinary)
    | none =>
      simp only [resolveBound, ordinary]
      refine .after (.openImport P file module level) ?_
      cases found : P.resolveImport? file module level with
      | some target => exact explores_member ordinary found (below _ _ _ _ rfl ordinary found)
      | none =>
        refine .miss (.pure _) Bool.false_ne_true (fun defines => ?_) fun key forwards => ?_
        · cases defines with
          | specialMember named => cases named.symm.trans ordinary
          | submodule _ found' => cases found.symm.trans found'
        · cases forwards with
          | member _ found' => cases found.symm.trans found'

theorem explores_firstResolved {bounds : List Bound}
    (below : ∀ module level source target, .member module level source ∈ bounds →
      specialSource? module level = none → P.resolveImport? file module level = some target →
        P.ExploresBinding names limit False (· = ⟨target, source⟩) (recur target source)) :
    P.Explores names limit SomeResolves (if bounds = [] then (· = none) else OneFails)
      (∃ bound ∈ bounds, bound.Defines P file)
      (fun next => ∃ bound ∈ bounds, bound.Forwards P file next)
      (P.firstResolved recur file name bounds) := by
  induction bounds with
  | nil => exact .miss (.pure _) rfl (by simp) (by simp)
  | cons bound rest ih =>
    rw [if_neg (List.cons_ne_nil _ _)]
    have here : P.ExploresBinding names limit (bound.Defines P file) (bound.Forwards P file)
        (P.resolveBound recur file name bound) :=
      explores_resolveBound fun module level source target same =>
        below module level source target (same ▸ List.mem_cons_self)
    have there := ih fun module level source target member =>
      below module level source target (List.mem_cons_of_mem _ member)
    unfold firstResolved
    suffices both : P.Explores names limit SomeResolves OneFails
        (bound.Defines P file ∨ ∃ other ∈ rest, other.Defines P file)
        (fun next => bound.Forwards P file next ∨ ∃ other ∈ rest, other.Forwards P file next) _ from
      both.congr (by simp) fun next => by simp
    refine here.bind ?_ fun b fails => ?_
    · intro b resolves
      rw [if_pos resolves]
      exact ⟨_, .pure _, b, rfl, resolves⟩
    · rw [if_neg fails]
      refine there.bind_last ?_ ?_
      · rintro _ ⟨later, rfl, resolves⟩
        exact ⟨_, .pure _, later, by rw [if_pos resolves], resolves⟩
      · intro found missed
        split at missed
        · obtain rfl : found = none := missed
          exact ⟨_, .pure _, b, rfl, fails⟩
        · obtain ⟨later, rfl, unresolved⟩ := missed
          exact ⟨_, .pure _, b, by rw [if_neg unresolved], fails⟩

theorem explores_throughStars {stars : List (Option String × Nat)}
    (below : ∀ module level target, (module, level) ∈ stars → specialSource? module level = none →
      P.resolveImport? file module level = some target →
        P.ExploresBinding names limit False (· = ⟨target, name⟩) (recur target name)) :
    P.Explores names limit SomeResolves (· = none)
      (∃ star ∈ stars, ∃ special, specialSource? star.1 star.2 = some special)
      (fun next => ∃ star ∈ stars, specialSource? star.1 star.2 = none ∧
        ∃ target, P.resolveImport? file star.1 star.2 = some target ∧ next = ⟨target, name⟩)
      (P.throughStars recur file name stars) := by
  induction stars with
  | nil => exact .miss (.pure _) rfl (by simp) (by simp)
  | cons star rest ih =>
    obtain ⟨module, level⟩ := star
    have there := ih fun module level target member =>
      below module level target (List.mem_cons_of_mem _ member)
    cases ordinary : specialSource? module level with
    | some special =>
      simp only [throughStars, ordinary]
      exact .hit (.pure _) ⟨_, rfl, rfl⟩ ⟨(module, level), List.mem_cons_self, special, ordinary⟩
    | none =>
      simp only [throughStars, ordinary]
      refine .after (.openImport P file module level) ?_
      cases found : P.resolveImport? file module level with
      | none => exact there.congr (by simp [ordinary]) fun next => by simp [ordinary, found]
      | some target =>
        have here := below module level target List.mem_cons_self ordinary found
        have both : P.Explores names limit SomeResolves (· = none) _ _
            (recur target name >>= fun found =>
              if found.Resolves then pure (some found) else P.throughStars recur file name rest) :=
          here.bind
            (fun b resolves => ⟨some b, by rw [if_pos resolves]; exact .pure _, b, rfl, resolves⟩)
            fun b fails => by rw [if_neg fails]; exact there
        exact both.congr (by simp [ordinary]) fun next => by simp [ordinary, found]

theorem defines_iff_of_bound {bound : Bound} {rest : List Bound}
    (bounds : (P.source file).scope.boundTo name = bound :: rest) :
    P.Defines ⟨file, name⟩ ↔ ∃ other ∈ bound :: rest, other.Defines P file := by
  constructor
  · intro defines
    cases defines with
    | bound member defines => exact ⟨_, bounds ▸ member, defines⟩
    | star unbound => cases bounds.symm.trans unbound
    | builtin unbound => cases bounds.symm.trans unbound
  · rintro ⟨other, member, defines⟩
    exact .bound (bounds ▸ member) defines

theorem forwards_iff_of_bound {bound : Bound} {rest : List Bound}
    (bounds : (P.source file).scope.boundTo name = bound :: rest) :
    P.Forwards ⟨file, name⟩ next ↔ ∃ other ∈ bound :: rest, other.Forwards P file next := by
  constructor
  · intro forwards
    cases forwards with
    | bound member forwards => exact ⟨_, bounds ▸ member, forwards⟩
    | star unbound => cases bounds.symm.trans unbound
  · rintro ⟨other, member, forwards⟩
    exact .bound (bounds ▸ member) forwards

theorem defines_iff_of_unbound (unbound : (P.source file).scope.boundTo name = []) :
    P.Defines ⟨file, name⟩ ↔
      (∃ star ∈ (P.source file).scope.stars, ∃ special,
        specialSource? star.1 star.2 = some special) ∨ SpecialForm.isBuiltin name := by
  constructor
  · intro defines
    cases defines with
    | bound member => simp [unbound] at member
    | star _ star named => exact .inl ⟨_, star, _, named⟩
    | builtin _ builtin => exact .inr builtin
  · rintro (⟨⟨module, level⟩, star, special, named⟩ | builtin)
    · exact .star unbound star named
    · exact .builtin unbound builtin

theorem forwards_iff_of_unbound (unbound : (P.source file).scope.boundTo name = []) :
    P.Forwards ⟨file, name⟩ next ↔
      ∃ star ∈ (P.source file).scope.stars, specialSource? star.1 star.2 = none ∧
        ∃ target, P.resolveImport? file star.1 star.2 = some target ∧ next = ⟨target, name⟩ := by
  constructor
  · intro forwards
    cases forwards with
    | bound member => simp [unbound] at member
    | star _ star ordinary found => exact ⟨_, star, ordinary, _, found, rfl⟩
  · rintro ⟨⟨module, level⟩, star, ordinary, target, found, rfl⟩
    exact .star unbound star ordinary found

theorem explores_lookIn
    (below : ∀ next, P.Refers ⟨file, name⟩ next →
      P.ExploresBinding names limit False (· = next) (recur next.file next.name)) :
    P.ExploresBinding names limit (P.Defines ⟨file, name⟩) (P.Forwards ⟨file, name⟩)
      (P.lookIn recur file name) := by
  have own : P.Explores names limit SomeResolves _ _ _
      (P.firstResolved recur file name ((P.source file).scope.boundTo name)) :=
    explores_firstResolved fun module level source target bound ordinary found =>
      below ⟨target, source⟩ (.member bound ordinary found)
  have stars : P.Explores names limit SomeResolves (· = none) _ _
      (P.throughStars recur file name (P.source file).scope.stars) :=
    explores_throughStars fun module level target star ordinary found =>
      below ⟨target, name⟩ (.star star ordinary found)
  unfold lookIn
  cases bounds : (P.source file).scope.boundTo name with
  | cons bound rest =>
    rw [bounds, if_neg (List.cons_ne_nil _ _)] at own
    refine (own.bind_last ?_ ?_).congr (defines_iff_of_bound bounds).symm fun next =>
      (forwards_iff_of_bound bounds).symm
    · rintro _ ⟨b, rfl, resolves⟩
      exact ⟨b, .pure _, resolves⟩
    · rintro _ ⟨b, rfl, fails⟩
      exact ⟨b, .pure _, fails⟩
  | nil =>
    refine .after (.pure none) ?_
    have last : P.ExploresBinding names limit (SpecialForm.isBuiltin name) (fun _ => False)
        (if SpecialForm.isBuiltin name then return .special ("builtins." ++ name)
          else return .unresolved (Binding.cannotFindName name)) := by
      split
      · rename_i builtin
        exact .hit (.pure _) rfl builtin
      · rename_i other
        exact .miss (.pure _) Bool.false_ne_true other fun _ => id
    refine (stars.bind ?_ ?_).congr (defines_iff_of_unbound bounds).symm fun next =>
      (or_iff_left id).trans (forwards_iff_of_unbound bounds).symm
    · rintro _ ⟨b, rfl, resolves⟩
      exact ⟨b, .pure _, resolves⟩
    · rintro _ rfl
      exact last

theorem explores_search (closed : P.takenNames ⊆ names) (named : name ∈ names) :
    P.ExploresBinding names limit False (· = ⟨file, name⟩) (P.search limit file name) := by
  induction limit generalizing file name with
  | zero => exact fun s room => absurd room (Nat.not_lt_zero _)
  | succ limit ih =>
    intro s room
    by_cases visited : ⟨file, name⟩ ∈ s.visited
    · rw [run_search_of_visited visited]
      refine .inr ⟨Bool.false_ne_true, id, .refl _, ?_⟩
      rintro _ rfl
      exact visited
    · rw [run_search_of_not_visited visited]
      -- A name that refers to nothing takes no room, but then nothing is searched for below it.
      have below (next : NameKey) (refers : P.Refers ⟨file, name⟩ next) :
          P.ExploresBinding names (P.room names (⟨file, name⟩ :: s.visited) + 1) False (· = next)
            (P.search limit next.file next.name) := by
        have less := room_cons_lt (refers.place named) visited
        exact (ih (refers.named closed named)).mono (less.trans_le (Nat.le_of_lt_succ room))
      rcases explores_lookIn below { s with visited := ⟨file, name⟩ :: s.visited }
          (Nat.lt_succ_self _) with
        ⟨resolves, defines | ⟨next, forwards, arrives⟩⟩ | ⟨fails, undefined, spent, forwarded⟩
      · exact .inl ⟨resolves, .inr ⟨_, rfl, defines.arrives⟩⟩
      · exact .inl ⟨resolves, .inr ⟨_, rfl, forwards.arrives arrives⟩⟩
      · refine .inr ⟨fails, id, spent.visit undefined forwarded, ?_⟩
        rintro _ rfl
        exact spent.kept List.mem_cons_self

/-! ### Enough room -/

/-- Wherever these names have been visited, both searches come to the same, and the names still have
been visited then. -/
def SameFrom {α : Type} (visited : List NameKey) (m m' : SearchM α) : Prop :=
  ∀ s, visited ⊆ s.visited → m.run s = m'.run s ∧ visited ⊆ (m.run s).2.visited

namespace SameFrom

variable {α β : Type} {visited : List NameKey} {m m' : SearchM α} {next next' : α → SearchM β}

theorem of_still {a : α} (still : Still m a) : SameFrom visited m m :=
  fun s grown => ⟨rfl, (still s).2 ▸ grown⟩

theorem bind (first : SameFrom visited m m') (later : ∀ a, SameFrom visited (next a) (next' a)) :
    SameFrom visited (m >>= next) (m' >>= next') := by
  intro s grown
  obtain ⟨same, kept⟩ := first s grown
  rw [run_bind_of_eq rfl, run_bind_of_eq rfl, ← same]
  exact later _ _ kept

end SameFrom

variable {visited : List NameKey}

theorem sameFrom_orSubmodule (target : Path) (name : String) (found : Binding) :
    SameFrom visited (P.orSubmodule target name found) (P.orSubmodule target name found) := by
  by_cases resolves : found.Resolves
  · exact .of_still (still_orSubmodule_of_resolves target name resolves)
  · exact .of_still (still_orSubmodule target name resolves)

theorem sameFrom_resolveBound {bound : Bound}
    (below : ∀ module level source target, bound = .member module level source →
      specialSource? module level = none → P.resolveImport? file module level = some target →
        SameFrom visited (recur target source) (recur' target source)) :
    SameFrom visited (P.resolveBound recur file name bound)
      (P.resolveBound recur' file name bound) := by
  cases bound with
  | member module level source =>
    cases ordinary : specialSource? module level with
    | some special =>
      simp only [resolveBound, ordinary]
      exact .of_still (.pure _)
    | none =>
      simp only [resolveBound, ordinary]
      have opens := Still.openImport P file module level
      intro s grown
      rw [run_bind_of_eq (opens s).1, run_bind_of_eq (opens s).1]
      cases found : P.resolveImport? file module level with
      | none => exact ⟨rfl, (opens s).2 ▸ grown⟩
      | some target =>
        refine (below _ _ _ _ rfl ordinary found).bind (fun b => ?_) _ ((opens s).2 ▸ grown)
        exact sameFrom_orSubmodule target source b
  | module other => exact .of_still (P.still_importedModule file other)
  | _ => exact .of_still (.pure _)

theorem sameFrom_firstResolved {bounds : List Bound}
    (below : ∀ module level source target, .member module level source ∈ bounds →
      specialSource? module level = none → P.resolveImport? file module level = some target →
        SameFrom visited (recur target source) (recur' target source)) :
    SameFrom visited (P.firstResolved recur file name bounds)
      (P.firstResolved recur' file name bounds) := by
  induction bounds with
  | nil => exact .of_still (.pure _)
  | cons bound rest ih =>
    have there := ih fun module level source target member =>
      below module level source target (List.mem_cons_of_mem _ member)
    unfold firstResolved
    refine (sameFrom_resolveBound fun module level source target same =>
      below module level source target (same ▸ List.mem_cons_self)).bind fun found => ?_
    split
    · exact .of_still (.pure _)
    · refine there.bind fun later => ?_
      cases later <;> exact .of_still (.pure _)

theorem sameFrom_throughStars {stars : List (Option String × Nat)}
    (below : ∀ module level target, (module, level) ∈ stars → specialSource? module level = none →
      P.resolveImport? file module level = some target →
        SameFrom visited (recur target name) (recur' target name)) :
    SameFrom visited (P.throughStars recur file name stars)
      (P.throughStars recur' file name stars) := by
  induction stars with
  | nil => exact .of_still (.pure _)
  | cons star rest ih =>
    obtain ⟨module, level⟩ := star
    have there := ih fun module level target member =>
      below module level target (List.mem_cons_of_mem _ member)
    cases ordinary : specialSource? module level with
    | some special =>
      simp only [throughStars, ordinary]
      exact .of_still (.pure _)
    | none =>
      simp only [throughStars, ordinary]
      have opens := Still.openImport P file module level
      intro s grown
      rw [run_bind_of_eq (opens s).1, run_bind_of_eq (opens s).1]
      cases found : P.resolveImport? file module level with
      | none => exact there _ ((opens s).2 ▸ grown)
      | some target =>
        refine (below module level target List.mem_cons_self ordinary found).bind (fun b => ?_) _
          ((opens s).2 ▸ grown)
        split
        · exact .of_still (.pure _)
        · exact there

theorem sameFrom_lookIn (below : ∀ next, P.Refers ⟨file, name⟩ next →
      SameFrom visited (recur next.file next.name) (recur' next.file next.name)) :
    SameFrom visited (P.lookIn recur file name) (P.lookIn recur' file name) := by
  unfold lookIn
  refine (sameFrom_firstResolved fun module level source target bound ordinary found =>
    below ⟨target, source⟩ (.member bound ordinary found)).bind fun found => ?_
  cases found with
  | some found => exact .of_still (.pure _)
  | none =>
    refine (sameFrom_throughStars fun module level target star ordinary found =>
      below ⟨target, name⟩ (.star star ordinary found)).bind fun found => ?_
    cases found with
    | some found => exact .of_still (.pure _)
    | none =>
      dsimp only
      split <;> exact .of_still (.pure _)

theorem sameFrom_search (closed : P.takenNames ⊆ names) {more : Nat} (named : name ∈ names)
    (room : P.room names visited < limit) (enough : P.room names visited < more) :
    SameFrom visited (P.search limit file name) (P.search more file name) := by
  induction limit generalizing file name visited more with
  | zero => exact absurd room (Nat.not_lt_zero _)
  | succ limit ih =>
    obtain ⟨more, rfl⟩ := Nat.exists_eq_succ_of_ne_zero (Nat.ne_zero_of_lt enough)
    intro s grown
    by_cases old : ⟨file, name⟩ ∈ s.visited
    · rw [run_search_of_visited old, run_search_of_visited old]
      exact ⟨rfl, grown⟩
    · rw [run_search_of_not_visited old, run_search_of_not_visited old]
      have agree : SameFrom (⟨file, name⟩ :: s.visited) (P.lookIn (P.search limit) file name)
          (P.lookIn (P.search more) file name) := by
        refine sameFrom_lookIn fun next refers => ?_
        have less := (room_cons_lt (refers.place named) old).trans_le (room_anti grown)
        exact ih (refers.named closed named) (less.trans_le (Nat.le_of_lt_succ room))
          (less.trans_le (Nat.le_of_lt_succ enough))
      obtain ⟨same, kept⟩ :=
        agree { s with visited := ⟨file, name⟩ :: s.visited } (List.Subset.refl _)
      exact ⟨same, List.Subset.trans grown (List.Subset.trans (List.subset_cons_self _ _) kept)⟩

/-- Whatever circles the imports of a program run in, looking up a name comes to an end: a larger
limit changes nothing. It fails just if no name that is defined can be reached from the name. -/
theorem lookupName_fails_iff (P : Program) (file : Path) (name : String) :
    (∀ limit, P.searchLimit name ≤ limit →
      (P.search limit file name).run {} = (P.search (P.searchLimit name) file name).run {}) ∧
    ((∃ message, (P.lookupName file name).1 = .unresolved message) ↔
      ¬ P.Arrives ⟨file, name⟩) := by
  have closed := P.takenNames_subset name
  have named := P.mem_reachableNames name
  refine ⟨fun limit larger => ?_, ?_⟩
  · have room := P.room_lt_searchLimit name []
    exact (sameFrom_search closed named (room.trans_le larger) room {} (List.Subset.refl _)).1
  · rw [← Binding.not_resolves_iff, not_iff_not]
    rcases explores_search closed named {} (P.room_lt_searchLimit name _) with
      ⟨resolves, impossible | ⟨_, rfl, arrives⟩⟩ | ⟨fails, _, spent, visited⟩
    · exact impossible.elim
    · exact iff_of_true resolves arrives
    · exact iff_of_false fails (spent.not_arrives (visited _ rfl))

end Program

end HintSchema

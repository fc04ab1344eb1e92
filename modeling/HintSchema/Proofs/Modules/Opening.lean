import HintSchema.Proofs.Modules.Bound

/-!
Which files a look-up opens: only such that an import can name. What it finds is bound in the file
where it starts or in one that it opens.
-/

namespace HintSchema

namespace Binding

/-- The file that holds what the binding stands for, if some file does. -/
def home? : Binding → Option Path
  | .classDef file _ => some file
  | .alias key _ | .recordCall key _ => some key.file
  | .module _ file => file
  | _ => none

/-- If some file holds what the binding stands for, it is one of these. -/
def HomeIn (files : List Path) (b : Binding) : Prop := ∀ home, b.home? = some home → home ∈ files

theorem HomeIn.mono {files more : List Path} {b : Binding} (held : b.HomeIn files)
    (subset : files ⊆ more) : b.HomeIn more :=
  fun home same => subset (held home same)

theorem homeIn_of_none {files : List Path} {b : Binding} (homeless : b.home? = none) :
    b.HomeIn files := by
  intro home same
  rw [homeless] at same
  cases same

end Binding

namespace Program

def IsImported (P : Program) (path : Path) : Prop :=
  (∃ importer module level, P.resolveImport? importer module level = some path) ∨
    ∃ package name, P.resolveSubmodule? package name = some path

end Program

/-- The search opens only files that an import can name; `Q` holds of them and of the result. -/
def Opens {α : Type} (P : Program) (m : SearchM α) (Q : List Path → α → Prop) : Prop :=
  ∀ s, ∃ new, (m.run s).2.opened = s.opened ++ new ∧ (∀ path ∈ new, P.IsImported path) ∧
    Q new (m.run s).1

namespace Opens

variable {P : Program} {α β : Type} {Q : List Path → α → Prop} {R : List Path → β → Prop}

theorem pure {a : α} (right : Q [] a) : Opens P (pure a) Q :=
  fun _ => ⟨[], (List.append_nil _).symm, List.forall_mem_nil _, right⟩

theorem bind {m : SearchM α} {next : α → SearchM β} (first : Opens P m Q)
    (later : ∀ a new, Q new a → Opens P (next a) fun more b => R (new ++ more) b) :
    Opens P (m >>= next) R := by
  intro s
  obtain ⟨new, opened, imported, right⟩ := first s
  obtain ⟨more, alsoOpened, alsoImported, result⟩ := later _ new right (m.run s).2
  refine ⟨new ++ more, ?_, List.forall_mem_append.mpr ⟨imported, alsoImported⟩, result⟩
  rw [← List.append_assoc, ← opened]
  exact alsoOpened

theorem mono {S : List Path → α → Prop} {m : SearchM α} (opens : Opens P m Q)
    (weaker : ∀ new a, Q new a → S new a) : Opens P m S := by
  intro s
  obtain ⟨new, opened, imported, right⟩ := opens s
  exact ⟨new, opened, imported, weaker _ _ right⟩

theorem get : Opens P (get : SearchM Search) fun new _ => new = [] :=
  fun _ => ⟨[], (List.append_nil _).symm, List.forall_mem_nil _, rfl⟩

theorem visit (key : NameKey) :
    Opens P (modify fun s => { s with visited := key :: s.visited } : SearchM PUnit)
      fun new _ => new = [] :=
  fun _ => ⟨[], (List.append_nil _).symm, List.forall_mem_nil _, rfl⟩

theorem openFile? {target : Option Path} (imported : ∀ path, target = some path →
    P.IsImported path) : Opens P (Search.openFile? target) fun new _ => new = target.toList := by
  intro s
  cases target with
  | none => exact ⟨[], (List.append_nil _).symm, List.forall_mem_nil _, rfl⟩
  | some path => exact ⟨[path], rfl, List.forall_mem_singleton.mpr (imported path rfl), rfl⟩

end Opens

namespace Program

variable {P : Program} {recur : Path → String → SearchM Binding} {file : Path} {name : String}

theorem opens_openImport (P : Program) (file : Path) (module : Option String) (level : Nat) :
    Opens P (P.openImport file module level) fun new target => new = target.toList := by
  unfold openImport
  refine (Opens.openFile? fun path found => .inl ⟨file, module, level, found⟩).bind ?_
  rintro _ _ rfl
  exact .pure (List.append_nil _)

theorem opens_orSubmodule {target : Path} {found : Binding} {files : List Path}
    (held : found.HomeIn files) :
    Opens P (P.orSubmodule target name found) fun new b => b.HomeIn (files ++ new) := by
  unfold orSubmodule
  split
  · exact .pure (held.mono (List.subset_append_left _ _))
  · refine (Opens.openFile? fun path found => .inr ⟨target, name, found⟩).bind ?_
    rintro _ _ rfl
    split
    · rename_i path resolved
      refine .pure fun home same => ?_
      cases same
      simp [resolved]
    · exact .pure (held.mono (List.subset_append_left _ _))

theorem opens_importedModule (P : Program) (file : Path) (module : String) :
    Opens P (P.importedModule file module) fun new b => b.HomeIn (file :: new) := by
  unfold importedModule
  split
  · exact .pure (Binding.homeIn_of_none rfl)
  · apply (opens_openImport P file module 0).bind
    rintro target _ rfl
    cases target with
    | some path =>
      refine .pure fun home same => ?_
      cases same
      simp
    | none => exact .pure (Binding.homeIn_of_none rfl)

theorem homeless_memberOfSpecial (module name : String) :
    (memberOfSpecial module name).home? = none := by
  unfold memberOfSpecial
  dsimp only
  split <;> rfl

theorem opens_resolveBound
    (below : ∀ file name, Opens P (recur file name) fun new b => b.HomeIn (file :: new))
    (bound : Bound) :
    Opens P (P.resolveBound recur file name bound) fun new b => b.HomeIn (file :: new) := by
  match bound with
  | .classDef _ | .alias _ | .recordCall _ =>
    refine .pure fun home same => ?_
    cases same
    exact List.mem_cons_self
  | .typeVariable | .value => exact .pure (Binding.homeIn_of_none rfl)
  | .module other => exact opens_importedModule P file other
  | .member module level source =>
    rw [resolveBound]
    split
    · exact .pure (Binding.homeIn_of_none (homeless_memberOfSpecial _ _))
    · apply (opens_openImport P file module level).bind
      rintro target _ rfl
      cases target with
      | none => exact .pure (Binding.homeIn_of_none rfl)
      | some target =>
        apply (below target source).bind
        intro found new held
        refine (opens_orSubmodule held).mono fun more b held => ?_
        exact held.mono (List.subset_cons_self _ _)

theorem opens_firstResolved
    (below : ∀ file name, Opens P (recur file name) fun new b => b.HomeIn (file :: new))
    (bounds : List Bound) :
    Opens P (P.firstResolved recur file name bounds) fun new found =>
      ∀ b, found = some b → b.HomeIn (file :: new) := by
  induction bounds with
  | nil => exact .pure fun _ impossible => by cases impossible
  | cons bound rest ih =>
    unfold firstResolved
    apply (opens_resolveBound below bound).bind
    intro found new held
    have wider (more : List Path) : found.HomeIn (file :: (new ++ more)) :=
      held.mono (List.cons_subset_cons _ (List.subset_append_left _ _))
    split
    · exact .pure fun _ same => by cases same; exact wider []
    · apply ih.bind
      intro later more others
      cases later with
      | none => exact .pure fun _ same => by cases same; exact wider _
      | some later =>
        refine .pure fun _ same => ?_
        cases same
        split
        · refine (others later rfl).mono (List.cons_subset_cons _ ?_)
          simp
        · exact wider _

theorem opens_throughStars
    (below : ∀ file name, Opens P (recur file name) fun new b => b.HomeIn (file :: new))
    (stars : List (Option String × Nat)) :
    Opens P (P.throughStars recur file name stars) fun new found =>
      ∀ b, found = some b → b.HomeIn (file :: new) := by
  induction stars with
  | nil => exact .pure fun _ impossible => by cases impossible
  | cons star rest ih =>
    have wider (files : List Path) : Opens P (P.throughStars recur file name rest)
        fun new found => ∀ b, found = some b → b.HomeIn (file :: (files ++ new)) :=
      ih.mono fun new _ held b same =>
        (held b same).mono (List.cons_subset_cons _ (List.subset_append_right _ _))
    unfold throughStars
    split
    · exact .pure fun _ same => by cases same; exact Binding.homeIn_of_none rfl
    · apply (opens_openImport P file _ _).bind
      rintro target _ rfl
      cases target with
      | none => exact wider []
      | some target =>
        apply (below target name).bind
        intro found new held
        split
        · refine .pure fun _ same => ?_
          cases same
          refine held.mono ?_
          simp
        · refine (wider (target :: new)).mono fun more _ held b same => ?_
          simpa using held b same

theorem opens_search (P : Program) (limit : Nat) (file : Path) (name : String) :
    Opens P (P.search limit file name) fun new b => b.HomeIn (file :: new) := by
  induction limit generalizing file name with
  | zero => exact .pure (Binding.homeIn_of_none rfl)
  | succ limit ih =>
    unfold search searchStep
    apply Opens.get.bind
    rintro s _ rfl
    split
    · exact .pure (Binding.homeIn_of_none rfl)
    · apply (Opens.visit _).bind
      rintro _ _ rfl
      apply (opens_firstResolved ih _).bind
      intro found new held
      cases found with
      | some found => exact .pure (by simpa using held found rfl)
      | none =>
        apply (opens_throughStars ih _).bind
        intro found more held
        cases found with
        | some found =>
          refine .pure ((held found rfl).mono ?_)
          simp
        | none =>
          dsimp only
          split <;> exact .pure (Binding.homeIn_of_none rfl)

/-- What a look-up finds and what it opens: imported files, among which is the home of what it
finds, unless that is `file` itself. -/
structure Traced (P : Program) (file : Path) (found : Except PrintFault Binding)
    (opened : List Path) : Prop where
  imported : ∀ path ∈ opened, P.IsImported path
  home : ∀ b, found = .ok b → b.HomeIn (file :: opened)

theorem traced_lookupName (P : Program) (file : Path) (name : String) :
    P.Traced file (.ok (P.lookupName file name).1) (P.lookupName file name).2 := by
  obtain ⟨new, opened, imported, held⟩ := opens_search P (P.searchLimit name) file name {}
  have same : (P.lookupName file name).2 = new := opened
  refine ⟨fun path member => imported path (same ▸ member), ?_⟩
  rintro _ ⟨⟩
  rw [same]
  exact held

theorem traced_member {target : Path} {opened : List Path} (home : target ∈ file :: opened)
    (imported : ∀ path ∈ opened, P.IsImported path) (attr : String) :
    let (found, more) := P.lookupName target attr
    let inside := (P.orSubmodule target attr found).run {}
    P.Traced file (.ok inside.1) (opened ++ more ++ inside.2.opened) := by
  have named := traced_lookupName P target attr
  generalize P.lookupName target attr = result at named
  obtain ⟨found, more⟩ := result
  have opens : Opens P (P.orSubmodule target attr found) fun new b =>
      b.HomeIn ((target :: more) ++ new) := opens_orSubmodule (named.home _ rfl)
  obtain ⟨new, submodule, also, held⟩ := opens {}
  dsimp only at named held submodule ⊢
  rw [submodule]
  refine ⟨List.forall_mem_append.mpr ⟨List.forall_mem_append.mpr ⟨imported, named.imported⟩, also⟩,
    ?_⟩
  rintro _ ⟨⟩
  refine held.mono ?_
  simp only [List.nil_append, List.cons_append, List.append_assoc, List.cons_subset]
  refine ⟨?_, List.subset_cons_of_subset _ (List.subset_append_right _ _)⟩
  rcases List.mem_cons.mp home with rfl | inside
  · exact List.mem_cons_self
  · exact List.mem_cons_of_mem _ (List.mem_append_left _ inside)

/-- A look-up of an expression opens imported files, and finds what one of them binds or what is
bound where it starts. -/
theorem traced_lookupExpr (P : Program) (file : Path) (expr : Expr) :
    P.Traced file (P.lookupExpr file expr).1 (P.lookupExpr file expr).2 := by
  generalize bound : sizeOf expr = limit
  induction limit using Nat.strongRecOn generalizing expr with
  | ind limit ih =>
    have homeless {opened : List Path} {b : Binding} (imported : ∀ path ∈ opened, P.IsImported path)
        (none_ : b.home? = none) : P.Traced file (.ok b) opened :=
      ⟨imported, fun _ same => by cases same; exact Binding.homeIn_of_none none_⟩
    cases expr with
    | name pos id => exact traced_lookupName P file id
    | member pos value attr =>
      subst bound
      have ih := ih (sizeOf value) (by simp +arith) value rfl
      rw [lookupExpr]
      generalize P.lookupExpr file value = result at ih
      obtain ⟨base, opened⟩ := result
      dsimp only
      split
      · exact ⟨ih.imported, fun _ impossible => by cases impossible⟩
      · exact homeless ih.imported rfl
      · exact homeless ih.imported (homeless_memberOfSpecial _ _)
      · rename_i target
        exact traced_member (ih.home _ rfl target rfl) ih.imported attr
      · exact homeless ih.imported rfl
    | _ =>
      refine ⟨List.forall_mem_nil _, fun b same => ?_⟩
      unfold lookupExpr at same
      dsimp only at same
      generalize Expr.source? _ = written at same
      cases written with
      | error => cases same
      | ok =>
        cases same
        exact Binding.homeIn_of_none rfl

end Program

end HintSchema

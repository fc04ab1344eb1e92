import HintSchema.Proofs.Hints.Shown
import HintSchema.Proofs.Modules.Whole

/-!
What a program passes whose check finds nothing. The check comes to every local module that it
opens: each of them is parsed, and each name in a hint at its top level is resolved
(`clear_of_check`).
-/

namespace HintSchema

namespace Program

variable {P : Program} {file : Path} {hint : Expr} {files : List Path} {c d : CheckState}
  {found : List Diagnostic}

theorem mem_parametersToCheck {definition : FunctionDef Statement} {p : Parameter}
    (member : p ∈ definition.parameters) : p ∈ parametersToCheck definition := by
  unfold parametersToCheck
  rw [List.partition_eq_filter_filter]
  dsimp only
  rw [List.mem_append, List.mem_filter, List.mem_filter]
  by_cases starred : (p.kind == .variadicPositional || p.kind == .variadicKeyword) = true
  · exact .inr ⟨member, starred⟩
  · refine .inl ⟨member, ?_⟩
    simpa using starred

theorem steady_checkStatement (P : Program) (file : Path) (statement : Statement) :
    Steady P (P.checkStatement file statement) := by
  unfold checkStatement
  split
  · apply (Steady.mapM fun p _ => steady_checkHint? P file p.hint).bind
    intro found
    exact (steady_checkHint? P file _).bind fun _ => .pure
  · refine Steady.bind (.mapM fun item _ => ?_) fun _ => .pure
    split
    · exact steady_checkHint? P file _
    · exact .pure
  · exact .pure

theorem steady_checkRelativeImport (P : Program) (file : Path) (item : RelativeImport) :
    Steady P (P.checkRelativeImport file item) := by
  unfold checkRelativeImport openImported
  apply Steady.bind
  · intro c target d answered
    obtain ⟨_, m, opened, rest⟩ := (returns_bind_iff ..).mp answered
    obtain ⟨rfl, rfl⟩ := (returns_pure_iff _ _).mp rest
    obtain rfl := (returns_modify_iff _ _).mp opened
    have imported : ∀ path ∈ (P.resolveImport? file item.module item.level).toList,
        P.IsImported path :=
      fun path member => .inl ⟨file, item.module, item.level, Option.mem_toList.mp member⟩
    refine ⟨(CheckState.widens_openAll imported c).1, fun e => ?_⟩
    exact ⟨_, (returns_bind_iff ..).mpr
      ⟨(), _, (returns_modify_iff _ _).mpr rfl, (returns_pure_iff _ _).mpr ⟨rfl, rfl⟩⟩⟩
  · intro target
    split <;> exact .pure

theorem steady_checkFile (P : Program) (file : Path) : Steady P (P.checkFile file) := by
  unfold checkFile
  split
  · exact .pure
  · rename_i statements _
    apply (Steady.mapM fun item _ => steady_checkRelativeImport P file item).bind
    intro imports
    exact (Steady.mapM fun statement _ => steady_checkStatement P file statement).bind
      fun _ => .pure

theorem clear_of_checkStatement {statement : Statement}
    (answered : Returns (P.checkStatement file statement) c [] d) (within : d.opened ⊆ files) :
    ∀ hint ∈ statement.hints, P.Clear files file hint := by
  intro hint member
  cases statement with
  | functionDef definition =>
    simp only [checkStatement, returns_bind_iff, returns_pure_iff] at answered
    obtain ⟨answers, m, parameters, result, _, returned, nothing, rfl⟩ := answered
    obtain ⟨empty, rfl⟩ := List.append_eq_nil_iff.mp nothing.symm
    rcases List.mem_append.mp member with parameter | result
    · obtain ⟨p, declared, hinted⟩ := List.mem_filterMap.mp parameter
      obtain ⟨found, held, u, v, asked, kept⟩ := Steady.answer_of_mem
        (fun p _ => steady_checkHint? P file p.hint) parameters (mem_parametersToCheck declared)
      obtain rfl := flatten_eq_nil empty found held
      rw [hinted] at asked
      have wider := ((steady_checkHint? P file _).widens returned).subset
      exact clear_of_checkHint? asked
        (List.Subset.trans kept (List.Subset.trans wider within))
    · rw [Option.mem_toList.mp result] at returned
      exact clear_of_checkHint? returned within
  | classDef definition =>
    simp only [checkStatement, returns_bind_iff, returns_pure_iff] at answered
    obtain ⟨answers, _, fields, nothing, rfl⟩ := answered
    obtain ⟨item, inside, hinted⟩ := List.mem_filterMap.mp member
    obtain ⟨found, held, u, v, asked, kept⟩ := Steady.answer_of_mem
      (fun item _ => by
        split
        · exact steady_checkHint? P file _
        · exact .pure) fields inside
    obtain rfl := flatten_eq_nil nothing.symm found held
    split at hinted
    · cases hinted
      exact clear_of_checkHint? asked (List.Subset.trans kept within)
    · cases hinted
  | _ => cases member

/-- Where the check of a file finds nothing, the file is parsed, and each name in a hint at its top
level is resolved. -/
theorem clear_of_checkFile (answered : Returns (P.checkFile file) c [] d)
    (within : d.opened ⊆ files) :
    (P.source file).body.isSome ∧ ∀ hint ∈ (P.source file).topHints, P.Clear files file hint := by
  unfold checkFile at answered
  split at answered
  · cases ((returns_pure_iff _ _).mp answered).1
  rename_i statements body
  simp only [returns_bind_iff, returns_pure_iff] at answered
  obtain ⟨imports, m, _, hints, _, asked, nothing, rfl⟩ := answered
  obtain ⟨_, nothing⟩ := List.append_eq_nil_iff.mp nothing.symm
  have same : (P.source file).statements = statements := by
    rw [SourceFile.statements, body, Option.getD_some]
  refine ⟨by rw [body]; rfl, fun hint member => ?_⟩
  obtain ⟨statement, defined, member⟩ := List.mem_flatMap.mp member
  obtain ⟨found, held, u, v, asked, kept⟩ := Steady.answer_of_mem
    (fun statement _ => steady_checkStatement P file statement) asked (same ▸ defined)
  obtain rfl := flatten_eq_nil nothing found held
  exact clear_of_checkStatement asked (List.Subset.trans kept within) hint member

/-- The check of an open file; files outside the functions file's directory are left alone. -/
def checkOpened (P : Program) (file : Path) : CheckM (List Diagnostic) :=
  if P.isLocal file then P.checkFile file else pure []

theorem steady_checkOpened (P : Program) (file : Path) : Steady P (P.checkOpened file) := by
  unfold checkOpened
  split
  · exact steady_checkFile P file
  · exact .pure

theorem returns_checkFrom_succ {limit position : Nat}
    (answered : Returns (P.checkFrom (limit + 1) position) c found d) :
    c.opened.length ≤ position ∧ d = c ∧ found = [] ∨
      ∃ file own m later, c.opened[position]? = some file ∧
        Returns (P.checkOpened file) c own m ∧
        Returns (P.checkFrom limit (position + 1)) m later d ∧ found = own ++ later := by
  simp only [checkFrom, returns_bind_iff, returns_get_iff] at answered
  obtain ⟨_, _, ⟨rfl, rfl⟩, answered⟩ := answered
  split at answered
  · rename_i none
    obtain ⟨nothing, same⟩ := (returns_pure_iff _ _).mp answered
    exact .inl ⟨List.getElem?_eq_none_iff.mp none, same, nothing⟩
  · rename_i file present
    refine .inr ⟨file, ?_⟩
    unfold checkOpened
    split at answered
    all_goals
      rename_i own
      simp only [returns_bind_iff] at answered
      obtain ⟨answer, m, asked, later, _, rest, returned⟩ := answered
      obtain ⟨rfl, rfl⟩ := (returns_pure_iff _ _).mp returned
      refine ⟨answer, m, later, present, ?_, rest, rfl⟩
    · rwa [if_pos own]
    · rwa [if_neg own]

theorem widens_checkFrom {limit position : Nat}
    (answered : Returns (P.checkFrom limit position) c found d) : c.Widens P d := by
  induction limit generalizing position c found with
  | zero =>
    obtain ⟨_, rfl⟩ := (returns_pure_iff _ _).mp answered
    exact .refl _
  | succ limit ih =>
    rcases returns_checkFrom_succ answered with ⟨_, rfl, _⟩ | ⟨file, _, _, _, _, asked, rest, _⟩
    · exact .refl _
    · exact ((steady_checkOpened P file).widens asked).trans (ih rest)

theorem checked_of_checkFrom {limit position : Nat}
    (answered : Returns (P.checkFrom limit position) c [] d) {index : Nat} {file : Path}
    (after : position ≤ index) (within : index < position + limit)
    (opened : d.opened[index]? = some file) (own : P.isLocal file = true) :
    ∃ m n, Returns (P.checkFile file) m [] n ∧ n.opened ⊆ d.opened := by
  induction limit generalizing position c with
  | zero => omega
  | succ limit ih =>
    rcases returns_checkFrom_succ answered with ⟨short, rfl, _⟩ | ⟨first, own', m, later, present,
      asked, rest, nothing⟩
    · -- Nothing has been opened at this position, so nothing is at a later one.
      have long := (List.getElem?_eq_some_iff.mp opened).1
      omega
    · obtain ⟨rfl, rfl⟩ := List.append_eq_nil_iff.mp nothing.symm
      have wider := widens_checkFrom rest
      rcases Nat.eq_or_lt_of_le after with rfl | further
      · have begun := (steady_checkOpened P first).widens asked
        obtain ⟨more, same⟩ := (begun.trans wider).earlier
        rw [← same, List.getElem?_append_left (List.getElem?_eq_some_iff.mp present).1] at opened
        cases present.symm.trans opened
        rw [checkOpened, if_pos own] at asked
        exact ⟨c, m, asked, wider.subset⟩
      · exact ih rest further (by omega)

theorem start_opened (P : Program) : (CheckState.start P).opened = P.initial := rfl

theorem returns_check (checked : Returns P.check (.start P) found d) :
    (P.source? P.entry).isSome = true ∧
        Returns (P.checkFrom (P.sources.length + 1) 0) (.start P) found d ∨ found ≠ [] := by
  unfold check at checked
  split at checked
  · right
    rw [((returns_pure_iff _ _).mp checked).1]
    exact List.cons_ne_nil _ _
  · rename_i present
    rw [Option.isNone_iff_eq_none, ← Option.not_isSome_iff_eq_none, not_not] at present
    exact .inl ⟨present, checked⟩

/-- The open files are among the sources, none comes twice. -/
structure Orderly (P : Program) (c : CheckState) : Prop where
  distinct : c.opened.Nodup
  held : ∀ path ∈ c.opened, (P.source? path).isSome

theorem orderly_start (P : Program) : P.Orderly (.start P) := by
  constructor <;> rw [start_opened, initial] <;> split
  · exact List.nodup_singleton _
  · exact List.nodup_nil
  · rename_i present
    exact List.forall_mem_singleton.mpr present
  · exact List.forall_mem_nil _

theorem Orderly.later (whole : P.Whole) (orderly : P.Orderly c) (wider : c.Widens P d) :
    P.Orderly d where
  distinct := wider.distinct orderly.distinct
  held path member := (wider.imported path member).elim (orderly.held path) (whole path)

theorem Orderly.length_le (orderly : P.Orderly c) : c.opened.length ≤ P.sources.length := by
  have among : c.opened ⊆ P.sources.map (·.path) := by
    intro path member
    obtain ⟨s, inside, same⟩ := List.find?_isSome.mp (orderly.held path member)
    exact List.mem_map.mpr ⟨s, inside, of_decide_eq_true same⟩
  simpa using (List.subperm_of_subset orderly.distinct among).length_le

theorem checkFile_of_check (whole : P.Whole) (checked : Returns P.check (.start P) [] d)
    (own : P.isLocal file = true) (opened : file ∈ d.opened) :
    ∃ m n, Returns (P.checkFile file) m [] n ∧ n.opened ⊆ d.opened := by
  rcases returns_check checked with ⟨_, checked⟩ | impossible
  · obtain ⟨index, inside, same⟩ := List.mem_iff_getElem.mp opened
    have short := ((orderly_start P).later whole (widens_checkFrom checked)).length_le
    refine checked_of_checkFrom checked (Nat.zero_le index) (by omega) ?_ own
    rw [List.getElem?_eq_getElem inside, same]
  · exact absurd rfl impossible

/-- Where the check finds nothing, each name in a hint at the top level of a local file that is open
is resolved, and in files that are open. -/
theorem clear_of_check (whole : P.Whole) (checked : Returns P.check (.start P) [] d)
    (own : P.isLocal file = true) (opened : file ∈ d.opened)
    (top : hint ∈ (P.source file).topHints) : P.Clear d.opened file hint := by
  obtain ⟨m, n, asked, kept⟩ := checkFile_of_check whole checked own opened
  exact (clear_of_checkFile asked kept).2 hint top

end Program

end HintSchema

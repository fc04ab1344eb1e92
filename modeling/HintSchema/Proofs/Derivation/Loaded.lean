import HintSchema.Derivation.File
import HintSchema.Proofs.Derivation.Confined
import HintSchema.Proofs.Derivation.Trace
import HintSchema.Proofs.Hints.Gate
import HintSchema.Proofs.Hints.Inquiry

/-!
The modules behind a schema. A local module that a derivation has opened has been checked, or it is
reached from one that has been open during the check by look-ups that the check does not make
(`checked_or_overlooked`).
-/

namespace HintSchema

namespace Program

variable {P : Program} {files : List Path} {origin target file : Path}

/-- The expression is written in a hint that the check goes through, when it leaves these files
open. -/
def Checks (P : Program) (files : List Path) (file : Path) (e : Expr) : Prop :=
  P.isLocal file = true ∧ file ∈ files ∧
    ∃ hint ∈ (P.source file).topHints, Relation.ReflTransGen (P.Shows file) hint e

/-- For a name of `origin` an expression is looked up that the check does not go through, and that
opens the other file. -/
def Overlooks (P : Program) (files : List Path) (origin target : Path) : Prop :=
  ∃ name bound e, (name, bound) ∈ (P.source origin).scope.names ∧ bound.Mentions P origin e ∧
    target ∈ (P.lookupExpr origin e).2 ∧ ¬P.Checks files origin e

/-- The files that are open after the check, and those that overlooked look-ups lead to. -/
def Reached (P : Program) (files : List Path) (file : Path) : Prop :=
  ∃ origin ∈ files, Relation.ReflTransGen (P.Overlooks files) origin file

theorem reached_of_mem (opened : file ∈ files) : P.Reached files file := ⟨file, opened, .refl⟩

theorem Reached.overlooked (reached : P.Reached files file) (unopened : file ∉ files) :
    ∃ origin ∈ files, Relation.TransGen (P.Overlooks files) origin file := by
  obtain ⟨origin, opened, chain⟩ := reached
  rcases Relation.reflTransGen_iff_eq_or_transGen.mp chain with rfl | further
  · exact absurd opened unopened
  · exact ⟨origin, opened, further⟩

theorem isLocal_entry (P : Program) : P.isLocal P.entry = true := by
  have above : P.entry.parts.dropLast <+: P.entry.parts := List.dropLast_prefix _
  simp [isLocal, root, Path.isBelow, Path.below?, Path.parent, above]

variable {d : CheckState}

theorem entry_opened (checked : Returns P.check (.start P) [] d) : P.entry ∈ d.opened := by
  rcases returns_check checked with ⟨present, checked⟩ | impossible
  · refine (widens_checkFrom checked).subset ?_
    rw [start_opened, initial, if_pos present]
    exact List.mem_cons_self
  · exact absurd rfl impossible

theorem records_of_check {found : List Diagnostic} (checked : Returns P.check (.start P) found d) :
    d.records = [] := by
  unfold check at checked
  split at checked
  · obtain ⟨_, rfl⟩ := (returns_pure_iff _ _).mp checked
    rfl
  · exact (widens_checkFrom checked).records

/-- No look-up for a name leaves the files that are reached: where the check goes through an
expression, it opens all that its look-up opens. -/
theorem closedFiles_reached (whole : P.Whole) (checked : Returns P.check (.start P) [] d) :
    P.ClosedFiles (P.Reached d.opened) := by
  rintro origin target ⟨start, opened, chain⟩ ⟨name, bound, e, member, mentioned, drawn⟩
  by_cases seen : P.Checks d.opened origin e
  · obtain ⟨own, held, hint, top, shown⟩ := seen
    exact reached_of_mem ((clear_of_check whole checked own held top e shown).opened drawn)
  · exact ⟨start, opened, chain.tail ⟨name, bound, e, member, mentioned, drawn, seen⟩⟩

theorem showsWithin_exported (whole : P.Whole) (checked : Returns P.check (.start P) [] d)
    {f : Function} (exported : f ∈ (P.source P.entry).exportedFunctions) :
    f.file = P.entry ∧ ∀ hint ∈ (Statement.functionDef f.definition).hints,
      P.ShowsWithin (P.Reached d.opened) f.file hint := by
  obtain ⟨defined, same⟩ := SourceFile.mem_statements_of_exported exported
  rw [path_source] at same
  refine ⟨same, fun hint member part shown path drawn => ?_⟩
  have top : hint ∈ (P.source f.file).topHints :=
    List.mem_flatMap.mpr ⟨_, same ▸ defined, member⟩
  have opened : f.file ∈ d.opened := same ▸ entry_opened checked
  have own : P.isLocal f.file = true := same ▸ P.isLocal_entry
  exact reached_of_mem ((clear_of_check whole checked own opened top part shown).opened drawn)

end Program

namespace Derivation

variable {P : Program} {F : Path → Prop} {s t : DerivationState}

theorem within_of_afterParameter (closed : P.ClosedFiles F) {function : String}
    {docs : List (String × String)} {parameter : TypedParameter}
    (own : parameter.handle.Within P F) {o o' : SignatureOutcome}
    (returned : Returns (afterParameter P function docs o parameter) s o' t)
    (within : s.check.Within P F) : t.check.Within P F := by
  unfold afterParameter at returned
  split at returned
  · obtain ⟨_, rfl⟩ := (returns_pure_iff _ _).mp returned
    exact within
  · obtain ⟨outcome, u, derived, rest⟩ := (returns_bind_iff ..).mp returned
    have after := within_of_returns closed derived own within
    cases outcome <;> (obtain ⟨_, rfl⟩ := (returns_pure_iff _ _).mp rest; exact after)

theorem within_of_deriveFunction (closed : P.ClosedFiles F) {f : Function} (home : F f.file)
    (shows : ∀ hint ∈ (Statement.functionDef f.definition).hints, P.ShowsWithin F f.file hint)
    {o : FunctionOutcome} (returned : Returns (deriveFunction P f) s o t)
    (within : s.check.Within P F) : t.check.Within P F := by
  replace returned := (returns_deriveFunction_iff.mp returned).2
  unfold deriveNamed at returned
  simp only [returns_bind_iff] at returned
  obtain ⟨signature, _, asked, _, v, looped, outcome, w, derived, rest⟩ := returned
  obtain ⟨⟨parameters, result⟩, begun⟩ := within_of_asking
    (P.confined_signature closed home shows) asked within
  have middle := looped.foldlM_keeps (fun _ v => v.check.Within P F)
    (fun p member _ _ _ _ before returned =>
      within_of_afterParameter closed (parameters p member) returned before) begun
  have after := within_of_returns closed derived result middle
  have ended : t = w := by cases outcome <;> exact ((returns_pure_iff _ _).mp rest).2
  exact ended ▸ after

theorem within_of_mapM_deriveFunction (closed : P.ClosedFiles F) {functions : List Function}
    (each : ∀ f ∈ functions, F f.file ∧
      ∀ hint ∈ (Statement.functionDef f.definition).hints, P.ShowsWithin F f.file hint)
    {outcomes : List FunctionOutcome}
    (returned : Returns (functions.mapM (deriveFunction P)) s outcomes t)
    (within : s.check.Within P F) : t.check.Within P F := by
  induction functions generalizing s outcomes with
  | nil =>
    obtain ⟨_, rfl⟩ := (returns_pure_iff _ _).mp returned
    exact within
  | cons f rest ih =>
    obtain ⟨⟨home, shows⟩, others⟩ := List.forall_mem_cons.mp each
    obtain ⟨_, _, _, derived, later, rfl⟩ := (returns_mapM_cons_iff ..).mp returned
    exact ih others later (within_of_deriveFunction closed home shows derived within)

theorem reached_of_deriveUnchecked {d : CheckState} (whole : P.Whole)
    (checked : Returns P.check (.start P) [] d) {outcome : SchemaOutcome}
    (derived : Returns (deriveUnchecked P) { check := d } outcome t) :
    ∀ file ∈ t.check.opened, P.Reached d.opened file := by
  unfold deriveUnchecked deriveFunctions at derived
  simp only [returns_bind_iff, returns_get_iff, returns_pure_iff] at derived
  obtain ⟨_, _, derived, _, _, ⟨rfl, rfl⟩, _, rfl⟩ := derived
  have blank := CheckState.genuine_of_blank (P := P) (Program.records_of_check checked)
  refine (within_of_mapM_deriveFunction (Program.closedFiles_reached whole checked) ?_ derived
    ⟨blank, fun _ => Program.reached_of_mem⟩).opened
  intro f exported
  obtain ⟨same, shows⟩ := Program.showsWithin_exported whole checked exported
  exact ⟨Program.reached_of_mem (same ▸ Program.entry_opened checked), shows⟩

/-- When a schema is returned, each local file that has been opened by then is parsed and the check
finds nothing in it, or it has been opened after the check, by look-ups that the check does not
make. -/
theorem checked_or_overlooked (P : Program) (whole : P.Whole) (d : CheckState)
    (checked : Returns P.check (.start P) [] d) (outcome : SchemaOutcome) (t : DerivationState)
    (derived : Returns (deriveUnchecked P) { check := d } outcome t) (file : Path)
    (opened : file ∈ t.check.opened) (own : P.isLocal file = true) :
    ((P.source file).body.isSome ∧ ∀ c, ∃ e, Returns (P.checkFile file) c [] e) ∨
      file ∉ d.opened ∧
        ∃ origin ∈ d.opened, Relation.TransGen (P.Overlooks d.opened) origin file := by
  by_cases before : file ∈ d.opened
  · obtain ⟨m, n, answered, kept⟩ := Program.checkFile_of_check whole checked own before
    exact .inl ⟨(Program.clear_of_checkFile answered kept).1,
      (Program.steady_checkFile P file m [] n answered).2⟩
  · have reached := reached_of_deriveUnchecked whole checked derived file opened
    exact .inr ⟨before, reached.overlooked before⟩

def withModels (lines models : List String) : Program :=
  let home : Path := ⟨.root, ["app"]⟩
  let entry := home / "functions.py"
  let other := home / "models.py"
  let tree : FileTree := ⟨home, [(entry, .empty), (other, .empty)], []⟩
  ⟨.make tree home [], entry, [.ofLines entry lines, .ofLines other models]⟩

/-- An alias is a member of a module that the check never opens; a field of that module has a hint
that names nothing. -/
def memberAlias : Program := withModels
  ["import models",
   "Thing = models.Thing",
   "def f(x: Thing) -> int:",
   "    return 0"]
  ["from typing import TypedDict",
   "class Thing(TypedDict):",
   "    value: int",
   "class Other(TypedDict):",
   "    value: Missing"]

/-- The schema is made with a module in which the check would have found something. -/
theorem memberAlias_unchecked :
    (runFrom memberAlias.check (.start memberAlias)).1 = .ok [] ∧
      (deriveProgram memberAlias).toOption.map (·.issues) = some [] ∧
      ∃ file, memberAlias.isLocal file = true ∧
        file ∉ (runFrom memberAlias.check (.start memberAlias)).2.opened ∧
        file ∈ (runFrom (deriveUnchecked memberAlias)
          { check := (runFrom memberAlias.check (.start memberAlias)).2 }).2.check.opened ∧
        (runFrom (memberAlias.checkFile file) {}).1.toOption =
          some [.atPosition file ⟨5, 11⟩ "Cannot find name 'Missing'"] := by
  let file : Path := ⟨.root, ["app", "models.py"]⟩
  have evaluated : (runFrom memberAlias.check (.start memberAlias)).1 = .ok [] ∧
      (deriveProgram memberAlias).toOption.map (·.issues) = some [] ∧
      memberAlias.isLocal file = true ∧
      file ∉ (runFrom memberAlias.check (.start memberAlias)).2.opened ∧
      file ∈ (runFrom (deriveUnchecked memberAlias)
        { check := (runFrom memberAlias.check (.start memberAlias)).2 }).2.check.opened ∧
      (runFrom (memberAlias.checkFile file) {}).1.toOption =
        some [.atPosition file ⟨5, 11⟩ "Cannot find name 'Missing'"] := by decide +kernel
  exact ⟨evaluated.1, evaluated.2.1, file, evaluated.2.2⟩

def importedRecord : Program := withModels
  ["from models import Thing",
   "def f(x: Thing) -> int:",
   "    return 0"]
  ["from typing import TypedDict",
   "class Thing(TypedDict):",
   "    value: int"]

theorem checked_or_overlooked_importedRecord :
    ∃ d outcome t file, importedRecord.Whole ∧
      Returns importedRecord.check (.start importedRecord) [] d ∧
      Returns (deriveUnchecked importedRecord) { check := d } outcome t ∧
      file ≠ importedRecord.entry ∧ file ∈ t.check.opened ∧ importedRecord.isLocal file = true ∧
      (importedRecord.source file).body.isSome ∧
      ∀ c, ∃ e, Returns (importedRecord.checkFile file) c [] e := by
  let file : Path := ⟨.root, ["app", "models.py"]⟩
  let d := (runFrom importedRecord.check (.start importedRecord)).2
  have whole : importedRecord.Whole := Program.whole_of_tree (by decide +kernel)
  have evaluated :
      (runFrom importedRecord.check (.start importedRecord)).1 = .ok [] ∧ file ∈ d.opened ∧
      (runFrom (deriveUnchecked importedRecord) { check := d }).1.isOk = true ∧
      file ∈ (runFrom (deriveUnchecked importedRecord) { check := d }).2.check.opened ∧
      importedRecord.isLocal file = true ∧ file ≠ importedRecord.entry := by decide +kernel
  have ⟨passes, before, derives, after, own, other⟩ := evaluated
  have checked := returns_of_ok passes
  cases answered : (runFrom (deriveUnchecked importedRecord) { check := d }).1 with
  | error fault =>
    rw [answered] at derives
    cases derives
  | ok outcome =>
    have derived := returns_of_ok answered
    rcases checked_or_overlooked importedRecord whole d checked outcome _ derived file after own
      with ⟨parsed, clean⟩ | ⟨unopened, _⟩
    · exact ⟨d, outcome, _, file, whole, checked, derived, other, after, own, parsed,
        clean⟩
    · exact absurd before unopened

end Derivation

end HintSchema

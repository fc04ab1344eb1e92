import HintSchema.Proofs.Hints.Equations
import HintSchema.Proofs.Hints.Gate

/-!
The check of a program in rounds. A round takes up the local files that are open and not yet checked;
checking them opens others, which the next round takes up. The rounds come to an end, with each open
local file checked once, and a further check finds the same and opens nothing
(`check_reaches_fixpoint`).
-/

namespace HintSchema

namespace Diagnostic

def file? : Diagnostic → Option String
  | problem _ file _ _ => file
  | unparsable file | unreadableSettings file => some file

/-- All of the problems are reported in this file. -/
def Concern (file : Path) (found : List Diagnostic) : Prop :=
  ∀ d ∈ found, d.file? = some file.toString

theorem Concern.nil (file : Path) : Concern file [] := List.forall_mem_nil _

theorem Concern.atPosition (file : Path) (pos : Position) (message : String) :
    Concern file [.atPosition file pos message] :=
  List.forall_mem_singleton.mpr rfl

theorem Concern.append {file : Path} {first second : List Diagnostic} (one : Concern file first)
    (other : Concern file second) : Concern file (first ++ second) :=
  List.forall_mem_append.mpr ⟨one, other⟩

theorem Concern.flatten {file : Path} {found : List (List Diagnostic)}
    (each : ∀ some ∈ found, Concern file some) : Concern file found.flatten := by
  intro d member
  obtain ⟨some, inside, member⟩ := List.mem_flatten.mp member
  exact each some inside d member

end Diagnostic

namespace CheckState

theorem openAll_append (c : CheckState) (first second : List Path) :
    c.openAll (first ++ second) = (c.openAll first).openAll second := by
  unfold openAll
  rw [List.foldl_append]

theorem openAll_of_subset {c : CheckState} {paths : List Path} (known : paths ⊆ c.opened) :
    c.openAll paths = c := by
  induction paths with
  | nil => rfl
  | cons path rest ih =>
    obtain ⟨here, later⟩ := List.cons_subset.mp known
    have same : c.openAll [path] = c := by
      change { c with opened := (c.openAll [path]).opened } = c
      rw [opened_openAll_singleton, if_pos (List.contains_iff_mem.mpr here)]
    rw [openAll_cons, same, ih later]

end CheckState

/-- In every state the question opens the same files and comes to the same. -/
def Unvarying {α : Type} (question : CheckM α) (R : α → Prop) : Prop :=
  ∃ outcome paths, (∀ c, runFrom question c = (outcome, c.openAll paths)) ∧
    ∀ a, outcome = .ok a → R a

namespace Unvarying

variable {α β : Type} {Q : α → Prop} {R : β → Prop} {question : CheckM α}

theorem pure {a : α} (right : Q a) : Unvarying (pure a) Q :=
  ⟨.ok a, [], fun _ => rfl, by rintro _ ⟨⟩; exact right⟩

theorem throw {fault : Fault} : Unvarying (throw fault : CheckM α) Q :=
  ⟨.error fault, [], fun _ => rfl, fun _ impossible => by cases impossible⟩

theorem bind {next : α → CheckM β} (first : Unvarying question Q)
    (second : ∀ a, Q a → Unvarying (next a) R) : Unvarying (question >>= next) R := by
  obtain ⟨outcome, paths, asked, right⟩ := first
  cases outcome with
  | error fault =>
    refine ⟨.error fault, paths, fun c => ?_, fun _ impossible => by cases impossible⟩
    rw [runFrom_bind, asked]
  | ok a =>
    obtain ⟨later, more, answered, held⟩ := second a (right a rfl)
    refine ⟨later, paths ++ more, fun c => ?_, held⟩
    rw [runFrom_bind, asked, CheckState.openAll_append]
    exact answered _

theorem mapM {f : α → CheckM β} {items : List α} (each : ∀ item ∈ items, Unvarying (f item) R) :
    Unvarying (items.mapM f) fun answers => ∀ b ∈ answers, R b := by
  induction items with
  | nil => exact .pure (List.forall_mem_nil _)
  | cons item rest ih =>
    obtain ⟨here, later⟩ := List.forall_mem_cons.mp each
    rw [List.mapM_cons]
    refine here.bind fun b first => (ih later).bind fun answers others => .pure ?_
    exact List.forall_mem_cons.mpr ⟨first, others⟩

theorem openAll (paths : List Path) :
    Unvarying (modify (·.openAll paths) : CheckM PUnit) fun _ => True :=
  ⟨.ok ⟨⟩, paths, fun _ => rfl, fun _ _ => trivial⟩

variable {c d e f : CheckState} {a b : α}

theorem right (unvarying : Unvarying question Q) (answered : Returns question c a d) : Q a := by
  obtain ⟨outcome, paths, asked, right⟩ := unvarying
  exact right a (congrArg Prod.fst ((asked c).symm.trans answered))

theorem unique (unvarying : Unvarying question Q) (one : Returns question c a d)
    (other : Returns question e b f) : a = b := by
  obtain ⟨outcome, paths, asked, _⟩ := unvarying
  have first := congrArg Prod.fst ((asked c).symm.trans one)
  have second := congrArg Prod.fst ((asked e).symm.trans other)
  exact Except.ok.inj (first.symm.trans second)

theorem still (unvarying : Unvarying question Q) (one : Returns question c a d)
    (other : Returns question e b f) (known : d.opened ⊆ e.opened) : f = e := by
  obtain ⟨outcome, paths, asked, _⟩ := unvarying
  have first : c.openAll paths = d := congrArg Prod.snd ((asked c).symm.trans one)
  have second : e.openAll paths = f := congrArg Prod.snd ((asked e).symm.trans other)
  rw [← second]
  refine CheckState.openAll_of_subset fun path inside => known ?_
  rw [← first]
  exact CheckState.mem_openAll.mpr (.inr inside)

theorem answers (unvarying : Unvarying question Q) (answered : Returns question c a d)
    (e : CheckState) : ∃ f, Returns question e a f := by
  obtain ⟨outcome, paths, asked, _⟩ := unvarying
  have same := congrArg Prod.fst ((asked c).symm.trans answered)
  exact ⟨e.openAll paths, (asked e).trans (by rw [show outcome = .ok a from same])⟩

end Unvarying

namespace Program

open Diagnostic

variable {P : Program} {file : Path}

theorem unvarying_find (P : Program) (file : Path) (expr : Expr) :
    Unvarying (P.find file expr) fun _ => True := by
  unfold find
  refine (Unvarying.openAll _).bind fun _ _ => ?_
  cases (P.lookupExpr file expr).1 with
  | ok => exact .pure trivial
  | error => exact .throw

theorem unvarying_checkName (P : Program) (file : Path) (pos : Position) (target : Expr) :
    Unvarying (P.checkName file pos target) (Concern file) := by
  unfold checkName
  refine (unvarying_find P file target).bind fun found _ => ?_
  split
  · exact .pure (.atPosition file pos _)
  · exact .pure (.nil file)

theorem unvarying_checkExpr {quoted : Position → CodeText → CheckM (List Diagnostic)}
    (read : ∀ pos text, Unvarying (quoted pos text) (Concern file)) (place : Option Position)
    (hint : Expr) : Unvarying (P.checkExpr quoted file place hint) (Concern file) := by
  generalize bound : sizeOf hint = limit
  induction limit using Nat.strongRecOn generalizing hint with
  | ind limit ih =>
    subst bound
    have among {items : List Expr} (smaller : ∀ item ∈ items, sizeOf item < sizeOf hint) :
        Unvarying (items.mapM (P.checkExpr quoted file place))
          fun found => ∀ some ∈ found, Concern file some :=
      .mapM fun item member => ih _ (smaller item member) item rfl
    cases hint with
    | literal pos value =>
      rw [checkExpr.eq_def]
      cases value with
      | text text marked => exact read _ text
      | _ => exact .pure (.nil file)
    | name pos id =>
      rw [checkExpr]
      exact unvarying_checkName P file _ _
    | member pos value attr =>
      rw [checkExpr]
      exact unvarying_checkName P file _ _
    | subscript pos value index =>
      rw [checkExpr_subscript]
      refine (ih _ (by simp +arith) value rfl).bind fun outer first => ?_
      refine (unvarying_find P file value).bind fun form _ => ?_
      refine (among fun argument member => ?_).bind
        fun found each => .pure (first.append (.flatten each))
      have part_le := Expr.sizeOf_le_of_mem_indices (shown_subset form _ member)
      simp +arith only [Expr.subscript.sizeOf_spec]
      omega
    | binary pos op left right =>
      rw [checkExpr]
      refine (ih _ (by simp +arith) left rfl).bind fun found first => ?_
      exact (ih _ (by simp +arith) right rfl).bind fun more second => .pure (first.append second)
    | tuple pos items =>
      rw [(checkExpr_items quoted place pos items).1]
      refine (among fun item member => ?_).bind fun found each => .pure (.flatten each)
      have smaller := List.sizeOf_lt_of_mem member
      simp +arith only [Expr.tuple.sizeOf_spec]
      omega
    | list pos items =>
      rw [(checkExpr_items quoted place pos items).2]
      refine (among fun item member => ?_).bind fun found each => .pure (.flatten each)
      have smaller := List.sizeOf_lt_of_mem member
      simp +arith only [Expr.list.sizeOf_spec]
      omega
    | dict pos items =>
      rw [checkExpr_dict]
      refine (among (List.forall_mem_map.mpr fun item member => ?_)).bind
        fun found each => .pure (.flatten each)
      have smaller := List.sizeOf_lt_of_mem member
      have value := item.sizeOf_value_lt
      simp +arith only [Expr.dict.sizeOf_spec]
      omega
    | _ =>
      rw [checkExpr.eq_def]
      exact .pure (.nil file)

theorem unvarying_ofQuoted? (text : CodeText) : Unvarying (Expr.ofQuoted? text) fun _ => True := by
  unfold Expr.ofQuoted?
  split
  · exact .throw
  · dsimp only
    split
    · exact .throw
    · exact .pure trivial

theorem unvarying_checkHint (P : Program) (file : Path) (limit : Nat) (place : Option Position)
    (hint : Expr) : Unvarying (P.checkHint file limit place hint) (Concern file) := by
  induction limit using Nat.strongRecOn generalizing place hint with
  | ind limit ih =>
    rw [checkHint]
    refine unvarying_checkExpr (fun pos text => ?_) place hint
    split
    · rename_i shorter
      refine (unvarying_ofQuoted? text).bind fun inner _ => ?_
      split
      · exact ih _ shorter _ _
      · exact .pure (.atPosition file pos _)
    · exact .pure (.nil file)

theorem unvarying_checkHint? (P : Program) (file : Path) (hint : Option Expr) :
    Unvarying (P.checkHint? file hint) (Concern file) := by
  cases hint with
  | some hint => exact unvarying_checkHint P file _ _ _
  | none => exact .pure (.nil file)

theorem unvarying_checkStatement (P : Program) (file : Path) (statement : Statement) :
    Unvarying (P.checkStatement file statement) (Concern file) := by
  unfold checkStatement
  split
  · refine (Unvarying.mapM fun p _ => unvarying_checkHint? P file p.hint).bind fun found each => ?_
    exact (unvarying_checkHint? P file _).bind fun more last =>
      .pure ((Concern.flatten each).append last)
  · refine (Unvarying.mapM (R := Concern file) fun item _ => ?_).bind
      fun found each => .pure (.flatten each)
    split
    · exact unvarying_checkHint? P file _
    · exact .pure (.nil file)
  · exact .pure (.nil file)

theorem unvarying_checkRelativeImport (P : Program) (file : Path) (item : RelativeImport) :
    Unvarying (P.checkRelativeImport file item) (Concern file) := by
  unfold checkRelativeImport openImported
  refine ((Unvarying.openAll _).bind (R := fun _ => True) fun _ _ => .pure trivial).bind ?_
  intro target _
  split
  · exact .pure (.nil file)
  · exact .pure (.atPosition file item.pos _)

theorem unvarying_checkFile (P : Program) (file : Path) :
    Unvarying (P.checkFile file) (Concern file) := by
  unfold checkFile
  split
  · exact .pure (List.forall_mem_singleton.mpr rfl)
  · refine (Unvarying.mapM fun item _ => unvarying_checkRelativeImport P file item).bind
      fun imports first => ?_
    refine (Unvarying.mapM fun statement _ => unvarying_checkStatement P file statement).bind
      fun hints second => .pure ((Concern.flatten first).append (.flatten second))

/-! ### Rounds -/

/-- The local files that are open and have not been checked, in the order in which they were
opened. -/
def pending (P : Program) (checked : List Path) (c : CheckState) : List Path :=
  (c.opened.filter P.isLocal).filter fun file => !checked.contains file

/-- Each round checks the files that are pending when it begins, until none is pending: which files
are checked, with what is found in them. -/
inductive Rounds (P : Program) :
    List Path → CheckState → List (Path × List Diagnostic) → CheckState → Prop
  | settled {checked : List Path} {c : CheckState} (none : P.pending checked c = []) :
      Rounds P checked c [] c
  | round {checked : List Path} {c m d : CheckState} {answers : List (List Diagnostic)}
      {later : List (Path × List Diagnostic)} (some : P.pending checked c ≠ [])
      (asked : Returns ((P.pending checked c).mapM P.checkFile) c answers m)
      (rest : Rounds P (checked ++ P.pending checked c) m later d) :
      Rounds P checked c ((P.pending checked c).zip answers ++ later) d

/-- Local files that are checked one after the other, each when it is open. -/
inductive Sweep (P : Program) :
    CheckState → List (Path × List Diagnostic) → CheckState → Prop
  | done {c : CheckState} : Sweep P c [] c
  | visit {c m d : CheckState} {file : Path} {found : List Diagnostic}
      {later : List (Path × List Diagnostic)} (opened : file ∈ c.opened)
      (own : P.isLocal file = true) (asked : Returns (P.checkFile file) c found m)
      (rest : Sweep P m later d) : Sweep P c ((file, found) :: later) d

variable {c d e : CheckState} {visits visits' : List (Path × List Diagnostic)}

namespace Sweep

theorem widens (swept : P.Sweep c visits d) : c.Widens P d := by
  induction swept with
  | done => exact .refl _
  | visit _ _ asked _ ih => exact ((steady_checkFile P _).widens asked).trans ih

theorem of_append {first second : List (Path × List Diagnostic)}
    (swept : P.Sweep c (first ++ second) d) :
    ∃ m, P.Sweep c first m ∧ P.Sweep m second d := by
  induction first generalizing c with
  | nil => exact ⟨c, .done, swept⟩
  | cons v rest ih =>
    cases swept with
    | visit opened own asked later =>
      obtain ⟨m, before, after⟩ := ih later
      exact ⟨m, .visit opened own asked before, after⟩

theorem mapM (swept : P.Sweep c visits d) :
    Returns ((visits.map (·.1)).mapM P.checkFile) c (visits.map (·.2)) d := by
  induction swept with
  | done => exact (returns_pure_iff _ _).mpr ⟨rfl, rfl⟩
  | visit _ _ asked _ ih => exact (returns_mapM_cons_iff ..).mpr ⟨_, _, _, asked, ih, rfl⟩

theorem concern (swept : P.Sweep c visits d) : ∀ v ∈ visits, Concern v.1 v.2 := by
  induction swept with
  | done => exact List.forall_mem_nil _
  | visit _ _ asked _ ih =>
    exact List.forall_mem_cons.mpr ⟨(unvarying_checkFile P _).right asked, ih⟩

theorem answer_of_mem (swept : P.Sweep c visits d) {file : Path}
    (member : file ∈ visits.map (·.1)) :
    ∃ m found n, Returns (P.checkFile file) m found n ∧ n.opened ⊆ d.opened := by
  induction swept with
  | done => cases member
  | visit _ _ asked rest ih =>
    rcases List.mem_cons.mp member with rfl | inside
    · exact ⟨_, _, _, asked, rest.widens.subset⟩
    · exact ih inside

theorem unique {f : CheckState} (swept : P.Sweep c visits d) (swept' : P.Sweep e visits' f)
    (same : visits.map (·.1) = visits'.map (·.1)) : visits = visits' := by
  induction swept generalizing e visits' with
  | done => exact (List.map_eq_nil_iff.mp same.symm).symm
  | visit _ _ asked _ ih =>
    cases swept' with
    | done => cases same
    | visit _ _ asked' rest' =>
      obtain ⟨rfl, later⟩ := List.cons.inj same
      rw [(unvarying_checkFile P _).unique asked asked', ih rest' later]

theorem still (swept : P.Sweep d visits e)
    (closed : ∀ file ∈ d.opened, P.isLocal file = true →
      ∀ found m, Returns (P.checkFile file) d found m → m = d) : e = d := by
  induction swept with
  | done => rfl
  | visit opened own asked rest ih =>
    obtain rfl := closed _ opened own _ _ asked
    exact ih closed

end Sweep

theorem append_pending {checked more : List Path} (distinct : d.opened.Nodup)
    (earlier : c.opened <+: d.opened) (all : checked ++ more = d.opened.filter P.isLocal)
    (within : checked ⊆ c.opened) :
    checked ++ P.pending checked c = c.opened.filter P.isLocal := by
  have localNow : c.opened.filter P.isLocal <+: checked ++ more := all ▸ earlier.filter P.isLocal
  have among : checked ⊆ c.opened.filter P.isLocal := by
    intro file member
    have own : file ∈ d.opened.filter P.isLocal := all ▸ List.mem_append_left _ member
    exact List.mem_filter.mpr ⟨within member, (List.mem_filter.mp own).2⟩
  have apart : (checked ++ more).Nodup := all ▸ distinct.filter _
  have short := (List.subperm_of_subset (List.nodup_append.mp apart).1 among).length_le
  obtain ⟨rest, same⟩ := List.prefix_of_prefix_length_le (List.prefix_append checked more) localNow
    short
  have new : (checked ++ rest).Nodup := same ▸ apart.sublist localNow.sublist
  have others : ∀ file ∈ rest, file ∉ checked := fun file later known =>
    (List.nodup_append.mp new).2.2 file known file later rfl
  have pended : P.pending checked c = rest := by
    unfold pending
    rw [← same, List.filter_append, List.filter_eq_nil_iff.mpr, List.filter_eq_self.mpr,
      List.nil_append]
    · intro file later
      simpa using others file later
    · intro file known
      simpa using known
  rw [pended, same]

theorem Sweep.rounds {checked : List Path} (swept : P.Sweep c visits d)
    (distinct : d.opened.Nodup) (all : checked ++ visits.map (·.1) = d.opened.filter P.isLocal)
    (within : checked ⊆ c.opened) : P.Rounds checked c visits d := by
  generalize bound : visits.length = limit
  induction limit using Nat.strongRecOn generalizing checked c visits with
  | ind limit ih =>
    have earlier := swept.widens.earlier
    have now := append_pending distinct earlier all within
    have shared : P.pending checked c <+: visits.map (·.1) := by
      have part : checked ++ P.pending checked c <+: checked ++ visits.map (·.1) := by
        rw [now, all]
        exact earlier.filter P.isLocal
      exact (List.prefix_append_right_inj checked).mp part
    by_cases none : P.pending checked c = []
    · -- The next visit would be to a file that is open, and so to one that is pending.
      cases swept with
      | done => exact .settled none
      | @visit _ _ _ file _ _ opened own _ _ =>
        rw [none, List.append_nil] at now
        have known : file ∈ checked := now ▸ List.mem_filter.mpr ⟨opened, own⟩
        have apart := List.nodup_append.mp (all ▸ distinct.filter P.isLocal)
        exact absurd rfl (apart.2.2 file known file List.mem_cons_self)
    · obtain ⟨rest, same⟩ := shared
      obtain ⟨first, second, rfl, firsts, seconds⟩ := List.map_eq_append_iff.mp same.symm
      obtain ⟨m, before, after⟩ := swept.of_append
      have some : first ≠ [] := by
        rintro rfl
        exact none firsts.symm
      have zipped : (P.pending checked c).zip (first.map (·.2)) = first := by
        rw [← firsts]
        exact (List.zip_of_prod rfl rfl).symm
      have shorter : second.length < limit := by
        rw [← bound, List.length_append]
        exact Nat.lt_add_of_pos_left (List.length_pos_of_ne_nil some)
      have others : checked ++ P.pending checked c ++ second.map (·.1) =
          d.opened.filter P.isLocal := by
        rw [← all, List.map_append, firsts, List.append_assoc]
      have known : checked ++ P.pending checked c ⊆ m.opened := by
        refine List.append_subset.mpr ⟨List.Subset.trans within before.widens.subset, ?_⟩
        exact List.Subset.trans ((List.filter_sublist.trans List.filter_sublist).subset)
          before.widens.subset
      have round := Rounds.round none (firsts ▸ before.mapM)
        (ih second.length shorter after others known rfl)
      rwa [zipped] at round

/-! ### The walk over the open files -/

/-- The checks of local files raise nothing. -/
def Quiet (P : Program) : Prop :=
  ∀ file, P.isLocal file = true → ∀ c fault d, ¬ Raises (P.checkFile file) c fault d

theorem Quiet.answers (quiet : P.Quiet) {file : Path} (own : P.isLocal file = true)
    (c : CheckState) : ∃ found d, Returns (P.checkFile file) c found d := by
  cases ran : (runFrom (P.checkFile file) c).1 with
  | error fault => exact absurd (raises_of_error ran) (quiet file own _ _ _)
  | ok found => exact ⟨found, _, returns_of_ok ran⟩

theorem quiet_of_sources (c : CheckState)
    (quiet : ∀ s ∈ P.sources, P.isLocal s.path = true →
      (runFrom (P.checkFile s.path) c).1.isOk = true) : P.Quiet := by
  intro file own e fault d raised
  rcases P.source_cases file with ⟨present, same⟩ | missing
  · have fine := quiet _ present (same.symm ▸ own)
    rw [same] at fine
    cases ran : (runFrom (P.checkFile file) c).1 with
    | error other =>
      rw [ran] at fine
      cases fine
    | ok found =>
      obtain ⟨f, answered⟩ := (unvarying_checkFile P file).answers (returns_of_ok ran) e
      cases congrArg Prod.fst (raised.symm.trans answered)
  · rw [checkFile, missing] at raised
    exact (raises_pure_iff ..).mp raised

theorem exists_returns_of_get {α : Type} {next : CheckState → CheckM α}
    (later : ∃ a d, Returns (next c) c a d) : ∃ a d, Returns (get >>= next) c a d := by
  obtain ⟨a, d, answered⟩ := later
  exact ⟨a, d, (returns_bind_iff ..).mpr ⟨c, c, (returns_get_iff _).mpr ⟨rfl, rfl⟩, answered⟩⟩

theorem exists_returns_checkFrom (quiet : P.Quiet) (limit position : Nat) (c : CheckState) :
    ∃ found d, Returns (P.checkFrom limit position) c found d := by
  induction limit generalizing position c with
  | zero => exact ⟨[], c, (returns_pure_iff ..).mpr ⟨rfl, rfl⟩⟩
  | succ limit ih =>
    rw [checkFrom]
    refine exists_returns_of_get ?_
    cases c.opened[position]? with
    | none => exact ⟨[], c, (returns_pure_iff ..).mpr ⟨rfl, rfl⟩⟩
    | some file =>
      have goesOn (found : List Diagnostic) (m : CheckState) : ∃ all d, Returns
          (do return found ++ (← P.checkFrom limit (position + 1))) m all d := by
        obtain ⟨later, d, answered⟩ := ih (position + 1) m
        exact ⟨found ++ later, d, (returns_bind_iff ..).mpr
          ⟨later, d, answered, (returns_pure_iff ..).mpr ⟨rfl, rfl⟩⟩⟩
      dsimp only
      split
      · rename_i own
        obtain ⟨found, m, asked⟩ := quiet.answers own c
        obtain ⟨all, d, answered⟩ := goesOn found m
        exact ⟨all, d, (returns_bind_iff ..).mpr ⟨found, m, asked, answered⟩⟩
      · exact goesOn [] c

theorem sweep_of_checkFrom {limit position : Nat} {found : List Diagnostic}
    (answered : Returns (P.checkFrom limit position) c found d)
    (room : d.opened.length ≤ position + limit) :
    ∃ visits, P.Sweep c visits d ∧
      visits.map (·.1) = (d.opened.drop position).filter P.isLocal ∧
      found = visits.flatMap (·.2) := by
  induction limit generalizing position c found with
  | zero =>
    obtain ⟨rfl, rfl⟩ := (returns_pure_iff _ _).mp answered
    exact ⟨[], .done, by rw [List.drop_eq_nil_of_le (by omega)]; rfl, rfl⟩
  | succ limit ih =>
    rcases returns_checkFrom_succ answered with ⟨short, rfl, rfl⟩ | ⟨file, own, m, later, present,
      asked, rest, rfl⟩
    · exact ⟨[], .done, by rw [List.drop_eq_nil_of_le short]; rfl, rfl⟩
    · obtain ⟨visits, swept, files, rfl⟩ := ih rest (by omega)
      have begun := (steady_checkOpened P file).widens asked
      have next : d.opened.drop position = file :: d.opened.drop (position + 1) := by
        obtain ⟨more, same⟩ := (begun.trans (widens_checkFrom rest)).earlier
        have here : d.opened[position]? = some file := by
          rw [← same, List.getElem?_append_left (List.getElem?_eq_some_iff.mp present).1, present]
        obtain ⟨inside, here⟩ := List.getElem?_eq_some_iff.mp here
        rw [List.drop_eq_getElem_cons inside, here]
      rw [next]
      unfold checkOpened at asked
      split at asked
      · rename_i inside
        have opened := List.mem_of_getElem? present
        refine ⟨(file, own) :: visits, .visit opened inside asked swept, ?_, rfl⟩
        rw [List.map_cons, files, List.filter_cons_of_pos inside]
      · rename_i foreign
        obtain ⟨rfl, rfl⟩ := (returns_pure_iff _ _).mp asked
        exact ⟨visits, swept, by rw [files, List.filter_cons_of_neg foreign], rfl⟩

theorem check_eq (present : (P.source? P.entry).isSome = true) :
    P.check = P.checkFrom (P.sources.length + 1) 0 := by
  unfold check
  rw [if_neg]
  rw [Option.isNone_iff_eq_none, ← Option.not_isSome_iff_eq_none, not_not]
  exact present

theorem exists_sweep (whole : P.Whole) (present : (P.source? P.entry).isSome = true)
    (quiet : P.Quiet) (orderly : P.Orderly c) :
    ∃ visits d, Returns P.check c (visits.flatMap (·.2)) d ∧ P.Sweep c visits d ∧
      visits.map (·.1) = d.opened.filter P.isLocal := by
  obtain ⟨found, d, answered⟩ := exists_returns_checkFrom quiet (P.sources.length + 1) 0 c
  have room := (orderly.later whole (widens_checkFrom answered)).length_le
  obtain ⟨visits, swept, files, rfl⟩ := sweep_of_checkFrom answered (by omega)
  exact ⟨visits, d, check_eq present ▸ answered, swept, files⟩

/-- In a program whose checks of local files raise nothing, and whatever is open: the check comes to
an end, and it goes in rounds until nothing is pending. By then each open local file has been
checked once, in the order in which the files were opened, and what is found in them is listed file
by file. Another check finds the same and opens nothing. -/
theorem check_reaches_fixpoint (P : Program) (whole : P.Whole)
    (present : (P.source? P.entry).isSome = true) (quiet : P.Quiet) (c : CheckState)
    (orderly : P.Orderly c) :
    ∃ visits d, Returns P.check c (visits.flatMap (·.2)) d ∧ P.Rounds [] c visits d ∧
      visits.map (·.1) = d.opened.filter P.isLocal ∧ d.opened.Nodup ∧ c.opened <+: d.opened ∧
      (∀ v ∈ visits, Concern v.1 v.2) ∧ Returns P.check d (visits.flatMap (·.2)) d := by
  obtain ⟨visits, d, answered, swept, files⟩ := exists_sweep whole present quiet orderly
  have later := orderly.later whole swept.widens
  have rounds : P.Rounds [] c visits d :=
    swept.rounds later.distinct files (List.nil_subset _)
  have closed : ∀ file ∈ d.opened, P.isLocal file = true →
      ∀ found m, Returns (P.checkFile file) d found m → m = d := by
    intro file opened own found m asked
    obtain ⟨u, other, v, before, kept⟩ := swept.answer_of_mem
      (files ▸ List.mem_filter.mpr ⟨opened, own⟩)
    exact (unvarying_checkFile P file).still before asked kept
  obtain ⟨visits', e, again, swept', files'⟩ := exists_sweep whole present quiet later
  obtain rfl := swept'.still closed
  obtain rfl := swept.unique swept' (files.trans files'.symm)
  exact ⟨visits, e, answered, rounds, files, later.distinct, swept.widens.earlier,
    swept.concern, again⟩

/-- Two files that import each other; each has a hint that names nothing. -/
def eachOther : Program :=
  let home : Path := ⟨.root, ["app"]⟩
  let entry := home / "functions.py"
  let models := home / "models.py"
  let tree : FileTree := ⟨home, [(entry, .empty), (models, .empty)], []⟩
  ⟨.make tree home [], entry,
    [.ofLines entry ["from models import Thing", "def f(x: Thing) -> Missing:", "    pass"],
     .ofLines models ["import functions", "class Thing:", "    value: functions.Nowhere"]]⟩

theorem check_eachOther : ∃ visits d,
    Returns eachOther.check (.start eachOther) (visits.flatMap (·.2)) d ∧
      eachOther.Rounds [] (.start eachOther) visits d ∧
      visits.map (·.1) = eachOther.sources.map (·.path) ∧
      Returns eachOther.check d (visits.flatMap (·.2)) d := by
  have run : (∀ s ∈ eachOther.sources, eachOther.isLocal s.path = true →
        (runFrom (eachOther.checkFile s.path) (.start eachOther)).1.isOk = true) ∧
      (runFrom eachOther.check (.start eachOther)).2.opened.filter eachOther.isLocal =
        eachOther.sources.map (·.path) := by
    decide +kernel
  obtain ⟨quiet, opened⟩ := run
  obtain ⟨visits, d, answered, rounds, files, _, _, _, again⟩ := check_reaches_fixpoint eachOther
    (whole_of_tree (by decide +kernel)) (by decide +kernel) (quiet_of_sources _ quiet)
    (.start eachOther) (orderly_start _)
  rw [show runFrom eachOther.check (.start eachOther) = _ from answered] at opened
  exact ⟨visits, d, answered, rounds, files.trans opened, again⟩

end Program

end HintSchema

import HintSchema.Hints.Check
import HintSchema.Proofs.Hints.Quoting
import HintSchema.Proofs.Modules.Opening
import HintSchema.Proofs.Syntax.TokenLetters
import HintSchema.Proofs.Syntax.Weight

/-!
What the check of a hint looks at, and what it means that it finds nothing there: each name in the
hint, or in a text that the hint quotes, stands for something (`clear_of_checkHint`). The check of a
hint is steady: it opens files, and what it finds does not depend on what is open or known before.
-/

namespace HintSchema

namespace CheckState

/-- The later state has the open files of the earlier one at its start and then files that an import
can name, no file twice. Nothing more is known of classes. -/
structure Widens (P : Program) (c d : CheckState) : Prop where
  earlier : c.opened <+: d.opened
  distinct : c.opened.Nodup → d.opened.Nodup
  imported : ∀ path ∈ d.opened, path ∈ c.opened ∨ P.IsImported path
  records : d.records = c.records

variable {P : Program} {c d e : CheckState}

theorem Widens.refl (c : CheckState) : c.Widens P c :=
  ⟨List.prefix_refl _, id, fun _ member => .inl member, rfl⟩

theorem Widens.trans (first : c.Widens P d) (second : d.Widens P e) : c.Widens P e where
  earlier := first.earlier.trans second.earlier
  distinct := second.distinct ∘ first.distinct
  imported path member := (second.imported path member).elim (first.imported path) .inr
  records := second.records.trans first.records

theorem Widens.subset (wider : c.Widens P d) : c.opened ⊆ d.opened := wider.earlier.subset

theorem widens_openFile {path : Path} (imported : P.IsImported path) (c : CheckState) :
    c.Widens P (c.openAll [path]) ∧ path ∈ (c.openAll [path]).opened := by
  have same := opened_openAll_singleton c path
  split at same
  · rename_i known
    refine ⟨⟨same ▸ List.prefix_refl _, same ▸ id, fun _ member => .inl (same ▸ member), rfl⟩, ?_⟩
    exact same ▸ List.contains_iff_mem.mp known
  · rename_i new
    refine ⟨⟨same ▸ List.prefix_append _ _, fun distinct => ?_, fun other member => ?_, rfl⟩, ?_⟩
    · rw [same, ← List.concat_eq_append]
      exact distinct.concat fun member => new (List.contains_iff_mem.mpr member)
    · rw [same] at member
      rcases List.mem_append.mp member with old | added
      · exact .inl old
      · exact .inr (List.mem_singleton.mp added ▸ imported)
    · exact same ▸ List.mem_append_right _ List.mem_cons_self

theorem widens_openAll {paths : List Path} (imported : ∀ path ∈ paths, P.IsImported path)
    (c : CheckState) : c.Widens P (c.openAll paths) ∧ paths ⊆ (c.openAll paths).opened := by
  induction paths generalizing c with
  | nil => exact ⟨.refl c, List.nil_subset _⟩
  | cons path rest ih =>
    obtain ⟨own, others⟩ := List.forall_mem_cons.mp imported
    obtain ⟨wider, held⟩ := widens_openFile own c
    obtain ⟨later, rest⟩ := ih others (c.openAll [path])
    rw [openAll_cons]
    exact ⟨wider.trans later, List.cons_subset.mpr ⟨later.subset held, rest⟩⟩

end CheckState

/-- The question only opens files, and its answer does not depend on the state. -/
def Steady {α : Type} (P : Program) (question : CheckM α) : Prop :=
  ∀ c a d, Returns question c a d → c.Widens P d ∧ ∀ e, ∃ f, Returns question e a f

namespace Steady

variable {P : Program} {α β : Type}

theorem pure {a : α} : Steady P (pure a) := by
  intro c b d answered
  obtain ⟨rfl, rfl⟩ := (returns_pure_iff _ _).mp answered
  exact ⟨.refl _, fun e => ⟨e, (returns_pure_iff _ _).mpr ⟨rfl, rfl⟩⟩⟩

theorem throw {fault : Fault} : Steady P (throw fault : CheckM α) := by
  intro c a d answered
  cases (returns_throw_iff _ _).mp answered

theorem bind {question : CheckM α} {next : α → CheckM β} (first : Steady P question)
    (second : ∀ a, Steady P (next a)) : Steady P (question >>= next) := by
  intro c b d answered
  obtain ⟨a, m, asked, later⟩ := (returns_bind_iff _ _ _).mp answered
  obtain ⟨begun, again⟩ := first c a m asked
  obtain ⟨ended, laterAgain⟩ := second a m b d later
  refine ⟨begun.trans ended, fun e => ?_⟩
  obtain ⟨f, asked⟩ := again e
  obtain ⟨g, later⟩ := laterAgain f
  exact ⟨g, (returns_bind_iff _ _ _).mpr ⟨a, f, asked, later⟩⟩

theorem mapM {f : α → CheckM β} {items : List α} (each : ∀ item ∈ items, Steady P (f item)) :
    Steady P (items.mapM f) := by
  induction items with
  | nil => exact .pure
  | cons item rest ih =>
    rw [List.mapM_cons]
    apply (each item List.mem_cons_self).bind
    intro b
    exact (ih fun item member => each item (List.mem_cons_of_mem _ member)).bind fun _ => .pure

theorem widens {question : CheckM α} (steady : Steady P question) {c d : CheckState} {a : α}
    (answered : Returns question c a d) : c.Widens P d :=
  (steady c a d answered).1

theorem answer_of_mem {f : α → CheckM β} {items : List α}
    (each : ∀ item ∈ items, Steady P (f item)) {c d : CheckState} {answers : List β}
    (answered : Returns (items.mapM f) c answers d) {item : α} (member : item ∈ items) :
    ∃ b ∈ answers, ∃ m n, Returns (f item) m b n ∧ n.opened ⊆ d.opened := by
  induction items generalizing c answers with
  | nil => cases member
  | cons first rest ih =>
    obtain ⟨own, others⟩ := List.forall_mem_cons.mp each
    obtain ⟨b, u, later, asked, remaining, rfl⟩ := (returns_mapM_cons_iff ..).mp answered
    rcases List.mem_cons.mp member with rfl | inside
    · have wider := (Steady.mapM others).widens remaining
      exact ⟨b, List.mem_cons_self, c, u, asked, wider.subset⟩
    · obtain ⟨b', held, rest⟩ := ih others remaining inside
      exact ⟨b', List.mem_cons_of_mem _ held, rest⟩

end Steady

namespace Expr

/-- A name, or a chain of members. -/
def isReference : Expr → Bool
  | .name _ _ | .member _ _ _ => true
  | _ => false

end Expr

namespace CodeText

theorem length_chars? {text : CodeText} {chars : List Char} (held : text.chars? = some chars) :
    chars.length = text.length := by
  induction text generalizing chars with
  | nil =>
    cases held
    rfl
  | cons point rest ih =>
    unfold chars? at held
    rw [List.mapM_cons] at held
    obtain ⟨c, _, held⟩ := Option.bind_eq_some_iff.mp held
    obtain ⟨later, found, same⟩ := Option.bind_eq_some_iff.mp held
    cases same
    exact congrArg (· + 1) (ih found)

end CodeText

theorem Text.length_strip_le (chars : List Char) : (Text.strip chars).length ≤ chars.length := by
  unfold strip stripRight stripLeft
  rw [List.length_reverse]
  refine Nat.le_trans (List.dropWhile_suffix _).length_le ?_
  rw [List.length_reverse]
  exact (List.dropWhile_suffix _).length_le

theorem CodeText.Quotes.textsBelow {text : CodeText} {inner : Expr} (quotes : text.Quotes inner) :
    inner.TextsBelow text.length := by
  obtain ⟨chars, held, parsed⟩ := quotes
  intro pos value marked member
  have shorter := Parser.length_of_expression parsed member
  have stripped := Text.length_strip_le chars
  have same := length_chars? held
  omega

namespace Program

variable {P : Program} {file : Path} {hint part : Expr}

theorem returns_find_iff {c d : CheckState} {found : Binding} :
    Returns (P.find file hint) c found d ↔
      (P.lookupExpr file hint).1 = .ok found ∧ d = c.openAll (P.lookupExpr file hint).2 := by
  unfold find
  simp only [returns_bind_iff, returns_modify_iff]
  rcases P.lookupExpr file hint with ⟨_ | b, opened⟩
  · simp
  · simp [eq_comm]

theorem returns_findName (P : Program) (file : Path) (name : String) (c : CheckState) :
    Returns (P.findName file name) c (P.lookupName file name).1
      (c.openAll (P.lookupName file name).2) := by
  unfold findName
  exact (returns_bind_iff _ _ _).mpr
    ⟨(), _, (returns_modify_iff _ _).mpr rfl, (returns_pure_iff _ _).mpr ⟨rfl, rfl⟩⟩

theorem steady_find (P : Program) (file : Path) (hint : Expr) : Steady P (P.find file hint) := by
  intro c found d answered
  obtain ⟨looked, rfl⟩ := returns_find_iff.mp answered
  refine ⟨(CheckState.widens_openAll (P.traced_lookupExpr file hint).imported c).1, fun e => ?_⟩
  exact ⟨_, returns_find_iff.mpr ⟨looked, rfl⟩⟩

theorem subset_of_find {c d : CheckState} {found : Binding}
    (answered : Returns (P.find file hint) c found d) :
    (P.lookupExpr file hint).2 ⊆ d.opened := by
  obtain ⟨_, rfl⟩ := returns_find_iff.mp answered
  exact (CheckState.widens_openAll (P.traced_lookupExpr file hint).imported c).2

theorem steady_ofQuoted? (P : Program) (text : CodeText) : Steady P (Expr.ofQuoted? text) := by
  unfold Expr.ofQuoted?
  split
  · exact .throw
  · dsimp only
    split
    · exact .throw
    · exact .pure

theorem steady_checkName (P : Program) (file : Path) (pos : Position) (target : Expr) :
    Steady P (P.checkName file pos target) := by
  unfold checkName
  apply (steady_find P _ _).bind
  intro found
  split <;> exact .pure

theorem steady_checkExpr {quoted : Position → CodeText → CheckM (List Diagnostic)}
    (read : ∀ pos text, Steady P (quoted pos text)) (place : Option Position) (hint : Expr) :
    Steady P (P.checkExpr quoted file place hint) := by
  generalize bound : sizeOf hint = limit
  induction limit using Nat.strongRecOn generalizing hint with
  | ind limit ih =>
    subst bound
    rw [checkExpr.eq_def]
    dsimp only
    split
    · exact read _ _
    · exact steady_checkName P _ _ _
    · exact steady_checkName P _ _ _
    · rename_i pos value index
      have smaller := Expr.subscript.sizeOf_spec pos value index
      apply (ih (sizeOf value) (by omega) value rfl).bind
      intro outer
      apply (steady_find P _ _).bind
      intro form
      refine Steady.bind (.mapM fun argument _ => ?_) fun _ => .pure
      have part_le := Expr.sizeOf_le_of_mem_indices argument.2
      exact ih (sizeOf argument.1) (by omega) argument.1 rfl
    · rename_i pos op left right
      have smaller := Expr.binary.sizeOf_spec pos op left right
      apply (ih (sizeOf left) (by omega) left rfl).bind
      intro first
      exact (ih (sizeOf right) (by omega) right rfl).bind fun _ => .pure
    · rename_i pos items
      refine Steady.bind (.mapM fun item _ => ?_) fun _ => .pure
      have smaller := List.sizeOf_lt_of_mem item.2
      have whole := Expr.tuple.sizeOf_spec pos items
      exact ih (sizeOf item.1) (by omega) item.1 rfl
    · rename_i pos items
      refine Steady.bind (.mapM fun item _ => ?_) fun _ => .pure
      have smaller := List.sizeOf_lt_of_mem item.2
      have whole := Expr.list.sizeOf_spec pos items
      exact ih (sizeOf item.1) (by omega) item.1 rfl
    · rename_i pos items
      refine Steady.bind (.mapM fun item _ => ?_) fun _ => .pure
      have smaller := List.sizeOf_lt_of_mem item.2
      have value := item.1.sizeOf_value_lt
      have whole := Expr.dict.sizeOf_spec pos items
      exact ih (sizeOf item.1.value) (by omega) item.1.value rfl
    · exact .pure

theorem steady_checkHint (P : Program) (file : Path) (limit : Nat) (place : Option Position)
    (hint : Expr) : Steady P (P.checkHint file limit place hint) := by
  induction limit using Nat.strongRecOn generalizing place hint with
  | ind limit ih =>
    rw [checkHint]
    refine steady_checkExpr (fun pos text => ?_) place hint
    split
    · rename_i shorter
      apply (steady_ofQuoted? P text).bind
      intro inner
      split
      · exact ih _ shorter _ _
      · exact .pure
    · exact .pure

def checkText (P : Program) (file : Path) (limit : Nat) (pos : Position) (text : CodeText) :
    CheckM (List Diagnostic) := do
  if _shorter : text.length < limit then
    match ← Expr.ofQuoted? text with
    | some inner => P.checkHint file text.length (some pos) inner
    | none => return [.atPosition file pos ("Invalid forward reference " ++ Text.Quoted.text text)]
  else return []

theorem checkHint_eq (P : Program) (file : Path) (limit : Nat) (place : Option Position)
    (hint : Expr) :
    P.checkHint file limit place hint = P.checkExpr (P.checkText file limit) file place hint := by
  rw [checkHint]
  rfl

/-- The check of the hint finds nothing, and all that it opens is among the files. -/
def Silent (P : Program) (files : List Path) (file : Path) (hint : Expr) : Prop :=
  ∃ limit place c d, hint.TextsBelow limit ∧ Returns (P.checkHint file limit place hint) c [] d ∧
    d.opened ⊆ files

variable {files : List Path}

theorem silent_quoted {limit : Nat} {pos : Position} {text : CodeText} {inner : Expr}
    {c d : CheckState} (shorter : text.length < limit) (quotes : text.Quotes inner)
    (answered : Returns (P.checkText file limit pos text) c [] d) (within : d.opened ⊆ files) :
    P.Silent files file inner := by
  unfold checkText at answered
  rw [dif_pos shorter] at answered
  obtain ⟨found, m, read, rest⟩ := (returns_bind_iff ..).mp answered
  obtain ⟨chars, held, parsed⟩ := quotes
  unfold Expr.ofQuoted? at read
  rw [held] at read
  dsimp only at read
  split at read
  · cases (returns_throw_iff _ _).mp read
  · obtain ⟨rfl, _⟩ := (returns_pure_iff _ _).mp read
    rw [parsed] at rest
    exact ⟨_, _, _, _, CodeText.Quotes.textsBelow ⟨chars, held, parsed⟩, rest, within⟩

theorem flatten_eq_nil {answers : List (List Diagnostic)} (none : answers.flatten = []) :
    ∀ found ∈ answers, found = [] :=
  List.flatten_eq_nil_iff.mp none

theorem Silent.shows (silent : P.Silent files file hint) (shows : P.Shows file hint part) :
    P.Silent files file part := by
  obtain ⟨limit, place, c, d, below, answered, within⟩ := silent
  have steady (e : Expr) : Steady P (P.checkExpr (P.checkText file limit) file place e) :=
    checkHint_eq P file limit place e ▸ steady_checkHint P file limit place e
  -- A part that is not quoted is checked under the limit of the whole.
  have go {e : Expr} {m n : CheckState} (subset : e.parts ⊆ hint.parts)
      (asked : Returns (P.checkExpr (P.checkText file limit) file place e) m [] n)
      (kept : n.opened ⊆ d.opened) : P.Silent files file e :=
    ⟨limit, place, m, n, below.of_parts subset, checkHint_eq P file limit place e ▸ asked,
      List.Subset.trans kept within⟩
  have goAmong {α : Type} {items : List α} {f : α → Expr} {m : CheckState}
      {answers : List (List Diagnostic)} (nothing : answers.flatten = [])
      (asked : Returns (items.mapM fun item =>
        P.checkExpr (P.checkText file limit) file place (f item)) m answers d)
      (item : α) (member : item ∈ items) (subset : (f item).parts ⊆ hint.parts) :
      P.Silent files file (f item) := by
    obtain ⟨found, held, u, v, asked, kept⟩ :=
      Steady.answer_of_mem (fun item _ => steady (f item)) asked member
    obtain rfl := flatten_eq_nil nothing found held
    exact go subset asked kept
  rw [checkHint_eq] at answered
  cases shows with
  | @base pos value index =>
    rw [checkExpr] at answered
    simp only [returns_bind_iff, returns_pure_iff] at answered
    obtain ⟨outer, m, first, form, n, found, answers, _, rest, nothing, rfl⟩ := answered
    obtain ⟨rfl, _⟩ := List.append_eq_nil_iff.mp nothing.symm
    refine go ?_ first ?_
    · exact Expr.parts_subset (by simp [Expr.parts])
    · have wider := (Steady.mapM fun argument _ => steady argument.1).widens rest
      exact (((steady_find P _ _).widens found).trans wider).subset
  | @argument pos value index _ form looked member =>
    rw [checkExpr] at answered
    simp only [returns_bind_iff, returns_pure_iff] at answered
    obtain ⟨outer, m, first, form', n, found, answers, _, rest, nothing, rfl⟩ := answered
    obtain ⟨_, nothing⟩ := List.append_eq_nil_iff.mp nothing.symm
    obtain ⟨looked', _⟩ := returns_find_iff.mp found
    cases looked.symm.trans looked'
    have inside := shown_subset _ _ member
    exact goAmong nothing rest ⟨part, inside⟩ (mem_shown_attach.mpr member)
      (Expr.parts_of_mem_indices inside)
  | @left pos op left right =>
    rw [checkExpr] at answered
    simp only [returns_bind_iff, returns_pure_iff] at answered
    obtain ⟨first, m, asked, second, _, rest, nothing, rfl⟩ := answered
    obtain ⟨rfl, _⟩ := List.append_eq_nil_iff.mp nothing.symm
    exact go (Expr.parts_subset (by simp [Expr.parts])) asked ((steady right).widens rest).subset
  | @right pos op left right =>
    rw [checkExpr] at answered
    simp only [returns_bind_iff, returns_pure_iff] at answered
    obtain ⟨first, m, asked, second, _, rest, nothing, rfl⟩ := answered
    obtain ⟨_, rfl⟩ := List.append_eq_nil_iff.mp nothing.symm
    exact go (Expr.parts_subset (by simp [Expr.parts])) rest (List.Subset.refl _)
  | @tuple pos items _ member =>
    rw [checkExpr] at answered
    simp only [returns_bind_iff, returns_pure_iff] at answered
    obtain ⟨answers, _, asked, nothing, rfl⟩ := answered
    refine goAmong nothing.symm asked ⟨part, member⟩ (List.mem_attach _ _) ?_
    exact List.Subset.trans (Expr.parts_of_mem_list member) (List.subset_cons_self _ _)
  | @list pos items _ member =>
    rw [checkExpr] at answered
    simp only [returns_bind_iff, returns_pure_iff] at answered
    obtain ⟨answers, _, asked, nothing, rfl⟩ := answered
    refine goAmong nothing.symm asked ⟨part, member⟩ (List.mem_attach _ _) ?_
    exact List.Subset.trans (Expr.parts_of_mem_list member) (List.subset_cons_self _ _)
  | @dict pos items item member =>
    rw [checkExpr] at answered
    simp only [returns_bind_iff, returns_pure_iff] at answered
    obtain ⟨answers, _, asked, nothing, rfl⟩ := answered
    refine goAmong (f := fun i => i.1.value) nothing.symm asked ⟨item, member⟩
      (List.mem_attach _ _) ?_
    exact List.Subset.trans (Expr.parts_of_mem_items member) (List.subset_cons_self _ _)
  | @text pos text marked _ quotes =>
    rw [checkExpr] at answered
    exact silent_quoted (below _ _ _ (Expr.mem_parts_self _)) quotes answered within

/-- What a name in the hint stands for, which is not nothing, is bound in one of the files. -/
structure Resolved (P : Program) (files : List Path) (file : Path) (hint : Expr) : Prop where
  opened : (P.lookupExpr file hint).2 ⊆ files
  found : hint.isReference = true →
    ∃ b, (P.lookupExpr file hint).1 = .ok b ∧ b.unresolved? = none

theorem Silent.resolved (silent : P.Silent files file hint) : P.Resolved files file hint := by
  obtain ⟨limit, place, c, d, _, answered, within⟩ := silent
  have named {pos : Position} {target : Expr}
      (asked : Returns (P.checkName file pos target) c [] d) : P.Resolved files file target := by
    unfold checkName at asked
    obtain ⟨b, m, found, rest⟩ := (returns_bind_iff ..).mp asked
    have opened := subset_of_find found
    split at rest
    · cases ((returns_pure_iff _ _).mp rest).1
    · rename_i resolved
      obtain ⟨_, rfl⟩ := (returns_pure_iff _ _).mp rest
      refine ⟨List.Subset.trans opened within, fun _ => ⟨b, (returns_find_iff.mp found).1, ?_⟩⟩
      cases b with
      | unresolved message => exact absurd rfl (resolved message)
      | _ => rfl
  rw [checkHint_eq] at answered
  cases hint with
  | name pos id =>
    rw [checkExpr] at answered
    exact named answered
  | member pos value attr =>
    rw [checkExpr] at answered
    exact named answered
  | _ =>
    refine ⟨?_, fun impossible => by cases impossible⟩
    unfold lookupExpr
    exact List.nil_subset _

/-- Each name in the hint, also in what it quotes, is resolved. -/
def Clear (P : Program) (files : List Path) (file : Path) (hint : Expr) : Prop :=
  ∀ part, Relation.ReflTransGen (P.Shows file) hint part → P.Resolved files file part

theorem Silent.clear (silent : P.Silent files file hint) : P.Clear files file hint := by
  intro part reached
  refine Silent.resolved ?_
  induction reached with
  | refl => exact silent
  | tail _ shows ih => exact ih.shows shows

theorem clear_of_checkHint? {c d : CheckState}
    (answered : Returns (P.checkHint? file (some hint)) c [] d) (within : d.opened ⊆ files) :
    P.Clear files file hint :=
  Silent.clear ⟨_, _, c, d, hint.textsBelow_weight, answered, within⟩

theorem steady_checkHint? (P : Program) (file : Path) (hint : Option Expr) :
    Steady P (P.checkHint? file hint) := by
  cases hint with
  | some hint => exact steady_checkHint P file _ _ _
  | none => exact .pure

end Program

end HintSchema

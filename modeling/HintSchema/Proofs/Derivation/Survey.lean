import HintSchema.Proofs.Derivation.Native

/-!
A test of what is met when some functions are derived. It looks at everything that has to be derived
for them, down to a limit, so it decides nothing about types that mention themselves.
-/

namespace HintSchema

namespace Program

variable {P : Program} {x y : Declared}

def basesOf (P : Program) (x : Declared) : List Declared :=
  x.2.bases.filterMap fun base => match (P.lookupExpr x.1 base.base).1 with
    | .ok (.classDef home definition) => some (home, definition)
    | _ => none

theorem Inherits.mem_basesOf (inherits : P.Inherits x y) : y ∈ P.basesOf x := by
  obtain ⟨base, member, found⟩ := inherits
  exact List.mem_filterMap.mpr ⟨base, member, by rw [found]⟩

/-- The bases of the class, their bases and so on end before the limit. -/
def basesEnd (P : Program) : Nat → Declared → Bool
  | 0, _ => false
  | limit + 1, x => (P.basesOf x).all (P.basesEnd limit)

theorem not_inherits_self {limit : Nat} (ends : P.basesEnd limit x = true) :
    ¬ Relation.TransGen P.Inherits x x := by
  induction limit generalizing x with
  | zero => cases ends
  | succ limit ih =>
    intro cycle
    obtain ⟨y, inherits, back⟩ := Relation.TransGen.head'_iff.mp cycle
    have below := List.all_eq_true.mp ends y inherits.mem_basesOf
    exact ih below (.tail' back inherits)

theorem acyclic_of_basesEnd (limit : Nat)
    (ends : P.sources.all fun s => s.scope.names.all fun
      | (_, .classDef definition) => P.basesEnd limit (s.path, definition)
      | _ => true) : P.Acyclic := by
  intro x cycle
  obtain ⟨_, _, inherits⟩ := Relation.TransGen.tail'_iff.mp cycle
  obtain ⟨file, definition⟩ := x
  obtain ⟨name, bound⟩ := inherits.binds
  rcases P.source_cases file with ⟨present, same⟩ | missing
  · have each := List.all_eq_true.mp (List.all_eq_true.mp ends _ present) _ bound
    rw [same] at each
    exact not_inherits_self each cycle
  · rw [missing] at bound
    cases bound

end Program

def answer? {α : Type} (question : CheckM α) : Option α := (runFrom question {}).1.toOption

theorem Answers.answer? {α : Type} {question : CheckM α} {a : α} (answers : Answers question a) :
    answer? question = some a := by
  obtain ⟨d, answered⟩ := answers
  unfold HintSchema.answer?
  rw [answered]
  rfl

namespace Derivation

variable {P : Program} {fs : List Function} {f : Function} {handle shown further part : Handle}
  {name : String} {seen : List Handle} {limit : Nat}

/-- The functions that the functions file exports. -/
def exports (P : Program) : List Function := (P.source P.entry).exportedFunctions

/-- The handles that have to be derived for one that is seen, and perhaps more. -/
def parts? (P : Program) (shown : Handle) : Option (List Handle) :=
  match shown with
  | .list _ element => some [element]
  | .union _ => some (shown.nullable?.toList.map (·.1))
  | .record _ source arguments _ =>
    (answer? (P.propertiesOf source arguments)).map (·.map (·.2))
  | _ => some []

theorem Part.mem_parts? (held : Part P shown part) {parts : List Handle}
    (known : parts? P shown = some parts) : part ∈ parts := by
  cases held with
  | element =>
    cases known
    exact List.mem_cons_self
  | single split =>
    cases known
    rw [split]
    exact List.mem_cons_self
  | @property _ source arguments _ _ _ record _ answers present =>
    obtain ⟨symbol, aliasName, rfl⟩ := eq_record_of_record? record
    simp only [parts?, answers.answer?, Option.map_some, Option.some.injEq] at known
    rw [← known]
    exact List.mem_map_of_mem present

/-- What is seen of the handle and of all that has to be derived for it, unless that goes on beyond
the limit. -/
def survey? (P : Program) : Nat → Handle → Option (List Handle)
  | 0, _ => none
  | limit + 1, handle => do
    let shown ← answer? (P.apparent handle)
    let below ← (← parts? P shown).mapM (survey? P limit)
    return shown :: below.flatten

def declared? (P : Program) (f : Function) : Option (List Handle) :=
  (answer? (P.signature f)).map fun signature => signature.result ::
    (signature.parameters.filter fun p => (variadicMark p.kind).isNone).map (·.handle)

theorem Declares.mem_declared? (declares : Declares P f handle) {handles : List Handle}
    (known : declared? P f = some handles) : handle ∈ handles := by
  cases declares with
  | parameter signed member plain =>
    simp only [declared?, signed.answer?, Option.map_some, Option.some.injEq] at known
    rw [← known]
    exact List.mem_cons_of_mem _ (List.mem_map_of_mem (List.mem_filter.mpr ⟨member, by simp [plain]⟩))
  | result signed =>
    simp only [declared?, signed.answer?, Option.map_some, Option.some.injEq] at known
    rw [← known]
    exact List.mem_cons_self

def surveyAll? (P : Program) (limit : Nat) (fs : List Function) : Option (List Handle) := do
  let handles ← fs.mapM (declared? P)
  let seen ← handles.flatten.mapM (survey? P limit)
  return seen.flatten

theorem exists_of_mapM {α β : Type} {f : α → Option β} {items : List α} {results : List β}
    (mapped : items.mapM f = some results) {a : α} (member : a ∈ items) :
    ∃ b ∈ results, f a = some b := by
  induction items generalizing results with
  | nil => cases member
  | cons item rest ih =>
    rw [List.mapM_cons] at mapped
    obtain ⟨first, found, mapped⟩ := Option.bind_eq_some_iff.mp mapped
    obtain ⟨later, others, mapped⟩ := Option.bind_eq_some_iff.mp mapped
    cases mapped
    rcases List.mem_cons.mp member with rfl | below
    · exact ⟨first, List.mem_cons_self, found⟩
    · obtain ⟨b, present, same⟩ := ih others below
      exact ⟨b, List.mem_cons_of_mem _ present, same⟩

theorem mem_survey? (surveyed : survey? P limit handle = some seen)
    (reached : Relation.ReflTransGen (Yields P) handle further) (views : Views P further shown) :
    shown ∈ seen := by
  induction reached using Relation.ReflTransGen.head_induction_on generalizing limit seen with
  | refl =>
    cases limit with
    | zero => cases surveyed
    | succ limit =>
      simp only [survey?, Option.bind_eq_bind, Option.bind_eq_some_iff] at surveyed
      obtain ⟨own, answered, _, _, below, _, same⟩ := surveyed
      cases views.answer?.symm.trans answered
      cases same
      exact List.mem_cons_self
  | head yields _ ih =>
    cases limit with
    | zero => cases surveyed
    | succ limit =>
      simp only [survey?, Option.bind_eq_bind, Option.bind_eq_some_iff] at surveyed
      obtain ⟨own, answered, parts, known, below, mapped, same⟩ := surveyed
      obtain ⟨view, viewed, held⟩ := yields
      cases viewed.answer?.symm.trans answered
      cases same
      obtain ⟨more, present, surveyed⟩ := exists_of_mapM mapped (held.mem_parts? known)
      exact List.mem_cons_of_mem _ (List.mem_flatten_of_mem present (ih surveyed))

theorem Meets.reached (met : Meets P fs handle) : ∃ f ∈ fs, ∃ start, Declares P f start ∧
    Relation.ReflTransGen (Yields P) start handle := by
  induction met with
  | declared member declares => exact ⟨_, member, _, declares, .refl⟩
  | further _ yields ih =>
    obtain ⟨f, member, start, declares, reached⟩ := ih
    exact ⟨f, member, start, declares, reached.tail yields⟩

theorem mem_surveyAll? (surveyed : surveyAll? P limit fs = some seen) (met : Meets P fs handle)
    (views : Views P handle shown) : shown ∈ seen := by
  obtain ⟨f, member, start, declares, reached⟩ := met.reached
  simp only [surveyAll?, Option.bind_eq_bind, Option.bind_eq_some_iff] at surveyed
  obtain ⟨declared, known, all, mapped, same⟩ := surveyed
  cases same
  obtain ⟨handles, present, own⟩ := exists_of_mapM known member
  have start := List.mem_flatten_of_mem present (declares.mem_declared? own)
  obtain ⟨below, inside, surveyed⟩ := exists_of_mapM mapped start
  exact List.mem_flatten_of_mem inside (mem_survey? surveyed reached views)

def name? (P : Program) (shown : Handle) : Option String :=
  match shown.record?, nameAt? P [] shown with
  | some _, some (.ok name) => some name
  | _, _ => none

theorem Names.name? (named : Names P shown name) : name? P shown = some name := by
  obtain ⟨record, found⟩ := Option.isSome_iff_exists.mp named.1
  unfold Derivation.name?
  rw [found, named.2 []]

/-- What is seen has names of its own, and no name twice for different types. -/
def isClear (P : Program) (seen : List Handle) : Bool :=
  seen.all Handle.ownNames && seen.all fun shown => seen.all fun other =>
    (name? P shown).isNone || name? P shown != name? P other || shown.identity == other.identity

theorem clear_of_survey (quoted : P.NoQuotedRecord)
    (clear : (surveyAll? P limit fs).any (isClear P)) :
    NoInlineRecord P (Meets P fs) ∧ NoConflict P (Meets P fs) := by
  obtain ⟨seen, surveyed, clear⟩ := (Option.any_eq_true _ _).mp clear
  obtain ⟨own, apart⟩ := Bool.and_eq_true_iff.mp clear
  refine ⟨⟨quoted, fun handle shown met views => ?_⟩, ?_⟩
  · exact List.all_eq_true.mp own shown (mem_surveyAll? surveyed met views)
  · intro handle shown other shown' name met views met' views' named named'
    have first := List.all_eq_true.mp apart shown (mem_surveyAll? surveyed met views)
    have both := List.all_eq_true.mp first shown' (mem_surveyAll? surveyed met' views')
    simpa [named.name?, named'.name?] using both

end Derivation

end HintSchema

import HintSchema.Command.Run
import HintSchema.Proofs.Derivation.Step
import HintSchema.Proofs.Pairs

/-!
The functions of a module take turns in its derivation. What a turn comes to is read off what its
parameters and its result came to (`outcome_of_deriveFunction`); each function whose turn does not
end in an entry is reported (`deriveUnchecked_accounts`).
-/

namespace HintSchema

open Schema

namespace Outcome

def Succeeds (o : Outcome) : Prop := ∃ type warnings, o = .type type warnings

theorem succeeds_type (type : TypeDef) (warnings : List String) :
    (Outcome.type type warnings).Succeeds :=
  ⟨type, warnings, rfl⟩

theorem not_succeeds_errors (errors : List String) : ¬ (Outcome.errors errors).Succeeds := by
  intro succeeds
  obtain ⟨_, _, impossible⟩ := succeeds
  cases impossible

end Outcome

namespace Derivation

/-- A declared parameter and what the call for its type came to; for a variadic one there is no
call. -/
abbrev Tried := TypedParameter × Option Outcome

/-- The parameters of a function, tried one after the other. -/
inductive Trials (P : Program) (function : String) :
    DerivationState → List Tried → DerivationState → Prop
  | done (s : DerivationState) : Trials P function s [] s
  | variadic {parameter : TypedParameter} {mark : String} {later : List Tried}
      {s t : DerivationState} (marked : variadicMark parameter.kind = some mark)
      (rest : Trials P function s later t) : Trials P function s ((parameter, none) :: later) t
  | called {parameter : TypedParameter} {o : Outcome} {later : List Tried}
      {s t u : DerivationState} (plain : variadicMark parameter.kind = none)
      (returned : Returns (deriveType P 0 [.parameter function parameter.name] parameter.handle)
        s o t)
      (rest : Trials P function t later u) :
      Trials P function s ((parameter, some o) :: later) u

/-- The turn of a function: what its parameters and its result came to. -/
structure Turn where
  function : Function
  parameters : List Tried
  result : Outcome

/-- The turn is taken from `s` to `t`: the signature is read, its parameters are tried in order,
and then its result. -/
inductive Turn.Taken (P : Program) (turn : Turn) : DerivationState → DerivationState → Prop
  | mk {signature : Signature} {s t u v : DerivationState}
      (asked : Returns (asking (P.signature turn.function)) s signature t)
      (declared : turn.parameters.map (·.1) = signature.parameters)
      (tried : Trials P turn.function.name t turn.parameters u)
      (returned : Returns (deriveType P 0 [.result turn.function.name] signature.result) u
        turn.result v) : turn.Taken P s v

/-- Turns that are taken one after the other. -/
inductive Turns (P : Program) : DerivationState → List Turn → DerivationState → Prop
  | done (s : DerivationState) : Turns P s [] s
  | next {turn : Turn} {later : List Turn} {s t u : DerivationState} (taken : turn.Taken P s t)
      (rest : Turns P t later u) : Turns P s (turn :: later) u

/-- No parameter is variadic, and each parameter and the result have a type. -/
structure Turn.Derives (turn : Turn) : Prop where
  plain : ∀ parameter ∈ turn.function.definition.parameters, variadicMark parameter.kind = none
  parameters : ∀ tried ∈ turn.parameters, ∀ o, tried.2 = some o → o.Succeeds
  result : turn.result.Succeeds

def Tried.Adds (tried : Tried) (argument : Argument) : Prop :=
  argument.name = tried.1.name ∧ ∃ warnings, tried.2 = some (.type argument.type warnings)

/-- The arguments of an entry are those of a turn: one for each declared parameter, in their order,
with the type that the call for the parameter gave. -/
structure Turn.Gives (turn : Turn) (entry : FunctionEntry) : Prop where
  names : entry.arguments.map (·.name) = turn.function.definition.parameters.map (·.name)
  added : List.Forall₂ Tried.Adds turn.parameters entry.arguments

section

variable {P : Program} {s t : DerivationState}

def Tried.Succeeds (tried : Tried) : Prop := ∃ o, tried.2 = some o ∧ o.Succeeds

/-- What stands after some parameters were tried: an argument for each of them if all have a type,
and otherwise the mark of a broken function and an issue. -/
structure SignatureOutcome.Reports (o : SignatureOutcome) (tried : List Tried) : Prop where
  whole : o.broken = false → (∀ p ∈ tried, p.Succeeds) ∧ List.Forall₂ Tried.Adds tried o.arguments
  broken : o.broken = true → (∃ p ∈ tried, ¬ p.Succeeds) ∧ o.issues ≠ []

theorem reports_nil : SignatureOutcome.Reports {} [] :=
  ⟨fun _ => ⟨List.forall_mem_nil _, .nil⟩, fun broken => by cases broken⟩

variable {o o' : SignatureOutcome} {tried : List Tried} {parameter : TypedParameter}

theorem reports_failed {failed : Tried} (fails : ¬ failed.Succeeds) {issues : List String}
    (issue : issues ≠ []) :
    SignatureOutcome.Reports { o with issues := o.issues ++ issues, broken := true }
      (tried ++ [failed]) where
  whole unbroken := by cases unbroken
  broken _ := ⟨⟨failed, List.mem_append_right _ List.mem_cons_self, fails⟩,
    List.append_ne_nil_of_right_ne_nil _ issue⟩

theorem SignatureOutcome.Reports.added (reports : o.Reports tried) {new : Tried}
    {argument : Argument} (adds : new.Adds argument) (warnings : List String) :
    SignatureOutcome.Reports
      { o with arguments := o.arguments ++ [argument], issues := o.issues ++ warnings }
      (tried ++ [new]) where
  whole unbroken := by
    obtain ⟨succeeds, arguments⟩ := reports.whole unbroken
    obtain ⟨_, given⟩ := adds.2
    exact ⟨List.forall_mem_append.mpr ⟨succeeds,
        List.forall_mem_singleton.mpr ⟨_, given, Outcome.succeeds_type _ _⟩⟩,
      List.rel_append arguments (.cons adds .nil)⟩
  broken broken := by
    obtain ⟨⟨failed, member, fails⟩, issue⟩ := reports.broken broken
    exact ⟨⟨failed, List.mem_append_left _ member, fails⟩,
      List.append_ne_nil_of_left_ne_nil issue _⟩

theorem reports_of_afterParameter {function : String} {docs : List (String × String)}
    (reports : o.Reports tried)
    (returned : Returns (afterParameter P function docs o parameter) s o' t) :
    ∃ outcome, o'.Reports (tried ++ [(parameter, outcome)]) ∧ ∀ later u,
      Trials P function t later u → Trials P function s ((parameter, outcome) :: later) u := by
  unfold afterParameter at returned
  split at returned
  · rename_i mark marked
    obtain ⟨rfl, rfl⟩ := (returns_pure_iff _ _).mp returned
    have fails : ¬ Tried.Succeeds (parameter, none) := by
      intro given
      obtain ⟨_, given, _⟩ := given
      cases given
    exact ⟨none, reports_failed fails (List.cons_ne_nil _ _), fun _ _ rest => .variadic marked rest⟩
  · rename_i plain
    obtain ⟨outcome, v, derived, rest⟩ := (returns_bind_iff ..).mp returned
    cases outcome with
    | errors errors =>
      obtain ⟨rfl, rfl⟩ := (returns_pure_iff _ _).mp rest
      have fails : ¬ Tried.Succeeds (parameter, some (.errors errors)) := by
        intro given
        obtain ⟨_, ⟨⟩, succeeds⟩ := given
        exact Outcome.not_succeeds_errors errors succeeds
      exact ⟨_, reports_failed fails (errors_ne_nil derived),
        fun _ _ rest => .called plain derived rest⟩
    | type type warnings =>
      obtain ⟨rfl, rfl⟩ := (returns_pure_iff _ _).mp rest
      refine ⟨some (.type type warnings), reports.added ⟨rfl, _, rfl⟩ _, ?_⟩
      exact fun _ _ rest => .called plain derived rest

theorem trials_of_foldlM {function : String} {docs : List (String × String)}
    {parameters : List TypedParameter} (reports : o.Reports tried)
    (returned : Returns (parameters.foldlM (afterParameter P function docs) o) s o' t) :
    ∃ more : List Tried, more.map (·.1) = parameters ∧ Trials P function s more t ∧
      o'.Reports (tried ++ more) := by
  induction parameters generalizing o s tried with
  | nil =>
    obtain ⟨rfl, rfl⟩ := (returns_pure_iff _ _).mp returned
    exact ⟨[], rfl, .done _, by rwa [List.append_nil]⟩
  | cons parameter rest ih =>
    rw [List.foldlM_cons, returns_bind_iff] at returned
    obtain ⟨_, _, first, later⟩ := returned
    obtain ⟨outcome, next, tries⟩ := reports_of_afterParameter reports first
    obtain ⟨more, declared, trials, final⟩ := ih next later
    exact ⟨(parameter, outcome) :: more, congrArg (parameter :: ·) declared, tries _ _ trials,
      by rwa [List.append_cons]⟩

theorem Trials.called_iff {function : String} (trials : Trials P function s tried t) :
    ∀ p ∈ tried, p.2.isSome ↔ variadicMark p.1.kind = none := by
  induction trials with
  | done => exact List.forall_mem_nil _
  | variadic marked _ ih => exact List.forall_mem_cons.mpr ⟨by simp [marked], ih⟩
  | called plain _ _ ih => exact List.forall_mem_cons.mpr ⟨by simp [plain], ih⟩

theorem declared_of_signature {f : Function} {signature : Signature} {c d : CheckState}
    (answered : Returns (P.signature f) c signature d) :
    signature.parameters.map (fun p => (p.name, p.kind)) =
      f.definition.parameters.map fun p => (p.name, p.kind) := by
  unfold Program.signature at answered
  simp only [returns_bind_iff, returns_pure_iff] at answered
  obtain ⟨parameters, _, looped, _, _, _, rfl, _⟩ := answered
  dsimp only
  generalize f.definition.parameters = declared at looped ⊢
  induction declared generalizing c parameters with
  | nil =>
    obtain ⟨rfl, _⟩ := (returns_pure_iff _ _).mp looped
    rfl
  | cons parameter rest ih =>
    obtain ⟨typed, _, _, first, later, rfl⟩ := (returns_mapM_cons_iff ..).mp looped
    unfold Program.typedParameter at first
    simp only [returns_bind_iff, returns_pure_iff] at first
    obtain ⟨_, _, _, rfl, _⟩ := first
    rw [List.map_cons, List.map_cons, ih _ later]

variable {turn : Turn}

theorem Turn.Taken.declared (taken : turn.Taken P s t) :
    turn.parameters.map (fun p => (p.1.name, p.1.kind)) =
      turn.function.definition.parameters.map fun p => (p.name, p.kind) := by
  obtain ⟨asked, declared, _, _⟩ := taken
  obtain ⟨_, answered, _⟩ := (returns_asking_iff ..).mp asked
  rw [← declared_of_signature answered, ← declared, List.map_map]
  rfl

theorem Turn.Taken.plain_iff (taken : turn.Taken P s t) :
    (∀ p ∈ turn.function.definition.parameters, variadicMark p.kind = none) ↔
      ∀ p ∈ turn.parameters, p.2.isSome := by
  have kinds := congrArg (List.map Prod.snd) taken.declared
  rw [List.map_map, List.map_map] at kinds
  obtain ⟨_, _, trials, _⟩ := taken
  calc
    _ ↔ ∀ kind ∈ turn.function.definition.parameters.map (·.kind), variadicMark kind = none :=
      List.forall_mem_map.symm
    _ ↔ ∀ kind ∈ turn.parameters.map (·.1.kind), variadicMark kind = none := by
      exact iff_of_eq (congrArg (fun kinds : List ParameterKind =>
        ∀ kind ∈ kinds, variadicMark kind = none) kinds.symm)
    _ ↔ ∀ p ∈ turn.parameters, variadicMark p.1.kind = none := List.forall_mem_map
    _ ↔ _ := forall₂_congr fun p member => (trials.called_iff p member).symm

theorem Turn.Taken.derives_iff (taken : turn.Taken P s t) :
    turn.Derives ↔ (∀ p ∈ turn.parameters, p.Succeeds) ∧ turn.result.Succeeds := by
  constructor
  · intro derives
    refine ⟨?_, derives.result⟩
    intro p member
    obtain ⟨o, called⟩ := Option.isSome_iff_exists.mp (taken.plain_iff.mp derives.plain p member)
    exact ⟨o, called, derives.parameters p member o called⟩
  · intro given
    obtain ⟨succeed, result⟩ := given
    refine ⟨taken.plain_iff.mpr ?_, ?_, result⟩
    · intro p member
      obtain ⟨o, called, _⟩ := succeed p member
      exact Option.isSome_iff_exists.mpr ⟨o, called⟩
    · intro p member o called
      obtain ⟨_, same, succeeds⟩ := succeed p member
      cases called.symm.trans same
      exact succeeds

theorem gives_of_adds {entry : FunctionEntry}
    (declared : turn.parameters.map (fun p => (p.1.name, p.1.kind)) =
      turn.function.definition.parameters.map fun p => (p.name, p.kind))
    (arguments : List.Forall₂ Tried.Adds turn.parameters entry.arguments) : turn.Gives entry := by
  refine ⟨?_, arguments⟩
  have named : entry.arguments.map (·.name) = turn.parameters.map (·.1.name) := by
    rw [← List.forall₂_eq_eq_eq, List.forall₂_map_left_iff, List.forall₂_map_right_iff]
    exact (arguments.imp fun _ _ adds => adds.1.symm).flip.imp fun _ _ same => same.symm
  have names := congrArg (List.map Prod.fst) declared
  rw [List.map_map, List.map_map] at names
  exact named.trans names

/-- What is reported of a function after its turn: an entry with the turn's arguments exactly if
all its types were found, and at least one issue if there is no entry. -/
structure Turn.Reported (turn : Turn) (o : FunctionOutcome) : Prop where
  name : o.name = turn.function.name
  entry : o.entry.isSome ↔ turn.Derives
  issues : o.entry = none → o.issues ≠ []
  gives : ∀ entry, o.entry = some entry → turn.Gives entry

theorem turn_of_deriveFunction {f : Function} {o : FunctionOutcome}
    (returned : Returns (deriveFunction P f) s o t) :
    ∃ turn : Turn, turn.function = f ∧ turn.Taken P s t ∧ turn.Reported o := by
  replace returned := (returns_deriveFunction_iff.mp returned).2
  unfold deriveNamed at returned
  simp only [returns_bind_iff] at returned
  obtain ⟨signature, u, asked, signed, v, looped, result, w, derived, rest⟩ := returned
  obtain ⟨tried, declared, trials, reports⟩ := trials_of_foldlM reports_nil looped
  rw [List.nil_append] at reports
  have ended : t = w := by cases result <;> exact ((returns_pure_iff _ _).mp rest).2
  obtain rfl := ended
  have taken : Turn.Taken P ⟨f, tried, result⟩ s t := ⟨asked, declared, trials, derived⟩
  refine ⟨_, rfl, taken, ?_⟩
  have derives := taken.derives_iff
  cases result with
  | errors errors =>
    obtain ⟨rfl, _⟩ := (returns_pure_iff _ _).mp rest
    have fails : ¬ Turn.Derives ⟨f, tried, .errors errors⟩ :=
      fun given => Outcome.not_succeeds_errors errors given.result
    exact {
      name := rfl
      entry := by simp [fails]
      issues := fun _ => List.append_ne_nil_of_right_ne_nil _ (errors_ne_nil derived)
      gives := fun _ impossible => by cases impossible }
  | type type warnings =>
    obtain ⟨rfl, _⟩ := (returns_pure_iff _ _).mp rest
    cases state : signed.broken with
    | true =>
      obtain ⟨⟨p, member, fails⟩, issue⟩ := reports.broken state
      have fails : ¬ Turn.Derives ⟨f, tried, .type type warnings⟩ :=
        fun given => fails ((derives.mp given).1 p member)
      exact {
        name := rfl
        entry := by simp [fails]
        issues := fun _ => List.append_ne_nil_of_left_ne_nil
          (List.append_ne_nil_of_left_ne_nil issue _) _
        gives := fun _ impossible => by cases impossible }
    | false =>
      obtain ⟨succeed, arguments⟩ := reports.whole state
      exact {
        name := rfl
        entry := by simp [derives.mpr ⟨succeed, Outcome.succeeds_type type warnings⟩]
        issues := fun impossible => by cases impossible
        gives := fun _ registered => by
          cases registered
          exact gives_of_adds taken.declared arguments }

theorem turns_of_mapM {fs : List Function} {outcomes : List FunctionOutcome}
    (returned : Returns (fs.mapM (deriveFunction P)) s outcomes t) :
    ∃ turns : List Turn, turns.map (·.function) = fs ∧ Turns P s turns t ∧
      outcomes.map (·.name) = fs.map (·.name) ∧
      ∀ turn ∈ turns, ∃ o ∈ outcomes, turn.Reported o := by
  induction fs generalizing s outcomes with
  | nil =>
    obtain ⟨rfl, rfl⟩ := (returns_pure_iff _ _).mp returned
    exact ⟨[], rfl, .done _, rfl, List.forall_mem_nil _⟩
  | cons f rest ih =>
    obtain ⟨o, v, later, first, remaining, rfl⟩ := (returns_mapM_cons_iff ..).mp returned
    obtain ⟨turn, rfl, taken, reported⟩ := turn_of_deriveFunction first
    obtain ⟨turns, rfl, others, names, reports⟩ := ih remaining
    refine ⟨turn :: turns, rfl, .next taken others, ?_, ?_⟩
    · rw [List.map_cons, List.map_cons, names, reported.name]
    · refine List.forall_mem_cons.mpr ⟨⟨o, List.mem_cons_self, reported⟩, ?_⟩
      intro other member
      obtain ⟨o', listed, reported⟩ := reports other member
      exact ⟨o', List.mem_cons_of_mem _ listed, reported⟩

def DerivedFor (P : Program) (parameter : TypedParameter) (argument : Argument) : Prop :=
  argument.name = parameter.name ∧ ∃ path s warnings t,
    Returns (deriveType P 0 path parameter.handle) s (.type argument.type warnings) t

theorem Trials.arguments {function : String} {arguments : List Argument}
    (trials : Trials P function s tried t)
    (added : List.Forall₂ Tried.Adds tried arguments) :
    List.Forall₂ (DerivedFor P) (tried.map (·.1)) arguments := by
  induction trials generalizing arguments with
  | done =>
    cases added
    exact .nil
  | variadic =>
    cases added with
    | cons first later =>
      obtain ⟨_, _, impossible⟩ := first
      cases impossible
  | called _ returned _ ih =>
    cases added with
    | cons first later =>
      obtain ⟨named, warnings, same⟩ := first
      cases same
      exact .cons ⟨named, _, _, warnings, _, returned⟩ (ih later)

theorem Turns.taken {turns : List Turn} (taken : Turns P s turns t) {turn : Turn}
    (member : turn ∈ turns) : ∃ u v, turn.Taken P u v := by
  induction taken with
  | done => cases member
  | next first _ ih =>
    rcases List.mem_cons.mp member with rfl | later
    · exact ⟨_, _, first⟩
    · exact ih later

end

end Derivation

namespace SourceFile

theorem nodup_exportedFunctions (s : SourceFile) : (s.exportedFunctions.map (·.name)).Nodup := by
  -- Each function stands under its own name, and no name comes twice.
  have keyed (functions : List (String × Function))
      (kept : (Pairs.keys functions).Nodup ∧ ∀ p ∈ functions, p.2.name = p.1) :
      ((functions.map (·.2)).map (·.name)).Nodup := by
    rw [List.map_map, Function.comp_def, List.map_congr_left kept.2]
    exact kept.1
  unfold exportedFunctions
  apply keyed
  apply List.foldlRecOn (motive := fun functions : List (String × Function) =>
    (Pairs.keys functions).Nodup ∧ ∀ p ∈ functions, p.2.name = p.1)
  · exact ⟨List.nodup_nil, List.forall_mem_nil _⟩
  · rintro functions ⟨distinct, named⟩ statement _
    split
    · split
      · refine ⟨Pairs.nodup_keys_put distinct _, ?_⟩
        intro p member
        rcases Pairs.mem_put member with old | rfl
        · exact named p old
        · rfl
      · exact ⟨distinct, named⟩
    · exact ⟨distinct, named⟩

end SourceFile

namespace Derivation

/-- The schema has no entry for the function. -/
def LeavesOut (outcome : SchemaOutcome) (f : Function) : Prop :=
  Pairs.has outcome.schema.functions f.name = false

section

variable {P : Program} {fs : List Function} {outcomes : List FunctionOutcome} {registry : Registry}
  {s t : DerivationState}

def assembled (outcomes : List FunctionOutcome) (registry : Registry) : SchemaOutcome where
  schema := {
    functions := outcomes.filterMap fun o => o.entry.map (o.name, ·)
    objectTypes := registry.objectTypes
    scalarTypes := registry.scalars }
  issues := outcomes.filterMap fun o => if o.issues.isEmpty then none else some (o.name, o.issues)

theorem entry_of_assembled (distinct : (outcomes.map (·.name)).Nodup) {o : FunctionOutcome}
    (member : o ∈ outcomes) :
    Pairs.get? (assembled outcomes registry).schema.functions o.name = o.entry :=
  Pairs.get?_filterMap distinct FunctionOutcome.entry member

theorem issues_of_assembled (distinct : (outcomes.map (·.name)).Nodup) {o : FunctionOutcome}
    (member : o ∈ outcomes) (some_issues : o.issues ≠ []) :
    Pairs.get? (assembled outcomes registry).issues o.name = some o.issues := by
  have listed : (assembled outcomes registry).issues = outcomes.filterMap fun o =>
      (if o.issues.isEmpty then none else some o.issues).map (o.name, ·) := by
    refine congrArg (outcomes.filterMap ·) (funext fun o => ?_)
    split <;> rfl
  rw [listed, Pairs.get?_filterMap distinct (fun o => if o.issues.isEmpty then none else _) member,
    if_neg (by rwa [List.isEmpty_iff])]

theorem returns_deriveFunctions_iff {outcome : SchemaOutcome} :
    Returns (deriveFunctions P fs) s outcome t ↔
      ∃ outcomes, Returns (fs.mapM (deriveFunction P)) s outcomes t ∧
        outcome = assembled outcomes t.registry := by
  unfold deriveFunctions
  simp only [returns_bind_iff, returns_get_iff, returns_pure_iff]
  constructor
  · rintro ⟨outcomes, u, derived, _, _, ⟨rfl, rfl⟩, rfl, rfl⟩
    exact ⟨outcomes, derived, rfl⟩
  · rintro ⟨outcomes, derived, rfl⟩
    exact ⟨outcomes, t, derived, _, _, ⟨rfl, rfl⟩, rfl, rfl⟩

theorem raises_deriveFunctions_iff {e : DerivationFault} :
    Raises (deriveFunctions P fs) s e t ↔ Raises (fs.mapM (deriveFunction P)) s e t := by
  unfold deriveFunctions
  simp only [raises_bind_iff, raises_get_iff, raises_pure_iff, and_false, exists_false, or_false]

theorem mem_keys_issues {name : String}
    (member : name ∈ Pairs.keys (assembled outcomes registry).issues) :
    name ∈ outcomes.map (·.name) := by
  obtain ⟨e, listed, rfl⟩ := List.mem_map.mp member
  obtain ⟨o, present, given⟩ := List.mem_filterMap.mp listed
  split at given
  · cases given
  · cases given
    exact List.mem_map_of_mem present

theorem arguments_of_entry {outcome : SchemaOutcome} {f : Function} {entry : FunctionEntry}
    (returned : Returns (deriveUnchecked P) s outcome t)
    (exported : f ∈ (P.source P.entry).exportedFunctions)
    (registered : Pairs.get? outcome.schema.functions f.name = some entry) :
    ∃ signature c d, Returns (P.signature f) c signature d ∧
      List.Forall₂ (DerivedFor P) signature.parameters entry.arguments := by
  obtain ⟨outcomes, derived, rfl⟩ := returns_deriveFunctions_iff.mp returned
  obtain ⟨turns, taking, taken, names, reported⟩ := turns_of_mapM derived
  have distinct : (outcomes.map (·.name)).Nodup :=
    names ▸ SourceFile.nodup_exportedFunctions (P.source P.entry)
  rw [← taking] at exported
  obtain ⟨turn, member, rfl⟩ := List.mem_map.mp exported
  obtain ⟨o, listed, reported⟩ := reported turn member
  rw [← reported.name, entry_of_assembled distinct listed] at registered
  obtain ⟨_, _, asked, declared, trials, _⟩ := taken.taken member
  obtain ⟨_, answered, _⟩ := (returns_asking_iff ..).mp asked
  exact ⟨_, _, _, answered, declared ▸ trials.arguments (reported.gives entry registered).added⟩

theorem hasBrokenFunctions_iff (outcome : SchemaOutcome) :
    outcome.hasBrokenFunctions = true ↔
      ∃ name ∈ Pairs.keys outcome.issues, Pairs.has outcome.schema.functions name = false := by
  simp only [SchemaOutcome.hasBrokenFunctions, SchemaOutcome.brokenFunctions, Bool.not_eq_true',
    List.isEmpty_eq_false_iff_exists_mem, List.mem_filter]

theorem status_of_checkResult (outcome : SchemaOutcome) :
    (Command.checkResult outcome).status = 1 ↔ outcome.hasBrokenFunctions = true := by
  unfold Command.checkResult
  split
  · rename_i broken
    exact iff_of_true rfl broken
  · rename_i whole
    exact iff_of_false Nat.zero_ne_one whole

end

/-- No exported function disappears. Each takes its turn, and has an entry exactly if none of its
parameters is variadic and each type of its signature is found; then each declared parameter is an
argument of it. A function without an entry has issues, so there are broken functions, and checking
the file from the command line ends with status 1, exactly if an exported function is left out. -/
theorem deriveUnchecked_accounts (P : Program) (s t : DerivationState) (outcome : SchemaOutcome)
    (returned : Returns (deriveUnchecked P) s outcome t) :
    (∃ turns : List Turn, turns.map (·.function) = (P.source P.entry).exportedFunctions ∧
      Turns P s turns t ∧ ∀ turn ∈ turns,
        (Pairs.has outcome.schema.functions turn.function.name = true ↔ turn.Derives) ∧
        ∀ entry, Pairs.get? outcome.schema.functions turn.function.name = some entry →
          turn.Gives entry) ∧
    (∀ f ∈ (P.source P.entry).exportedFunctions,
      Pairs.has outcome.schema.functions f.name = true ∨
        ∃ issues, Pairs.get? outcome.issues f.name = some issues ∧ issues ≠ []) ∧
    (outcome.hasBrokenFunctions = true ↔
      ∃ f ∈ (P.source P.entry).exportedFunctions, LeavesOut outcome f) ∧
    ∀ (tree : FileTree) (libraries : List String) (environment : Command.Environment)
      (createdAt : String) (args : List String) (file : String) (defaults : Settings),
      Command.readInvocation tree environment args = .ok (.check file) →
      environment.settings tree = .ok defaults →
      deriveFile tree libraries (.ofString file) defaults = .ok outcome →
      ((Command.run tree libraries environment createdAt args).status = 1 ↔
        ∃ f ∈ (P.source P.entry).exportedFunctions, LeavesOut outcome f) := by
  unfold deriveUnchecked deriveFunctions at returned
  simp only [returns_bind_iff, returns_get_iff, returns_pure_iff] at returned
  obtain ⟨outcomes, u, derived, _, _, ⟨rfl, rfl⟩, same, rfl⟩ := returned
  change outcome = assembled outcomes t.registry at same
  subst same
  obtain ⟨turns, taking, taken, names, reported⟩ := turns_of_mapM derived
  have distinct : (outcomes.map (·.name)).Nodup :=
    names ▸ SourceFile.nodup_exportedFunctions (P.source P.entry)
  have entries (turn : Turn) (member : turn ∈ turns) : ∃ o ∈ outcomes, turn.Reported o ∧
      Pairs.get? (assembled outcomes t.registry).schema.functions turn.function.name = o.entry := by
    obtain ⟨o, listed, reported⟩ := reported turn member
    exact ⟨o, listed, reported, reported.name ▸ entry_of_assembled distinct listed⟩
  have accounted (f : Function) (exported : f ∈ (P.source P.entry).exportedFunctions)
      (missing : LeavesOut (assembled outcomes t.registry) f) :
      ∃ issues, Pairs.get? (assembled outcomes t.registry).issues f.name = some issues ∧
        issues ≠ [] := by
    rw [← taking] at exported
    obtain ⟨turn, member, rfl⟩ := List.mem_map.mp exported
    obtain ⟨o, listed, reported, entry⟩ := entries turn member
    rw [LeavesOut, Pairs.has_eq_isSome, entry, Option.isSome_eq_false_iff,
      Option.isNone_iff_eq_none] at missing
    have issues := reported.issues missing
    exact ⟨o.issues, reported.name ▸ issues_of_assembled distinct listed issues, issues⟩
  have broken : (assembled outcomes t.registry).hasBrokenFunctions = true ↔
      ∃ f ∈ (P.source P.entry).exportedFunctions, LeavesOut (assembled outcomes t.registry) f := by
    rw [hasBrokenFunctions_iff]
    constructor
    · intro given
      obtain ⟨name, issued, missing⟩ := given
      obtain ⟨f, exported, rfl⟩ := List.mem_map.mp (names ▸ mem_keys_issues issued)
      exact ⟨f, exported, missing⟩
    · intro given
      obtain ⟨f, exported, missing⟩ := given
      obtain ⟨_, issued, _⟩ := accounted f exported missing
      have known : Pairs.has (assembled outcomes t.registry).issues f.name = true := by
        rw [Pairs.has_eq_isSome, issued]
        rfl
      exact ⟨f.name, Pairs.any_key_iff.mp known, missing⟩
  refine ⟨⟨turns, taking, taken, ?_⟩, ?_, broken, ?_⟩
  · intro turn member
    obtain ⟨o, _, reported, entry⟩ := entries turn member
    rw [Pairs.has_eq_isSome, entry]
    exact ⟨reported.entry, reported.gives⟩
  · intro f exported
    cases present : Pairs.has (assembled outcomes t.registry).schema.functions f.name with
    | true => exact .inl rfl
    | false => exact .inr (accounted f exported present)
  · intro tree libraries environment createdAt args file defaults invoked settings derived
    unfold Command.run Command.withOutcome
    simp only [invoked, settings, derived, status_of_checkResult, broken]

theorem returns_of_deriveFile {tree : FileTree} {libraries : List String} {file : Path}
    {defaults : Settings} {outcome : SchemaOutcome}
    (derived : deriveFile tree libraries file defaults = .ok outcome) :
    ∃ settings P c t, Program.load tree libraries (tree.resolve file) settings = .ok P ∧
      Returns P.check (.start P) [] c ∧ Returns (deriveUnchecked P) { check := c } outcome t := by
  unfold deriveFile at derived
  obtain ⟨settings, _, derived⟩ := (Except.bind_eq_ok_iff ..).mp derived
  obtain ⟨P, loaded, derived⟩ := (Except.bind_eq_ok_iff ..).mp derived
  rw [Except.mapError_eq_ok_iff] at loaded
  unfold deriveProgram at derived
  split at derived
  · cases derived
  · rename_i c checked
    split at derived
    · rename_i found t ran
      cases derived
      exact ⟨settings, P, c, t, loaded, checked, ran⟩
    · cases derived
  · cases derived

def fileOfLines (path : Path) (lines : List String) : FileTree :=
  ⟨path.parent, [(path, (String.join (lines.map (· ++ "\n"))).toUTF8)], []⟩

/-- One function has a variadic parameter, one a warning, and one a parameter without a type. -/
def partlyBroken : FileTree := fileOfLines ⟨.root, ["app", "functions.py"]⟩ [
  "from typing import Any, TypedDict",
  "class Empty(TypedDict): pass",
  "def count(*items: int) -> int: pass",
  "def keep(empty: Empty, size: int) -> int: pass",
  "def take(rest: Any) -> int: pass"]

theorem deriveUnchecked_accounts_partlyBroken :
    ∃ settings P c outcome t,
      Program.load partlyBroken [] ⟨.root, ["app", "functions.py"]⟩ settings = .ok P ∧
      Returns P.check (.start P) [] c ∧
      Returns (deriveUnchecked P) { check := c } outcome t ∧
      deriveFile partlyBroken [] (.ofString "functions.py") {} = .ok outcome ∧
      Pairs.keys outcome.schema.functions = ["keep"] ∧
      Pairs.keys outcome.issues = ["count", "keep", "take"] ∧
      (∃ turns : List Turn, turns.map (·.function) = (P.source P.entry).exportedFunctions ∧
        Turns P { check := c } turns t ∧ ∀ turn ∈ turns,
          (Pairs.has outcome.schema.functions turn.function.name = true ↔ turn.Derives) ∧
          ∀ entry, Pairs.get? outcome.schema.functions turn.function.name = some entry →
            turn.Gives entry) ∧
      (∃ f ∈ (P.source P.entry).exportedFunctions, LeavesOut outcome f) ∧
      (Command.run partlyBroken [] {} "" ["check", "functions.py"]).status = 1 := by
  have names : (fun o => (Pairs.keys o.schema.functions, Pairs.keys o.issues,
      o.hasBrokenFunctions)) <$> deriveFile partlyBroken [] (.ofString "functions.py") {} =
      .ok (["keep"], ["count", "keep", "take"], true) := by
    decide +kernel
  obtain ⟨outcome, derived, same⟩ := (Except.map_eq_ok_iff ..).mp names
  obtain ⟨functions, issues, broken⟩ := by simpa only [Prod.mk.injEq] using same
  obtain ⟨settings, P, c, t, loaded, checked, returned⟩ := returns_of_deriveFile derived
  obtain ⟨turns, _, left, status⟩ := deriveUnchecked_accounts P { check := c } t outcome returned
  have invoked : Command.readInvocation partlyBroken {} ["check", "functions.py"] =
      .ok (.check "functions.py") := by decide +kernel
  have missing := left.mp broken
  exact ⟨settings, P, c, outcome, t, loaded, checked, returned, derived, functions, issues, turns,
    missing, (status partlyBroken [] {} "" _ _ {} invoked rfl derived).mpr missing⟩

end Derivation

end HintSchema

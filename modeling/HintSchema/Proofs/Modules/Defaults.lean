import HintSchema.Proofs.Hints.Inquiry
import HintSchema.Proofs.Modules.Parsed

/-!
Parameters and their defaults. A syntax tree that keeps the defaults of a parameter list apart gives
those of positional parameters to the last ones; as the grammar orders parameters, each has its own
default then (`layout_of_exported`).
-/

namespace HintSchema

namespace ParameterKind

def isPositional : ParameterKind → Bool
  | positionalOnly | positionalOrKeyword => true
  | _ => false

def mayPrecede : ParameterKind → ParameterKind → Bool
  | positionalOnly, _ => true
  | positionalOrKeyword, kind => kind != positionalOnly
  | variadicPositional, kind | keywordOnly, kind => kind == keywordOnly || kind == variadicKeyword
  | variadicKeyword, _ => false

end ParameterKind

namespace Parameter

/-- The first of two parameters can stand before the second one. Once a positional parameter has a
default, the later ones have one too. -/
structure Precedes (p q : Parameter) : Prop where
  kinds : p.kind.mayPrecede q.kind
  defaults : q.kind.isPositional → p.default.isSome → q.default.isSome

/-- The parameters stand in an order that the grammar has. -/
structure Ordered (ps : List Parameter) : Prop where
  order : ps.Pairwise Precedes
  variadic : ∀ p ∈ ps, p.kind = .variadicPositional ∨ p.kind = .variadicKeyword → p.default = none

abbrev Bare := String × Option Expr

def bare (p : Parameter) : Bare := (p.name, p.hint)

def ofBare (kind : ParameterKind) (bare : Bare) (default : Option Expr) : Parameter :=
  .mk kind bare.1 bare.2 default

/-- Parameters by kind, as a syntax tree keeps them. The defaults of positional parameters are a
list of their own; there is a place for a default of each keyword-only parameter. -/
structure Layout where
  positionalOnly : List Bare
  regular : List Bare
  defaults : List Expr
  variadicPositional : List Bare
  keywordOnly : List Bare
  keywordDefaults : List (Option Expr)
  variadicKeyword : List Bare

def ofKind (kind : ParameterKind) (ps : List Parameter) : List Parameter :=
  ps.filter fun p => p.kind = kind

def layout (ps : List Parameter) : Layout where
  positionalOnly := (ofKind .positionalOnly ps).map bare
  regular := (ofKind .positionalOrKeyword ps).map bare
  defaults := (ofKind .positionalOnly ps ++ ofKind .positionalOrKeyword ps).filterMap default
  variadicPositional := (ofKind .variadicPositional ps).map bare
  keywordOnly := (ofKind .keywordOnly ps).map bare
  keywordDefaults := (ofKind .keywordOnly ps).map default
  variadicKeyword := (ofKind .variadicKeyword ps).map bare

/-- As many defaults as there are parameters: the first parameters have none. -/
def aligned (count : Nat) (defaults : List Expr) : List (Option Expr) :=
  List.replicate (count - defaults.length) none ++ defaults.map some

/-- The parameters of a layout, each with its default. -/
def Layout.parameters (l : Layout) : List Parameter :=
  let defaults := aligned (l.positionalOnly.length + l.regular.length) l.defaults
  List.zipWith (ofBare .positionalOnly) l.positionalOnly
      (defaults.take l.positionalOnly.length) ++
    List.zipWith (ofBare .positionalOrKeyword) l.regular
      (defaults.drop l.positionalOnly.length) ++
    l.variadicPositional.map (ofBare .variadicPositional · none) ++
    List.zipWith (ofBare .keywordOnly) l.keywordOnly l.keywordDefaults ++
    l.variadicKeyword.map (ofBare .variadicKeyword · none)

variable {ps : List Parameter} {p : Parameter} {kind : ParameterKind}

@[simp] theorem ofKind_cons (kind : ParameterKind) (p : Parameter) (rest : List Parameter) :
    ofKind kind (p :: rest) =
      if p.kind = kind then p :: ofKind kind rest else ofKind kind rest := by
  simp [ofKind, List.filter_cons]

theorem append_ofKind (order : ps.Pairwise Precedes) :
    ofKind .positionalOnly ps ++ ofKind .positionalOrKeyword ps ++ ofKind .variadicPositional ps ++
      ofKind .keywordOnly ps ++ ofKind .variadicKeyword ps = ps := by
  induction ps with
  | nil => rfl
  | cons p rest ih =>
    obtain ⟨before, order⟩ := List.pairwise_cons.mp order
    have none (kind : ParameterKind) (never : p.kind.mayPrecede kind = false) :
        ofKind kind rest = [] := by
      refine List.filter_eq_nil_iff.mpr fun q member same => ?_
      rw [← of_decide_eq_true same, (before q member).kinds] at never
      cases never
    have ih := ih order
    cases same : p.kind <;> rw [same] at none
    case positionalOnly => simpa [same] using ih
    case positionalOrKeyword =>
      have first := none .positionalOnly rfl
      simpa [same, first] using ih
    all_goals
      have first := none .positionalOnly rfl
      have second := none .positionalOrKeyword rfl
      have third := none .variadicPositional rfl
    case variadicPositional => simpa [same, first, second, third] using ih
    case keywordOnly => simpa [same, first, second, third] using ih
    case variadicKeyword =>
      have fourth := none .keywordOnly rfl
      have fifth := none .variadicKeyword rfl
      simpa [same, first, second, third, fourth, fifth] using ih

theorem aligned_of_pairwise
    (order : ps.Pairwise fun p q => p.default.isSome → q.default.isSome) :
    aligned ps.length (ps.filterMap default) = ps.map default := by
  induction ps with
  | nil => rfl
  | cons p rest ih =>
    obtain ⟨after, order⟩ := List.pairwise_cons.mp order
    have ih := ih order
    cases held : p.default with
    | none =>
      have short := List.length_filterMap_le default rest
      rw [List.filterMap_cons_none held, List.map_cons, held, ← ih]
      simp only [aligned, List.length_cons]
      rw [Nat.sub_add_comm short, List.replicate_succ, List.cons_append]
    | some value =>
      have all : (rest.filterMap default).length = rest.length :=
        List.filterMap_length_eq_length.mpr fun q member => after q member (by rw [held]; rfl)
      rw [List.filterMap_cons_some held, List.map_cons, held, ← ih]
      simp [aligned, all]

theorem kind_of_mem_ofKind (member : p ∈ ofKind kind ps) : p ∈ ps ∧ p.kind = kind := by
  simpa [ofKind] using member

theorem ofBare_bare (p : Parameter) : ofBare p.kind p.bare p.default = p := by
  cases p
  rfl

theorem zipWith_ofBare (kind : ParameterKind) (ps : List Parameter) :
    List.zipWith (ofBare kind) ((ofKind kind ps).map bare) ((ofKind kind ps).map default) =
      ofKind kind ps := by
  rw [List.zipWith_map, List.zipWith_self]
  refine (List.map_congr_left fun p member => ?_).trans (List.map_id _)
  rw [← (kind_of_mem_ofKind member).2, ofBare_bare]
  rfl

/-- Parameters are the ones of their layout: the defaults that positional parameters have are those
that they get when the last defaults are given to the last parameters. -/
theorem parameters_layout (ordered : Ordered ps) : (layout ps).parameters = ps := by
  have whole := append_ofKind ordered.order
  have positional : (ofKind .positionalOnly ps ++ ofKind .positionalOrKeyword ps).Pairwise
      fun p q => p.default.isSome → q.default.isSome := by
    have inside : (ofKind .positionalOnly ps ++ ofKind .positionalOrKeyword ps).Sublist ps := by
      conv_rhs => rw [← whole]
      simp only [List.append_assoc]
      exact List.Sublist.append_left (List.sublist_append_left _ _) _
    refine (ordered.order.sublist inside).imp_of_mem fun {p q} _ member precedes => ?_
    refine precedes.defaults ?_
    rcases List.mem_append.mp member with only | regular
    · rw [(kind_of_mem_ofKind only).2]
      rfl
    · rw [(kind_of_mem_ofKind regular).2]
      rfl
  have given := aligned_of_pairwise positional
  have plain {kind : ParameterKind}
      (variadic : kind = .variadicPositional ∨ kind = .variadicKeyword) :
      ((ofKind kind ps).map bare).map (ofBare kind · none) = ofKind kind ps := by
    rw [List.map_map]
    refine (List.map_congr_left fun p member => ?_).trans (List.map_id _)
    obtain ⟨listed, rfl⟩ := kind_of_mem_ofKind member
    rw [Function.comp_apply, ← ordered.variadic p listed variadic, ofBare_bare]
    rfl
  conv_rhs => rw [← whole]
  unfold Layout.parameters layout
  dsimp only
  rw [List.length_map, List.length_map, ← List.length_append, given, List.map_append]
  rw [List.take_left' (List.length_map _), List.drop_left' (List.length_map _)]
  simp only [zipWith_ofBare, plain (.inl rfl), plain (.inr rfl)]

end Parameter

namespace Parser

variable {α β : Type} {q : Parser α} {Q : α → Prop} {R : β → Prop}

def Reads (q : Parser α) (Q : α → Prop) : Prop :=
  ∀ setting tokens a rest, q setting tokens = .ok (a, rest) → Q a

namespace Reads

theorem pure {a : α} (right : Q a) : Reads (pure a) Q := by
  rintro setting tokens _ _ ⟨⟩
  exact right

theorem mismatch : Reads (Parser.mismatch : Parser α) Q := by
  rintro setting tokens a rest ⟨⟩

theorem refuse : Reads (Parser.refuse : Parser α) Q := by
  rintro setting tokens a rest ⟨⟩

theorem mono {S : α → Prop} (reads : Reads q Q) (weaker : ∀ a, Q a → S a) : Reads q S :=
  fun setting tokens a rest read => weaker a (reads setting tokens a rest read)

theorem bind {r : α → Parser β} (first : Reads q Q) (rest : ∀ a, Q a → Reads (r a) R) :
    Reads (q >>= r) R := by
  intro setting tokens b final read
  obtain ⟨a, middle, one, two⟩ := run_bind read
  exact rest a (first setting tokens a middle one) setting middle b final two

theorem after {r : α → Parser β} (rest : ∀ a, Reads (r a) R) : Reads (q >>= r) R :=
  bind (Q := fun _ => True) (fun _ _ _ _ _ => trivial) fun a _ => rest a

theorem ite {c : Prop} [Decidable c] {other : Parser α} (yes : c → Reads q Q)
    (no : ¬ c → Reads other Q) : Reads (if c then q else other) Q := by
  split
  · exact yes ‹_›
  · exact no ‹_›

theorem branch {c : Prop} [Decidable c] {one two : Parser α} {next : α → Parser β}
    (rest : ∀ a, Reads (next a) R) : Reads (if c then one >>= next else two >>= next) R :=
  .ite (fun _ => .after rest) fun _ => .after rest

theorem when {c : Prop} [Decidable c] {test : Parser PUnit} {next : PUnit → Parser β}
    (rest : ∀ a, Reads (next a) R) : Reads (if c then test >>= next else next ⟨⟩) R :=
  .ite (fun _ => .after rest) fun _ => rest ⟨⟩

theorem map {r : α → β} (reads : Reads q fun a => R (r a)) : Reads (r <$> q) R := by
  rw [map_eq_pure_bind]
  exact reads.bind fun a right => .pure right

theorem iterate {next : α → Parser (Option α)}
    (step : ∀ a, Q a → Reads (next a) fun found => ∀ b, found = some b → Q b) {a : α}
    (start : Q a) : Reads (iterate next a) Q := by
  refine .after fun setting => ?_
  generalize setting.limit = fuel
  induction fuel generalizing a with
  | zero => exact .refuse
  | succ fuel ih =>
    refine (step a start).bind fun found kept => ?_
    cases found with
    | none => exact .pure start
    | some b => exact ih (kept b rfl)

theorem collect {item : Parser (Option α)}
    (each : Reads item fun found => ∀ a, found = some a → Q a) :
    Reads (collect item) fun found => ∀ a ∈ found, Q a := by
  refine .bind (Q := fun found => ∀ a ∈ found, Q a) (.iterate (fun found kept => ?_)
    (List.forall_mem_nil _)) fun found kept =>
      .pure fun a member => kept a (List.mem_reverse.mp member)
  refine each.bind fun one right => .pure fun more same => ?_
  cases one with
  | none => cases same
  | some a =>
    cases same
    exact List.forall_mem_cons.mpr ⟨right a rfl, kept⟩

theorem run (reads : Reads q Q) {dialect : Lexer.Dialect} {limit : Nat} {tokens : List Token}
    {a : α} (ran : run q dialect limit tokens = some a) : Q a := by
  unfold Parser.run at ran
  split at ran
  · rename_i result rest read
    cases ran
    exact (reads.bind fun _ right => .after fun _ => .pure right) _ _ _ _ read
  · cases ran

end Reads

/-! ### Parameters -/

/-- The parameters that can stand before this place. -/
def Section.Allows : Section → List Parameter → Prop
  | .positional sawDefault sawSlash, found => (∀ p ∈ found, p.kind.isPositional) ∧
      (sawSlash = false → ∀ p ∈ found, p.kind = .positionalOrKeyword) ∧
      (sawDefault = false → ∀ p ∈ found, p.default = none)
  | .bareStar, found | .keywordOnly, found => ∀ p ∈ found, p.kind ≠ .variadicKeyword
  | .done, _ => True

/-- The parameters found so far, the last one first, are ordered. -/
structure ParameterState.Ordered (state : ParameterState) : Prop where
  order : state.found.Pairwise fun q p => p.Precedes q
  variadic : ∀ p ∈ state.found,
    p.kind = .variadicPositional ∨ p.kind = .variadicKeyword → p.default = none
  stage : state.stage.Allows state.found

theorem ne_variadicKeyword {kind : ParameterKind} (positional : kind.isPositional) :
    kind ≠ .variadicKeyword := by
  rintro rfl
  cases positional

theorem mayPrecede_keywordOnly {kind : ParameterKind} (other : kind ≠ .variadicKeyword) :
    kind.mayPrecede .keywordOnly := by
  cases kind <;> first | rfl | exact absurd rfl other

theorem mayPrecede_variadicKeyword {kind : ParameterKind} (other : kind ≠ .variadicKeyword) :
    kind.mayPrecede .variadicKeyword := by
  cases kind <;> first | rfl | exact absurd rfl other

theorem mayPrecede_variadicPositional {kind : ParameterKind} (positional : kind.isPositional) :
    kind.mayPrecede .variadicPositional := by
  cases kind <;> first | rfl | cases positional

theorem mayPrecede_positionalOrKeyword {kind : ParameterKind} (positional : kind.isPositional) :
    kind.mayPrecede .positionalOrKeyword := by
  cases kind <;> first | rfl | cases positional

variable {state : ParameterState} {nested : Rule → Parser Expr}

theorem ParameterState.Ordered.add (ordered : state.Ordered) {new : Parameter} {stage : Section}
    {closed : Bool} (precedes : ∀ p ∈ state.found, p.Precedes new)
    (variadic : new.kind = .variadicPositional ∨ new.kind = .variadicKeyword → new.default = none)
    (allows : stage.Allows (new :: state.found)) :
    ParameterState.Ordered ⟨stage, new :: state.found, closed⟩ :=
  ⟨List.pairwise_cons.mpr ⟨precedes, ordered.order⟩,
    List.forall_mem_cons.mpr ⟨variadic, ordered.variadic⟩, allows⟩

theorem reads_parameterItem (hinted : Bool) (ordered : state.Ordered) :
    Reads (parameterItem nested hinted state) ParameterState.Ordered := by
  have allowed := ordered.stage
  unfold parameterItem
  refine .after fun kind => ?_
  split
  · split
    · rename_i sawDefault same
      rw [same] at allowed
      obtain ⟨positional, _, plain⟩ := allowed
      refine .ite (fun _ => .mismatch) fun _ => .after fun _ => .after fun _ => .pure ?_
      refine ⟨?_, ?_, ?_, ?_, ?_⟩
      · refine List.pairwise_map.mpr (ordered.order.imp_of_mem fun {q p} member _ precedes => ?_)
        exact ⟨rfl, fun _ => precedes.defaults (positional q member)⟩
      · refine List.forall_mem_map.mpr fun p _ variadic => ?_
        rcases variadic with impossible | impossible <;> cases impossible
      · exact List.forall_mem_map.mpr fun _ _ => rfl
      · intro impossible
        cases impossible
      · exact fun unseen => List.forall_mem_map.mpr fun p member => plain unseen p member
    · exact .mismatch
  · refine .ite (fun before => ?_) fun _ => .mismatch
    have positional : ∀ p ∈ state.found, p.kind.isPositional := by
      cases same : state.stage with
      | positional =>
        rw [same] at allowed
        exact allowed.1
      | _ =>
        rw [same] at before
        cases before
    refine .after fun _ => .after fun kind => ?_
    split
    · exact .pure ⟨ordered.order, ordered.variadic, fun p member =>
        ne_variadicKeyword (positional p member)⟩
    · refine .after fun id => .after fun hint => .pure (ordered.add (fun p member => ⟨?_, ?_⟩)
        (fun _ => rfl) (List.forall_mem_cons.mpr ⟨?_, fun p member => ?_⟩))
      · exact mayPrecede_variadicPositional (positional p member)
      · intro impossible
        cases impossible
      · intro impossible
        cases impossible
      · exact ne_variadicKeyword (positional p member)
  · refine .ite (fun _ => .mismatch) fun before => ?_
    have others : ∀ p ∈ state.found, p.kind ≠ .variadicKeyword := by
      cases same : state.stage with
      | positional =>
        rw [same] at allowed
        exact fun p member => ne_variadicKeyword (allowed.1 p member)
      | keywordOnly =>
        rw [same] at allowed
        exact allowed
      | bareStar => exact absurd (.inl same) before
      | done => exact absurd (.inr same) before
    refine .after fun _ => .after fun id => .after fun hint => .pure (ordered.add
      (fun p member => ⟨mayPrecede_variadicKeyword (others p member), ?_⟩) (fun _ => rfl) trivial)
    intro impossible
    cases impossible
  · refine .after fun id => .after fun hint => .after fun given => ?_
    have keyword (value : Option Expr) (others : ∀ p ∈ state.found, p.kind ≠ .variadicKeyword) :
        ParameterState.Ordered
          ⟨.keywordOnly, .mk .keywordOnly id hint value :: state.found, state.closed⟩ := by
      refine ordered.add (fun p member => ⟨mayPrecede_keywordOnly (others p member), ?_⟩) ?_
        (List.forall_mem_cons.mpr ⟨?_, others⟩)
      · intro impossible
        cases impossible
      · rintro (impossible | impossible) <;> cases impossible
      · intro impossible
        cases impossible
    refine .branch fun value => ?_
    split
    · rename_i sawDefault sawSlash same
      rw [same] at allowed
      obtain ⟨positional, regular, plain⟩ := allowed
      refine .ite (fun _ => .mismatch) fun complete => .pure (ordered.add ?_ ?_ ⟨?_, ?_, ?_⟩)
      · refine fun p member =>
          ⟨mayPrecede_positionalOrKeyword (positional p member), fun _ held => ?_⟩
        cases sawDefault with
        | false =>
          rw [plain rfl p member] at held
          cases held
        | true => simpa [Parameter.default, Option.isSome_iff_ne_none] using complete
      · rintro (impossible | impossible) <;> cases impossible
      · exact List.forall_mem_cons.mpr ⟨rfl, positional⟩
      · exact fun unseen => List.forall_mem_cons.mpr ⟨rfl, regular unseen⟩
      · intro unseen
        obtain ⟨before, now⟩ := Bool.or_eq_false_iff.mp unseen
        exact List.forall_mem_cons.mpr ⟨by simpa [Parameter.default] using now, plain before⟩
    · exact .mismatch
    · rename_i before last
      cases same : state.stage with
      | positional => exact absurd same (before _ _)
      | done => exact absurd same last
      | _ =>
        rw [same] at allowed
        exact .pure (keyword value allowed)
  · exact .mismatch

theorem reads_parameters (hinted : Bool) (closer : String) :
    Reads (parameters nested hinted closer) Parameter.Ordered := by
  unfold parameters
  refine .bind (Q := ParameterState.Ordered) (.iterate (fun state ordered => ?_) ?_)
    fun state ordered => .pure ⟨List.pairwise_reverse.mpr ordered.order, fun p member =>
      ordered.variadic p (List.mem_reverse.mp member)⟩
  · have closing (state : ParameterState) (ordered : state.Ordered) : Reads
        (if state.stage = .bareStar then Parser.mismatch
          else Pure.pure (some { state with closed := true }) : Parser (Option ParameterState))
        fun found => ∀ next, found = some next → next.Ordered := by
      refine .ite (fun _ => .mismatch) fun _ => .pure ?_
      rintro _ ⟨⟩
      exact ⟨ordered.order, ordered.variadic, ordered.stage⟩
    refine .ite (fun _ => .pure ?_) fun _ => .after fun _ =>
      .ite (fun _ => closing state ordered) ?_
    · intro _ impossible
      cases impossible
    · refine fun _ => (reads_parameterItem hinted ordered).bind fun next ordered => ?_
      refine .after fun _ => .ite (fun _ => .pure ?_) fun _ => .after fun _ =>
        .ite (fun _ => closing next ordered) fun _ => .mismatch
      rintro _ ⟨⟩
      exact ordered
  · exact ⟨.nil, List.forall_mem_nil _, List.forall_mem_nil _, fun _ => List.forall_mem_nil _,
      fun _ => List.forall_mem_nil _⟩

/-! ### Statements -/

end Parser

def Statement.Ordered : Statement → Prop
  | .functionDef definition => Parameter.Ordered definition.parameters
  | _ => True

namespace Parser

variable {nested : Rule → Parser Expr} {inner : Parser (List Statement)}

theorem reads_functionStatement (isAsync : Bool) (decorators : List Expr) :
    Reads (functionStatement nested inner isAsync decorators) Statement.Ordered := by
  refine .after fun _ => .after fun id => .after fun _ => ?_
  refine (reads_parameters true ")").bind fun parameters ordered => .after fun _ => ?_
  exact .after fun _ => .branch fun returns => .after fun body => .pure ordered

theorem reads_classStatement (decorators : List Expr) :
    Reads (classStatement nested inner decorators) Statement.Ordered :=
  .after fun _ => .after fun _ => .after fun _ => .after fun _ => .branch fun _ =>
    .after fun _ => .pure trivial

theorem reads_withStatement (isAsync : Bool) :
    Reads (withStatement nested inner isAsync) Statement.Ordered :=
  .after fun _ => .after fun _ => .after fun _ => .pure trivial

theorem reads_forStatement (isAsync : Bool) :
    Reads (forStatement nested inner isAsync) Statement.Ordered :=
  .after fun _ => .after fun _ => .after fun _ => .after fun _ => .after fun _ =>
    .after fun _ => .pure trivial

theorem reads_decorated : Reads (decorated nested inner) Statement.Ordered := by
  refine .after fun decorators => .after fun kind => ?_
  split
  · exact reads_classStatement decorators
  · exact .after fun _ => (reads_functionStatement true decorators).bind fun _ ordered =>
      .after fun _ => .pure ordered
  · exact reads_functionStatement false decorators

theorem reads_asyncStatement : Reads (asyncStatement nested inner) Statement.Ordered := by
  refine .after fun _ => .after fun kind => ?_
  have dated (s : Statement) (ordered : s.Ordered) :
      Reads (do since 5; pure s) Statement.Ordered := .after fun _ => .pure ordered
  dsimp only
  split
  · exact (reads_functionStatement true []).bind dated
  · exact (reads_withStatement true).bind dated
  · exact (reads_forStatement true).bind dated
  · exact Reads.mismatch.bind dated

theorem reads_tryStatement : Reads (tryStatement nested inner) Statement.Ordered := by
  refine .after fun _ => .after fun body => .after fun handlers => .branch fun orelse => ?_
  refine .after fun _ => .branch fun cleanup => .when fun _ => ?_
  exact .ite (fun _ => .pure trivial) fun _ =>
    .ite (fun _ => .after fun _ => .pure trivial) fun _ => .mismatch

theorem reads_declaration (target : Expr) (bracketed : Bool) :
    Reads (declaration nested target bracketed) Statement.Ordered := by
  refine .after fun _ => .after fun hint => .after fun _ => .after fun _ => ?_
  refine .branch fun initial => ?_
  exact .ite (fun _ => .pure trivial) fun _ => .mismatch

theorem reads_expressionStatement : Reads (expressionStatement nested) Statement.Ordered := by
  refine .after fun bracketed => .after fun first => .after fun kind => ?_
  split
  · exact reads_declaration first bracketed
  · exact .after fun _ => .pure trivial
  · split
    · exact .ite (fun _ => .after fun _ => .when fun _ => .after fun _ => .pure trivial)
        fun _ => .mismatch
    · exact .pure trivial

theorem reads_importStatement : Reads importStatement Statement.Ordered :=
  .after fun _ => .after fun _ => .pure trivial

theorem reads_fromStatement : Reads fromStatement Statement.Ordered :=
  .after fun _ => .after fun _ => .after fun _ => .after fun _ => .branch fun _ =>
    .after fun _ => .after fun _ => .pure trivial

theorem reads_deleteStatement : Reads (deleteStatement nested) Statement.Ordered :=
  .after fun _ => .after fun _ => .after fun _ => .after fun _ =>
    .ite (fun _ => .pure trivial) fun _ => .mismatch

theorem reads_raiseStatement : Reads (raiseStatement nested) Statement.Ordered :=
  .after fun _ => .after fun _ => .ite (fun _ => .pure trivial) fun _ => .after fun _ =>
    .after fun _ => .branch fun _ => .pure trivial

theorem reads_assertStatement : Reads (assertStatement nested) Statement.Ordered :=
  .after fun _ => .after fun _ => .after fun _ => .branch fun _ => .pure trivial

theorem reads_simpleStatement : Reads (simpleStatement nested) Statement.Ordered := by
  have word (s : SimpleStatement) : Reads (do skip; pure (.simple s)) Statement.Ordered :=
    .after fun _ => .pure trivial
  have names (f : List String → SimpleStatement) :
      Reads (do skip; return .simple (f (← separated name))) Statement.Ordered :=
    .after fun _ => .after fun _ => .pure trivial
  refine .after fun kind => ?_
  split
  · exact word .pass
  · exact word .breakLoop
  · exact word .continueLoop
  · exact .after fun _ => .after fun _ => .ite (fun _ => .pure trivial) fun _ =>
      .after fun _ => .pure trivial
  · exact names .globals
  · exact names .nonlocals
  · exact reads_raiseStatement
  · exact reads_deleteStatement
  · exact reads_assertStatement
  · exact reads_importStatement
  · exact reads_fromStatement
  · exact .map fun _ _ _ _ _ => trivial
  · exact reads_expressionStatement

theorem reads_simpleLine : Reads (simpleLine nested) fun found => ∀ s ∈ found, s.Ordered := by
  refine reads_simpleStatement.bind fun first ordered => ?_
  refine .bind (Q := fun found => ∀ s ∈ found.1, s.Ordered)
    (.iterate (fun found kept => ?_) (List.forall_mem_nil _)) fun (rest, _) kept => .after fun _ =>
      .pure (List.forall_mem_cons.mpr ⟨ordered, fun s member =>
        kept s (List.mem_reverse.mp member)⟩)
  refine .ite (fun _ => .pure ?_) fun _ => .after fun _ => .ite (fun _ => .after fun _ =>
    .ite (fun _ => .pure ?_) fun _ => reads_simpleStatement.bind fun next ordered => .pure ?_)
    fun _ => .pure ?_
  · intro _ impossible
    cases impossible
  · rintro _ ⟨⟩
    exact kept
  · rintro _ ⟨⟩
    exact List.forall_mem_cons.mpr ⟨ordered, kept⟩
  · intro _ impossible
    cases impossible

theorem reads_statement : Reads (statement nested inner) fun found => ∀ s ∈ found, s.Ordered := by
  have one {q : Parser Statement} (reads : Reads q Statement.Ordered) :
      Reads (statement.one q) fun found => ∀ s ∈ found, s.Ordered :=
    reads.bind fun s ordered => .pure (List.forall_mem_singleton.mpr ordered)
  refine .after fun kind => ?_
  split
  · exact one (.after fun _ => .after fun _ => .after fun _ => .after fun _ => .after fun _ =>
      .pure trivial)
  · exact one (.after fun _ => .after fun _ => .after fun _ => .after fun _ => .pure trivial)
  · exact one (reads_forStatement false)
  · exact one (reads_withStatement false)
  · exact one reads_tryStatement
  · exact one (reads_classStatement [])
  · exact one (reads_functionStatement false [])
  · exact one reads_asyncStatement
  · exact one reads_decorated
  · refine .after fun found => ?_
    split
    · exact one (.after fun _ => .after fun _ => .after fun _ => .pure trivial)
    · exact reads_simpleLine
  · exact reads_simpleLine

theorem reads_blockRule (depth : Nat) :
    Reads (blockRule nested depth) fun found => ∀ s ∈ found, s.Ordered := by
  cases depth with
  | zero => exact .refuse
  | succ depth =>
    refine .bind (.collect (Q := fun found : List Statement => ∀ s ∈ found, s.Ordered) ?_)
      fun found kept => .pure fun s member => ?_
    · refine .after fun kind => ?_
      split
      · exact .pure fun _ impossible => by cases impossible
      · exact .pure fun _ impossible => by cases impossible
      · exact .map (reads_statement.mono fun _ ordered _ same => Option.some.inj same ▸ ordered)
    · obtain ⟨line, listed, inside⟩ := List.mem_flatten.mp member
      exact kept line listed s inside

theorem ordered_of_module {dialect : Lexer.Dialect} {chars : List Char}
    {statements : List Statement} (parsed : module? dialect chars = some statements) :
    ∀ s ∈ statements, s.Ordered := by
  obtain ⟨tokens, _, ran⟩ := Option.bind_eq_some_iff.mp parsed
  exact (reads_blockRule _).run ran

end Parser

namespace Program

theorem ordered_of_exported {P : Program} (parsed : P.Parsed) {file : Path} {f : Function}
    (exported : f ∈ (P.source file).exportedFunctions) :
    Parameter.Ordered f.definition.parameters := by
  have defined := (SourceFile.mem_statements_of_exported exported).1
  unfold source at defined
  cases found : P.source? file with
  | none =>
    rw [found] at defined
    cases defined
  | some s =>
    rw [found, Option.getD_some, SourceFile.statements] at defined
    cases written : s.body with
    | none =>
      rw [written] at defined
      cases defined
    | some statements =>
      rw [written] at defined
      have listed := List.mem_of_find?_eq_some found
      obtain ⟨_, _, read⟩ := (parsed.modules s listed).body statements written
      exact Parser.ordered_of_module read _ defined

/-- The parameters of an exported function are those of their layout: each positional one has the
default that it gets when the defaults are given to the last of them. -/
theorem layout_of_exported {P : Program} (parsed : P.Parsed) {file : Path} {f : Function}
    (exported : f ∈ (P.source file).exportedFunctions) :
    (Parameter.layout f.definition.parameters).parameters = f.definition.parameters :=
  Parameter.parameters_layout (ordered_of_exported parsed exported)

end Program

end HintSchema

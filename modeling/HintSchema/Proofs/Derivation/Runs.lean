import HintSchema.Proofs.Derivation.Turns
import HintSchema.Proofs.Derivation.Typed

/-!
Calls for types that return one after the other, and the functions of a module as such calls. A
function's entry depends only on the types that its calls found (`Composed`).
-/

namespace HintSchema

open Schema

def Outcome.type? : Outcome → Option TypeDef
  | .type found _ => some found
  | .errors _ => none

namespace Derivation

/-- Calls that return one after the other, with questions between them. -/
inductive Runs (P : Program) :
    DerivationState → List (Handle × Outcome) → DerivationState → Prop
  | done (s : DerivationState) : Runs P s [] s
  | asked {α : Type} {question : CheckM α} {a : α} {s t u : DerivationState}
      {calls : List (Handle × Outcome)} (uniform : Uniform (P.Consistent []) question)
      (answered : Returns (asking question) s a t) (later : Runs P t calls u) : Runs P s calls u
  | called {depth : Int} {path : TypePath} {handle : Handle} {o : Outcome}
      {s t u : DerivationState} {calls : List (Handle × Outcome)}
      (returned : Returns (deriveType P depth path handle) s o t) (later : Runs P t calls u) :
      Runs P s ((handle, o) :: calls) u

def Finds (P : Program) (r : Registry) (handle : Handle) : Option TypeDef → Prop
  | some type => Typed P r handle type
  | none => Refuses P handle

section

variable {P : Program} {M : Handle → Prop} {r r' R : Registry} {s t u : DerivationState}
  {handle : Handle} {calls more : List (Handle × Outcome)}

theorem Finds.unique (territory : Territory P M) (founded : Founded P M r)
    (founded' : Founded P M r') (met : M handle) {type? other? : Option TypeDef}
    (finds : Finds P r handle type?) (again : Finds P r' handle other?) : type? = other? := by
  cases type? with
  | none =>
    cases other? with
    | none => rfl
    | some other => exact absurd finds (Typed.not_refuses territory founded' met again)
  | some type =>
    cases other? with
    | none => exact absurd again (Typed.not_refuses territory founded met finds)
    | some other => exact congrArg some (Typed.unique finds again)

theorem Runs.append (first : Runs P s calls t) (second : Runs P t more u) :
    Runs P s (calls ++ more) u := by
  induction first with
  | done => exact second
  | asked uniform answered _ ih => exact .asked uniform answered (ih second)
  | called returned _ ih => exact .called returned (ih second)

theorem Runs.ventures (territory : Territory P M) (steadied : P.Steadied (P.Consistent []))
    (runs : Runs P s calls t) (met : ∀ c ∈ calls, M c.1) (consistent : P.Consistent [] s.check)
    (tracks : Tracks P M s.registry) :
    P.Consistent [] t.check ∧ s.registry.Extends t.registry ∧
      ∃ V, (∀ c ∈ calls, V c.1) ∧ Explored P M s.registry V t.registry := by
  induction runs with
  | done =>
    exact ⟨consistent, .refl _, _, List.forall_mem_nil _, explored_none rfl⟩
  | asked uniform answered _ ih =>
    have after := (answers_of_asking uniform consistent answered).2
    have same := registry_of_asking answered
    have below := ih met after (same ▸ tracks)
    rwa [same] at below
  | called returned _ ih =>
    obtain ⟨first, others⟩ := List.forall_mem_cons.mp met
    have framed := framed_of_returns returned
    have ventures := ventures_of_returns territory steadied returned first consistent tracks
    obtain ⟨V, own, explored⟩ := ventures.explored
    obtain ⟨final, extended, W, inside, explored'⟩ :=
      ih others ventures.consistent (ventures.tracks framed tracks)
    refine ⟨final, framed.extends.trans extended, fun g => V g ∨ W g, ?_,
      explored.trans territory explored' framed.extends extended⟩
    exact List.forall_mem_cons.mpr ⟨.inl own, fun c member => .inr (inside c member)⟩

theorem Runs.attests (territory : Territory P M) (steadied : P.Steadied (P.Consistent []))
    (runs : Runs P s calls t) (met : ∀ c ∈ calls, M c.1) (consistent : P.Consistent [] s.check)
    (tracks : Tracks P M s.registry) (known : t.registry.Knows R) :
    (∀ c ∈ calls, Finds P R c.1 c.2.type?) ∧
    ∀ e ∈ t.registry.objects, e.1 ∉ s.registry.objectNames →
      ∃ c ∈ calls, (∃ type, Typed P R c.1 type) ∧ Backs P R c.1 e := by
  induction runs with
  | done => exact ⟨List.forall_mem_nil _, fun e present new =>
      absurd (List.mem_map_of_mem present) new⟩
  | asked uniform answered _ ih =>
    have after := (answers_of_asking uniform consistent answered).2
    have same := registry_of_asking answered
    have below := ih met after (same ▸ tracks) known
    rwa [same] at below
  | @called _ _ handle o s t u calls returned later ih =>
    obtain ⟨first, others⟩ := List.forall_mem_cons.mp met
    have framed := framed_of_returns returned
    have ventures := ventures_of_returns territory steadied returned first consistent tracks
    have tracks' := ventures.tracks framed tracks
    obtain ⟨_, extended, _⟩ :=
      later.ventures territory steadied others ventures.consistent tracks'
    have attests := attests_of_returns territory steadied returned first consistent tracks
      (extended.knows.trans known)
    obtain ⟨finds, backed⟩ := ih others ventures.consistent tracks' known
    constructor
    · refine List.forall_mem_cons.mpr ⟨?_, finds⟩
      cases o with
      | type type warnings => exact attests.typed type warnings rfl
      | errors errors => exact ventures.refused errors rfl
    · intro e present new
      by_cases old : e.1 ∈ t.registry.objectNames
      · have early := extended.mem_objects present old
        cases o with
        | type type warnings =>
          exact ⟨_, List.mem_cons_self, ⟨type, attests.typed type warnings rfl⟩,
            attests.backed e early new⟩
        | errors errors =>
          rw [framed.1] at early
          exact absurd (List.mem_map_of_mem early) new
      · obtain ⟨c, member, rest⟩ := backed e present old
        exact ⟨c, List.mem_cons_of_mem _ member, rest⟩

end

def Tried.found (tried : Tried) : TypedParameter × Option TypeDef :=
  (tried.1, tried.2.bind Outcome.type?)

def argument? (docs : List (String × String)) (found : TypedParameter × Option TypeDef) :
    Option Argument :=
  found.2.map fun type => {
    name := found.1.name
    type
    description := nonEmpty (Text.stripString ((Pairs.get? docs found.1.name).getD "")) }

def entryOf? (f : Function) (parameters : List (TypedParameter × Option TypeDef))
    (result? : Option TypeDef) : Option FunctionEntry :=
  match result? with
  | none => none
  | some result =>
    if parameters.any (·.2.isNone) then none
    else some {
      kind := if Pairs.has f.tags pureTag then .query else .mutation
      result
      arguments := parameters.filterMap (argument? f.docstring.parameters)
      description := nonEmpty (Text.stripString f.docstring.description) }

section

variable {P : Program} {s t : DerivationState} {function : String}
  {docs : List (String × String)} {o o' : SignatureOutcome}

theorem tried_of_afterParameter {parameter : TypedParameter}
    (returned : Returns (afterParameter P function docs o parameter) s o' t) :
    ∃ tried : Tried, tried.1 = parameter ∧
      (∀ later u, Trials P function t later u → Trials P function s (tried :: later) u) ∧
      o'.arguments = o.arguments ++ (argument? docs tried.found).toList ∧
      o'.broken = (o.broken || tried.found.2.isNone) := by
  unfold afterParameter at returned
  split at returned
  · rename_i mark marked
    obtain ⟨rfl, rfl⟩ := (returns_pure_iff _ _).mp returned
    exact ⟨(parameter, none), rfl, fun _ _ rest => .variadic marked rest,
      by simp [argument?, Tried.found], by simp [Tried.found]⟩
  · rename_i plain
    obtain ⟨outcome, u, derived, rest⟩ := (returns_bind_iff ..).mp returned
    refine ⟨(parameter, some outcome), rfl, ?_⟩
    cases outcome with
    | errors =>
      obtain ⟨rfl, rfl⟩ := (returns_pure_iff _ _).mp rest
      exact ⟨fun _ _ rest => .called plain derived rest,
        by simp [argument?, Tried.found, Outcome.type?], by simp [Tried.found, Outcome.type?]⟩
    | type =>
      obtain ⟨rfl, rfl⟩ := (returns_pure_iff _ _).mp rest
      exact ⟨fun _ _ rest => .called plain derived rest,
        by simp [argument?, Tried.found, Outcome.type?], by simp [Tried.found, Outcome.type?]⟩

theorem tried_of_foldlM {parameters : List TypedParameter}
    (returned : Returns (parameters.foldlM (afterParameter P function docs) o) s o' t) :
    ∃ tried, tried.map (·.1) = parameters ∧ Trials P function s tried t ∧
      o'.arguments = o.arguments ++ (tried.map Tried.found).filterMap (argument? docs) ∧
      o'.broken = (o.broken || (tried.map Tried.found).any (·.2.isNone)) := by
  induction parameters generalizing o s with
  | nil =>
    obtain ⟨rfl, rfl⟩ := (returns_pure_iff _ _).mp returned
    exact ⟨[], rfl, .done _, by simp, by simp⟩
  | cons parameter rest ih =>
    rw [List.foldlM_cons, returns_bind_iff] at returned
    obtain ⟨next, u, first, later⟩ := returned
    obtain ⟨new, rfl, begin, arguments, broken⟩ := tried_of_afterParameter first
    obtain ⟨tried, rfl, trials, arguments', broken'⟩ := ih later
    refine ⟨new :: tried, rfl, begin _ _ trials, ?_, ?_⟩
    · rw [arguments', arguments, List.append_assoc, List.map_cons, List.filterMap_cons]
      cases argument? docs new.found <;> rfl
    · rw [broken', broken, Bool.or_assoc, List.map_cons, List.any_cons]

theorem entry_of_deriveFunction {f : Function} {o : FunctionOutcome}
    (returned : Returns (deriveFunction P f) s o t) :
    ∃ signature u tried v result, Returns (asking (P.signature f)) s signature u ∧
      tried.map (·.1) = signature.parameters ∧ Trials P f.name u tried v ∧
      Returns (deriveType P 0 [.result f.name] signature.result) v result t ∧
      o.name = f.name ∧ o.entry = entryOf? f (tried.map Tried.found) result.type? := by
  replace returned := (returns_deriveFunction_iff.mp returned).2
  unfold deriveNamed at returned
  simp only [returns_bind_iff] at returned
  obtain ⟨signature, u, asked, signed, v, looped, result, w, derived, rest⟩ := returned
  obtain ⟨tried, declared, trials, arguments, broken⟩ := tried_of_foldlM looped
  rw [List.nil_append] at arguments
  rw [Bool.false_or] at broken
  have ended : t = w := by cases result <;> exact ((returns_pure_iff _ _).mp rest).2
  obtain rfl := ended
  refine ⟨signature, u, tried, v, result, asked, declared, trials, derived, ?_⟩
  cases result with
  | errors errors =>
    obtain ⟨rfl, _⟩ := (returns_pure_iff _ _).mp rest
    exact ⟨rfl, rfl⟩
  | type type warnings =>
    obtain ⟨rfl, _⟩ := (returns_pure_iff _ _).mp rest
    refine ⟨rfl, ?_⟩
    change (if signed.broken then none else some _) = _
    simp only [broken, arguments, entryOf?, Outcome.type?]

end

/-- The handles that are derived for a function: those of its result and of the parameters that are
not variadic. -/
inductive Declares (P : Program) (f : Function) : Handle → Prop
  | parameter {signature : Signature} {parameter : TypedParameter}
      (signed : Answers (P.signature f) signature) (declared : parameter ∈ signature.parameters)
      (plain : variadicMark parameter.kind = none) : Declares P f parameter.handle
  | result {signature : Signature} (signed : Answers (P.signature f) signature) :
      Declares P f signature.result

/-- What a function came to is made of what some calls have found. -/
inductive Composed (P : Program) (calls : List (Handle × Outcome)) (f : Function)
    (o : FunctionOutcome) : Prop
  | mk {signature : Signature} {tried : List Tried} {came : Outcome}
      (signed : Answers (P.signature f) signature)
      (declared : tried.map (·.1) = signature.parameters)
      (plain : ∀ p ∈ tried, p.2.isSome ↔ variadicMark p.1.kind = none)
      (called : ∀ p ∈ tried, ∀ o, p.2 = some o → (p.1.handle, o) ∈ calls)
      (result : (signature.result, came) ∈ calls) (name : o.name = f.name)
      (entry : o.entry = entryOf? f (tried.map Tried.found) came.type?) : Composed P calls f o

def callsOf (tried : List Tried) : List (Handle × Outcome) :=
  tried.filterMap fun p => p.2.map (p.1.handle, ·)

section

variable {P : Program} {s t : DerivationState} {calls more : List (Handle × Outcome)}
  {f : Function} {o : FunctionOutcome}

theorem mem_callsOf {tried : List Tried} {p : Tried} (member : p ∈ tried) {o : Outcome}
    (called : p.2 = some o) : (p.1.handle, o) ∈ callsOf tried :=
  List.mem_filterMap.mpr ⟨p, member, by rw [called]; rfl⟩

theorem runs_of_trials {function : String} {tried : List Tried}
    (trials : Trials P function s tried t) : Runs P s (callsOf tried) t := by
  induction trials with
  | done s => exact .done s
  | variadic _ _ ih => exact ih
  | called _ returned _ ih => exact .called returned ih

theorem Composed.mono (composed : Composed P calls f o) (subset : calls ⊆ more) :
    Composed P more f o := by
  obtain ⟨signed, declared, plain, called, result, name, entry⟩ := composed
  exact ⟨signed, declared, plain, fun p member o same => subset (called p member o same),
    subset result, name, entry⟩

theorem Composed.declares (composed : Composed P calls f o) {handle : Handle}
    (declares : Declares P f handle) : ∃ c ∈ calls, c.1 = handle := by
  obtain ⟨signed, declared, plain, called, result, _, _⟩ := composed
  cases declares with
  | result signed' =>
    obtain rfl := signed.unique signed'
    exact ⟨_, result, rfl⟩
  | parameter signed' member unmarked =>
    obtain rfl := signed.unique signed'
    rw [← declared] at member
    obtain ⟨p, tried, rfl⟩ := List.mem_map.mp member
    obtain ⟨o, same⟩ := Option.isSome_iff_exists.mp ((plain p tried).mpr unmarked)
    exact ⟨_, called p tried o same, rfl⟩

theorem composed_of_deriveFunction (steadied : P.Steadied (P.Consistent []))
    (returned : Returns (deriveFunction P f) s o t) (consistent : P.Consistent [] s.check) :
    ∃ calls, Runs P s calls t ∧ (∀ c ∈ calls, Declares P f c.1) ∧ Composed P calls f o := by
  obtain ⟨signature, u, tried, v, result, asked, declared, trials, derived, name, entry⟩ :=
    entry_of_deriveFunction returned
  have uniform := Program.uniform_signature steadied f
  have signed := (answers_of_asking uniform consistent asked).1
  have plain := trials.called_iff
  refine ⟨callsOf tried ++ [(signature.result, result)], .asked uniform asked
    ((runs_of_trials trials).append (.called derived (.done t))), ?_, ?_⟩
  · refine List.forall_mem_append.mpr ⟨?_, List.forall_mem_singleton.mpr (.result signed)⟩
    intro c member
    obtain ⟨p, inside, same⟩ := List.mem_filterMap.mp member
    obtain ⟨o, called, rfl⟩ := Option.map_eq_some_iff.mp same
    refine .parameter signed ?_ ((plain p inside).mp (Option.isSome_of_eq_some called))
    exact declared ▸ List.mem_map_of_mem inside
  · refine ⟨signed, declared, plain, ?_, List.mem_append_right _ List.mem_cons_self, name, entry⟩
    intro p member o called
    exact List.mem_append_left _ (mem_callsOf member called)

variable {M : Handle → Prop} {fs : List Function} {outcomes : List FunctionOutcome}

theorem composed_of_mapM (territory : Territory P M) (steadied : P.Steadied (P.Consistent []))
    (met : ∀ f ∈ fs, ∀ handle, Declares P f handle → M handle)
    (returned : Returns (fs.mapM (deriveFunction P)) s outcomes t)
    (consistent : P.Consistent [] s.check) (tracks : Tracks P M s.registry) :
    ∃ calls, Runs P s calls t ∧ (∀ c ∈ calls, ∃ f ∈ fs, Declares P f c.1) ∧
      List.Forall₂ (Composed P calls) fs outcomes := by
  induction fs generalizing s outcomes with
  | nil =>
    obtain ⟨rfl, rfl⟩ := (returns_pure_iff _ _).mp returned
    exact ⟨[], .done _, List.forall_mem_nil _, .nil⟩
  | cons f rest ih =>
    obtain ⟨o, v, later, first, remaining, rfl⟩ := (returns_mapM_cons_iff ..).mp returned
    obtain ⟨own, others⟩ := List.forall_mem_cons.mp met
    obtain ⟨calls, runs, declares, composed⟩ :=
      composed_of_deriveFunction steadied first consistent
    have inside (c) (member : c ∈ calls) := own c.1 (declares c member)
    obtain ⟨after, extended, _, _, explored⟩ :=
      runs.ventures territory steadied inside consistent tracks
    obtain ⟨more, runs', declares', composed'⟩ :=
      ih others remaining after (explored.tracks extended tracks)
    refine ⟨calls ++ more, runs.append runs', List.forall_mem_append.mpr ⟨?_, ?_⟩,
      .cons (composed.mono (List.subset_append_left _ _)) ?_⟩
    · exact fun c member => ⟨f, List.mem_cons_self, declares c member⟩
    · intro c member
      obtain ⟨g, listed, declared⟩ := declares' c member
      exact ⟨g, List.mem_cons_of_mem _ listed, declared⟩
    · exact composed'.imp fun _ _ composed => composed.mono (List.subset_append_right _ _)

end

end Derivation

end HintSchema

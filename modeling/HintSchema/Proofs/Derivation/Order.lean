import HintSchema.Proofs.Derivation.Survey

/-!
The order of functions. Two runs over the same functions find types for the same handles, so unless
one of them is stopped by how deep the other one never had to go, they define the same functions and
object types (`order_of_functions`).
-/

namespace HintSchema

open Schema

namespace Derivation

section

variable {P : Program} {M : Handle → Prop} {fs : List Function} {r r' : Registry}
  {calls calls' : List (Handle × Outcome)} {f : Function} {o o' : FunctionOutcome}

theorem map_eq_of_map_eq {α β γ : Type} {f : α → β} {g : α → γ} {xs ys : List α}
    (keys : xs.map f = ys.map f) (same : ∀ x ∈ xs, ∀ y ∈ ys, f x = f y → g x = g y) :
    xs.map g = ys.map g := by
  induction xs generalizing ys with
  | nil =>
    cases ys with
    | nil => rfl
    | cons => cases keys
  | cons x xs ih =>
    cases ys with
    | nil => cases keys
    | cons y ys =>
      obtain ⟨first, later⟩ := List.cons.inj keys
      have rest := ih later fun x member y present =>
        same x (List.mem_cons_of_mem _ member) y (List.mem_cons_of_mem _ present)
      rw [List.map_cons, List.map_cons, same x List.mem_cons_self y List.mem_cons_self first, rest]

theorem entry_unique (territory : Territory P M) (founded : Founded P M r)
    (founded' : Founded P M r') (met : ∀ c ∈ calls, M c.1)
    (finds : ∀ c ∈ calls, Finds P r c.1 c.2.type?)
    (finds' : ∀ c ∈ calls', Finds P r' c.1 c.2.type?) (composed : Composed P calls f o)
    (composed' : Composed P calls' f o') : o.entry = o'.entry := by
  obtain @⟨signature, tried, came, signed, declared, plain, called, result, _, entry⟩ := composed
  obtain @⟨_, tried', came', signed', declared', plain', called', result', _, entry'⟩ := composed'
  obtain rfl := signed.unique signed'
  have same {h : Handle} {x y : Outcome} (one : (h, x) ∈ calls) (other : (h, y) ∈ calls') :
      x.type? = y.type? :=
    (finds _ one).unique territory founded founded' (met _ one) (finds' _ other)
  have parameters : tried.map Tried.found = tried'.map Tried.found := by
    apply map_eq_of_map_eq (declared.trans declared'.symm)
    intro p member p' member' equal
    have both : p.2.isSome ↔ p'.2.isSome := by
      rw [plain p member, plain' p' member', equal]
    unfold Tried.found
    cases first : p.2 with
    | none =>
      cases second : p'.2 with
      | none => rw [equal]
      | some => simp [first, second] at both
    | some o =>
      cases second : p'.2 with
      | none => simp [first, second] at both
      | some o' =>
        have one := called p member o first
        rw [equal] at one
        rw [equal]
        exact congrArg (Prod.mk _) (same one (called' p' member' o' second))
  rw [entry, entry', parameters, same result result']

end

/-- What is known of a run over functions that has returned: the calls it made, and what they left.
-/
structure Ran (P : Program) (fs : List Function) (calls : List (Handle × Outcome))
    (outcomes : List FunctionOutcome) (r : Registry) : Prop where
  declared : ∀ c ∈ calls, ∃ f ∈ fs, Declares P f c.1
  composed : List.Forall₂ (Composed P calls) fs outcomes
  finds : ∀ c ∈ calls, Finds P r c.1 c.2.type?
  backed : ∀ e ∈ r.objects, ∃ c ∈ calls, (∃ type, Typed P r c.1 type) ∧ Backs P r c.1 e

section

variable {P : Program} {M : Handle → Prop} {fs fs' : List Function} {r r' : Registry}
  {calls calls' : List (Handle × Outcome)} {outcomes outcomes' : List FunctionOutcome}
  {c : CheckState} {t : DerivationState}

theorem Ran.founded (ran : Ran P fs calls outcomes r)
    (met : ∀ f ∈ fs, ∀ handle, Declares P f handle → M handle) : Founded P M r := by
  intro e present
  obtain ⟨c, member, _, backs⟩ := ran.backed e present
  obtain ⟨f, listed, declares⟩ := ran.declared c member
  exact ⟨c.1, met f listed _ declares, backs⟩

theorem Ran.called (ran : Ran P fs calls outcomes r) {f : Function} (member : f ∈ fs)
    {handle : Handle} (declares : Declares P f handle) : ∃ c ∈ calls, c.1 = handle := by
  obtain ⟨o, _, composed⟩ := exists_of_forall₂ ran.composed member
  exact composed.declares declares

theorem tracks_empty : Tracks P M {} := fun _ impossible => by cases impossible

theorem ran_of_mapM (territory : Territory P M) (steadied : P.Steadied (P.Consistent []))
    (met : ∀ f ∈ fs, ∀ handle, Declares P f handle → M handle) (blank : c.records = [])
    (returned : Returns (fs.mapM (deriveFunction P)) { check := c } outcomes t) :
    ∃ calls V, Ran P fs calls outcomes t.registry ∧ (∀ c ∈ calls, V c.1) ∧
      Explored P M {} V t.registry := by
  have consistent : P.Consistent [] c := Program.consistent_of_blank blank
  obtain ⟨calls, runs, declared, composed⟩ :=
    composed_of_mapM territory steadied met returned consistent tracks_empty
  have inside : ∀ c ∈ calls, M c.1 := by
    intro c member
    obtain ⟨f, listed, declares⟩ := declared c member
    exact met f listed _ declares
  obtain ⟨_, _, V, own, explored⟩ :=
    runs.ventures territory steadied inside consistent tracks_empty
  obtain ⟨finds, backed⟩ := runs.attests territory steadied inside consistent tracks_empty
    fun _ _ known => known
  exact ⟨calls, V, ⟨declared, composed, finds, fun e present => backed e present List.not_mem_nil⟩,
    own, explored⟩

theorem Ran.typed (territory : Territory P M) (ran : Ran P fs calls outcomes r)
    (ran' : Ran P fs' calls' outcomes' r')
    (met : ∀ f ∈ fs, ∀ handle, Declares P f handle → M handle) (same : ∀ f, f ∈ fs ↔ f ∈ fs')
    {call : Handle × Outcome} (member : call ∈ calls) {type : TypeDef}
    (typed : Typed P r call.1 type) : Typed P r' call.1 type := by
  obtain ⟨f, listed, declares⟩ := ran.declared call member
  obtain ⟨call', member', handle⟩ := ran'.called ((same f).mp listed) declares
  have finds := ran'.finds call' member'
  rw [handle] at finds
  have found : some type = call'.2.type? := Finds.unique territory (ran.founded met)
    (ran'.founded fun f listed => met f ((same f).mpr listed)) (met f listed _ declares)
    (show Finds P r call.1 (some type) from typed) finds
  rw [← found] at finds
  exact finds

theorem Ran.object? (territory : Territory P M) (ran : Ran P fs calls outcomes r)
    (ran' : Ran P fs' calls' outcomes' r')
    (met : ∀ f ∈ fs, ∀ handle, Declares P f handle → M handle) (same : ∀ f, f ∈ fs ↔ f ∈ fs')
    {name : String} {entry : RegisteredType} (found : r.object? name = some entry) :
    ∃ entry', r'.object? name = some entry' ∧ entry'.type = entry.type := by
  obtain ⟨call, member, ⟨type, typed⟩, handle, shown, reached, seen, holds⟩ :=
    ran.backed _ (Registry.mem_of_object? found)
  have ⟨_, _, _, record, named, _⟩ := holds
  have founded' := ran'.founded fun f listed => met f ((same f).mpr listed)
  obtain ⟨f, listed, declares⟩ := ran.declared call member
  have own := met f listed _ declares
  obtain ⟨inner, typed'⟩ := (ran.typed territory ran' met same member typed).reached territory
    founded' own reached
  cases typed' with
  | scalar seen' | list seen' | nullable seen' =>
    obtain rfl := seen.unique seen'
    cases record
  | record seen' named' registered =>
    obtain rfl := seen.unique seen'
    obtain rfl := named.unique named'
    obtain ⟨entry', found', holds'⟩ := holds_of_registered territory founded'
      (territory.reached own reached) seen named registered
    exact ⟨entry', found', holds'.unique holds⟩

theorem Ran.names (ran : Ran P fs calls outcomes r) :
    outcomes.map (·.name) = fs.map (·.name) := by
  rw [← List.forall₂_eq_eq_eq, List.forall₂_map_left_iff, List.forall₂_map_right_iff]
  refine ran.composed.flip.imp fun _ _ composed => ?_
  obtain ⟨_, _, _, _, _, name, _⟩ := composed
  exact name

theorem get?_objectTypes (r : Registry) (name : String) :
    Pairs.get? r.objectTypes name = (r.object? name).map (·.type) := by
  unfold Pairs.get? Registry.objectTypes Registry.object?
  exact Pairs.lookup_map_snd r.objects RegisteredType.type name

theorem Ran.objectTypes_eq (territory : Territory P M) (ran : Ran P fs calls outcomes r)
    (ran' : Ran P fs' calls' outcomes' r')
    (met : ∀ f ∈ fs, ∀ handle, Declares P f handle → M handle) (same : ∀ f, f ∈ fs ↔ f ∈ fs')
    (name : String) : Pairs.get? r.objectTypes name = Pairs.get? r'.objectTypes name := by
  rw [get?_objectTypes, get?_objectTypes]
  cases found : r.object? name with
  | some entry =>
    obtain ⟨entry', found', type⟩ := ran.object? territory ran' met same found
    simp [found', type]
  | none =>
    cases found' : r'.object? name with
    | none => rfl
    | some entry' =>
      obtain ⟨_, impossible, _⟩ := ran'.object? territory ran
        (fun f listed => met f ((same f).mpr listed)) (fun f => (same f).symm) found'
      cases found.symm.trans impossible

theorem Ran.entry_eq (territory : Territory P M) (ran : Ran P fs calls outcomes r)
    (ran' : Ran P fs' calls' outcomes' r')
    (met : ∀ f ∈ fs, ∀ handle, Declares P f handle → M handle)
    (met' : ∀ f ∈ fs', ∀ handle, Declares P f handle → M handle)
    (distinct : (fs.map (·.name)).Nodup) (distinct' : (fs'.map (·.name)).Nodup) {f : Function}
    (listed : f ∈ fs) (listed' : f ∈ fs') :
    Pairs.get? (assembled outcomes r).schema.functions f.name =
      Pairs.get? (assembled outcomes' r').schema.functions f.name := by
  rw [← ran.names] at distinct
  rw [← ran'.names] at distinct'
  obtain ⟨o, member, composed⟩ := exists_of_forall₂ ran.composed listed
  obtain ⟨o', member', composed'⟩ := exists_of_forall₂ ran'.composed listed'
  have inside : ∀ c ∈ calls, M c.1 := by
    intro c member
    obtain ⟨f, listed, declares⟩ := ran.declared c member
    exact met f listed _ declares
  have equal : o.entry = o'.entry := entry_unique territory (ran.founded met) (ran'.founded met')
    inside ran.finds ran'.finds composed composed'
  have ⟨_, _, _, _, _, named, _⟩ := composed
  have ⟨_, _, _, _, _, named', _⟩ := composed'
  calc Pairs.get? (assembled outcomes r).schema.functions f.name
      = o.entry := by rw [← named, entry_of_assembled distinct member]
    _ = o'.entry := equal
    _ = Pairs.get? (assembled outcomes' r').schema.functions f.name := by
        rw [← named', entry_of_assembled distinct' member']

theorem Ran.get?_of_not_mem (ran : Ran P fs calls outcomes r) {name : String}
    (foreign : name ∉ fs.map (·.name)) :
    Pairs.get? (assembled outcomes r).schema.functions name = none := by
  rw [← ran.names] at foreign
  refine Pairs.lookup_eq_none_iff.mpr fun listed => foreign ?_
  obtain ⟨p, member, rfl⟩ := List.mem_map.mp listed
  obtain ⟨o, present, mapped⟩ := List.mem_filterMap.mp member
  obtain ⟨_, _, rfl⟩ := Option.map_eq_some_iff.mp mapped
  exact List.mem_map_of_mem present

theorem Ran.functions_eq (territory : Territory P M) (ran : Ran P fs calls outcomes r)
    (ran' : Ran P fs' calls' outcomes' r')
    (met : ∀ f ∈ fs, ∀ handle, Declares P f handle → M handle) (same : ∀ f, f ∈ fs ↔ f ∈ fs')
    (distinct : (fs.map (·.name)).Nodup) (distinct' : (fs'.map (·.name)).Nodup) (name : String) :
    Pairs.get? (assembled outcomes r).schema.functions name =
      Pairs.get? (assembled outcomes' r').schema.functions name := by
  by_cases known : name ∈ fs.map (·.name)
  · obtain ⟨f, listed, rfl⟩ := List.mem_map.mp known
    exact ran.entry_eq territory ran' met (fun f listed => met f ((same f).mpr listed)) distinct
      distinct' listed ((same f).mp listed)
  · have foreign : name ∉ fs'.map (·.name) := by
      intro listed
      obtain ⟨f, member, rfl⟩ := List.mem_map.mp listed
      exact known (List.mem_map_of_mem ((same f).mpr member))
    rw [ran.get?_of_not_mem known, ran'.get?_of_not_mem foreign]

theorem answerable_of_explored {V : Handle → Prop} (ran : Ran P fs calls outcomes r)
    (own : ∀ c ∈ calls, V c.1) (explored : Explored P M {} V r) :
    Answerable P (Meets P fs) := by
  have finished {handle : Handle} (inside : V handle) : ∃ shown, Views P handle shown ∧
      Answered P shown ∧ ∀ part, Part P shown part → V part := by
    obtain ⟨shown, seen, ⟨_, impossible, _⟩ | rest⟩ := explored.finished handle inside
    · cases impossible
    · exact ⟨shown, seen, rest⟩
  have come : ∀ handle, Meets P fs handle → V handle := by
    intro handle met
    induction met with
    | declared member declares =>
      obtain ⟨c, called, rfl⟩ := ran.called member declares
      exact own c called
    | further _ yields ih =>
      obtain ⟨shown, seen, held⟩ := yields
      obtain ⟨view, viewed, _, parts⟩ := finished ih
      obtain rfl := viewed.unique seen
      exact parts _ held
  intro handle met
  obtain ⟨shown, seen, answered, _⟩ := finished (come handle met)
  exact ⟨shown, seen, answered⟩

end

/-- The same functions have the same entries, and the same object types are defined. -/
structure SameMaps (outcome outcome' : SchemaOutcome) : Prop where
  functions : ∀ name, Pairs.get? outcome.schema.functions name =
    Pairs.get? outcome'.schema.functions name
  objectTypes : ∀ name, Pairs.get? outcome.schema.objectTypes name =
    Pairs.get? outcome'.schema.objectTypes name

/-- How two derivations may compare: they come out alike, unless one of them stops because of how
types are nested. -/
inductive Comparable : Except DerivationFault SchemaOutcome → Except DerivationFault SchemaOutcome →
    Prop
  | returned {outcome outcome' : SchemaOutcome} (same : SameMaps outcome outcome') :
      Comparable (.ok outcome) (.ok outcome')
  | stopped (fault fault' : DerivationFault) : Comparable (.error fault) (.error fault')
  | nested {fault : DerivationFault} (outcome : SchemaOutcome) (formal : fault.IsFormal) :
      Comparable (.ok outcome) (.error fault)
  | nested' {fault : DerivationFault} (outcome : SchemaOutcome) (formal : fault.IsFormal) :
      Comparable (.error fault) (.ok outcome)

theorem Comparable.symm {one other : Except DerivationFault SchemaOutcome}
    (comparable : Comparable one other) : Comparable other one := by
  cases comparable with
  | returned same =>
    exact .returned ⟨fun name => (same.functions name).symm, fun name => (same.objectTypes name).symm⟩
  | stopped fault fault' => exact .stopped fault' fault
  | nested outcome formal => exact .nested' outcome formal
  | nested' outcome formal => exact .nested outcome formal

theorem rerun_of_territory {P : Program} {fs fs' : List Function} {c : CheckState}
    {t : DerivationState} {outcomes : List FunctionOutcome}
    (steadied : P.Steadied (P.Consistent [])) (territory : Territory P (Meets P fs))
    (displayable : Displayable P (Meets P fs)) (subset : ∀ f ∈ fs', f ∈ fs)
    (blank : c.records = [])
    (returned : Returns (fs.mapM (deriveFunction P)) { check := c } outcomes t) :
    ∃ calls, Ran P fs calls outcomes t.registry ∧
      ((∃ calls' outcomes' t', Returns (fs'.mapM (deriveFunction P)) { check := c } outcomes' t' ∧
        Ran P fs' calls' outcomes' t'.registry) ∨
      ∃ fault t', Raises (fs'.mapM (deriveFunction P)) { check := c } fault t' ∧
        fault.IsFormal) := by
  have consistent : P.Consistent [] c := Program.consistent_of_blank blank
  have met (f) (listed : f ∈ fs) (handle) (declares : Declares P f handle) :
      Meets P fs handle := .declared listed declares
  have met' (f) (listed : f ∈ fs') := met f (subset f listed)
  obtain ⟨calls, V, ran, own, explored⟩ := ran_of_mapM territory steadied met blank returned
  refine ⟨calls, ran, ?_⟩
  cases again : runFrom (fs'.mapM (deriveFunction P)) { check := c } with
  | mk answer t' =>
    cases answer with
    | ok outcomes' =>
      obtain ⟨calls', _, ran', _⟩ := ran_of_mapM territory steadied met' blank again
      exact .inl ⟨calls', outcomes', t', again, ran'⟩
    | error fault =>
      have signed (f) (listed : f ∈ fs') : ∃ signature, Answers (P.signature f) signature := by
        obtain ⟨_, _, signed, _⟩ := exists_of_forall₂ ran.composed (subset f listed)
        exact ⟨_, signed⟩
      have named (f) (listed : f ∈ fs') : f.name.isEmpty = false := by
        obtain ⟨_, _, _, _, derived⟩ := each_of_returns_mapM returned f (subset f listed)
        exact (returns_deriveFunction_iff.mp derived).1
      exact .inr ⟨fault, t', again, formal_of_mapM territory displayable steadied
        (answerable_of_explored ran own explored) named signed met' again consistent tracks_empty⟩

/-- After a run that has returned, another order of the functions leads to the same maps, or to
types that are nested too deep. -/
theorem comparable_of_returns {P : Program} {fs fs' : List Function} {c : CheckState}
    {t : DerivationState} {outcome : SchemaOutcome} (steadied : P.Steadied (P.Consistent []))
    (territory : Territory P (Meets P fs)) (displayable : Displayable P (Meets P fs))
    (perm : fs.Perm fs') (distinct : (fs.map (·.name)).Nodup) (blank : c.records = [])
    (returned : Returns (deriveFunctions P fs) { check := c } outcome t) :
    Comparable (.ok outcome) (runFrom (deriveFunctions P fs') { check := c }).1 := by
  have same (f : Function) : f ∈ fs ↔ f ∈ fs' := perm.mem_iff
  have met (f) (listed : f ∈ fs) (handle) (declares : Declares P f handle) :
      Meets P fs handle := .declared listed declares
  have distinct' : (fs'.map (·.name)).Nodup := (perm.map (·.name)).nodup_iff.mp distinct
  obtain ⟨outcomes, mapped, rfl⟩ := returns_deriveFunctions_iff.mp returned
  obtain ⟨calls, ran, ⟨calls', outcomes', t', mapped', ran'⟩ | ⟨fault, t', raised, formal⟩⟩ :=
    rerun_of_territory steadied territory displayable (fun f listed => (same f).mpr listed) blank
      mapped
  · rw [returns_deriveFunctions_iff.mpr ⟨outcomes', mapped', rfl⟩]
    exact .returned ⟨ran.functions_eq territory ran' met same distinct distinct',
      ran.objectTypes_eq territory ran' met same⟩
  · rw [raises_deriveFunctions_iff.mpr raised]
    exact .nested _ formal

/-- Unless hints hold inline records, records of different types share a name or classes inherit
from themselves, the order of a file's functions does not matter: in any two orders the same
functions have the same entries and the same object types are defined, or both derivations stop, or
one of them stops because of how types are nested. -/
theorem order_of_functions (P : Program) (parsed : P.Parsed) (acyclic : P.Acyclic)
    (fs fs' : List Function) (exported : fs.Perm (exports P))
    (perm : fs.Perm fs') (named : NoInlineRecord P (Meets P fs)) (apart : NoConflict P (Meets P fs))
    (c : CheckState) (blank : c.records = []) :
    Comparable (runFrom (deriveFunctions P fs) { check := c }).1
      (runFrom (deriveFunctions P fs') { check := c }).1 := by
  have steadied := Program.steadied_consistent acyclic parsed.placed
  have territory : Territory P (Meets P fs) :=
    territory_meets steadied parsed.placed (fun f listed => exported.mem_iff.mp listed) named apart
  have distinct : (fs.map (·.name)).Nodup :=
    (exported.map (·.name)).nodup_iff.mpr (SourceFile.nodup_exportedFunctions _)
  have together : Meets P fs = Meets P fs' := meets_congr fun f => perm.mem_iff
  cases run : runFrom (deriveFunctions P fs) { check := c } with
  | mk answer t =>
    cases answer with
    | ok outcome =>
      exact comparable_of_returns steadied territory (displayable_meets named) perm distinct blank run
    | error fault =>
      cases run' : runFrom (deriveFunctions P fs') { check := c } with
      | mk answer' t' =>
        cases answer' with
        | error fault' => exact .stopped fault fault'
        | ok outcome' =>
          rw [together] at territory named
          have distinct' := (perm.map (·.name)).nodup_iff.mp distinct
          have back := comparable_of_returns steadied territory (displayable_meets named) perm.symm
            distinct' blank run'
          rw [run] at back
          exact back.symm

/-- The names of the functions in a schema that has been derived. -/
def functionNames? (derived : Except DerivationFault SchemaOutcome) : Option (List String) :=
  derived.toOption.map fun outcome => Pairs.keys outcome.schema.functions

theorem exists_of_functionNames? {derived : Except DerivationFault SchemaOutcome}
    {names : List String} (named : functionNames? derived = some names) :
    ∃ outcome, derived = .ok outcome ∧ Pairs.keys outcome.schema.functions = names := by
  cases derived with
  | error => cases named
  | ok outcome => exact ⟨outcome, rfl, Option.some.inj named⟩

/-- A function that is broken shares a type with another one. -/
def shared : Program := .ofLines ⟨.root, ["app", "functions.py"]⟩ [
  "from typing import TypedDict",
  "class Item(TypedDict):",
  "    name: str",
  "def first(name: str) -> int:",
  "    return 0",
  "def broken(item: Item, data: bytes) -> int:",
  "    return 0",
  "def last(items: list[Item]) -> int:",
  "    return 0"]

theorem shared_clear : shared.Parsed ∧ shared.Acyclic ∧
    NoInlineRecord shared (Meets shared (exports shared)) ∧
    NoConflict shared (Meets shared (exports shared)) := by
  have tests : (shared.sources.all fun s => s.nodes.all Program.isPlainNode) = true ∧
      (surveyAll? shared 3 (exports shared)).any (isClear shared) = true := by
    decide +kernel
  obtain ⟨plain, clear⟩ := tests
  exact ⟨Program.parsed_ofLines (by decide +kernel) _,
    Program.acyclic_of_basesEnd 1 (by decide +kernel),
    clear_of_survey (Program.noQuotedRecord_of_plain plain) clear⟩

theorem shared_derives : (exports shared).length = 3 ∧
    functionNames? (runFrom (deriveFunctions shared (exports shared)) { check := {} }).1 =
      some ["first", "last"] := by
  decide +kernel

theorem order_of_functions_shared : (exports shared).Perm (exports shared).reverse ∧
    functionNames? (runFrom (deriveFunctions shared (exports shared)) { check := {} }).1 =
      some ["first", "last"] ∧
    Comparable (runFrom (deriveFunctions shared (exports shared)) { check := {} }).1
      (runFrom (deriveFunctions shared (exports shared).reverse) { check := {} }).1 := by
  obtain ⟨parsed, acyclic, named, apart⟩ := shared_clear
  have reversed := (List.reverse_perm (exports shared)).symm
  exact ⟨reversed, shared_derives.2,
    order_of_functions shared parsed acyclic _ _ (.refl _) reversed named apart {} rfl⟩

/-- A type of a broken function is inside another one, as deep as it may be. -/
def deepInner : Program := .ofLines ⟨.root, ["app", "functions.py"]⟩ [
  "from typing import TypedDict",
  "class Inner(TypedDict):",
  "    x: int",
  "class Outer(TypedDict):",
  "    y: list[list[list[list[list[list[list[list[list[list[list[list[list[list[list[list[list[" ++
    "list[list[Inner]]]]]]]]]]]]]]]]]]]",
  "def first(inner: Inner, data: bytes) -> int:",
  "    return 0",
  "def second(outer: Outer) -> int:",
  "    return 0"]

/-- Two classes inherit from each other. -/
def mutualBases : Program := .ofLines ⟨.root, ["app", "functions.py"]⟩ [
  "from typing import TypedDict",
  "class A(B):",
  "    x: int",
  "class B(A, TypedDict):",
  "    y: int",
  "def first(a: A) -> int:",
  "    return 0",
  "def second(b: B) -> int:",
  "    return 0"]

/-- The order of functions can matter: a type that is known already is not too deep, and what a
class is that inherits from itself depends on where the checker begins. -/
theorem order_matters :
    (NoInlineRecord deepInner (Meets deepInner (exports deepInner)) ∧
      NoConflict deepInner (Meets deepInner (exports deepInner)) ∧
      functionNames? (runFrom (deriveFunctions deepInner (exports deepInner)) { check := {} }).1 =
        some ["second"] ∧
      (runFrom (deriveFunctions deepInner (exports deepInner).reverse) { check := {} }).1 =
        .error (.tooDeep "int")) ∧
    NoInlineRecord mutualBases (Meets mutualBases (exports mutualBases)) ∧
      NoConflict mutualBases (Meets mutualBases (exports mutualBases)) ∧
      functionNames? (runFrom (deriveFunctions mutualBases (exports mutualBases))
        { check := {} }).1 = some ["first", "second"] ∧
      functionNames? (runFrom (deriveFunctions mutualBases (exports mutualBases).reverse)
        { check := {} }).1 = some ["second"] := by
  have deep : (deepInner.sources.all fun s => s.nodes.all Program.isPlainNode) = true ∧
      (surveyAll? deepInner 25 (exports deepInner)).any (isClear deepInner) = true ∧
      functionNames? (runFrom (deriveFunctions deepInner (exports deepInner)) { check := {} }).1 =
        some ["second"] ∧
      (runFrom (deriveFunctions deepInner (exports deepInner).reverse) { check := {} }).1 =
        .error (.tooDeep "int") := by
    decide +kernel
  have mutualTests : (mutualBases.sources.all fun s => s.nodes.all Program.isPlainNode) = true ∧
      (surveyAll? mutualBases 3 (exports mutualBases)).any (isClear mutualBases) = true ∧
      functionNames? (runFrom (deriveFunctions mutualBases (exports mutualBases))
        { check := {} }).1 = some ["first", "second"] ∧
      functionNames? (runFrom (deriveFunctions mutualBases (exports mutualBases).reverse)
        { check := {} }).1 = some ["second"] := by
    decide +kernel
  obtain ⟨plain, clear, derived, stopped⟩ := deep
  obtain ⟨plain', clear', both, one⟩ := mutualTests
  obtain ⟨named, apart⟩ := clear_of_survey (Program.noQuotedRecord_of_plain plain) clear
  obtain ⟨named', apart'⟩ := clear_of_survey (Program.noQuotedRecord_of_plain plain') clear'
  exact ⟨⟨named, apart, derived, stopped⟩, named', apart', both, one⟩

end Derivation

end HintSchema

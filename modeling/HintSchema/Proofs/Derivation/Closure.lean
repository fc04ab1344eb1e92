import HintSchema.Derivation.Module
import HintSchema.Proofs.Derivation.Frame

/-!
Every type that a schema mentions is defined in it. A type in progress already has its entry, and a
failure takes entries back only together with all that could mention them.
-/

namespace HintSchema

open Schema

namespace Schema.TypeDef

/-- The named types inside a type. -/
def references : TypeDef → List (String × TypeKind)
  | named name kind => [(name, kind)]
  | nullable underlying _ => references underlying
  | array element => references element

end Schema.TypeDef

namespace Schema.FunctionEntry

def types (f : FunctionEntry) : List TypeDef := f.result :: f.arguments.map (·.type)

end Schema.FunctionEntry

namespace FunctionsSchema

/-- The types of all arguments, results and properties. -/
def types (S : FunctionsSchema) : List TypeDef :=
  (S.functions.flatMap fun f => f.2.types) ++
    S.objectTypes.flatMap fun o => o.2.properties.map (·.type)

def Defines (S : FunctionsSchema) : String × TypeKind → Prop
  | (name, .object) => name ∈ Pairs.keys S.objectTypes
  | (name, .scalar) => name ∈ S.scalarTypes

end FunctionsSchema

namespace Registry

variable {r r' : Registry} {type : TypeDef}

def Defines (r : Registry) : String × TypeKind → Prop
  | (name, .object) => name ∈ r.objectNames
  | (name, .scalar) => name ∈ r.scalars

def Covers (r : Registry) (type : TypeDef) : Prop :=
  ∀ reference ∈ type.references, r.Defines reference

def Closed (r : Registry) : Prop :=
  ∀ e ∈ r.objects, ∀ p ∈ e.2.type.properties, r.Covers p.type

theorem Covers.mono (covered : r.Covers type) (extended : r.Extends r') : r'.Covers type := by
  intro reference member
  obtain ⟨name, kind⟩ := reference
  have defined := covered _ member
  cases kind with
  | object => exact extended.names defined
  | scalar => exact extended.scalars.subset defined

theorem covers_object {name : String} (known : name ∈ r.objectNames) :
    r.Covers (.named name .object) := by
  intro reference member
  cases List.mem_singleton.mp member
  exact known

theorem covers_added_scalar (name : String) :
    (r.addScalar name).Covers (.named name .scalar) := by
  intro reference member
  cases List.mem_singleton.mp member
  change name ∈ (r.addScalar name).scalars
  unfold addScalar
  split
  · rename_i known
    exact List.contains_iff_mem.mp known
  · simp

theorem covers_array_iff : r.Covers (.array type) ↔ r.Covers type := Iff.rfl

theorem covers_nullable_iff {absence : Absence} :
    r.Covers (.nullable type absence) ↔ r.Covers type := Iff.rfl

theorem mem_objectNames_of_object? {name : String} {entry : RegisteredType}
    (found : r.object? name = some entry) : name ∈ r.objectNames := by
  by_cases known : name ∈ r.objectNames
  · exact known
  · cases found.symm.trans (object?_eq_none_iff.mpr known)

theorem Closed.of_objects_eq (closed : r.Closed) (same : r'.objects = r.objects)
    (scalars : r.scalars <+: r'.scalars) : r'.Closed := by
  intro e member p property
  rw [same] at member
  exact (closed e member p property).mono (.of_objects_eq same scalars)

theorem Closed.opened (closed : r.Closed) {name : String} (absent : name ∉ r.objectNames)
    (identity : Identity) : (r.putObject name ⟨identity, {}⟩).Closed := by
  have objects := putObject_absent absent ⟨identity, {}⟩
  have extended : r.Extends (r.putObject name ⟨identity, {}⟩) := by
    refine ⟨⟨_, objects, ?_⟩, List.prefix_refl _⟩
    simpa using absent
  intro e member p property
  rw [objects] at member
  rcases List.mem_append.mp member with old | new
  · exact (closed e old p property).mono extended
  · cases List.mem_singleton.mp new
    cases property

theorem Closed.closed {name : String} {identity : Identity} {properties : List Property}
    {before after : List (String × RegisteredType)} (closed : r.Closed)
    (opened : r.objects = before ++ (name, ⟨identity, {}⟩) :: after)
    (objects : r'.objects = before ++ (name, ⟨identity, ⟨properties⟩⟩) :: after)
    (scalars : r'.scalars = r.scalars) (covered : ∀ p ∈ properties, r.Covers p.type) :
    r'.Closed := by
  have names : r'.objectNames = r.objectNames := by simp [objectNames, opened, objects]
  have same : ∀ type, r.Covers type → r'.Covers type := by
    intro type covered reference member
    obtain ⟨name, kind⟩ := reference
    have defined := covered _ member
    cases kind <;> simpa only [Defines, names, scalars] using defined
  intro e member p property
  rw [objects] at member
  rcases List.mem_append.mp member with old | rest
  · exact same _ (closed e (by simp [opened, old]) p property)
  · rcases List.mem_cons.mp rest with rfl | new
    · exact same _ (covered p property)
    · exact same _ (closed e (by simp [opened, new]) p property)

end Registry

namespace Derivation

/-- A call leaves a closed registry closed, and the type it gives is covered there. -/
def Closing (s : DerivationState) (o : Outcome) (t : DerivationState) : Prop :=
  s.registry.Closed → t.registry.Closed ∧
    ∀ type warnings, o = .type type warnings → t.registry.Covers type

theorem closing_of_errors {s t : DerivationState} {errors : List String}
    (closed : s.registry.Closed → t.registry.Closed) : Closing s (.errors errors) t := by
  intro start
  refine ⟨closed start, ?_⟩
  intro _ _ same
  cases same

theorem Walk.closing {C : Calls} {path : TypePath} {name : String} {members : Properties}
    {found whole : PropertyOutcomes} {s t : DerivationState}
    (each : ∀ path handle s o t, C path handle s o t → Framed s o t ∧ Closing s o t)
    (walked : Walk C path name members found s whole t) (closed : s.registry.Closed)
    (covered : ∀ p ∈ found.properties, s.registry.Covers p.type) :
    t.registry.Closed ∧ ∀ p ∈ whole.properties, t.registry.Covers p.type := by
  induction walked with
  | done => exact ⟨closed, covered⟩
  | @next _ _ _ outcome _ _ _ u _ derived _ ih =>
    obtain ⟨framed, closing⟩ := each _ _ _ _ _ derived
    obtain ⟨still, typed⟩ := closing closed
    have kept := fun p member => (covered p member).mono framed.extends
    apply ih still
    cases outcome with
    | errors => exact kept
    | type type warnings =>
      intro p member
      rcases List.mem_append.mp member with old | new
      · exact kept p old
      · cases List.mem_singleton.mp new
        exact typed _ _ rfl

theorem Step.closing {P : Program} {C : Calls} {path : TypePath} {handle : Handle}
    {s t : DerivationState} {o : Outcome}
    (each : ∀ path handle s o t, C path handle s o t → Framed s o t ∧ Closing s o t)
    (step : Step P C path handle s o t) : Closing s o t := by
  have framed : ∀ path handle s o t, C path handle s o t → Framed s o t :=
    fun _ _ _ _ _ derived => (each _ _ _ _ _ derived).1
  cases step with
  | unsupported | outside | conflict => exact closing_of_errors id
  | scalar named =>
    intro closed
    have extended := Registry.extends_addScalar s.registry
    refine ⟨closed.of_objects_eq (Registry.objects_addScalar _ _) (extended _).scalars, ?_⟩
    intro _ _ same
    cases same
    exact Registry.covers_added_scalar _
  | list derived =>
    intro closed
    obtain ⟨still, typed⟩ := (each _ _ _ _ _ derived).2 closed
    refine ⟨still, ?_⟩
    intro _ _ same
    cases same
    exact Registry.covers_array_iff.mpr (typed _ _ rfl)
  | listFailed failed => exact (each _ _ _ _ _ failed).2
  | nullable _ derived =>
    intro closed
    obtain ⟨still, typed⟩ := (each _ _ _ _ _ derived).2 closed
    refine ⟨still, ?_⟩
    intro _ _ same
    cases same
    exact Registry.covers_nullable_iff.mpr (typed _ _ rfl)
  | nullableFailed _ failed => exact (each _ _ _ _ _ failed).2
  | known _ _ found _ =>
    intro closed
    refine ⟨closed, ?_⟩
    intro _ _ same
    cases same
    exact Registry.covers_object (Registry.mem_objectNames_of_object? found)
  | @registered _ _ _ name _ found _ _ _ _ _ fresh asked walked _ =>
    intro closed
    have absent := Registry.object?_eq_none_iff.mp fresh
    have extended := opened_extends framed asked walked
    obtain ⟨new, objects, replaced, _⟩ := Registry.closed_objects absent _
      ⟨handle.identity, ⟨found.properties⟩⟩ extended
    have opened := closed.opened absent handle.identity
    obtain ⟨still, covered⟩ :=
      walked.closing each (by rwa [registry_of_asking asked]) (List.forall_mem_nil _)
    refine ⟨still.closed objects replaced rfl covered, ?_⟩
    intro _ _ same
    cases same
    apply Registry.covers_object
    simp [Registry.objectNames, DerivationState.closeObject, replaced]
  | evicted record named fresh asked walked failed =>
    have failure := Step.framed framed (.evicted record named fresh asked walked failed)
    exact closing_of_errors fun closed => closed.of_objects_eq failure.1 failure.2

theorem closing_of_returns {P : Program} {depth : Int} {path : TypePath} {handle : Handle}
    {s t : DerivationState} {o : Outcome}
    (returned : Returns (deriveType P depth path handle) s o t) : Closing s o t := by
  refine deriveType_induct (M := fun _ _ _ s o t => Closing s o t) ?_ returned
  intro _ _ _ _ s u o t _ seen step
  have closing := step.closing fun _ _ _ _ _ derived =>
    ⟨framed_of_returns derived.1, derived.2⟩
  unfold Closing at closing ⊢
  rwa [registry_of_asking seen] at closing

def ClosedAfter (s t : DerivationState) : Prop :=
  s.registry.Extends t.registry ∧ t.registry.Closed

theorem ClosedAfter.trans {s t u : DerivationState} (first : ClosedAfter s t)
    (second : ClosedAfter t u) : ClosedAfter s u :=
  ⟨first.1.trans second.1, second.2⟩

theorem closedAfter_of_returns {P : Program} {depth : Int} {path : TypePath} {handle : Handle}
    {s t : DerivationState} {o : Outcome}
    (returned : Returns (deriveType P depth path handle) s o t) (closed : s.registry.Closed) :
    ClosedAfter s t :=
  ⟨(framed_of_returns returned).extends, (closing_of_returns returned closed).1⟩

theorem covers_of_returns {P : Program} {depth : Int} {path : TypePath} {handle : Handle}
    {s t : DerivationState} {type : TypeDef} {warnings : List String}
    (returned : Returns (deriveType P depth path handle) s (.type type warnings) t)
    (closed : s.registry.Closed) : t.registry.Covers type :=
  (closing_of_returns returned closed).2 _ _ rfl

theorem afterParameter_closed {P : Program} {function : String} {docs : List (String × String)}
    {o o' : SignatureOutcome} {parameter : TypedParameter} {s t : DerivationState}
    (returned : Returns (afterParameter P function docs o parameter) s o' t)
    (closed : s.registry.Closed) (covered : ∀ a ∈ o.arguments, s.registry.Covers a.type) :
    ClosedAfter s t ∧ ∀ a ∈ o'.arguments, t.registry.Covers a.type := by
  unfold afterParameter at returned
  split at returned
  · obtain ⟨rfl, rfl⟩ := (returns_pure_iff _ _).mp returned
    exact ⟨⟨.refl _, closed⟩, covered⟩
  · obtain ⟨outcome, u, derived, rest⟩ := (returns_bind_iff ..).mp returned
    have after := closedAfter_of_returns derived closed
    have kept := fun a member => (covered a member).mono after.1
    cases outcome with
    | errors =>
      obtain ⟨rfl, rfl⟩ := (returns_pure_iff _ _).mp rest
      exact ⟨after, kept⟩
    | type type warnings =>
      obtain ⟨rfl, rfl⟩ := (returns_pure_iff _ _).mp rest
      refine ⟨after, ?_⟩
      intro a member
      rcases List.mem_append.mp member with old | new
      · exact kept a old
      · cases List.mem_singleton.mp new
        exact covers_of_returns derived closed

theorem deriveFunction_closed {P : Program} {f : Function} {o : FunctionOutcome}
    {s t : DerivationState} (returned : Returns (deriveFunction P f) s o t)
    (closed : s.registry.Closed) :
    ClosedAfter s t ∧
      ∀ entry, o.entry = some entry → ∀ type ∈ entry.types, t.registry.Covers type := by
  replace returned := (returns_deriveFunction_iff.mp returned).2
  unfold deriveNamed at returned
  simp only [returns_bind_iff] at returned
  obtain ⟨signature, u, asked, o', v, looped, outcome, w, derived, rest⟩ := returned
  have start := registry_of_asking asked
  have ⟨after, covered⟩ := looped.foldlM_keeps
    (fun o v => ClosedAfter u v ∧ ∀ a ∈ o.arguments, v.registry.Covers a.type)
    (fun _ _ _ _ _ _ kept derived =>
      have ⟨later, covered⟩ := afterParameter_closed derived kept.1.2 kept.2
      ⟨kept.1.trans later, covered⟩)
    ⟨⟨.refl _, by rwa [start]⟩, List.forall_mem_nil _⟩
  have whole := after.trans (closedAfter_of_returns derived after.2)
  unfold ClosedAfter at whole ⊢
  rw [start] at whole
  have kept := fun a member => (covered a member).mono (closedAfter_of_returns derived after.2).1
  cases outcome with
  | errors =>
    obtain ⟨rfl, rfl⟩ := (returns_pure_iff _ _).mp rest
    exact ⟨whole, fun _ registered => by cases registered⟩
  | type result warnings =>
    obtain ⟨rfl, rfl⟩ := (returns_pure_iff _ _).mp rest
    refine ⟨whole, ?_⟩
    intro entry registered
    split at registered
    · cases registered
    · cases registered
      intro type member
      rcases List.mem_cons.mp member with rfl | argument
      · exact covers_of_returns derived after.2
      · obtain ⟨a, present, rfl⟩ := List.mem_map.mp argument
        exact kept a present

theorem mapM_deriveFunction_closed {P : Program} {functions : List Function}
    {outcomes : List FunctionOutcome} {s t : DerivationState}
    (returned : Returns (functions.mapM (deriveFunction P)) s outcomes t)
    (closed : s.registry.Closed) :
    ClosedAfter s t ∧ ∀ o ∈ outcomes,
      ∀ entry, o.entry = some entry → ∀ type ∈ entry.types, t.registry.Covers type := by
  induction functions generalizing s outcomes with
  | nil =>
    obtain ⟨rfl, rfl⟩ := (returns_pure_iff _ _).mp returned
    exact ⟨⟨.refl _, closed⟩, List.forall_mem_nil _⟩
  | cons f rest ih =>
    obtain ⟨o, u, later, first, remaining, rfl⟩ := (returns_mapM_cons_iff ..).mp returned
    obtain ⟨after, covered⟩ := deriveFunction_closed first closed
    obtain ⟨final, others⟩ := ih remaining after.2
    refine ⟨after.trans final, ?_⟩
    intro o' member entry registered type mentioned
    rcases List.mem_cons.mp member with rfl | other
    · exact (covered entry registered type mentioned).mono final.1
    · exact others o' other entry registered type mentioned

/-- A schema defines every object type and every scalar that is mentioned anywhere in it, whatever
fails while it is derived. -/
theorem deriveUnchecked_defines (P : Program) (c : CheckState) (outcome : SchemaOutcome)
    (t : DerivationState) (returned : Returns (deriveUnchecked P) { check := c } outcome t) :
    ∀ type ∈ outcome.schema.types, ∀ reference ∈ type.references,
      outcome.schema.Defines reference := by
  unfold deriveUnchecked deriveFunctions at returned
  simp only [returns_bind_iff, returns_get_iff, returns_pure_iff] at returned
  obtain ⟨outcomes, u, derived, _, _, ⟨rfl, rfl⟩, rfl, rfl⟩ := returned
  have empty : ({ check := c } : DerivationState).registry.Closed := by
    intro e member
    cases member
  obtain ⟨⟨_, closed⟩, entries⟩ := mapM_deriveFunction_closed derived empty
  have defines : ∀ type, t.registry.Covers type → ∀ reference ∈ type.references,
      FunctionsSchema.Defines
        ⟨outcomes.filterMap fun o => o.entry.map (o.name, ·), t.registry.objectTypes,
          t.registry.scalars⟩ reference := by
    intro type covered reference member
    obtain ⟨name, kind⟩ := reference
    have defined := covered _ member
    cases kind with
    | scalar => exact defined
    | object =>
      simpa [FunctionsSchema.Defines, Registry.Defines, Pairs.keys, Registry.objectTypes,
        Registry.objectNames] using defined
  intro type member
  apply defines
  rcases List.mem_append.mp member with called | held
  · obtain ⟨⟨name, entry⟩, exported, mentioned⟩ := List.mem_flatMap.mp called
    obtain ⟨o, present, named⟩ := List.mem_filterMap.mp exported
    obtain ⟨_, registered, same⟩ := Option.map_eq_some_iff.mp named
    cases same
    exact entries o present _ registered type mentioned
  · obtain ⟨⟨name, object⟩, registered, mentioned⟩ := List.mem_flatMap.mp held
    obtain ⟨e, present, same⟩ := List.mem_map.mp registered
    cases same
    obtain ⟨p, property, rfl⟩ := List.mem_map.mp mentioned
    exact closed e present p property

/-- `Branch` fails after `Leaf` has mentioned it, and another function still uses `Leaf`. -/
def cyclicWithFailure : Program := .ofLines ⟨.root, ["app", "functions.py"]⟩ [
  "from typing import Any, Optional, TypedDict",
  "class Branch(TypedDict):",
  "    leaf: \"Leaf\"",
  "    rest: Any",
  "class Leaf(TypedDict):",
  "    next: Optional[\"Leaf\"]",
  "    size: int",
  "def grow(branch: Branch) -> Leaf:",
  "    return 0",
  "def shrink(leaf: Leaf) -> int:",
  "    return 0"]

theorem deriveUnchecked_defines_cyclicWithFailure :
    ∃ outcome t,
      Returns (deriveUnchecked cyclicWithFailure) { check := .start cyclicWithFailure } outcome t ∧
      Pairs.keys outcome.schema.functions = ["shrink"] ∧
      Pairs.keys outcome.schema.objectTypes = ["Leaf"] ∧
      ∀ type ∈ outcome.schema.types, ∀ reference ∈ type.references,
        outcome.schema.Defines reference := by
  have names : (runFrom
      ((fun o => (Pairs.keys o.schema.functions, Pairs.keys o.schema.objectTypes)) <$>
        deriveUnchecked cyclicWithFailure)
      { check := .start cyclicWithFailure }).1 = .ok (["shrink"], ["Leaf"]) := by decide +kernel
  obtain ⟨outcome, returned, same⟩ := (returns_map_iff ..).mp (returns_of_ok names)
  obtain ⟨functions, objects⟩ := Prod.mk.inj same.symm
  exact ⟨outcome, _, returned, functions, objects, deriveUnchecked_defines _ _ _ _ returned⟩

end Derivation

end HintSchema

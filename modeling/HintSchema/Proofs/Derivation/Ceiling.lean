import HintSchema.Proofs.Derivation.Frame
import HintSchema.Proofs.Derivation.Nested
import HintSchema.Proofs.Hints.Realm

/-!
The depth limit on handles that are lists and unions of leaves. Each list and each nullable union
is a layer, and a derivation stops exactly if it starts too deep for the layers it has to take off.
-/

namespace HintSchema

open Schema

namespace Handle

/-- Lists and unions over leaves: no record and no deferred alias anywhere. -/
inductive Plain : Handle → Prop
  | intrinsic (kind : Intrinsic) : Plain (.intrinsic kind)
  | void (text : String) : Plain (.void text)
  | union {members : List Handle} (parts : ∀ h ∈ members, Plain h) : Plain (.union members)
  | list {name : String} {element : Handle} (inner : Plain element) : Plain (.list name element)
  | awaitable {name : String} {arguments : List Handle} (parts : ∀ h ∈ arguments, Plain h) :
      Plain (.awaitable name arguments)
  | classObject {symbol : Symbol} {arguments : List Handle} (parts : ∀ h ∈ arguments, Plain h) :
      Plain (.classObject symbol arguments)
  | typeParameter (name : String) : Plain (.typeParameter name)
  | unsupported (text : String) (symbol : Option Symbol) : Plain (.unsupported text symbol)

/-- What is under the outermost layer: the element of a list, or the single type beside those that
stand for absence. -/
def under? (h : Handle) : Option Handle :=
  match h with
  | .list _ element => some element
  | .union _ => h.nullable?.map (·.1)
  | _ => .none

theorem under?_eq_some {h inner : Handle} (under : h.under? = some inner) :
    (∃ name, h = .list name inner) ∨
      ∃ members absence, h = .union members ∧ h.nullable? = some (inner, absence) := by
  cases h with
  | list name element =>
    cases under
    exact .inl ⟨name, rfl⟩
  | union members =>
    obtain ⟨⟨single, absence⟩, split, rfl⟩ := Option.map_eq_some_iff.mp under
    exact .inr ⟨members, absence, rfl, split⟩
  | _ => cases under

theorem sizeOf_under?_lt {h inner : Handle} (under : h.under? = some inner) :
    sizeOf inner < sizeOf h := by
  rcases under?_eq_some under with ⟨name, rfl⟩ | ⟨members, absence, rfl, split⟩
  · simp only [list.sizeOf_spec]
    omega
  · have := List.sizeOf_lt_of_mem (mem_of_nullable? split)
    simp only [union.sizeOf_spec]
    omega

/-- The number of lists and nullable unions around the core. -/
def layers (h : Handle) : Nat :=
  match _under : h.under? with
  | some inner => inner.layers + 1
  | .none => 0
termination_by sizeOf h
decreasing_by exact sizeOf_under?_lt _under

/-- What is left when all lists and nullable unions are taken off. -/
def core (h : Handle) : Handle :=
  match _under : h.under? with
  | some inner => inner.core
  | .none => h
termination_by sizeOf h
decreasing_by exact sizeOf_under?_lt _under

theorem layers_of_under? {h inner : Handle} (under : h.under? = some inner) :
    h.layers = inner.layers + 1 := by
  rw [layers]
  split <;> simp_all

theorem core_of_under? {h inner : Handle} (under : h.under? = some inner) :
    h.core = inner.core := by
  rw [core]
  split <;> simp_all

theorem layers_of_leaf {h : Handle} (leaf : h.under? = .none) : h.layers = 0 := by
  rw [layers]
  split <;> simp_all

theorem core_of_leaf {h : Handle} (leaf : h.under? = .none) : h.core = h := by
  rw [core]
  split <;> simp_all

theorem form_eq_scalar_iff {h : Handle} : h.form = .scalar ↔ h.scalarName?.isSome := by
  cases h with
  | intrinsic kind => cases kind <;> decide
  | union members =>
    unfold form
    dsimp only
    split <;> simp [scalarName?]
  | awaitable name arguments => rcases arguments with _ | ⟨_, _ | _⟩ <;> simp [form, scalarName?]
  | _ => simp [form, scalarName?]

theorem layers_induct {Q : Handle → Prop} (leaf : ∀ h, h.under? = .none → Q h)
    (layer : ∀ h inner, h.under? = some inner → Q inner → Q h) (h : Handle) : Q h :=
  match _under : h.under? with
  | .none => leaf h _under
  | some inner => layer h inner _under (layers_induct leaf layer inner)
termination_by sizeOf h
decreasing_by exact sizeOf_under?_lt _under

namespace Plain

variable {h inner : Handle}

theorem written (plain : h.Plain) : ∃ text, h.display? = .ok text := by
  have all : ∀ handles : List Handle, (∀ h ∈ handles, ∃ text, h.display? = .ok text) →
      ∃ texts, displayAll? handles = .ok texts := by
    intro handles each
    cases shown : displayAll? handles with
    | ok texts => exact ⟨texts, rfl⟩
    | error =>
      obtain ⟨h, member, unwritten⟩ := exists_of_displayAll? shown
      obtain ⟨text, written⟩ := each h member
      cases unwritten.symm.trans written
  induction plain with
  | intrinsic | void | typeParameter | unsupported => exact ⟨_, rfl⟩
  | list _ ih =>
    obtain ⟨text, written⟩ := ih
    exact ⟨_, by rw [display?, written]; rfl⟩
  | union _ ih | awaitable _ ih | classObject _ ih =>
    obtain ⟨texts, written⟩ := all _ ih
    exact ⟨_, by rw [display?, written]; rfl⟩

theorem under (plain : h.Plain) (under : h.under? = some inner) : inner.Plain := by
  rcases under?_eq_some under with ⟨name, rfl⟩ | ⟨members, absence, rfl, split⟩
  · cases plain with
    | list part => exact part
  · cases plain with
    | union parts => exact parts _ (mem_of_nullable? split)

end Plain

theorem Flat.under {h inner : Handle} (flat : h.Flat) (under : h.under? = some inner) :
    inner.Flat ∧ (h.members?.isSome → inner.members? = .none) := by
  rcases under?_eq_some under with ⟨name, rfl⟩ | ⟨members, absence, rfl, split⟩
  · cases flat with
    | list part => exact ⟨part, nofun⟩
  · cases flat with
    | union single parts =>
      have member := mem_of_nullable? split
      exact ⟨parts _ member, fun _ => single _ member⟩

end Handle

namespace Derivation

variable {P : Program} {h inner : Handle} {depth : Int} {s t : DerivationState}

theorem seen_of_plain (plain : h.Plain) : Returns (asking (P.apparent h)) s h s := by
  have same : P.apparent h = pure h := by cases plain <;> rfl
  rw [same]
  exact (returns_asking_iff ..).mpr ⟨_, (returns_pure_iff ..).mpr ⟨rfl, rfl⟩, rfl⟩

theorem raises_tooDeep (plain : h.Plain) (deep : depthLimit < depth) :
    ∃ text, ∀ path, Raises (deriveType P depth path h) s (.tooDeep text) s := by
  obtain ⟨text, written⟩ := plain.written
  refine ⟨text, ?_⟩
  intro path
  rw [deriveType, raises_bind_iff]
  refine .inr ⟨h, s, seen_of_plain plain, ?_⟩
  rw [dif_pos deep, raises_bind_iff]
  exact .inr ⟨text, s, (returns_asking_display_iff ..).mpr ⟨written, rfl⟩,
    (raises_throw_iff ..).mpr ⟨rfl, rfl⟩⟩

theorem raises_of_under {e : DerivationFault} (plain : h.Plain) (under : h.under? = some inner)
    (within : depth ≤ depthLimit)
    (stopped : ∀ path, Raises (deriveType P (depth + 1) path inner) s e s) (path : TypePath) :
    Raises (deriveType P depth path h) s e s := by
  rw [deriveType, raises_bind_iff]
  refine .inr ⟨h, s, seen_of_plain plain, ?_⟩
  rw [dif_neg (by omega)]
  rcases Handle.under?_eq_some under with ⟨name, rfl⟩ | ⟨members, absence, rfl, split⟩
  · exact (raises_bind_iff ..).mpr (.inl (stopped _))
  · simp only [split]
    exact (raises_bind_iff ..).mpr (.inl (stopped _))

theorem raises_of_layers (plain : h.Plain) (deep : depthLimit < depth + h.layers) :
    ∃ text, ∀ path, Raises (deriveType P depth path h) s (.tooDeep text) s := by
  induction h using Handle.layers_induct generalizing depth with
  | leaf h leaf =>
    rw [Handle.layers_of_leaf leaf] at deep
    exact raises_tooDeep plain (by omega)
  | layer h inner under ih =>
    by_cases within : depth ≤ depthLimit
    · rw [Handle.layers_of_under? under] at deep
      have deeper : depthLimit < depth + 1 + inner.layers := by omega
      obtain ⟨text, stopped⟩ := ih (plain.under under) deeper
      exact ⟨text, raises_of_under plain under within stopped⟩
    · exact raises_tooDeep plain (by omega)

theorem returns_of_leaf (plain : h.Plain) (leaf : h.under? = none) (within : depth ≤ depthLimit)
    (path : TypePath) :
    (∃ name, h.scalarName? = some name ∧
      Returns (deriveType P depth path h) s (.type (.named name .scalar) [])
        { s with registry := s.registry.addScalar name }) ∨
    (h.scalarName? = none ∧
      ∃ error, Returns (deriveType P depth path h) s (.errors [error]) s) := by
  obtain ⟨text, written⟩ := plain.written
  have unsupported (inexpressible : h.isExpressible = false) :
      ∃ error, Returns (deriveType P depth path h) s (.errors [error]) s :=
    ⟨_, (returns_deriveType_iff ..).mpr
      ⟨h, s, seen_of_plain plain, within, .unsupported inexpressible written⟩⟩
  cases plain with
  | intrinsic kind =>
    cases named : kind.scalarName? with
    | some name =>
      exact .inl ⟨name, named, (returns_deriveType_iff ..).mpr
        ⟨_, s, seen_of_plain (.intrinsic kind), within, .scalar named⟩⟩
    | none =>
      exact .inr ⟨named, unsupported (by simp [Handle.isExpressible_intrinsic, named])⟩
  | union =>
    have split := Option.map_eq_none_iff.mp leaf
    exact .inr ⟨rfl, unsupported (by simp [Handle.isExpressible_union, split])⟩
  | list => cases leaf
  | @awaitable name arguments =>
    refine .inr ⟨rfl, unsupported ?_⟩
    rcases arguments with _ | ⟨_, _ | _⟩ <;> rfl
  | _ => exact .inr ⟨rfl, unsupported rfl⟩

theorem returns_of_layers (flat : h.Flat) (plain : h.Plain) (within : depth + h.layers ≤ depthLimit)
    (path : TypePath) :
    (∃ name type, h.core.scalarName? = some name ∧ (h.members? = none → type.isNullable = false) ∧
      Returns (deriveType P depth path h) s (.type type [])
        { s with registry := s.registry.addScalar name }) ∨
    (h.core.scalarName? = none ∧
      ∃ error, Returns (deriveType P depth path h) s (.errors [error]) s) := by
  induction h using Handle.layers_induct generalizing depth path with
  | leaf h leaf =>
    rw [Handle.layers_of_leaf leaf] at within
    rw [Handle.core_of_leaf leaf]
    have reached : depth ≤ depthLimit := by omega
    rcases returns_of_leaf plain leaf reached path with ⟨name, named, derived⟩ | failed
    · exact .inl ⟨name, _, named, fun _ => rfl, derived⟩
    · exact .inr failed
  | layer h inner under ih =>
    rw [Handle.layers_of_under? under] at within
    rw [Handle.core_of_under? under]
    obtain ⟨below, single⟩ := flat.under under
    have deeper : depth + 1 + inner.layers ≤ depthLimit := by omega
    have inside path := ih below (plain.under under) deeper path
    have seen := seen_of_plain (P := P) (s := s) plain
    rcases Handle.under?_eq_some under with ⟨name, rfl⟩ | ⟨members, absence, rfl, split⟩
    · rcases inside (path ++ [.element]) with
        ⟨scalar, type, named, _, derived⟩ | ⟨unnamed, error, failed⟩
      · exact .inl ⟨scalar, .array type, named, fun _ => rfl, (returns_deriveType_iff ..).mpr
          ⟨_, s, seen, by omega, .list derived⟩⟩
      · exact .inr ⟨unnamed, error, (returns_deriveType_iff ..).mpr
          ⟨_, s, seen, by omega, .listFailed failed⟩⟩
    · rcases inside path with
        ⟨scalar, type, named, bare, derived⟩ | ⟨unnamed, error, failed⟩
      · exact .inl ⟨scalar, .nullable type absence, named, nofun, (returns_deriveType_iff ..).mpr
          ⟨_, s, seen, by omega, .nullable split derived (bare (single rfl))⟩⟩
      · exact .inr ⟨unnamed, error, (returns_deriveType_iff ..).mpr
          ⟨_, s, seen, by omega, .nullableFailed split failed⟩⟩

/-- On lists and unions of leaves the limit is exact: a derivation stops if and only if the depth
it starts at and the layers of the handle are more than 20 together. Otherwise it finds a type if
and only if the core is a scalar. It registers no object type in any case. -/
theorem deriveType_stops_iff_layers (P : Program) (depth : Int) (path : TypePath) (h : Handle)
    (s : DerivationState) (flat : h.Flat) (plain : h.Plain) :
    ((∃ e t, Raises (deriveType P depth path h) s e t) ↔ 20 < depth + h.layers) ∧
      (∀ e t, Raises (deriveType P depth path h) s e t → (∃ text, e = .tooDeep text) ∧ t = s) ∧
      (depth + h.layers ≤ 20 → ∃ o t, Returns (deriveType P depth path h) s o t ∧
        ((∃ type warnings, o = .type type warnings) ↔ h.core.form = .scalar) ∧
        t.registry.objects = s.registry.objects) := by
  have deep (beyond : 20 < depth + h.layers) :
      ∃ text, Raises (deriveType P depth path h) s (.tooDeep text) s := by
    obtain ⟨text, stopped⟩ := raises_of_layers plain beyond
    exact ⟨text, stopped path⟩
  have shallow (within : depth + h.layers ≤ 20) :
      ∃ o t, Returns (deriveType P depth path h) s o t ∧
        ((∃ type warnings, o = .type type warnings) ↔ h.core.form = .scalar) ∧
        t.registry.objects = s.registry.objects := by
    rw [Handle.form_eq_scalar_iff]
    rcases returns_of_layers flat plain within path with
      ⟨name, type, named, _, derived⟩ | ⟨unnamed, error, failed⟩
    · exact ⟨_, _, derived, by simp [named], Registry.objects_addScalar ..⟩
    · exact ⟨_, _, failed, by simp [unnamed], rfl⟩
  have beyond {e t} (stopped : Raises (deriveType P depth path h) s e t) :
      20 < depth + h.layers := by
    by_contra within
    obtain ⟨o, u, returned, _⟩ := shallow (by omega)
    cases returned.symm.trans stopped
  refine ⟨⟨?_, ?_⟩, ?_, shallow⟩
  · intro given
    obtain ⟨e, t, stopped⟩ := given
    exact beyond stopped
  · intro excess
    obtain ⟨text, stopped⟩ := deep excess
    exact ⟨_, _, stopped⟩
  · intro e t stopped
    obtain ⟨text, same⟩ := deep (beyond stopped)
    cases stopped.symm.trans same
    exact ⟨⟨text, rfl⟩, rfl⟩

/-- What `Optional[list[Optional[int]]]` denotes. -/
def optionalList : Handle :=
  .union [.list "list" (.union [.intrinsic .int, .none]), .none]

theorem deriveType_stops_iff_layers_optionalList :
    optionalList.Flat ∧ optionalList.Plain ∧
      (∃ e t, Raises (deriveType optionalTwice 18 [] optionalList)
        { check := .start optionalTwice } e t) ∧
      ∃ o t, Returns (deriveType optionalTwice 17 [] optionalList)
        { check := .start optionalTwice } o t ∧ ∃ type warnings, o = .type type warnings := by
  have flat : optionalList.Flat := by
    have optional {h : Handle} (alone : h.members? = none) (flat : h.Flat) :
        (Handle.union [h, .none]).Flat :=
      .union (List.forall_mem_cons.mpr ⟨alone, List.forall_mem_singleton.mpr rfl⟩)
        (List.forall_mem_cons.mpr ⟨flat, List.forall_mem_singleton.mpr (.intrinsic _)⟩)
    exact optional rfl (.list (optional rfl (.intrinsic _)))
  have plain : optionalList.Plain := by
    have optional {h : Handle} (plain : h.Plain) : (Handle.union [h, .none]).Plain :=
      .union (List.forall_mem_cons.mpr ⟨plain, List.forall_mem_singleton.mpr (.intrinsic _)⟩)
    exact optional (.list (optional (.intrinsic _)))
  have layers : optionalList.layers = 3 := by
    rw [Handle.layers_of_under? rfl, Handle.layers_of_under? rfl, Handle.layers_of_under? rfl,
      Handle.layers_of_leaf rfl]
  have core : optionalList.core = .intrinsic .int := by
    rw [Handle.core_of_under? rfl, Handle.core_of_under? rfl, Handle.core_of_under? rfl,
      Handle.core_of_leaf rfl]
  obtain ⟨stops, _⟩ := deriveType_stops_iff_layers optionalTwice 18 [] optionalList
    { check := .start optionalTwice } flat plain
  obtain ⟨_, _, returns⟩ := deriveType_stops_iff_layers optionalTwice 17 [] optionalList
    { check := .start optionalTwice } flat plain
  obtain ⟨o, t, returned, typed, _⟩ := returns (by rw [layers]; decide)
  exact ⟨flat, plain, stops.mpr (by rw [layers]; decide), o, t, returned,
    typed.mpr (by rw [core]; rfl)⟩

end Derivation

end HintSchema

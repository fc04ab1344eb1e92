import HintSchema.Proofs.Derivation.Asking

/-!
What one call of a derivation does with the handle it sees, given what the calls below it do.
`returns_deriveType_iff` says it once; what holds of every derivation follows by
`deriveType_induct`.
-/

namespace HintSchema

open Schema

namespace Handle

def isExpressible (h : Handle) : Bool :=
  match h.form with
  | .array | .scalar | .nullable | .record => true
  | _ => false

def record? : Handle → Option (RecordSource × List Handle)
  | record _ source arguments _ => some (source, arguments)
  | _ => .none

theorem isExpressible_of_record? {h : Handle} {source : RecordSource}
    {arguments : List Handle} (record : h.record? = some (source, arguments)) :
    h.isExpressible = true := by
  cases h with
  | record => rfl
  | _ => cases record

theorem arguments_of_record? {h : Handle} {source : RecordSource} {arguments : List Handle}
    (record : h.record? = some (source, arguments)) : h.arguments = arguments := by
  cases h with
  | record =>
    cases record
    rfl
  | _ => cases record

theorem isExpressible_intrinsic (kind : Intrinsic) :
    (Handle.intrinsic kind).isExpressible = kind.scalarName?.isSome := by
  cases kind <;> rfl

theorem isExpressible_union (members : List Handle) :
    (Handle.union members).isExpressible = (Handle.union members).nullable?.isSome := by
  unfold Handle.isExpressible Handle.form
  dsimp only
  cases (Handle.union members).nullable?.isSome <;> rfl

end Handle

namespace Schema.TypeDef

theorem nullable?_eq_some_iff {type whole : TypeDef} {absence : Absence} :
    type.nullable? absence = some whole ↔
      type.isNullable = false ∧ whole = .nullable type absence := by
  unfold nullable?
  cases type.isNullable <;> simp [eq_comm]

end Schema.TypeDef

namespace DerivationState

def openObject (s : DerivationState) (name : String) (identity : Identity) : DerivationState :=
  { s with registry := s.registry.putObject name ⟨identity, {}⟩ }

def closeObject (s : DerivationState) (name : String) (identity : Identity)
    (properties : List Property) : DerivationState :=
  { s with registry := s.registry.putObject name ⟨identity, ⟨properties⟩⟩ }

def evictAfter (s earlier : DerivationState) : DerivationState :=
  { s with registry := s.registry.keepObjects earlier.registry.objectNames }

end DerivationState

namespace Derivation

theorem eq_record_of_record? {handle : Handle} {source : RecordSource} {arguments : List Handle}
    (record : handle.record? = some (source, arguments)) :
    ∃ symbol aliasName, handle = .record symbol source arguments aliasName := by
  cases handle with
  | record symbol _ _ aliasName =>
    cases record
    exact ⟨symbol, aliasName, rfl⟩
  | _ => cases record

abbrev Calls := TypePath → Handle → DerivationState → Outcome → DerivationState → Prop

/-- The properties of the type `name`, derived one after the other. -/
inductive Walk (C : Calls) (path : TypePath) (name : String) :
    Properties → PropertyOutcomes → DerivationState →
    PropertyOutcomes → DerivationState → Prop
  | done (found : PropertyOutcomes) (s : DerivationState) : Walk C path name [] found s found s
  | next {property : String} {handle : Handle} {rest : Properties} {outcome : Outcome}
      {found whole : PropertyOutcomes} {s t u : DerivationState}
      (derived : C (path ++ [.property name property]) handle s outcome t)
      (later : Walk C path name rest (found.add property outcome) t whole u) :
      Walk C path name ((property, handle) :: rest) found s whole u

/-- One call on a handle that is no deferred alias; `C` are the calls below it. -/
inductive Step (P : Program) (C : Calls) (path : TypePath) :
    Handle → DerivationState → Outcome → DerivationState → Prop
  | unsupported {handle : Handle} {text : String} {s : DerivationState}
      (inexpressible : handle.isExpressible = false) (shown : handle.display? = .ok text) :
      Step P C path handle s (.errors [unsupportedMessage handle.form text path.text]) s
  | scalar {kind : Intrinsic} {name : String} {s : DerivationState}
      (named : kind.scalarName? = some name) :
      Step P C path (.intrinsic kind) s (.type (.named name .scalar) [])
        { s with registry := s.registry.addScalar name }
  | list {name : String} {element : Handle} {type : TypeDef} {warnings : List String}
      {s t : DerivationState}
      (derived : C (path ++ [.element]) element s (.type type warnings) t) :
      Step P C path (.list name element) s (.type (.array type) warnings) t
  | listFailed {name : String} {element : Handle} {errors : List String}
      {s t : DerivationState}
      (failed : C (path ++ [.element]) element s (.errors errors) t) :
      Step P C path (.list name element) s (.errors errors) t
  | nullable {members : List Handle} {single : Handle} {absence : Absence} {type : TypeDef}
      {warnings : List String} {s t : DerivationState}
      (split : (Handle.union members).nullable? = some (single, absence))
      (derived : C path single s (.type type warnings) t) (flat : type.isNullable = false) :
      Step P C path (.union members) s (.type (.nullable type absence) warnings) t
  | nullableFailed {members : List Handle} {single : Handle} {absence : Absence}
      {errors : List String} {s t : DerivationState}
      (split : (Handle.union members).nullable? = some (single, absence))
      (failed : C path single s (.errors errors) t) :
      Step P C path (.union members) s (.errors errors) t
  | outside {handle : Handle} {source : RecordSource} {arguments : List Handle}
      {name file : String} {s : DerivationState}
      (record : handle.record? = some (source, arguments))
      (named : nameAt? P path handle = some (.error (.outside name file))) :
      Step P C path handle s
        (.errors [NameFault.outsideMessage name file ++ ", encountered in " ++ path.text]) s
  | known {handle : Handle} {source : RecordSource} {arguments : List Handle} {name : String}
      {entry : RegisteredType} {s : DerivationState}
      (record : handle.record? = some (source, arguments))
      (named : nameAt? P path handle = some (.ok name))
      (found : s.registry.object? name = some entry) (same : entry.identity = handle.identity) :
      Step P C path handle s (.type (.named name .object) []) s
  | conflict {handle : Handle} {source : RecordSource} {arguments : List Handle}
      {name text : String} {entry : RegisteredType} {s : DerivationState}
      (record : handle.record? = some (source, arguments))
      (named : nameAt? P path handle = some (.ok name))
      (found : s.registry.object? name = some entry) (other : entry.identity ≠ handle.identity)
      (shown : handle.display? = .ok text) :
      Step P C path handle s (.errors [conflictMessage text name path]) s
  | registered {handle : Handle} {source : RecordSource} {arguments : List Handle}
      {name : String} {members : Properties} {found : PropertyOutcomes} {s t u : DerivationState}
      (record : handle.record? = some (source, arguments))
      (named : nameAt? P path handle = some (.ok name))
      (fresh : s.registry.object? name = none)
      (asked : Returns (asking (P.propertiesOf source arguments))
        (s.openObject name handle.identity) members t)
      (walked : Walk C path name members {} t found u) (clean : found.errors = []) :
      Step P C path handle s
        (.type (.named name .object)
          (found.warnings ++ if members.isEmpty then [noPropertiesMessage name path] else []))
        (u.closeObject name handle.identity found.properties)
  | evicted {handle : Handle} {source : RecordSource} {arguments : List Handle}
      {name : String} {members : Properties} {found : PropertyOutcomes} {s t u : DerivationState}
      (record : handle.record? = some (source, arguments))
      (named : nameAt? P path handle = some (.ok name))
      (fresh : s.registry.object? name = none)
      (asked : Returns (asking (P.propertiesOf source arguments))
        (s.openObject name handle.identity) members t)
      (walked : Walk C path name members {} t found u) (failed : found.errors ≠ []) :
      Step P C path handle s (.errors found.errors) (u.evictAfter s)

theorem returns_walk_iff (derive : TypePath → Handle → DerivationM Outcome) (path : TypePath)
    (name : String) (members : Properties) (found whole : PropertyOutcomes)
    (s t : DerivationState) :
    Returns (members.foldlM (fun (outcomes : PropertyOutcomes) (property, handle) => do
        let outcome ← derive (path ++ [.property name property]) handle
        return outcomes.add property outcome) found) s whole t ↔
      Walk (fun path handle => Returns (derive path handle)) path name members found s whole t := by
  induction members generalizing found s with
  | nil =>
    simp only [List.foldlM_nil, returns_pure_iff]
    constructor
    · intro given
      obtain ⟨rfl, rfl⟩ := given
      exact .done _ _
    · intro same
      cases same
      exact ⟨rfl, rfl⟩
  | cons member rest ih =>
    obtain ⟨property, handle⟩ := member
    simp only [List.foldlM_cons, returns_bind_iff, returns_pure_iff, ih]
    constructor
    · intro given
      obtain ⟨_, u, ⟨outcome, _, derived, rfl, rfl⟩, later⟩ := given
      exact .next derived later
    · intro walked
      cases walked with
      | next derived later => exact ⟨_, _, ⟨_, _, derived, rfl, rfl⟩, later⟩

theorem returns_registerObject_iff (P : Program) (derive : TypePath → Handle → DerivationM Outcome)
    (path : TypePath) (name : String) (identity : Identity) (source : RecordSource)
    (arguments : List Handle) (s t : DerivationState) (o : Outcome) :
    Returns (registerObject P derive path name identity source arguments) s o t ↔
      ∃ members u found v,
        Returns (asking (P.propertiesOf source arguments)) (s.openObject name identity) members u ∧
        Walk (fun path handle => Returns (derive path handle)) path name members {} u found v ∧
        ((found.errors = [] ∧ t = v.closeObject name identity found.properties ∧
            o = .type (.named name .object)
              (found.warnings ++ if members.isEmpty then [noPropertiesMessage name path] else [])) ∨
          (found.errors ≠ [] ∧ t = v.evictAfter s ∧ o = .errors found.errors)) := by
  unfold registerObject
  simp only [returns_bind_iff, returns_get_iff, returns_updateRegistry_iff, returns_walk_iff]
  constructor
  · intro given
    obtain ⟨_, _, ⟨rfl, rfl⟩, _, _, rfl, members, u, asked, found, v, walked, rest⟩ := given
    refine ⟨members, u, found, v, asked, walked, ?_⟩
    split at rest
    · rename_i clean
      simp only [returns_bind_iff, returns_updateRegistry_iff, returns_pure_iff] at rest
      obtain ⟨_, _, rfl, rfl, rfl⟩ := rest
      exact .inl ⟨List.isEmpty_iff.mp clean, rfl, rfl⟩
    · rename_i failed
      simp only [returns_bind_iff, returns_updateRegistry_iff, returns_pure_iff] at rest
      obtain ⟨_, _, rfl, rfl, rfl⟩ := rest
      exact .inr ⟨fun clean => failed (List.isEmpty_iff.mpr clean), rfl, rfl⟩
  · intro given
    obtain ⟨members, u, found, v, asked, walked, rest⟩ := given
    refine ⟨_, _, ⟨rfl, rfl⟩, (), _, rfl, members, u, asked, found, v, walked, ?_⟩
    rcases rest with ⟨clean, rfl, rfl⟩ | ⟨failed, rfl, rfl⟩
    · rw [if_pos (List.isEmpty_iff.mpr clean)]
      simp only [returns_bind_iff, returns_updateRegistry_iff, returns_pure_iff]
      exact ⟨(), _, rfl, trivial, rfl⟩
    · rw [if_neg fun empty => failed (List.isEmpty_iff.mp empty)]
      simp only [returns_bind_iff, returns_updateRegistry_iff, returns_pure_iff]
      exact ⟨(), _, rfl, trivial, rfl⟩

theorem returns_unsupported_iff_step (P : Program) (C : Calls) (path : TypePath) (h : Handle)
    (inexpressible : h.isExpressible = false) (s t : DerivationState) (o : Outcome) :
    Returns (unsupported h path) s o t ↔ Step P C path h s o t := by
  rw [returns_unsupported_iff]
  constructor
  · intro given
    obtain ⟨text, shown, rfl, rfl⟩ := given
    exact .unsupported inexpressible shown
  · intro step
    cases step with
    | unsupported _ shown => exact ⟨_, shown, rfl, rfl⟩
    | scalar named => simp [Handle.isExpressible_intrinsic, named] at inexpressible
    | list | listFailed => cases inexpressible
    | nullable split | nullableFailed split =>
      simp [Handle.isExpressible_union, split] at inexpressible
    | outside record | known record | conflict record | registered record | evicted record =>
      rw [Handle.isExpressible_of_record? record] at inexpressible
      cases inexpressible

theorem returns_objectType_iff (P : Program) (derive : TypePath → Handle → DerivationM Outcome)
    (path : TypePath) (handle : Handle) (source : RecordSource) (arguments : List Handle)
    (record : handle.record? = some (source, arguments)) (s t : DerivationState) (o : Outcome) :
    Returns (objectType P derive path handle source arguments) s o t ↔
      Step P (fun path handle => Returns (derive path handle)) path handle s o t := by
  unfold objectType
  simp only [returns_bind_iff, returns_objectName_iff]
  constructor
  · intro given
    obtain ⟨result, _, ⟨named, rfl⟩, rest⟩ := given
    split at rest
    · simp only [returns_pure_iff] at rest
      obtain ⟨rfl, rfl⟩ := rest
      exact .outside record named
    · simp only [returns_throw_iff] at rest
    · simp only [returns_bind_iff, returns_get_iff] at rest
      obtain ⟨_, _, ⟨rfl, rfl⟩, rest⟩ := rest
      split at rest
      · rename_i name entry found
        split at rest
        · rename_i same
          simp only [returns_pure_iff] at rest
          obtain ⟨rfl, rfl⟩ := rest
          exact .known record named found same
        · rename_i other
          simp only [returns_bind_iff, returns_asking_display_iff, returns_pure_iff] at rest
          obtain ⟨text, _, ⟨shown, rfl⟩, rfl, rfl⟩ := rest
          exact .conflict record named found other shown
      · rename_i fresh
        rw [returns_registerObject_iff] at rest
        obtain ⟨members, u, found, v, asked, walked, rest⟩ := rest
        rcases rest with ⟨clean, rfl, rfl⟩ | ⟨failed, rfl, rfl⟩
        · exact .registered record named fresh asked walked clean
        · exact .evicted record named fresh asked walked failed
  · intro step
    cases step with
    | unsupported inexpressible shown =>
      rw [Handle.isExpressible_of_record? record] at inexpressible
      cases inexpressible
    | outside _ named =>
      exact ⟨_, _, ⟨named, rfl⟩, (returns_pure_iff _ _).mpr ⟨rfl, rfl⟩⟩
    | known _ named found same =>
      refine ⟨_, _, ⟨named, rfl⟩, ?_⟩
      simp only [returns_bind_iff, returns_get_iff]
      refine ⟨_, _, ⟨rfl, rfl⟩, ?_⟩
      simp only [found, if_pos same, returns_pure_iff, and_self]
    | conflict _ named found other shown =>
      refine ⟨_, _, ⟨named, rfl⟩, ?_⟩
      simp only [returns_bind_iff, returns_get_iff]
      refine ⟨_, _, ⟨rfl, rfl⟩, ?_⟩
      simp only [found, if_neg other, returns_bind_iff, returns_asking_display_iff,
        returns_pure_iff]
      exact ⟨_, _, ⟨shown, rfl⟩, rfl, rfl⟩
    | registered same named fresh asked walked clean =>
      cases record.symm.trans same
      refine ⟨_, _, ⟨named, rfl⟩, ?_⟩
      simp only [returns_bind_iff, returns_get_iff]
      refine ⟨_, _, ⟨rfl, rfl⟩, ?_⟩
      simp only [fresh, returns_registerObject_iff]
      exact ⟨_, _, _, _, asked, walked, .inl ⟨clean, rfl, rfl⟩⟩
    | evicted same named fresh asked walked failed =>
      cases record.symm.trans same
      refine ⟨_, _, ⟨named, rfl⟩, ?_⟩
      simp only [returns_bind_iff, returns_get_iff]
      refine ⟨_, _, ⟨rfl, rfl⟩, ?_⟩
      simp only [fresh, returns_registerObject_iff]
      exact ⟨_, _, _, _, asked, walked, .inr ⟨failed, rfl, rfl⟩⟩
    | scalar named => cases record
    | list derived => cases record
    | listFailed failed => cases record
    | nullable split derived flat => cases record
    | nullableFailed split failed => cases record

theorem returns_arrayType_iff (P : Program) (derive : TypePath → Handle → DerivationM Outcome)
    (path : TypePath) (name : String) (element : Handle) (s t : DerivationState) (o : Outcome) :
    Returns (arrayType derive path element) s o t ↔
      Step P (fun path handle => Returns (derive path handle)) path (.list name element) s o t := by
  unfold arrayType
  simp only [returns_bind_iff]
  constructor
  · intro given
    obtain ⟨outcome, v, derived, rest⟩ := given
    split at rest
    · obtain ⟨rfl, rfl⟩ := (returns_pure_iff _ _).mp rest
      exact .list derived
    · obtain ⟨rfl, rfl⟩ := (returns_pure_iff _ _).mp rest
      exact .listFailed derived
  · intro step
    cases step with
    | unsupported inexpressible => cases inexpressible
    | list derived => exact ⟨_, _, derived, (returns_pure_iff _ _).mpr ⟨rfl, rfl⟩⟩
    | listFailed failed => exact ⟨_, _, failed, (returns_pure_iff _ _).mpr ⟨rfl, rfl⟩⟩
    | outside record | known record | conflict record | registered record | evicted record =>
      cases record

theorem returns_scalarType_iff (P : Program) (C : Calls) (path : TypePath) (kind : Intrinsic)
    (name : String) (named : kind.scalarName? = some name) (s t : DerivationState) (o : Outcome) :
    Returns (scalarType name) s o t ↔ Step P C path (.intrinsic kind) s o t := by
  unfold scalarType
  simp only [returns_bind_iff, returns_updateRegistry_iff, returns_pure_iff]
  constructor
  · intro given
    obtain ⟨_, _, rfl, rfl, rfl⟩ := given
    exact .scalar named
  · intro step
    cases step with
    | unsupported inexpressible =>
      simp [Handle.isExpressible_intrinsic, named] at inexpressible
    | scalar same =>
      cases named.symm.trans same
      exact ⟨(), _, rfl, rfl, rfl⟩
    | outside record | known record | conflict record | registered record | evicted record =>
      cases record

theorem returns_nullableType_iff (P : Program)
    (derive : TypePath → Handle → DerivationM Outcome) (path : TypePath) (members : List Handle)
    (single : Handle) (absence : Absence)
    (split : (Handle.union members).nullable? = some (single, absence)) (s t : DerivationState)
    (o : Outcome) :
    Returns (nullableType derive path single absence) s o t ↔
      Step P (fun path handle => Returns (derive path handle)) path (.union members) s o t := by
  unfold nullableType
  simp only [returns_bind_iff]
  constructor
  · intro given
    obtain ⟨outcome, v, derived, rest⟩ := given
    split at rest
    · split at rest
      · rename_i whole nested
        obtain ⟨rfl, rfl⟩ := (returns_pure_iff _ _).mp rest
        obtain ⟨flat, rfl⟩ := TypeDef.nullable?_eq_some_iff.mp nested
        exact .nullable split derived flat
      · exact absurd rest ((returns_throw_iff _ _).mp)
    · obtain ⟨rfl, rfl⟩ := (returns_pure_iff _ _).mp rest
      exact .nullableFailed split derived
  · intro step
    cases step with
    | unsupported inexpressible =>
      simp [Handle.isExpressible_union, split] at inexpressible
    | nullable same derived flat =>
      cases split.symm.trans same
      refine ⟨_, _, derived, ?_⟩
      simp only [TypeDef.nullable?_eq_some_iff.mpr ⟨flat, rfl⟩, returns_pure_iff, and_self]
    | nullableFailed same failed =>
      cases split.symm.trans same
      exact ⟨_, _, failed, (returns_pure_iff _ _).mpr ⟨rfl, rfl⟩⟩
    | outside record | known record | conflict record | registered record | evicted record =>
      cases record

theorem returns_deriveType_iff (P : Program) (depth : Int) (path : TypePath) (handle : Handle)
    (s t : DerivationState) (o : Outcome) :
    Returns (deriveType P depth path handle) s o t ↔
      ∃ shown u, Returns (asking (P.apparent handle)) s shown u ∧ depth ≤ depthLimit ∧
        Step P (fun path handle => Returns (deriveType P (depth + 1) path handle)) path shown
          u o t := by
  rw [deriveType]
  simp only [returns_bind_iff]
  refine exists_congr fun shown => exists_congr fun u => and_congr_right fun _ => ?_
  split
  · rename_i deep
    simp only [returns_bind_iff, returns_throw_iff, and_false, exists_false, false_iff, not_and]
    omega
  · rename_i within
    have within : depth ≤ depthLimit := by omega
    simp only [within, true_and]
    cases shown with
    | list name element => exact returns_arrayType_iff P _ path name element u t o
    | record => exact returns_objectType_iff P _ path _ _ _ rfl u t o
    | intrinsic kind =>
      dsimp only
      split
      · rename_i name named
        exact returns_scalarType_iff P _ path kind name named u t o
      · rename_i unnamed
        apply returns_unsupported_iff_step
        simp [Handle.isExpressible_intrinsic, unnamed]
    | union members =>
      dsimp only
      split
      · rename_i single absence split
        exact returns_nullableType_iff P _ path members single absence split u t o
      · rename_i unsplit
        apply returns_unsupported_iff_step
        simp [Handle.isExpressible_union, unsplit]
    | awaitable name arguments =>
      apply returns_unsupported_iff_step
      rcases arguments with _ | ⟨_, _ | _⟩ <;> rfl
    | _ => exact returns_unsupported_iff_step P _ path _ rfl u t o

theorem Walk.mono {C D : Calls} {path : TypePath} {name : String} {members : Properties}
    {found whole : PropertyOutcomes} {s t : DerivationState}
    (weaker : ∀ path handle s o t, C path handle s o t → D path handle s o t)
    (walked : Walk C path name members found s whole t) :
    Walk D path name members found s whole t := by
  induction walked with
  | done => exact .done _ _
  | next derived _ ih => exact .next (weaker _ _ _ _ _ derived) ih

theorem Step.mono {P : Program} {C D : Calls} {path : TypePath} {handle : Handle}
    {s t : DerivationState} {o : Outcome}
    (weaker : ∀ path handle s o t, C path handle s o t → D path handle s o t)
    (step : Step P C path handle s o t) : Step P D path handle s o t := by
  cases step with
  | unsupported inexpressible shown => exact .unsupported inexpressible shown
  | scalar named => exact .scalar named
  | list derived => exact .list (weaker _ _ _ _ _ derived)
  | listFailed failed => exact .listFailed (weaker _ _ _ _ _ failed)
  | nullable split derived flat => exact .nullable split (weaker _ _ _ _ _ derived) flat
  | nullableFailed split failed => exact .nullableFailed split (weaker _ _ _ _ _ failed)
  | outside record named => exact .outside record named
  | known record named found same => exact .known record named found same
  | conflict record named found other shown => exact .conflict record named found other shown
  | registered record named fresh asked walked clean =>
    exact .registered record named fresh asked (walked.mono weaker) clean
  | evicted record named fresh asked walked failed =>
    exact .evicted record named fresh asked (walked.mono weaker) failed

abbrev DepthCalls := Int → Calls

/-- What each call has if the calls below it have it, every call has. The depth limit bounds how far
below a call there are others. -/
theorem deriveType_induct {P : Program} {M : DepthCalls}
    (step : ∀ depth path handle shown s u o t, depth ≤ depthLimit →
      Returns (asking (P.apparent handle)) s shown u →
      Step P (fun path handle s o t => Returns (deriveType P (depth + 1) path handle) s o t ∧
        M (depth + 1) path handle s o t) path shown u o t →
      M depth path handle s o t)
    {depth : Int} {path : TypePath} {handle : Handle} {s t : DerivationState} {o : Outcome}
    (returned : Returns (deriveType P depth path handle) s o t) : M depth path handle s o t := by
  -- A call is one level deeper than the one that makes it, and none beyond the limit returns.
  generalize bound : (depthLimit + 1 - depth).toNat = below
  induction below generalizing depth path handle s t o with
  | zero =>
    obtain ⟨shown, u, seen, within, _⟩ := (returns_deriveType_iff ..).mp returned
    omega
  | succ below ih =>
    obtain ⟨shown, u, seen, within, taken⟩ := (returns_deriveType_iff ..).mp returned
    apply step depth path handle shown s u o t within seen
    apply taken.mono
    intro path handle s o t returned
    exact ⟨returned, ih returned (by omega)⟩

theorem Walk.errors_prefix {C : Calls} {path : TypePath} {name : String} {members : Properties}
    {found whole : PropertyOutcomes} {s t : DerivationState}
    (walked : Walk C path name members found s whole t) : found.errors <+: whole.errors := by
  induction walked with
  | done => exact List.prefix_refl _
  | @next _ _ _ outcome _ _ _ _ _ _ _ ih =>
    cases outcome with
    | type => exact ih
    | errors => exact (List.prefix_append _ _).trans ih

theorem errors_ne_nil {P : Program} {depth : Int} {path : TypePath} {handle : Handle}
    {s t : DerivationState} {errors : List String}
    (returned : Returns (deriveType P depth path handle) s (.errors errors) t) : errors ≠ [] := by
  refine deriveType_induct (M := fun _ _ _ _ o _ => ∀ errors, o = .errors errors → errors ≠ [])
    ?_ returned errors rfl
  intro _ _ _ _ _ _ _ _ _ _ step errors same
  obtain rfl := same
  cases step with
  | unsupported | outside | conflict => exact List.cons_ne_nil _ _
  | listFailed failed => exact failed.2 _ rfl
  | nullableFailed _ failed => exact failed.2 _ rfl
  | evicted _ _ _ _ _ failed => exact failed

end Derivation

end HintSchema

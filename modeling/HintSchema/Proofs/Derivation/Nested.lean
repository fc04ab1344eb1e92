import Mathlib.Logic.Relation
import HintSchema.Derivation.File
import HintSchema.Proofs.Derivation.Step
import HintSchema.Proofs.Hints.Flat

/-!
When a derivation stops because a nullable type would hold another one. The unions of a hint are
flat, but a deferred alias inside one is expanded only after the union is formed.
-/

namespace HintSchema

open Schema

namespace Schema.TypeDef

/-- Nowhere in the type does a nullable type directly hold another one. -/
def isFlat : TypeDef → Bool
  | named _ _ => true
  | nullable underlying _ => !underlying.isNullable && isFlat underlying
  | array element => isFlat element

end Schema.TypeDef

namespace Derivation

variable {P : Program} {C : Calls} {path : TypePath} {handle : Handle} {s t : DerivationState}

/-- A relation between a call and the state in which it stops at a nested nullable type. -/
abbrev Failures := TypePath → Handle → DerivationState → DerivationState → Prop

/-- One call that stops at a nested nullable type, its own or that of a call below it. -/
inductive Break (P : Program) (C : Calls) (F : Failures) (path : TypePath) :
    Handle → DerivationState → DerivationState → Prop
  | element {name : String} {element : Handle} {s t : DerivationState}
      (failed : F (path ++ [.element]) element s t) : Break P C F path (.list name element) s t
  | single {members : List Handle} {single : Handle} {absence : Absence} {s t : DerivationState}
      (split : (Handle.union members).nullable? = some (single, absence))
      (failed : F path single s t) : Break P C F path (.union members) s t
  | nested {members : List Handle} {single : Handle} {absence : Absence} {type : TypeDef}
      {warnings : List String} {s t : DerivationState}
      (split : (Handle.union members).nullable? = some (single, absence))
      (derived : C path single s (.type type warnings) t) (nullable : type.isNullable = true) :
      Break P C F path (.union members) s t
  | property {handle member : Handle} {source : RecordSource} {arguments : List Handle}
      {name property : String} {before after : Properties} {found : PropertyOutcomes}
      {s t u v : DerivationState}
      (record : handle.record? = some (source, arguments))
      (named : nameAt? P path handle = some (.ok name))
      (fresh : s.registry.object? name = none)
      (asked : Returns (asking (P.propertiesOf source arguments))
        (s.openObject name handle.identity) (before ++ (property, member) :: after) u)
      (walked : Walk C path name before {} u found v)
      (failed : F (path ++ [.property name property]) member v t) :
      Break P C F path handle s t

theorem check_of_asking {α : Type} {question : CheckM α} {e : DerivationFault}
    (raised : Raises (asking question) s e t) : ∃ fault, e = .check fault := by
  obtain ⟨fault, _, _, rfl, _⟩ := (raises_asking_iff ..).mp raised
  exact ⟨fault, rfl⟩

theorem check_of_unsupported {e : DerivationFault}
    (raised : Raises (unsupported handle path) s e t) : ∃ fault, e = .check fault := by
  unfold unsupported at raised
  rcases (raises_bind_iff ..).mp raised with asked | ⟨_, _, _, returned⟩
  · exact check_of_asking asked
  · exact absurd returned (raises_pure_iff _ _).mp

theorem check_of_objectName {e : DerivationFault}
    (raised : Raises (objectName P path handle) s e t) : ∃ fault, e = .check fault := by
  have qualified {declared : DerivationM (Option String)}
      (shown : Raises declared s e t → ∃ fault, e = .check fault)
      (raised : Raises (do
        let name ← declared
        return TypeName.qualify handle path name P.entry P.resolver.tree.cwd) s e t) :
      ∃ fault, e = .check fault := by
    rcases (raises_bind_iff ..).mp raised with asked | ⟨_, _, _, returned⟩
    · exact shown asked
    · exact absurd returned (raises_pure_iff _ _).mp
  have shown (h : Handle) (raised : Raises (some <$> asking h.display) s e t) :
      ∃ fault, e = .check fault := by
    rw [map_eq_pure_bind] at raised
    rcases (raises_bind_iff ..).mp raised with asked | ⟨_, _, _, returned⟩
    · exact check_of_asking asked
    · exact absurd returned (raises_pure_iff _ _).mp
  unfold objectName at raised
  dsimp only at raised
  split at raised
  · split at raised
    · exact qualified (fun returned => absurd returned (raises_pure_iff _ _).mp) raised
    · exact qualified (shown _) raised
  · exact qualified (shown _) raised

theorem asking_not_nested {α : Type} {question : CheckM α} :
    ¬ Raises (asking question) s .nestedNullable t :=
  fun raised => by cases check_of_asking raised; contradiction

theorem unsupported_not_nested : ¬ Raises (unsupported handle path) s .nestedNullable t :=
  fun raised => by cases check_of_unsupported raised; contradiction

theorem objectName_not_nested : ¬ Raises (objectName P path handle) s .nestedNullable t :=
  fun raised => by cases check_of_objectName raised; contradiction

theorem raises_walk_iff (derive : TypePath → Handle → DerivationM Outcome) (path : TypePath)
    (name : String) (members : Properties) (found : PropertyOutcomes) (s t : DerivationState)
    (e : DerivationFault) :
    Raises (members.foldlM (fun (outcomes : PropertyOutcomes) (property, handle) => do
        let outcome ← derive (path ++ [.property name property]) handle
        return outcomes.add property outcome) found) s e t ↔
      ∃ before property handle after whole v, members = before ++ (property, handle) :: after ∧
        Walk (fun path handle => Returns (derive path handle)) path name before found s whole v ∧
        Raises (derive (path ++ [.property name property]) handle) v e t := by
  induction members generalizing found s with
  | nil => simp
  | cons member rest ih =>
    obtain ⟨property, handle⟩ := member
    simp only [List.foldlM_cons, raises_bind_iff, returns_bind_iff, returns_pure_iff,
      raises_pure_iff, and_false, exists_false, or_false, ih]
    constructor
    · intro given
      rcases given with raised | ⟨_, u, ⟨outcome, _, derived, rfl, rfl⟩, before, p, h, after,
        whole, v, rfl, walked, raised⟩
      · exact ⟨[], property, handle, rest, found, s, rfl, .done _ _, raised⟩
      · exact ⟨_ :: before, p, h, after, whole, v, rfl, .next derived walked, raised⟩
    · intro given
      obtain ⟨before, p, h, after, whole, v, split, walked, raised⟩ := given
      cases walked with
      | done =>
        cases split
        exact .inl raised
      | next derived later =>
        cases split
        exact .inr ⟨_, _, ⟨_, _, derived, rfl, rfl⟩, _, p, h, after, whole, v, rfl, later, raised⟩

theorem raises_registerObject_iff (derive : TypePath → Handle → DerivationM Outcome)
    (name : String) (identity : Identity) (source : RecordSource) (arguments : List Handle) :
    Raises (registerObject P derive path name identity source arguments) s .nestedNullable t ↔
      ∃ before property member after u found v,
        Returns (asking (P.propertiesOf source arguments)) (s.openObject name identity)
          (before ++ (property, member) :: after) u ∧
        Walk (fun path handle => Returns (derive path handle)) path name before {} u found v ∧
        Raises (derive (path ++ [.property name property]) member) v .nestedNullable t := by
  unfold registerObject
  simp only [raises_bind_iff, returns_get_iff, raises_get_iff, returns_updateRegistry_iff,
    raises_updateRegistry_iff, raises_walk_iff, false_or,
    asking_not_nested]
  constructor
  · intro given
    obtain ⟨_, _, ⟨rfl, rfl⟩, _, _, rfl, members, u, asked, stopped⟩ := given
    rcases stopped with ⟨before, p, h, after, found, v, rfl, walked, raised⟩ | ⟨found, v, _, rest⟩
    · exact ⟨before, p, h, after, u, found, v, asked, walked, raised⟩
    · split at rest
      all_goals
        simp only [raises_bind_iff, raises_updateRegistry_iff, raises_pure_iff, and_false,
          exists_false, or_false] at rest
  · intro given
    obtain ⟨before, p, h, after, u, found, v, asked, walked, raised⟩ := given
    exact ⟨_, _, ⟨rfl, rfl⟩, (), _, rfl, _, u, asked,
      .inl ⟨before, p, h, after, found, v, rfl, walked, raised⟩⟩

theorem raises_objectType_iff (derive : TypePath → Handle → DerivationM Outcome)
    (source : RecordSource) (arguments : List Handle)
    (record : handle.record? = some (source, arguments)) :
    Raises (objectType P derive path handle source arguments) s .nestedNullable t ↔
      Break P (fun path handle => Returns (derive path handle))
        (fun path handle s t => Raises (derive path handle) s .nestedNullable t) path
        handle s t := by
  unfold objectType
  simp only [raises_bind_iff, returns_objectName_iff, objectName_not_nested, false_or]
  constructor
  · intro given
    obtain ⟨result, _, ⟨named, rfl⟩, raised⟩ := given
    split at raised
    · exact absurd raised (raises_pure_iff _ _).mp
    · obtain ⟨impossible, _⟩ := (raises_throw_iff _ _).mp raised
      cases impossible
    · simp only [raises_bind_iff, returns_get_iff, raises_get_iff, false_or] at raised
      obtain ⟨_, _, ⟨rfl, rfl⟩, raised⟩ := raised
      split at raised
      · split at raised
        · exact absurd raised (raises_pure_iff _ _).mp
        · simp only [raises_bind_iff, asking_not_nested, raises_pure_iff, and_false, exists_false,
            or_false] at raised
      · rename_i fresh
        obtain ⟨before, p, h, after, u, found, v, asked, walked, raised⟩ :=
          (raises_registerObject_iff ..).mp raised
        exact .property record named fresh asked walked raised
  · intro stopped
    cases stopped with
    | property same named fresh asked walked failed =>
      cases record.symm.trans same
      refine ⟨_, _, ⟨named, rfl⟩, ?_⟩
      simp only [raises_bind_iff, returns_get_iff, raises_get_iff, false_or]
      refine ⟨_, _, ⟨rfl, rfl⟩, ?_⟩
      simp only [fresh]
      exact (raises_registerObject_iff ..).mpr ⟨_, _, _, _, _, _, _, asked, walked, failed⟩
    | element | single | nested => cases record

theorem raises_arrayType_iff (derive : TypePath → Handle → DerivationM Outcome) (name : String)
    (element : Handle) :
    Raises (arrayType derive path element) s .nestedNullable t ↔
      Break P (fun path handle => Returns (derive path handle))
        (fun path handle s t => Raises (derive path handle) s .nestedNullable t) path
        (.list name element) s t := by
  unfold arrayType
  simp only [raises_bind_iff]
  constructor
  · intro given
    rcases given with raised | ⟨outcome, _, _, raised⟩
    · exact .element raised
    · split at raised
      all_goals exact absurd raised (raises_pure_iff _ _).mp
  · intro stopped
    cases stopped with
    | element failed => exact .inl failed
    | property record => cases record

theorem raises_nullableType_iff (derive : TypePath → Handle → DerivationM Outcome)
    (members : List Handle) (single : Handle) (absence : Absence)
    (split : (Handle.union members).nullable? = some (single, absence)) :
    Raises (nullableType derive path single absence) s .nestedNullable t ↔
      Break P (fun path handle => Returns (derive path handle))
        (fun path handle s t => Raises (derive path handle) s .nestedNullable t) path
        (.union members) s t := by
  unfold nullableType
  simp only [raises_bind_iff]
  constructor
  · intro given
    rcases given with raised | ⟨outcome, v, derived, raised⟩
    · exact .single split raised
    · split at raised
      · split at raised
        · exact absurd raised (raises_pure_iff _ _).mp
        · rename_i type warnings nested
          obtain ⟨_, rfl⟩ := (raises_throw_iff _ _).mp raised
          refine .nested split derived ?_
          unfold TypeDef.nullable? at nested
          simpa using nested
      · exact absurd raised (raises_pure_iff _ _).mp
  · intro stopped
    cases stopped with
    | single same failed =>
      cases split.symm.trans same
      exact .inl failed
    | nested same derived nullable =>
      cases split.symm.trans same
      refine .inr ⟨_, _, derived, ?_⟩
      simp only [TypeDef.nullable?, nullable, if_true, raises_throw_iff, and_self]
    | property record => cases record

theorem Break.isExpressible {F : Failures} (stopped : Break P C F path handle s t) :
    handle.isExpressible = true := by
  cases stopped with
  | element => rfl
  | single split | nested split => simp [Handle.isExpressible_union, split]
  | property record => exact Handle.isExpressible_of_record? record

theorem raises_unsupported_iff {F : Failures} (inexpressible : handle.isExpressible = false) :
    Raises (unsupported handle path) s .nestedNullable t ↔ Break P C F path handle s t := by
  constructor
  · exact fun raised => absurd raised unsupported_not_nested
  · intro stopped
    cases inexpressible.symm.trans stopped.isExpressible

theorem raises_deriveType_iff (depth : Int) :
    Raises (deriveType P depth path handle) s .nestedNullable t ↔
      ∃ shown u, Returns (asking (P.apparent handle)) s shown u ∧ depth ≤ depthLimit ∧
        Break P (fun path handle => Returns (deriveType P (depth + 1) path handle))
          (fun path handle s t => Raises (deriveType P (depth + 1) path handle) s .nestedNullable t)
          path shown u t := by
  rw [deriveType]
  simp only [raises_bind_iff, asking_not_nested, false_or]
  refine exists_congr fun shown => exists_congr fun u => and_congr_right fun _ => ?_
  split
  · rename_i deep
    simp only [raises_bind_iff, asking_not_nested, raises_throw_iff, false_or]
    constructor
    · intro given
      obtain ⟨_, _, _, ⟨⟩, _⟩ := given
    · intro given
      obtain ⟨within, _⟩ := given
      omega
  · rename_i within
    have within : depth ≤ depthLimit := by omega
    simp only [within, true_and]
    cases shown with
    | list name element => exact raises_arrayType_iff _ name element
    | record symbol source arguments => exact raises_objectType_iff _ source arguments rfl
    | intrinsic kind =>
      dsimp only
      split
      · unfold scalarType
        simp only [raises_bind_iff, raises_updateRegistry_iff, raises_pure_iff, and_false,
          exists_false, or_false, false_iff]
        intro stopped
        cases stopped with
        | property record => cases record
      · rename_i unnamed
        apply raises_unsupported_iff
        simp [Handle.isExpressible_intrinsic, unnamed]
    | union members =>
      dsimp only
      split
      · rename_i single absence split
        exact raises_nullableType_iff _ members single absence split
      · rename_i unsplit
        apply raises_unsupported_iff
        simp [Handle.isExpressible_union, unsplit]
    | awaitable name arguments =>
      apply raises_unsupported_iff
      rcases arguments with _ | ⟨_, _ | _⟩ <;> rfl
    | _ => exact raises_unsupported_iff rfl

/-- A call with the state it is made in. -/
structure Visit where
  depth : Int
  path : TypePath
  handle : Handle
  state : DerivationState

namespace Visit

/-- The calls that a call makes before it returns or stops. -/
inductive Makes (P : Program) : Visit → Visit → Prop
  | element {depth : Int} {path : TypePath} {handle element : Handle} {name : String}
      {s t : DerivationState} (within : depth ≤ depthLimit)
      (seen : Returns (asking (P.apparent handle)) s (.list name element) t) :
      Makes P ⟨depth, path, handle, s⟩ ⟨depth + 1, path ++ [.element], element, t⟩
  | single {depth : Int} {path : TypePath} {handle single : Handle} {members : List Handle}
      {absence : Absence} {s t : DerivationState} (within : depth ≤ depthLimit)
      (seen : Returns (asking (P.apparent handle)) s (.union members) t)
      (split : (Handle.union members).nullable? = some (single, absence)) :
      Makes P ⟨depth, path, handle, s⟩ ⟨depth + 1, path, single, t⟩
  | property {depth : Int} {path : TypePath} {handle shown member : Handle}
      {source : RecordSource} {arguments : List Handle} {name property : String}
      {before after : Properties} {found : PropertyOutcomes} {s t u v : DerivationState}
      (within : depth ≤ depthLimit) (seen : Returns (asking (P.apparent handle)) s shown t)
      (record : shown.record? = some (source, arguments))
      (named : nameAt? P path shown = some (.ok name))
      (fresh : t.registry.object? name = none)
      (asked : Returns (asking (P.propertiesOf source arguments))
        (t.openObject name shown.identity) (before ++ (property, member) :: after) u)
      (walked : Walk (fun path handle => Returns (deriveType P (depth + 1) path handle)) path name
        before {} u found v) :
      Makes P ⟨depth, path, handle, s⟩ ⟨depth + 1, path ++ [.property name property], member, v⟩

/-- The call sees a nullable union whose one member is a deferred alias, and this expands to another
nullable union, whose own member has a type. -/
inductive HidesNullable (P : Program) : Visit → Prop
  | intro {depth : Int} {path : TypePath} {handle innermost : Handle}
      {members inner : List Handle} {target : AliasRef} {arguments : List Handle}
      {outerAbsence innerAbsence : Absence} {type : TypeDef} {warnings : List String}
      {s t u v : DerivationState} (within : depth + 1 ≤ depthLimit)
      (seen : Returns (asking (P.apparent handle)) s (.union members) t)
      (split : (Handle.union members).nullable? = some (.deferred target arguments, outerAbsence))
      (expanded : Returns (asking (P.apparent (.deferred target arguments))) t (.union inner) u)
      (again : (Handle.union inner).nullable? = some (innermost, innerAbsence))
      (derived : Returns (deriveType P (depth + 1 + 1) path innermost) u (.type type warnings) v)
      (flat : type.isNullable = false) : HidesNullable P ⟨depth, path, handle, s⟩

def Fails (P : Program) (v : Visit) : Prop :=
  ∃ t, Raises (deriveType P v.depth v.path v.handle) v.state .nestedNullable t

theorem Makes.fails {v w : Visit} (makes : v.Makes P w) (failed : w.Fails P) : v.Fails P := by
  obtain ⟨t, raised⟩ := failed
  refine ⟨t, (raises_deriveType_iff _).mpr ?_⟩
  cases makes with
  | element within seen => exact ⟨_, _, seen, within, .element raised⟩
  | single within seen split => exact ⟨_, _, seen, within, .single split raised⟩
  | property within seen record named fresh asked walked =>
    exact ⟨_, _, seen, within, .property record named fresh asked walked raised⟩

theorem HidesNullable.fails {v : Visit} (hides : v.HidesNullable P) : v.Fails P := by
  cases hides with
  | @intro depth _ _ _ _ _ _ _ _ _ _ _ _ _ u _ within seen split expanded again derived flat =>
    have inner := (returns_deriveType_iff ..).mpr
      ⟨_, _, expanded, within, .nullable again derived flat⟩
    have outer : depth ≤ depthLimit := by omega
    exact ⟨_, (raises_deriveType_iff _).mpr ⟨_, _, seen, outer, .nested split inner rfl⟩⟩

theorem Makes.flat {v w : Visit} (makes : v.Makes P w) (flat : v.handle.Flat) :
    w.handle.Flat := by
  have shown : ∀ {h s t}, Returns (asking (P.apparent v.handle)) s h t → h.Flat :=
    fun seen => (asked_settled (Program.settles_apparent .flat flat flat.arguments) seen).1
  cases makes with
  | element _ seen => exact (shown seen).arguments _ List.mem_cons_self
  | single _ seen split =>
    cases shown seen with
    | union _ parts => exact parts _ (Handle.mem_of_nullable? split)
  | property _ seen record _ _ asked _ =>
    have parts := (shown seen).arguments
    rw [Handle.arguments_of_record? record] at parts
    have members := (asked_settled (Program.settles_propertiesOf .flat _ parts) asked).1
    have last := members _ (List.mem_append_right _ List.mem_cons_self)
    exact last

theorem hidesNullable_of_nested {depth : Int} {path : TypePath} {handle single : Handle}
    {members : List Handle} {absence : Absence} {type : TypeDef} {warnings : List String}
    {s t u : DerivationState} (flat : handle.Flat)
    (seen : Returns (asking (P.apparent handle)) s (.union members) t)
    (split : (Handle.union members).nullable? = some (single, absence))
    (derived : Returns (deriveType P (depth + 1) path single) t (.type type warnings) u)
    (nullable : type.isNullable = true) : HidesNullable P ⟨depth, path, handle, s⟩ := by
  -- Before it is expanded the member is no union, and only a deferred alias expands to one.
  have member := Handle.mem_of_nullable? split
  have alone : single.members? = none := by
    cases (asked_settled (Program.settles_apparent .flat flat flat.arguments) seen).1 with
    | union single _ => exact single _ member
  obtain ⟨shown, v, expanded, within, step⟩ := (returns_deriveType_iff ..).mp derived
  cases step with
  | scalar | list | known | registered => cases nullable
  | nullable again inner flat =>
    cases single with
    | deferred target arguments => exact .intro within seen split expanded again inner flat
    | union => cases alone
    | _ =>
      obtain ⟨_, same, _⟩ := (returns_asking_iff ..).mp expanded
      obtain ⟨impossible, _⟩ := (returns_pure_iff _ _).mp same
      cases impossible

theorem Fails.cases {v : Visit} (failed : v.Fails P) (flat : v.handle.Flat) :
    v.HidesNullable P ∨ ∃ w, v.Makes P w ∧ w.Fails P := by
  obtain ⟨depth, path, handle, s⟩ := v
  obtain ⟨t, raised⟩ := failed
  obtain ⟨shown, u, seen, within, stopped⟩ := (raises_deriveType_iff _).mp raised
  cases stopped with
  | element failed => exact .inr ⟨_, .element within seen, _, failed⟩
  | single split failed => exact .inr ⟨_, .single within seen split, _, failed⟩
  | nested split derived nullable =>
    exact .inl (hidesNullable_of_nested flat seen split derived nullable)
  | property record named fresh asked walked failed =>
    exact .inr ⟨_, .property within seen record named fresh asked walked, _, failed⟩

theorem Makes.depth {v w : Visit} (makes : v.Makes P w) :
    v.depth ≤ depthLimit ∧ w.depth = v.depth + 1 := by
  cases makes <;> exact ⟨‹_›, rfl⟩

theorem fails_iff {v : Visit} (flat : v.handle.Flat) :
    v.Fails P ↔ ∃ w, Relation.ReflTransGen (Makes P) v w ∧ w.HidesNullable P := by
  constructor
  · intro failed
    generalize bound : (depthLimit + 1 - v.depth).toNat = below
    induction below generalizing v with
    | zero =>
      rcases failed.cases flat with hides | ⟨w, makes, _⟩
      · exact ⟨v, .refl, hides⟩
      · have := makes.depth
        omega
    | succ below ih =>
      rcases failed.cases flat with hides | ⟨w, makes, failed⟩
      · exact ⟨v, .refl, hides⟩
      · have := makes.depth
        obtain ⟨last, reached, hides⟩ := ih (makes.flat flat) failed (by omega)
        exact ⟨last, .head makes reached, hides⟩
  · intro given
    obtain ⟨w, reached, hides⟩ := given
    induction reached using Relation.ReflTransGen.head_induction_on with
    | refl => exact hides.fails
    | head makes _ ih => exact makes.fails (ih (makes.flat flat))

end Visit

theorem isFlat_of_returns {depth : Int} {type : TypeDef} {warnings : List String}
    (returned : Returns (deriveType P depth path handle) s (.type type warnings) t) :
    type.isFlat = true := by
  refine deriveType_induct
    (M := fun _ _ _ _ o _ => ∀ type warnings, o = .type type warnings → type.isFlat = true)
    ?_ returned type warnings rfl
  intro _ _ _ _ _ _ _ _ _ _ step type warnings same
  obtain rfl := same
  cases step with
  | scalar | known | registered => rfl
  | list derived =>
    unfold TypeDef.isFlat
    exact derived.2 _ _ rfl
  | nullable _ derived flat => simp [TypeDef.isFlat, flat, derived.2 _ _ rfl]

/-- A type that is derived never has a nullable type directly inside another one. A derivation stops
there instead, exactly when one of its calls sees a nullable union that hides another one behind a
deferred alias. -/
theorem deriveType_nestedNullable_iff (P : Program) (depth : Int) (path : TypePath)
    (handle : Handle) (s : DerivationState) (denoted : P.Denotes handle) :
    ((∃ t, Raises (deriveType P depth path handle) s .nestedNullable t) ↔
      ∃ v, Relation.ReflTransGen (Visit.Makes P) ⟨depth, path, handle, s⟩ v ∧
        v.HidesNullable P) ∧
    ∀ type warnings t, Returns (deriveType P depth path handle) s (.type type warnings) t →
      type.isFlat = true := by
  have flat : (Visit.mk depth path handle s).handle.Flat := denoted.flat
  exact ⟨Visit.fails_iff flat, fun _ _ _ returned => isFlat_of_returns returned⟩

def deriveFirst (P : Program) : DerivationM Outcome := do
  let found ← asking P.check
  match found, (P.source P.entry).exportedFunctions with
  | [], f :: _ =>
    let signature ← asking (P.signature f)
    match signature.parameters with
    | p :: _ => deriveType P 0 [.parameter f.name p.name] p.handle
    | [] => return .errors []
  | _, _ => return .errors []

theorem raises_deriveFirst {c : CheckState}
    (stopped : Raises (deriveFirst P) { check := c } .nestedNullable t) :
    ∃ checked, Returns P.check c [] checked ∧
      ∃ f ∈ (P.source P.entry).exportedFunctions, ∃ signature asked,
        Returns (P.signature f) checked signature asked ∧ ∃ p ∈ signature.parameters,
          Raises (deriveType P 0 [.parameter f.name p.name] p.handle) { check := asked }
            .nestedNullable t := by
  unfold deriveFirst at stopped
  simp only [raises_bind_iff, asking_not_nested, false_or] at stopped
  obtain ⟨found, u, checks, stopped⟩ := stopped
  obtain ⟨checked, answered, rfl⟩ := (returns_asking_iff ..).mp checks
  split at stopped
  · rename_i f rest functions
    simp only [raises_bind_iff, asking_not_nested, false_or] at stopped
    obtain ⟨signature, v, asks, stopped⟩ := stopped
    obtain ⟨asked, signed, rfl⟩ := (returns_asking_iff ..).mp asks
    split at stopped
    · rename_i p others parameters
      exact ⟨checked, answered, f, by simp [functions], signature, asked, signed, p,
        by simp [parameters], stopped⟩
    · exact absurd stopped (raises_pure_iff _ _).mp
  · exact absurd stopped (raises_pure_iff _ _).mp

/-- In the type of `box` the type variable stands for the deferred alias `Nested`, which is optional
by itself. -/
def optionalTwice : Program := .ofLines ⟨.root, ["app", "functions.py"]⟩ [
  "from typing import Generic, Optional, TypedDict, TypeVar",
  "T = TypeVar(\"T\")",
  "class Box(TypedDict, Generic[T]):",
  "    value: Optional[T]",
  "Nested = Optional[\"Box[Nested]\"]",
  "def unwrap(box: Nested) -> int:",
  "    return 0"]

theorem deriveFirst_optionalTwice :
    Raises (deriveFirst optionalTwice) { check := .start optionalTwice } .nestedNullable
      (runFrom (deriveFirst optionalTwice) { check := .start optionalTwice }).2 :=
  raises_of_error (by decide +kernel)

/-- The program checks, and yet the type of its parameter stops the derivation. -/
theorem optionalTwice_stops :
    ∃ checked, Returns optionalTwice.check (.start optionalTwice) [] checked ∧
      ∃ f ∈ (optionalTwice.source optionalTwice.entry).exportedFunctions, ∃ signature asked,
        Returns (optionalTwice.signature f) checked signature asked ∧
        ∃ p ∈ signature.parameters, ∃ t,
          Raises (deriveType optionalTwice 0 [.parameter f.name p.name] p.handle)
            { check := asked } .nestedNullable t := by
  obtain ⟨checked, checks, f, exported, signature, asked, signed, p, parameter, stopped⟩ :=
    raises_deriveFirst deriveFirst_optionalTwice
  exact ⟨checked, checks, f, exported, signature, asked, signed, p, parameter, _, stopped⟩

theorem deriveType_nestedNullable_iff_optionalTwice :
    ∃ path handle s, optionalTwice.Denotes handle ∧
      ∃ v, Relation.ReflTransGen (Visit.Makes optionalTwice) ⟨0, path, handle, s⟩ v ∧
        v.HidesNullable optionalTwice := by
  obtain ⟨_, _, f, _, _, asked, signed, p, parameter, stopped⟩ :=
    raises_deriveFirst deriveFirst_optionalTwice
  have denoted := Program.Denotes.parameter signed parameter
  obtain ⟨condition, _⟩ := deriveType_nestedNullable_iff optionalTwice 0
    [.parameter f.name p.name] p.handle { check := asked } denoted
  exact ⟨_, _, _, denoted, condition.mp ⟨_, stopped⟩⟩

end Derivation

end HintSchema

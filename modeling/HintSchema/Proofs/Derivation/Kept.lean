import Mathlib.Data.List.Nodup
import HintSchema.Proofs.Derivation.Trace

/-!
What every change of the registry keeps, every pass keeps. Names in it are distinct, those of
objects and those of scalars each among themselves; objects have the names that their records are
given, and scalars have names of their own kind.
-/

namespace HintSchema

open Schema

/-- Every way in which a derivation changes its registry keeps `I`. -/
structure Registry.Kept (P : Program) (I : Registry → Prop) : Prop where
  putObject : ∀ r path (handle : Handle) name type, handle.record?.isSome →
    Derivation.nameAt? P path handle = some (.ok name) → I r →
      I (r.putObject name ⟨handle.identity, type⟩)
  keepObjects : ∀ r names, I r → I (r.keepObjects names)
  addScalar : ∀ r (kind : Intrinsic) name, kind.scalarName? = some name → I r → I (r.addScalar name)

namespace Derivation

variable {P : Program} {I : Registry → Prop} {C : Calls} {path : TypePath}
  {s t : DerivationState} {o : Outcome}

theorem Walk.kept
    (each : ∀ path handle s o t, C path handle s o t → I s.registry → I t.registry)
    {name : String} {members : Properties} {found whole : PropertyOutcomes}
    (walked : Walk C path name members found s whole t) (start : I s.registry) :
    I t.registry := by
  induction walked with
  | done => exact start
  | next derived _ ih => exact ih (each _ _ _ _ _ derived start)

theorem Step.kept (kept : Registry.Kept P I) {handle : Handle}
    (each : ∀ path handle s o t, C path handle s o t → I s.registry → I t.registry)
    (step : Step P C path handle s o t) (start : I s.registry) : I t.registry := by
  cases step with
  | unsupported | outside | known | conflict => exact start
  | scalar named => exact kept.addScalar _ _ _ named start
  | list derived => exact each _ _ _ _ _ derived start
  | listFailed failed => exact each _ _ _ _ _ failed start
  | nullable _ derived => exact each _ _ _ _ _ derived start
  | nullableFailed _ failed => exact each _ _ _ _ _ failed start
  | registered record named _ asked walked =>
    have isRecord := Option.isSome_of_eq_some record
    have opened := kept.putObject _ _ handle _ {} isRecord named start
    apply kept.putObject _ _ handle _ _ isRecord named
    exact walked.kept each (by rwa [registry_of_asking asked])
  | evicted record named _ asked walked =>
    have opened := kept.putObject _ _ handle _ {} (Option.isSome_of_eq_some record) named start
    apply kept.keepObjects
    exact walked.kept each (by rwa [registry_of_asking asked])

theorem kept_of_returns (kept : Registry.Kept P I) {depth : Int} {handle : Handle}
    (returned : Returns (deriveType P depth path handle) s o t) (start : I s.registry) :
    I t.registry := by
  refine deriveType_induct (M := fun _ _ _ s _ t => I s.registry → I t.registry) ?_ returned start
  intro _ _ _ _ _ _ _ _ _ seen step start
  apply step.kept kept fun _ _ _ _ _ derived => derived.2
  rwa [registry_of_asking seen]

theorem Trace.kept (kept : Registry.Kept P I) {calls : List Call} (traced : Trace P s calls t)
    (start : I s.registry) : I t.registry := by
  induction traced with
  | done => exact start
  | asked _ _ ih => exact ih start
  | derived returned _ ih => exact ih (kept_of_returns kept returned start)

end Derivation

namespace Registry

/-- No name stands for two object types or comes twice among the scalars, each object type has the
name of a record, and each scalar has one that a primitive type has. -/
structure Tidy (P : Program) (r : Registry) : Prop where
  objects : r.objectNames.Nodup
  scalars : r.scalars.Nodup
  declared : ∀ name ∈ r.objectNames, ∃ path handle, handle.record?.isSome ∧
    Derivation.nameAt? P path handle = some (.ok name)
  primitive : ∀ name ∈ r.scalars, ∃ kind : Intrinsic, kind.scalarName? = some name

theorem nodup_added {names : List String} {name : String} (distinct : names.Nodup)
    (new : name ∉ names) : (names ++ [name]).Nodup := by
  rw [← List.concat_eq_append]
  exact distinct.concat new

theorem objectNames_putObject (r : Registry) (name : String) (entry : RegisteredType) :
    (r.putObject name entry).objectNames = r.objectNames ∨
      name ∉ r.objectNames ∧ (r.putObject name entry).objectNames = r.objectNames ++ [name] :=
  Pairs.keys_put entry

theorem kept_tidy (P : Program) : Kept P (Tidy P) where
  putObject r path handle name type record named tidy := by
    rcases objectNames_putObject r name ⟨handle.identity, type⟩ with same | ⟨absent, added⟩
    · exact ⟨same ▸ tidy.objects, tidy.scalars, same ▸ tidy.declared, tidy.primitive⟩
    · refine ⟨added ▸ nodup_added tidy.objects absent, tidy.scalars, ?_, tidy.primitive⟩
      intro other member
      rw [added] at member
      rcases List.mem_append.mp member with old | new
      · exact tidy.declared other old
      · rw [List.mem_singleton.mp new]
        exact ⟨path, handle, record, named⟩
  keepObjects r names tidy := by
    have kept : (r.keepObjects names).objectNames.Sublist r.objectNames :=
      List.filter_sublist.map Prod.fst
    exact ⟨tidy.objects.sublist kept, tidy.scalars,
      fun name member => tidy.declared name (kept.subset member), tidy.primitive⟩
  addScalar r kind name named tidy := by
    unfold addScalar
    split
    · exact tidy
    · rename_i new
      refine ⟨tidy.objects, nodup_added tidy.scalars ?_, tidy.declared, ?_⟩
      · exact fun known => new (List.contains_iff_mem.mpr known)
      · intro other member
        rcases List.mem_append.mp member with old | added
        · exact tidy.primitive other old
        · rw [List.mem_singleton.mp added]
          exact ⟨kind, named⟩

theorem tidy_empty (P : Program) : Tidy P {} :=
  ⟨List.nodup_nil, List.nodup_nil, List.forall_mem_nil _, List.forall_mem_nil _⟩

end Registry

end HintSchema

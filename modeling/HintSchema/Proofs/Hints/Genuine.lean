import HintSchema.Proofs.Hints.Formation
import HintSchema.Proofs.Modules.Bound

/-!
What is remembered of classes is about classes of the program: every question keeps a state genuine
in which each record that is remembered for a place was read off the class that is declared there.
-/

namespace HintSchema

namespace CheckState

/-- Each record that is remembered was read off a class of the program. -/
def Genuine (P : Program) (c : CheckState) : Prop :=
  ∀ key record, c.records.lookup key = some (some record) →
    ∃ name definition, (name, .classDef definition) ∈ (P.source key.file).scope.names ∧
      definition.pos = key.pos ∧ record.file = key.file ∧ record.fields = .ofClass definition

variable {P : Program} {c d z : CheckState}

theorem genuine_of_blank (blank : c.records = []) : c.Genuine P := by
  intro key record found
  rw [blank] at found
  cases found

theorem Genuine.of_records_eq (genuine : c.Genuine P) (same : d.records = c.records) :
    d.Genuine P := by
  intro key record found
  rw [same] at found
  exact genuine key record found

theorem Genuine.remember (genuine : c.Genuine P) {key : ClassKey} {record : Option RecordSource}
    (read : ∀ source, record = some source →
      ∃ name definition, (name, .classDef definition) ∈ (P.source key.file).scope.names ∧
        definition.pos = key.pos ∧ source.file = key.file ∧ source.fields = .ofClass definition) :
    (c.remember key record).Genuine P := by
  intro other source found
  rw [lookup_remember] at found
  split at found
  · rename_i same
    rw [same]
    exact read source (Option.some.inj found)
  · exact genuine other source found

def Complete (P : Program) (z : CheckState) : Prop :=
  ∀ key ∈ P.classes, ∃ record, z.records.lookup key = some record

theorem Complete.grows_back (complete : z.Complete P) (grown : z.Grows P d) : d.Grows P z := by
  refine ⟨fun key record found => ?_, fun key foreign => (grown.foreign key foreign).symm⟩
  by_cases own : key ∈ P.classes
  · obtain ⟨other, known⟩ := complete key own
    cases (grown.known key other known).symm.trans found
    exact known
  · rw [← grown.foreign key own]
    exact found

/-- The state in which each class that is not known counts as no record. -/
def completed (P : Program) (c : CheckState) : CheckState :=
  { c with records := c.records ++ P.classes.map fun key => (key, none) }

theorem lookup_completed (c : CheckState) (key : ClassKey) :
    (c.completed P).records.lookup key =
      (c.records.lookup key).or (if key ∈ P.classes then some none else none) := by
  have rest (keys : List ClassKey) : (keys.map fun key => (key, (none : Option RecordSource))).lookup
      key = if key ∈ keys then some none else none := by
    induction keys with
    | nil => rfl
    | cons first keys ih =>
      rw [List.map_cons, List.lookup_cons, ih]
      by_cases same : key = first
      · simp [same]
      · simp [same, beq_eq_false_iff_ne.mpr same]
  rw [completed, List.lookup_append, rest]

theorem grows_completed (c : CheckState) : c.Grows P (c.completed P) := by
  constructor
  · intro key record found
    rw [lookup_completed, found]
    rfl
  · intro key foreign
    rw [lookup_completed, if_neg foreign, Option.or_none]

theorem complete_completed (c : CheckState) : (c.completed P).Complete P := by
  intro key own
  rw [lookup_completed, if_pos own]
  cases c.records.lookup key with
  | none => exact ⟨none, rfl⟩
  | some record => exact ⟨record, rfl⟩

theorem Genuine.completed (genuine : c.Genuine P) : (c.completed P).Genuine P := by
  intro key record found
  rw [lookup_completed] at found
  cases known : c.records.lookup key with
  | none =>
    rw [known] at found
    split at found <;> cases found
  | some other =>
    rw [known] at found
    cases found
    exact genuine key record known

end CheckState

end HintSchema

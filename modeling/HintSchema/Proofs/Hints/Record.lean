import HintSchema.Hints.Record
import HintSchema.Proofs.Hints.Settled

/-!
What is known of a class once it has been asked for. While a class is being looked at it counts as
no record, so what is known only grows from the first question about a class to its answer.
-/

namespace HintSchema

namespace CheckState

variable {P : Program}

theorem lookup_remember (c : CheckState) (key other : ClassKey) (record : Option RecordSource) :
    (c.remember key record).records.lookup other =
      if other = key then some record else c.records.lookup other := by
  unfold remember
  simp only [List.lookup_cons]
  by_cases same : other = key
  · simp [same]
  · rw [if_neg same, beq_eq_false_iff_ne.mpr same]

/-- A class of the program that was not known may become known, whatever it counts as meanwhile. -/
theorem Grows.of_looked_at {c d : CheckState} {key : ClassKey}
    (unknown : c.records.lookup key = none) (own : key ∈ P.classes)
    (looking record : Option RecordSource) (grown : (c.remember key looking).Grows P d) : c.Grows P (d.remember key record) := by
  -- Nothing that was known is about `key`, so what `key` counts as in between does not matter.
  constructor
  · intro other known found
    have apart : other ≠ key := by
      intro same
      obtain rfl := same
      cases found.symm.trans unknown
    rw [lookup_remember, if_neg apart]
    apply grown.known
    rw [lookup_remember, if_neg apart, found]
  · intro other foreign
    have apart : other ≠ key := by
      intro same
      obtain rfl := same
      exact foreign own
    rw [lookup_remember, if_neg apart, grown.foreign other foreign, lookup_remember, if_neg apart]

end CheckState

namespace RecordForm

variable {P : Program} {c d : CheckState} {form result : RecordForm}

theorem grows_of_afterDecorator {file : Path} {decorator : Expr}
    (answered : Returns (afterDecorator P file form decorator) c result d) : c.Grows P d := by
  unfold afterDecorator at answered
  obtain ⟨found, m, asked, rest⟩ := (returns_bind_iff ..).mp answered
  obtain ⟨_, grown, _⟩ := Program.settles_find P file _ _ _ _ asked
  split at rest
  · obtain ⟨_, rfl⟩ := (returns_pure_iff _ _).mp rest
    exact grown
  · obtain ⟨_, rfl⟩ := (returns_pure_iff _ _).mp rest
    exact grown

theorem grows_of_afterParameters {file : Path} {base : Expr}
    (answered : Returns (form.afterParameters P file base) c result d) : c.Grows P d := by
  unfold afterParameters at answered
  split at answered
  · obtain ⟨parameters, _, known, rest⟩ := (returns_bind_iff ..).mp answered
    obtain ⟨_, rfl⟩ := (returns_pure_iff _ _).mp rest
    exact (Program.settles_typeVariables P file _ _ _ _ _ known).2.1
  · obtain ⟨_, rfl⟩ := (returns_pure_iff _ _).mp answered
    exact .refl _

theorem grows_of_afterBase
    {recur : Path → ClassDef Statement → CheckM (Option RecordSource)} {file : Path} {base : Expr}
    (below : ∀ file definition c record d,
      Returns (recur file definition) c record d → c.Grows P d)
    (answered : Returns (afterBase P recur file form base) c result d) : c.Grows P d := by
  unfold afterBase at answered
  obtain ⟨found, m, asked, rest⟩ := (returns_bind_iff ..).mp answered
  obtain ⟨_, first, _⟩ := Program.settles_find P file _ _ _ _ asked
  obtain ⟨form, n, named, rest⟩ := (returns_bind_iff ..).mp rest
  have before := first.trans (grows_of_afterParameters named)
  split at rest
  · obtain ⟨_, rfl⟩ := (returns_pure_iff _ _).mp rest
    exact before
  · split at rest
    · obtain ⟨_, rfl⟩ := (returns_pure_iff _ _).mp rest
      exact before
    · obtain ⟨record, o, looked, rest⟩ := (returns_bind_iff ..).mp rest
      have whole := before.trans (below _ _ _ _ _ looked)
      split at rest
      all_goals
        obtain ⟨_, rfl⟩ := (returns_pure_iff _ _).mp rest
        exact whole
  · obtain ⟨_, rfl⟩ := (returns_pure_iff _ _).mp rest
    exact before

end RecordForm

namespace Program

variable {P : Program} {pending : List ClassKey} {file : Path} {definition : ClassDef Statement}
  {c d : CheckState} {record : Option RecordSource}

theorem returns_recordAmong_iff :
    Returns (P.recordAmong pending file definition) c record d ↔
      (c.records.lookup ⟨file, definition.pos⟩ = some record ∧ d = c) ∨
      (c.records.lookup ⟨file, definition.pos⟩ = none ∧
        ⟨file, definition.pos⟩ ∉ pending ∧ record = none ∧ d = c) ∨
      (c.records.lookup ⟨file, definition.pos⟩ = none ∧
        ⟨file, definition.pos⟩ ∈ pending ∧ ∃ first m form e,
          Returns (definition.decorators.foldlM (RecordForm.afterDecorator P file) {})
            (c.remember ⟨file, definition.pos⟩ none) first m ∧
          Returns (definition.bases.foldlM (RecordForm.afterBase P
            (P.recordAmong (Pending.without pending ⟨file, definition.pos⟩)) file) first)
            m form e ∧
          record = form.finish file definition ∧
          d = e.remember ⟨file, definition.pos⟩ record) := by
  rw [recordAmong]
  simp only [returns_bind_iff, returns_get_iff]
  constructor
  · intro given
    obtain ⟨_, _, ⟨rfl, rfl⟩, answered⟩ := given
    split at answered
    · rename_i known
      obtain ⟨rfl, rfl⟩ := (returns_pure_iff _ _).mp answered
      exact .inl ⟨known, rfl⟩
    · rename_i unknown
      split at answered
      · rename_i own
        simp only [returns_bind_iff, returns_modify_iff, returns_pure_iff] at answered
        obtain ⟨_, _, rfl, first, m, decorated, form, e, based, _, _, rfl, rfl, rfl⟩ := answered
        exact .inr (.inr ⟨unknown, own, first, m, form, e, decorated, based, rfl, rfl⟩)
      · rename_i closed
        obtain ⟨rfl, rfl⟩ := (returns_pure_iff _ _).mp answered
        exact .inr (.inl ⟨unknown, closed, rfl, rfl⟩)
  · intro cases
    refine ⟨c, c, ⟨rfl, rfl⟩, ?_⟩
    rcases cases with ⟨known, rfl⟩ | ⟨unknown, closed, rfl, rfl⟩ |
      ⟨unknown, own, first, m, form, e, decorated, based, rfl, rfl⟩
    · simp only [known, returns_pure_iff, and_self]
    · simp only [unknown, dif_neg closed, returns_pure_iff, and_self]
    · simp only [unknown, dif_pos own, returns_bind_iff, returns_modify_iff, returns_pure_iff]
      exact ⟨(), _, rfl, first, m, decorated, form, e, based, (), _, rfl, rfl, rfl⟩

theorem grows_of_recordAmong (own : ∀ key ∈ pending, key ∈ P.classes)
    (answered : Returns (P.recordAmong pending file definition) c record d) : c.Grows P d := by
  generalize bound : pending.length = limit
  induction limit using Nat.strongRecOn generalizing pending file definition c record d with
  | ind limit ih =>
    rcases returns_recordAmong_iff.mp answered with
      ⟨_, rfl⟩ | ⟨_, _, _, rfl⟩ | ⟨unknown, present, first, m, form, e, decorated, based, _, rfl⟩
    · exact .refl _
    · exact .refl _
    · apply CheckState.Grows.of_looked_at unknown (own _ present) none
      have begun := decorated.foldlM_keeps
        (fun _ d => (c.remember ⟨file, definition.pos⟩ none).Grows P d)
        (fun _ _ _ _ _ _ grown answered =>
          grown.trans (RecordForm.grows_of_afterDecorator answered)) (.refl _)
      refine based.foldlM_keeps
        (fun _ d => (c.remember ⟨file, definition.pos⟩ none).Grows P d) ?_ begun
      intro base _ form c form' d grown answered
      refine grown.trans (RecordForm.grows_of_afterBase ?_ answered)
      intro file definition c record d looked
      subst bound
      apply ih _ (Pending.length_without_lt present) _ looked rfl
      intro key member
      exact own key (List.mem_filter.mp member).1

theorem settles_recordOf (P : Program) (file : Path) (definition : ClassDef Statement) :
    Settles P (P.recordOf file definition) fun _ => True := by
  intro c record d answered
  have grown := grows_of_recordAmong (fun _ => id) answered
  refine ⟨trivial, grown, ?_⟩
  intro e later
  refine ⟨e, returns_recordAmong_iff.mpr ?_, rfl⟩
  rcases returns_recordAmong_iff.mp answered with
    ⟨known, rfl⟩ | ⟨unknown, foreign, rfl, rfl⟩ | ⟨_, _, _, _, _, _, _, _, _, rfl⟩
  · exact .inl ⟨later.known _ _ known, rfl⟩
  · exact .inr (.inl ⟨(later.foreign _ foreign).trans unknown, foreign, rfl, rfl⟩)
  · refine .inl ⟨later.known _ _ ?_, rfl⟩
    rw [CheckState.lookup_remember, if_pos rfl]

end Program

end HintSchema

import HintSchema.Text.Normalization

/-!
Normalization loses no text: what is not empty before it is not empty after it.
-/

namespace HintSchema.Text

variable {chars : List Char}

theorem decompose_ne_nil (c : Char) : decompose c ≠ [] := by
  unfold decompose hangulParts
  dsimp only
  split
  · exact List.cons_ne_nil _ _
  · split
    · split <;> exact List.cons_ne_nil _ _
    · split
      · split <;> exact List.cons_ne_nil _ _
      · exact List.cons_ne_nil _ _

theorem insertMark_ne_nil (c : Char) (marks : List Char) : insertMark c marks ≠ [] := by
  cases marks with
  | nil => exact List.cons_ne_nil _ _
  | cons d rest =>
    unfold insertMark
    split <;> exact List.cons_ne_nil _ _

theorem composeOnto_ne_nil (starter : Char) (skipped : List Char) (highest : Nat)
    (chars : List Char) : composeOnto starter skipped highest chars ≠ [] := by
  fun_induction composeOnto starter skipped highest chars with
  | case1 | case3 => exact List.cons_ne_nil _ _
  | case2 | case4 => assumption

theorem compose_ne_nil (written : chars ≠ []) : compose chars ≠ [] := by
  cases chars with
  | nil => exact absurd rfl written
  | cons c rest =>
    unfold compose
    split
    · exact composeOnto_ne_nil _ _ _ _
    · exact List.cons_ne_nil _ _

theorem normalize_ne_nil (written : chars ≠ []) : normalize chars ≠ [] := by
  unfold normalize
  split
  · exact written
  · refine compose_ne_nil ?_
    cases chars with
    | nil => exact absurd rfl written
    | cons c rest =>
      obtain ⟨first, others, parts⟩ := List.exists_cons_of_ne_nil (decompose_ne_nil c)
      rw [List.flatMap_cons, parts, List.cons_append, List.foldr_cons]
      exact insertMark_ne_nil _ _

end HintSchema.Text

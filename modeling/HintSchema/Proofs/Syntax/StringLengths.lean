import HintSchema.Syntax.Parser.Expression
import HintSchema.Proofs.Syntax.Tally

/-!
The value of a string literal has no more characters than its body, so neither has a text more than
the bodies of the literals that it is joined from.
-/

namespace HintSchema

namespace StringLiteral

theorem length_textEscape {chars : List Char} {value : CodeText} {taken : Nat}
    (read : textEscape? chars = some (value, taken)) :
    value.length + (chars.drop taken).length ≤ chars.length + 1 := by
  have single (p : CodePoint) (n : Nat) :
      [p].length + (chars.drop n).length ≤ chars.length + 1 := by
    rw [List.length_drop, List.length_singleton]
    omega
  unfold textEscape? at read
  split at read
  · cases read
    exact single _ _
  · rename_i c rest
    split at read
    · cases read
      simp +arith
    · split at read
      · obtain ⟨p, _, same⟩ := Option.map_eq_some_iff.mp read
        cases same
        exact single _ _
      · split at read
        · split at read
          · dsimp only at read
            split at read
            · cases read
            · obtain ⟨c, _, same⟩ := Option.map_eq_some_iff.mp read
              cases same
              exact single _ _
          · cases read
        · split at read
          · obtain ⟨n, _, read⟩ := Option.bind_eq_some_iff.mp read
            obtain ⟨p, _, same⟩ := Option.bind_eq_some_iff.mp read
            cases same
            exact single _ _
          · split at read
            · cases read
              exact single _ _
            · cases read
              simp +arith

theorem length_textFrom {fuel : Nat} {chars : List Char} {value : CodeText}
    (read : textFrom fuel chars = some value) : value.length ≤ chars.length := by
  fun_induction textFrom fuel chars generalizing value with
  | case1 =>
    cases read
    exact Nat.zero_le _
  | case2 =>
    cases read
    exact Nat.le_refl _
  | case3 fuel rest ih =>
    obtain ⟨⟨first, taken⟩, escape, read⟩ := Option.bind_eq_some_iff.mp read
    obtain ⟨more, later, same⟩ := Option.bind_eq_some_iff.mp read
    cases same
    have one := length_textEscape escape
    have others := ih taken later
    rw [List.length_append, List.length_cons]
    omega
  | case4 fuel c rest _ ih =>
    obtain ⟨more, later, rfl⟩ := Option.map_eq_some_iff.mp read
    exact Nat.succ_le_succ (ih later)

theorem length_text {raw : Bool} {body : List Char} {value : CodeText}
    (read : text? raw body = some value) : value.length ≤ body.length := by
  unfold text? at read
  split at read
  · cases read
    exact Nat.le_of_eq (List.length_map _)
  · exact length_textFrom read

end StringLiteral

namespace Parser

abbrev textOf (pieces : List Piece) : CodeText :=
  pieces.flatMap fun
    | .text value => value
    | .field _ _ _ _ => []

theorem length_joined {dialect : Lexer.Dialect} {tokens : List StringToken}
    {pieces : List (List Piece)} (plain : ∀ t ∈ tokens, t.interpolated = false)
    (read : tokens.mapM (tokenPieces dialect) = some pieces) :
    (textOf pieces.flatten).length ≤ (tokens.map fun t => t.body.length).sum := by
  induction tokens generalizing pieces with
  | nil =>
    cases read
    exact Nat.le_refl _
  | cons t rest ih =>
    obtain ⟨first, others⟩ := List.forall_mem_cons.mp plain
    rw [List.mapM_cons] at read
    obtain ⟨piece, one, read⟩ := Option.bind_eq_some_iff.mp read
    obtain ⟨more, later, same⟩ := Option.bind_eq_some_iff.mp read
    cases same
    rw [tokenPieces, first] at one
    obtain ⟨value, body, rfl⟩ := Option.map_eq_some_iff.mp one
    have head := StringLiteral.length_text body
    have tail := ih others later
    simp only [textOf, List.flatten_cons, List.flatMap_append, List.flatMap_singleton,
      List.length_append, List.map_cons, List.sum_cons] at tail ⊢
    omega

theorem tally_joined (p : Tally) {tokens : List StringToken} (some_token : tokens ≠ [])
    {length : Nat} (bounded : length ≤ (tokens.map fun t => t.body.length).sum) :
    p.text length ≤ (tokens.map fun t => p.text t.body.length).sum := by
  cases p with
  | recordsAt | nameless => exact Nat.zero_le _
  | letters =>
    have counted : (tokens.map fun t => Tally.letters.text t.body.length).sum =
        (tokens.map fun t => t.body.length).sum + tokens.length := by
      clear * -
      induction tokens with
      | nil => rfl
      | cons t rest ih =>
        rw [List.map_cons, List.sum_cons, ih, List.map_cons, List.sum_cons, List.length_cons,
          Tally.text]
        omega
    have positive := List.length_pos_iff.mpr some_token
    rw [counted, Tally.text]
    omega

end Parser

end HintSchema

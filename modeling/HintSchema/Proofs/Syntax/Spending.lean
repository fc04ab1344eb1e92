import HintSchema.Proofs.Syntax.Tally

/-!
Parsers spend tokens on records, texts and names: what is read counts no more than the tokens read
do. A token counts for the record that starts with it, for the text that it holds or for the name
that it gives. A parser that goes on from something already read has that as a credit.
-/

namespace HintSchema

def Token.Kind.isMark : Token.Kind → Bool
  | name _ | keyword _ | sign _ => true
  | _ => false

/-- What a token counts: its characters for a text, its place for a record, a name for itself. -/
def Token.tally (p : Tally) (t : Token) : Nat :=
  match t.kind with
  | .string token => p.text token.body.length
  | .number value => value.tally p
  | .name id => p.record t.pos + p.name id
  | kind => if kind.isMark then p.record t.pos else 0

theorem Token.tally_mark {t : Token} (mark : t.kind.isMark) (p : Tally) :
    p.record t.pos ≤ t.tally p := by
  obtain ⟨kind, pos⟩ := t
  cases kind with
  | name id => exact Nat.le_add_right _ _
  | keyword | sign => exact Nat.le_refl _
  | _ => cases mark

theorem Token.tally_recordsAt (t : Token) (place : Position) :
    t.tally (.recordsAt place) = if t.kind.isMark ∧ t.pos = place then 1 else 0 := by
  obtain ⟨kind, pos⟩ := t
  cases kind with
  | number value => cases value <;> rfl
  | name | keyword | sign => simp [tally, Kind.isMark, Tally.record, Tally.name]
  | _ => rfl

theorem Token.tally_nameless {t : Token} (named : t.kind ≠ .name "") : t.tally .nameless = 0 := by
  obtain ⟨kind, pos⟩ := t
  cases kind with
  | name id => simpa [tally, Tally.record, Tally.name] using named
  | number value => cases value <;> rfl
  | _ => rfl

namespace Parser

def tally (p : Tally) (tokens : List Token) : Nat := (tokens.map (·.tally p)).sum

variable {α β : Type} {p : Tally} {k : Nat} {q : Parser α} {f g : α → Nat} {h : β → Nat}

@[simp] theorem tally_cons (t : Token) (rest : List Token) :
    tally p (t :: rest) = t.tally p + tally p rest := rfl

theorem tally_drop_le (n : Nat) (tokens : List Token) :
    tally p (tokens.drop n) ≤ tally p tokens := by
  induction n generalizing tokens with
  | zero => exact Nat.le_refl _
  | succ n ih =>
    cases tokens with
    | nil => exact Nat.le_refl _
    | cons t rest => exact Nat.le_trans (ih rest) (Nat.le_add_left _ _)

theorem run_bind {r : α → Parser β} {setting : Setting} {tokens rest : List Token} {b : β}
    (read : (q >>= r) setting tokens = .ok (b, rest)) :
    ∃ a middle, q setting tokens = .ok (a, middle) ∧ r a setting middle = .ok (b, rest) := by
  change (q setting tokens >>= fun found => r found.1 setting found.2) = _ at read
  cases first : q setting tokens with
  | error fault =>
    rw [first] at read
    cases read
  | ok found =>
    rw [first] at read
    exact ⟨found.1, found.2, rfl, read⟩

/-- If the parser reads something from these tokens on, and has the credit, it does not spend more
than that and the tokens read; `f` says how much was spent. -/
def SpendsFrom (p : Tally) (tokens : List Token) (k : Nat) (q : Parser α) (f : α → Nat) : Prop :=
  ∀ setting a rest, q setting tokens = .ok (a, rest) →
    f a + tally p rest ≤ k + tally p tokens

def Spends (p : Tally) (k : Nat) (q : Parser α) (f : α → Nat) : Prop :=
  ∀ tokens, SpendsFrom p tokens k q f

/-- The parser spends nothing. -/
abbrev Silent (p : Tally) (q : Parser α) : Prop := Spends p 0 q fun _ => 0

theorem SpendsFrom.chain {tokens : List Token} {r : α → Parser β}
    (first : SpendsFrom p tokens k q g) (rest : ∀ a, Spends p (g a) (r a) h) :
    SpendsFrom p tokens k (q >>= r) h := by
  intro setting b final read
  obtain ⟨a, middle, one, two⟩ := run_bind read
  exact Nat.le_trans (rest a middle setting b final two) (first setting a middle one)

namespace Spends

theorem pure {a : α} (paid : f a ≤ k) : Spends p k (pure a) f := by
  rintro tokens setting _ _ ⟨⟩
  exact Nat.add_le_add_right paid _

theorem frame (spends : Spends p 0 q f) (paid : ∀ a, g a ≤ k + f a) : Spends p k q g := by
  intro tokens setting a rest read
  have := spends tokens setting a rest read
  have := paid a
  omega

theorem chain {r : α → Parser β} (first : Spends p k q g) (rest : ∀ a, Spends p (g a) (r a) h) :
    Spends p k (q >>= r) h :=
  fun tokens => (first tokens).chain rest

theorem bind {r : α → Parser β} (first : Spends p 0 q g)
    (rest : ∀ a, Spends p (k + g a) (r a) h) : Spends p k (q >>= r) h :=
  .chain (first.frame fun _ => Nat.le_refl _) rest

theorem after {r : α → Parser β} (first : Silent p q) (rest : ∀ a, Spends p k (r a) h) :
    Spends p k (q >>= r) h :=
  .bind first rest

theorem done {a : α} : Spends p (f a) (Pure.pure a) f := .pure (Nat.le_refl _)

theorem mono {j : Nat} (spends : Spends p j q f) (credit : j ≤ k) (less : ∀ a, g a ≤ f a) :
    Spends p k q g := by
  intro tokens setting a rest read
  have := spends tokens setting a rest read
  have := less a
  omega

theorem silent (spends : Spends p 0 q f) : Silent p q :=
  spends.mono (Nat.le_refl _) fun _ => Nat.zero_le _

theorem mismatch : Spends p k (Parser.mismatch : Parser α) f := by
  rintro tokens setting a rest ⟨⟩

theorem refuse : Spends p k (Parser.refuse : Parser α) f := by
  rintro tokens setting a rest ⟨⟩

theorem ite {c : Prop} [Decidable c] {other : Parser α} (yes : Spends p k q f)
    (no : Spends p k other f) : Spends p k (if c then q else other) f := by
  split
  · exact yes
  · exact no

theorem branch {c : Prop} [Decidable c] {other : Parser α} {next : α → Parser β}
    (one : Spends p 0 q g) (two : Spends p 0 other g) (rest : ∀ a, Spends p (k + g a) (next a) h) :
    Spends p k (if c then q >>= next else other >>= next) h :=
  .ite (.bind one rest) (.bind two rest)

theorem when {c : Prop} [Decidable c] {test : Parser PUnit} {next : PUnit → Parser β}
    (quiet : Silent p test) (rest : Spends p k (next ⟨⟩) h) :
    Spends p k (if c then test >>= next else next ⟨⟩) h :=
  .ite (.after quiet fun _ => rest) rest

theorem given {c : Prop} [Decidable c] {item : Parser (Option α)} {next : Option α → Parser β}
    (spends : Spends p 0 item fun found => found.elim 0 f)
    (rest : ∀ found, Spends p (k + found.elim 0 f) (next found) h) :
    Spends p k (if c then item >>= next else Pure.pure none >>= next) h :=
  .branch spends (.pure (Nat.le_refl _)) rest

theorem map {r : α → β} (spends : Spends p k q fun a => h (r a)) : Spends p k (r <$> q) h := by
  rw [map_eq_pure_bind]
  intro tokens setting b rest read
  obtain ⟨a, middle, one, two⟩ := run_bind read
  cases two
  exact spends tokens setting a _ one

theorem either {other : Parser α} (one : Spends p k q f) (two : Spends p k other f) :
    Spends p k (Parser.either q other) f := by
  intro tokens setting a rest read
  unfold Parser.either at read
  split at read
  · exact two tokens setting a rest read
  · exact one tokens setting a rest read

end Spends

/-! ### Reading tokens -/

theorem silent_get : Silent p (get : Parser (List Token)) := by
  rintro tokens setting _ _ ⟨⟩
  exact Nat.le_refl _

theorem silent_read : Silent p (read : Parser Setting) := by
  rintro tokens setting _ _ ⟨⟩
  exact Nat.le_refl _

theorem silent_skip : Silent p skip := by
  rintro tokens setting _ _ ⟨⟩
  exact Nat.add_le_add_left (tally_drop_le 1 tokens) _

theorem silent_peek : Silent p peek := by
  refine .after silent_get fun tokens => ?_
  split <;> exact .done

theorem silent_peekSecond : Silent p peekSecond := by
  refine .after silent_get fun tokens => ?_
  split <;> exact .done

theorem silent_here : Silent p here := by
  refine .after silent_get fun tokens => ?_
  split <;> exact .done

theorem silent_since (minor : Nat) : Silent p (since minor) :=
  .after silent_read fun _ => .ite .refuse (.done)

theorem silent_expect (kind : Token.Kind) : Silent p (expect kind) :=
  .after silent_peek fun _ => .ite silent_skip .mismatch

theorem silent_accept (kind : Token.Kind) : Silent p (accept kind) :=
  .after silent_peek fun _ => .ite (.after silent_skip fun _ => .done) (.done)

theorem silent_sign (text : String) : Silent p (sign text) := silent_expect _

theorem silent_acceptSign (text : String) : Silent p (acceptSign text) := silent_accept _

theorem silent_atSign (text : String) : Silent p (atSign text) :=
  .after silent_peek fun _ => .done

theorem silent_keyword (word : String) : Silent p (keyword word) := silent_expect _

theorem silent_acceptKeyword (word : String) : Silent p (acceptKeyword word) := silent_accept _

theorem silent_atKeyword (word : String) : Silent p (atKeyword word) :=
  .after silent_peek fun _ => .done

theorem silent_within (tokens : List Token) (q : Parser α) : Silent p (within tokens q) := by
  intro outer setting a rest read
  obtain ⟨held, _, got, read⟩ := run_bind read
  cases got
  obtain ⟨_, _, _, read⟩ := run_bind read
  obtain ⟨a, middle, _, read⟩ := run_bind read
  obtain ⟨kind, _, _, read⟩ := run_bind read
  split at read
  · obtain ⟨_, _, back, read⟩ := run_bind read
    cases back
    cases read
    exact Nat.le_refl _
  · cases read

/-! ### The first token -/

def place : List Token → Position
  | t :: _ => t.pos
  | [] => ⟨1, 0⟩

namespace SpendsFrom

variable {tokens rest : List Token} {t : Token}

theorem here {next : Position → Parser α} (spends : SpendsFrom p tokens k (next (place tokens)) f) :
    SpendsFrom p tokens k (Parser.here >>= next) f := by
  intro setting a final read
  obtain ⟨pos, middle, found, read⟩ := run_bind read
  cases tokens <;> (cases found; exact spends setting a final read)

theorem peek_nil {next : Token.Kind → Parser α} (spends : SpendsFrom p [] k (next .finish) f) :
    SpendsFrom p [] k (Parser.peek >>= next) f := by
  intro setting a final read
  obtain ⟨kind, middle, found, read⟩ := run_bind read
  cases found
  exact spends setting a final read

theorem peek {next : Token.Kind → Parser α} (spends : SpendsFrom p (t :: rest) k (next t.kind) f) :
    SpendsFrom p (t :: rest) k (Parser.peek >>= next) f := by
  intro setting a final read
  obtain ⟨kind, middle, found, read⟩ := run_bind read
  cases found
  exact spends setting a final read

theorem skip (spends : Spends p (t.tally p + k) q f) :
    SpendsFrom p (t :: rest) k (do Parser.skip; q) f := by
  intro setting a final read
  obtain ⟨_, _, skipped, read⟩ := run_bind read
  cases skipped
  have := spends rest setting a final read
  rw [tally_cons]
  omega

theorem mark (mark : t.kind.isMark) (spends : Spends p (p.record t.pos + k) q f) :
    SpendsFrom p (t :: rest) k (do Parser.skip; q) f :=
  skip (spends.mono (Nat.add_le_add_right (Token.tally_mark mark p) k) fun _ => Nat.le_refl _)

theorem keyword {word : String} (spends : Spends p (p.record (place tokens) + k) q f) :
    SpendsFrom p tokens k (do Parser.keyword word; q) f := by
  intro setting a final read
  obtain ⟨_, middle, expected, later⟩ := run_bind read
  obtain ⟨kind, _, peeked, skipped⟩ := run_bind expected
  split at skipped
  · rename_i same
    cases tokens with
    | nil =>
      cases peeked
      cases same
    | cons t rest =>
      cases peeked
      cases skipped
      have mark : t.kind.isMark := by rw [same]; rfl
      have := spends rest setting a final later
      have := Token.tally_mark mark p
      rw [tally_cons]
      dsimp only [place] at *
      omega
  · cases skipped

end SpendsFrom

theorem spends_name : Spends p 0 name p.name := by
  intro tokens
  cases tokens with
  | nil => exact .peek_nil (Spends.mismatch [])
  | cons t rest =>
    refine .peek ?_
    split
    · rename_i id named
      exact .skip (.pure (by simp [Token.tally, named]))
    · exact Spends.mismatch _

theorem silent_name : Silent p name := spends_name.silent

/-! ### Repetition -/

section

variable {next : α → Parser (Option α)}

theorem spends_iterateFrom (step : ∀ a, Spends p (f a) (next a) fun found => found.elim (f a) f)
    (fuel : Nat) (a : α) : Spends p (f a) (iterateFrom next fuel a) f := by
  induction fuel generalizing a with
  | zero => exact .refuse
  | succ fuel ih =>
    intro tokens setting b rest read
    obtain ⟨found, middle, one, two⟩ := run_bind read
    have spent := step a tokens setting found middle one
    cases found with
    | none =>
      cases two
      exact spent
    | some c => exact Nat.le_trans (ih c middle setting b rest two) spent

/-- An invariant of the steps is one of their repetition: `f` counts what has been spent so far. -/
theorem spends_iterate (step : ∀ a, Spends p (f a) (next a) fun found => found.elim (f a) f)
    (a : α) : Spends p (f a) (iterate next a) f :=
  .after silent_read fun _ => spends_iterateFrom step _ a

end

theorem silent_iterate {next : α → Parser (Option α)} (each : ∀ a, Silent p (next a)) (a : α) :
    Silent p (iterate next a) :=
  spends_iterate (f := fun _ => 0)
    (fun a => (each a).mono (Nat.le_refl _) fun found => by cases found <;> simp) a

theorem spends_collect {item : Parser (Option α)}
    (each : Spends p 0 item fun found => found.elim 0 f) :
    Spends p 0 (collect item) fun found => (found.map f).sum := by
  unfold collect
  let spent (found : List α) : Nat := (found.map f).sum
  refine .bind (k := 0) (g := spent) ?_ fun found => .pure (by simp [spent])
  refine spends_iterate (f := spent) (fun found => ?_) []
  refine .bind each fun one => .pure ?_
  cases one <;> simp [spent, Nat.add_comm]

theorem silent_collect {item : Parser (Option α)} (each : Silent p item) :
    Silent p (collect item) :=
  (spends_collect (f := fun _ => 0)
    (each.mono (Nat.le_refl _) fun found => by cases found <;> simp)).silent

theorem spends_commaItems {item : Parser α} {atEnd : Parser Bool} (each : Spends p 0 item f)
    (ends : Silent p atEnd) :
    Spends p 0 (commaItems item atEnd) fun found => (found.1.map f).sum := by
  unfold commaItems
  let spent (found : List α × Bool) : Nat := (found.1.map f).sum
  refine .bind (k := 0) (g := spent) ?_ fun found => .pure (by simp [spent])
  refine spends_iterate (f := spent) (fun found => ?_) ([], false)
  refine .ite (.done) (.after (silent_acceptSign ",") fun _ => .ite ?_ (.done))
  refine .after ends fun _ => .ite (.done) (.bind each fun one => .pure ?_)
  simp [spent, Nat.add_comm]

theorem silent_commaItems {item : Parser α} {atEnd : Parser Bool} (each : Silent p item)
    (ends : Silent p atEnd) : Silent p (commaItems item atEnd) :=
  (spends_commaItems each ends).silent

theorem silent_separated {item : Parser α} (each : Silent p item) : Silent p (separated item) :=
  .after each fun _ => .after (silent_commaItems each (.done)) fun _ => .done

end Parser

end HintSchema

import Mathlib.Data.List.Infix
import HintSchema.Settings.Toml.Document

/-!
What is read of a settings document. Each part of it leaves a rest of the text; a number is refused
for its digits only if that many digits stand in the text, one behind the other
(`holdsNumber_of_read`).
-/

namespace HintSchema.Toml

def HoldsNumber (count : Nat) (chars : List Char) : Prop :=
  ∃ run, run <:+: chars ∧ (∀ c ∈ run, c.isDigit = true ∨ c = '_') ∧
    (run.filter Char.isDigit).length = count

theorem HoldsNumber.of_suffix {count : Nat} {chars rest : List Char}
    (holds : HoldsNumber count rest) (suffix : rest <:+ chars) : HoldsNumber count chars := by
  obtain ⟨run, inside, digits, counted⟩ := holds
  exact ⟨run, inside.trans suffix.isInfix, digits, counted⟩

/-- Read from this text, something is left of it. A number that is refused for its digits stands in
the text. -/
structure ReadsOn {α : Type} (chars : List Char) (m : Scan α) : Prop where
  left : ∀ a rest, m.run chars = .ok (a, rest) → rest <:+ chars
  digits : ∀ count, m.run chars = .error (.tooManyDigits count) →
    Number.digitLimit < count ∧ HoldsNumber count chars

abbrev Reads {α : Type} (m : Scan α) : Prop := ∀ chars, ReadsOn chars m

section Rules

variable {α β : Type} {m : Scan α} {next : α → Scan β} {chars : List Char}

theorem ReadsOn.pure (a : α) : ReadsOn chars (pure a : Scan α) where
  left := by
    rintro _ _ ⟨⟩
    exact List.suffix_refl _
  digits := nofun

theorem ReadsOn.bind (first : ReadsOn chars m)
    (later : ∀ a rest, rest <:+ chars → ReadsOn rest (next a)) : ReadsOn chars (m >>= next) where
  left b rest read := by
    rw [StateT.run_bind] at read
    cases result : m.run chars with
    | error fault => rw [result] at read; cases read
    | ok pair =>
      rw [result] at read
      have suffix := first.left _ _ result
      exact ((later _ _ suffix).left b rest read).trans suffix
  digits count read := by
    rw [StateT.run_bind] at read
    cases result : m.run chars with
    | error fault =>
      rw [result] at read
      cases read
      exact first.digits count result
    | ok pair =>
      rw [result] at read
      have suffix := first.left _ _ result
      obtain ⟨many, holds⟩ := (later _ _ suffix).digits count read
      exact ⟨many, holds.of_suffix suffix⟩

theorem ReadsOn.set {rest : List Char} (suffix : rest <:+ chars) :
    ReadsOn chars (set rest : Scan PUnit) where
  left := by
    rintro _ _ ⟨⟩
    exact suffix
  digits := nofun

theorem ReadsOn.get {next : List Char → Scan β} (later : ReadsOn chars (next chars)) :
    ReadsOn chars ((get : Scan (List Char)) >>= next) :=
  ⟨later.left, later.digits⟩

theorem ReadsOn.malformed : ReadsOn chars (Scan.malformed : Scan α) := ⟨nofun, nofun⟩

theorem Reads.bind (first : Reads m) (later : ∀ a, Reads (next a)) : Reads (m >>= next) :=
  fun chars => (first chars).bind fun a rest _ => later a rest

theorem Reads.pure (a : α) : Reads (pure a : Scan α) := fun _ => .pure a

theorem Reads.malformed : Reads (Scan.malformed : Scan α) := fun _ => .malformed

theorem Reads.get {next : List Char → Scan β} (later : ∀ chars, ReadsOn chars (next chars)) :
    Reads ((get : Scan (List Char)) >>= next) :=
  fun chars => .get (later chars)

end Rules

theorem reads_peek : Reads Scan.peek := .get fun _ => .pure _

theorem reads_skip (count : Nat) : Reads (Scan.skip count) := fun chars =>
  ⟨by rintro _ _ ⟨⟩; exact List.drop_suffix _ _, nofun⟩

theorem reads_skipWhile (p : Char → Bool) : Reads (Scan.skipWhile p) := fun chars =>
  ⟨by rintro _ _ ⟨⟩; exact List.dropWhile_suffix _, nofun⟩

theorem reads_startsWith (lead : List Char) : Reads (Scan.startsWith lead) := .get fun _ => .pure _

theorem reads_accept (lead : List Char) : Reads (Scan.accept lead) := by
  refine (reads_startsWith lead).bind fun found => ?_
  split
  · exact (reads_skip _).bind fun _ => .pure _
  · exact .pure _

theorem reads_expect (lead : List Char) : Reads (Scan.expect lead) := by
  refine (reads_accept lead).bind fun found => ?_
  split
  · exact .pure _
  · exact .malformed

/-! ### Texts -/

theorem suffix_of_untilMark {mark taken chars inside rest : List Char} {limit : Nat}
    (found : untilMark mark limit taken chars = some (inside, rest)) : rest <:+ chars := by
  induction limit generalizing taken chars with
  | zero => cases found
  | succ limit ih =>
    unfold untilMark at found
    split at found
    · cases found
      exact List.drop_suffix _ _
    · cases chars with
      | nil => cases found
      | cons c tail => exact (ih found).trans (List.suffix_cons _ _)

theorem reads_literalText (mark : List Char) (allowed : Char → Bool) :
    Reads (literalText mark allowed) := by
  refine .get fun chars => ?_
  split
  · rename_i inside rest found
    split
    · exact (ReadsOn.set (suffix_of_untilMark found)).bind fun _ _ _ => .pure _
    · exact .malformed
  · exact .malformed

theorem reads_hexEscape (count : Nat) : Reads (hexEscape count) := by
  refine .get fun chars => ?_
  dsimp only
  split
  · refine ReadsOn.bind (reads_skip count chars) fun _ _ _ => ?_
    split
    · exact .pure _
    · exact .malformed
  · exact .malformed

theorem reads_escape (multiline : Bool) : Reads (escape multiline) := by
  refine reads_peek.bind fun found => ?_
  cases found with
  | none => exact .malformed
  | some c =>
    dsimp only
    split
    · refine (reads_skipWhile _).bind fun _ => reads_peek.bind fun found => ?_
      split
      · exact .pure _
      · exact (reads_skipWhile _).bind fun _ => .pure _
      · exact .malformed
    · refine (reads_skip 1).bind fun _ => ?_
      split
      all_goals first | exact .pure _ | exact reads_hexEscape _ | exact .malformed

theorem reads_escapedText (multiline : Bool) (limit : Nat) (taken : List Char) :
    Reads (escapedText multiline limit taken) := by
  induction limit generalizing taken with
  | zero => exact .malformed
  | succ limit ih =>
    refine (reads_accept _).bind fun found => ?_
    split
    · exact .pure _
    · refine reads_peek.bind fun found => ?_
      split
      · exact .malformed
      · exact (reads_skip 1).bind fun _ => (reads_escape multiline).bind fun _ => ih _
      · split
        · exact .malformed
        · exact (reads_skip 1).bind fun _ => ih _

theorem reads_escaped (multiline : Bool) : Reads (escaped multiline) :=
  .get fun chars => reads_escapedText multiline _ _ chars

theorem reads_closingQuotes (quote : Char) (inside : List Char) :
    Reads (closingQuotes quote inside) := by
  refine (reads_accept _).bind fun found => ?_
  split
  · refine (reads_accept _).bind fun found => ?_
    split <;> exact .pure _
  · exact .pure _

theorem reads_oneLine (quote : Char) : Reads (oneLine quote) := by
  refine (reads_expect _).bind fun _ => ?_
  split
  · exact reads_escaped false
  · exact reads_literalText _ _

theorem reads_severalLines (quote : Char) : Reads (severalLines quote) := by
  refine (reads_expect _).bind fun _ => (reads_accept _).bind fun _ => ?_
  split
  · exact (reads_escaped true).bind fun _ => reads_closingQuotes _ _
  · exact (reads_literalText _ _).bind fun _ => reads_closingQuotes _ _

theorem reads_quotedText (quote : Char) : Reads (quotedText quote) := by
  refine (reads_startsWith _).bind fun several => ?_
  split
  · exact (reads_severalLines quote).bind fun _ => .pure _
  · exact (reads_oneLine quote).bind fun _ => .pure _

/-! ### Dates, times and numbers -/

theorem suffix_of_fixed? {count low high n : Nat} {chars rest : List Char}
    (found : fixed? count low high chars = some (n, rest)) : rest <:+ chars := by
  unfold fixed? at found
  dsimp only at found
  split at found
  · cases found
    exact List.drop_suffix _ _
  · cases found

theorem suffix_of_after? {mark : Char} {chars rest : List Char}
    (found : after? mark chars = some rest) : rest <:+ chars := by
  cases chars with
  | nil => cases found
  | cons c tail =>
    simp only [after?, Option.ite_none_right_eq_some, Option.some.injEq] at found
    exact found.2 ▸ List.suffix_cons _ _

theorem suffix_of_date? {day : Date} {chars rest : List Char}
    (found : date? chars = some (day, rest)) : rest <:+ chars := by
  simp only [date?, Option.bind_eq_bind, Option.bind_eq_some_iff, Prod.exists] at found
  obtain ⟨_, _, year, _, mark, _, _, month, _, mark', _, _, day, ⟨⟩⟩ := found
  calc
    _ <:+ _ := suffix_of_fixed? day
    _ <:+ _ := suffix_of_after? mark'
    _ <:+ _ := suffix_of_fixed? month
    _ <:+ _ := suffix_of_after? mark
    _ <:+ _ := suffix_of_fixed? year

theorem suffix_fraction (chars : List Char) : (fraction chars).2 <:+ chars := by
  unfold fraction
  split
  · dsimp only
    split
    · exact List.suffix_refl _
    · exact (List.dropWhile_suffix _).trans (List.suffix_cons _ _)
  · exact List.suffix_refl _

theorem suffix_of_time? {t : TimeOfDay} {chars rest : List Char}
    (found : time? chars = some (t, rest)) : rest <:+ chars := by
  simp only [time?, Option.bind_eq_bind, Option.bind_eq_some_iff, Prod.exists] at found
  obtain ⟨_, _, hour, _, mark, _, _, minute, _, mark', _, _, second, ⟨⟩⟩ := found
  calc
    _ <:+ _ := suffix_fraction _
    _ <:+ _ := suffix_of_fixed? second
    _ <:+ _ := suffix_of_after? mark'
    _ <:+ _ := suffix_of_fixed? minute
    _ <:+ _ := suffix_of_after? mark
    _ <:+ _ := suffix_of_fixed? hour

theorem suffix_offset (chars : List Char) : (offset chars).2 <:+ chars := by
  unfold offset
  split
  · exact List.suffix_refl _
  · rename_i mark tail
    split
    · exact List.suffix_cons _ _
    · split
      · dsimp only
        split
        · rename_i minutes rest found
          simp only [Option.bind_eq_bind, Option.bind_eq_some_iff, Prod.exists] at found
          obtain ⟨_, _, hours, _, colon, _, _, parts, ⟨⟩⟩ := found
          calc
            _ <:+ _ := suffix_of_fixed? parts
            _ <:+ _ := suffix_of_after? colon
            _ <:+ _ := suffix_of_fixed? hours
            _ <:+ _ := List.suffix_cons _ _
        · exact List.suffix_refl _
      · exact List.suffix_refl _

theorem suffix_of_moment? {value : Toml} {chars rest : List Char}
    (found : moment? chars = some (value, rest)) : rest <:+ chars := by
  simp only [moment?, Option.bind_eq_bind, Option.bind_eq_some_iff, Prod.exists] at found
  obtain ⟨_, after, day, found⟩ := found
  refine List.IsSuffix.trans ?_ (suffix_of_date? day)
  split at found
  · rename_i clock more there
    cases found
    refine (suffix_offset _).trans ?_
    split at there
    · split at there
      · exact (suffix_of_time? there).trans (List.suffix_cons _ _)
      · cases there
    · cases there
  · cases found
    exact List.suffix_refl _

theorem exists_run_of_digitRun {isDigit : Char → Bool} (proper : isDigit '_' = false)
    {chars digits rest : List Char} (found : Number.digitRun isDigit chars = some (digits, rest)) :
    ∃ run, chars = run ++ rest ∧ (∀ c ∈ run, isDigit c = true ∨ c = '_') ∧
      run.filter isDigit = digits := by
  have more {after more tail : List Char} {c : Char} (front : List Char)
      (plain : ∀ d ∈ front, d = '_') (digit : isDigit c = true)
      (ih : ∀ {digits rest : List Char}, Number.digitRun isDigit after = some (digits, rest) →
        ∃ run, after = run ++ rest ∧ (∀ c ∈ run, isDigit c = true ∨ c = '_') ∧
          run.filter isDigit = digits)
      (read : (Number.digitRun isDigit after).map (fun run => (c :: run.1, run.2)) =
        some (more, tail)) :
      ∃ run, c :: front ++ after = run ++ tail ∧ (∀ c ∈ run, isDigit c = true ∨ c = '_') ∧
        run.filter isDigit = more := by
    obtain ⟨⟨digits, rest⟩, found, same⟩ := Option.map_eq_some_iff.mp read
    cases same
    obtain ⟨run, rfl, all, counted⟩ := ih found
    have none : front.filter isDigit = [] := List.filter_eq_nil_iff.mpr fun d member =>
      by rw [plain d member, proper]; exact Bool.false_ne_true
    refine ⟨c :: front ++ run, (List.append_assoc _ _ _).symm, ?_, ?_⟩
    · simp only [List.cons_append, List.mem_cons, List.mem_append]
      rintro d (rfl | member | member)
      · exact .inl digit
      · exact .inr (plain d member)
      · exact all d member
    · rw [List.cons_append, List.filter_cons_of_pos digit, List.filter_append, none, counted]
      rfl
  have single {c : Char} (digit : isDigit c = true) (rest : List Char) :
      ∃ run, c :: rest = run ++ rest ∧ (∀ c ∈ run, isDigit c = true ∨ c = '_') ∧
        run.filter isDigit = [c] :=
    ⟨[c], rfl, by simp [digit], by simp [digit]⟩
  fun_induction Number.digitRun isDigit chars generalizing digits rest with
  | case1 => cases found
  | case2 => cases found
  | case3 c digit after ih => exact more ['_'] (by simp) (by simpa using digit) ih found
  | case4 c digit d after _ _ ih => exact more [] (by simp) (by simpa using digit) ih found
  | case5 c digit d after =>
    cases found
    exact single (by simpa using digit) _
  | case6 c digit =>
    cases found
    exact single (by simpa using digit) _

theorem suffix_of_digitRun {isDigit : Char → Bool} (proper : isDigit '_' = false)
    {chars digits rest : List Char} (found : Number.digitRun isDigit chars = some (digits, rest)) :
    rest <:+ chars := by
  obtain ⟨run, rfl, _⟩ := exists_run_of_digitRun proper found
  exact List.suffix_append _ _

theorem suffix_of_radixNumber? {n : Nat} {chars rest : List Char}
    (found : radixNumber? chars = some (n, rest)) : rest <:+ chars := by
  have behind {isDigit : Char → Bool} (proper : isDigit '_' = false) {radix : Nat} {a b : Char}
      {more : List Char} (read : (Number.digitRun isDigit more).map
        (fun run => (Number.value radix run.1, run.2)) = some (n, rest)) :
      rest <:+ a :: b :: more := by
    obtain ⟨_, run, same⟩ := Option.map_eq_some_iff.mp read
    cases same
    exact (suffix_of_digitRun proper run).trans
      ((List.suffix_cons _ _).trans (List.suffix_cons _ _))
  unfold radixNumber? at found
  split at found
  · exact behind (by decide) found
  · exact behind (by decide) found
  · exact behind (by decide) found
  · cases found

theorem suffix_sign (chars : List Char) : (sign chars).2 <:+ chars := by
  unfold sign
  split
  · exact List.suffix_cons _ _
  · exact List.suffix_cons _ _
  · exact List.suffix_refl _

theorem suffix_of_whole? {digits chars rest : List Char}
    (found : whole? chars = some (digits, rest)) : rest <:+ chars := by
  unfold whole? at found
  split at found
  · cases found
    exact List.suffix_cons _ _
  · exact suffix_of_digitRun (by decide) found

theorem suffix_fractionDigits (chars : List Char) : (fractionDigits chars).2 <:+ chars := by
  unfold fractionDigits
  split
  · rename_i more
    cases found : Number.digitRun Char.isDigit more with
    | none => exact List.suffix_refl _
    | some run => exact (suffix_of_digitRun (by decide) found).trans (List.suffix_cons _ _)
  · exact List.suffix_refl _

theorem suffix_exponent (chars : List Char) : (exponent chars).2 <:+ chars := by
  unfold exponent
  split
  · rename_i mark more
    dsimp only
    split
    · split
      · rename_i digits rest found
        exact (suffix_of_digitRun (by decide) found).trans
          ((suffix_sign more).trans (List.suffix_cons _ _))
      · exact List.suffix_refl _
    · exact List.suffix_refl _
  · exact List.suffix_refl _

theorem holdsNumber_of_whole? {digits chars rest : List Char}
    (found : whole? chars = some (digits, rest)) (long : Number.digitLimit < digits.length) :
    HoldsNumber digits.length chars := by
  unfold whole? at found
  split at found
  · cases found
    exact absurd long (by decide)
  · obtain ⟨run, rfl, all, rfl⟩ := exists_run_of_digitRun (by decide) found
    exact ⟨run, (List.prefix_append _ _).isInfix, all, rfl⟩

theorem suffix_of_decimal {value : Toml} {chars rest : List Char}
    (found : decimal chars = .ok (value, rest)) : rest <:+ chars := by
  unfold decimal at found
  dsimp only at found
  split at found
  · cases found
  · rename_i whole more read
    have exponent := (suffix_exponent _).trans
      ((suffix_fractionDigits more).trans ((suffix_of_whole? read).trans (suffix_sign chars)))
    split at found
    · split at found
      · cases found
      · cases found
        exact exponent
    · cases found
      exact exponent

theorem holdsNumber_of_decimal {count : Nat} {chars : List Char}
    (found : decimal chars = .error (.tooManyDigits count)) :
    Number.digitLimit < count ∧ HoldsNumber count chars := by
  unfold decimal at found
  dsimp only at found
  split at found
  · cases found
  · rename_i whole more read
    split at found
    · split at found
      · rename_i long
        cases found
        exact ⟨long, (holdsNumber_of_whole? read long).of_suffix (suffix_sign chars)⟩
      · cases found
    · cases found

theorem suffix_of_specialFloat? {value : Toml} {chars rest : List Char}
    (found : specialFloat? chars = some (value, rest)) : rest <:+ chars := by
  unfold specialFloat? at found
  dsimp only at found
  split at found
  · cases found
    exact (List.drop_suffix _ _).trans (suffix_sign chars)
  · split at found
    · cases found
      exact (List.drop_suffix _ _).trans (suffix_sign chars)
    · cases found

theorem bare_cases (chars : List Char) :
    (∃ value rest, bare chars = .ok (value, rest) ∧ rest <:+ chars) ∨
      bare chars = .error .malformed ∨ bare chars = decimal chars := by
  unfold bare
  split
  · exact .inl ⟨_, _, rfl, List.drop_suffix _ _⟩
  split
  · exact .inl ⟨_, _, rfl, List.drop_suffix _ _⟩
  split
  · rename_i value rest found
    split
    · exact .inl ⟨_, _, rfl, suffix_of_moment? found⟩
    · exact .inr (.inl rfl)
  split
  · rename_i clock rest found
    exact .inl ⟨_, _, rfl, suffix_of_time? found⟩
  split
  · rename_i n rest found
    exact .inl ⟨_, _, rfl, suffix_of_radixNumber? found⟩
  split
  · rename_i found special
    exact .inl ⟨_, _, rfl, suffix_of_specialFloat? special⟩
  · exact .inr (.inr rfl)

theorem suffix_of_bare {value : Toml} {chars rest : List Char}
    (found : bare chars = .ok (value, rest)) : rest <:+ chars := by
  rcases bare_cases chars with ⟨_, _, same, suffix⟩ | same | same
  · cases found.symm.trans same
    exact suffix
  · cases found.symm.trans same
  · exact suffix_of_decimal (same ▸ found)

theorem holdsNumber_of_bare {count : Nat} {chars : List Char}
    (found : bare chars = .error (.tooManyDigits count)) :
    Number.digitLimit < count ∧ HoldsNumber count chars := by
  rcases bare_cases chars with ⟨_, _, same, _⟩ | same | same
  · cases found.symm.trans same
  · cases found.symm.trans same
  · exact holdsNumber_of_decimal (same ▸ found)

/-! ### Documents -/

theorem reads_skipComment : Reads skipComment := by
  refine reads_peek.bind fun found => ?_
  split
  · refine .get fun chars => ?_
    dsimp only
    split
    · exact .set (List.drop_suffix _ _)
    · exact .malformed
  · exact .pure _

theorem reads_skipBetweenItems (limit : Nat) : Reads (skipBetweenItems limit) := by
  induction limit with
  | zero => exact .pure _
  | succ limit ih =>
    refine (reads_skipWhile _).bind fun _ => reads_peek.bind fun found => ?_
    split
    · exact reads_skipComment.bind fun _ => ih
    · exact .pure _

theorem reads_skipSpace : Reads skipSpace := .get fun chars => reads_skipBetweenItems _ chars

theorem reads_keyPart : Reads keyPart := by
  refine reads_peek.bind fun found => ?_
  split
  · exact .malformed
  · rename_i c
    split
    · refine .get fun chars => ?_
      exact ReadsOn.bind (reads_skip _ chars) fun _ _ _ => .pure _
    · split
      · exact (reads_oneLine c).bind fun _ => .pure _
      · exact .malformed

theorem reads_moreKeyParts (limit : Nat) : Reads (moreKeyParts limit) := by
  induction limit with
  | zero => exact .pure _
  | succ limit ih =>
    refine (reads_skipWhile _).bind fun _ => (reads_accept _).bind fun found => ?_
    split
    · exact (reads_skipWhile _).bind fun _ => reads_keyPart.bind fun _ => ih.bind fun _ => .pure _
    · exact .pure _

theorem reads_key : Reads key := by
  refine reads_keyPart.bind fun first => .get fun chars => ?_
  exact (reads_moreKeyParts _ chars).bind fun _ _ _ => .pure _

section Values

variable {value : Scan Toml} (values : Reads value)

include values

theorem reads_keyAndValue : Reads (keyAndValue value) :=
  reads_key.bind fun _ => (reads_expect _).bind fun _ => (reads_skipWhile _).bind fun _ =>
    values.bind fun _ => .pure _

theorem reads_arrayItems (limit : Nat) : Reads (arrayItems value limit) := by
  induction limit with
  | zero => exact .malformed
  | succ limit ih =>
    refine reads_skipSpace.bind fun _ => (reads_accept _).bind fun found => ?_
    split
    · exact .pure _
    · refine values.bind fun _ => reads_skipSpace.bind fun _ =>
        (reads_accept _).bind fun found => ?_
      split
      · exact .pure _
      · exact (reads_expect _).bind fun _ => ih.bind fun _ => .pure _

theorem reads_inlineMembers (limit : Nat) (before : Table) (marks : Marks) :
    Reads (inlineMembers value limit before marks) := by
  induction limit generalizing before marks with
  | zero => exact .malformed
  | succ limit ih =>
    refine (reads_keyAndValue values).bind fun member => ?_
    dsimp only
    split
    · exact .malformed
    · split
      · exact .malformed
      · refine (reads_skipWhile _).bind fun _ => (reads_accept _).bind fun found => ?_
        split
        · exact .pure _
        · exact (reads_expect _).bind fun _ => (reads_skipWhile _).bind fun _ => ih _ _

end Values

theorem reads_valueWithin (depth : Nat) : Reads (valueWithin depth) := by
  induction depth with
  | zero => exact .malformed
  | succ depth ih =>
    refine .get fun chars => ?_
    split
    · exact .malformed
    · rename_i c rest
      split
      · exact (reads_quotedText c _).bind fun _ _ _ => .pure _
      · split
        · exact (ReadsOn.set (List.suffix_cons _ _)).bind fun _ rest _ =>
            (reads_arrayItems ih _ rest).bind fun _ _ _ => .pure _
        · split
          · refine (ReadsOn.set (List.suffix_cons _ _)).bind fun _ rest _ =>
              (reads_skipWhile _ rest).bind fun _ rest _ =>
                (reads_accept _ rest).bind fun found rest _ => ?_
            split
            · exact .pure _
            · exact (reads_inlineMembers ih _ _ _ rest).bind fun _ _ _ => .pure _
          · split
            · rename_i value rest found
              exact (ReadsOn.set (suffix_of_bare found)).bind fun _ _ _ => .pure _
            · rename_i fault found
              refine ⟨nofun, ?_⟩
              rintro count ⟨⟩
              exact holdsNumber_of_bare found

theorem reads_accepted {α : Type} (found : Option α) : Reads (accepted found) := by
  cases found with
  | none => exact .malformed
  | some value => exact .pure _

theorem reads_tableHeader (r : Reading) : Reads (tableHeader r) := by
  refine (reads_accept _).bind fun several => ?_
  split
  · exact (reads_skipWhile _).bind fun _ => reads_key.bind fun _ =>
      (reads_accepted _).bind fun _ => (reads_expect _).bind fun _ => .pure _
  · exact (reads_expect _).bind fun _ => (reads_skipWhile _).bind fun _ => reads_key.bind fun _ =>
      (reads_accepted _).bind fun _ => (reads_expect _).bind fun _ => .pure _

theorem reads_statement (r : Reading) (c : Char) : Reads (statement r c) := by
  unfold statement
  split
  · refine .get fun chars => ?_
    exact (reads_keyAndValue (reads_valueWithin _) chars).bind fun _ rest _ => reads_accepted _ rest
  · split
    · exact reads_tableHeader r
    · split
      · exact .pure _
      · exact .malformed

theorem reads_statements (limit : Nat) (r : Reading) : Reads (statements limit r) := by
  induction limit generalizing r with
  | zero => exact .pure _
  | succ limit ih =>
    refine (reads_skipWhile _).bind fun _ => reads_peek.bind fun found => ?_
    split
    · exact .pure _
    · exact (reads_skip 1).bind fun _ => ih _
    · refine (reads_statement r _).bind fun r => (reads_skipWhile _).bind fun _ =>
        reads_skipComment.bind fun _ => reads_peek.bind fun found => ?_
      split
      · exact .pure _
      · exact (reads_skip 1).bind fun _ => ih _
      · exact .malformed

theorem prefix_of_dropReturns {run chars : List Char} (line : '\n' ∉ run)
    (front : run <+: dropReturns chars) : run <+: chars := by
  fun_induction dropReturns chars generalizing run with
  | case1 rest ih =>
    rcases List.prefix_cons_iff.mp front with rfl | ⟨_, rfl, _⟩
    · exact List.nil_prefix
    · exact absurd List.mem_cons_self line
  | case2 c rest _ ih =>
    rcases List.prefix_cons_iff.mp front with rfl | ⟨more, rfl, behind⟩
    · exact List.nil_prefix
    · have line' : '\n' ∉ more := fun member => line (List.mem_cons_of_mem _ member)
      exact (List.prefix_cons_inj _).mpr (ih line' behind)
  | case3 => exact front

theorem infix_of_dropReturns {run chars : List Char} (line : '\n' ∉ run)
    (inside : run <:+: dropReturns chars) : run <:+: chars := by
  fun_induction dropReturns chars with
  | case1 rest ih =>
    rcases List.infix_cons_iff.mp inside with front | inside
    · rcases List.prefix_cons_iff.mp front with rfl | ⟨_, rfl, _⟩
      · exact List.nil_infix
      · exact absurd List.mem_cons_self line
    · exact (ih inside).trans ((List.suffix_cons _ _).trans (List.suffix_cons _ _)).isInfix
  | case2 c rest other ih =>
    rcases List.infix_cons_iff.mp inside with front | inside
    · rcases List.prefix_cons_iff.mp front with rfl | ⟨more, rfl, behind⟩
      · exact List.nil_infix
      · have line' : '\n' ∉ more := fun member => line (List.mem_cons_of_mem _ member)
        exact ((List.prefix_cons_inj _).mpr (prefix_of_dropReturns line' behind)).isInfix
    · exact (ih inside).trans (List.suffix_cons _ _).isInfix
  | case3 => exact inside

/-- A number of a document is refused for its digits only if the text holds that many of them. -/
theorem holdsNumber_of_read {count : Nat} {chars : List Char}
    (refused : read chars = .error (.tooManyDigits count)) :
    Number.digitLimit < count ∧ HoldsNumber count chars := by
  have failed : (statements ((dropReturns chars).length + 1) {}).run (dropReturns chars) =
      .error (.tooManyDigits count) := by
    unfold read at refused
    dsimp only at refused
    cases result : (statements ((dropReturns chars).length + 1) {}).run (dropReturns chars) with
    | error fault => rw [result] at refused; cases refused; rfl
    | ok pair => rw [result] at refused; cases refused
  obtain ⟨many, run, inside, digits, counted⟩ := (reads_statements _ _ _).digits count failed
  refine ⟨many, run, infix_of_dropReturns (fun feed => ?_) inside, digits, counted⟩
  exact absurd (digits _ feed) (by decide)

end HintSchema.Toml

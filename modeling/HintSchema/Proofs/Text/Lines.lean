import Mathlib.Data.List.TakeWhile
import HintSchema.Text.Strip

/-!
White space around a text, and texts of several lines: what stripping leaves, and lines that are
joined by line feeds and split again.
-/

namespace HintSchema.Text

def Blank (chars : List Char) : Prop := ∀ c ∈ chars, isBlank c = true

instance (chars : List Char) : Decidable (Blank chars) :=
  List.decidableBAll _ chars

structure Trimmed (chars : List Char) : Prop where
  first : ∀ c ∈ chars.head?, isBlank c = false
  last : ∀ c ∈ chars.getLast?, isBlank c = false

def OneLine (chars : List Char) : Prop := ∀ c ∈ chars, isLineBreak c = false

instance (chars : List Char) : Decidable (OneLine chars) :=
  List.decidableBAll _ chars

variable {before chars after : List Char}

theorem trimmed_of_ends {first last : List Char} (begun : first ≠ [])
    (begins : ∀ c ∈ first.head?, isBlank c = false) (ended : last ≠ [])
    (ends : ∀ c ∈ last.getLast?, isBlank c = false) (middle : List Char) :
    Trimmed (first ++ (middle ++ last)) where
  first c held := by
    cases first with
    | nil => exact absurd rfl begun
    | cons => exact begins c held
  last c held := by
    obtain ⟨d, final⟩ := Option.ne_none_iff_exists'.mp
      fun none => ended (List.getLast?_eq_none_iff.mp none)
    rw [← List.append_assoc, List.getLast?_append, final, Option.some_or] at held
    exact ends c (final.trans held)

theorem stripLeft_append (blank : Blank before) (chars : List Char) :
    stripLeft (before ++ chars) = stripLeft chars :=
  List.dropWhile_append_of_pos blank

theorem stripRight_append (chars : List Char) (blank : Blank after) :
    stripRight (chars ++ after) = stripRight chars := by
  have reversed : Blank after.reverse := fun c member => blank c (List.mem_reverse.mp member)
  unfold stripRight
  rw [List.reverse_append]
  exact congrArg List.reverse (stripLeft_append reversed _)

theorem stripLeft_of_first (first : ∀ c ∈ chars.head?, isBlank c = false) :
    stripLeft chars = chars := by
  cases chars with
  | nil => rfl
  | cons c rest => exact List.dropWhile_cons_of_neg (by simp [first c rfl])

theorem stripRight_of_last (last : ∀ c ∈ chars.getLast?, isBlank c = false) :
    stripRight chars = chars := by
  unfold stripRight
  have same : chars.reverse.dropWhile isBlank = chars.reverse :=
    stripLeft_of_first fun c member => last c (by rwa [List.head?_reverse] at member)
  rw [same, List.reverse_reverse]

theorem strip_eq (blank : Blank before) (trimmed : Trimmed chars) (trailing : Blank after) :
    strip (before ++ chars ++ after) = chars := by
  unfold strip
  rw [List.append_assoc, stripLeft_append blank]
  cases chars with
  | nil =>
    rw [List.nil_append, ← List.append_nil after, stripLeft_append trailing]
    rfl
  | cons c rest =>
    rw [stripLeft_of_first (by simpa using trimmed.first c rfl), stripRight_append _ trailing,
      stripRight_of_last trimmed.last]

theorem exists_strip (chars : List Char) :
    ∃ before after, chars = before ++ strip chars ++ after ∧ Blank before ∧ Blank after := by
  have left : chars = chars.takeWhile isBlank ++ stripLeft chars :=
    List.takeWhile_append_dropWhile.symm
  have right : stripLeft chars =
      strip chars ++ ((stripLeft chars).reverse.takeWhile isBlank).reverse := by
    unfold strip stripRight
    rw [← List.reverse_append, List.takeWhile_append_dropWhile, List.reverse_reverse]
  refine ⟨chars.takeWhile isBlank, ((stripLeft chars).reverse.takeWhile isBlank).reverse, ?_,
    fun c => List.mem_takeWhile_imp, fun c member => ?_⟩
  · rw [List.append_assoc, ← right]
    exact left
  · exact List.mem_takeWhile_imp (List.mem_reverse.mp member)

theorem isBlank_of_head?_dropWhile {c : Char} (held : (chars.dropWhile isBlank).head? = some c) :
    isBlank c = false := by
  have stopped := List.head?_dropWhile_not isBlank chars
  rwa [held] at stopped

theorem trimmed_strip (chars : List Char) : Trimmed (strip chars) where
  first c held := by
    have part : strip chars <+: stripLeft chars := by
      unfold strip stripRight
      rw [← List.reverse_suffix, List.reverse_reverse]
      exact List.dropWhile_suffix _
    obtain ⟨rest, same⟩ := part
    have begins : (stripLeft chars).head? = some c := by
      rw [← same, List.head?_append, held]
      rfl
    exact isBlank_of_head?_dropWhile begins
  last c held := by
    unfold strip stripRight at held
    rw [List.getLast?_reverse] at held
    exact isBlank_of_head?_dropWhile held

theorem strip_append_left (blank : Blank before) (chars : List Char) :
    strip (before ++ chars) = strip chars := by
  unfold strip
  rw [stripLeft_append blank]

theorem strip_of_trimmed (trimmed : Trimmed chars) : strip chars = chars := by
  have same := strip_eq (List.forall_mem_nil _) trimmed (List.forall_mem_nil _)
  rwa [List.nil_append, List.append_nil] at same

theorem filter_strip (chars : List Char) :
    (strip chars).filter (!isBlank ·) = chars.filter (!isBlank ·) := by
  have none {blank : List Char} (all : Blank blank) : blank.filter (!isBlank ·) = [] :=
    List.filter_eq_nil_iff.mpr fun c member => by simp [all c member]
  obtain ⟨before, after, same, leading, trailing⟩ := exists_strip chars
  calc (strip chars).filter (!isBlank ·)
      = (before ++ strip chars ++ after).filter (!isBlank ·) := by
        rw [List.filter_append, List.filter_append, none leading, none trailing, List.append_nil,
          List.nil_append]
    _ = chars.filter (!isBlank ·) := by rw [← same]

theorem filter_eq_nil_iff_blank : chars.filter (!isBlank ·) = [] ↔ Blank chars := by
  simp [List.filter_eq_nil_iff, Blank]

theorem strip_eq_nil_iff : strip chars = [] ↔ Blank chars := by
  rw [← filter_eq_nil_iff_blank, ← filter_strip]
  constructor
  · intro empty
    rw [empty]
    rfl
  · intro none
    cases stripped : strip chars with
    | nil => rfl
    | cons c rest =>
      have shown := (trimmed_strip chars).first c (by rw [stripped]; rfl)
      rw [stripped, List.filter_cons_of_pos (by simp [shown])] at none
      cases none

theorem strip_append_right (chars : List Char) (blank : Blank after) :
    strip (chars ++ after) = strip chars := by
  obtain ⟨leading, trailing, same, first, last⟩ := exists_strip chars
  calc strip (chars ++ after)
      = strip (leading ++ strip chars ++ (trailing ++ after)) := by
        rw [← List.append_assoc, ← same]
    _ = strip chars :=
        strip_eq first (trimmed_strip chars) (List.forall_mem_append.mpr ⟨last, blank⟩)

theorem joinWith_cons_cons (separator first second : List Char) (rest : List (List Char)) :
    joinWith separator (first :: second :: rest) =
      first ++ separator ++ joinWith separator (second :: rest) := by
  simp [joinWith, List.intercalate]

theorem filter_joinWith_feed (lines : List (List Char)) :
    (joinWith ['\n'] lines).filter (!isBlank ·) = lines.flatMap (·.filter (!isBlank ·)) := by
  induction lines with
  | nil => rfl
  | cons line rest ih =>
    cases rest with
    | nil => simp [joinWith, List.intercalate]
    | cons next rest =>
      have feed : ['\n'].filter (!isBlank ·) = [] := by decide
      rw [joinWith_cons_cons, List.filter_append, List.filter_append, feed, ih, List.append_nil]
      rfl

theorem joinWith_cons (separator line : List Char) (rest : List (List Char)) :
    joinWith separator (line :: rest) = line ++ rest.flatMap (separator ++ ·) := by
  induction rest generalizing line with
  | nil => simp [joinWith, List.intercalate]
  | cons next rest ih =>
    rw [joinWith_cons_cons, ih, List.append_assoc, ← List.append_assoc separator]
    rfl

theorem joinWith_append (separator : List Char) {first : List (List Char)} (some : first ≠ [])
    (second : List (List Char)) :
    joinWith separator (first ++ second) =
      joinWith separator first ++ second.flatMap (separator ++ ·) := by
  cases first with
  | nil => exact absurd rfl some
  | cons line rest =>
    rw [List.cons_append, joinWith_cons, joinWith_cons, List.flatMap_append, List.append_assoc]

theorem strip_joinWith_append_iff (first second : List (List Char)) :
    strip (joinWith ['\n'] (first ++ second)) = strip (joinWith ['\n'] first) ↔
      ∀ line ∈ second, Blank line := by
  constructor
  · intro same
    have kept := congrArg (List.filter (!isBlank ·)) same
    rw [filter_strip, filter_strip, filter_joinWith_feed, filter_joinWith_feed, List.flatMap_append,
      List.append_right_eq_self, List.flatMap_eq_nil_iff] at kept
    exact fun line member => filter_eq_nil_iff_blank.mp (kept line member)
  · intro blank
    have all : Blank (second.flatMap (['\n'] ++ ·)) := by
      intro c member
      obtain ⟨line, inside, here⟩ := List.mem_flatMap.mp member
      rcases List.mem_cons.mp here with rfl | here
      · decide
      · exact blank line inside c here
    cases first with
    | nil =>
      rw [List.nil_append, strip_eq_nil_iff.mpr]
      · rfl
      · rw [← filter_eq_nil_iff_blank, filter_joinWith_feed, List.flatMap_eq_nil_iff]
        exact fun line member => filter_eq_nil_iff_blank.mpr (blank line member)
    | cons line rest =>
      rw [joinWith_append _ (List.cons_ne_nil _ _), strip_append_right _ all]

theorem splitLinesAfter_append {line : List Char} (whole : OneLine line)
    (current rest : List Char) :
    splitLinesAfter current (line ++ '\n' :: rest) =
      (current.reverse ++ line) :: splitLinesAfter [] rest := by
  induction line generalizing current with
  | nil =>
    have feed : isLineBreak '\n' = true := by decide
    simp [splitLinesAfter, feed]
  | cons c line ih =>
    obtain ⟨here, later⟩ := List.forall_mem_cons.mp whole
    have other : c ≠ '\r' := by
      rintro rfl
      exact absurd here (by decide)
    rw [List.cons_append, splitLinesAfter, here, if_neg (by decide), ih later]
    · simp
    · exact fun _ same _ => other same

theorem splitLinesAfter_oneLine {line : List Char} (whole : OneLine line) (current : List Char)
    (some : current.reverse ++ line ≠ []) :
    splitLinesAfter current line = [current.reverse ++ line] := by
  induction line generalizing current with
  | nil =>
    rw [List.append_nil] at some
    simpa [splitLinesAfter] using some
  | cons c line ih =>
    obtain ⟨here, later⟩ := List.forall_mem_cons.mp whole
    have other : c ≠ '\r' := by
      rintro rfl
      exact absurd here (by decide)
    rw [splitLinesAfter, here, if_neg (by decide), ih later _ (by simp)]
    · simp
    · exact fun _ same _ => other same

theorem splitLines_joinWith {lines : List (List Char)} (whole : ∀ line ∈ lines, OneLine line)
    (last : ∀ line ∈ lines.getLast?, line ≠ []) : splitLines (joinWith ['\n'] lines) = lines := by
  unfold splitLines
  induction lines with
  | nil => rfl
  | cons line rest ih =>
    obtain ⟨here, later⟩ := List.forall_mem_cons.mp whole
    cases rest with
    | nil =>
      have some : line ≠ [] := last line rfl
      have alone : joinWith ['\n'] [line] = line := by simp [joinWith, List.intercalate]
      rw [alone]
      exact splitLinesAfter_oneLine here [] some
    | cons next rest =>
      rw [joinWith_cons_cons, List.append_assoc, List.singleton_append,
        splitLinesAfter_append here, ih later (by simpa using last)]
      rfl

end HintSchema.Text

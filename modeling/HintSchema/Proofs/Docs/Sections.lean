import HintSchema.Proofs.Docs.Description
import HintSchema.Proofs.Pairs

/-!
Documentation strings with a section on parameters, written from their parts and read back
(`parse_written`).
-/

namespace HintSchema.Docs

open HintSchema.Text

def isName : List Char → Bool
  | c :: rest => isAsciiLetter c && rest.all isWordChar
  | [] => false

theorem exists_of_isName {name : List Char} (named : isName name = true) :
    ∃ c rest, name = c :: rest ∧ isAsciiLetter c = true ∧ ∀ d ∈ rest, isWordChar d = true := by
  cases name with
  | nil => cases named
  | cons c rest =>
    obtain ⟨letter, word⟩ := (Bool.and_eq_true_iff).mp named
    exact ⟨c, rest, rfl, letter, List.all_eq_true.mp word⟩

/-- What is said of a parameter, over one or more lines. Each further line comes with the white
space before it. -/
structure Entry where
  margin : List Char
  name : String
  first : List Char
  others : List (List Char × List Char)

namespace Entry

/-- `name: first line`, then the other lines. -/
def lines (e : Entry) : List (List Char) :=
  (e.margin ++ (e.name.toList ++ ':' :: ' ' :: e.first)) :: e.others.map fun p => p.1 ++ p.2

/-- The lines without white space around them, one space between two of them. -/
def text (e : Entry) : List Char :=
  joinWith [' '] (strip e.first :: e.others.map fun p => strip p.2)

/-- The name is one, each line says something, and further lines are indented deeper. -/
structure WellFormed (e : Entry) : Prop where
  indented : e.margin ≠ [] ∧ Blank e.margin
  named : isName e.name.toList = true
  filled : ¬ Blank e.first
  deeper : ∀ p ∈ e.others, Blank p.1 ∧ e.margin.length < p.1.length ∧ ¬ Blank p.2

end Entry

/-- The parts of a documentation string. The section on the result has the lines that it is set
apart by and its own lines. -/
structure Written where
  description : List (List Char)
  entries : List Entry
  result : Option (List (List Char) × List (List Char))

namespace Written

def argumentsHeader : List Char := "Args:".toList

def resultHeader : List Char := "Returns:".toList

def resultLines (w : Written) : List (List Char) :=
  match w.result with
  | some (apart, lines) => apart ++ resultHeader :: lines
  | none => []

def lines (w : Written) : List (List Char) :=
  w.description ++ [] :: argumentsHeader :: (w.entries.flatMap Entry.lines ++ w.resultLines)

def text (w : Written) : String := .ofList (joinWith ['\n'] w.lines)

/-- No line of the description opens anything, no name comes twice, no entry is indented deeper than
the one before it, and the lines on the result are indented. -/
structure WellFormed (w : Written) : Prop where
  described : ∀ line ∈ w.description, opening? line = none
  entries : ∀ e ∈ w.entries, e.WellFormed
  distinct : (w.entries.map (·.name)).Nodup
  level : w.entries.Pairwise fun e f => f.margin.length ≤ e.margin.length
  result : ∀ r ∈ w.result, (∀ line ∈ r.1, Blank line) ∧ ∀ line ∈ r.2, isIndented line = true
  whole : ∀ line ∈ w.lines, OneLine line

end Written

/-! ### Lines -/

variable {line : List Char}

theorem opening_of_indented (indented : isIndented line = true) : opening? line = none := by
  unfold opening? header?
  rw [if_pos indented]
  dsimp only
  split
  · rw [indented, Bool.not_true, Bool.and_false, if_neg Bool.false_ne_true]
    rfl
  · rfl

theorem isIndented_append {margin : List Char} (some : margin ≠ []) (blank : Blank margin)
    (rest : List Char) : isIndented (margin ++ rest) = true := by
  cases margin with
  | nil => exact absurd rfl some
  | cons c margin => exact blank c List.mem_cons_self

theorem opening_of_header {title : String} (plain : isIndented line = false)
    (none : (field? (strip line)).isNone = true) (header : header? line = some title) :
    opening? line = some (.header title) := by
  unfold opening?
  rw [plain, if_neg Bool.false_ne_true, Option.isNone_iff_eq_none.mp none, header]
  rfl

theorem opening_argumentsHeader : opening? Written.argumentsHeader = some (.header "args") :=
  opening_of_header (by decide) (by decide +kernel) (by decide +kernel)

theorem opening_resultHeader : opening? Written.resultHeader = some (.header "returns") :=
  opening_of_header (by decide) (by decide +kernel) (by decide +kernel)

theorem isBlank_of_isAsciiLetter {c : Char} (letter : isAsciiLetter c = true) :
    isBlank c = false := by
  have bounds : 65 ≤ c.toNat ∧ c.toNat ≤ 122 := by
    rcases Bool.or_eq_true_iff.mp letter with alpha | underscore
    · rcases Bool.or_eq_true_iff.mp alpha with upper | lower
      · obtain ⟨low, high⟩ := of_decide_eq_true upper
        exact ⟨low, Nat.le_trans high (by decide)⟩
      · obtain ⟨low, high⟩ := Bool.and_eq_true_iff.mp lower
        exact ⟨Nat.le_trans (by decide) (of_decide_eq_true low), of_decide_eq_true high⟩
    · obtain rfl := eq_of_beq underscore
      decide
  simp only [isBlank, Bool.or_eq_false_iff, Bool.and_eq_false_iff, decide_eq_false_iff_not,
    beq_eq_false_iff_ne]
  omega

theorem exists_strip_entry (name : List Char) {first : List Char} {c : Char}
    (letter : isAsciiLetter c = true) (filled : ¬ Blank first) :
    ∃ before, Blank before ∧ strip (c :: name ++ ':' :: ' ' :: first) =
      c :: name ++ ':' :: ' ' :: (before ++ strip first) := by
  obtain ⟨before, after, same, leading, trailing⟩ := exists_strip first
  refine ⟨before, leading, ?_⟩
  have some : strip first ≠ [] := fun empty => filled (strip_eq_nil_iff.mp empty)
  have trimmed : Trimmed (c :: name ++ ':' :: ' ' :: (before ++ strip first)) := by
    have begins : ∀ d ∈ [c].head?, isBlank d = false := by
      rintro d ⟨⟩
      exact isBlank_of_isAsciiLetter letter
    simpa using trimmed_of_ends (List.cons_ne_nil _ _) begins some (trimmed_strip first).last
      (name ++ ':' :: ' ' :: before)
  have whole := strip_eq (List.forall_mem_nil _) trimmed trailing
  conv_lhs => rw [same]
  simpa using whole

theorem entry?_eq {name : List Char} {c : Char} (letter : isAsciiLetter c = true)
    (word : ∀ d ∈ name, isWordChar d = true) (text : List Char) :
    entry? (c :: name ++ ':' :: text) = some (.ofList (c :: name), strip text) := by
  have star : decide (c = '*') = false := by
    rw [decide_eq_false_iff_not]
    rintro rfl
    exact absurd letter (by decide)
  have colon : isWordChar ':' = false := by decide
  have shown : isBlank ':' = false := by decide
  unfold entry?
  simp [List.takeWhile_append_of_pos word, List.dropWhile_append_of_pos word, star, letter, colon,
    shown, stripLeft]

theorem ne_nil_of_indented (indented : isIndented line = true) : line ≠ [] := by
  rintro rfl
  cases indented

theorem Entry.WellFormed.indented_lines {e : Entry} (well : e.WellFormed) :
    ∀ line ∈ e.lines, isIndented line = true := by
  refine List.forall_mem_cons.mpr ⟨?_, List.forall_mem_map.mpr fun p member => ?_⟩
  · exact isIndented_append well.indented.1 well.indented.2 _
  · obtain ⟨blank, deeper, _⟩ := well.deeper p member
    refine isIndented_append ?_ blank _
    exact List.ne_nil_of_length_pos (Nat.zero_lt_of_lt deeper)

/-! ### Steps in a section on parameters -/

namespace Reading

variable {r : Reading}

theorem step_inParameters (inside : r.inSection = some "args") (opens : opening? line = none) :
    r.step line = r.inParameters line (strip line) := by
  rw [step_eq, opens, inside]
  exact if_pos (by decide)

theorem step_blank (inside : r.inSection = some "args") (blank : Blank line) :
    r.step line = { r with current := none } := by
  have opens : opening? line = none := by
    cases line with
    | nil => rfl
    | cons c rest => exact opening_of_indented (blank c List.mem_cons_self)
  rw [step_inParameters inside opens, strip_eq_nil_iff.mpr blank]
  rfl

theorem step_first (inside : r.inSection = some "args") {e : Entry} (well : e.WellFormed)
    (starts : r.current = none ∨ e.margin.length ≤ r.indent) :
    r.step (e.margin ++ (e.name.toList ++ ':' :: ' ' :: e.first)) =
      { r with
        current := some e.name
        indent := e.margin.length
        parameters := Pairs.put r.parameters e.name (.ofList (strip e.first)) } := by
  obtain ⟨some, margin⟩ := well.indented
  obtain ⟨c, rest, named, letter, word⟩ := exists_of_isName well.named
  obtain ⟨before, blank, stripped⟩ := exists_strip_entry rest letter well.filled
  have width : ((e.margin ++ (c :: rest ++ ':' :: ' ' :: e.first)).takeWhile isBlank).length =
      e.margin.length := by
    rw [List.takeWhile_append_of_pos margin, List.cons_append,
      List.takeWhile_cons_of_neg (by simp [isBlank_of_isAsciiLetter letter]), List.append_nil]
  have begun : (r.current.isNone || decide (e.margin.length ≤ r.indent)) = true := by
    rw [Bool.or_eq_true, Option.isNone_iff_eq_none, decide_eq_true_iff]
    exact starts
  have text : strip (' ' :: (before ++ strip e.first)) = strip e.first := by
    have white : Blank (' ' :: before) := List.forall_mem_cons.mpr ⟨by decide, blank⟩
    rw [← List.cons_append, strip_append_left white, strip_of_trimmed (trimmed_strip _)]
  rw [step_inParameters inside (opening_of_indented (isIndented_append some margin _)),
    strip_append_left margin, named, stripped]
  unfold inParameters
  dsimp only
  rw [width, entry?_eq letter word, text, ← named, String.ofList_toList, if_neg]
  · exact if_pos begun
  · rw [List.isEmpty_iff, named]
    exact List.cons_ne_nil _ _

theorem step_further (inside : r.inSection = some "args") {name : String}
    (current : r.current = some name) {indent text : List Char} (blank : Blank indent)
    (deeper : r.indent < indent.length) (filled : ¬ Blank text) :
    r.step (indent ++ text) = r.continued name (strip text) := by
  have some : indent ≠ [] := by
    rintro rfl
    exact absurd deeper (Nat.not_lt_zero _)
  have width : r.indent < ((indent ++ text).takeWhile isBlank).length := by
    rw [List.takeWhile_append_of_pos blank, List.length_append]
    omega
  have within : (r.current.isNone ||
      decide (((indent ++ text).takeWhile isBlank).length ≤ r.indent)) = false := by
    rw [current, Bool.or_eq_false_iff, decide_eq_false_iff_not]
    exact ⟨rfl, Nat.not_le_of_lt width⟩
  have goesOn : r.continuedIfAny (strip text) = r.continued name (strip text) := by
    unfold continuedIfAny
    rw [current]
  rw [step_inParameters inside (opening_of_indented (isIndented_append some blank _)),
    strip_append_left blank]
  unfold inParameters
  dsimp only
  rw [if_neg, within, goesOn]
  · split <;> rfl
  · rw [List.isEmpty_iff]
    exact fun empty => filled (strip_eq_nil_iff.mp empty)

theorem continued_last {done : List (String × String)} {name : String} {said line : List Char}
    (held : r.parameters = done ++ [(name, .ofList said)]) (new : name ∉ Pairs.keys done)
    (begun : Trimmed said ∧ said ≠ []) (more : Trimmed line ∧ line ≠ []) :
    r.continued name line =
      { r with parameters := done ++ [(name, .ofList (said ++ ' ' :: line))] } := by
  have looked : Pairs.get? r.parameters name = some (.ofList said) := by
    rw [held, Pairs.get?, List.lookup_append, Pairs.lookup_eq_none_iff.mpr new,
      List.lookup_cons_self, Option.none_or]
  have trimmed : Trimmed (said ++ ' ' :: line) :=
    trimmed_of_ends begun.2 begun.1.first more.2 more.1.last [' ']
  unfold continued
  dsimp only
  rw [looked, Option.getD_some, String.toList_ofList, strip_of_trimmed trimmed, held,
    Pairs.put_present _ _ new List.not_mem_nil]

theorem foldl_further (others : List (List Char × List Char)) {done : List (String × String)}
    {name : String} {said : List Char} (inside : r.inSection = some "args")
    (current : r.current = some name) (held : r.parameters = done ++ [(name, .ofList said)])
    (new : name ∉ Pairs.keys done) (begun : Trimmed said ∧ said ≠ [])
    (deeper : ∀ p ∈ others, Blank p.1 ∧ r.indent < p.1.length ∧ ¬ Blank p.2) :
    (others.map fun p => p.1 ++ p.2).foldl step r =
      { r with
        parameters := done ++
          [(name, .ofList (said ++ (others.map fun p => strip p.2).flatMap ([' '] ++ ·)))] } := by
  induction others generalizing r said with
  | nil => simp [← held]
  | cons p rest ih =>
    obtain ⟨⟨blank, further, filled⟩, later⟩ := List.forall_mem_cons.mp deeper
    have more : Trimmed (strip p.2) ∧ strip p.2 ≠ [] :=
      ⟨trimmed_strip _, fun empty => filled (strip_eq_nil_iff.mp empty)⟩
    have longer : Trimmed (said ++ ' ' :: strip p.2) :=
      trimmed_of_ends begun.2 begun.1.first more.2 more.1.last [' ']
    rw [List.map_cons, List.foldl_cons, step_further inside current blank further filled,
      continued_last held new begun more]
    refine Eq.trans (ih inside current rfl ⟨longer, by simp⟩ later) ?_
    simp

theorem foldl_entry (inside : r.inSection = some "args") {e : Entry} (well : e.WellFormed)
    (starts : r.current = none ∨ e.margin.length ≤ r.indent)
    (new : e.name ∉ Pairs.keys r.parameters) :
    e.lines.foldl step r =
      { r with
        current := some e.name
        indent := e.margin.length
        parameters := r.parameters ++ [(e.name, .ofList e.text)] } := by
  have begun : Trimmed (strip e.first) ∧ strip e.first ≠ [] :=
    ⟨trimmed_strip _, fun empty => well.filled (strip_eq_nil_iff.mp empty)⟩
  rw [Entry.lines, List.foldl_cons, step_first inside well starts, Pairs.put_absent new, Entry.text,
    joinWith_cons]
  exact foldl_further e.others inside rfl rfl new begun well.deeper

theorem foldl_entries {entries : List Entry} (inside : r.inSection = some "args")
    (well : ∀ e ∈ entries, e.WellFormed)
    (starts : r.current = none ∨ ∀ e ∈ entries, e.margin.length ≤ r.indent)
    (level : entries.Pairwise fun e f => f.margin.length ≤ e.margin.length)
    (distinct : (Pairs.keys r.parameters ++ entries.map (·.name)).Nodup) :
    ∃ current indent, (entries.flatMap Entry.lines).foldl step r =
      { r with
        current := current
        indent := indent
        parameters := r.parameters ++ entries.map fun e => (e.name, .ofList e.text) } := by
  induction entries generalizing r with
  | nil => exact ⟨r.current, r.indent, by simp⟩
  | cons e rest ih =>
    obtain ⟨here, later⟩ := List.forall_mem_cons.mp well
    obtain ⟨lower, level⟩ := List.pairwise_cons.mp level
    have new : e.name ∉ Pairs.keys r.parameters := fun known =>
      (List.nodup_append.mp distinct).2.2 _ known _ List.mem_cons_self rfl
    have apart : (Pairs.keys (r.parameters ++ [(e.name, String.ofList e.text)]) ++
        rest.map Entry.name).Nodup := by
      simpa [Pairs.keys] using distinct
    rw [List.flatMap_cons, List.foldl_append, foldl_entry inside here
      (starts.imp_right fun first => first e List.mem_cons_self) new]
    obtain ⟨current, indent, same⟩ := ih (r := { r with
      current := some e.name
      indent := e.margin.length
      parameters := r.parameters ++ [(e.name, .ofList e.text)] }) inside later (.inr lower) level
      apart
    exact ⟨current, indent, same.trans (by simp)⟩

theorem foldl_blank {lines : List (List Char)} (inside : r.inSection = some "args")
    (blank : ∀ line ∈ lines, Blank line) :
    ∃ current, lines.foldl step r = { r with current := current } := by
  induction lines generalizing r with
  | nil => exact ⟨r.current, rfl⟩
  | cons line rest ih =>
    obtain ⟨here, later⟩ := List.forall_mem_cons.mp blank
    rw [List.foldl_cons, step_blank inside here]
    exact ih (r := { r with current := none }) inside later

theorem foldl_described {lines : List (List Char)} (outside : r.inSection = none)
    (idle : r.current = none) (described : ∀ line ∈ lines, opening? line = none) :
    lines.foldl step r = { r with description := r.description ++ lines } := by
  induction lines generalizing r with
  | nil => simp
  | cons line rest ih =>
    obtain ⟨here, later⟩ := List.forall_mem_cons.mp described
    have next : r.step line = { r with description := r.description ++ [line] } := by
      simp [step_eq, here, outsideSections, outside, idle]
    rw [List.foldl_cons, next]
    refine Eq.trans (ih outside idle later) ?_
    simp

theorem foldl_result {lines : List (List Char)} (inside : r.inSection = some "returns")
    (indented : ∀ line ∈ lines, isIndented line = true) : lines.foldl step r = r := by
  induction lines with
  | nil => rfl
  | cons line rest ih =>
    obtain ⟨here, later⟩ := List.forall_mem_cons.mp indented
    have same : r.step line = r := by
      rw [step_eq, opening_of_indented here, inside]
      exact if_neg (by decide)
    rw [List.foldl_cons, same, ih later]

end Reading

namespace Written

variable {w : Written}

theorem foldl_resultLines {r : Reading} (well : w.WellFormed) (inside : r.inSection = some "args") :
    ∃ inSection current, w.resultLines.foldl Reading.step r =
      { r with inSection := inSection, current := current } := by
  unfold resultLines
  cases said : w.result with
  | none => exact ⟨r.inSection, r.current, rfl⟩
  | some parts =>
    obtain ⟨blank, indented⟩ := well.result parts said
    obtain ⟨current, same⟩ := Reading.foldl_blank inside blank
    refine ⟨some "returns", none, ?_⟩
    rw [List.foldl_append, same, List.foldl_cons, Reading.step_eq, opening_resultHeader]
    exact Reading.foldl_result rfl indented

theorem last_ne_nil (well : w.WellFormed) : ∀ line ∈ w.lines.getLast?, line ≠ [] := by
  have filled : ∃ front back, w.lines = front ++ back ∧ back ≠ [] ∧ ∀ line ∈ back, line ≠ [] := by
    unfold lines resultLines
    cases said : w.result with
    | none =>
      refine ⟨w.description ++ [[]], argumentsHeader :: w.entries.flatMap Entry.lines, by simp,
        List.cons_ne_nil _ _, List.forall_mem_cons.mpr ⟨by decide, fun line member => ?_⟩⟩
      obtain ⟨e, inside, member⟩ := List.mem_flatMap.mp member
      exact ne_nil_of_indented ((well.entries e inside).indented_lines line member)
    | some parts =>
      refine ⟨w.description ++ [] :: argumentsHeader :: (w.entries.flatMap Entry.lines ++ parts.1),
        resultHeader :: parts.2, by simp, List.cons_ne_nil _ _,
        List.forall_mem_cons.mpr ⟨by decide, fun line member => ?_⟩⟩
      exact ne_nil_of_indented ((well.result parts said).2 line member)
  obtain ⟨front, back, same, some, each⟩ := filled
  obtain ⟨final, last⟩ := Option.ne_none_iff_exists'.mp
    fun none => some (List.getLast?_eq_none_iff.mp none)
  rw [same, List.getLast?_append, last, Option.some_or]
  rintro _ ⟨⟩
  exact each final (List.mem_of_getLast? last)

theorem foldl_lines (well : w.WellFormed) : ∃ inSection current indent,
    w.lines.foldl Reading.step {} =
      { description := w.description ++ [[]]
        parameters := w.entries.map fun e => (e.name, .ofList e.text)
        inSection, current, indent } := by
  have described : ∀ line ∈ w.description ++ [[]], opening? line = none :=
    List.forall_mem_append.mpr ⟨well.described, List.forall_mem_singleton.mpr rfl⟩
  have whole : w.lines = (w.description ++ [[]]) ++
      argumentsHeader :: (w.entries.flatMap Entry.lines ++ w.resultLines) := by
    simp [lines]
  obtain ⟨last, indent, entered⟩ := Reading.foldl_entries
    (r := { description := w.description ++ [[]], inSection := some "args" }) rfl well.entries
    (.inl rfl) well.level well.distinct
  obtain ⟨inSection, current, ended⟩ := foldl_resultLines (r := {
    description := w.description ++ [[]]
    parameters := w.entries.map fun e => (e.name, .ofList e.text)
    inSection := some "args"
    current := last
    indent }) well rfl
  refine ⟨inSection, current, indent, ?_⟩
  rw [whole, List.foldl_append, Reading.foldl_described rfl rfl described, List.foldl_cons,
    Reading.step_eq, opening_argumentsHeader, List.foldl_append]
  exact (congrArg (w.resultLines.foldl Reading.step ·) entered).trans ended

/-- A documentation string is read back as it was written: its description without white space
around it, what it says of each parameter on one line, in order, and no tags. -/
theorem parse_written (w : Written) (well : w.WellFormed) :
    Docstring.parse w.text =
      ⟨.ofList (strip (joinWith ['\n'] w.description)),
        w.entries.map fun e => (e.name, .ofList e.text), []⟩ := by
  have stripped : strip (joinWith ['\n'] (w.description ++ [[]])) =
      strip (joinWith ['\n'] w.description) :=
    (strip_joinWith_append_iff _ _).mpr (List.forall_mem_singleton.mpr (List.forall_mem_nil _))
  obtain ⟨inSection, current, indent, read⟩ := foldl_lines well
  unfold Docstring.parse text
  dsimp only
  rw [String.toList_ofList, splitLines_joinWith well.whole (last_ne_nil well), read, stripped]

/-- A greeting. What is said of `times` goes on with a line that looks like an entry. -/
def greeting : Written where
  description := ["Say hello.".toList, [], "  Politely: twice.  ".toList]
  entries := [
    ⟨"    ".toList, "name", "Who to greet".toList, []⟩,
    ⟨"    ".toList, "times", " How many ".toList,
      [("      ".toList, "unit: times".toList), ("        ".toList, "to repeat".toList)]⟩]
  result := some ([[]], ["    name: The greeting".toList])

theorem parse_written_greeting : greeting.WellFormed ∧ Docstring.parse greeting.text =
    ⟨"Say hello.\n\n  Politely: twice.",
      [("name", "Who to greet"), ("times", "How many unit: times to repeat")], []⟩ := by
  have described : (greeting.description.all fun line =>
      (opening? line).isNone) = true := by decide +kernel
  have well : greeting.WellFormed := {
    described := fun line member =>
      Option.isNone_iff_eq_none.mp (List.all_eq_true.mp described line member)
    entries := List.forall_mem_cons.mpr ⟨⟨by decide, by decide, by decide, by decide⟩,
      List.forall_mem_singleton.mpr ⟨by decide, by decide, by decide, by decide⟩⟩
    distinct := by decide
    level := by decide
    result := by decide
    whole := by decide +kernel }
  exact ⟨well, (parse_written greeting well).trans (by decide +kernel)⟩

end Written

end HintSchema.Docs

import HintSchema.Docs.Docstring
import HintSchema.Docs.Indentation
import HintSchema.Proofs.Text.Lines

/-!
The description of a documentation string: the lines before the first section or field, and those
lines under a field that are not taken for what it says of a parameter
(`description_precedes_openings_iff`).
-/

namespace HintSchema.Docs

open HintSchema.Text

inductive Opening where
  | field (field : Field)
  | header (title : String)

def opening? (line : List Char) : Option Opening :=
  match if isIndented line then none else field? (strip line) with
  | some field => some (.field field)
  | none => (header? line).map .header

namespace Field

def namesParameter (f : Field) : Bool := parameterFields.contains f.name && !f.argument.isEmpty

end Field

def continues (line : List Char) : Bool := !(strip line).isEmpty && isIndented line

/-- The lines up to the first that opens something. -/
def lead (lines : List (List Char)) : List (List Char) :=
  lines.takeWhile fun line => (opening? line).isNone

namespace Opening

/-- Of the lines under an opening, those that are not taken for a part of it: none under a header,
and under a field all after those that go on with what it says of a parameter. -/
def leaves : Opening → List (List Char) → List (List Char)
  | field f, lines => if f.namesParameter then lines.dropWhile continues else lines
  | header _, _ => []

end Opening

/-- The lines under fields that are not taken for a part of them. -/
def strays : List (List Char) → List (List Char)
  | [] => []
  | line :: rest =>
    match opening? line with
    | some opening => opening.leaves (lead rest) ++ strays rest
    | none => strays rest

namespace Reading

/-- Of the lines that come next and open nothing, those that are added to the description. -/
def adds (r : Reading) (lines : List (List Char)) : List (List Char) :=
  match r.inSection, r.current with
  | some _, _ => []
  | none, some _ => lines.dropWhile continues
  | none, none => lines

variable {r : Reading} {line : List Char}

theorem step_eq (r : Reading) (line : List Char) :
    r.step line = match opening? line with
      | some (.field field) => r.afterField field
      | some (.header title) => { r with inSection := some title, current := none }
      | none =>
        match r.inSection with
        | none => r.outsideSections line (strip line)
        | some title =>
          if parameterSections.contains title then r.inParameters line (strip line) else r := by
  unfold step opening?
  dsimp only
  generalize (if isIndented line then none else field? (strip line)) = found
  cases found with
  | some field => rfl
  | none => cases header? line <;> rfl

theorem adds_nil (r : Reading) : r.adds [] = [] := by
  unfold adds
  split <;> rfl

theorem adds_afterField (r : Reading) (f : Field) (lines : List (List Char)) :
    (r.afterField f).description = r.description ∧
      (r.afterField f).adds lines = (Opening.field f).leaves lines := by
  unfold afterField Opening.leaves Field.namesParameter
  dsimp only
  split
  · exact ⟨rfl, rfl⟩
  · split <;> exact ⟨rfl, rfl⟩

theorem inParameters_keeps (r : Reading) (line stripped : List Char) :
    (r.inParameters line stripped).description = r.description ∧
      (r.inParameters line stripped).inSection = r.inSection := by
  have goesOn : (r.continuedIfAny stripped).description = r.description ∧
      (r.continuedIfAny stripped).inSection = r.inSection := by
    unfold continuedIfAny
    cases r.current <;> exact ⟨rfl, rfl⟩
  unfold inParameters
  dsimp only
  split
  · exact ⟨rfl, rfl⟩
  · split
    · split
      · exact ⟨rfl, rfl⟩
      · exact goesOn
    · exact goesOn

theorem adds_step (opens : opening? line = none) (lines : List (List Char)) :
    (r.step line).description ++ (r.step line).adds lines =
      r.description ++ r.adds (line :: lines) := by
  rw [step_eq, opens]
  dsimp only
  cases inside : r.inSection with
  | some title =>
    have nothing {s : Reading} (same : s.inSection = some title) (more : List (List Char)) :
        s.adds more = [] := by
      unfold adds
      rw [same]
    dsimp only
    rw [nothing inside]
    split
    · obtain ⟨kept, still⟩ := r.inParameters_keeps line (strip line)
      rw [nothing (still.trans inside), kept]
    · rw [nothing inside]
  | none =>
    cases current : r.current with
    | none =>
      simp [outsideSections, adds, inside, current]
    | some name =>
      by_cases goesOn : continues line = true
      · have kept : r.outsideSections line (strip line) = r.continued name (strip line) := by
          unfold outsideSections
          rw [current]
          exact if_pos goesOn
        dsimp only
        rw [kept]
        simp [continued, adds, inside, current, goesOn]
      · have added : r.outsideSections line (strip line) =
            { r with current := none, description := r.description ++ [line] } := by
          unfold outsideSections
          rw [current]
          exact if_neg goesOn
        dsimp only
        rw [added]
        simp [adds, inside, current, goesOn]

/-- What a reading adds to the description: of the lines up to the next opening what it adds itself,
and then all strays. -/
theorem description_foldl (r : Reading) (lines : List (List Char)) :
    (lines.foldl step r).description = r.description ++ r.adds (lead lines) ++ strays lines := by
  induction lines generalizing r with
  | nil =>
    rw [lead, List.takeWhile_nil, adds_nil, strays, List.append_nil, List.append_nil]
    rfl
  | cons line rest ih =>
    rw [List.foldl_cons, ih]
    cases opens : opening? line with
    | none =>
      rw [adds_step opens, lead, lead, List.takeWhile_cons_of_pos (by rw [opens]; rfl), strays,
        opens]
    | some opening =>
      have none : lead (line :: rest) = [] :=
        List.takeWhile_cons_of_neg (by rw [opens]; exact Bool.false_ne_true)
      rw [none, adds_nil, strays, opens, step_eq, opens, List.append_nil, ← List.append_assoc]
      cases opening with
      | field f =>
        obtain ⟨kept, same⟩ := adds_afterField r f (lead rest)
        rw [kept, same]
      | header title => rfl

end Reading

namespace Docstring

/-- The description is made of the lines before the first opening and of the strays. It is what
precedes the first opening just if there is nothing but white space in the strays. -/
theorem description_precedes_openings_iff (text : String) :
    (parse text).description = .ofList (strip (joinWith ['\n']
        (lead (splitLines text.toList) ++ strays (splitLines text.toList)))) ∧
      ((parse text).description =
          .ofList (strip (joinWith ['\n'] (lead (splitLines text.toList)))) ↔
        ∀ line ∈ strays (splitLines text.toList), strip line = []) := by
  have whole : (parse text).description = .ofList (strip (joinWith ['\n']
      (lead (splitLines text.toList) ++ strays (splitLines text.toList)))) := by
    unfold parse
    dsimp only
    rw [Reading.description_foldl]
    rfl
  refine ⟨whole, ?_⟩
  rw [whole, String.ofList_inj, strip_joinWith_append_iff]
  simp only [strip_eq_nil_iff]

def longResult : String := "Add numbers.\n\n:returns: the sum\n    of both"

/-- The second line of the field gets into the description. -/
theorem longResult_strays : String.ofList (Docs.clean longResult.toList) = longResult ∧
    (lead (splitLines longResult.toList)).map String.ofList = ["Add numbers.", ""] ∧
    (strays (splitLines longResult.toList)).map String.ofList = ["    of both"] ∧
    (parse longResult).description = "Add numbers.\n\n    of both" := by
  decide +kernel

end Docstring

end HintSchema.Docs

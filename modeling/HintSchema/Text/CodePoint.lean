import HintSchema.Text.Character

/-!
Text as a string literal can spell it: an escape may name half of a surrogate pair, which no
`Char` is. Where such a text becomes a name, two characters stand for the half.
-/

namespace HintSchema

inductive CodePoint where
  | scalar (c : Char)
  | surrogate (offset : Fin 2048)
  deriving DecidableEq, Repr

namespace CodePoint

def value : CodePoint → Nat
  | scalar c => c.toNat
  | surrogate offset => 0xd800 + offset.val

def ofNat? (n : Nat) : Option CodePoint :=
  if h : n.isValidChar then some (.scalar (Char.ofNatAux n h))
  else if h : 0xd800 ≤ n ∧ n < 0xe000 then some (.surrogate ⟨n - 0xd800, by omega⟩)
  else none

/-- The last code point of all, which is no character. -/
def mark : Char := .ofNat 0x10ffff

/-- A private character for each half of a surrogate pair. -/
def ofHalf (offset : Fin 2048) : Char := Char.ofNatAux (0xf0000 + offset.val) (.inr (by omega))

def half? (c : Char) : Option (Fin 2048) :=
  if h : 0xf0000 ≤ c.toNat ∧ c.toNat < 0xf0800 then some ⟨c.toNat - 0xf0000, by omega⟩ else none

/-- A half is spelled with a mark before its character, and the mark itself twice. -/
def spelled : CodePoint → List Char
  | scalar c => if c = mark then [mark, mark] else [c]
  | surrogate offset => [mark, ofHalf offset]

/-- How a stream shows it that has no place for halves. -/
def shown : CodePoint → List Char
  | scalar c => [c]
  | surrogate offset => '\\' :: 'u' :: Nat.toDigits 16 (0xd800 + offset.val)

theorem half?_ofHalf (offset : Fin 2048) : half? (ofHalf offset) = some offset := by
  have same : (ofHalf offset).toNat = 0xf0000 + offset.val := rfl
  simp only [half?, same]
  rw [dif_pos (by omega)]
  exact congrArg some (Fin.ext (Nat.add_sub_cancel_left ..))

theorem ofHalf_ne_mark (offset : Fin 2048) : ofHalf offset ≠ mark := by
  intro same
  have half := half?_ofHalf offset
  rw [same] at half
  cases half

end CodePoint

abbrev CodeText := List CodePoint

namespace CodeText

def ofChars (chars : List Char) : CodeText := chars.map .scalar

def ofString (s : String) : CodeText := ofChars s.toList

def chars? (text : CodeText) : Option (List Char) :=
  text.mapM fun
    | .scalar c => some c
    | .surrogate _ => none

def toName (text : CodeText) : String := .ofList (text.flatMap CodePoint.spelled)

/-- What characters spell. A mark before any other character stands for itself. -/
def ofSpelling : List Char → CodeText
  | [] => []
  | [c] => [.scalar c]
  | c :: next :: rest =>
    if c ≠ CodePoint.mark then .scalar c :: ofSpelling (next :: rest)
    else if next = CodePoint.mark then .scalar c :: ofSpelling rest
    else
      match CodePoint.half? next with
      | some offset => .surrogate offset :: ofSpelling rest
      | none => .scalar c :: ofSpelling (next :: rest)

def ofName (name : String) : CodeText := ofSpelling name.toList

def toString (text : CodeText) : String := .ofList (text.flatMap CodePoint.shown)

theorem chars?_ofChars (chars : List Char) : chars? (ofChars chars) = some chars := by
  induction chars with
  | nil => rfl
  | cons c rest ih => simp_all [chars?, ofChars]

theorem ofSpelling_append (p : CodePoint) (rest : List Char) :
    ofSpelling (p.spelled ++ rest) = p :: ofSpelling rest := by
  cases p with
  | scalar c =>
    by_cases marked : c = CodePoint.mark
    · simp [CodePoint.spelled, ofSpelling, marked]
    · cases rest <;> simp [CodePoint.spelled, ofSpelling, marked]
  | surrogate offset =>
    simp [CodePoint.spelled, ofSpelling, CodePoint.ofHalf_ne_mark, CodePoint.half?_ofHalf]

theorem ofName_toName (text : CodeText) : ofName text.toName = text := by
  unfold ofName toName
  rw [String.toList_ofList]
  induction text with
  | nil => rfl
  | cons p rest ih => rw [List.flatMap_cons, ofSpelling_append, ih]

theorem toName_injective {first second : CodeText} (same : first.toName = second.toName) :
    first = second := by
  rw [← ofName_toName first, same, ofName_toName]

end CodeText

end HintSchema

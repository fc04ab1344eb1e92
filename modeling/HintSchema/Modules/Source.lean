import HintSchema.Files.Tree
import HintSchema.Modules.Scope
import HintSchema.Syntax.Parser.Statement

/-!
A module read from a file. A file that is no text, or whose text does not parse, still is a module:
one without statements.
-/

namespace HintSchema

def unifyLineEnds : List Char → List Char
  | [] => []
  | '\r' :: '\n' :: rest => '\n' :: unifyLineEnds rest
  | '\r' :: rest => '\n' :: unifyLineEnds rest
  | c :: rest => c :: unifyLineEnds rest

/-- Without a body the file does not parse. -/
structure SourceFile where
  path : Path
  module : String
  body : Option (List Statement)
  scope : Scope

namespace SourceFile

def decode? (bytes : ByteArray) : Option (List Char) :=
  (String.fromUTF8? bytes).map fun text => unifyLineEnds text.toList

def parse? (dialect : Lexer.Dialect) (bytes : ByteArray) : Option (List Statement) := do
  let chars ← decode? bytes
  if chars.contains '\x00' then none else Parser.module? dialect chars

def ofBody (module : String) (path : Path) (body : Option (List Statement)) : SourceFile :=
  ⟨path, module, body, (body.map Scope.ofStatements).getD .empty⟩

def read (dialect : Lexer.Dialect) (module : String) (path : Path) (bytes : ByteArray) :
    SourceFile :=
  .ofBody module path (parse? dialect bytes)

/-- The characters of a line. Those of an ASCII line are read off its bytes, which takes fewer steps
where programs are evaluated in a proof. -/
def lineChars (line : String) : List Char :=
  let bytes := line.toByteArray.data.toList
  if bytes.all (· < 128) then bytes.map fun b => Char.ofNat b.toNat else line.toList

theorem map_encoded {c : Char} (ascii : (String.utf8EncodeChar c).all (· < 128) = true) :
    (String.utf8EncodeChar c).map (fun b => Char.ofNat b.toNat) = [c] := by
  rw [List.all_eq_true] at ascii
  unfold String.utf8EncodeChar at ascii ⊢
  dsimp only at ascii ⊢
  split at ascii
  · rename_i bound
    rw [if_pos bound, List.map_singleton, UInt8.toNat_ofNat', Nat.mod_eq_of_lt (by omega)]
    exact congrArg (fun d => [d]) c.ofNat_toNat
  -- The first of several bytes is no ASCII.
  · have first {b : UInt8} {rest : List UInt8} (all : ∀ x ∈ b :: rest, decide (x < 128) = true) :
        b.toNat < 128 :=
      UInt8.lt_iff_toNat_lt.mp (of_decide_eq_true (all b List.mem_cons_self))
    split at ascii
    · have := first ascii
      simp only [UInt8.toNat_ofNat'] at this
      omega
    · split at ascii
      all_goals
        have := first ascii
        simp only [UInt8.toNat_ofNat'] at this
        omega

theorem lineChars_eq (line : String) : lineChars line = line.toList := by
  unfold lineChars
  dsimp only
  split
  · rename_i ascii
    obtain ⟨chars, rfl⟩ : ∃ chars, line = .ofList chars := ⟨line.toList, String.ofList_toList.symm⟩
    have bytes : (String.ofList chars).toByteArray.data.toList =
        chars.flatMap String.utf8EncodeChar := by
      rw [String.toByteArray_ofList, List.utf8Encode, List.data_toByteArray]
    rw [bytes] at ascii
    rw [String.toList_ofList, bytes]
    clear bytes
    induction chars with
    | nil => rfl
    | cons c rest ih =>
      rw [List.flatMap_cons, List.all_append, Bool.and_eq_true] at ascii
      rw [List.flatMap_cons, List.map_append, map_encoded ascii.1, ih ascii.2]
      rfl
  · rfl

def ofLines (path : Path) (lines : List String) : SourceFile :=
  let text := lines.flatMap fun line => lineChars line ++ ['\n']
  .ofBody path.stem path (Parser.module? Parser.currentDialect text)

def missing (path : Path) : SourceFile := ⟨path, "", none, .empty⟩

def fileName (s : SourceFile) : String := s.path.toString

def isPackage (s : SourceFile) : Bool := ["__init__.py", "__init__.pyi"].contains s.path.name

def statements (s : SourceFile) : List Statement := s.body.getD []

end SourceFile

end HintSchema

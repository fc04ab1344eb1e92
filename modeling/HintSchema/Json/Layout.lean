import HintSchema.Json.Basic
import HintSchema.Text.CodePoint

/-!
The written form of a document: one item a line, two spaces for each level, ASCII only.
-/

namespace HintSchema.Json

def hex4 (n : Nat) : List Char :=
  let digits := Nat.toDigits 16 n
  List.replicate (4 - digits.length) '0' ++ digits

def unit (n : Nat) : List Char := '\\' :: 'u' :: hex4 n

/-- A character beyond the first plane is written as two halves. -/
def escapeChar (c : Char) : List Char :=
  if c = '\x22' ∨ c = '\\' then ['\\', c]
  else if c = '\n' then ['\\', 'n']
  else if c = '\r' then ['\\', 'r']
  else if c = '\t' then ['\\', 't']
  else if c = '\x0c' then ['\\', 'f']
  else if c = '\x08' then ['\\', 'b']
  else
    let n := c.toNat
    if 0x20 ≤ n ∧ n < 0x7f then [c]
    else if n < 0x10000 then unit n
    else unit (0xd800 + (n - 0x10000) / 0x400) ++ unit (0xdc00 + (n - 0x10000) % 0x400)

def escapePoint : CodePoint → List Char
  | .scalar c => escapeChar c
  | .surrogate offset => unit (0xd800 + offset.val)

def quoted (s : String) : String :=
  "\x22" ++ .ofList ((CodeText.ofName s).flatMap escapePoint) ++ "\x22"

theorem quoted_toName (text : CodeText) :
    quoted text.toName = "\x22" ++ .ofList (text.flatMap escapePoint) ++ "\x22" := by
  rw [quoted, CodeText.ofName_toName]

def newline (depth : Nat) : String := "\n" ++ .ofList (List.replicate (2 * depth) ' ')

def block (depth : Nat) (opening closing : String) (items : List String) : String :=
  if items.isEmpty then opening ++ closing
  else opening ++ newline (depth + 1) ++ ("," ++ newline (depth + 1)).intercalate items ++
    newline depth ++ closing

mutual

def layoutAt (depth : Nat) : Json → String
  | .null => "null"
  | .bool value => if value then "true" else "false"
  | .int value => toString value
  | .str value => quoted value
  | .arr items => block depth "[" "]" (layoutItems (depth + 1) items)
  | .obj members => block depth "\x7b" "\x7d" (layoutMembers (depth + 1) members)

def layoutItems (depth : Nat) : List Json → List String
  | [] => []
  | item :: rest => layoutAt depth item :: layoutItems depth rest

def layoutMembers (depth : Nat) : List (String × Json) → List String
  | [] => []
  | (name, value) :: rest =>
    (quoted name ++ ": " ++ layoutAt depth value) :: layoutMembers depth rest

end

def layout (document : Json) : String := document.layoutAt 0

end HintSchema.Json

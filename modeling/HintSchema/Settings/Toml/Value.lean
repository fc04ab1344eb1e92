import HintSchema.Decimal.Shortest
import HintSchema.Syntax.Number
import HintSchema.Text.Quoted

/-!
The values of a TOML document, and how they are quoted in a message.
-/

namespace HintSchema

structure Date where
  year : Nat
  month : Nat
  day : Nat
  deriving DecidableEq, Repr

structure TimeOfDay where
  hour : Nat
  minute : Nat
  second : Nat
  microsecond : Nat
  deriving DecidableEq, Repr

namespace Date

def isLeapYear (year : Nat) : Bool := year % 4 == 0 && (year % 100 != 0 || year % 400 == 0)

def daysInMonth (year month : Nat) : Nat :=
  if month = 2 then if isLeapYear year then 29 else 28
  else if [4, 6, 9, 11].contains month then 30 else 31

def isValid (d : Date) : Bool :=
  1 ≤ d.year && 1 ≤ d.month && d.month ≤ 12 && 1 ≤ d.day && d.day ≤ daysInMonth d.year d.month

end Date

/-- The offset of a moment is in minutes. -/
inductive Toml where
  | text (value : String)
  | bool (value : Bool)
  | int (value : Int)
  | float (value : Binary64)
  | date (value : Date)
  | time (value : TimeOfDay)
  | moment (date : Date) (time : TimeOfDay) (offset : Option Int)
  | array (items : List Toml)
  | table (members : List (String × Toml))

namespace Toml

abbrev Table := List (String × Toml)

instance : Inhabited Toml := ⟨.table []⟩

def numbers (items : List Nat) : String := ", ".intercalate (items.map toString)

def timeNumbers (t : TimeOfDay) : List Nat :=
  [t.hour, t.minute] ++
    if t.microsecond ≠ 0 then [t.second, t.microsecond]
    else if t.second ≠ 0 then [t.second] else []

/-- A negative offset counts forward from the day before. -/
def offsetText (minutes : Int) : String :=
  if minutes = 0 then "datetime.timezone.utc"
  else
    let days := Int.fdiv minutes 1440
    let seconds := Int.fmod minutes 1440 * 60
    let parts := (if days = 0 then [] else ["days=" ++ toString days]) ++
      (if seconds = 0 then [] else ["seconds=" ++ toString seconds])
    "datetime.timezone(datetime.timedelta(" ++ ", ".intercalate parts ++ "))"

mutual

def quoted : Toml → String
  | .text value => Text.Quoted.string value
  | .bool value => if value then "True" else "False"
  | .int value => toString value
  | .float value => value.render true
  | .date d => "datetime.date(" ++ numbers [d.year, d.month, d.day] ++ ")"
  | .time t => "datetime.time(" ++ numbers (timeNumbers t) ++ ")"
  | .moment d t offset =>
    let zone := match offset with
      | some minutes => ", tzinfo=" ++ offsetText minutes
      | none => ""
    "datetime.datetime(" ++ numbers ([d.year, d.month, d.day] ++ timeNumbers t) ++ zone ++ ")"
  | .array items => "[" ++ ", ".intercalate (quotedItems items) ++ "]"
  | .table members => "\x7b" ++ ", ".intercalate (quotedMembers members) ++ "\x7d"

def quotedItems : List Toml → List String
  | [] => []
  | item :: rest => quoted item :: quotedItems rest

def quotedMembers : List (String × Toml) → List String
  | [] => []
  | (name, value) :: rest =>
    (Text.Quoted.string name ++ ": " ++ quoted value) :: quotedMembers rest

end

mutual

def isTooLong : Toml → Bool
  | .int value => Number.digitLimit < (toString value.natAbs).length
  | .array items => areTooLong items
  | .table members => memberIsTooLong members
  | _ => false

def areTooLong : List Toml → Bool
  | [] => false
  | item :: rest => isTooLong item || areTooLong rest

def memberIsTooLong : List (String × Toml) → Bool
  | [] => false
  | (_, value) :: rest => isTooLong value || memberIsTooLong rest

end

def plain : Toml → String
  | text value => value
  | value => value.quoted

def text? : Toml → Option String
  | text value => some value
  | _ => none

def isEmpty : Toml → Bool
  | text value => value.isEmpty
  | bool value => !value
  | int value => value == 0
  | float value => value.isZero
  | array items => items.isEmpty
  | table members => members.isEmpty
  | _ => false

end Toml

end HintSchema

import HintSchema.Handle.Identity
import HintSchema.Schema.Basic

/-!
The form of a handle, which decides what a schema makes of it.
-/

namespace HintSchema

open Schema (Absence)

inductive Form where
  | awaitable | classObject | void | array | scalar | nullable | record | unsupported
  deriving DecidableEq, Repr

namespace Form

def text : Form → String
  | awaitable => "awaitable"
  | classObject => "class_instance"
  | void => "void"
  | array => "array"
  | scalar => "scalar"
  | nullable => "nullable"
  | record => "object"
  | unsupported => "unsupported"

end Form

namespace Intrinsic

def scalarName? : Intrinsic → Option String
  | bool => some "Boolean"
  | str => some "String"
  | int => some "Int"
  | float => some "Float"
  | _ => .none

end Intrinsic

namespace Handle

/-- What awaiting a value gives; an awaitable has exactly one result. -/
def awaited? : Handle → Option Handle
  | awaitable _ [result] => some result
  | _ => .none

def element? : Handle → Option Handle
  | list _ element => some element
  | _ => .none

def scalarName? : Handle → Option String
  | intrinsic kind => kind.scalarName?
  | _ => .none

def isNone : Handle → Bool
  | intrinsic .none => true
  | _ => false

def isMissing : Handle → Bool
  | intrinsic .missing => true
  | _ => false

/-- How the absence of a value is expressed among the members of a union. -/
def absence? (members : List Handle) : Option Absence :=
  match members.any isNone, members.any isMissing with
  | true, true => some .either
  | true, false => some .null
  | false, true => some .undefined
  | false, false => .none

def nullable? : Handle → Option (Handle × Absence)
  | union members =>
    match absence? members, members.filter fun m => !m.isNone && !m.isMissing with
    | some absence, [single] => some (single, absence)
    | _, _ => .none
  | _ => .none

def form (h : Handle) : Form :=
  match h with
  | awaitable _ [_] => .awaitable
  | classObject _ _ => .classObject
  | void _ => .void
  | list _ _ => .array
  | intrinsic kind => if kind.scalarName?.isSome then .scalar else .unsupported
  | union _ => if h.nullable?.isSome then .nullable else .unsupported
  | record _ _ _ _ => .record
  | _ => .unsupported

end Handle

end HintSchema

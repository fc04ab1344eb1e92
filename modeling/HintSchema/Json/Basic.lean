/-!
JSON documents whose members keep their order.
-/

namespace HintSchema

inductive Json where
  | null
  | bool (value : Bool)
  | int (value : Int)
  | str (value : String)
  | arr (items : List Json)
  | obj (members : List (String × Json))

namespace Json

instance : Inhabited Json := ⟨.null⟩

def optional : Option String → Json
  | some text => .str text
  | none => .null

def texts (items : List String) : Json := .arr (items.map .str)

def member? (name : String) : Json → Option Json
  | obj members => members.lookup name
  | _ => none

theorem sizeOf_lookup_lt {name : String} {value : Json} :
    ∀ {members : List (String × Json)}, members.lookup name = some value →
      sizeOf value < sizeOf members
  | [], h => by simp at h
  | (key, first) :: rest, h => by
    rw [List.lookup_cons] at h
    split at h
    · obtain rfl := Option.some.inj h
      simp
      omega
    · have := sizeOf_lookup_lt h
      simp
      omega

theorem sizeOf_member_lt {name : String} {value document : Json}
    (h : document.member? name = some value) : sizeOf value < sizeOf document := by
  cases document with
  | obj members =>
    have := sizeOf_lookup_lt h
    simp
    omega
  | _ => simp [member?] at h

def members : Json → List (String × Json)
  | obj members => members
  | _ => []

def items : Json → List Json
  | arr items => items
  | _ => []

def text? : Json → Option String
  | str value => some value
  | _ => none

end Json

end HintSchema

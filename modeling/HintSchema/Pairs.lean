/-!
Lists of pairs in order of insertion, in which a key keeps its place when its value changes.
-/

namespace HintSchema.Pairs

variable {α β : Type} [BEq α]

def put (pairs : List (α × β)) (key : α) (value : β) : List (α × β) :=
  if pairs.any (·.1 == key) then pairs.map fun p => if p.1 == key then (p.1, value) else p
  else pairs ++ [(key, value)]

def putAll (pairs more : List (α × β)) : List (α × β) :=
  more.foldl (fun pairs p => put pairs p.1 p.2) pairs

def get? (pairs : List (α × β)) (key : α) : Option β := pairs.lookup key

def keys (pairs : List (α × β)) : List α := pairs.map (·.1)

def has (pairs : List (α × β)) (key : α) : Bool := pairs.any (·.1 == key)

end HintSchema.Pairs

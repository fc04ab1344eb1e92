/-!
How alike two words are: twice the length of what they share, over their lengths together. What they
share is their longest common piece, and what is shared before it and after it.
-/

namespace HintSchema.Text

def agreement : List Char → List Char → Nat
  | a :: as, b :: bs => if a = b then agreement as bs + 1 else 0
  | _, _ => 0

/-- A common piece: where it starts in either word, and its length. -/
structure CommonPiece where
  first : Nat
  second : Nat
  length : Nat

/-- The longest common piece; of several the one that starts first. -/
def longestCommon (a b : List Char) : CommonPiece :=
  (List.range a.length).foldl (fun best i =>
    (List.range b.length).foldl (fun best j =>
      let length := agreement (a.drop i) (b.drop j)
      if best.length < length then ⟨i, j, length⟩ else best) best) ⟨0, 0, 0⟩

/-- The number of characters shared, for words of at most the given length. -/
def shared : Nat → List Char → List Char → Nat
  | 0, _, _ => 0
  | limit + 1, a, b =>
    let piece := longestCommon a b
    if piece.length = 0 then 0
    else shared limit (a.take piece.first) (b.take piece.second) + piece.length +
      shared limit (a.drop (piece.first + piece.length)) (b.drop (piece.second + piece.length))

/-- Whether two words are alike by six tenths or more. -/
def isClose (a b : String) : Bool :=
  let total := a.length + b.length
  total == 0 || 6 * total ≤ 20 * shared (a.length + 1) a.toList b.toList

end HintSchema.Text

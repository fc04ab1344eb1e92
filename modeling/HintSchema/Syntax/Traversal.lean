import HintSchema.Syntax.Expr

/-!
Two views of a whole expression: the names in it with their depth, from which the breadth-first
order is read off, and its weight, which bounds the recursion on it.
-/

namespace HintSchema

namespace Expr

mutual

/-- Names with the depth of their nodes, each node's parts in the order of its fields. Keywords,
clauses and parameter lists are nodes of their own. -/
def namesAt (depth : Nat) : Expr → List (Nat × String)
  | .name _ id => [(depth, id)]
  | .literal _ _ => []
  | .member _ value _ => namesAt (depth + 1) value
  | .subscript _ value index => namesAt (depth + 1) value ++ namesAt (depth + 1) index
  | .call _ callee arguments keywords =>
    namesAt (depth + 1) callee ++ namesOfList (depth + 1) arguments ++
      namesOfKeywords (depth + 2) keywords
  | .binary _ _ left right => namesAt (depth + 1) left ++ namesAt (depth + 1) right
  | .unary _ _ operand => namesAt (depth + 1) operand
  | .boolean _ _ operands => namesOfList (depth + 1) operands
  | .compare _ first rest => namesAt (depth + 1) first ++ namesOfComparisons (depth + 1) rest
  | .conditional _ test body orelse =>
    namesAt (depth + 1) test ++ namesAt (depth + 1) body ++ namesAt (depth + 1) orelse
  | .lambda _ parameters body =>
    namesOfDefaults (depth + 2) true parameters ++ namesOfDefaults (depth + 2) false parameters ++
      namesAt (depth + 1) body
  | .tuple _ items | .list _ items | .set _ items => namesOfList (depth + 1) items
  | .dict _ items => namesOfKeys (depth + 1) items ++ namesOfValues (depth + 1) items
  | .comprehension _ _ element clauses =>
    namesAt (depth + 1) element ++ namesOfClauses (depth + 2) clauses
  | .dictComprehension _ key value clauses =>
    namesAt (depth + 1) key ++ namesAt (depth + 1) value ++ namesOfClauses (depth + 2) clauses
  | .await _ value | .yieldFrom _ value | .starred _ value => namesAt (depth + 1) value
  | .yield _ value => namesOfOption (depth + 1) value
  | .named _ target value => namesAt (depth + 1) target ++ namesAt (depth + 1) value
  | .slice _ lower upper step =>
    namesOfOption (depth + 1) lower ++ namesOfOption (depth + 1) upper ++
      namesOfOption (depth + 1) step
  | .interpolated _ parts => namesOfList (depth + 1) parts
  | .replacement _ value _ spec => namesAt (depth + 1) value ++ namesOfOption (depth + 1) spec

def namesOfList (depth : Nat) : List Expr → List (Nat × String)
  | [] => []
  | e :: rest => namesAt depth e ++ namesOfList depth rest

def namesOfOption (depth : Nat) : Option Expr → List (Nat × String)
  | none => []
  | some e => namesAt depth e

def namesOfKeywords (depth : Nat) : List Keyword → List (Nat × String)
  | [] => []
  | .mk _ value :: rest => namesAt depth value ++ namesOfKeywords depth rest

def namesOfComparisons (depth : Nat) : List Comparison → List (Nat × String)
  | [] => []
  | .mk _ right :: rest => namesAt depth right ++ namesOfComparisons depth rest

def namesOfKeys (depth : Nat) : List DictItem → List (Nat × String)
  | [] => []
  | .pair key _ :: rest => namesAt depth key ++ namesOfKeys depth rest
  | .spread _ :: rest => namesOfKeys depth rest

def namesOfValues (depth : Nat) : List DictItem → List (Nat × String)
  | [] => []
  | .pair _ value :: rest => namesAt depth value ++ namesOfValues depth rest
  | .spread value :: rest => namesAt depth value ++ namesOfValues depth rest

def namesOfClauses (depth : Nat) : List Clause → List (Nat × String)
  | [] => []
  | .mk _ target source conditions :: rest =>
    namesAt depth target ++ namesAt depth source ++ namesOfList depth conditions ++
      namesOfClauses depth rest

def namesOfDefaults (depth : Nat) (keywordOnly : Bool) : List Parameter → List (Nat × String)
  | [] => []
  | .mk kind _ _ value :: rest =>
    (if (kind == .keywordOnly) == keywordOnly then namesOfOption depth value else []) ++
      namesOfDefaults depth keywordOnly rest

end

def deepest : List (Nat × String) → Nat
  | [] => 0
  | (depth, _) :: rest => max depth (deepest rest)

/-- The names of an expression, level by level, each as often as it occurs. -/
def namesByLevel (e : Expr) : List String :=
  let names := e.namesAt 0
  (List.range (deepest names + 1)).flatMap fun depth =>
    (names.filter fun name => name.1 == depth).map (·.2)

mutual

/-- One for each node, and more for a text than any expression written in it can weigh. -/
def weight : Expr → Nat
  | .name _ _ => 1
  | .literal _ value =>
    match value with
    | .text value _ => 8 * value.length + 8
    | _ => 1
  | .member _ value _ => weight value + 1
  | .subscript _ value index => weight value + weight index + 1
  | .call _ callee arguments keywords =>
    weight callee + weightOfList arguments + weightOfKeywords keywords + 1
  | .binary _ _ left right => weight left + weight right + 1
  | .unary _ _ operand => weight operand + 1
  | .boolean _ _ operands => weightOfList operands + 1
  | .compare _ first rest => weight first + weightOfComparisons rest + 1
  | .conditional _ test body orelse => weight test + weight body + weight orelse + 1
  | .lambda _ parameters body => weightOfParameters parameters + weight body + 1
  | .tuple _ items | .list _ items | .set _ items => weightOfList items + 1
  | .dict _ items => weightOfItems items + 1
  | .comprehension _ _ element clauses => weight element + weightOfClauses clauses + 1
  | .dictComprehension _ key value clauses =>
    weight key + weight value + weightOfClauses clauses + 1
  | .await _ value | .yieldFrom _ value | .starred _ value => weight value + 1
  | .yield _ value => weightOfOption value + 1
  | .named _ target value => weight target + weight value + 1
  | .slice _ lower upper step =>
    weightOfOption lower + weightOfOption upper + weightOfOption step + 1
  | .interpolated _ parts => weightOfList parts + 1
  | .replacement _ value _ spec => weight value + weightOfOption spec + 1

def weightOfList : List Expr → Nat
  | [] => 0
  | e :: rest => weight e + weightOfList rest

def weightOfOption : Option Expr → Nat
  | none => 0
  | some e => weight e

def weightOfKeywords : List Keyword → Nat
  | [] => 0
  | .mk _ value :: rest => weight value + weightOfKeywords rest

def weightOfComparisons : List Comparison → Nat
  | [] => 0
  | .mk _ right :: rest => weight right + weightOfComparisons rest

def weightOfItems : List DictItem → Nat
  | [] => 0
  | .pair key value :: rest => weight key + weight value + weightOfItems rest
  | .spread value :: rest => weight value + weightOfItems rest

def weightOfClauses : List Clause → Nat
  | [] => 0
  | .mk _ target source conditions :: rest =>
    weight target + weight source + weightOfList conditions + weightOfClauses rest

def weightOfParameters : List Parameter → Nat
  | [] => 0
  | .mk _ _ hint value :: rest =>
    weightOfOption hint + weightOfOption value + weightOfParameters rest

end

end Expr

end HintSchema

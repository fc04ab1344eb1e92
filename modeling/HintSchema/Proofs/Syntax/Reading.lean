import HintSchema.Syntax.Traversal
import Mathlib.Data.List.Perm.Basic

/-!
The names of an expression from left to right, as they are written, each with the members behind it.
Level by level they are the same names in another order (`perm_namesByLevel`).
-/

namespace HintSchema

namespace Expr

/-- The name that a chain of members starts at. -/
def root : Expr → String
  | .name _ id => id
  | .member _ value _ => root value
  | _ => ""

mutual

/-- The names and the chains of members in the order in which they are written: an item of a
dictionary after the other, what a condition chooses before the condition. -/
def words : Expr → List Expr
  | .name pos id => [.name pos id]
  | .literal _ _ => []
  | .member pos value attr =>
    if value.dotted?.isSome then [.member pos value attr] else words value
  | .subscript _ value index => words value ++ words index
  | .call _ callee arguments keywords =>
    words callee ++ wordsOfList arguments ++ wordsOfKeywords keywords
  | .binary _ _ left right => words left ++ words right
  | .unary _ _ operand => words operand
  | .boolean _ _ operands => wordsOfList operands
  | .compare _ first rest => words first ++ wordsOfComparisons rest
  | .conditional _ test body orelse => words body ++ words test ++ words orelse
  | .lambda _ parameters body => wordsOfDefaults parameters ++ words body
  | .tuple _ items | .list _ items | .set _ items => wordsOfList items
  | .dict _ items => wordsOfItems items
  | .comprehension _ _ element clauses => words element ++ wordsOfClauses clauses
  | .dictComprehension _ key value clauses =>
    words key ++ words value ++ wordsOfClauses clauses
  | .await _ value | .yieldFrom _ value | .starred _ value => words value
  | .yield _ value => wordsOfOption value
  | .named _ target value => words target ++ words value
  | .slice _ lower upper step => wordsOfOption lower ++ wordsOfOption upper ++ wordsOfOption step
  | .interpolated _ parts => wordsOfList parts
  | .replacement _ value _ spec => words value ++ wordsOfOption spec

def wordsOfList : List Expr → List Expr
  | [] => []
  | e :: rest => words e ++ wordsOfList rest

def wordsOfOption : Option Expr → List Expr
  | none => []
  | some e => words e

def wordsOfKeywords : List Keyword → List Expr
  | [] => []
  | .mk _ value :: rest => words value ++ wordsOfKeywords rest

def wordsOfComparisons : List Comparison → List Expr
  | [] => []
  | .mk _ right :: rest => words right ++ wordsOfComparisons rest

def wordsOfItems : List DictItem → List Expr
  | [] => []
  | .pair key value :: rest => words key ++ words value ++ wordsOfItems rest
  | .spread value :: rest => words value ++ wordsOfItems rest

def wordsOfClauses : List Clause → List Expr
  | [] => []
  | .mk _ target source conditions :: rest =>
    words target ++ words source ++ wordsOfList conditions ++ wordsOfClauses rest

def wordsOfDefaults : List Parameter → List Expr
  | [] => []
  | .mk _ _ _ value :: rest => wordsOfOption value ++ wordsOfDefaults rest

end

theorem root_of_dotted {value : Expr} (dotted : value.dotted?.isSome) :
    value.words.map root = [value.root] := by
  cases value with
  | name => rfl
  | member pos value attr =>
    rw [dotted?, Option.isSome_map] at dotted
    rw [words, if_pos dotted]
    rfl
  | _ => cases dotted

/-- The names, whatever their depths, are those that the words start with, in some order. -/
def Named (names : List (Nat × String)) (read : List Expr) : Prop :=
  (names.map (·.2)).Perm (read.map root)

namespace Named

variable {first second third : List (Nat × String)} {one two : List Expr}

theorem nil : Named [] [] := .refl _

theorem append (left : Named first one) (right : Named second two) :
    Named (first ++ second) (one ++ two) := by
  unfold Named
  rw [List.map_append, List.map_append]
  exact List.Perm.append left right

theorem swap (held : Named (first ++ second ++ third) one) :
    Named (second ++ first ++ third) one :=
  ((List.perm_append_comm.append_right third).map _).trans held

theorem inner (held : Named (first ++ (second ++ third)) one) :
    Named (second ++ (first ++ third)) one := by
  rw [← List.append_assoc] at held ⊢
  exact held.swap

end Named

mutual

theorem named_at : ∀ (depth : Nat) (e : Expr), Named (e.namesAt depth) e.words
  | _, .name _ _ => .refl _
  | _, .literal _ _ => .nil
  | depth, .member _ value _ => by
    rw [namesAt, words]
    split
    · rename_i dotted
      have start := named_at (depth + 1) value
      rwa [Named, root_of_dotted dotted] at start
    · exact named_at (depth + 1) value
  | depth, .subscript _ value index =>
    (named_at (depth + 1) value).append (named_at (depth + 1) index)
  | depth, .call _ callee arguments keywords =>
    ((named_at (depth + 1) callee).append (named_list (depth + 1) arguments)).append
      (named_keywords (depth + 2) keywords)
  | depth, .binary _ _ left right =>
    (named_at (depth + 1) left).append (named_at (depth + 1) right)
  | depth, .unary _ _ operand => named_at (depth + 1) operand
  | depth, .boolean _ _ operands => named_list (depth + 1) operands
  | depth, .compare _ first rest =>
    (named_at (depth + 1) first).append (named_comparisons (depth + 1) rest)
  | depth, .conditional _ test body orelse =>
    (((named_at (depth + 1) body).append (named_at (depth + 1) test)).append
      (named_at (depth + 1) orelse)).swap
  | depth, .lambda _ parameters body =>
    (named_defaults (depth + 2) parameters).append (named_at (depth + 1) body)
  | depth, .tuple _ items | depth, .list _ items | depth, .set _ items =>
    named_list (depth + 1) items
  | depth, .dict _ items => named_items (depth + 1) items
  | depth, .comprehension _ _ element clauses =>
    (named_at (depth + 1) element).append (named_clauses (depth + 2) clauses)
  | depth, .dictComprehension _ key value clauses =>
    ((named_at (depth + 1) key).append (named_at (depth + 1) value)).append
      (named_clauses (depth + 2) clauses)
  | depth, .await _ value | depth, .yieldFrom _ value | depth, .starred _ value =>
    named_at (depth + 1) value
  | depth, .yield _ value => named_option (depth + 1) value
  | depth, .named _ target value =>
    (named_at (depth + 1) target).append (named_at (depth + 1) value)
  | depth, .slice _ lower upper step =>
    ((named_option (depth + 1) lower).append (named_option (depth + 1) upper)).append
      (named_option (depth + 1) step)
  | depth, .interpolated _ parts => named_list (depth + 1) parts
  | depth, .replacement _ value _ spec =>
    (named_at (depth + 1) value).append (named_option (depth + 1) spec)

theorem named_list : ∀ (depth : Nat) (items : List Expr),
    Named (namesOfList depth items) (wordsOfList items)
  | _, [] => .nil
  | depth, e :: rest => (named_at depth e).append (named_list depth rest)

theorem named_option : ∀ (depth : Nat) (item : Option Expr),
    Named (namesOfOption depth item) (wordsOfOption item)
  | _, none => .nil
  | depth, some e => named_at depth e

theorem named_keywords : ∀ (depth : Nat) (keywords : List Keyword),
    Named (namesOfKeywords depth keywords) (wordsOfKeywords keywords)
  | _, [] => .nil
  | depth, .mk _ value :: rest => (named_at depth value).append (named_keywords depth rest)

theorem named_comparisons : ∀ (depth : Nat) (rest : List Comparison),
    Named (namesOfComparisons depth rest) (wordsOfComparisons rest)
  | _, [] => .nil
  | depth, .mk _ right :: rest => (named_at depth right).append (named_comparisons depth rest)

theorem named_items : ∀ (depth : Nat) (items : List DictItem),
    Named (namesOfKeys depth items ++ namesOfValues depth items) (wordsOfItems items)
  | _, [] => .nil
  | depth, .pair key value :: rest => by
    have later := (named_at depth value).append (named_items depth rest)
    rw [wordsOfItems, namesOfKeys, namesOfValues, List.append_assoc, List.append_assoc]
    exact (named_at depth key).append later.inner
  | depth, .spread value :: rest => by
    rw [wordsOfItems, namesOfKeys, namesOfValues]
    exact ((named_at depth value).append (named_items depth rest)).inner

theorem named_clauses : ∀ (depth : Nat) (clauses : List Clause),
    Named (namesOfClauses depth clauses) (wordsOfClauses clauses)
  | _, [] => .nil
  | depth, .mk _ target source conditions :: rest =>
    (((named_at depth target).append (named_at depth source)).append
      (named_list depth conditions)).append (named_clauses depth rest)

theorem named_defaults : ∀ (depth : Nat) (parameters : List Parameter),
    Named (namesOfDefaults depth true parameters ++ namesOfDefaults depth false parameters)
      (wordsOfDefaults parameters)
  | _, [] => .nil
  | depth, .mk kind _ _ value :: rest => by
    have whole := (named_option depth value).append (named_defaults depth rest)
    rw [wordsOfDefaults, namesOfDefaults, namesOfDefaults]
    cases kind == .keywordOnly with
    | true => simpa using whole
    | false => simpa using whole.inner

end

theorem perm_levels (names : List (Nat × String)) (limit : Nat) :
    ((List.range limit).flatMap fun depth => names.filter fun name => name.1 == depth).Perm
      (names.filter fun name => name.1 < limit) := by
  induction limit with
  | zero => simp
  | succ limit ih =>
    have below : (names.filter fun name => name.1 < limit + 1).filter (fun name => name.1 < limit) =
        names.filter fun name => name.1 < limit := by
      rw [List.filter_filter]
      exact List.filter_congr fun name _ => by grind
    have last : (names.filter fun name => name.1 < limit + 1).filter (fun name => !(name.1 < limit)) =
        names.filter fun name => name.1 == limit := by
      rw [List.filter_filter]
      exact List.filter_congr fun name _ => by grind
    have parts := List.filter_append_perm (fun name => decide (name.1 < limit))
      (names.filter fun name => name.1 < limit + 1)
    rw [below, last] at parts
    rw [List.range_succ, List.flatMap_append, List.flatMap_singleton]
    exact (ih.append_right _).trans parts

theorem le_deepest {names : List (Nat × String)} {name : Nat × String} (member : name ∈ names) :
    name.1 ≤ deepest names := by
  induction names with
  | nil => cases member
  | cons first rest ih =>
    rcases List.mem_cons.mp member with rfl | later
    · exact Nat.le_max_left _ _
    · exact Nat.le_trans (ih later) (Nat.le_max_right _ _)

/-- Level by level an expression has the names that it has from left to right. -/
theorem perm_namesByLevel (e : Expr) : e.namesByLevel.Perm (e.words.map root) := by
  have all : (e.namesAt 0).filter (fun name => name.1 < deepest (e.namesAt 0) + 1) =
      e.namesAt 0 :=
    List.filter_eq_self.mpr fun name member =>
      decide_eq_true (Nat.lt_succ_of_le (le_deepest member))
  have levels := (perm_levels (e.namesAt 0) (deepest (e.namesAt 0) + 1)).map (·.2)
  rw [all, List.map_flatMap] at levels
  exact levels.trans (named_at 0 e)

end Expr

end HintSchema

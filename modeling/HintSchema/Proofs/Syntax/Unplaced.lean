import HintSchema.Modules.Lookup
import HintSchema.Proofs.Syntax.Nodes

/-!
Expressions up to the places of their nodes. The written form of an expression and what it stands
for in a file do not depend on where its nodes are.
-/

namespace HintSchema

namespace Expr

mutual

@[simp] def unplaced : Expr → Expr
  | .name _ id => .name default id
  | .literal _ value => .literal default value
  | .member _ value attr => .member default (unplaced value) attr
  | .subscript _ value index => .subscript default (unplaced value) (unplaced index)
  | .call _ callee arguments keywords =>
    .call default (unplaced callee) (unplacedList arguments) (unplacedKeywords keywords)
  | .binary _ op left right => .binary default op (unplaced left) (unplaced right)
  | .unary _ op operand => .unary default op (unplaced operand)
  | .boolean _ op operands => .boolean default op (unplacedList operands)
  | .compare _ first rest => .compare default (unplaced first) (unplacedComparisons rest)
  | .conditional _ test body orelse =>
    .conditional default (unplaced test) (unplaced body) (unplaced orelse)
  | .lambda _ parameters body =>
    .lambda default (unplacedParameters parameters) (unplaced body)
  | .tuple _ items => .tuple default (unplacedList items)
  | .list _ items => .list default (unplacedList items)
  | .set _ items => .set default (unplacedList items)
  | .dict _ items => .dict default (unplacedItems items)
  | .comprehension _ kind element clauses =>
    .comprehension default kind (unplaced element) (unplacedClauses clauses)
  | .dictComprehension _ key value clauses =>
    .dictComprehension default (unplaced key) (unplaced value) (unplacedClauses clauses)
  | .await _ value => .await default (unplaced value)
  | .yield _ value => .yield default (unplacedOption value)
  | .yieldFrom _ value => .yieldFrom default (unplaced value)
  | .starred _ value => .starred default (unplaced value)
  | .named _ target value => .named default (unplaced target) (unplaced value)
  | .slice _ lower upper step =>
    .slice default (unplacedOption lower) (unplacedOption upper) (unplacedOption step)
  | .interpolated _ parts => .interpolated default (unplacedList parts)
  | .replacement _ value conversion spec =>
    .replacement default (unplaced value) conversion (unplacedOption spec)

@[simp] def unplacedList : List Expr → List Expr
  | [] => []
  | e :: rest => unplaced e :: unplacedList rest

@[simp] def unplacedOption : Option Expr → Option Expr
  | none => none
  | some e => some (unplaced e)

@[simp] def unplacedKeywords : List Keyword → List Keyword
  | [] => []
  | .mk label value :: rest => .mk label (unplaced value) :: unplacedKeywords rest

@[simp] def unplacedComparisons : List Comparison → List Comparison
  | [] => []
  | .mk op right :: rest => .mk op (unplaced right) :: unplacedComparisons rest

@[simp] def unplacedItems : List DictItem → List DictItem
  | [] => []
  | .pair key value :: rest => .pair (unplaced key) (unplaced value) :: unplacedItems rest
  | .spread value :: rest => .spread (unplaced value) :: unplacedItems rest

@[simp] def unplacedClauses : List Clause → List Clause
  | [] => []
  | .mk isAsync target source conditions :: rest =>
    .mk isAsync (unplaced target) (unplaced source) (unplacedList conditions) ::
      unplacedClauses rest

@[simp] def unplacedParameters : List Parameter → List Parameter
  | [] => []
  | .mk kind id hint value :: rest =>
    .mk kind id (unplacedOption hint) (unplacedOption value) :: unplacedParameters rest

end

theorem unplacedList_eq_map (items : List Expr) : unplacedList items = items.map unplaced := by
  induction items with
  | nil => rfl
  | cons e rest ih => rw [unplacedList, ih, List.map_cons]

@[simp] theorem base_unplaced (e : Expr) : e.unplaced.base = e.base.unplaced := by
  cases e <;> rfl

@[simp] theorem indices_unplaced (e : Expr) : e.unplaced.indices = e.indices.map unplaced := by
  cases e with
  | tuple pos items => exact unplacedList_eq_map items
  | _ => rfl

@[simp] theorem dotted?_unplaced (e : Expr) : e.unplaced.dotted? = e.dotted? := by
  induction e using dotted?.induct with
  | case1 pos id => rfl
  | case2 pos value attr ih => rw [unplaced, dotted?, ih, dotted?]
  | case3 e notName notMember =>
    cases e with
    | name pos id => exact absurd rfl (notName pos id)
    | member pos value attr => exact absurd rfl (notMember pos value attr)
    | _ => rfl

mutual

theorem inner_unplaced : ∀ e : Expr, e.unplaced.inner = e.inner.map unplaced
  | .name _ _ | .literal _ _ | .interpolated _ _ | .replacement _ _ _ _ => rfl
  | .member _ value _ | .unary _ _ value | .await _ value | .yieldFrom _ value
  | .starred _ value => by simp [inner_unplaced value]
  | .subscript _ first second | .binary _ _ first second | .named _ first second => by
    simp [inner_unplaced first, inner_unplaced second]
  | .call _ callee arguments keywords => by
    simp [inner_unplaced callee, inner_unplacedList arguments, inner_unplacedKeywords keywords]
  | .boolean _ _ items | .tuple _ items | .list _ items | .set _ items => by
    simp [inner_unplacedList items]
  | .compare _ first rest => by simp [inner_unplaced first, inner_unplacedComparisons rest]
  | .conditional _ test body orelse => by
    simp [inner_unplaced test, inner_unplaced body, inner_unplaced orelse]
  | .lambda _ parameters body => by
    simp [inner_unplacedParameters parameters, inner_unplaced body]
  | .dict _ items => by simp [inner_unplacedItems items]
  | .comprehension _ _ element clauses => by
    simp [inner_unplaced element, inner_unplacedClauses clauses]
  | .dictComprehension _ key value clauses => by
    simp [inner_unplaced key, inner_unplaced value, inner_unplacedClauses clauses]
  | .yield _ value => by simp [inner_unplacedOption value]
  | .slice _ lower upper step => by
    simp [inner_unplacedOption lower, inner_unplacedOption upper, inner_unplacedOption step]

theorem inner_unplacedList : ∀ items : List Expr,
    innerOfList (unplacedList items) = (innerOfList items).map unplaced
  | [] => rfl
  | e :: rest => by simp [inner_unplaced e, inner_unplacedList rest]

theorem inner_unplacedOption : ∀ item : Option Expr,
    innerOfOption (unplacedOption item) = (innerOfOption item).map unplaced
  | none => rfl
  | some e => by simp [inner_unplaced e]

theorem inner_unplacedKeywords : ∀ keywords : List Keyword,
    innerOfKeywords (unplacedKeywords keywords) = (innerOfKeywords keywords).map unplaced
  | [] => rfl
  | .mk _ value :: rest => by simp [inner_unplaced value, inner_unplacedKeywords rest]

theorem inner_unplacedComparisons : ∀ rest : List Comparison,
    innerOfComparisons (unplacedComparisons rest) = (innerOfComparisons rest).map unplaced
  | [] => rfl
  | .mk _ right :: rest => by simp [inner_unplaced right, inner_unplacedComparisons rest]

theorem inner_unplacedItems : ∀ items : List DictItem,
    innerOfItems (unplacedItems items) = (innerOfItems items).map unplaced
  | [] => rfl
  | .pair key value :: rest => by
    simp [inner_unplaced key, inner_unplaced value, inner_unplacedItems rest]
  | .spread value :: rest => by simp [inner_unplaced value, inner_unplacedItems rest]

theorem inner_unplacedClauses : ∀ clauses : List Clause,
    innerOfClauses (unplacedClauses clauses) = (innerOfClauses clauses).map unplaced
  | [] => rfl
  | .mk _ target source conditions :: rest => by
    simp [inner_unplaced target, inner_unplaced source, inner_unplacedList conditions,
      inner_unplacedClauses rest]

theorem inner_unplacedParameters : ∀ parameters : List Parameter,
    innerOfParameters (unplacedParameters parameters) = (innerOfParameters parameters).map unplaced
  | [] => rfl
  | .mk _ _ hint value :: rest => by
    simp [inner_unplacedOption hint, inner_unplacedOption value, inner_unplacedParameters rest]

end

theorem parts_unplaced (e : Expr) : e.unplaced.parts = e.parts.map unplaced := by
  rw [parts, parts, inner_unplaced, List.map_cons]

@[simp] theorem isInteger_unplaced (e : Expr) :
    Printer.isInteger e.unplaced = Printer.isInteger e := by
  cases e with
  | literal pos value => cases value <;> rfl
  | _ => rfl

/-- A tuple stands between the brackets of a subscript without parentheses, unless it is empty. -/
def indexRank : Expr → Printer.Rank
  | .tuple _ (_ :: _) => Printer.Rank.tuple
  | _ => Printer.Rank.test

@[simp] theorem indexRank_unplaced (e : Expr) : e.unplaced.indexRank = e.indexRank := by
  cases e with
  | tuple pos items => cases items <;> rfl
  | _ => rfl

theorem sourceAt_subscript (plain : Bool) (rank : Printer.Rank) (pos : Position)
    (value index : Expr) :
    (subscript pos value index).sourceAt plain rank = (do
      let text ← value.sourceAt plain Printer.Rank.atom
      let inner ← index.sourceAt plain index.indexRank
      return text ++ "[" ++ inner ++ "]") := by
  cases index with
  | tuple place items =>
    cases items with
    | nil => rfl
    | cons item items =>
      simp [sourceAt, sourceOfList, indexRank, Printer.parens, Printer.Rank.tuple]
  | _ => rfl

mutual

theorem sourceAt_unplaced (plain : Bool) (rank : Printer.Rank) : ∀ e : Expr,
    e.unplaced.sourceAt plain rank = e.sourceAt plain rank
  | .name _ _ | .literal _ _ => rfl
  | .member _ value _ | .unary _ _ value | .await _ value | .yieldFrom _ value
  | .starred _ value => by simp [sourceAt, sourceAt_unplaced plain _ value]
  | .subscript _ value index => by
    simp [sourceAt_subscript, sourceAt_unplaced plain _ value, sourceAt_unplaced plain _ index]
  | .call _ callee arguments keywords => by
    simp [sourceAt, sourceAt_unplaced plain _ callee, source_unplacedList plain _ arguments,
      source_unplacedKeywords plain keywords]
  | .binary _ _ first second | .named _ first second => by
    simp [sourceAt, sourceAt_unplaced plain _ first, sourceAt_unplaced plain _ second]
  | .boolean _ _ operands => by simp [sourceAt, source_unplacedRising plain _ operands]
  | .compare _ first rest => by
    simp [sourceAt, sourceAt_unplaced plain _ first, source_unplacedComparisons plain rest]
  | .conditional _ test body orelse => by
    simp [sourceAt, sourceAt_unplaced plain _ test, sourceAt_unplaced plain _ body,
      sourceAt_unplaced plain _ orelse]
  | .lambda _ parameters body => by
    simp [sourceAt, source_unplacedParameters plain parameters, sourceAt_unplaced plain _ body]
  | .tuple _ items | .list _ items | .set _ items => by
    simp [sourceAt, source_unplacedList plain _ items]
  | .dict _ items => by simp [sourceAt, source_unplacedItems plain items]
  | .comprehension _ _ element clauses => by
    simp [sourceAt, sourceAt_unplaced plain _ element, source_unplacedClauses plain clauses]
  | .dictComprehension _ key value clauses => by
    simp [sourceAt, sourceAt_unplaced plain _ key, sourceAt_unplaced plain _ value,
      source_unplacedClauses plain clauses]
  | .yield _ value => by simp [sourceAt, source_unplacedOption plain _ _ value]
  | .slice _ lower upper step => by
    simp [sourceAt, source_unplacedOption plain _ _ lower, source_unplacedOption plain _ _ upper,
      source_unplacedOption plain _ _ step]
  | .interpolated _ parts => by simp [sourceAt, partsOf_unplaced parts]
  | .replacement _ value _ none => by simp [sourceAt, sourceAt_unplaced true _ value]
  | .replacement _ value _ (some spec) => by
    cases spec with
    | interpolated _ parts => simp [sourceAt, sourceAt_unplaced true _ value, partsOf_unplaced parts]
    | _ => simp [sourceAt]

theorem source_unplacedList (plain : Bool) (rank : Printer.Rank) : ∀ items : List Expr,
    sourceOfList plain rank (unplacedList items) = sourceOfList plain rank items
  | [] => rfl
  | e :: rest => by
    simp [sourceOfList, sourceAt_unplaced plain rank e, source_unplacedList plain rank rest]

theorem source_unplacedRising (plain : Bool) (rank : Printer.Rank) : ∀ items : List Expr,
    sourceRising plain rank (unplacedList items) = sourceRising plain rank items
  | [] => rfl
  | e :: rest => by
    simp [sourceRising, sourceAt_unplaced plain _ e, source_unplacedRising plain _ rest]

theorem source_unplacedOption (plain : Bool) (rank : Printer.Rank) (lead : String) :
    ∀ item : Option Expr,
      sourceOfOption plain rank lead (unplacedOption item) = sourceOfOption plain rank lead item
  | none => rfl
  | some e => by simp [sourceOfOption, sourceAt_unplaced plain rank e]

theorem source_unplacedKeywords (plain : Bool) : ∀ keywords : List Keyword,
    sourceOfKeywords plain (unplacedKeywords keywords) = sourceOfKeywords plain keywords
  | [] => rfl
  | .mk _ value :: rest => by
    simp [sourceOfKeywords, sourceAt_unplaced plain _ value, source_unplacedKeywords plain rest]

theorem source_unplacedComparisons (plain : Bool) : ∀ rest : List Comparison,
    sourceOfComparisons plain (unplacedComparisons rest) = sourceOfComparisons plain rest
  | [] => rfl
  | .mk _ right :: rest => by
    simp [sourceOfComparisons, sourceAt_unplaced plain _ right,
      source_unplacedComparisons plain rest]

theorem source_unplacedItems (plain : Bool) : ∀ items : List DictItem,
    sourceOfItems plain (unplacedItems items) = sourceOfItems plain items
  | [] => rfl
  | .pair key value :: rest => by
    simp [sourceOfItems, sourceAt_unplaced plain _ key, sourceAt_unplaced plain _ value,
      source_unplacedItems plain rest]
  | .spread value :: rest => by
    simp [sourceOfItems, sourceAt_unplaced plain _ value, source_unplacedItems plain rest]

theorem source_unplacedClauses (plain : Bool) : ∀ clauses : List Clause,
    sourceOfClauses plain (unplacedClauses clauses) = sourceOfClauses plain clauses
  | [] => rfl
  | .mk _ target source conditions :: rest => by
    simp [sourceOfClauses, sourceAt_unplaced plain _ target, sourceAt_unplaced plain _ source,
      source_unplacedList plain _ conditions, source_unplacedClauses plain rest]

theorem source_unplacedParameters (plain : Bool) : ∀ parameters : List Parameter,
    sourceOfParameters plain (unplacedParameters parameters) = sourceOfParameters plain parameters
  | [] => rfl
  | .mk _ _ hint value :: rest => by
    simp [sourceOfParameters, source_unplacedOption plain _ _ hint,
      source_unplacedOption plain _ _ value, source_unplacedParameters plain rest]

theorem partsOf_unplaced : ∀ parts : List Expr, partsOf (unplacedList parts) = partsOf parts
  | [] => rfl
  | e :: rest => by
    cases e with
    | literal _ value => cases value <;> simp [partsOf, partsOf_unplaced rest]
    | interpolated _ parts => simp [partsOf, partsOf_unplaced parts, partsOf_unplaced rest]
    | replacement _ value _ spec =>
      cases spec with
      | none => simp [partsOf, sourceAt_unplaced true _ value, partsOf_unplaced rest]
      | some spec =>
        cases spec with
        | interpolated _ parts =>
          simp [partsOf, sourceAt_unplaced true _ value, partsOf_unplaced parts,
            partsOf_unplaced rest]
        | _ => simp [partsOf]
    | _ => simp [partsOf]

end

@[simp] theorem source?_unplaced (e : Expr) : e.unplaced.source? = e.source? :=
  sourceAt_unplaced false _ e

end Expr

namespace Program

theorem lookupExpr_unplaced (P : Program) (file : Path) (e : Expr) :
    P.lookupExpr file e.unplaced = P.lookupExpr file e := by
  induction e using Expr.dotted?.induct with
  | case1 pos id => rfl
  | case2 pos value attr ih =>
    have whole := Expr.dotted?_unplaced (.member pos value attr)
    rw [Expr.unplaced] at whole ⊢
    rw [lookupExpr, lookupExpr, ih, whole]
  | case3 e notName notMember =>
    have written := e.source?_unplaced
    cases e with
    | name pos id => exact absurd rfl (notName pos id)
    | member pos value attr => exact absurd rfl (notMember pos value attr)
    | _ =>
      simp only [Expr.unplaced, lookupExpr] at written ⊢
      rw [written]

end Program

end HintSchema

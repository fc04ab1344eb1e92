import HintSchema.Proofs.Syntax.Nodes

/-!
The weight of an expression is more than the length of any text in it.
-/

namespace HintSchema

namespace Expr

def WeighWithin (limit : Nat) (exprs : List Expr) : Prop := ∀ x ∈ exprs, x.weight ≤ limit

variable {limit more : Nat} {e : Expr} {first rest : List Expr}

theorem WeighWithin.nil : WeighWithin limit [] := List.forall_mem_nil _

theorem WeighWithin.mono (held : WeighWithin limit first) (le : limit ≤ more) :
    WeighWithin more first :=
  fun x member => Nat.le_trans (held x member) le

theorem WeighWithin.succ (held : WeighWithin limit first) : WeighWithin (limit + 1) first :=
  held.mono (Nat.le_succ _)

theorem WeighWithin.append (one : WeighWithin limit first) (other : WeighWithin more rest) :
    WeighWithin (limit + more) (first ++ rest) :=
  List.forall_mem_append.mpr ⟨one.mono (Nat.le_add_right _ _), other.mono (Nat.le_add_left _ _)⟩

theorem WeighWithin.parts (below : WeighWithin e.weight e.inner) :
    WeighWithin e.weight (e :: e.inner) :=
  List.forall_mem_cons.mpr ⟨Nat.le_refl _, below⟩

mutual

theorem weight_inner : ∀ e : Expr, WeighWithin e.weight e.inner
  | .name _ _ | .literal _ _ | .interpolated _ _ | .replacement _ _ _ _ => .nil
  | .member _ value _ => (weight_inner value).parts.succ
  | .subscript _ value index => ((weight_inner value).parts.append (weight_inner index).parts).succ
  | .call _ callee arguments keywords =>
    (((weight_inner callee).parts.append (weight_list arguments)).append
      (weight_keywords keywords)).succ
  | .binary _ _ left right => ((weight_inner left).parts.append (weight_inner right).parts).succ
  | .unary _ _ operand => (weight_inner operand).parts.succ
  | .boolean _ _ operands => (weight_list operands).succ
  | .compare _ first rest => ((weight_inner first).parts.append (weight_comparisons rest)).succ
  | .conditional _ test body orelse =>
    (((weight_inner test).parts.append (weight_inner body).parts).append
      (weight_inner orelse).parts).succ
  | .lambda _ parameters body =>
    ((weight_parameters parameters).append (weight_inner body).parts).succ
  | .tuple _ items | .list _ items | .set _ items => (weight_list items).succ
  | .dict _ items => (weight_items items).succ
  | .comprehension _ _ element clauses =>
    ((weight_inner element).parts.append (weight_clauses clauses)).succ
  | .dictComprehension _ key value clauses =>
    (((weight_inner key).parts.append (weight_inner value).parts).append
      (weight_clauses clauses)).succ
  | .await _ value | .yieldFrom _ value | .starred _ value => (weight_inner value).parts.succ
  | .yield _ value => (weight_option value).succ
  | .named _ target value => ((weight_inner target).parts.append (weight_inner value).parts).succ
  | .slice _ lower upper step =>
    (((weight_option lower).append (weight_option upper)).append (weight_option step)).succ

theorem weight_list : ∀ items : List Expr, WeighWithin (weightOfList items) (innerOfList items)
  | [] => .nil
  | e :: rest => (weight_inner e).parts.append (weight_list rest)

theorem weight_option : ∀ item : Option Expr,
    WeighWithin (weightOfOption item) (innerOfOption item)
  | none => .nil
  | some e => (weight_inner e).parts

theorem weight_keywords : ∀ keywords : List Keyword,
    WeighWithin (weightOfKeywords keywords) (innerOfKeywords keywords)
  | [] => .nil
  | .mk _ value :: rest => (weight_inner value).parts.append (weight_keywords rest)

theorem weight_comparisons : ∀ rest : List Comparison,
    WeighWithin (weightOfComparisons rest) (innerOfComparisons rest)
  | [] => .nil
  | .mk _ right :: rest => (weight_inner right).parts.append (weight_comparisons rest)

theorem weight_items : ∀ items : List DictItem,
    WeighWithin (weightOfItems items) (innerOfItems items)
  | [] => .nil
  | .pair key value :: rest =>
    ((weight_inner key).parts.append (weight_inner value).parts).append (weight_items rest)
  | .spread value :: rest => (weight_inner value).parts.append (weight_items rest)

theorem weight_clauses : ∀ clauses : List Clause,
    WeighWithin (weightOfClauses clauses) (innerOfClauses clauses)
  | [] => .nil
  | .mk _ target source conditions :: rest =>
    (((weight_inner target).parts.append (weight_inner source).parts).append
      (weight_list conditions)).append (weight_clauses rest)

theorem weight_parameters : ∀ parameters : List Parameter,
    WeighWithin (weightOfParameters parameters) (innerOfParameters parameters)
  | [] => .nil
  | .mk _ _ hint value :: rest =>
    ((weight_option hint).append (weight_option value)).append (weight_parameters rest)

end

def TextsBelow (limit : Nat) (e : Expr) : Prop :=
  ∀ pos text marked, .literal pos (.text text marked) ∈ e.parts → text.length < limit

theorem textsBelow_weight (e : Expr) : e.TextsBelow e.weight := by
  intro pos text marked member
  have within := (weight_inner e).parts _ member
  change 8 * text.length + 8 ≤ _ at within
  omega

theorem TextsBelow.of_parts {part : Expr} (below : e.TextsBelow limit)
    (subset : part.parts ⊆ e.parts) : part.TextsBelow limit :=
  fun pos text marked member => below pos text marked (subset member)

end Expr

end HintSchema

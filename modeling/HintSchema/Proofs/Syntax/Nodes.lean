import Mathlib.Data.List.Nodup
import HintSchema.Modules.Source

/-!
The nodes of a module, and those among them that declare records: classes, calls that could make a
record, and dictionaries. What stands inside an interpolated text is no node of the module.
-/

namespace HintSchema

namespace Expr

mutual

@[simp] def inner : Expr → List Expr
  | .name _ _ | .literal _ _ | .interpolated _ _ | .replacement _ _ _ _ => []
  | .member _ value _ => value :: inner value
  | .subscript _ value index => value :: inner value ++ index :: inner index
  | .call _ callee arguments keywords =>
    callee :: inner callee ++ innerOfList arguments ++ innerOfKeywords keywords
  | .binary _ _ left right => left :: inner left ++ right :: inner right
  | .unary _ _ operand => operand :: inner operand
  | .boolean _ _ operands => innerOfList operands
  | .compare _ first rest => first :: inner first ++ innerOfComparisons rest
  | .conditional _ test body orelse =>
    test :: inner test ++ body :: inner body ++ orelse :: inner orelse
  | .lambda _ parameters body => innerOfParameters parameters ++ body :: inner body
  | .tuple _ items | .list _ items | .set _ items => innerOfList items
  | .dict _ items => innerOfItems items
  | .comprehension _ _ element clauses => element :: inner element ++ innerOfClauses clauses
  | .dictComprehension _ key value clauses =>
    key :: inner key ++ value :: inner value ++ innerOfClauses clauses
  | .await _ value | .yieldFrom _ value | .starred _ value => value :: inner value
  | .yield _ value => innerOfOption value
  | .named _ target value => target :: inner target ++ value :: inner value
  | .slice _ lower upper step =>
    innerOfOption lower ++ innerOfOption upper ++ innerOfOption step

@[simp] def innerOfList : List Expr → List Expr
  | [] => []
  | e :: rest => e :: inner e ++ innerOfList rest

@[simp] def innerOfOption : Option Expr → List Expr
  | none => []
  | some e => e :: inner e

@[simp] def innerOfKeywords : List Keyword → List Expr
  | [] => []
  | .mk _ value :: rest => value :: inner value ++ innerOfKeywords rest

@[simp] def innerOfComparisons : List Comparison → List Expr
  | [] => []
  | .mk _ right :: rest => right :: inner right ++ innerOfComparisons rest

@[simp] def innerOfItems : List DictItem → List Expr
  | [] => []
  | .pair key value :: rest => key :: inner key ++ value :: inner value ++ innerOfItems rest
  | .spread value :: rest => value :: inner value ++ innerOfItems rest

@[simp] def innerOfClauses : List Clause → List Expr
  | [] => []
  | .mk _ target source conditions :: rest =>
    target :: inner target ++ source :: inner source ++ innerOfList conditions ++
      innerOfClauses rest

@[simp] def innerOfParameters : List Parameter → List Expr
  | [] => []
  | .mk _ _ hint value :: rest =>
    innerOfOption hint ++ innerOfOption value ++ innerOfParameters rest

end

def parts (e : Expr) : List Expr := e :: e.inner

theorem mem_parts_self (e : Expr) : e ∈ e.parts := List.mem_cons_self

variable {e whole : Expr}

theorem parts_of_mem_list {items : List Expr} (member : e ∈ items) :
    e.parts ⊆ innerOfList items := by
  induction items with
  | nil => cases member
  | cons first rest ih =>
    rw [innerOfList]
    rcases List.mem_cons.mp member with rfl | later
    · exact List.subset_append_left _ _
    · exact List.Subset.trans (ih later) (List.subset_append_right _ _)

def Closed (exprs : List Expr) : Prop := ∀ x ∈ exprs, x.parts ⊆ exprs

theorem Closed.nil : Closed [] := List.forall_mem_nil _

theorem Closed.append {first rest : List Expr} (one : Closed first) (other : Closed rest) :
    Closed (first ++ rest) := by
  intro x member
  rcases List.mem_append.mp member with before | after
  · exact List.Subset.trans (one x before) (List.subset_append_left _ _)
  · exact List.Subset.trans (other x after) (List.subset_append_right _ _)

theorem Closed.parts (below : Closed e.inner) : Closed (e :: e.inner) := by
  intro x member
  rcases List.mem_cons.mp member with rfl | inside
  · exact List.Subset.refl _
  · exact List.Subset.trans (below x inside) (List.subset_cons_self _ _)

mutual

theorem closed_inner : ∀ e : Expr, Closed e.inner
  | .name _ _ | .literal _ _ | .interpolated _ _ | .replacement _ _ _ _ => .nil
  | .member _ value _ => (closed_inner value).parts
  | .subscript _ value index => (closed_inner value).parts.append (closed_inner index).parts
  | .call _ callee arguments keywords =>
    ((closed_inner callee).parts.append (closed_list arguments)).append (closed_keywords keywords)
  | .binary _ _ left right => (closed_inner left).parts.append (closed_inner right).parts
  | .unary _ _ operand => (closed_inner operand).parts
  | .boolean _ _ operands => closed_list operands
  | .compare _ first rest => (closed_inner first).parts.append (closed_comparisons rest)
  | .conditional _ test body orelse =>
    ((closed_inner test).parts.append (closed_inner body).parts).append (closed_inner orelse).parts
  | .lambda _ parameters body => (closed_parameters parameters).append (closed_inner body).parts
  | .tuple _ items | .list _ items | .set _ items => closed_list items
  | .dict _ items => closed_items items
  | .comprehension _ _ element clauses =>
    (closed_inner element).parts.append (closed_clauses clauses)
  | .dictComprehension _ key value clauses =>
    ((closed_inner key).parts.append (closed_inner value).parts).append (closed_clauses clauses)
  | .await _ value | .yieldFrom _ value | .starred _ value => (closed_inner value).parts
  | .yield _ value => closed_option value
  | .named _ target value => (closed_inner target).parts.append (closed_inner value).parts
  | .slice _ lower upper step =>
    ((closed_option lower).append (closed_option upper)).append (closed_option step)

theorem closed_list : ∀ items : List Expr, Closed (innerOfList items)
  | [] => .nil
  | e :: rest => (closed_inner e).parts.append (closed_list rest)

theorem closed_option : ∀ item : Option Expr, Closed (innerOfOption item)
  | none => .nil
  | some e => (closed_inner e).parts

theorem closed_keywords : ∀ keywords : List Keyword, Closed (innerOfKeywords keywords)
  | [] => .nil
  | .mk _ value :: rest => (closed_inner value).parts.append (closed_keywords rest)

theorem closed_comparisons : ∀ rest : List Comparison, Closed (innerOfComparisons rest)
  | [] => .nil
  | .mk _ right :: rest => (closed_inner right).parts.append (closed_comparisons rest)

theorem closed_items : ∀ items : List DictItem, Closed (innerOfItems items)
  | [] => .nil
  | .pair key value :: rest =>
    ((closed_inner key).parts.append (closed_inner value).parts).append (closed_items rest)
  | .spread value :: rest => (closed_inner value).parts.append (closed_items rest)

theorem closed_clauses : ∀ clauses : List Clause, Closed (innerOfClauses clauses)
  | [] => .nil
  | .mk _ target source conditions :: rest =>
    (((closed_inner target).parts.append (closed_inner source).parts).append
      (closed_list conditions)).append (closed_clauses rest)

theorem closed_parameters : ∀ parameters : List Parameter, Closed (innerOfParameters parameters)
  | [] => .nil
  | .mk _ _ hint value :: rest =>
    ((closed_option hint).append (closed_option value)).append (closed_parameters rest)

end

theorem parts_subset {x : Expr} (member : x ∈ e.parts) : x.parts ⊆ e.parts :=
  (closed_inner e).parts x member

theorem parts_of_mem_indices {pos : Position} {value index : Expr} (member : e ∈ index.indices) :
    e.parts ⊆ (Expr.subscript pos value index).parts := by
  have below : e.parts ⊆ index.parts := by
    unfold indices at member
    split at member
    · exact List.Subset.trans (parts_of_mem_list member) (List.subset_cons_self _ _)
    · rw [List.mem_singleton.mp member]
      exact List.Subset.refl _
  have indexed := List.Subset.trans below (List.subset_append_right (value :: value.inner) _)
  exact List.Subset.trans indexed (List.subset_cons_self _ _)

theorem parts_hint_of_mem_parameters {p : Parameter} {parameters : List Parameter} {hint : Expr}
    (member : p ∈ parameters) (hinted : p.hint = some hint) :
    hint.parts ⊆ innerOfParameters parameters := by
  induction parameters with
  | nil => cases member
  | cons first rest ih =>
    obtain ⟨kind, name, own, value⟩ := first
    rw [innerOfParameters]
    rcases List.mem_cons.mp member with rfl | later
    · cases hinted
      rw [innerOfOption, List.append_assoc]
      exact List.subset_append_left _ _
    · exact List.Subset.trans (ih later) (List.subset_append_right _ _)

end Expr

/-- A node of a module: an expression, or the statement of a class. -/
inductive Node where
  | expr (e : Expr)
  | classDef (definition : ClassDef Statement)

namespace Node

def pos : Node → Position
  | expr e => e.pos
  | classDef definition => definition.pos

def isSite : Node → Bool
  | expr (.dict _ _) => true
  | expr (.call _ callee _ _) => callee.dotted?.isSome
  | expr _ => false
  | classDef _ => true

end Node

namespace Statement

mutual

/-- The classes, and the expressions of the statements that can bind a name or hold a hint. What
only runs, such as the condition of a branch, declares nothing. -/
def nodes : Statement → List Node
  | .classDef ⟨pos, name, bases, keywords, decorators, body⟩ =>
    .classDef ⟨pos, name, bases, keywords, decorators, body⟩ ::
      (Expr.innerOfList bases ++ Expr.innerOfKeywords keywords ++
        Expr.innerOfList decorators).map .expr ++ nodesOf body
  | .functionDef ⟨_, _, parameters, returns, decorators, body⟩ =>
    (Expr.innerOfParameters parameters ++ Expr.innerOfOption returns ++
      Expr.innerOfList decorators).map .expr ++ nodesOf body
  | .assign targets value => (Expr.innerOfList targets ++ value.parts).map .expr
  | .augment target _ value => (target.parts ++ value.parts).map .expr
  | .declare target hint value _ =>
    (target.parts ++ hint.parts ++ Expr.innerOfOption value).map .expr
  | .expression value => value.parts.map .expr
  | .branch _ body orelse | .loop _ body orelse => nodesOf body ++ nodesOf orelse
  | .within _ _ body => nodesOf body
  | .attempt _ body handlers orelse cleanup =>
    nodesOf body ++ nodesOfArms handlers ++ nodesOf orelse ++ nodesOf cleanup
  | .choice _ arms => nodesOfArms arms
  | .importModules _ | .importFrom _ _ _ _ | .simple _ => []

def nodesOf : List Statement → List Node
  | [] => []
  | s :: rest => nodes s ++ nodesOf rest

def nodesOfArms : List (Arm Statement) → List Node
  | [] => []
  | ⟨_, body⟩ :: rest => nodesOf body ++ nodesOfArms rest

end

theorem nodes_of_mem {s : Statement} {statements : List Statement} (member : s ∈ statements) :
    s.nodes ⊆ nodesOf statements := by
  induction statements with
  | nil => cases member
  | cons first rest ih =>
    rw [nodesOf]
    rcases List.mem_cons.mp member with rfl | later
    · exact List.subset_append_left _ _
    · exact List.Subset.trans (ih later) (List.subset_append_right _ _)

theorem body_subset (definition : ClassDef Statement) :
    nodesOf definition.body ⊆ (Statement.classDef definition).nodes := by
  intro n member
  simp [nodes, member]

theorem bases_subset (definition : ClassDef Statement) :
    (Expr.innerOfList definition.bases).map .expr ⊆ (Statement.classDef definition).nodes := by
  intro n member
  simp only [nodes, List.map_append, List.mem_append, List.cons_append, List.mem_cons]
  exact .inr (.inl (.inl (.inl member)))

theorem parameters_subset (definition : FunctionDef Statement) :
    (Expr.innerOfParameters definition.parameters).map .expr ⊆
      (Statement.functionDef definition).nodes := by
  intro n member
  simp only [nodes, List.map_append, List.mem_append]
  exact .inl (.inl (.inl member))

theorem returns_subset (definition : FunctionDef Statement) :
    (Expr.innerOfOption definition.returns).map .expr ⊆
      (Statement.functionDef definition).nodes := by
  intro n member
  simp only [nodes, List.map_append, List.mem_append]
  exact .inl (.inl (.inr member))

end Statement

namespace Node

def Closed (nodes : List Node) : Prop := ∀ e, expr e ∈ nodes → e.parts.map expr ⊆ nodes

theorem Closed.nil : Closed [] := fun _ impossible => by cases impossible

theorem Closed.append {first rest : List Node} (one : Closed first) (other : Closed rest) :
    Closed (first ++ rest) := by
  intro e member
  rcases List.mem_append.mp member with before | after
  · exact List.Subset.trans (one e before) (List.subset_append_left _ _)
  · exact List.Subset.trans (other e after) (List.subset_append_right _ _)

theorem Closed.exprs {exprs : List Expr} (below : Expr.Closed exprs) : Closed (exprs.map expr) := by
  intro e member
  obtain ⟨_, inside, same⟩ := List.mem_map.mp member
  cases same
  exact List.map_subset _ (below e inside)

theorem Closed.cons {definition : ClassDef Statement} {nodes : List Node} (below : Closed nodes) :
    Closed (classDef definition :: nodes) := by
  intro e member
  rcases List.mem_cons.mp member with impossible | inside
  · cases impossible
  · exact List.Subset.trans (below e inside) (List.subset_cons_self _ _)

end Node

namespace Statement

open HintSchema.Expr

mutual

theorem closed_nodes : ∀ s : Statement, Node.Closed s.nodes
  | .classDef ⟨_, _, bases, keywords, decorators, body⟩ =>
    ((Node.Closed.exprs (((closed_list bases).append (closed_keywords keywords)).append
      (closed_list decorators))).append (closed_nodesOf body)).cons
  | .functionDef ⟨_, _, parameters, returns, decorators, body⟩ =>
    (Node.Closed.exprs (((closed_parameters parameters).append (closed_option returns)).append
      (closed_list decorators))).append (closed_nodesOf body)
  | .assign targets value => .exprs ((closed_list targets).append (closed_inner value).parts)
  | .augment target _ value => .exprs ((closed_inner target).parts.append (closed_inner value).parts)
  | .declare target hint value _ =>
    .exprs (((closed_inner target).parts.append (closed_inner hint).parts).append
      (closed_option value))
  | .expression value => .exprs (closed_inner value).parts
  | .branch _ body orelse | .loop _ body orelse =>
    (closed_nodesOf body).append (closed_nodesOf orelse)
  | .within _ _ body => closed_nodesOf body
  | .attempt _ body handlers orelse cleanup =>
    (((closed_nodesOf body).append (closed_nodesOfArms handlers)).append
      (closed_nodesOf orelse)).append (closed_nodesOf cleanup)
  | .choice _ arms => closed_nodesOfArms arms
  | .importModules _ | .importFrom _ _ _ _ | .simple _ => .nil

theorem closed_nodesOf : ∀ statements : List Statement, Node.Closed (nodesOf statements)
  | [] => .nil
  | s :: rest => (closed_nodes s).append (closed_nodesOf rest)

theorem closed_nodesOfArms : ∀ arms : List (Arm Statement), Node.Closed (nodesOfArms arms)
  | [] => .nil
  | ⟨_, body⟩ :: rest => (closed_nodesOf body).append (closed_nodesOfArms rest)

end

def hints : Statement → List Expr
  | .functionDef definition => definition.parameters.filterMap (·.hint) ++ definition.returns.toList
  | .classDef definition => definition.body.filterMap fun
    | .declare _ hint _ _ => some hint
    | _ => none
  | _ => []

end Statement

namespace SourceFile

/-- The hints of the functions and the fields at the top level of the module. -/
def topHints (s : SourceFile) : List Expr := s.statements.flatMap Statement.hints

def nodes (s : SourceFile) : List Node := Statement.nodesOf s.statements

def Apart (s : SourceFile) : Prop := ((s.nodes.filter Node.isSite).map Node.pos).Nodup

theorem Apart.unique {s : SourceFile} (apart : s.Apart) {m n : Node} (first : m ∈ s.nodes)
    (second : n ∈ s.nodes) (site : m.isSite) (other : n.isSite) (same : m.pos = n.pos) : m = n :=
  List.inj_on_of_nodup_map apart (List.mem_filter.mpr ⟨first, site⟩)
    (List.mem_filter.mpr ⟨second, other⟩) same

end SourceFile

end HintSchema

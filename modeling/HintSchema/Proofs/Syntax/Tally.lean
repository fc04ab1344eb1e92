import Mathlib.Algebra.BigOperators.Group.List.Basic
import Mathlib.Algebra.Order.BigOperators.Group.List
import Mathlib.Algebra.Order.Ring.Nat
import Mathlib.Algebra.Ring.Nat
import HintSchema.Proofs.Syntax.Nodes

/-!
Three counts of what a piece of a module is built from: the records that are declared at one place,
the characters of its texts, each text with one more, and the functions that have no name.
-/

namespace HintSchema

inductive Tally where
  | recordsAt (place : Position)
  | letters
  | nameless

namespace Tally

/-- What a record counts that is declared at a place. -/
def record : Tally → Position → Nat
  | recordsAt place, pos => if pos = place then 1 else 0
  | letters, _ | nameless, _ => 0

/-- What a text counts that has so many characters. -/
def text : Tally → Nat → Nat
  | recordsAt _, _ | nameless, _ => 0
  | letters, length => length + 1

/-- What the name of a function counts. -/
def name : Tally → String → Nat
  | recordsAt _, _ | letters, _ => 0
  | nameless, id => if id.isEmpty then 1 else 0

def names (p : Tally) (ids : List String) : Nat := (ids.map p.name).sum

@[simp] theorem names_nil (p : Tally) : p.names [] = 0 := rfl

@[simp] theorem names_cons (p : Tally) (id : String) (rest : List String) :
    p.names (id :: rest) = p.name id + p.names rest := rfl

@[simp] theorem names_append (p : Tally) (first rest : List String) :
    p.names (first ++ rest) = p.names first + p.names rest := by
  simp [names]

theorem names_recordsAt (place : Position) (ids : List String) :
    (recordsAt place).names ids = 0 := by
  induction ids with
  | nil => rfl
  | cons id rest ih => rw [names_cons, ih, name]

end Tally

def Literal.tally (p : Tally) : Literal → Nat
  | text value _ => p.text value.length
  | _ => 0

namespace Node

/-- What the node counts by itself. -/
def worth (p : Tally) : Node → Nat
  | expr (.literal _ value) => value.tally p
  | n => if n.isSite then p.record n.pos else 0

def tally (p : Tally) (nodes : List Node) : Nat := (nodes.map (worth p)).sum

variable {p : Tally}

@[simp] theorem tally_nil : tally p [] = 0 := rfl

@[simp] theorem tally_append (first rest : List Node) :
    tally p (first ++ rest) = tally p first + tally p rest := by
  simp [tally]

theorem tally_cons (n : Node) (rest : List Node) :
    tally p (n :: rest) = n.worth p + tally p rest := rfl

theorem worth_le_tally {n : Node} {nodes : List Node} (member : n ∈ nodes) :
    n.worth p ≤ tally p nodes :=
  List.le_sum_of_mem (List.mem_map_of_mem member)

theorem worth_recordsAt (place : Position) (n : Node) :
    n.worth (.recordsAt place) = if n.isSite ∧ n.pos = place then 1 else 0 := by
  unfold worth
  split
  · rename_i value
    cases value <;> rfl
  · cases n.isSite <;> simp [Tally.record]

theorem tally_recordsAt (place : Position) (nodes : List Node) :
    tally (.recordsAt place) nodes = ((nodes.filter isSite).map pos).count place := by
  induction nodes with
  | nil => rfl
  | cons n rest ih =>
    rw [tally_cons, worth_recordsAt, ih]
    by_cases site : n.isSite
    · by_cases same : n.pos = place <;> simp [site, same, Nat.add_comm]
    · simp [site]

end Node

namespace Expr

def tally (p : Tally) (e : Expr) : Nat := Node.tally p (e.parts.map .expr)

def tallyOption (p : Tally) (e : Option Expr) : Nat := e.elim 0 (tally p)

def tallyAll (p : Tally) (items : List Expr) : Nat := (items.map (tally p)).sum

end Expr

def Keyword.tally (p : Tally) (k : Keyword) : Nat := k.value.tally p

def Comparison.tally (p : Tally) : Comparison → Nat
  | mk _ right => right.tally p

def DictItem.tally (p : Tally) : DictItem → Nat
  | pair key value => key.tally p + value.tally p
  | spread value => value.tally p

def Clause.tally (p : Tally) : Clause → Nat
  | mk _ target source conditions =>
    target.tally p + source.tally p + Expr.tallyAll p conditions

def Parameter.tally (p : Tally) (q : Parameter) : Nat :=
  Expr.tallyOption p q.hint + Expr.tallyOption p q.default

namespace Expr

variable {p : Tally} (pos : Position)

@[simp] theorem tallyOption_none : tallyOption p none = 0 := rfl

@[simp] theorem tallyOption_some (e : Expr) : tallyOption p (some e) = e.tally p := rfl

@[simp] theorem tallyAll_nil : tallyAll p [] = 0 := rfl

@[simp] theorem tallyAll_cons (e : Expr) (rest : List Expr) :
    tallyAll p (e :: rest) = e.tally p + tallyAll p rest := rfl

theorem tally_eq (e : Expr) :
    e.tally p = (Node.expr e).worth p + Node.tally p (e.inner.map .expr) :=
  Node.tally_cons _ _

@[simp] theorem tally_parts (e : Expr) :
    Node.tally p (.expr e :: e.inner.map .expr) = e.tally p := rfl

@[simp] theorem tally_parts_append (e : Expr) (rest : List Node) :
    Node.tally p (.expr e :: (e.inner.map .expr ++ rest)) = e.tally p + Node.tally p rest :=
  Node.tally_append (e.parts.map .expr) rest

@[simp] theorem tally_innerOfOption (e : Option Expr) :
    Node.tally p ((innerOfOption e).map .expr) = tallyOption p e := by
  cases e <;> rfl

@[simp] theorem tally_innerOfList (items : List Expr) :
    Node.tally p ((innerOfList items).map .expr) = tallyAll p items := by
  induction items with
  | nil => rfl
  | cons e rest ih => simp [ih]

@[simp] theorem tally_innerOfKeywords (keywords : List Keyword) :
    Node.tally p ((innerOfKeywords keywords).map .expr) =
      (keywords.map (Keyword.tally p)).sum := by
  induction keywords with
  | nil => rfl
  | cons k rest ih =>
    cases k
    simp [ih, Keyword.tally, Keyword.value]

@[simp] theorem tally_innerOfComparisons (rest : List Comparison) :
    Node.tally p ((innerOfComparisons rest).map .expr) =
      (rest.map (Comparison.tally p)).sum := by
  induction rest with
  | nil => rfl
  | cons c rest ih =>
    cases c
    simp [ih, Comparison.tally]

@[simp] theorem tally_innerOfItems (items : List DictItem) :
    Node.tally p ((innerOfItems items).map .expr) = (items.map (DictItem.tally p)).sum := by
  induction items with
  | nil => rfl
  | cons item rest ih => cases item <;> simp [ih, DictItem.tally, Nat.add_assoc]

@[simp] theorem tally_innerOfClauses (clauses : List Clause) :
    Node.tally p ((innerOfClauses clauses).map .expr) = (clauses.map (Clause.tally p)).sum := by
  induction clauses with
  | nil => rfl
  | cons c rest ih =>
    cases c
    simp [ih, Clause.tally, Nat.add_assoc]

@[simp] theorem tally_innerOfParameters (parameters : List Parameter) :
    Node.tally p ((innerOfParameters parameters).map .expr) =
      (parameters.map (Parameter.tally p)).sum := by
  induction parameters with
  | nil => rfl
  | cons q rest ih =>
    cases q
    simp [ih, Parameter.tally, Parameter.hint, Parameter.default, Nat.add_assoc]

theorem tally_of_plain {e : Expr} (plain : (Node.expr e).worth p = 0) :
    e.tally p = Node.tally p (e.inner.map .expr) := by
  rw [tally_eq, plain, Nat.zero_add]

@[simp] theorem tally_name (id : String) : (name pos id).tally p = 0 := rfl

@[simp] theorem tally_literal (value : Literal) : (literal pos value).tally p = value.tally p := rfl

@[simp] theorem tally_interpolated (parts : List Expr) :
    (interpolated pos parts).tally p = 0 := rfl

@[simp] theorem tally_member (value : Expr) (attr : String) :
    (member pos value attr).tally p = value.tally p :=
  (tally_of_plain rfl).trans (by simp)

@[simp] theorem tally_subscript (value index : Expr) :
    (subscript pos value index).tally p = value.tally p + index.tally p :=
  (tally_of_plain rfl).trans (by simp)

@[simp] theorem tally_call (callee : Expr) (arguments : List Expr) (keywords : List Keyword) :
    (call pos callee arguments keywords).tally p =
      (if callee.dotted?.isSome then p.record pos else 0) + (callee.tally p +
        tallyAll p arguments + (keywords.map (Keyword.tally p)).sum) := by
  have own : (Node.expr (call pos callee arguments keywords)).worth p =
      if callee.dotted?.isSome then p.record pos else 0 := rfl
  simp [tally_eq (call _ _ _ _), own, Nat.add_assoc]

@[simp] theorem tally_binary (op : BinaryOp) (left right : Expr) :
    (binary pos op left right).tally p = left.tally p + right.tally p :=
  (tally_of_plain rfl).trans (by simp)

@[simp] theorem tally_unary (op : UnaryOp) (operand : Expr) :
    (unary pos op operand).tally p = operand.tally p :=
  (tally_of_plain rfl).trans (by simp)

@[simp] theorem tally_boolean (op : BoolOp) (operands : List Expr) :
    (boolean pos op operands).tally p = tallyAll p operands :=
  (tally_of_plain rfl).trans (by simp)

@[simp] theorem tally_compare (first : Expr) (rest : List Comparison) :
    (compare pos first rest).tally p =
      first.tally p + (rest.map (Comparison.tally p)).sum :=
  (tally_of_plain rfl).trans (by simp)

@[simp] theorem tally_conditional (test body orelse : Expr) :
    (conditional pos test body orelse).tally p =
      test.tally p + body.tally p + orelse.tally p :=
  (tally_of_plain rfl).trans (by simp [Nat.add_assoc])

@[simp] theorem tally_lambda (parameters : List Parameter) (body : Expr) :
    (lambda pos parameters body).tally p =
      (parameters.map (Parameter.tally p)).sum + body.tally p :=
  (tally_of_plain rfl).trans (by simp)

@[simp] theorem tally_tuple (items : List Expr) :
    (tuple pos items).tally p = tallyAll p items :=
  (tally_of_plain rfl).trans (by simp)

@[simp] theorem tally_list (items : List Expr) :
    (list pos items).tally p = tallyAll p items :=
  (tally_of_plain rfl).trans (by simp)

@[simp] theorem tally_set (items : List Expr) :
    (set pos items).tally p = tallyAll p items :=
  (tally_of_plain rfl).trans (by simp)

@[simp] theorem tally_dict (items : List DictItem) :
    (dict pos items).tally p =
      p.record pos + (items.map (DictItem.tally p)).sum := by
  have own : (Node.expr (dict pos items)).worth p = p.record pos := rfl
  simp [tally_eq (dict _ _), own]

@[simp] theorem tally_comprehension (kind : ComprehensionKind) (element : Expr)
    (clauses : List Clause) : (comprehension pos kind element clauses).tally p =
      element.tally p + (clauses.map (Clause.tally p)).sum :=
  (tally_of_plain rfl).trans (by simp)

@[simp] theorem tally_dictComprehension (key value : Expr) (clauses : List Clause) :
    (dictComprehension pos key value clauses).tally p =
      key.tally p + value.tally p + (clauses.map (Clause.tally p)).sum :=
  (tally_of_plain rfl).trans (by simp [Nat.add_assoc])

@[simp] theorem tally_await (value : Expr) : (await pos value).tally p = value.tally p :=
  (tally_of_plain rfl).trans (by simp)

@[simp] theorem tally_yieldFrom (value : Expr) :
    (yieldFrom pos value).tally p = value.tally p :=
  (tally_of_plain rfl).trans (by simp)

@[simp] theorem tally_starred (value : Expr) :
    (starred pos value).tally p = value.tally p :=
  (tally_of_plain rfl).trans (by simp)

@[simp] theorem tally_yield (value : Option Expr) :
    (yield pos value).tally p = tallyOption p value :=
  (tally_of_plain rfl).trans (by simp)

@[simp] theorem tally_named (target value : Expr) :
    (named pos target value).tally p = target.tally p + value.tally p :=
  (tally_of_plain rfl).trans (by simp)

@[simp] theorem tally_slice (lower upper step : Option Expr) :
    (slice pos lower upper step).tally p =
      tallyOption p lower + tallyOption p upper + tallyOption p step :=
  (tally_of_plain rfl).trans (by simp [Nat.add_assoc])

end Expr

namespace Statement

mutual

/-- The names of the functions that are defined by the statement or inside it. -/
@[simp] def functions : Statement → List String
  | .classDef ⟨_, _, _, _, _, body⟩ => functionsOf body
  | .functionDef ⟨_, name, _, _, _, body⟩ => name :: functionsOf body
  | .branch _ body orelse | .loop _ body orelse => functionsOf body ++ functionsOf orelse
  | .within _ _ body => functionsOf body
  | .attempt _ body handlers orelse cleanup =>
    functionsOf body ++ functionsOfArms handlers ++ functionsOf orelse ++ functionsOf cleanup
  | .choice _ arms => functionsOfArms arms
  | .assign _ _ | .augment _ _ _ | .declare _ _ _ _ | .expression _ | .importModules _
  | .importFrom _ _ _ _ | .simple _ => []

@[simp] def functionsOf : List Statement → List String
  | [] => []
  | s :: rest => functions s ++ functionsOf rest

@[simp] def functionsOfArms : List (Arm Statement) → List String
  | [] => []
  | ⟨_, body⟩ :: rest => functionsOf body ++ functionsOfArms rest

end

def tally (p : Tally) (s : Statement) : Nat := Node.tally p s.nodes + p.names s.functions

def tallyAll (p : Tally) (statements : List Statement) : Nat :=
  (statements.map (tally p)).sum

def tallyArms (p : Tally) (arms : List (Arm Statement)) : Nat :=
  (arms.map (tallyAll p ·.body)).sum

variable {p : Tally}

@[simp] theorem tallyAll_nil : tallyAll p [] = 0 := rfl

@[simp] theorem tallyAll_cons (s : Statement) (rest : List Statement) :
    tallyAll p (s :: rest) = s.tally p + tallyAll p rest := rfl

@[simp] theorem tallyAll_append (first rest : List Statement) :
    tallyAll p (first ++ rest) = tallyAll p first + tallyAll p rest := by
  simp [tallyAll]

@[simp] theorem tallyArms_nil : tallyArms p [] = 0 := rfl

@[simp] theorem tallyArms_cons (arm : Arm Statement) (rest : List (Arm Statement)) :
    tallyArms p (arm :: rest) = tallyAll p arm.body + tallyArms p rest := rfl

theorem tallyAll_eq (statements : List Statement) :
    tallyAll p statements =
      Node.tally p (nodesOf statements) + p.names (functionsOf statements) := by
  induction statements with
  | nil => rfl
  | cons s rest ih => simp +arith [nodesOf, tally, ih]

theorem tallyArms_eq (arms : List (Arm Statement)) :
    tallyArms p arms = Node.tally p (nodesOfArms arms) + p.names (functionsOfArms arms) := by
  induction arms with
  | nil => rfl
  | cons arm rest ih => simp +arith [nodesOfArms, tallyAll_eq, ih]

theorem tally_nodesOf (place : Position) (statements : List Statement) :
    Node.tally (.recordsAt place) (nodesOf statements) =
      tallyAll (.recordsAt place) statements := by
  rw [tallyAll_eq, Tally.names_recordsAt, Nat.add_zero]

@[simp] theorem tally_classDef (definition : ClassDef Statement) :
    (classDef definition).tally p = p.record definition.pos +
      (Expr.tallyAll p definition.bases + (definition.keywords.map (Keyword.tally p)).sum +
        Expr.tallyAll p definition.decorators + tallyAll p definition.body) := by
  simp +arith [tally, nodes, tallyAll_eq, Node.tally_cons, Node.worth, Node.isSite,
    Node.pos]

@[simp] theorem tally_functionDef (definition : FunctionDef Statement) :
    (functionDef definition).tally p = p.name definition.name +
      (definition.parameters.map (Parameter.tally p)).sum +
        Expr.tallyOption p definition.returns + Expr.tallyAll p definition.decorators +
        tallyAll p definition.body := by
  simp +arith [tally, nodes, tallyAll_eq]

@[simp] theorem tally_assign (targets : List Expr) (value : Expr) :
    (assign targets value).tally p = Expr.tallyAll p targets + value.tally p := by
  simp [tally, nodes, Expr.parts]

@[simp] theorem tally_augment (target : Expr) (op : BinaryOp) (value : Expr) :
    (augment target op value).tally p = target.tally p + value.tally p := by
  simp [tally, nodes, Expr.parts]

@[simp] theorem tally_declare (target hint : Expr) (value : Option Expr) (bare : Bool) :
    (declare target hint value bare).tally p =
      target.tally p + hint.tally p + Expr.tallyOption p value := by
  simp [tally, nodes, Expr.parts, Nat.add_assoc]

@[simp] theorem tally_expression (value : Expr) :
    (expression value).tally p = value.tally p := rfl

@[simp] theorem tally_branch (test : Expr) (body orelse : List Statement) :
    (branch test body orelse).tally p = tallyAll p body + tallyAll p orelse := by
  simp +arith [tally, nodes, tallyAll_eq]

@[simp] theorem tally_loop (head : LoopHead) (body orelse : List Statement) :
    (loop head body orelse).tally p = tallyAll p body + tallyAll p orelse := by
  simp +arith [tally, nodes, tallyAll_eq]

@[simp] theorem tally_within (isAsync : Bool) (items : List WithItem) (body : List Statement) :
    (within isAsync items body).tally p = tallyAll p body := by
  simp [tally, nodes, tallyAll_eq]

@[simp] theorem tally_attempt (groups : Bool) (body : List Statement)
    (handlers : List (Arm Statement)) (orelse cleanup : List Statement) :
    (attempt groups body handlers orelse cleanup).tally p =
      tallyAll p body + tallyArms p handlers + tallyAll p orelse + tallyAll p cleanup := by
  simp +arith [tally, nodes, tallyAll_eq, tallyArms_eq]

@[simp] theorem tally_choice (subject : Expr) (arms : List (Arm Statement)) :
    (choice subject arms).tally p = tallyArms p arms := by
  simp [tally, nodes, tallyArms_eq]

@[simp] theorem tally_importModules (names : List ImportAlias) :
    (importModules names).tally p = 0 := rfl

@[simp] theorem tally_importFrom (pos : Position) (module : Option String) (level : Nat)
    (names : List ImportAlias) : (importFrom pos module level names).tally p = 0 := rfl

@[simp] theorem tally_simple (statement : SimpleStatement) : (simple statement).tally p = 0 := rfl

end Statement

end HintSchema

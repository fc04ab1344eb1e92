import HintSchema.Hints.Function
import HintSchema.Proofs.Modules.Execution
import HintSchema.Proofs.Pairs

/-!
The functions of a module that builds its export list line by line, with assignments and additions.
The list that counts is the one that is assigned last; what is added to a list does not count
(`exportedFunctions_eq_listed`).
-/

namespace HintSchema

namespace CodeText

theorem eq_ofChars_of_chars? {text : CodeText} {chars : List Char}
    (spelled : text.chars? = some chars) : text = ofChars chars := by
  induction text generalizing chars with
  | nil =>
    cases spelled
    rfl
  | cons point rest ih =>
    unfold chars? at spelled
    cases point with
    | surrogate => cases spelled
    | scalar c =>
      rw [List.mapM_cons] at spelled
      obtain ⟨_, ⟨rfl⟩, spelled⟩ := Option.bind_eq_some_iff.mp spelled
      obtain ⟨others, later, ⟨rfl⟩⟩ := Option.bind_eq_some_iff.mp spelled
      rw [ih later]
      rfl

def strings (texts : List CodeText) : List String :=
  texts.filterMap fun text => text.chars?.map .ofList

theorem mem_strings {texts : List CodeText} {name : String} :
    name ∈ strings texts ↔ ofString name ∈ texts := by
  constructor
  · intro member
    obtain ⟨text, inside, spelled⟩ := List.mem_filterMap.mp member
    obtain ⟨chars, read, rfl⟩ := Option.map_eq_some_iff.mp spelled
    obtain rfl := eq_ofChars_of_chars? read
    rwa [ofString, String.toList_ofList]
  · intro member
    refine List.mem_filterMap.mpr ⟨_, member, ?_⟩
    rw [ofString, chars?_ofChars, Option.map_some, String.ofList_toList]

end CodeText

namespace Expr

def text? : Expr → Option CodeText
  | literal _ (.text text _) => some text
  | _ => none

def texts? : Expr → Option (List CodeText)
  | list _ items | tuple _ items => items.mapM text?
  | _ => none

theorem filterMap_of_mapM_text? {items : List Expr} {texts : List CodeText}
    (held : items.mapM text? = some texts) :
    (items.filterMap fun
      | literal _ (.text value _) => value.chars?.map String.ofList
      | _ => none) = CodeText.strings texts := by
  induction items generalizing texts with
  | nil =>
    cases held
    rfl
  | cons item rest ih =>
    rw [List.mapM_cons] at held
    obtain ⟨text, here, held⟩ := Option.bind_eq_some_iff.mp held
    obtain ⟨others, later, ⟨rfl⟩⟩ := Option.bind_eq_some_iff.mp held
    unfold text? at here
    split at here
    · cases here
      rw [List.filterMap_cons, ih later]
      rfl
    · cases here

theorem textItems?_of_texts? {value : Expr} {texts : List CodeText}
    (held : value.texts? = some texts) : value.textItems? = some (CodeText.strings texts) := by
  unfold texts? at held
  split at held
  · exact congrArg some (filterMap_of_mapM_text? held)
  · exact congrArg some (filterMap_of_mapM_text? held)
  · cases held

end Expr

/-- A line that assigns the export list, or one that adds to it. -/
inductive ExportLine where
  | set (texts : List CodeText)
  | extend (texts : List CodeText)
  deriving DecidableEq

namespace ExportLine

/-- The export list after the line. -/
def after (listed : List CodeText) : ExportLine → List CodeText
  | set texts => texts
  | extend texts => listed ++ texts

/-- The list that was assigned last, after the line. -/
def assigned (last : List CodeText) : ExportLine → List CodeText
  | set texts => texts
  | extend _ => last

theorem assigned_subset_after (lines : List ExportLine) {last listed : List CodeText}
    (among : last ⊆ listed) : lines.foldl assigned last ⊆ lines.foldl after listed := by
  induction lines generalizing last listed with
  | nil => exact among
  | cons line rest ih =>
    cases line with
    | set texts => exact ih (List.Subset.refl texts)
    | extend texts => exact ih (List.subset_append_of_subset_left texts among)

end ExportLine

namespace Scope

variable {s : Scope}

theorem exports_importModules (items : List ImportAlias) :
    (items.foldl importModule s).exports = s.exports := by
  induction items generalizing s with
  | nil => rfl
  | cons item rest ih =>
    rw [List.foldl_cons, ih, importModule]
    split <;> rfl

theorem exports_importMembers (module : Option String) (level : Nat) (items : List ImportAlias) :
    (items.foldl (importMember module level) s).exports = s.exports := by
  induction items generalizing s with
  | nil => rfl
  | cons item rest ih =>
    rw [List.foldl_cons, ih, importMember]
    split <;> rfl

theorem exports_declare {name : String} (hint : Expr) (value : Option Expr)
    (other : value.isSome = true → name ≠ exportsName) :
    (s.declare name hint value).exports = s.exports := by
  cases value with
  | none => rfl
  | some value =>
    unfold declare
    dsimp only
    rw [if_neg (other rfl)]
    split <;> rfl

end Scope

namespace Statement

open Scope (exportsName)

def exportLine? : Statement → Option ExportLine
  | assign [.name _ id] value => if id = exportsName then value.texts?.map .set else none
  | augment (.name _ id) .add value => if id = exportsName then value.texts?.map .extend else none
  | _ => none

mutual

/-- The statement assigns the export list, or one does that a condition or a `try` holds. -/
def assignsExports : Statement → Bool
  | assign [.name _ id] _ => id == exportsName
  | declare (.name _ id) _ value _ => value.isSome && id == exportsName
  | branch _ body orelse => anyAssignsExports body || anyAssignsExports orelse
  | attempt false body handlers orelse cleanup =>
    anyAssignsExports body || armsAssignExports handlers || anyAssignsExports orelse ||
      anyAssignsExports cleanup
  | _ => false

def anyAssignsExports : List Statement → Bool
  | [] => false
  | statement :: rest => statement.assignsExports || anyAssignsExports rest

def armsAssignExports : List (Arm Statement) → Bool
  | [] => false
  | ⟨_, body⟩ :: rest => anyAssignsExports body || armsAssignExports rest

end

theorem exports_afterAssign {s : Scope} {targets : List Expr} {value : Expr}
    (other : (assign targets value).assignsExports = false) :
    (s.afterStatement (assign targets value)).exports = s.exports := by
  cases targets with
  | nil => rfl
  | cons target rest =>
    cases rest with
    | cons => cases target <;> rfl
    | nil =>
      cases target with
      | name pos id =>
        change (id == exportsName) = false at other
        change (s.assign id value).exports = s.exports
        rw [Scope.assign, if_neg (beq_eq_false_iff_ne.mp other)]
        rfl
      | _ => rfl

theorem exports_afterDeclare {s : Scope} {target hint : Expr} {value : Option Expr} {bare : Bool}
    (other : (declare target hint value bare).assignsExports = false) :
    (s.afterStatement (declare target hint value bare)).exports = s.exports := by
  cases target with
  | name pos id =>
    change (value.isSome && id == exportsName) = false at other
    refine Scope.exports_declare hint value fun some same => ?_
    rw [some, same] at other
    cases other
  | _ => rfl

mutual

theorem exports_after (s : Scope) : ∀ statement : Statement, statement.assignsExports = false →
    (s.afterStatement statement).exports = s.exports
  | classDef _, _ | functionDef _, _ => rfl
  | importModules items, _ => Scope.exports_importModules items
  | importFrom _ module level items, _ => Scope.exports_importMembers module level items
  | assign _ _, other => exports_afterAssign other
  | declare _ _ _ _, other => exports_afterDeclare other
  | branch _ body orelse, other => by
    obtain ⟨first, last⟩ := Bool.or_eq_false_iff.mp other
    exact (exports_afterAll _ orelse last).trans (exports_afterAll s body first)
  | attempt false body handlers orelse cleanup, other => by
    obtain ⟨other, last⟩ := Bool.or_eq_false_iff.mp other
    obtain ⟨other, third⟩ := Bool.or_eq_false_iff.mp other
    obtain ⟨first, second⟩ := Bool.or_eq_false_iff.mp other
    calc (s.afterStatement (attempt false body handlers orelse cleanup)).exports
        = (((s.afterAll body).afterArms handlers).afterAll orelse).exports :=
          exports_afterAll _ cleanup last
      _ = ((s.afterAll body).afterArms handlers).exports := exports_afterAll _ orelse third
      _ = (s.afterAll body).exports := exports_afterArms _ handlers second
      _ = s.exports := exports_afterAll s body first
  | attempt true _ _ _ _, _ | augment _ _ _, _ | expression _, _ | loop _ _ _, _
  | within _ _ _, _ | choice _ _, _ | simple _, _ => rfl

theorem exports_afterAll (s : Scope) : ∀ statements : List Statement,
    anyAssignsExports statements = false → (s.afterAll statements).exports = s.exports
  | [], _ => rfl
  | statement :: rest, other => by
    obtain ⟨first, last⟩ := Bool.or_eq_false_iff.mp other
    exact (exports_afterAll _ rest last).trans (exports_after s statement first)

theorem exports_afterArms (s : Scope) : ∀ arms : List (Arm Statement),
    armsAssignExports arms = false → (s.afterArms arms).exports = s.exports
  | [], _ => rfl
  | ⟨_, body⟩ :: rest, other => by
    obtain ⟨first, last⟩ := Bool.or_eq_false_iff.mp other
    exact (exports_afterArms _ rest last).trans (exports_afterAll s body first)

end

theorem exportLine?_cases {statement : Statement} {line : ExportLine}
    (found : statement.exportLine? = some line) :
    (∃ pos value texts, statement = assign [.name pos exportsName] value ∧
      value.texts? = some texts ∧ line = .set texts) ∨
    ∃ pos value texts, statement = augment (.name pos exportsName) .add value ∧
      line = .extend texts := by
  unfold exportLine? at found
  split at found
  · rename_i pos id value
    split at found
    · rename_i named
      obtain ⟨texts, written, same⟩ := Option.map_eq_some_iff.mp found
      exact .inl ⟨pos, value, texts, by rw [named], written, same.symm⟩
    · cases found
  · rename_i pos id value
    split at found
    · rename_i named
      obtain ⟨texts, _, same⟩ := Option.map_eq_some_iff.mp found
      exact .inr ⟨pos, value, texts, by rw [named], same.symm⟩
    · cases found
  · cases found

theorem exports_after_set {s : Scope} {statement : Statement} {texts : List CodeText}
    (found : statement.exportLine? = some (.set texts)) :
    (s.afterStatement statement).exports = some (CodeText.strings texts) := by
  rcases exportLine?_cases found with ⟨pos, value, _, rfl, written, ⟨rfl⟩⟩ | ⟨_, _, _, _, other⟩
  · exact Expr.textItems?_of_texts? written
  · cases other

theorem exports_after_extend {s : Scope} {statement : Statement} {texts : List CodeText}
    (found : statement.exportLine? = some (.extend texts)) :
    (s.afterStatement statement).exports = s.exports := by
  rcases exportLine?_cases found with ⟨_, _, _, _, _, other⟩ | ⟨pos, value, _, rfl, _⟩
  · cases other
  · rfl

/-- Beside the lines that build the export list, no statement assigns it. -/
def LeavesExports (statements : List Statement) : Prop :=
  ∀ statement ∈ statements, statement.exportLine? = none → statement.assignsExports = false

instance (statements : List Statement) : Decidable (LeavesExports statements) :=
  List.decidableBAll _ statements

theorem exports_afterAll_lines {statements : List Statement} (others : LeavesExports statements)
    {s : Scope} {last : List CodeText} (known : s.exports = some (CodeText.strings last)) :
    (s.afterAll statements).exports = some
      (CodeText.strings ((statements.filterMap exportLine?).foldl ExportLine.assigned last)) := by
  induction statements generalizing s last with
  | nil => exact known
  | cons statement rest ih =>
    obtain ⟨here, later⟩ := List.forall_mem_cons.mp others
    cases found : statement.exportLine? with
    | none =>
      rw [List.filterMap_cons_none found]
      exact ih later ((exports_after s statement (here found)).trans known)
    | some line =>
      rw [List.filterMap_cons_some found]
      cases line with
      | set texts => exact ih later (exports_after_set found)
      | extend texts => exact ih later ((exports_after_extend found).trans known)

theorem exports_afterAll_of_set {statements : List Statement} {first : List CodeText}
    {rest : List ExportLine} (lines : statements.filterMap exportLine? = .set first :: rest)
    (others : LeavesExports statements) (s : Scope) :
    (s.afterAll statements).exports =
      some (CodeText.strings (rest.foldl ExportLine.assigned first)) := by
  induction statements generalizing s with
  | nil => cases lines
  | cons statement later ih =>
    obtain ⟨_, following⟩ := List.forall_mem_cons.mp others
    cases found : statement.exportLine? with
    | none =>
      rw [List.filterMap_cons_none found] at lines
      exact ih lines following _
    | some line =>
      rw [List.filterMap_cons_some found] at lines
      obtain ⟨rfl, rfl⟩ := List.cons.inj lines
      exact exports_afterAll_lines following (exports_after_set found)

def functionDef? : Statement → Option (FunctionDef Statement)
  | functionDef definition => some definition
  | _ => none

theorem foldl_definitions {α : Type} (test : FunctionDef Statement → Bool)
    (step : α → FunctionDef Statement → α) (statements : List Statement) (start : α) :
    statements.foldl (fun known statement =>
        match statement with
        | .functionDef definition => if test definition then step known definition else known
        | _ => known) start =
      ((statements.filterMap functionDef?).filter test).foldl step start := by
  induction statements generalizing start with
  | nil => rfl
  | cons statement rest ih =>
    rw [List.foldl_cons, ih]
    cases statement with
    | functionDef definition =>
      rw [List.filterMap_cons_some (show functionDef? _ = some definition from rfl),
        List.filter_cons]
      dsimp only
      split <;> rfl
    | _ => rfl

/-- The functions at the top level that are neither overloads nor have a leading underscore. -/
def publicDefinitions (statements : List Statement) : List (FunctionDef Statement) :=
  (statements.filterMap functionDef?).filter (isExported none)

theorem isExported_strings (texts : List CodeText) (definition : FunctionDef Statement) :
    isExported (some (CodeText.strings texts)) definition =
      (isExported none definition && decide (CodeText.ofString definition.name ∈ texts)) := by
  have listed : (CodeText.strings texts).contains definition.name =
      decide (CodeText.ofString definition.name ∈ texts) := by
    rw [Bool.eq_iff_iff, List.contains_iff_mem, decide_eq_true_iff, CodeText.mem_strings]
  unfold isExported
  dsimp only
  rw [listed, Bool.and_true, Bool.and_right_comm]

end Statement

namespace SourceFile

open Statement

/-- The public definitions that the texts name. -/
def named (s : SourceFile) (texts : List CodeText) : List (FunctionDef Statement) :=
  (publicDefinitions s.statements).filter fun definition =>
    decide (CodeText.ofString definition.name ∈ texts)

/-- The public functions that the texts name: each name once, in the order of the first definitions,
and with its last definition. -/
def listed (s : SourceFile) (texts : List CodeText) : List Function :=
  ((s.named texts).map (·.name)).eraseDups.filterMap fun name =>
    ((s.named texts).reverse.find? (·.name == name)).map (⟨s.path, ·⟩)

variable {s : SourceFile} {texts more : List CodeText}

theorem mem_named {definition : FunctionDef Statement} : definition ∈ s.named texts ↔
    definition ∈ publicDefinitions s.statements ∧ CodeText.ofString definition.name ∈ texts := by
  rw [named, List.mem_filter, decide_eq_true_iff]

theorem exportedFunctions_eq_of_exports
    (exports : s.scope.exports = some (CodeText.strings texts)) :
    s.exportedFunctions = s.listed texts := by
  have same : (s.statements.filterMap functionDef?).filter (isExported s.scope.exports) =
      s.named texts := by
    rw [named, publicDefinitions, List.filter_filter, exports]
    refine List.filter_congr fun definition _ => ?_
    rw [isExported_strings, Bool.and_comm]
  calc s.exportedFunctions
      = ((s.named texts).foldl (fun functions definition =>
          Pairs.put functions definition.name ⟨s.path, definition⟩) []).map (·.2) := by
        rw [← same]
        exact congrArg (List.map Prod.snd) (foldl_definitions _ _ s.statements [])
    _ = s.listed texts := by
        rw [Pairs.foldl_put_eq, List.map_filterMap]
        simp only [Option.map_map]
        rfl

theorem names_listed (s : SourceFile) (texts : List CodeText) :
    (s.listed texts).map (·.name) = ((s.named texts).map (·.name)).eraseDups := by
  rw [listed, List.map_filterMap, List.filterMap_congr (g := some), List.filterMap_some]
  intro name member
  obtain ⟨definition, inside, same⟩ := List.mem_map.mp (List.mem_eraseDups.mp member)
  have found : ((s.named texts).reverse.find? (·.name == name)).isSome = true := by
    rw [List.find?_isSome]
    exact ⟨definition, List.mem_reverse.mpr inside, beq_iff_eq.mpr same⟩
  obtain ⟨last, found⟩ := Option.isSome_iff_exists.mp found
  have equal : last.name = name := by simpa using List.find?_some found
  rw [found]
  exact congrArg some equal

theorem listed_eq_iff (among : texts ⊆ more) :
    s.listed texts = s.listed more ↔ ∀ definition ∈ publicDefinitions s.statements,
      CodeText.ofString definition.name ∈ more → CodeText.ofString definition.name ∈ texts := by
  constructor
  · intro same definition member written
    have names := congrArg (List.map (·.name)) same
    rw [names_listed, names_listed] at names
    have inside := List.mem_eraseDups.mpr
      (List.mem_map_of_mem (f := (·.name)) (mem_named.mpr ⟨member, written⟩))
    rw [← names, List.mem_eraseDups] at inside
    obtain ⟨other, inside, equal⟩ := List.mem_map.mp inside
    exact equal ▸ (mem_named.mp inside).2
  · intro others
    have same : s.named texts = s.named more := by
      refine List.filter_congr fun definition member => ?_
      rw [decide_eq_decide]
      exact ⟨fun written => among written, others definition member⟩
    rw [listed, listed, same]

/-- In a module that builds its export list from a first assignment on, the exported functions are
those on the list that is assigned last. They are the ones on the list as it is in the end exactly
where what has been added since names no other public function. -/
theorem exportedFunctions_eq_listed (module : String) (path : Path)
    (body : Option (List Statement)) (first : List CodeText) (rest : List ExportLine)
    (lines : (ofBody module path body).statements.filterMap exportLine? = .set first :: rest)
    (others : LeavesExports (ofBody module path body).statements) :
    (ofBody module path body).exportedFunctions =
        (ofBody module path body).listed (rest.foldl ExportLine.assigned first) ∧
      ((ofBody module path body).exportedFunctions =
          (ofBody module path body).listed (rest.foldl ExportLine.after first) ↔
        ∀ definition ∈ publicDefinitions (ofBody module path body).statements,
          CodeText.ofString definition.name ∈ rest.foldl ExportLine.after first →
          CodeText.ofString definition.name ∈ rest.foldl ExportLine.assigned first) := by
  have exports : (ofBody module path body).scope.exports =
      some (CodeText.strings (rest.foldl ExportLine.assigned first)) := by
    rw [scope_ofBody]
    exact exports_afterAll_of_set lines others .empty
  have exported := exportedFunctions_eq_of_exports exports
  refine ⟨exported, ?_⟩
  rw [exported]
  exact listed_eq_iff (ExportLine.assigned_subset_after rest (List.Subset.refl first))

/-- A module with two lists and additions to both. -/
def twoLists : SourceFile := .ofLines ⟨.root, ["functions.py"]⟩
  ["__all__ = ['old']",
   "__all__ += ['lost']",
   "__all__ = ('g', 'f', '_h')",
   "def f(): pass",
   "def g(): pass",
   "def _h(): pass",
   "def lost(): pass",
   "__all__ += ['absent']",
   "async def f(x): pass",
   "@overload",
   "def g(x): pass"]

theorem exportedFunctions_twoLists :
    twoLists.exportedFunctions = twoLists.listed [.ofString "g", .ofString "f", .ofString "_h"] ∧
      twoLists.exportedFunctions.map (fun f => (f.name, f.definition.parameters.length)) =
        [("f", 1), ("g", 0)] := by
  have read : twoLists.statements.filterMap exportLine? =
        [.set [.ofString "old"], .extend [.ofString "lost"],
          .set [.ofString "g", .ofString "f", .ofString "_h"], .extend [.ofString "absent"]] ∧
      LeavesExports twoLists.statements ∧
      twoLists.exportedFunctions.map (fun f => (f.name, f.definition.parameters.length)) =
        [("f", 1), ("g", 0)] := by
    decide +kernel
  obtain ⟨lines, others, named⟩ := read
  exact ⟨(exportedFunctions_eq_listed _ _ _ _ _ lines others).1, named⟩

/-- A list of one function, and a line that adds the other. -/
def addedName : SourceFile := .ofLines ⟨.root, ["functions.py"]⟩
  ["__all__ = ['f']",
   "__all__ += ['g']",
   "def f(): pass",
   "def g(): pass"]

/-- The function that is added to the list is not exported. -/
theorem addedName_overlooked :
    addedName.statements.filterMap exportLine? =
        [.set [.ofString "f"], .extend [.ofString "g"]] ∧
      LeavesExports addedName.statements ∧
      (addedName.listed ([ExportLine.extend [.ofString "g"]].foldl ExportLine.after
        [.ofString "f"])).map (·.name) = ["f", "g"] ∧
      addedName.exportedFunctions.map (·.name) = ["f"] := by
  decide +kernel

end SourceFile

end HintSchema

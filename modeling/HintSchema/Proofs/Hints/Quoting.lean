import Mathlib.Logic.Relation
import HintSchema.Hints.Check
import HintSchema.Proofs.Hints.Agreement

/-!
Records written in hints, and hints written in texts. A record in a quoted hint has no place of its
own in the file, so the programs without one are set apart.
-/

namespace HintSchema

namespace CodeText

def Quotes (text : CodeText) (inner : Expr) : Prop :=
  ∃ chars, text.chars? = some chars ∧ Parser.expression? (Text.strip chars) = some inner

end CodeText

namespace Expr

def Quotes (e inner : Expr) : Prop :=
  ∃ pos text marked, .literal pos (.text text marked) ∈ e.parts ∧ text.Quotes inner

theorem quotes_iff_of_returns {text : CodeText} {found : Option Expr} {c d : CheckState}
    (returned : Returns (Expr.ofQuoted? text) c found d) (inner : Expr) :
    found = some inner ↔ text.Quotes inner := by
  unfold Expr.ofQuoted? at returned
  split at returned
  · cases (returns_throw_iff _ _).mp returned
  · rename_i chars written
    dsimp only at returned
    split at returned
    · cases (returns_throw_iff _ _).mp returned
    · obtain ⟨rfl, rfl⟩ := (returns_pure_iff _ _).mp returned
      constructor
      · exact fun parsed => ⟨chars, written, parsed⟩
      · rintro ⟨_, again, parsed⟩
        obtain rfl := Option.some.inj (written.symm.trans again)
        exact parsed

theorem settles_ofQuoted?_quotes (P : Program) (text : CodeText) :
    Settles P (Expr.ofQuoted? text) fun found => ∀ inner, found = some inner ↔ text.Quotes inner :=
  fun _ _ _ answered =>
    ⟨quotes_iff_of_returns answered, (settles_ofQuoted? P text _ _ _ answered).2⟩

theorem parts_of_mem_items {item : DictItem} {items : List DictItem} (member : item ∈ items) :
    item.value.parts ⊆ innerOfItems items := by
  induction items with
  | nil => cases member
  | cons first rest ih =>
    rcases List.mem_cons.mp member with rfl | later
    · cases item with
      | pair key value =>
        rw [innerOfItems, List.append_assoc]
        exact List.Subset.trans (List.subset_append_left _ _) (List.subset_append_right _ _)
      | spread value => exact List.subset_append_left _ _
    · cases first with
      | pair => exact List.Subset.trans (ih later) (List.subset_append_right _ _)
      | spread => exact List.Subset.trans (ih later) (List.subset_append_right _ _)

end Expr

namespace Program

variable {P : Program} {file : Path} {e part : Expr}

def InlineRecord (P : Program) (file : Path) (e dict : Expr) : Prop :=
  ∃ pos value index place items rest, .subscript pos value index ∈ e.parts ∧
    index.indices = dict :: rest ∧ dict = .dict place items ∧
    (P.lookupExpr file value).1 = .ok (.special "typing.TypedDict")

/-- No text of the program that is a quoted hint, or inside one, has a record written in it. -/
def NoQuotedRecord (P : Program) : Prop :=
  ∀ file e, .expr e ∈ (P.source file).nodes →
    ∀ inner, Relation.TransGen Expr.Quotes e inner → ∀ dict, ¬ P.InlineRecord file inner dict

/-- Each record that is written in the hint, or in a hint quoted by it, is a node of the file. -/
def Fits (P : Program) (file : Path) (e : Expr) : Prop :=
  ∀ inner, Relation.ReflTransGen Expr.Quotes e inner → ∀ dict, P.InlineRecord file inner dict →
    .expr dict ∈ (P.source file).nodes

theorem Fits.of_parts (fits : P.Fits file e) (below : part.parts ⊆ e.parts) :
    P.Fits file part := by
  intro inner chain dict inline
  rcases Relation.ReflTransGen.cases_head chain with rfl | ⟨next, first, rest⟩
  · obtain ⟨pos, value, index, place, items, rest, member, held⟩ := inline
    exact fits e .refl dict ⟨pos, value, index, place, items, rest, below member, held⟩
  · obtain ⟨pos, text, marked, member, quotes⟩ := first
    exact fits inner (.head ⟨pos, text, marked, below member, quotes⟩ rest) dict inline

theorem Fits.of_quotes {inner : Expr} (fits : P.Fits file e) (quotes : e.Quotes inner) :
    P.Fits file inner :=
  fun other chain => fits other (.head quotes chain)

theorem fits_of_nodes (clean : P.NoQuotedRecord)
    (held : e.parts.map .expr ⊆ (P.source file).nodes) : P.Fits file e := by
  intro inner chain dict inline
  rcases Relation.reflTransGen_iff_eq_or_transGen.mp chain with rfl | further
  · obtain ⟨pos, value, index, place, items, rest, member, first, _⟩ := inline
    have inside : dict ∈ index.indices := by simp [first]
    have below := Expr.parts_subset member (Expr.parts_of_mem_indices inside dict.mem_parts_self)
    exact held (List.mem_map_of_mem below)
  · exact absurd inline (clean file e (mem_of_parts held) inner further dict)

/-- The expression is written in the file, or in a text that is quoted there. -/
def Hint (P : Program) (file : Path) (hint : Expr) : Prop :=
  ∃ e whole, .expr e ∈ (P.source file).nodes ∧ Relation.ReflTransGen Expr.Quotes e whole ∧
    hint ∈ whole.parts

theorem hint_of_node (node : .expr e ∈ (P.source file).nodes) : P.Hint file e :=
  ⟨e, e, node, .refl, e.mem_parts_self⟩

theorem Hint.fits (hinted : P.Hint file e) (clean : P.NoQuotedRecord) : P.Fits file e := by
  obtain ⟨outer, whole, node, chain, member⟩ := hinted
  have fits : P.Fits file whole := fun inner further =>
    fits_of_nodes clean (Statement.closed_nodesOf _ _ node) inner (chain.trans further)
  exact fits.of_parts (Expr.parts_subset member)

/-- The expression is nothing that `NoQuotedRecord` would have to look into: no text, and no
dictionary in square brackets. -/
def isPlainPart : Expr → Bool
  | .literal _ (.text _ _) => false
  | .subscript _ _ index => !index.indices.any fun
    | .dict _ _ => true
    | _ => false
  | _ => true

def quotesPlain (text : CodeText) : Bool :=
  match text.chars?.bind fun chars => Parser.expression? (Text.strip chars) with
  | some inner => inner.parts.all isPlainPart
  | none => true

def isPlainNode : Node → Bool
  | .expr (.literal _ (.text text _)) => quotesPlain text
  | _ => true

theorem noQuotedRecord_of_plain (plain : P.sources.all fun s => s.nodes.all isPlainNode) :
    P.NoQuotedRecord := by
  intro file e node inner quoted dict inline
  have simple : ∀ n ∈ (P.source file).nodes, isPlainNode n := by
    rcases P.source_cases file with ⟨present, _⟩ | missing
    · exact List.all_eq_true.mp (List.all_eq_true.mp plain _ present)
    · rw [missing]
      exact List.forall_mem_nil _
  obtain ⟨next, first, rest⟩ := Relation.TransGen.head'_iff.mp quoted
  obtain ⟨pos, text, marked, member, chars, held, parsed⟩ := first
  have parts : ∀ part ∈ next.parts, isPlainPart part := by
    have within := Statement.closed_nodesOf _ e node (List.mem_map_of_mem member)
    have shown : quotesPlain text := simple _ within
    unfold quotesPlain at shown
    rw [held, Option.bind_some, parsed] at shown
    exact List.all_eq_true.mp shown
  rcases Relation.ReflTransGen.cases_head rest with rfl | ⟨_, ⟨_, _, _, inside, _⟩, _⟩
  · obtain ⟨_, _, index, _, _, _, inside, indices, rfl, _⟩ := inline
    have := parts _ inside
    simp [isPlainPart, indices] at this
  · cases parts _ inside

/-- The parts of a hint that the check goes on to. A text quotes what is parsed from it. -/
inductive Shows (P : Program) (file : Path) : Expr → Expr → Prop
  | base {pos : Position} {value index : Expr} : Shows P file (.subscript pos value index) value
  | argument {pos : Position} {value index argument : Expr} {form : Binding}
      (found : (P.lookupExpr file value).1 = .ok form)
      (member : argument ∈ shown form index.indices) :
      Shows P file (.subscript pos value index) argument
  | left {pos : Position} {op : BinaryOp} {left right : Expr} :
      Shows P file (.binary pos op left right) left
  | right {pos : Position} {op : BinaryOp} {left right : Expr} :
      Shows P file (.binary pos op left right) right
  | tuple {pos : Position} {items : List Expr} {item : Expr} (member : item ∈ items) :
      Shows P file (.tuple pos items) item
  | list {pos : Position} {items : List Expr} {item : Expr} (member : item ∈ items) :
      Shows P file (.list pos items) item
  | dict {pos : Position} {items : List DictItem} {item : DictItem} (member : item ∈ items) :
      Shows P file (.dict pos items) item.value
  | text {pos : Position} {text : CodeText} {marked : Bool} {inner : Expr}
      (quotes : text.Quotes inner) : Shows P file (.literal pos (.text text marked)) inner

/-- The parts of a hint that are hints themselves: arguments, alternatives and what is quoted. -/
inductive Subhint (P : Program) (file : Path) : Expr → Expr → Prop
  | argument {pos : Position} {value index argument : Expr} {form : Binding}
      (found : (P.lookupExpr file value).1 = .ok form)
      (member : argument ∈ shown form index.indices) :
      Subhint P file (.subscript pos value index) argument
  | left {pos : Position} {left right : Expr} : Subhint P file (.binary pos .bitOr left right) left
  | right {pos : Position} {left right : Expr} :
      Subhint P file (.binary pos .bitOr left right) right
  | text {pos : Position} {text : CodeText} {marked : Bool} {inner : Expr}
      (quotes : text.Quotes inner) : Subhint P file (.literal pos (.text text marked)) inner

theorem Subhint.shows {P : Program} {file : Path} {hint part : Expr}
    (inside : P.Subhint file hint part) : P.Shows file hint part := by
  cases inside with
  | argument found member => exact .argument found member
  | left => exact .left
  | right => exact .right
  | text quotes => exact .text quotes

theorem shown_subset {α : Type} (form : Binding) (arguments : List α) :
    shown form arguments ⊆ arguments := by
  unfold shown
  split
  · exact List.nil_subset _
  · exact List.take_subset _ _
  · exact List.Subset.refl _

theorem shown_nil {α : Type} (form : Binding) : shown form ([] : List α) = [] :=
  List.subset_nil.mp (shown_subset form [])

theorem shown_special {α : Type} {qualname : String} (literal : qualname ≠ "typing.Literal")
    (annotated : qualname ≠ "typing.Annotated") (arguments : List α) :
    shown (.special qualname) arguments = arguments := by
  unfold shown
  split
  · rename_i same
    exact absurd (Binding.special.inj same) literal
  · rename_i same
    exact absurd (Binding.special.inj same) annotated
  · rfl

theorem shown_map {α β : Type} (f : α → β) (form : Binding) (arguments : List α) :
    shown form (arguments.map f) = (shown form arguments).map f := by
  unfold shown
  split
  · rfl
  · exact List.map_take.symm
  · rfl

theorem mem_shown_attach {α : Type} {form : Binding} {items : List α}
    {item : { x // x ∈ items }} :
    item ∈ shown form items.attach ↔ item.1 ∈ shown form items := by
  have same := shown_map Subtype.val form items.attach
  rw [List.attach_map_subtype_val] at same
  rw [same]
  constructor
  · exact List.mem_map_of_mem
  · intro member
    obtain ⟨other, inside, equal⟩ := List.mem_map.mp member
    rwa [← Subtype.ext equal]

theorem fixed_openAll (paths : List Path) :
    Fixed (modify (·.openAll paths) : CheckM PUnit) fun _ => True :=
  fun _ _ _ _ _ _ _ _ => ⟨rfl, trivial⟩

theorem fixed_find (P : Program) (file : Path) (expr : Expr) :
    Fixed (P.find file expr) fun found => (P.lookupExpr file expr).1 = .ok found := by
  unfold find
  apply (fixed_openAll _).bind
  intro _ _
  cases (P.lookupExpr file expr).1 with
  | ok => exact .pure rfl
  | error => exact .throw

theorem settles_find_looked (P : Program) (file : Path) (e : Expr) :
    Settles P (P.find file e) fun found => (P.lookupExpr file e).1 = .ok found :=
  fun _ _ _ answered =>
    ⟨(fixed_find P file e _ _ _ _ _ _ answered answered).2,
      (settles_find P file e _ _ _ answered).2⟩

theorem fixed_findName (P : Program) (file : Path) (name : String) :
    Fixed (P.findName file name) fun found => found = (P.lookupName file name).1 :=
  (fixed_openAll _).bind fun _ _ => .pure rfl

/-- The known names and, if it is a type variable that is not among them, one more. -/
def afterName (P : Program) (file : Path) (known : List String) (name : String) : List String :=
  if known.contains name then known
  else match (P.lookupName file name).1 with
    | .typeVariable _ => known ++ [name]
    | _ => known

/-- The names of `expr` that are type variables in the file, each once, added to those known. -/
def variablesOf (P : Program) (file : Path) (expr : Expr) (known : List String) : List String :=
  expr.namesByLevel.foldl (P.afterName file) known

theorem fixed_typeVariables (P : Program) (file : Path) (expr : Expr) (known : List String) :
    Fixed (P.typeVariables file expr known) fun found => found = P.variablesOf file expr known := by
  apply Fixed.foldlM_eq
  intro known name
  unfold afterName
  split
  · exact .pure rfl
  · apply (fixed_findName P file name).bind
    rintro _ rfl
    cases (P.lookupName file name).1 <;> exact .pure rfl

theorem fixed_lift {α : Type} (written : Except PrintFault α) :
    Fixed (PrintFault.lift written) fun _ => True := by
  cases written with
  | ok => exact .pure trivial
  | error => exact .throw

theorem fixed_variableName (e : Expr) : Fixed (variableName e) fun _ => True := by
  unfold variableName
  split
  · exact .pure trivial
  · exact fixed_lift _

theorem fixed_ofQuoted? (text : CodeText) :
    Fixed (Expr.ofQuoted? text) fun found => ∀ inner, found = some inner → text.Quotes inner := by
  unfold Expr.ofQuoted?
  split
  · exact .throw
  · rename_i chars written
    dsimp only
    split
    · exact .throw
    · exact .pure fun inner parsed => ⟨chars, written, parsed⟩

theorem fixed_isIgnoredForm (P : Program) (file : Path) (target : Expr) :
    Fixed (P.isIgnoredForm file target) fun _ => True := by
  unfold isIgnoredForm
  split
  · apply (fixed_find P _ _).bind
    intro found _
    split <;> exact .pure trivial
  · apply (fixed_find P _ _).bind
    intro found _
    split <;> exact .pure trivial
  · exact .pure trivial

theorem fixed_isIgnoredField (P : Program) (file : Path) (hint : Expr) :
    Fixed (P.isIgnoredField file hint) fun _ => True := by
  unfold isIgnoredField
  split
  · apply (fixed_ofQuoted? _).bind
    intro inner _
    split
    · exact fixed_isIgnoredForm P file _
    · exact .pure trivial
  · exact fixed_isIgnoredForm P file _

theorem fixed_peelExpr {quoted : Bool → CodeText → CheckM (Option (Expr × Bool))}
    (read : ∀ required text, Fixed (quoted required text) fun found => ∀ peeled,
      found = some peeled → ∃ inner, text.Quotes inner ∧
        Relation.ReflTransGen (P.Subhint file) inner peeled.1)
    (required : Bool) (hint : Expr) :
    Fixed (P.peelExpr quoted file required hint) fun peeled =>
      Relation.ReflTransGen (P.Subhint file) hint peeled.1 := by
  generalize bound : sizeOf hint = limit
  induction limit using Nat.strongRecOn generalizing hint required with
  | ind limit ih =>
    rw [peelExpr.eq_def]
    split
    · apply (read _ _).bind
      intro found inside
      split
      · obtain ⟨inner, quotes, reached⟩ := inside _ rfl
        exact .pure (.head (.text quotes) reached)
      · exact .pure .refl
    · rename_i pos value index
      apply (fixed_find P _ _).bind
      intro found looked
      split
      · split
        · exact .throw
        · rename_i first rest parts
          have part_le := @Expr.sizeOf_le_of_mem_indices index first (by simp [parts])
          have smaller := Expr.subscript.sizeOf_spec pos value index
          subst bound
          have go (required : Bool) (member : first ∈ shown (.special _) index.indices) :=
            have inside : P.Subhint file (.subscript pos value index) first := .argument looked member
            (ih (sizeOf first) (by omega) required first rfl).mono fun _ reached =>
              Relation.ReflTransGen.head inside reached
          split
          · exact go true (by simp [shown, parts])
          · exact go false (by simp [shown, parts])
          · exact go required (by simp [shown, parts])
          · exact go required (by simp [shown, parts])
          · exact .pure .refl
      · exact .pure .refl
    · exact .pure .refl

theorem subhint_peel (P : Program) (file : Path) (limit : Nat) (required : Bool) (hint : Expr) :
    Fixed (P.peel file limit required hint) fun peeled =>
      Relation.ReflTransGen (P.Subhint file) hint peeled.1 := by
  induction limit using Nat.strongRecOn generalizing required hint with
  | ind limit ih =>
    rw [peel]
    refine fixed_peelExpr (fun required text => ?_) required hint
    split
    · rename_i shorter
      apply (fixed_ofQuoted? text).bind
      intro found quoted
      split
      · rename_i inner
        apply Fixed.map
        apply (ih _ shorter required inner).mono
        rintro _ reached peeled ⟨⟩
        exact ⟨inner, quoted inner rfl, reached⟩
      · exact .pure fun _ impossible => by cases impossible
    · exact .pure fun _ impossible => by cases impossible

theorem Fits.of_shows (fits : P.Fits file e) (shows : P.Shows file e part) : P.Fits file part := by
  cases shows with
  | base => exact fits.of_parts (Expr.parts_subset (by simp [Expr.parts]))
  | argument _ member =>
    exact fits.of_parts (Expr.parts_of_mem_indices (shown_subset _ _ member))
  | left => exact fits.of_parts (Expr.parts_subset (by simp [Expr.parts]))
  | right => exact fits.of_parts (Expr.parts_subset (by simp [Expr.parts]))
  | tuple member =>
    exact fits.of_parts
      (List.Subset.trans (Expr.parts_of_mem_list member) (List.subset_cons_self _ _))
  | list member =>
    exact fits.of_parts
      (List.Subset.trans (Expr.parts_of_mem_list member) (List.subset_cons_self _ _))
  | dict member =>
    exact fits.of_parts
      (List.Subset.trans (Expr.parts_of_mem_items member) (List.subset_cons_self _ _))
  | @text pos text marked _ quotes =>
    exact fits.of_quotes ⟨pos, text, marked, Expr.mem_parts_self _, quotes⟩

end Program

end HintSchema

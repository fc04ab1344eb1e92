import HintSchema.Proofs.Hints.Applied
import HintSchema.Proofs.Hints.Equations
import HintSchema.Proofs.Hints.Shown
import HintSchema.Proofs.Lockstep
import HintSchema.Proofs.Syntax.Unplaced

/-!
Hints up to the places of their nodes. Where no record is written in a hint, its handle, what is
left of it without qualifiers and the messages of its check are the same wherever it stands.
-/

namespace HintSchema

namespace Expr

variable {e : Expr} {limit : Nat}

theorem textsBelow_unplaced_iff : e.unplaced.TextsBelow limit ↔ e.TextsBelow limit := by
  constructor
  · intro below pos text marked member
    have shifted := List.mem_map_of_mem (f := unplaced) member
    rw [← parts_unplaced] at shifted
    exact below default text marked shifted
  · intro below pos text marked member
    rw [parts_unplaced] at member
    obtain ⟨part, inside, same⟩ := List.mem_map.mp member
    cases part with
    | literal place value =>
      cases same
      exact below place text marked inside
    | _ => cases same

theorem map_value_unplacedItems (items : List DictItem) :
    (unplacedItems items).map DictItem.value = (items.map DictItem.value).map unplaced := by
  induction items with
  | nil => rfl
  | cons item rest ih => cases item <;> simp [DictItem.value, ih]

theorem source_unplaced (e : Expr) : e.unplaced.source = e.source := by
  unfold source
  rw [source?_unplaced]

end Expr

def HintArgument.unplaced (argument : HintArgument) : HintArgument :=
  ⟨argument.expr.unplaced, argument.resolve⟩

namespace HintArgument

variable {arguments : List HintArgument}

theorem resolveAll_unplaced : resolveAll (arguments.map unplaced) = resolveAll arguments := by
  unfold resolveAll
  rw [List.mapM_map]
  rfl

end HintArgument

namespace Program

variable {P : Program} {file : Path} {scope : TypeVariables} {e part : Expr}

theorem find_unplaced (P : Program) (file : Path) (e : Expr) :
    P.find file e.unplaced = P.find file e := by
  unfold find
  rw [lookupExpr_unplaced]

theorem variableName_unplaced (e : Expr) : variableName e.unplaced = variableName e := by
  unfold variableName
  rw [Expr.dotted?_unplaced, Expr.source_unplaced]

/-- No record is written in the hint itself. -/
def NoInlineRecord (P : Program) (file : Path) (e : Expr) : Prop :=
  ∀ dict, ¬ P.InlineRecord file e dict

namespace NoInlineRecord

theorem of_parts (clean : P.NoInlineRecord file e) (below : part.parts ⊆ e.parts) :
    P.NoInlineRecord file part := by
  rintro dict ⟨pos, value, index, place, items, rest, member, held⟩
  exact clean dict ⟨pos, value, index, place, items, rest, below member, held⟩

theorem of_unplaced_eq (clean : P.NoInlineRecord file e) (same : part.unplaced = e.unplaced) :
    P.NoInlineRecord file part := by
  rintro dict ⟨pos, value, index, place, items, rest, member, indices, rfl, looked⟩
  have shifted := List.mem_map_of_mem (f := Expr.unplaced) member
  rw [← Expr.parts_unplaced, same, Expr.parts_unplaced] at shifted
  obtain ⟨other, inside, alike⟩ := List.mem_map.mp shifted
  cases other with
  | subscript pos' value' index' =>
    simp only [Expr.unplaced, Expr.subscript.injEq, true_and] at alike
    obtain ⟨values, indexes⟩ := alike
    have listed := congrArg Expr.indices indexes
    rw [Expr.indices_unplaced, Expr.indices_unplaced, indices] at listed
    obtain ⟨first, rest', own, firsts, _⟩ := List.map_eq_cons_iff.mp listed
    cases first with
    | dict place' items' =>
      refine clean (.dict place' items') ⟨pos', value', index', place', items', rest', inside, own,
        rfl, ?_⟩
      rw [← lookupExpr_unplaced, values, lookupExpr_unplaced]
      exact looked
    | _ => cases firsts
  | _ => cases alike

end NoInlineRecord

theorem handleOfSpecial_unplaced {qualname : String} {arguments : List HintArgument}
    (plain : qualname = "typing.TypedDict" → ∀ x rest pos items, arguments = x :: rest →
      x.expr ≠ .dict pos items) :
    handleOfSpecial file qualname (arguments.map .unplaced) e.unplaced =
      handleOfSpecial file qualname arguments e := by
  have written := e.source_unplaced
  have all := @HintArgument.resolveAll_unplaced arguments
  unfold handleOfSpecial
  rw [List.getLast?_map, all, written]
  cases arguments with
  | nil => rfl
  | cons first rest =>
    rw [List.map_cons]
    dsimp only
    split
    · rfl
    split
    · rfl
    split
    · rfl
    split
    · rfl
    generalize (first :: rest).getLast? = last
    split
    · rfl
    · cases last <;> rfl
    · obtain ⟨rfl, _⟩ := List.cons.inj ‹_ :: _ = _ :: _›
      rfl
    · rfl
    · obtain ⟨same, _⟩ := List.cons.inj ‹_ :: _ = _ :: _›
      obtain ⟨expr, resolve⟩ := first
      cases expr with
      | dict pos items => exact absurd rfl (plain rfl _ _ pos items rfl)
      | _ => cases (HintArgument.mk.inj same).1
    -- What the first list does not match, the second does not match either.
    · obtain ⟨rfl, _⟩ := List.cons.inj ‹_ :: _ = _ :: _›
      split
      · split
        all_goals first | contradiction | skip
        obtain ⟨rfl, _⟩ := List.cons.inj ‹first :: rest = _ :: _›
        rfl
      · split
        all_goals first | contradiction | skip
        · obtain ⟨rfl, _⟩ := List.cons.inj ‹first :: rest = _ :: _›
          exact absurd rfl (plain rfl _ _ _ _ rfl)
        · rfl
    · cases ‹_ :: _ = []›

section

variable {expand : AliasRef → List Handle → CheckM Handle} {quoted : CodeText → CheckM Handle}

theorem handleOfBinding_unplaced (found : Binding) (arguments : List HintArgument) (e : Expr)
    (plain : found = .special "typing.TypedDict" → ∀ x rest pos items, arguments = x :: rest →
      x.expr ≠ .dict pos items) :
    P.handleOfBinding expand file scope found (arguments.map .unplaced) e.unplaced =
      P.handleOfBinding expand file scope found arguments e := by
  cases found with
  | special qualname =>
    exact handleOfSpecial_unplaced fun same => plain (congrArg Binding.special same)
  | _ =>
    simp only [handleOfBinding, HintArgument.resolveAll_unplaced, variableName_unplaced,
      Expr.source_unplaced]

theorem resolveExpr_unplaced (clean : P.NoInlineRecord file e) :
    P.resolveExpr expand quoted file scope e.unplaced =
      P.resolveExpr expand quoted file scope e := by
  generalize bound : sizeOf e = size
  induction size using Nat.strongRecOn generalizing e with
  | ind size ih =>
    subst bound
    have written := e.source_unplaced
    cases e with
    | name pos id =>
      rw [Expr.unplaced, resolveExpr.eq_def, resolveExpr.eq_def]
      dsimp only
      split
      · rfl
      · refine bind_congr fun found => ?_
        exact handleOfBinding_unplaced found [] (.name pos id) fun _ _ _ _ _ none => by cases none
    | literal pos value =>
      rw [Expr.unplaced, resolveExpr.eq_def, resolveExpr.eq_def]
      cases value <;> rfl
    | member pos value attr =>
      have same := find_unplaced P file (.member pos value attr)
      rw [Expr.unplaced] at same ⊢
      rw [resolveExpr, resolveExpr, same]
      refine bind_congr fun found => ?_
      exact handleOfBinding_unplaced found [] (.member pos value attr) fun _ _ _ _ _ none => by
        cases none
    | subscript pos value index =>
      rw [Expr.unplaced, resolveExpr_subscript, resolveExpr_subscript, find_unplaced,
        Expr.indices_unplaced, List.map_map]
      apply bind_congr_of_returns
      intro c found d looked
      have arguments : (index.indices.map fun argument => HintArgument.mk argument
            (P.resolveExpr expand quoted file scope argument)).map .unplaced =
          index.indices.map fun argument => HintArgument.mk argument.unplaced
            (P.resolveExpr expand quoted file scope argument.unplaced) := by
        rw [List.map_map]
        refine List.map_congr_left fun argument inside => ?_
        have part_le := Expr.sizeOf_le_of_mem_indices inside
        have smaller := Expr.subscript.sizeOf_spec pos value index
        have own := clean.of_parts (Expr.parts_of_mem_indices inside)
        exact congrArg (HintArgument.mk argument.unplaced)
          (ih (sizeOf argument) (by omega) own rfl).symm
      refine (congrArg (P.handleOfBinding expand file scope found · _) arguments.symm).trans ?_
      refine handleOfBinding_unplaced found _ (.subscript pos value index) ?_
      rintro rfl x rest place items same dict
      obtain ⟨first, others, indices, rfl, _⟩ := List.map_eq_cons_iff.mp same
      exact clean first ⟨pos, value, index, place, items, others, Expr.mem_parts_self _, indices,
        dict, (returns_find_iff.mp looked).1⟩
    | binary pos op left right =>
      cases op with
      | bitOr =>
        have first : left.parts ⊆ (Expr.binary pos .bitOr left right).parts :=
          Expr.parts_subset (by simp [Expr.parts])
        have second : right.parts ⊆ (Expr.binary pos .bitOr left right).parts :=
          Expr.parts_subset (by simp [Expr.parts])
        rw [Expr.unplaced, resolveExpr, resolveExpr,
          ih (sizeOf left) (by simp +arith) (clean.of_parts first) rfl,
          ih (sizeOf right) (by simp +arith) (clean.of_parts second) rfl]
      | _ =>
        rw [Expr.unplaced] at written ⊢
        rw [resolveExpr.eq_def, resolveExpr.eq_def]
        dsimp only
        rw [written]
    | _ =>
      rw [Expr.unplaced] at written ⊢
      rw [resolveExpr.eq_def, resolveExpr.eq_def]
      dsimp only
      rw [written]

end

theorem resolve_unplaced (clean : P.NoInlineRecord file e) :
    P.resolve file scope (some e.unplaced) = P.resolve file scope (some e) := by
  rw [resolve, resolve, resolveAmong, resolveAmong,
    resolveQuoting_limit e.unplaced.textsBelow_weight
      (Expr.textsBelow_unplaced_iff.mpr e.textsBelow_weight),
    resolveQuoting, resolveQuoting]
  exact resolveExpr_unplaced clean

theorem resolve_eq_of_unplaced (clean : P.NoInlineRecord file e)
    (same : part.unplaced = e.unplaced) :
    P.resolve file scope (some part) = P.resolve file scope (some e) := by
  rw [← resolve_unplaced clean, ← same, resolve_unplaced (clean.of_unplaced_eq same)]

/-! ### Qualifiers -/

def PeeledAlike (P : Program) (file : Path) (one other : Expr × Bool) : Prop :=
  one.2 = other.2 ∧ ∀ scope, P.resolve file scope (some one.1) = P.resolve file scope (some other.1)

namespace PeeledAlike

variable {one other third : Expr × Bool}

theorem refl (one : Expr × Bool) : P.PeeledAlike file one one := ⟨rfl, fun _ => rfl⟩

theorem symm (alike : P.PeeledAlike file one other) : P.PeeledAlike file other one :=
  ⟨alike.1.symm, fun scope => (alike.2 scope).symm⟩

theorem trans (alike : P.PeeledAlike file one other) (next : P.PeeledAlike file other third) :
    P.PeeledAlike file one third :=
  ⟨alike.1.trans next.1, fun scope => (alike.2 scope).trans (next.2 scope)⟩

theorem of_unplaced (clean : P.NoInlineRecord file e) (required : Bool) :
    P.PeeledAlike file (e.unplaced, required) (e, required) :=
  ⟨rfl, fun _ => resolve_unplaced clean⟩

end PeeledAlike

theorem peelExpr_unplaced {quoted other : Bool → CodeText → CheckM (Option (Expr × Bool))}
    (clean : P.NoInlineRecord file e)
    (read : ∀ required pos text marked, .literal pos (.text text marked) ∈ e.parts →
      quoted required text = other required text) (required : Bool) :
    Lockstep (P.PeeledAlike file) (P.peelExpr quoted file required e.unplaced)
      (P.peelExpr other file required e) := by
  generalize bound : sizeOf e = size
  induction size using Nat.strongRecOn generalizing e required with
  | ind size ih =>
    subst bound
    have alike := PeeledAlike.of_unplaced clean required
    cases e with
    | literal pos value =>
      rw [Expr.unplaced] at alike ⊢
      cases value with
      | text text marked =>
        rw [peelExpr, peelExpr, read required pos text marked (Expr.mem_parts_self _)]
        apply (Lockstep.self _).bind
        rintro found _ ⟨rfl, _⟩
        cases found with
        | some peeled => exact .pure (.refl peeled)
        | none => exact .pure alike
      | _ =>
        rw [peelExpr.eq_def, peelExpr.eq_def]
        exact .pure alike
    | subscript pos value index =>
      rw [Expr.unplaced] at alike ⊢
      rw [peelExpr_subscript, peelExpr_subscript, find_unplaced, Expr.indices_unplaced]
      apply (Lockstep.self _).bind
      rintro found _ ⟨rfl, _⟩
      cases found with
      | special qualname =>
        dsimp only
        cases parts : index.indices with
        | nil => exact .throw _
        | cons first rest =>
          dsimp only [List.map_cons]
          cases requiredInside? qualname required with
          | none => exact .pure alike
          | some inside =>
            have member : first ∈ index.indices := by simp [parts]
            have part_le := Expr.sizeOf_le_of_mem_indices member
            have smaller := Expr.subscript.sizeOf_spec pos value index
            have below : first.parts ⊆ (Expr.subscript pos value index).parts :=
              Expr.parts_of_mem_indices member
            exact ih (sizeOf first) (by omega) (clean.of_parts below)
              (fun required pos text marked held => read required pos text marked (below held))
              inside rfl
      | _ => exact .pure alike
    | _ =>
      rw [Expr.unplaced] at alike ⊢
      rw [peelExpr.eq_def, peelExpr.eq_def]
      exact .pure alike

theorem peel_unplaced {limit limit' : Nat} (clean : P.NoInlineRecord file e)
    (below : e.TextsBelow limit) (within : e.TextsBelow limit') (required : Bool) :
    Lockstep (P.PeeledAlike file) (P.peel file limit required e.unplaced)
      (P.peel file limit' required e) := by
  rw [peel, peel]
  refine peelExpr_unplaced clean (fun required pos text marked inside => ?_) required
  rw [dif_pos (below pos text marked inside), dif_pos (within pos text marked inside)]

theorem peel_eq_of_unplaced {limit limit' : Nat} (clean : P.NoInlineRecord file e)
    (same : part.unplaced = e.unplaced) (below : part.TextsBelow limit)
    (within : e.TextsBelow limit') (required : Bool) :
    Lockstep (P.PeeledAlike file) (P.peel file limit required part)
      (P.peel file limit' required e) := by
  have first := (peel_unplaced (clean.of_unplaced_eq same) below below required).symm
  have second : Lockstep (P.PeeledAlike file) (P.peel file limit required e.unplaced) _ :=
    peel_unplaced clean (Expr.textsBelow_unplaced_iff.mp (same ▸
      Expr.textsBelow_unplaced_iff.mpr below)) within required
  rw [← same] at second
  exact (first.trans second).mono fun _ _ ⟨_, one, other⟩ => one.symm.trans other

/-! ### Messages -/

end Program

def Diagnostic.SayAlike (one other : List Diagnostic) : Prop :=
  one.map message = other.map message

namespace Diagnostic.SayAlike

variable {one other : List Diagnostic}

theorem append {more others : List Diagnostic} (first : SayAlike one other)
    (rest : SayAlike more others) : SayAlike (one ++ more) (other ++ others) := by
  unfold SayAlike at first rest ⊢
  rw [List.map_append, List.map_append, first, rest]

theorem flatten {found others : List (List Diagnostic)}
    (each : List.Forall₂ SayAlike found others) : SayAlike found.flatten others.flatten := by
  induction each with
  | nil => rfl
  | cons first _ ih => exact first.append ih

end Diagnostic.SayAlike

namespace Program

open Diagnostic (SayAlike)

variable {P : Program} {file : Path} {e part : Expr}

section

variable {quoted other : Position → CodeText → CheckM (List Diagnostic)}

theorem lockstep_checkName (pos pos' : Position) (target : Expr) :
    Lockstep SayAlike (P.checkName file pos target.unplaced) (P.checkName file pos' target) := by
  unfold checkName
  rw [find_unplaced]
  apply (Lockstep.self _).bind
  rintro found _ ⟨rfl, _⟩
  cases found <;> exact .pure rfl

theorem checkExpr_unplaced
    (read : ∀ pos pos' place text marked, .literal place (.text text marked) ∈ e.parts →
      Lockstep SayAlike (quoted pos text) (other pos' text)) (place place' : Option Position) :
    Lockstep SayAlike (P.checkExpr quoted file place e.unplaced)
      (P.checkExpr other file place' e) := by
  generalize bound : sizeOf e = size
  induction size using Nat.strongRecOn generalizing e with
  | ind size ih =>
    subst bound
    -- The parts of the hint are checked by the induction hypothesis.
    have go {part : Expr} (below : part.parts ⊆ e.parts) (smaller : sizeOf part < sizeOf e) :
        Lockstep SayAlike (P.checkExpr quoted file place part.unplaced)
          (P.checkExpr other file place' part) :=
      ih (sizeOf part) smaller
        (fun pos pos' place text marked held => read pos pos' place text marked (below held)) rfl
    have goAll {items : List Expr}
        (each : ∀ part ∈ items, part.parts ⊆ e.parts ∧ sizeOf part < sizeOf e) :
        Lockstep (List.Forall₂ SayAlike)
          ((items.map Expr.unplaced).mapM (P.checkExpr quoted file place))
          (items.mapM (P.checkExpr other file place')) := by
      rw [List.mapM_map]
      exact .mapM (List.forall₂_same.mpr fun part member => go (each part member).1
        (each part member).2)
    have listed {items : List Expr} (below : Expr.innerOfList items ⊆ e.parts)
        (smaller : sizeOf items < sizeOf e) : ∀ part ∈ items,
          part.parts ⊆ e.parts ∧ sizeOf part < sizeOf e := fun part member =>
      ⟨List.Subset.trans (Expr.parts_of_mem_list member) below,
        Nat.lt_trans (List.sizeOf_lt_of_mem member) smaller⟩
    cases e with
    | literal pos value =>
      rw [Expr.unplaced, checkExpr.eq_def, checkExpr.eq_def]
      cases value with
      | text text marked => exact read _ _ pos text marked (Expr.mem_parts_self _)
      | _ => exact .pure rfl
    | name pos id =>
      rw [Expr.unplaced, checkExpr, checkExpr]
      exact lockstep_checkName _ _ (.name pos id)
    | member pos value attr =>
      rw [Expr.unplaced, checkExpr, checkExpr]
      exact lockstep_checkName _ _ (.member pos value attr)
    | subscript pos value index =>
      rw [Expr.unplaced, checkExpr_subscript, checkExpr_subscript, find_unplaced,
        Expr.indices_unplaced]
      apply (go (Expr.parts_subset (by simp [Expr.parts])) (by simp +arith)).bind
      intro outer outer' first
      apply (Lockstep.self _).bind
      rintro form _ ⟨rfl, _⟩
      rw [shown_map]
      have inside : ∀ part ∈ shown form index.indices,
          part.parts ⊆ (Expr.subscript pos value index).parts ∧
            sizeOf part < sizeOf (Expr.subscript pos value index) := by
        intro part member
        have held := shown_subset _ _ member
        have part_le := Expr.sizeOf_le_of_mem_indices held
        have smaller := Expr.subscript.sizeOf_spec pos value index
        exact ⟨Expr.parts_of_mem_indices held, by omega⟩
      apply (goAll inside).bind
      intro found found' rest
      exact .pure (first.append (.flatten rest))
    | binary pos op left right =>
      rw [Expr.unplaced, checkExpr, checkExpr]
      apply (go (Expr.parts_subset (by simp [Expr.parts])) (by simp +arith)).bind
      intro _ _ first
      apply (go (Expr.parts_subset (by simp [Expr.parts])) (by simp +arith)).bind
      intro _ _ second
      exact .pure (first.append second)
    | tuple pos items =>
      rw [Expr.unplaced, (checkExpr_items ..).1, (checkExpr_items ..).1, Expr.unplacedList_eq_map]
      apply (goAll (listed (List.subset_cons_self _ _) (by simp +arith))).bind
      intro _ _ found
      exact .pure (.flatten found)
    | list pos items =>
      rw [Expr.unplaced, (checkExpr_items ..).2, (checkExpr_items ..).2, Expr.unplacedList_eq_map]
      apply (goAll (listed (List.subset_cons_self _ _) (by simp +arith))).bind
      intro _ _ found
      exact .pure (.flatten found)
    | dict pos items =>
      rw [Expr.unplaced, checkExpr_dict, checkExpr_dict, Expr.map_value_unplacedItems]
      have inside : ∀ part ∈ items.map DictItem.value,
          part.parts ⊆ (Expr.dict pos items).parts ∧
            sizeOf part < sizeOf (Expr.dict pos items) := by
        intro part member
        obtain ⟨item, held, rfl⟩ := List.mem_map.mp member
        have smaller := List.sizeOf_lt_of_mem held
        have value := item.sizeOf_value_lt
        have whole := Expr.dict.sizeOf_spec pos items
        exact ⟨List.Subset.trans (Expr.parts_of_mem_items held) (List.subset_cons_self _ _),
          by omega⟩
      apply (goAll inside).bind
      intro _ _ found
      exact .pure (.flatten found)
    | _ =>
      rw [Expr.unplaced, checkExpr.eq_def, checkExpr.eq_def]
      exact .pure rfl

end

theorem checkHint_unplaced {limit limit' : Nat} (below : e.TextsBelow limit)
    (within : e.TextsBelow limit') (place place' : Option Position) :
    Lockstep SayAlike (P.checkHint file limit place e.unplaced)
      (P.checkHint file limit' place' e) := by
  induction limit using Nat.strongRecOn generalizing e limit' place place' with
  | ind limit ih =>
    rw [checkHint_eq, checkHint_eq]
    refine checkExpr_unplaced (fun pos pos' _ text marked inside => ?_) place place'
    have shorter := below _ _ _ inside
    unfold checkText
    rw [dif_pos shorter, dif_pos (within _ _ _ inside)]
    apply (Lockstep.self _).bind
    rintro found _ ⟨rfl, s, t, read⟩
    have quotes := (fixed_ofQuoted? text _ _ _ _ _ _ read read).2
    cases found with
    | none => exact .pure rfl
    | some inner =>
      have texts := (quotes inner rfl).textsBelow
      have one := (ih _ shorter texts texts (some pos) (some pos)).symm
      have other := ih _ shorter texts texts (some pos) (some pos')
      exact (one.trans other).mono fun _ _ ⟨_, first, second⟩ => first.symm.trans second

theorem checkHint_eq_of_unplaced {limit limit' : Nat} (same : part.unplaced = e.unplaced)
    (below : part.TextsBelow limit) (within : e.TextsBelow limit') (place place' : Option Position) :
    Lockstep SayAlike (P.checkHint file limit place part) (P.checkHint file limit' place' e) := by
  have texts := Expr.textsBelow_unplaced_iff.mp (same ▸ Expr.textsBelow_unplaced_iff.mpr below)
  have first : Lockstep SayAlike (P.checkHint file limit place part.unplaced)
      (P.checkHint file limit place part) := checkHint_unplaced below below place place
  have second : Lockstep SayAlike (P.checkHint file limit place e.unplaced) _ :=
    checkHint_unplaced texts within place place'
  rw [← same] at second
  exact (first.symm.trans second).mono fun _ _ ⟨_, one, other⟩ => one.symm.trans other

end Program

end HintSchema

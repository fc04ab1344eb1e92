import HintSchema.Proofs.Hints.Quoting

/-!
The functions on hints, case by case, without the memberships that their recursion is justified by.
-/

namespace HintSchema

theorem attach_mapM {m : Type → Type} [Monad m] [LawfulMonad m] {α β : Type} (items : List α)
    (f : α → m β) : (items.attach.mapM fun item => f item.1) = items.mapM f := by
  conv_rhs => rw [← List.attach_map_subtype_val items, List.mapM_map]
  rfl

namespace Program

variable {P : Program} {file : Path}

theorem resolveExpr_subscript (expand : AliasRef → List Handle → CheckM Handle)
    (quoted : CodeText → CheckM Handle) (scope : TypeVariables) (pos : Position)
    (value index : Expr) :
    P.resolveExpr expand quoted file scope (.subscript pos value index) = (do
      let found ← P.find file value
      P.handleOfBinding expand file scope found
        (index.indices.map fun argument =>
          ⟨argument, P.resolveExpr expand quoted file scope argument⟩)
        (.subscript pos value index)) := by
  rw [resolveExpr]
  refine bind_congr fun found => ?_
  refine congrArg (P.handleOfBinding expand file scope found · _) ?_
  conv_rhs => rw [← List.attach_map_subtype_val index.indices, List.map_map]
  rfl

/-- Whether a value is required inside the brackets of a form, if that is a qualifier. -/
def requiredInside? (qualname : String) (required : Bool) : Option Bool :=
  match qualname with
  | "typing.Required" => some true
  | "typing.NotRequired" => some false
  | "typing.ReadOnly" | "typing.Annotated" => some required
  | _ => none

theorem peelExpr_subscript (quoted : Bool → CodeText → CheckM (Option (Expr × Bool)))
    (required : Bool) (pos : Position) (value index : Expr) :
    P.peelExpr quoted file required (.subscript pos value index) = (do
      match ← P.find file value with
      | .special qualname =>
        match index.indices with
        | [] => throw .noArgument
        | first :: _ =>
          match requiredInside? qualname required with
          | some inside => P.peelExpr quoted file inside first
          | none => return (.subscript pos value index, required)
      | _ => return (.subscript pos value index, required)) := by
  rw [peelExpr]
  refine bind_congr fun found => ?_
  cases found with
  | special qualname =>
    dsimp only
    split
    · rename_i none
      rw [none]
    · rename_i first rest parts
      rw [parts]
      dsimp only
      split
      · rfl
      · rfl
      · rfl
      · rfl
      · have none : requiredInside? qualname required = none := by
          unfold requiredInside?
          split <;> first | contradiction | rfl
        rw [none]
  | _ => rfl

section

variable (quoted : Position → CodeText → CheckM (List Diagnostic)) (place : Option Position)

theorem checkExpr_subscript (pos : Position) (value index : Expr) :
    P.checkExpr quoted file place (.subscript pos value index) = (do
      let outer ← P.checkExpr quoted file place value
      let form ← P.find file value
      let inner ← (shown form index.indices).mapM (P.checkExpr quoted file place)
      return outer ++ inner.flatten) := by
  rw [checkExpr]
  refine bind_congr fun outer => bind_congr fun form => ?_
  conv_rhs => rw [← List.attach_map_subtype_val index.indices, shown_map, List.mapM_map]
  rfl

theorem checkExpr_items (pos : Position) (items : List Expr) :
    P.checkExpr quoted file place (.tuple pos items) =
        (do return (← items.mapM (P.checkExpr quoted file place)).flatten) ∧
      P.checkExpr quoted file place (.list pos items) =
        (do return (← items.mapM (P.checkExpr quoted file place)).flatten) := by
  rw [checkExpr, checkExpr, ← attach_mapM items]
  exact ⟨rfl, rfl⟩

theorem checkExpr_dict (pos : Position) (items : List DictItem) :
    P.checkExpr quoted file place (.dict pos items) =
      (do return (← (items.map DictItem.value).mapM (P.checkExpr quoted file place)).flatten) := by
  rw [checkExpr, List.mapM_map, ← attach_mapM items]
  rfl

end

end Program

end HintSchema

import HintSchema.Proofs.Hints.Applied
import HintSchema.Proofs.Hints.Unresolved

/-!
The resolution of a hint as the calls that it makes: for the hints inside it, and for the values of
the aliases that it mentions. A call carries the chain of aliases whose values are being resolved.
`resolveCall` is one call without any bound on those that it makes, and what hints come to is what it
makes of itself (`resolveUnder_eq_call`).
-/

namespace HintSchema

/-- A way to resolve a hint in a file, under a chain of aliases and a scope. -/
abbrev HintResolver := List NameKey → Path → TypeVariables → Expr → CheckM Handle

namespace Program

/-- The value of an alias is resolved with the alias at the end of the chain. -/
def expandCall (P : Program) (recur : HintResolver) (chain : List NameKey) (target : AliasRef)
    (arguments : List Handle) : CheckM Handle :=
  P.expandAlias (fun scope => recur (chain ++ [target.key]) target.key.file scope target.value)
    target arguments

def aliasCall (P : Program) (recur : HintResolver) (chain : List NameKey) (target : AliasRef)
    (arguments : List Handle) : CheckM Handle :=
  if target.key ∈ chain then return .deferred target arguments
  else P.expandCall recur chain target arguments

def referenceCall (P : Program) (recur : HintResolver) (chain : List NameKey) (file : Path)
    (scope : TypeVariables) (expr : Expr) : CheckM Handle := do
  let found ← P.find file expr.base
  P.handleOfBinding (P.aliasCall recur chain) file scope found
    (expr.bracketed.map fun argument => ⟨argument, recur chain file scope argument⟩) expr

/-- One call of the resolution; `recur` are the calls below it. -/
def resolveCall (P : Program) (recur : HintResolver) : HintResolver := fun chain file scope expr =>
  match expr with
  | .literal _ .none => return .none
  | .literal _ (.text text _) => do
    match ← Expr.ofQuoted? text with
    | some inner => recur chain file scope inner
    | none => return .unsupported (Text.Quoted.text text) none
  | .literal _ value => return .unsupported (← PrintFault.lift value.quoted) none
  | .binary _ .bitOr left right => do
    let first ← recur chain file scope left
    let second ← recur chain file scope right
    return .unionOf [first, second]
  | .name _ id =>
    match scope.lookup id with
    | some handle => return handle
    | none => P.referenceCall recur chain file scope expr
  | .member _ _ _ | .subscript _ _ _ => P.referenceCall recur chain file scope expr
  | other => do return .unsupported (← other.source) none

def unexpanded (P : Program) (chain : List NameKey) : List NameKey :=
  P.aliases.filter fun key => key ∉ chain

/-- The handle of a hint under a chain of aliases. -/
def resolveUnder (P : Program) : HintResolver := fun chain file scope expr =>
  P.resolveAmong (P.unexpanded chain) file scope expr

variable {P : Program} {chain other : List NameKey} {file : Path} {scope : TypeVariables}
  {expr part : Expr} {recur recur' : HintResolver}

theorem resolve_eq_under (P : Program) (file : Path) (scope : TypeVariables) (hint : Expr) :
    P.resolve file scope (some hint) = P.resolveUnder [] file scope hint := by
  unfold resolve resolveUnder unexpanded
  simp

theorem unexpanded_append (P : Program) (chain : List NameKey) (key : NameKey) :
    P.unexpanded (chain ++ [key]) = Pending.without (P.unexpanded chain) key := by
  unfold unexpanded Pending.without
  rw [List.filter_filter]
  refine List.filter_congr fun other _ => ?_
  simp [and_comm]

theorem mem_aliases_of_grounds {key : NameKey} {value : Expr}
    (grounds : P.Grounds (.alias key value)) : key ∈ P.aliases :=
  mem_aliases (mem_names_of_findSome? grounds)

theorem mem_unexpanded {key : NameKey} (known : key ∈ P.aliases) :
    key ∈ P.unexpanded chain ↔ key ∉ chain := by
  simp [unexpanded, known]

theorem length_unexpanded_lt {key : NameKey} (known : key ∈ P.aliases) (apart : key ∉ chain) :
    (P.unexpanded (chain ++ [key])).length < (P.unexpanded chain).length := by
  rw [unexpanded_append]
  exact Pending.length_without_lt ((mem_unexpanded known).mpr apart)

def expandAmong (P : Program) (pending : List NameKey) (target : AliasRef)
    (arguments : List Handle) : CheckM Handle :=
  if _open : target.key ∈ pending then
    P.expandAlias
      (fun scope => P.resolveAmong (Pending.without pending target.key) target.key.file scope
        target.value)
      target arguments
  else return .deferred target arguments

theorem resolveUnder_eq_quoting {limit : Nat} (below : expr.TextsBelow limit) :
    P.resolveUnder chain file scope expr =
      P.resolveQuoting (P.expandAmong (P.unexpanded chain)) limit file scope expr := by
  unfold resolveUnder
  rw [resolveAmong]
  exact resolveQuoting_limit expr.textsBelow_weight below

theorem expandAmong_eq_call {key : NameKey} {value : Expr}
    (grounds : P.Grounds (.alias key value)) (handles : List Handle) :
    P.expandAmong (P.unexpanded chain) ⟨key, value⟩ handles =
      P.aliasCall P.resolveUnder chain ⟨key, value⟩ handles := by
  have known : key ∈ P.unexpanded chain ↔ key ∉ chain :=
    mem_unexpanded (mem_aliases_of_grounds grounds)
  unfold expandAmong aliasCall expandCall resolveUnder
  dsimp only
  rw [unexpanded_append]
  by_cases expanding : key ∈ chain
  · rw [if_pos expanding, dif_neg fun left => known.mp left expanding]
  · rw [if_neg expanding, dif_pos (known.mpr expanding)]

/-- What hints come to is what a call makes of it. -/
theorem resolveUnder_eq_call (P : Program) (chain : List NameKey) (file : Path)
    (scope : TypeVariables) (expr : Expr) :
    P.resolveUnder chain file scope expr =
      P.resolveCall P.resolveUnder chain file scope expr := by
  have inside (part : Expr) (parts : part.parts ⊆ expr.parts) :
      P.resolveQuoting (P.expandAmong (P.unexpanded chain)) expr.weight file scope part =
        P.resolveUnder chain file scope part :=
    (resolveUnder_eq_quoting (expr.textsBelow_weight.of_parts parts)).symm
  have reference {value : Expr} (arguments : List HintArgument) :
      (P.find file value >>= fun found => P.handleOfBinding (P.expandAmong (P.unexpanded chain))
        file scope found arguments expr) =
      P.find file value >>= fun found => P.handleOfBinding (P.aliasCall P.resolveUnder chain)
        file scope found arguments expr := by
    refine find_bind_congr fun found looked => ?_
    refine handleOfBinding_congr (fun key value handles same => ?_) (.refl _ _) _
    exact expandAmong_eq_call (same ▸ grounds_lookupExpr looked) handles
  rw [resolveUnder_eq_quoting expr.textsBelow_weight]
  cases expr with
  | literal pos value =>
    rw [resolveQuoting, resolveExpr.eq_def]
    cases value with
    | text text marked =>
      have shorter := (Expr.literal pos (.text text marked)).textsBelow_weight _ _ _
        (Expr.mem_parts_self _)
      dsimp only
      rw [dif_pos shorter]
      refine ofQuoted?_bind_congr rfl fun inner quotes => ?_
      exact (resolveUnder_eq_quoting quotes.textsBelow).symm
    | _ => rfl
  | binary pos op left right =>
    cases op with
    | bitOr =>
      have first := inside left (Expr.parts_subset (by simp [Expr.parts]))
      have second := inside right (Expr.parts_subset (by simp [Expr.parts]))
      rw [resolveQuoting] at first second
      rw [resolveQuoting, resolveExpr, first, second]
      rfl
    | _ =>
      rw [resolveQuoting, resolveExpr.eq_def]
      rfl
  | name pos id =>
    rw [resolveQuoting, resolveExpr]
    unfold resolveCall
    dsimp only
    cases scope.lookup id with
    | some handle => rfl
    | none => exact reference []
  | member pos value attr =>
    rw [resolveQuoting, resolveExpr]
    exact reference []
  | subscript pos value index =>
    rw [resolveQuoting, resolveExpr_subscript, reference]
    unfold resolveCall referenceCall
    dsimp only
    refine bind_congr fun found => congrArg (P.handleOfBinding _ file scope found · _) ?_
    refine List.map_congr_left fun argument member => ?_
    have part := inside argument (Expr.parts_of_mem_indices member)
    rw [resolveQuoting] at part
    exact congrArg (HintArgument.mk argument) part
  | _ =>
    rw [resolveQuoting, resolveExpr.eq_def]
    rfl

theorem subhint_of_shown {found : Binding}
    (looked : (P.lookupExpr file expr.base).1 = .ok found)
    (member : part ∈ shown found expr.bracketed) : P.Subhint file expr part := by
  cases expr with
  | subscript => exact .argument looked member
  | _ =>
    unfold Expr.bracketed at member
    rw [shown_nil] at member
    cases member

/-- A call depends on the calls for the hints inside its own, and on what becomes of its alias. -/
theorem resolveCall_congr
    (inside : ∀ part, P.Subhint file expr part →
      recur chain file scope part = recur' other file scope part)
    (aliased : ∀ key value handles, (P.lookupExpr file expr.base).1 = .ok (.alias key value) →
      P.aliasCall recur chain ⟨key, value⟩ handles =
        P.aliasCall recur' other ⟨key, value⟩ handles) :
    P.resolveCall recur chain file scope expr = P.resolveCall recur' other file scope expr := by
  have reference : P.referenceCall recur chain file scope expr =
      P.referenceCall recur' other file scope expr := by
    refine find_bind_congr fun found looked => ?_
    refine handleOfBinding_congr
      (fun key value handles same => aliased key value handles (same ▸ looked)) ⟨?_, ?_⟩ _
    · rw [List.map_map, List.map_map]
      rfl
    · rw [shown_map, shown_map]
      exact List.map_congr_left fun argument member =>
        congrArg (HintArgument.mk argument) (inside _ (subhint_of_shown looked member))
  cases expr with
  | literal pos value =>
    cases value with
    | text text marked =>
      exact ofQuoted?_bind_congr rfl fun inner quotes => inside inner (.text quotes)
    | _ => rfl
  | binary pos op left right =>
    cases op with
    | bitOr =>
      unfold resolveCall
      dsimp only
      rw [inside left .left, inside right .right]
    | _ => rfl
  | name pos id =>
    unfold resolveCall
    dsimp only
    cases scope.lookup id with
    | some handle => rfl
    | none => exact reference
  | member | subscript => exact reference
  | _ => rfl

theorem resolveCall_of_stands {key : NameKey} {value : Expr}
    (stands : P.StandsFor file (Pairs.keys scope) expr (.alias key value)) :
    P.resolveCall recur chain file scope expr = (do
      let _ ← P.find file expr.base
      let arguments ← expr.bracketed.mapM (recur chain file scope)
      P.aliasCall recur chain ⟨key, value⟩ arguments) := by
  obtain ⟨free, looked⟩ := stands
  have reference : P.referenceCall recur chain file scope expr = (do
      let _ ← P.find file expr.base
      let arguments ← expr.bracketed.mapM (recur chain file scope)
      P.aliasCall recur chain ⟨key, value⟩ arguments) := by
    refine find_bind_congr fun found same => ?_
    cases looked.symm.trans same
    unfold handleOfBinding HintArgument.resolveAll
    dsimp only
    rw [List.mapM_map]
    rfl
  cases expr with
  | name pos id =>
    have unbound := Pairs.lookup_eq_none_iff.mpr (free pos id rfl)
    unfold resolveCall
    dsimp only
    rw [unbound]
    exact reference
  | member | subscript => exact reference
  | _ =>
    unfold Expr.base lookupExpr at looked
    dsimp only at looked
    obtain ⟨_, _, impossible⟩ := Except.map_eq_ok_iff.mp looked
    cases impossible

/-! ### Handles that a call makes -/

section

variable {I : Handle → Prop}

/-- What every way of forming a handle keeps holds of the handle of a form, if it does of those that
it shows. -/
theorem settles_handleOfSpecial_shown (shaping : Shaping I) {qualname : String}
    {arguments : List HintArgument}
    (each : ∀ argument ∈ shown (.special qualname) arguments, Settles P argument.resolve I) :
    Settles P (handleOfSpecial file qualname arguments expr) I := by
  have unsupported := settles_unsupported (P := P) shaping expr
  by_cases literal : qualname = "typing.Literal"
  · subst literal
    cases arguments <;> exact unsupported
  by_cases annotated : qualname = "typing.Annotated"
  · subst annotated
    cases arguments with
    | nil => exact unsupported
    | cons first _ => exact each first List.mem_cons_self
  rw [shown_special literal annotated] at each
  exact settles_handleOfSpecial shaping _ _ _ each

theorem settles_handleOfBinding_shown (shaping : Shaping I)
    {expand : AliasRef → List Handle → CheckM Handle} {found : Binding}
    {arguments : List HintArgument}
    (expanded : ∀ key value handles, found = .alias key value → (∀ h ∈ handles, I h) →
      Settles P (expand ⟨key, value⟩ handles) I)
    (known : ∀ v ∈ scope, I v.2)
    (each : ∀ argument ∈ shown found arguments, Settles P argument.resolve I) :
    Settles P (P.handleOfBinding expand file scope found arguments expr) I := by
  cases found with
  | special => exact settles_handleOfSpecial_shown shaping each
  | _ => exact settles_handleOfBinding shaping expanded known each

theorem settles_resolveCall (shaping : Shaping I) (known : ∀ v ∈ scope, I v.2)
    (inside : ∀ part, P.Subhint file expr part → Settles P (recur chain file scope part) I)
    (aliased : ∀ key value handles, (P.lookupExpr file expr.base).1 = .ok (.alias key value) →
      (∀ h ∈ handles, I h) → Settles P (P.aliasCall recur chain ⟨key, value⟩ handles) I) :
    Settles P (P.resolveCall recur chain file scope expr) I := by
  have reference : Settles P (P.referenceCall recur chain file scope expr) I := by
    refine (settles_find_looked P file expr.base).bind fun found looked => ?_
    refine settles_handleOfBinding_shown shaping (fun key value handles same formed => ?_) known ?_
    · exact aliased key value handles (same ▸ looked) formed
    · rw [shown_map]
      refine List.forall_mem_map.mpr fun argument member => ?_
      exact inside argument (subhint_of_shown looked member)
  cases expr with
  | literal pos literal =>
    cases literal with
    | none => exact .pure (shaping.intrinsic _ (by decide))
    | text text marked =>
      refine (Expr.settles_ofQuoted?_quotes P text).bind fun found quotes => ?_
      cases found with
      | none => exact .pure (shaping.unsupported _)
      | some inner => exact inside inner (.text ((quotes inner).mp rfl))
    | _ => exact (PrintFault.settles_lift P _).bind fun _ _ => .pure (shaping.unsupported _)
  | binary pos op left right =>
    cases op with
    | bitOr =>
      refine (inside left .left).bind fun first formed => ?_
      refine (inside right .right).bind fun second alsoFormed => ?_
      exact .pure (shaping.union _ (List.cons_ne_nil _ _) (List.forall_mem_cons.mpr
        ⟨formed, List.forall_mem_singleton.mpr alsoFormed⟩))
    | _ => exact settles_unsupported shaping _
  | name pos id =>
    unfold resolveCall
    dsimp only
    split
    · exact .pure (formed_of_lookup known ‹_›)
    · exact reference
  | member | subscript => exact reference
  | _ => exact settles_unsupported shaping _

end

end Program

end HintSchema

import HintSchema.Hints.Function
import HintSchema.Proofs.Hints.Record
import HintSchema.Proofs.Pairs

/-!
How handles are formed. What every way of forming a handle keeps holds of each handle that a hint
comes to, and if it holds of the handle that stands for a missing value, of each that a property or a
signature comes to.
-/

namespace HintSchema

/-- Every way of forming a handle from a hint keeps `I`, as long as no alias is deferred. No hint
says that a value is missing. -/
structure Shaping (I : Handle → Prop) : Prop where
  intrinsic : ∀ kind, kind ≠ .missing → I (.intrinsic kind)
  void : ∀ text, I (.void text)
  union : ∀ members, members ≠ [] → (∀ h ∈ members, I h) → I (.unionOf members)
  list : ∀ qualname ∈ SpecialForm.listForms, ∀ element, I element →
    I (.list (Expr.lastName qualname) element)
  awaitable : ∀ name arguments, (∀ h ∈ arguments, I h) → I (.awaitable name arguments)
  classObject : ∀ symbol arguments, (∀ h ∈ arguments, I h) → I (.classObject symbol arguments)
  record : ∀ symbol source arguments, (∀ h ∈ arguments, I h) →
    I (.record symbol source arguments none)
  renamed : ∀ symbol source arguments name, symbol.isAnonymous →
    I (.record symbol source arguments none) → I (.record symbol source arguments (some name))
  typeParameter : ∀ name, I (.typeParameter name)
  unsupported : ∀ text, I (.unsupported text none)

structure Formation (I : Handle → Prop) : Prop extends Shaping I where
  deferred : ∀ target arguments, (∀ h ∈ arguments, I h) → I (.deferred target arguments)

structure FieldFormation (I : Handle → Prop) : Prop extends Formation I where
  missing : I .missing

theorem Formation.any : Formation fun _ => True := by
  refine ⟨?_, fun _ _ _ => trivial⟩
  constructor <;> intros <;> trivial

theorem FieldFormation.any : FieldFormation fun _ => True := ⟨.any, trivial⟩

theorem FieldFormation.orMissing {I : Handle → Prop} (formation : FieldFormation I) {h : Handle}
    (formed : I h) : I (.unionOf [h, .missing]) :=
  formation.union _ (List.cons_ne_nil _ _) (List.forall_mem_cons.mpr
    ⟨formed, List.forall_mem_singleton.mpr formation.missing⟩)

theorem SpecialForm.scalar?_ne_missing {qualname : String} {kind : Intrinsic}
    (scalar : scalar? qualname = some kind) : kind ≠ .missing := by
  rintro rfl
  unfold scalar? at scalar
  split at scalar <;> cases scalar

namespace Program

variable {P : Program} {I : Handle → Prop} {file : Path} {scope : TypeVariables}

theorem formed_of_lookup {name : String} {handle : Handle} (known : ∀ v ∈ scope, I v.2)
    (found : scope.lookup name = some handle) : I handle := by
  obtain ⟨before, after, whole, _⟩ := List.lookup_eq_some_iff.mp found
  exact known (name, handle) (by simp [whole])

theorem settles_unsupported (shaping : Shaping I) (expr : Expr) :
    Settles P (do return .unsupported (← expr.source) none) I :=
  (expr.settles_source P).bind fun text _ => .pure (shaping.unsupported text)

theorem settles_handleOfSpecial (shaping : Shaping I) (qualname : String)
    (arguments : List HintArgument) (expr : Expr)
    (each : ∀ argument ∈ arguments, Settles P argument.resolve I) :
    Settles P (handleOfSpecial file qualname arguments expr) I := by
  have all : Settles P (HintArgument.resolveAll arguments) fun handles => ∀ h ∈ handles, I h :=
    .mapM each
  have unsupported := settles_unsupported (P := P) shaping expr
  unfold handleOfSpecial
  dsimp only
  split
  · rename_i scalar
    exact .pure (shaping.intrinsic _ (SpecialForm.scalar?_ne_missing scalar))
  split
  · rename_i form
    have form := List.contains_iff_mem.mp form
    split
    · rename_i first rest
      apply (each first List.mem_cons_self).bind
      intro element formed
      exact .pure (shaping.list _ form _ formed)
    · exact .pure (shaping.list _ form _ (shaping.intrinsic _ (by decide)))
  split
  · apply all.bind
    intro handles formed
    exact .pure (shaping.awaitable _ _ formed)
  split
  · exact .pure (shaping.void _)
  split
  · exact .pure (shaping.intrinsic _ (by decide))
  · split
    · rename_i last isLast
      apply (each last (List.mem_of_getLast? isLast)).bind
      intro result formed
      exact .pure (shaping.awaitable _ _ (List.forall_mem_singleton.mpr formed))
    · exact .pure (shaping.awaitable _ _ (List.forall_mem_nil _))
  · apply (each _ List.mem_cons_self).bind
    intro handle formed
    apply Settles.pure
    apply shaping.union _ (List.cons_ne_nil _ _)
    exact List.forall_mem_cons.mpr
      ⟨formed, List.forall_mem_singleton.mpr (shaping.intrinsic _ (by decide))⟩
  · apply (Settles.mapM_forall₂ each).bind
    intro handles formed
    apply Settles.pure
    apply shaping.union
    · rintro rfl
      cases formed
    · exact forall_mem_of_forall₂ formed
  · exact .pure (shaping.record _ _ _ (List.forall_mem_nil _))
  · split
    · exact each _ List.mem_cons_self
    · exact unsupported
  · exact unsupported

theorem settles_expandAlias (shaping : Shaping I)
    {resolveValue : TypeVariables → CheckM Handle} {target : AliasRef} {arguments : List Handle}
    (value : ∀ scope : TypeVariables, (∀ v ∈ scope, I v.2) → Settles P (resolveValue scope) I)
    (formed : ∀ h ∈ arguments, I h) :
    Settles P (P.expandAlias resolveValue target arguments) I := by
  unfold expandAlias
  apply (settles_typeVariables P _ _ _).bind
  intro free _
  apply (value (free.zip arguments) fun v member => formed v.2 (List.of_mem_zip member).2).bind
  intro handle expanded
  split
  · split
    · rename_i anonymous
      apply (Settles.mapM fun h _ => h.settles_display P).bind
      intro texts _
      exact .pure (shaping.renamed _ _ _ _ anonymous expanded)
    · exact .pure expanded
  · exact .pure expanded

theorem settles_variableName (P : Program) (expr : Expr) :
    Settles P (variableName expr) fun _ => True := by
  unfold variableName
  split
  · exact .pure trivial
  · exact expr.settles_source P

theorem settles_handleOfBinding (shaping : Shaping I)
    {expand : AliasRef → List Handle → CheckM Handle} {found : Binding}
    {arguments : List HintArgument} {expr : Expr}
    (expanded : ∀ key value handles, found = .alias key value → (∀ h ∈ handles, I h) →
      Settles P (expand ⟨key, value⟩ handles) I)
    (known : ∀ v ∈ scope, I v.2)
    (each : ∀ argument ∈ arguments, Settles P argument.resolve I) :
    Settles P (P.handleOfBinding expand file scope found arguments expr) I := by
  have all : Settles P (HintArgument.resolveAll arguments) fun handles => ∀ h ∈ handles, I h :=
    .mapM each
  have unsupported := settles_unsupported (P := P) shaping expr
  unfold handleOfBinding
  dsimp only
  split
  · exact settles_handleOfSpecial shaping _ _ _ each
  · apply (settles_recordOf P _ _).bind
    intro record _
    split
    · exact all.bind fun handles formed => .pure (shaping.record _ _ _ formed)
    · exact all.bind fun handles formed => .pure (shaping.classObject _ _ formed)
  · exact .pure (shaping.record _ _ _ (List.forall_mem_nil _))
  · exact all.bind fun handles formed => expanded _ _ _ rfl formed
  · apply Settles.pure
    rename_i name
    cases found : scope.lookup name with
    | none => exact shaping.typeParameter name
    | some handle => exact formed_of_lookup known found
  · apply (settles_variableName P expr).bind
    intro name _
    split
    · exact .pure (formed_of_lookup known ‹_›)
    · exact unsupported
  · exact unsupported

theorem settles_resolveExpr (formation : Formation I)
    {expand : AliasRef → List Handle → CheckM Handle} {quoted : CodeText → CheckM Handle}
    (expanded : ∀ target handles, (∀ h ∈ handles, I h) → Settles P (expand target handles) I)
    (read : ∀ text, Settles P (quoted text) I) (known : ∀ v ∈ scope, I v.2) (expr : Expr) :
    Settles P (P.resolveExpr expand quoted file scope expr) I := by
  generalize bound : sizeOf expr = limit
  induction limit using Nat.strongRecOn generalizing expr with
  | ind limit ih =>
    rw [resolveExpr.eq_def]
    split
    · exact .pure (formation.intrinsic _ (by decide))
    · exact read _
    · exact (PrintFault.settles_lift P _).bind fun _ _ => .pure (formation.unsupported _)
    · rename_i pos left right
      subst bound
      have smaller := Expr.binary.sizeOf_spec pos .bitOr left right
      apply (ih (sizeOf left) (by omega) left rfl).bind
      intro first formed
      apply (ih (sizeOf right) (by omega) right rfl).bind
      intro second alsoFormed
      apply Settles.pure
      apply formation.union _ (List.cons_ne_nil _ _)
      exact List.forall_mem_cons.mpr ⟨formed, List.forall_mem_singleton.mpr alsoFormed⟩
    · split
      · rename_i handle found
        exact .pure (formed_of_lookup known found)
      · apply (settles_find P _ _).bind
        intro found _
        exact settles_handleOfBinding formation.toShaping (fun _ _ _ _ => expanded _ _) known
          (List.forall_mem_nil _)
    · apply (settles_find P _ _).bind
      intro found _
      exact settles_handleOfBinding formation.toShaping (fun _ _ _ _ => expanded _ _) known
        (List.forall_mem_nil _)
    · rename_i pos value index
      apply (settles_find P _ _).bind
      intro found _
      apply settles_handleOfBinding formation.toShaping (fun _ _ _ _ => expanded _ _) known
      intro argument member
      obtain ⟨⟨part, inside⟩, _, rfl⟩ := List.mem_map.mp member
      subst bound
      have part_le := Expr.sizeOf_le_of_mem_indices inside
      have smaller := Expr.subscript.sizeOf_spec pos value index
      exact ih (sizeOf part) (by omega) part rfl
    · exact settles_unsupported formation.toShaping _

theorem settles_resolveQuoting (formation : Formation I)
    {expand : AliasRef → List Handle → CheckM Handle} (limit : Nat)
    (expanded : ∀ target handles, (∀ h ∈ handles, I h) → Settles P (expand target handles) I)
    (known : ∀ v ∈ scope, I v.2) (expr : Expr) :
    Settles P (P.resolveQuoting expand limit file scope expr) I := by
  induction limit using Nat.strongRecOn generalizing expr with
  | ind limit ih =>
    rw [resolveQuoting]
    refine settles_resolveExpr formation expanded ?_ known expr
    intro text
    split
    · rename_i shorter
      apply (Expr.settles_ofQuoted? P text).bind
      intro inner _
      split
      · exact ih _ shorter _
      · exact .pure (formation.unsupported _)
    · exact .pure (formation.unsupported _)

theorem settles_resolveAmong (formation : Formation I) (pending : List NameKey)
    (known : ∀ v ∈ scope, I v.2) (expr : Expr) :
    Settles P (P.resolveAmong pending file scope expr) I := by
  generalize bound : pending.length = limit
  induction limit using Nat.strongRecOn generalizing pending file scope expr with
  | ind limit ih =>
    rw [resolveAmong]
    apply settles_resolveQuoting formation _ ?_ known
    intro target handles formed
    split
    · rename_i present
      subst bound
      apply settles_expandAlias formation.toShaping _ formed
      intro scope known
      exact ih _ (Pending.length_without_lt present) _ known _ rfl
    · exact .pure (formation.deferred _ _ formed)

theorem settles_resolve (formation : Formation I) (file : Path) (known : ∀ v ∈ scope, I v.2)
    (hint : Option Expr) : Settles P (P.resolve file scope hint) I := by
  unfold resolve
  split
  · exact settles_resolveAmong formation _ known _
  · exact .pure (formation.intrinsic _ (by decide))

theorem settles_apparent (formation : Formation I) {handle : Handle} (formed : I handle)
    (parts : ∀ h ∈ handle.arguments, I h) : Settles P (P.apparent handle) I := by
  unfold apparent
  split
  · exact settles_expandAlias formation.toShaping
      (fun scope known => settles_resolveAmong formation _ known _) parts
  · exact .pure formed

theorem settles_isIgnoredForm (P : Program) (file : Path) (target : Expr) :
    Settles P (P.isIgnoredForm file target) fun _ => True := by
  unfold isIgnoredForm
  split
  · apply (settles_find P _ _).bind
    intro found _
    split <;> exact .pure trivial
  · apply (settles_find P _ _).bind
    intro found _
    split <;> exact .pure trivial
  · exact .pure trivial

theorem settles_isIgnoredField (P : Program) (file : Path) (hint : Expr) :
    Settles P (P.isIgnoredField file hint) fun _ => True := by
  unfold isIgnoredField
  split
  · apply (Expr.settles_ofQuoted? P _).bind
    intro inner _
    split
    · exact settles_isIgnoredForm P file _
    · exact .pure trivial
  · exact settles_isIgnoredForm P file _

theorem settles_peelExpr {quoted : Bool → CodeText → CheckM (Option (Expr × Bool))}
    (read : ∀ required text, Settles P (quoted required text) fun _ => True) (required : Bool)
    (hint : Expr) : Settles P (P.peelExpr quoted file required hint) fun _ => True := by
  generalize bound : sizeOf hint = limit
  induction limit using Nat.strongRecOn generalizing hint required with
  | ind limit ih =>
    rw [peelExpr.eq_def]
    split
    · apply (read _ _).bind
      intro peeled _
      split <;> exact .pure trivial
    · rename_i pos value index
      apply (settles_find P _ _).bind
      intro found _
      split
      · split
        · exact .throw
        · rename_i first rest parts
          have part_le := @Expr.sizeOf_le_of_mem_indices index first (by simp [parts])
          have smaller := Expr.subscript.sizeOf_spec pos value index
          subst bound
          split
          all_goals first
            | exact ih (sizeOf first) (by omega) _ first rfl
            | exact .pure trivial
      · exact .pure trivial
    · exact .pure trivial

theorem settles_peel (P : Program) (file : Path) (limit : Nat) (required : Bool) (hint : Expr) :
    Settles P (P.peel file limit required hint) fun _ => True := by
  induction limit using Nat.strongRecOn generalizing required hint with
  | ind limit ih =>
    rw [peel]
    apply settles_peelExpr
    intro required text
    split
    · rename_i shorter
      apply (Expr.settles_ofQuoted? P text).bind
      intro inner _
      split
      · exact (ih _ shorter _ _).map
      · exact .pure trivial
    · exact .pure trivial

theorem settles_fieldHandle (formation : FieldFormation I) (source : RecordSource)
    (known : ∀ v ∈ scope, I v.2) (hint : Expr) :
    Settles P (P.fieldHandle source scope hint) I := by
  unfold fieldHandle
  split
  · apply (settles_peel P _ _ _ _).bind
    intro peeled _
    apply (settles_resolve formation.toFormation _ known _).bind
    intro handle formed
    apply Settles.pure
    split
    · exact formed
    · exact formation.orMissing formed
  · exact settles_resolve formation.toFormation _ known _

theorem settles_dictFields (formation : FieldFormation I) (source : RecordSource)
    (known : ∀ v ∈ scope, I v.2) (items : List DictItem) :
    Settles P (P.dictFields source scope items) fun members => ∀ m ∈ members, I m.2 := by
  unfold dictFields
  apply Settles.foldlM (List.forall_mem_nil _)
  intro item _ members formed
  split
  · apply (settles_fieldHandle formation source known _).bind
    intro handle alsoFormed
    exact .pure (Pairs.forall_mem_put formed alsoFormed)
  · exact .pure formed

theorem settles_ownFields (formation : FieldFormation I) (source : RecordSource)
    (known : ∀ v ∈ scope, I v.2) {inherited : Properties} (formed : ∀ m ∈ inherited, I m.2)
    (statements : List Statement) :
    Settles P (P.ownFields source scope inherited statements) fun members =>
      ∀ m ∈ members, I m.2 := by
  unfold ownFields
  apply Settles.foldlM formed
  intro statement _ members formed
  split
  · apply (settles_isIgnoredField P _ _).bind
    intro ignored _
    split
    · exact .pure formed
    · apply (settles_fieldHandle formation source known _).bind
      intro handle alsoFormed
      exact .pure (Pairs.forall_mem_put formed alsoFormed)
  · exact .pure formed

theorem settles_baseArguments (formation : Formation I) (known : ∀ v ∈ scope, I v.2)
    (base : Expr) :
    Settles P (P.baseArguments file scope base) fun arguments => ∀ h ∈ arguments, I h := by
  unfold baseArguments
  split
  · exact .mapM fun hint _ => settles_resolve formation _ known _
  · exact .pure (List.forall_mem_nil _)

theorem settles_afterParent (formation : FieldFormation I)
    {recur : List ClassKey → RecordSource → List Handle → CheckM (Properties × List ClassKey)}
    (visited : ∀ seen source arguments, (∀ h ∈ arguments, I h) →
      Settles P (recur seen source arguments) fun result => ∀ m ∈ result.1, I m.2)
    (known : ∀ v ∈ scope, I v.2) {state : Properties × List ClassKey}
    (formed : ∀ m ∈ state.1, I m.2) (base : Expr) :
    Settles P (P.afterParent recur file scope state base) fun result =>
      ∀ m ∈ result.1, I m.2 := by
  unfold afterParent
  dsimp only
  apply (settles_find P _ _).bind
  intro found _
  split
  · apply (settles_recordOf P _ _).bind
    intro record _
    split
    · exact .pure formed
    · rename_i record
      split
      · exact .pure formed
      · apply (settles_baseArguments formation.toFormation known base).bind
        intro arguments parts
        apply (visited _ _ _ parts).bind
        intro result others
        exact .pure (Pairs.forall_mem_putAll formed others)
  · exact .pure formed

theorem settles_propertiesAmong (formation : FieldFormation I) (pending seen : List ClassKey)
    (source : RecordSource) (arguments : List Handle) (parts : ∀ h ∈ arguments, I h) :
    Settles P (P.propertiesAmong pending seen source arguments) fun result =>
      ∀ m ∈ result.1, I m.2 := by
  generalize bound : pending.length = limit
  induction limit using Nat.strongRecOn generalizing pending seen source arguments with
  | ind limit ih =>
    have known : ∀ v ∈ source.typeParameters.zip arguments, I v.2 :=
      fun v member => parts v.2 (List.of_mem_zip member).2
    rw [propertiesAmong]
    dsimp only
    split
    · apply (settles_dictFields formation source known _).bind
      intro members formed
      exact .pure formed
    · exact .pure (List.forall_mem_nil _)
    · split
      · rename_i present
        subst bound
        apply Settles.bind
        · apply Settles.foldlM (R := fun state => ∀ m ∈ state.1, I m.2) (List.forall_mem_nil _)
          intro base _ state formed
          apply settles_afterParent formation _ known formed
          intro seen source arguments parts
          exact ih _ (Pending.length_without_lt present) _ _ _ _ parts rfl
        · intro state formed
          apply (settles_ownFields formation source known formed _).bind
          intro members formed
          exact .pure formed
      · exact .pure (List.forall_mem_nil _)

theorem settles_propertiesOf (formation : FieldFormation I) (source : RecordSource)
    {arguments : List Handle} (parts : ∀ h ∈ arguments, I h) :
    Settles P (P.propertiesOf source arguments) fun members => ∀ m ∈ members, I m.2 := by
  unfold propertiesOf
  apply (settles_propertiesAmong formation _ _ source arguments parts).bind
  intro result formed
  exact .pure formed

theorem settles_typedParameter (formation : FieldFormation I) (file : Path) (parameter : Parameter) :
    Settles P (P.typedParameter file parameter) fun p => I p.handle := by
  unfold typedParameter
  apply (settles_resolve formation.toFormation file (List.forall_mem_nil _) parameter.hint).bind
  intro handle formed
  apply Settles.pure
  dsimp only
  split
  · exact formation.orMissing formed
  · exact formed

theorem settles_resultHandle (formation : Formation I) (file : Path) (hint : Option Expr) :
    Settles P (P.resultHandle file hint) I := by
  unfold resultHandle
  split
  · exact .pure (formation.void _)
  · split
    · exact .pure (formation.void _)
    · exact settles_resolve formation file (List.forall_mem_nil _) _
  · exact settles_resolve formation file (List.forall_mem_nil _) _

theorem settles_signature (formation : FieldFormation I) (f : Function) :
    Settles P (P.signature f) fun s => (∀ p ∈ s.parameters, I p.handle) ∧ I s.result := by
  unfold signature
  apply (Settles.mapM fun p _ => settles_typedParameter formation f.file p).bind
  intro parameters formed
  apply (settles_resultHandle formation.toFormation f.file _).bind
  intro result alsoFormed
  apply Settles.pure
  refine ⟨formed, ?_⟩
  dsimp only
  split
  · exact formation.awaitable _ _ (List.forall_mem_singleton.mpr alsoFormed)
  · exact alsoFormed

end Program

end HintSchema

import HintSchema.Hints.Function
import HintSchema.Proofs.Hints.Inheritance

/-!
What a checker that knows of no class answers. Unless classes inherit from themselves, no question
about hints is answered in another way later on.
-/

namespace HintSchema

def Answers {α : Type} (question : CheckM α) (a : α) : Prop :=
  ∃ d, Returns question {} a d

theorem Answers.unique {α : Type} {question : CheckM α} {a b : α} (answers : Answers question a)
    (again : Answers question b) : a = b := by
  obtain ⟨_, answered⟩ := answers
  obtain ⟨_, answered'⟩ := again
  exact (answered.unique answered').1

namespace Program

/-- In all states of the kind a class counts as the same, and open files do not matter. -/
structure Steadied (P : Program) (I : CheckState → Prop) : Prop where
  files : IgnoresFiles I
  classes : ∀ home definition, P.Grounds (.classDef home definition) →
    Uniform I (P.recordOf home definition)

section

variable {P : Program} {I : CheckState → Prop} {file : Path} {scope : TypeVariables}

theorem uniform_lift {α : Type} (written : Except PrintFault α) :
    Uniform I (PrintFault.lift written) := by
  cases written with
  | ok => exact .pure _
  | error => exact .throw _

theorem uniform_display (h : Handle) : Uniform I h.display := uniform_lift _

theorem uniform_source (e : Expr) : Uniform I e.source := uniform_lift _

theorem uniform_ofQuoted? (text : CodeText) : Uniform I (Expr.ofQuoted? text) := by
  unfold Expr.ofQuoted?
  split
  · exact .throw _
  · dsimp only
    split
    · exact .throw _
    · exact .pure _

theorem uniform_unsupported (expr : Expr) :
    Uniform I (do return .unsupported (← expr.source) none : CheckM Handle) :=
  (uniform_source expr).bind fun _ => .pure _

theorem uniform_variableName (expr : Expr) : Uniform I (variableName expr) := by
  unfold variableName
  split
  · exact .pure _
  · exact uniform_source expr

theorem uniform_handleOfSpecial {qualname : String} {arguments : List HintArgument} {expr : Expr}
    (each : ∀ argument ∈ arguments, Uniform I argument.resolve) :
    Uniform I (handleOfSpecial file qualname arguments expr) := by
  have all : Uniform I (HintArgument.resolveAll arguments) := .mapM each
  unfold handleOfSpecial
  dsimp only
  split
  · exact .pure _
  split
  · split
    · exact (each _ List.mem_cons_self).bind fun _ => .pure _
    · exact .pure _
  split
  · exact all.bind fun _ => .pure _
  split
  · exact .pure _
  split
  · exact .pure _
  · split
    · rename_i last isLast
      exact (each last (List.mem_of_getLast? isLast)).bind fun _ => .pure _
    · exact .pure _
  · exact (each _ List.mem_cons_self).bind fun _ => .pure _
  · exact all.bind fun _ => .pure _
  · exact .pure _
  · split
    · exact each _ List.mem_cons_self
    · exact uniform_unsupported expr
  · exact uniform_unsupported expr

variable (steadied : P.Steadied I)

include steadied

theorem uniform_find_bind {β : Type} (expr : Expr) {next : Binding → CheckM β}
    (later : ∀ found, (P.lookupExpr file expr).1 = .ok found → Uniform I (next found)) :
    Uniform I (P.find file expr >>= next) :=
  mirrors_find_bind steadied.files steadied.files file expr later

theorem uniform_expandAlias {resolveValue : TypeVariables → CheckM Handle}
    (value : ∀ scope, Uniform I (resolveValue scope)) (target : AliasRef)
    (arguments : List Handle) : Uniform I (P.expandAlias resolveValue target arguments) := by
  unfold expandAlias
  apply (mirrors_typeVariables steadied.files steadied.files _ _ _).bind
  intro free
  apply (value _).bind
  intro handle
  split
  · split
    · exact (Mirrors.mapM fun h _ => uniform_display h).bind fun _ => .pure _
    · exact .pure _
  · exact .pure _

theorem uniform_handleOfBinding {expand : AliasRef → List Handle → CheckM Handle}
    {found : Binding} {arguments : List HintArgument} {expr : Expr} (grounds : P.Grounds found)
    (expanded : ∀ target handles, Uniform I (expand target handles))
    (each : ∀ argument ∈ arguments, Uniform I argument.resolve) :
    Uniform I (P.handleOfBinding expand file scope found arguments expr) := by
  have all : Uniform I (HintArgument.resolveAll arguments) := .mapM each
  unfold handleOfBinding
  dsimp only
  split
  · exact uniform_handleOfSpecial each
  · rename_i home definition
    apply (steadied.classes home definition grounds).bind
    intro record
    split
    · exact all.bind fun _ => .pure _
    · exact all.bind fun _ => .pure _
  · exact .pure _
  · exact all.bind fun _ => expanded _ _
  · exact .pure _
  · apply (uniform_variableName expr).bind
    intro name
    split
    · exact .pure _
    · exact uniform_unsupported expr
  · exact uniform_unsupported expr

theorem uniform_resolveExpr {expand : AliasRef → List Handle → CheckM Handle}
    {quoted : CodeText → CheckM Handle}
    (expanded : ∀ target handles, Uniform I (expand target handles))
    (read : ∀ text, Uniform I (quoted text)) (expr : Expr) :
    Uniform I (P.resolveExpr expand quoted file scope expr) := by
  generalize bound : sizeOf expr = limit
  induction limit using Nat.strongRecOn generalizing expr with
  | ind limit ih =>
    rw [resolveExpr.eq_def]
    split
    · exact .pure _
    · exact read _
    · exact (uniform_lift _).bind fun _ => .pure _
    · rename_i pos left right
      have whole := Expr.binary.sizeOf_spec pos .bitOr left right
      apply (ih (sizeOf left) (by omega) left rfl).bind
      intro first
      exact (ih (sizeOf right) (by omega) right rfl).bind fun _ => .pure _
    · split
      · exact .pure _
      · apply uniform_find_bind steadied
        intro found looked
        exact uniform_handleOfBinding steadied (grounds_lookupExpr looked) expanded
          (List.forall_mem_nil _)
    · apply uniform_find_bind steadied
      intro found looked
      exact uniform_handleOfBinding steadied (grounds_lookupExpr looked) expanded
        (List.forall_mem_nil _)
    · rename_i pos value index
      apply uniform_find_bind steadied
      intro found looked
      apply uniform_handleOfBinding steadied (grounds_lookupExpr looked) expanded
      intro argument member
      obtain ⟨⟨e, inside⟩, _, rfl⟩ := List.mem_map.mp member
      have part := Expr.sizeOf_le_of_mem_indices inside
      have whole := Expr.subscript.sizeOf_spec pos value index
      exact ih (sizeOf e) (by omega) e rfl
    · exact uniform_unsupported _

theorem uniform_resolveQuoting {expand : AliasRef → List Handle → CheckM Handle}
    (expanded : ∀ target handles, Uniform I (expand target handles)) (limit : Nat) (expr : Expr) :
    Uniform I (P.resolveQuoting expand limit file scope expr) := by
  induction limit using Nat.strongRecOn generalizing expr with
  | ind limit ih =>
    rw [resolveQuoting]
    apply uniform_resolveExpr steadied expanded
    intro text
    split
    · rename_i shorter
      apply (uniform_ofQuoted? text).bind
      intro inner
      split
      · exact ih _ shorter _
      · exact .pure _
    · exact .pure _

theorem uniform_resolveAmong (pending : List NameKey) (file : Path) (scope : TypeVariables)
    (expr : Expr) : Uniform I (P.resolveAmong pending file scope expr) := by
  generalize bound : pending.length = limit
  induction limit using Nat.strongRecOn generalizing pending file scope expr with
  | ind limit ih =>
    rw [resolveAmong]
    apply uniform_resolveQuoting steadied
    intro target handles
    split
    · rename_i present
      apply uniform_expandAlias steadied
      intro scope
      subst bound
      exact ih _ (Pending.length_without_lt present) _ _ _ _ rfl
    · exact .pure _

theorem uniform_resolve (file : Path) (scope : TypeVariables) (hint : Option Expr) :
    Uniform I (P.resolve file scope hint) := by
  cases hint with
  | none => exact .pure _
  | some hint => exact uniform_resolveAmong steadied P.aliases file scope hint

theorem uniform_apparent (handle : Handle) : Uniform I (P.apparent handle) := by
  unfold apparent
  split
  · exact uniform_expandAlias steadied (fun _ => uniform_resolveAmong steadied _ _ _ _) _ _
  · exact .pure _

theorem uniform_isIgnoredForm (target : Expr) : Uniform I (P.isIgnoredForm file target) := by
  unfold isIgnoredForm
  split
  · apply uniform_find_bind steadied
    intro found _
    split <;> exact .pure _
  · apply uniform_find_bind steadied
    intro found _
    split <;> exact .pure _
  · exact .pure _

theorem uniform_isIgnoredField (hint : Expr) : Uniform I (P.isIgnoredField file hint) := by
  unfold isIgnoredField
  split
  · apply (uniform_ofQuoted? _).bind
    intro inner
    split
    · exact uniform_isIgnoredForm steadied _
    · exact .pure _
  · exact uniform_isIgnoredForm steadied _

theorem uniform_peelExpr {quoted : Bool → CodeText → CheckM (Option (Expr × Bool))}
    (read : ∀ required text, Uniform I (quoted required text)) (required : Bool) (hint : Expr) :
    Uniform I (P.peelExpr quoted file required hint) := by
  generalize bound : sizeOf hint = limit
  induction limit using Nat.strongRecOn generalizing hint required with
  | ind limit ih =>
    rw [peelExpr.eq_def]
    split
    · apply (read _ _).bind
      intro found
      split <;> exact .pure _
    · rename_i pos value index
      apply uniform_find_bind steadied
      intro found _
      split
      · split
        · exact .throw _
        · rename_i first rest parts
          have part := @Expr.sizeOf_le_of_mem_indices index first (by simp [parts])
          have whole := Expr.subscript.sizeOf_spec pos value index
          split
          · exact ih (sizeOf first) (by omega) true first rfl
          · exact ih (sizeOf first) (by omega) false first rfl
          · exact ih (sizeOf first) (by omega) required first rfl
          · exact ih (sizeOf first) (by omega) required first rfl
          · exact .pure _
      · exact .pure _
    · exact .pure _

theorem uniform_peel (limit : Nat) (required : Bool) (hint : Expr) :
    Uniform I (P.peel file limit required hint) := by
  induction limit using Nat.strongRecOn generalizing required hint with
  | ind limit ih =>
    rw [peel]
    apply uniform_peelExpr steadied
    intro required text
    split
    · rename_i shorter
      apply (uniform_ofQuoted? text).bind
      intro inner
      split
      · exact .map _ (ih _ shorter required _)
      · exact .pure _
    · exact .pure _

theorem uniform_fieldHandle (source : RecordSource) (scope : TypeVariables) (hint : Expr) :
    Uniform I (P.fieldHandle source scope hint) := by
  unfold fieldHandle
  split
  · apply (uniform_peel steadied _ _ _).bind
    intro peeled
    exact (uniform_resolve steadied _ _ _).bind fun _ => .pure _
  · exact uniform_resolve steadied _ _ _

theorem uniform_dictFields (source : RecordSource) (scope : TypeVariables)
    (items : List DictItem) : Uniform I (P.dictFields source scope items) := by
  unfold dictFields
  apply Mirrors.foldlM
  intro item _ properties
  split
  · exact (uniform_fieldHandle steadied _ _ _).bind fun _ => .pure _
  · exact .pure _

theorem uniform_ownFields (source : RecordSource) (scope : TypeVariables) (inherited : Properties)
    (body : List Statement) : Uniform I (P.ownFields source scope inherited body) := by
  unfold ownFields
  apply Mirrors.foldlM
  intro statement _ properties
  split
  · apply (uniform_isIgnoredField steadied _).bind
    intro ignored
    split
    · exact .pure _
    · exact (uniform_fieldHandle steadied _ _ _).bind fun _ => .pure _
  · exact .pure _

theorem uniform_baseArguments (base : Expr) : Uniform I (P.baseArguments file scope base) := by
  unfold baseArguments
  split
  · exact .mapM fun hint _ => uniform_resolve steadied _ _ _
  · exact .pure _

theorem uniform_propertiesAmong (pending seen : List ClassKey) (source : RecordSource)
    (arguments : List Handle) : Uniform I (P.propertiesAmong pending seen source arguments) := by
  generalize bound : pending.length = limit
  induction limit using Nat.strongRecOn generalizing pending seen source arguments with
  | ind limit ih =>
    rw [propertiesAmong]
    dsimp only
    split
    · exact (uniform_dictFields steadied _ _ _).bind fun _ => .pure _
    · exact .pure _
    · split
      · rename_i present
        apply Mirrors.bind
        · apply Mirrors.foldlM
          intro base _ state
          unfold afterParent
          dsimp only
          apply uniform_find_bind steadied
          intro found looked
          split
          · apply (steadied.classes _ _ (grounds_lookupExpr looked)).bind
            intro record
            split
            · exact .pure _
            · split
              · exact .pure _
              · apply (uniform_baseArguments steadied base).bind
                intro handles
                subst bound
                apply (ih _ (Pending.length_without_lt present) _ _ _ _ rfl).bind
                intro visited
                exact .pure _
          · exact .pure _
        · intro state
          exact (uniform_ownFields steadied _ _ _ _).bind fun _ => .pure _
      · exact .pure _

theorem uniform_propertiesOf (source : RecordSource) (arguments : List Handle) :
    Uniform I (P.propertiesOf source arguments) :=
  (uniform_propertiesAmong steadied _ _ source arguments).bind fun _ => .pure _

theorem uniform_resultHandle (file : Path) (returns : Option Expr) :
    Uniform I (P.resultHandle file returns) := by
  unfold resultHandle
  split
  · exact .pure _
  · split
    · exact .pure _
    · exact uniform_resolve steadied _ _ _
  · exact uniform_resolve steadied _ _ _

theorem uniform_signature (f : Function) : Uniform I (P.signature f) := by
  unfold signature
  apply Mirrors.bind
  · apply Mirrors.mapM
    intro parameter _
    unfold typedParameter
    exact (uniform_resolve steadied _ _ _).bind fun _ => .pure _
  · intro parameters
    exact (uniform_resultHandle steadied _ _).bind fun _ => .pure _

end

section

variable {P : Program} {α : Type} {question : CheckM α} {a : α} {c d : CheckState}

theorem steadied_consistent (acyclic : P.Acyclic) (placed : P.Placed) :
    P.Steadied (P.Consistent []) :=
  ⟨ignoresFiles_consistent P [], fun _ _ bound => uniform_recordOf acyclic placed bound⟩

theorem answers_of_returns (uniform : Uniform (P.Consistent []) question)
    (consistent : P.Consistent [] c) (returned : Returns question c a d) :
    Answers question a ∧ P.Consistent [] d := by
  obtain ⟨kept, e, answered, _⟩ :=
    uniform c {} consistent (consistent_of_blank rfl) a d returned
  exact ⟨⟨e, answered⟩, kept⟩

theorem returns_of_answers (uniform : Uniform (P.Consistent []) question)
    (consistent : P.Consistent [] c) (answers : Answers question a) :
    ∃ d, Returns question c a d := by
  obtain ⟨e, answered⟩ := answers
  obtain ⟨_, d, returned, _⟩ := uniform {} c (consistent_of_blank rfl) consistent a e answered
  exact ⟨d, returned⟩

end

end Program

end HintSchema

import HintSchema.Proofs.Hints.Resolution

/-!
Properties that are read off alike. A relation that every way of forming a handle at the hints of a
record keeps holds of its properties under related arguments (`RecordCongruence.propertiesOf`). So
records of one identity have properties of one identity (`agree_propertiesOf`).
-/

namespace HintSchema

variable {P : Program} {z : CheckState}

namespace RecordSource

/-- The hint of a field that the record has of its own. -/
inductive Field (P : Program) (source : RecordSource) : Expr → Prop
  | item {pos place : Position} {items : List DictItem} {key : CodeText} {marked : Bool}
      {hint : Expr} (fields : source.fields = .ofDict (.dict pos items))
      (member : .pair (.literal place (.text key marked)) hint ∈ items) : Field P source hint
  | declared {definition : ClassDef Statement} {pos : Position} {id : String} {hint : Expr}
      {value : Option Expr} {bare : Bool} {c d : CheckState}
      (fields : source.fields = .ofClass definition)
      (member : .declare (.name pos id) hint value bare ∈ definition.body)
      (kept : Returns (P.isIgnoredField source.file hint) c false d) : Field P source hint

/-- The record is a base of the class from which the first one is read. -/
inductive Base (P : Program) (z : CheckState) (source : RecordSource) : Expr → RecordSource → Prop
  | mk {definition : ClassDef Statement} {base : Expr} {home : Path} {parent : ClassDef Statement}
      {record : RecordSource} (fields : source.fields = .ofClass definition)
      (member : base ∈ definition.bases)
      (looked : (P.lookupExpr source.file base.base).1 = .ok (.classDef home parent))
      (known : z.records.lookup ⟨home, parent.pos⟩ = some (some record)) :
      Base P z source base record

/-- The fields of the record are written in its file. -/
def Written (P : Program) (source : RecordSource) : Prop :=
  match source.fields with
  | .ofClass definition => (Statement.classDef definition).nodes ⊆ (P.source source.file).nodes
  | .ofDict fields => fields.parts.map .expr ⊆ (P.source source.file).nodes

variable {source : RecordSource}

theorem written_of_known (placed : P.Placed) (genuine : z.Genuine P) {key : ClassKey}
    (known : z.records.lookup key = some (some source)) : source.Written P := by
  obtain ⟨name, definition, bound, _, file, fields⟩ := genuine key source known
  unfold Written
  rw [fields, file]
  exact placed.written bound

theorem Written.of_dict (written : source.Written P) {fields : Expr}
    (read : source.fields = .ofDict fields) :
    fields.parts.map .expr ⊆ (P.source source.file).nodes := by
  unfold Written at written
  rwa [read] at written

theorem Written.of_class (written : source.Written P) {definition : ClassDef Statement}
    (read : source.fields = .ofClass definition) :
    (Statement.classDef definition).nodes ⊆ (P.source source.file).nodes := by
  unfold Written at written
  rwa [read] at written

theorem Field.fits (clean : P.NoQuotedRecord) (written : source.Written P) {hint : Expr}
    (field : source.Field P hint) : P.Fits source.file hint := by
  refine Program.fits_of_nodes clean ?_
  cases field with
  | item fields member =>
    have held := written.of_dict fields
    rw [Expr.parts] at held
    exact List.Subset.trans (List.map_subset _ (List.Subset.trans (Expr.parts_of_mem_items member)
      (List.subset_cons_self _ _))) held
  | @declared definition pos id hint value bare _ _ fields member _ =>
    have body := List.Subset.trans (Statement.body_subset definition) (written.of_class fields)
    have inside : (Statement.declare (.name pos id) hint value bare).nodes ⊆ _ :=
      List.Subset.trans (Statement.nodes_of_mem member) body
    refine List.Subset.trans (List.map_subset _ ?_) inside
    exact List.Subset.trans (List.subset_append_right _ _) (List.subset_append_left _ _)

theorem Base.fits (clean : P.NoQuotedRecord) (written : source.Written P) {base : Expr}
    {record : RecordSource} (above : source.Base P z base record) : P.Fits source.file base := by
  obtain ⟨fields, member, _, _⟩ := above
  have bases := List.Subset.trans (Statement.bases_subset _) (written.of_class fields)
  exact Program.fits_of_nodes clean
    (List.Subset.trans (List.map_subset _ (Expr.parts_of_mem_list member)) bases)

end RecordSource

/-- Reading the fields of records leads to no other hints, and to no other records as bases: `O`
holds of a record, with the names that have a meaning in its hints. -/
structure Program.ClosedRecords (P : Program) (z : CheckState)
    (S : Path → List String → Expr → Prop) (O : RecordSource → List String → Prop) : Prop
    extends P.ClosedHints S where
  field : ∀ source keys hint, O source keys → source.Field P hint → S source.file keys hint
  baseArgument : ∀ source keys base record hint, O source keys → source.Base P z base record →
    hint ∈ base.bracketed → S source.file keys hint
  base : ∀ source keys base record, O source keys → source.Base P z base record →
    O record (record.typeParameters.take base.arity)

/-- Every way of forming a handle at the hints of one of the records keeps the relation. -/
structure RecordCongruence (P : Program) (z : CheckState) (S : Path → List String → Expr → Prop)
    (O : RecordSource → List String → Prop) (R : Handle → Handle → Prop) : Prop
    extends Congruence P z S R, P.ClosedRecords z S O

def Visited (R : Handle → Handle → Prop) (x y : Properties × List ClassKey) : Prop :=
  List.Forall₂ (Named R) x.1 y.1 ∧ x.2 = y.2

namespace Program

theorem moves_fieldHandle (source : RecordSource) (scope : TypeVariables) (hint : Expr) :
    Moves P (P.fieldHandle source scope hint) :=
  (settles_fieldHandle .any source (fun _ _ => trivial) hint).moves

theorem moves_baseArguments (file : Path) (scope : TypeVariables) (base : Expr) :
    Moves P (P.baseArguments file scope base) :=
  (settles_baseArguments .any (fun _ _ => trivial) base).moves

theorem fixed_isIgnored (file : Path) (hint : Expr) :
    Fixed (P.isIgnoredField file hint) fun ignored =>
      ∃ c d, Returns (P.isIgnoredField file hint) c ignored d := by
  intro c a d e b f one other
  exact ⟨(fixed_isIgnoredField P file hint c a d e b f one other).1, c, d, one⟩

end Program

namespace RecordCongruence

variable {S : Path → List String → Expr → Prop} {O : RecordSource → List String → Prop}
  {R : Handle → Handle → Prop} {source : RecordSource} {scope scope' : TypeVariables}

theorem fieldHandle (congruence : RecordCongruence P z S O R)
    (named : List.Forall₂ (Named R) scope scope') {hint : Expr}
    (held : S source.file (Pairs.keys scope) hint) :
    Agree P z (P.fieldHandle source scope hint) (P.fieldHandle source scope' hint) R := by
  unfold Program.fieldHandle
  split
  · refine .bind_fixed (Program.subhint_peel P _ _ _ _) fun peeled reached => ?_
    have inside : S source.file (Pairs.keys scope) peeled.1 := by
      generalize peeled.1 = inner at reached
      induction reached with
      | refl => exact held
      | tail _ step ih => exact congruence.subhint _ _ _ _ ih step
    refine (congruence.resolve named ?_).map fun a b related => ?_
    · rintro _ ⟨⟩
      exact inside
    · split
      · exact related
      · exact congruence.union _ _ (.cons related (.cons (congruence.intrinsic _) .nil))
  · refine congruence.resolve named ?_
    rintro _ ⟨⟩
    exact held

theorem dictFields (congruence : RecordCongruence P z S O R)
    (named : List.Forall₂ (Named R) scope scope') (held : O source (Pairs.keys scope))
    {pos : Position} {items : List DictItem} (fields : source.fields = .ofDict (.dict pos items)) :
    Agree P z (P.dictFields source scope items) (P.dictFields source scope' items)
      (List.Forall₂ (Named R)) := by
  refine .foldlM .nil ?left ?right ?_
  case left | right =>
    intro item properties
    split
    · exact (Program.moves_fieldHandle source _ _).bind fun _ => .pure _
    · exact .pure _
  intro item member members others related
  split
  · exact (congruence.fieldHandle named
      (congruence.field _ _ _ held (.item fields member))).map fun _ _ new =>
        Pairs.forall₂_put related new
  · exact .pure related

theorem ownFields (congruence : RecordCongruence P z S O R)
    (named : List.Forall₂ (Named R) scope scope') (held : O source (Pairs.keys scope))
    {inherited inherited' : Properties} (related : List.Forall₂ (Named R) inherited inherited')
    {definition : ClassDef Statement} (fields : source.fields = .ofClass definition) :
    Agree P z (P.ownFields source scope inherited definition.body)
      (P.ownFields source scope' inherited' definition.body) (List.Forall₂ (Named R)) := by
  refine .foldlM related ?left ?right ?_
  case left | right =>
    intro statement properties
    split
    · apply (Program.settles_isIgnoredField P _ _).moves.bind
      intro ignored
      split
      · exact .pure _
      · exact (Program.moves_fieldHandle source _ _).bind fun _ => .pure _
    · exact .pure _
  intro statement member members others related
  split
  · refine .bind_fixed (Program.fixed_isIgnored _ _) fun ignored asked => ?_
    split
    · exact .pure related
    · rename_i kept
      obtain ⟨_, _, asked⟩ := asked
      rw [Bool.not_eq_true] at kept
      rw [kept] at asked
      exact (congruence.fieldHandle named
        (congruence.field _ _ _ held (.declared fields member asked))).map fun _ _ new =>
          Pairs.forall₂_put related new
  · exact .pure related

theorem baseArguments (congruence : RecordCongruence P z S O R) {file : Path}
    (named : List.Forall₂ (Named R) scope scope') {base : Expr}
    (held : ∀ hint ∈ base.bracketed, S file (Pairs.keys scope) hint) :
    Agree P z (P.baseArguments file scope base) (P.baseArguments file scope' base) fun as bs =>
      List.Forall₂ R as bs ∧ as.length = base.arity := by
  have moves (scope : TypeVariables) (hint : Expr) : Moves P (P.resolve file scope (some hint)) :=
    P.moves_resolve file scope _
  unfold Program.baseArguments
  split
  · refine .mapM_length (fun hint _ => moves scope hint) (fun hint _ => moves scope' hint) ?_
    refine List.forall₂_same.mpr fun hint member => congruence.resolve named ?_
    rintro _ ⟨⟩
    exact held hint member
  · rename_i plain
    refine .pure ⟨.nil, ?_⟩
    unfold Expr.arity Expr.bracketed
    split
    · rename_i pos value index
      exact absurd rfl (plain pos value index)
    · rfl

theorem afterParent (congruence : RecordCongruence P z S O R)
    {recur : List ClassKey → RecordSource → List Handle → CheckM (Properties × List ClassKey)}
    (settled : ∀ seen source arguments, Settles P (recur seen source arguments) fun _ => True)
    (visited : ∀ seen source as bs, O source (source.typeParameters.take as.length) →
      List.Forall₂ R as bs →
      Agree P z (recur seen source as) (recur seen source bs) (Visited R))
    (named : List.Forall₂ (Named R) scope scope') (held : O source (Pairs.keys scope))
    {x y : Properties × List ClassKey} (related : Visited R x y)
    {definition : ClassDef Statement} (fields : source.fields = .ofClass definition) {base : Expr}
    (member : base ∈ definition.bases) :
    Agree P z (P.afterParent recur source.file scope x base)
      (P.afterParent recur source.file scope' y base) (Visited R) := by
  obtain ⟨properties, seen⟩ := x
  obtain ⟨properties', seen'⟩ := y
  obtain ⟨members, rfl : seen = seen'⟩ := related
  unfold Program.afterParent
  dsimp only
  refine .bind_fixed (Program.fixed_find P _ _) fun found looked => ?_
  split
  · obtain ⟨name, bound⟩ := Program.grounds_lookupExpr looked
    refine (Program.agree_recordOf bound).bind ?left ?right ?_
    case left | right =>
      intro record
      split
      · exact .pure _
      · split
        · exact .pure _
        · exact (Program.moves_baseArguments _ _ _).bind fun arguments =>
            (settled _ _ arguments).moves.bind fun _ => .pure _
    rintro record _ ⟨rfl, known⟩
    split
    · exact .pure ⟨members, rfl⟩
    · rename_i record
      have above : source.Base P z base record := ⟨fields, member, looked, known⟩
      split
      · exact .pure ⟨members, rfl⟩
      · refine (congruence.baseArguments named fun hint inside =>
          congruence.baseArgument _ _ _ _ _ held above inside).bind ?left ?right ?_
        case left | right => exact fun as => (settled _ _ as).moves.bind fun _ => .pure _
        rintro as bs ⟨arguments, count⟩
        refine (visited _ _ _ _ (count ▸ congruence.base _ _ _ _ held above) arguments).bind
          (fun _ => .pure _) (fun _ => .pure _) ?_
        rintro ⟨inherited, seen⟩ ⟨inherited', _⟩ ⟨others, rfl⟩
        exact .pure ⟨Pairs.forall₂_putAll members others, rfl⟩
  · exact .pure ⟨members, rfl⟩

theorem propertiesAmong (congruence : RecordCongruence P z S O R) (pending seen : List ClassKey)
    {as bs : List Handle} (held : O source (source.typeParameters.take as.length))
    (related : List.Forall₂ R as bs) :
    Agree P z (P.propertiesAmong pending seen source as) (P.propertiesAmong pending seen source bs)
      (Visited R) := by
  generalize bound : pending.length = limit
  induction limit using Nat.strongRecOn generalizing pending seen source as bs with
  | ind limit ih =>
    have named := Named.zip source.typeParameters related
    rw [← Pairs.keys_zip] at held
    have settled (pending seen : List ClassKey) (source : RecordSource) (arguments : List Handle) :
        Settles P (P.propertiesAmong pending seen source arguments) fun _ => True :=
      (Program.settles_propertiesAmong .any pending seen source arguments fun _ _ => trivial).mono
        fun _ _ => trivial
    rw [Program.propertiesAmong, Program.propertiesAmong]
    dsimp only
    split
    · rename_i fields
      exact (congruence.dictFields named held fields).map fun _ _ new => ⟨new, rfl⟩
    · exact .pure ⟨.nil, rfl⟩
    · rename_i definition fields
      have own (scope : TypeVariables) (state : Properties × List ClassKey) : Moves P (do
          return (← P.ownFields source scope state.1 definition.body, state.2)) :=
        (Program.settles_ownFields .any source (fun _ _ => trivial) (fun _ _ => trivial)
          _).moves.bind fun _ => .pure _
      have parents (scope : TypeVariables) (base : Expr) (state : Properties × List ClassKey) :
          Moves P (P.afterParent (P.propertiesAmong (Pending.without pending
            ⟨source.file, definition.pos⟩)) source.file scope state base) :=
        (Program.settles_afterParent .any (Program.settles_propertiesAmong .any _)
          (fun _ _ => trivial) (fun _ _ => trivial) base).moves
      split
      · rename_i present
        subst bound
        refine (Agree.foldlM (R := Visited R) ⟨.nil, rfl⟩ (parents _) (parents _) ?_).bind
          (own _) (own _) ?_
        · intro base member x y before
          refine congruence.afterParent (settled _) ?_ named held before fields member
          intro seen source as bs inside related
          exact ih _ (Pending.length_without_lt present) _ _ inside related rfl
        · rintro ⟨inherited, seen⟩ ⟨inherited', _⟩ ⟨before, rfl⟩
          exact (congruence.ownFields named held before fields).map fun _ _ new => ⟨new, rfl⟩
      · exact .pure ⟨.nil, rfl⟩

/-- Under related arguments a record has related properties, of the same names in the same order. -/
theorem propertiesOf (congruence : RecordCongruence P z S O R) {as bs : List Handle}
    (held : O source (source.typeParameters.take as.length)) (related : List.Forall₂ R as bs) :
    Agree P z (P.propertiesOf source as) (P.propertiesOf source bs) (List.Forall₂ (Named R)) :=
  (congruence.propertiesAmong _ _ held related).map fun _ _ visited => visited.1

end RecordCongruence

theorem Origin.written_source (placed : P.Placed) (genuine : z.Genuine P) {symbol : Symbol}
    {source : RecordSource} (origin : Origin P z symbol source) : source.Written P := by
  cases origin with
  | ofClass bound known => exact RecordSource.written_of_known placed genuine known
  | @ofCall key call bound =>
    obtain ⟨callee, first, rest, _, held⟩ := placed.written bound
    refine List.Subset.trans (List.map_subset _ ?_) held
    have inside : call.fields ∈ first :: call.fields :: rest := by simp
    refine List.Subset.trans (Expr.parts_of_mem_list inside) ?_
    rw [Expr.parts, Expr.inner]
    refine List.Subset.trans ?_ (List.subset_cons_self _ _)
    exact List.Subset.trans (List.subset_append_right _ _) (List.subset_append_left _ _)
  | written node => exact Statement.closed_nodesOf _ _ node

namespace Program

theorem propertiesAmong_named (source : RecordSource) (name : Option String)
    (pending seen : List ClassKey) (arguments : List Handle) :
    P.propertiesAmong pending seen { source with name } arguments =
      P.propertiesAmong pending seen source arguments := by
  rw [propertiesAmong, propertiesAmong]
  rfl

theorem propertiesOf_alike {source found : RecordSource} (alike : source.Alike found)
    (arguments : List Handle) :
    P.propertiesOf source arguments = P.propertiesOf found arguments := by
  unfold propertiesOf
  rw [← propertiesAmong_named source none, alike, propertiesAmong_named]

theorem recordCongruence_kin (placed : P.Placed) (clean : P.NoQuotedRecord)
    (genuine : z.Genuine P) :
    RecordCongruence P z (fun file _ e => P.Fits file e) (fun source _ => source.Written P)
      (Kin P z) where
  toCongruence := congruence_kin placed clean
  field _ _ _ written field := field.fits clean written
  baseArgument _ _ base _ hint written above inside := by
    have fits := above.fits clean written
    unfold Expr.bracketed at inside
    split at inside
    · exact fits.of_parts (Expr.parts_of_mem_indices inside)
    · cases inside
  base _ _ _ _ _ above := by
    obtain ⟨_, _, _, known⟩ := above
    exact RecordSource.written_of_known placed genuine known

/-- Records of one identity have properties of the same names in the same order, and handles of one
identity. -/
theorem agree_propertiesOf (placed : P.Placed) (clean : P.NoQuotedRecord) (genuine : z.Genuine P)
    {symbol symbol' : Symbol} {source source' : RecordSource} {as bs : List Handle}
    {name name' : Option String}
    (kin : Kin P z (.record symbol source as name) (.record symbol' source' bs name')) :
    Agree P z (P.propertiesOf source as) (P.propertiesOf source' bs)
      (List.Forall₂ (Named (Kin P z))) := by
  obtain ⟨_, _, _, _, same, _, alike, parts⟩ := kin.of_record placed
  cases same
  rw [← propertiesOf_alike alike]
  have written : source.Written P := by
    cases kin.left with
    | record origin _ => exact origin.written_source placed genuine
  exact (recordCongruence_kin placed clean genuine).propertiesOf written parts

end Program

end HintSchema

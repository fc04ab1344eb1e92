import HintSchema.Proofs.Hints.Quoting

/-!
Hints that resolve alike. A relation of handles that every way of forming a handle keeps holds of
what a hint comes to in two scopes whose type variables stand for related handles
(`Congruence.resolve`). One such relation is to have one identity (`congruence_kin`).
-/

namespace HintSchema

namespace Expr

/-- What stands between the brackets behind a name. -/
def bracketed : Expr → List Expr
  | subscript _ _ index => index.indices
  | _ => []

def arity (e : Expr) : Nat := e.bracketed.length

end Expr

/-- Where the names have a meaning of their own, the expression stands for what is found. -/
structure Program.StandsFor (P : Program) (file : Path) (keys : List String) (e : Expr)
    (found : Binding) : Prop where
  free : ∀ pos id, e = .name pos id → id ∉ keys
  looked : (P.lookupExpr file e.base).1 = .ok found

theorem Program.StandsFor.grounds {P : Program} {file : Path} {keys : List String} {e : Expr}
    {found : Binding} (stands : P.StandsFor file keys e found) : P.Grounds found :=
  grounds_lookupExpr stands.looked

/-- Resolving hints leads to no others: `S` holds of a hint in a file, with the names that have a
meaning there. -/
structure Program.ClosedHints (P : Program) (S : Path → List String → Expr → Prop) : Prop where
  subhint : ∀ file keys e part, S file keys e → P.Subhint file e part → S file keys part
  value : ∀ file keys e key value, S file keys e → P.StandsFor file keys e (.alias key value) →
    S key.file ((P.variablesOf key.file value []).take e.arity) value

/-- Every way of forming a handle at one of the hints keeps the relation. -/
structure Congruence (P : Program) (z : CheckState) (S : Path → List String → Expr → Prop)
    (R : Handle → Handle → Prop) : Prop extends P.ClosedHints S where
  intrinsic : ∀ kind, R (.intrinsic kind) (.intrinsic kind)
  void : ∀ text, R (.void text) (.void text)
  unsupported : ∀ text, R (.unsupported text none) (.unsupported text none)
  typeParameter : ∀ file keys e name, S file keys e →
    P.StandsFor file keys e (.typeVariable name) → name ∉ keys →
    R (.typeParameter name) (.typeParameter name)
  list : ∀ name a b, R a b → R (.list name a) (.list name b)
  awaitable : ∀ name as bs, List.Forall₂ R as bs → R (.awaitable name as) (.awaitable name bs)
  union : ∀ as bs, List.Forall₂ R as bs → R (.unionOf as) (.unionOf bs)
  classObject : ∀ file keys e home definition as bs, S file keys e →
    P.StandsFor file keys e (.classDef home definition) →
    z.records.lookup ⟨home, definition.pos⟩ = some none → List.Forall₂ R as bs →
    R (.classObject (.declaredAt definition.name home definition.pos) as)
      (.classObject (.declaredAt definition.name home definition.pos) bs)
  record : ∀ file keys e home definition source as bs, S file keys e →
    P.StandsFor file keys e (.classDef home definition) →
    z.records.lookup ⟨home, definition.pos⟩ = some (some source) → as.length = e.arity →
    List.Forall₂ R as bs →
    R (.record (.declaredAt definition.name home definition.pos) source as none)
      (.record (.declaredAt definition.name home definition.pos) source bs none)
  call : ∀ file keys e key call, S file keys e → P.StandsFor file keys e (.recordCall key call) →
    R (.record (.declaredAt key.name key.file call.pos) (Program.recordOfCall key call) [] none)
      (.record (.declaredAt key.name key.file call.pos) (Program.recordOfCall key call) [] none)
  inline : ∀ file keys e pos value index place items rest, S file keys e →
    e = .subscript pos value index → index.indices = .dict place items :: rest →
    (P.lookupExpr file value).1 = .ok (.special "typing.TypedDict") →
    R (Program.inlineRecord file (.dict place items)) (Program.inlineRecord file (.dict place items))
  deferred : ∀ file keys e key value as bs, S file keys e →
    P.StandsFor file keys e (.alias key value) → as.length = e.arity → List.Forall₂ R as bs →
    R (.deferred ⟨key, value⟩ as) (.deferred ⟨key, value⟩ bs)
  renamedLeft : ∀ symbol source own name b, R (.record symbol source own none) b →
    R (.record symbol source own (some name)) b
  renamedRight : ∀ symbol source own name a, R a (.record symbol source own none) →
    R a (.record symbol source own (some name))

section

variable {R : Handle → Handle → Prop}

def Named (R : Handle → Handle → Prop) (v w : String × Handle) : Prop := v.1 = w.1 ∧ R v.2 w.2

namespace Named

variable {vs ws : List (String × Handle)}

theorem lookup (named : List.Forall₂ (Named R) vs ws) (name : String) :
    Option.Rel R (vs.lookup name) (ws.lookup name) := by
  induction named with
  | nil => exact .none
  | @cons v w _ _ first _ ih =>
    rw [List.lookup_cons, List.lookup_cons, first.1]
    split
    · exact .some first.2
    · exact ih

theorem zip (names : List String) {as bs : List Handle} (related : List.Forall₂ R as bs) :
    List.Forall₂ (Named R) (names.zip as) (names.zip bs) := by
  induction related generalizing names with
  | nil => simp
  | cons first _ ih =>
    cases names with
    | nil => exact .nil
    | cons name names => exact .cons ⟨rfl, first⟩ (ih names)

end Named

/-- Arguments of a hint that are written alike and resolve alike. -/
structure Paired (P : Program) (z : CheckState) (R : Handle → Handle → Prop)
    (x y : HintArgument) : Prop where
  expr : x.expr = y.expr
  left : Moves P x.resolve
  right : Moves P y.resolve
  agree : Agree P z x.resolve y.resolve R

namespace Paired

variable {P : Program} {z : CheckState} {xs ys : List HintArgument}

theorem lefts (paired : List.Forall₂ (Paired P z R) xs ys) : ∀ x ∈ xs, Moves P x.resolve := by
  induction paired with
  | nil => exact List.forall_mem_nil _
  | cons first _ ih => exact List.forall_mem_cons.mpr ⟨first.left, ih⟩

theorem rights (paired : List.Forall₂ (Paired P z R) xs ys) : ∀ y ∈ ys, Moves P y.resolve := by
  induction paired with
  | nil => exact List.forall_mem_nil _
  | cons first _ ih => exact List.forall_mem_cons.mpr ⟨first.right, ih⟩

theorem resolveAll (paired : List.Forall₂ (Paired P z R) xs ys) :
    Agree P z (HintArgument.resolveAll xs) (HintArgument.resolveAll ys) fun as bs =>
      List.Forall₂ R as bs ∧ as.length = xs.length :=
  .mapM_length (lefts paired) (rights paired) (paired.imp fun _ _ pair => pair.agree)

theorem getLast? (paired : List.Forall₂ (Paired P z R) xs ys) :
    Option.Rel (Paired P z R) xs.getLast? ys.getLast? := by
  have reversed := List.forall₂_reverse_iff.mpr paired
  rw [List.getLast?_eq_head?_reverse, List.getLast?_eq_head?_reverse]
  generalize xs.reverse = left at reversed ⊢
  generalize ys.reverse = right at reversed ⊢
  cases reversed with
  | nil => exact .none
  | cons last _ => exact .some last

end Paired

end

namespace Program

variable {P : Program} {z : CheckState} {file : Path}

theorem returns_expandAlias {resolveValue : TypeVariables → CheckM Handle} {target : AliasRef}
    {arguments : List Handle} {c d : CheckState} {handle : Handle}
    (answered : Returns (P.expandAlias resolveValue target arguments) c handle d) :
    ∃ free m value n, Returns (P.typeVariables target.key.file target.value []) c free m ∧
      Returns (resolveValue (free.zip arguments)) m value n ∧ n.Grows P d ∧
      (handle = value ∨ ∃ symbol source own name,
        value = .record symbol source own none ∧ handle = .record symbol source own name) := by
  unfold expandAlias at answered
  obtain ⟨free, m, free_eq, rest⟩ := (returns_bind_iff _ _ _).mp answered
  obtain ⟨value, n, resolved, rest⟩ := (returns_bind_iff _ _ _).mp rest
  refine ⟨free, m, value, n, free_eq, resolved, ?_⟩
  split at rest
  · rename_i symbol source own
    split at rest
    · obtain ⟨texts, e, shown, rest⟩ := (returns_bind_iff _ _ _).mp rest
      obtain ⟨rfl, rfl⟩ := (returns_pure_iff _ _).mp rest
      have grown := (Settles.mapM fun h _ => h.settles_display P).moves _ _ _ shown
      exact ⟨grown, .inr ⟨symbol, source, own, _, rfl, rfl⟩⟩
    · obtain ⟨rfl, rfl⟩ := (returns_pure_iff _ _).mp rest
      exact ⟨.refl _, .inl rfl⟩
  · obtain ⟨rfl, rfl⟩ := (returns_pure_iff _ _).mp rest
    exact ⟨.refl _, .inl rfl⟩

theorem mem_classes {name : String} {home : Path} {definition : ClassDef Statement}
    (bound : (name, .classDef definition) ∈ (P.source home).scope.names) :
    ⟨home, definition.pos⟩ ∈ P.classes := by
  rcases P.source_cases home with ⟨present, same⟩ | missing
  · unfold classes
    refine List.mem_flatMap.mpr ⟨_, present, List.mem_filterMap.mpr ⟨_, bound, ?_⟩⟩
    rw [same]
  · rw [missing] at bound
    cases bound

theorem mem_aliases {name : String} {home : Path} {value : Expr}
    (bound : (name, .alias value) ∈ (P.source home).scope.names) :
    ⟨home, name⟩ ∈ P.aliases := by
  rcases P.source_cases home with ⟨present, same⟩ | missing
  · unfold aliases
    refine List.mem_flatMap.mpr ⟨_, present, List.mem_filterMap.mpr ⟨_, bound, ?_⟩⟩
    rw [same]
  · rw [missing] at bound
    cases bound

theorem lookup_of_recordOf {name : String} {home : Path} {definition : ClassDef Statement}
    {c d : CheckState} {record : Option RecordSource}
    (bound : (name, .classDef definition) ∈ (P.source home).scope.names)
    (answered : Returns (P.recordOf home definition) c record d) :
    d.records.lookup ⟨home, definition.pos⟩ = some record := by
  rcases returns_recordAmong_iff.mp answered with
    ⟨known, rfl⟩ | ⟨_, foreign, _⟩ | ⟨_, _, _, _, _, _, _, _, rfl, rfl⟩
  · exact known
  · exact absurd (mem_classes bound) foreign
  · rw [CheckState.lookup_remember, if_pos rfl]

theorem agree_recordOf {name : String} {home : Path} {definition : ClassDef Statement}
    (bound : (name, .classDef definition) ∈ (P.source home).scope.names) :
    Agree P z (P.recordOf home definition) (P.recordOf home definition) fun record found =>
      record = found ∧ z.records.lookup ⟨home, definition.pos⟩ = some record := by
  intro c a d e b f one other known known'
  have first := known.known _ _ (lookup_of_recordOf bound one)
  have second := known'.known _ _ (lookup_of_recordOf bound other)
  exact ⟨Option.some.inj (first.symm.trans second), first⟩

end Program

namespace Congruence

variable {P : Program} {z : CheckState} {S : Path → List String → Expr → Prop}
  {R : Handle → Handle → Prop} {file : Path} {scope scope' : TypeVariables} {keys : List String}

theorem written_unsupported (congruence : Congruence P z S R)
    (written : Except PrintFault String) :
    Agree P z (do return .unsupported (← PrintFault.lift written) none)
      (do return .unsupported (← PrintFault.lift written) none) R :=
  .bind_fixed (Program.fixed_lift written) fun text _ => .pure (congruence.unsupported text)

theorem special (congruence : Congruence P z S R) {qualname : String} {xs ys : List HintArgument}
    {expr : Expr} (paired : List.Forall₂ (Paired P z R) xs ys)
    (inline : qualname = "typing.TypedDict" → ∀ x rest place items, xs = x :: rest →
      x.expr = .dict place items →
      R (Program.inlineRecord file (.dict place items))
        (Program.inlineRecord file (.dict place items))) :
    Agree P z (Program.handleOfSpecial file qualname xs expr)
      (Program.handleOfSpecial file qualname ys expr) R := by
  have unsupported := congruence.written_unsupported expr.source?
  unfold Program.handleOfSpecial
  dsimp only
  split
  · exact .pure (congruence.intrinsic _)
  split
  · cases paired with
    | nil => exact .pure (congruence.list _ _ _ (congruence.intrinsic _))
    | cons first _ => exact first.agree.map fun _ _ related => congruence.list _ _ _ related
  split
  · exact (Paired.resolveAll paired).map fun _ _ related => congruence.awaitable _ _ _ related.1
  split
  · exact .pure (congruence.void _)
  split
  · exact .pure (congruence.intrinsic _)
  · have last := Paired.getLast? paired
    generalize xs.getLast? = left at last
    generalize ys.getLast? = right at last
    cases last with
    | none => exact .pure (congruence.awaitable _ _ _ .nil)
    | some pair =>
      exact pair.agree.map fun _ _ related => congruence.awaitable _ _ _ (.cons related .nil)
  · cases paired with
    | cons first _ =>
      exact first.agree.map fun _ _ related =>
        congruence.union _ _ (.cons related (.cons (congruence.intrinsic _) .nil))
  · cases paired with
    | cons first rest =>
      exact (Paired.resolveAll (.cons first rest)).map fun _ _ related =>
        congruence.union _ _ related.1
  · have record := inline rfl _ _ _ _ rfl rfl
    cases paired with
    | @cons _ y _ _ first _ =>
      obtain ⟨_, resolve⟩ := y
      cases first.expr
      exact .pure record
  -- What the first list does not match, the second does not match either.
  · rename_i x _ _ _ _ _ noDict
    cases paired with
    | @cons _ y _ _ first _ =>
      obtain ⟨e, resolve⟩ := x
      obtain ⟨_, resolve'⟩ := y
      cases first.expr
      split
      · split
        all_goals first | contradiction | exact first.agree | skip
        obtain ⟨rfl, _⟩ := List.cons.inj ‹_ :: _ = _ :: _›
        exact first.agree
      · split
        all_goals first | contradiction | exact unsupported | skip
        obtain ⟨same, _⟩ := List.cons.inj ‹_ :: _ = _ :: _›
        cases same
        cases noDict _ _ _ rfl rfl
  · cases paired with
    | nil =>
      split
      all_goals first | contradiction | exact unsupported

theorem special_shown (congruence : Congruence P z S R) {qualname : String}
    {xs ys : List HintArgument} {expr : Expr}
    (paired : List.Forall₂ (Paired P z R) (Program.shown (.special qualname) xs)
      (Program.shown (.special qualname) ys))
    (inline : qualname = "typing.TypedDict" → ∀ x rest place items, xs = x :: rest →
      x.expr = .dict place items →
      R (Program.inlineRecord file (.dict place items))
        (Program.inlineRecord file (.dict place items))) :
    Agree P z (Program.handleOfSpecial file qualname xs expr)
      (Program.handleOfSpecial file qualname ys expr) R := by
  have unsupported := congruence.written_unsupported expr.source?
  by_cases literal : qualname = "typing.Literal"
  · subst literal
    cases xs <;> cases ys <;> exact unsupported
  · by_cases annotated : qualname = "typing.Annotated"
    · subst annotated
      cases xs with
      | nil =>
        cases ys with
        | nil => exact unsupported
        | cons => cases paired
      | cons =>
        cases ys with
        | nil => cases paired
        | cons =>
          cases paired with
          | cons first _ => exact first.agree
    · refine congruence.special ?_ inline
      have all := Program.shown_special (α := HintArgument) literal annotated
      rwa [all, all] at paired

theorem expandAlias (congruence : Congruence P z S R)
    {resolveValue : TypeVariables → CheckM Handle} {target : AliasRef} {as bs : List Handle}
    (related : List.Forall₂ R as bs)
    (value : ∀ vs ws, Pairs.keys vs =
        (P.variablesOf target.key.file target.value []).take as.length →
      List.Forall₂ (Named R) vs ws → Agree P z (resolveValue vs) (resolveValue ws) R) :
    Agree P z (P.expandAlias resolveValue target as) (P.expandAlias resolveValue target bs) R := by
  intro c a d e b f one other known known'
  obtain ⟨free, m, x, n, free_eq, resolved, grown, named⟩ := Program.returns_expandAlias one
  obtain ⟨free', m', y, n', free_eq', resolved', grown', named'⟩ := Program.returns_expandAlias other
  obtain ⟨rfl, rfl⟩ := Program.fixed_typeVariables P _ _ _ _ _ _ _ _ _ free_eq free_eq'
  have same : R x y := value _ _ (Pairs.keys_zip _ _) (Named.zip _ related) _ _ _ _ _ _ resolved
    resolved' (grown.trans known) (grown'.trans known')
  have left : R a y := by
    rcases named with rfl | ⟨_, _, _, name, rfl, rfl⟩
    · exact same
    · cases name with
      | none => exact same
      | some name => exact congruence.renamedLeft _ _ _ _ _ same
  rcases named' with rfl | ⟨_, _, _, name, rfl, rfl⟩
  · exact left
  · cases name with
    | none => exact left
    | some name => exact congruence.renamedRight _ _ _ _ _ left

theorem binding (congruence : Congruence P z S R)
    {expand : AliasRef → List Handle → CheckM Handle} {found : Binding}
    {xs ys : List HintArgument} {expr : Expr} (held : S file (Pairs.keys scope) expr)
    (stands : P.StandsFor file (Pairs.keys scope) expr found) (count : xs.length = expr.arity)
    (expanded : ∀ key value as bs, P.StandsFor file (Pairs.keys scope) expr (.alias key value) →
      as.length = expr.arity → List.Forall₂ R as bs →
      Agree P z (expand ⟨key, value⟩ as) (expand ⟨key, value⟩ bs) R)
    (moves : ∀ target handles, Moves P (expand target handles))
    (named : List.Forall₂ (Named R) scope scope')
    (paired : List.Forall₂ (Paired P z R) (Program.shown found xs) (Program.shown found ys))
    (inline : found = .special "typing.TypedDict" → ∀ x rest place items, xs = x :: rest →
      x.expr = .dict place items →
      R (Program.inlineRecord file (.dict place items))
        (Program.inlineRecord file (.dict place items))) :
    Agree P z (P.handleOfBinding expand file scope found xs expr)
      (P.handleOfBinding expand file scope' found ys expr) R := by
  have unsupported := congruence.written_unsupported expr.source?
  unfold Program.handleOfBinding
  dsimp only
  split
  · exact congruence.special_shown paired fun special => inline (congrArg _ special)
  · have all := Paired.resolveAll paired
    obtain ⟨name, bound⟩ := stands.grounds
    refine (Program.agree_recordOf bound).bind ?_ ?_ ?_
    · intro record
      split <;> exact (Moves.mapM (Paired.lefts paired)).bind fun _ => .pure _
    · intro record
      split <;> exact (Moves.mapM (Paired.rights paired)).bind fun _ => .pure _
    · rintro record _ ⟨rfl, known⟩
      split
      · exact all.map fun as _ related => congruence.record _ _ _ _ _ _ _ _ held stands known
          (related.2.trans count) related.1
      · exact all.map fun _ _ related =>
          congruence.classObject _ _ _ _ _ _ _ held stands known related.1
  · exact .pure (congruence.call _ _ _ _ _ held stands)
  · have all := Paired.resolveAll paired
    exact all.bind (fun _ => moves _ _) (fun _ => moves _ _) fun _ _ related =>
      expanded _ _ _ _ stands (related.2.trans count) related.1
  · rename_i name
    have looked := Named.lookup named name
    generalize other : scope'.lookup name = right at looked
    cases known : scope.lookup name with
    | none =>
      rw [known] at looked
      cases looked with
      | none =>
        exact .pure (congruence.typeParameter _ _ _ _ held stands
          (Pairs.lookup_eq_none_iff.mp known))
    | some =>
      rw [known] at looked
      cases looked with
      | some related => exact .pure related
  · refine .bind_fixed (Program.fixed_variableName expr) fun name _ => ?_
    have looked := Named.lookup named name
    generalize scope.lookup name = left at looked
    generalize scope'.lookup name = right at looked
    cases looked with
    | none => exact unsupported
    | some related => exact .pure related
  · exact unsupported

theorem resolveExpr (congruence : Congruence P z S R)
    {expand : AliasRef → List Handle → CheckM Handle} {quoted quoted' : CodeText → CheckM Handle}
    (expanded : ∀ e key value as bs, S file (Pairs.keys scope) e →
      P.StandsFor file (Pairs.keys scope) e (.alias key value) → as.length = e.arity →
      List.Forall₂ R as bs → Agree P z (expand ⟨key, value⟩ as) (expand ⟨key, value⟩ bs) R)
    (settled : ∀ target handles, Settles P (expand target handles) fun _ => True)
    (read : ∀ text, (∀ inner, text.Quotes inner → S file (Pairs.keys scope) inner) →
      Agree P z (quoted text) (quoted' text) R)
    (left : ∀ text, Settles P (quoted text) fun _ => True)
    (right : ∀ text, Settles P (quoted' text) fun _ => True)
    (named : List.Forall₂ (Named R) scope scope') {expr : Expr}
    (held : S file (Pairs.keys scope) expr) :
    Agree P z (P.resolveExpr expand quoted file scope expr)
      (P.resolveExpr expand quoted' file scope' expr) R := by
  have moves : ∀ target handles, Moves P (expand target handles) :=
    fun target handles => (settled target handles).moves
  have moves_left (part : Expr) : Moves P (P.resolveExpr expand quoted file scope part) :=
    (Program.settles_resolveExpr .any (fun _ _ _ => settled _ _) left (fun _ _ => trivial) part).moves
  have moves_right (part : Expr) : Moves P (P.resolveExpr expand quoted' file scope' part) :=
    (Program.settles_resolveExpr .any (fun _ _ _ => settled _ _) right (fun _ _ => trivial)
      part).moves
  generalize bound : sizeOf expr = limit
  induction limit using Nat.strongRecOn generalizing expr with
  | ind limit ih =>
    rw [Program.resolveExpr.eq_def, Program.resolveExpr.eq_def]
    split
    · exact .pure (congruence.intrinsic _)
    · exact read _ fun inner quotes => congruence.subhint _ _ _ _ held (.text quotes)
    · exact congruence.written_unsupported _
    · rename_i pos first second
      subst bound
      have smaller := Expr.binary.sizeOf_spec pos .bitOr first second
      refine (ih (sizeOf first) (by omega) (congruence.subhint _ _ _ _ held .left) rfl).bind
        (fun _ => (moves_left second).bind fun _ => .pure _)
        (fun _ => (moves_right second).bind fun _ => .pure _) fun a b related => ?_
      exact (ih (sizeOf second) (by omega) (congruence.subhint _ _ _ _ held .right) rfl).map
        fun _ _ related' => congruence.union _ _ (.cons related (.cons related' .nil))
    · rename_i pos id
      have looked := Named.lookup named id
      generalize scope'.lookup id = other at looked
      cases known : scope.lookup id with
      | some =>
        rw [known] at looked
        cases looked with
        | some related => exact .pure related
      | none =>
        rw [known] at looked
        cases looked with
        | none =>
          refine .bind_fixed (Program.fixed_find P _ _) fun found looked => ?_
          have stands : P.StandsFor file (Pairs.keys scope) (.name pos id) found :=
            ⟨fun _ _ same => by cases same; exact Pairs.lookup_eq_none_iff.mp known, looked⟩
          exact congruence.binding held stands rfl (fun _ _ _ _ => expanded _ _ _ _ _ held) moves
            named (by simp [Program.shown_nil]) fun _ _ _ _ _ impossible => by cases impossible
    · refine .bind_fixed (Program.fixed_find P _ _) fun found looked => ?_
      exact congruence.binding held ⟨fun _ _ same => (by cases same), looked⟩ rfl
        (fun _ _ _ _ => expanded _ _ _ _ _ held) moves named (by simp [Program.shown_nil])
        fun _ _ _ _ _ impossible => by cases impossible
    · rename_i pos value index
      refine .bind_fixed (Program.fixed_find P _ _) fun found looked => ?_
      refine congruence.binding held ⟨fun _ _ same => (by cases same), looked⟩
        (by simp [Expr.arity, Expr.bracketed]) (fun _ _ _ _ => expanded _ _ _ _ _ held) moves named
        ?_ ?_
      · rw [Program.shown_map, Program.shown_map, List.forall₂_map_left_iff,
          List.forall₂_map_right_iff]
        refine List.forall₂_same.mpr ?_
        rintro ⟨part, inside⟩ member
        subst bound
        have part_le := Expr.sizeOf_le_of_mem_indices inside
        have smaller := Expr.subscript.sizeOf_spec pos value index
        have argued := congruence.subhint _ _ _ _ held
          (.argument looked (Program.mem_shown_attach.mp member))
        exact ⟨rfl, moves_left part, moves_right part, ih (sizeOf part) (by omega) argued rfl⟩
      · rintro rfl x rest place items first dict
        have parts := congrArg (List.map HintArgument.expr) first
        rw [List.map_map, List.map_cons, dict] at parts
        have indices := (List.attach_map_subtype_val index.indices).symm.trans parts
        exact congruence.inline _ _ _ _ _ _ _ _ _ held rfl indices looked
    · exact congruence.written_unsupported _

theorem resolveQuoting (congruence : Congruence P z S R)
    {expand : AliasRef → List Handle → CheckM Handle} (limit : Nat)
    (expanded : ∀ e key value as bs, S file (Pairs.keys scope) e →
      P.StandsFor file (Pairs.keys scope) e (.alias key value) → as.length = e.arity →
      List.Forall₂ R as bs → Agree P z (expand ⟨key, value⟩ as) (expand ⟨key, value⟩ bs) R)
    (settled : ∀ target handles, Settles P (expand target handles) fun _ => True)
    (named : List.Forall₂ (Named R) scope scope') {expr : Expr}
    (held : S file (Pairs.keys scope) expr) :
    Agree P z (P.resolveQuoting expand limit file scope expr)
      (P.resolveQuoting expand limit file scope' expr) R := by
  induction limit using Nat.strongRecOn generalizing expr with
  | ind limit ih =>
    have settles (scope : TypeVariables) (shorter : Nat) (inner : Expr) :
        Settles P (P.resolveQuoting expand shorter file scope inner) fun _ => True :=
      Program.settles_resolveQuoting .any _ (fun _ _ _ => settled _ _) (fun _ _ => trivial) _
    rw [Program.resolveQuoting, Program.resolveQuoting]
    refine congruence.resolveExpr expanded settled ?read ?left ?right named held
    case left | right =>
      intro text
      split
      · apply (Expr.settles_ofQuoted? P text).bind
        intro inner _
        split
        · exact settles _ _ _
        · exact .pure trivial
      · exact .pure trivial
    intro text inside
    split
    · rename_i shorter
      refine .bind_fixed (Program.fixed_ofQuoted? text) fun found quoted => ?_
      split
      · rename_i inner
        exact ih _ shorter (inside inner (quoted inner rfl))
      · exact .pure (congruence.unsupported _)
    · exact .pure (congruence.unsupported _)

theorem resolveAmong (congruence : Congruence P z S R) (pending : List NameKey)
    (named : List.Forall₂ (Named R) scope scope') {expr : Expr}
    (held : S file (Pairs.keys scope) expr) :
    Agree P z (P.resolveAmong pending file scope expr) (P.resolveAmong pending file scope' expr)
      R := by
  generalize bound : pending.length = limit
  induction limit using Nat.strongRecOn generalizing pending file scope scope' expr with
  | ind limit ih =>
    rw [Program.resolveAmong, Program.resolveAmong]
    refine congruence.resolveQuoting _ ?_ ?_ named held
    · intro e key value as bs inside stands count related
      split
      · rename_i present
        subst bound
        refine congruence.expandAlias related fun vs ws same named =>
          ih _ (Pending.length_without_lt present) _ named ?_ rfl
        rw [same, count]
        exact congruence.value _ _ _ _ _ inside stands
      · exact .pure (congruence.deferred _ _ _ _ _ _ _ inside stands count related)
    · intro target handles
      split
      · exact Program.settles_expandAlias Formation.any.toShaping
          (fun _ _ => Program.settles_resolveAmong .any _ (fun _ _ => trivial) _) fun _ _ => trivial
      · exact .pure trivial

/-- In scopes of related handles a hint comes to related handles. -/
theorem resolve (congruence : Congruence P z S R) (named : List.Forall₂ (Named R) scope scope')
    {hint : Option Expr} (held : ∀ expr, hint = some expr → S file (Pairs.keys scope) expr) :
    Agree P z (P.resolve file scope hint) (P.resolve file scope' hint) R := by
  unfold Program.resolve
  split
  · exact congruence.resolveAmong _ named (held _ rfl)
  · exact .pure (congruence.intrinsic .any)

theorem apparent (congruence : Congruence P z S R) {target : AliasRef} {as bs : List Handle}
    (held : S target.key.file
      ((P.variablesOf target.key.file target.value []).take as.length) target.value)
    (related : List.Forall₂ R as bs) :
    Agree P z (P.apparent (.deferred target as)) (P.apparent (.deferred target bs)) R :=
  congruence.expandAlias related fun _ _ same named =>
    congruence.resolveAmong _ named (same ▸ held)

end Congruence

namespace Program

variable {P : Program} {z : CheckState} {file : Path} {scope scope' : TypeVariables}

theorem fits_alias (placed : P.Placed) (clean : P.NoQuotedRecord) {key : NameKey} {value : Expr}
    (grounds : P.Grounds (.alias key value)) : P.Fits key.file value :=
  fits_of_nodes clean (placed.written (mem_names_of_findSome? grounds))

/-- At hints whose records are all written in the program, every way of forming handles keeps their
identity. -/
theorem congruence_kin (placed : P.Placed) (clean : P.NoQuotedRecord) :
    Congruence P z (fun file _ e => P.Fits file e) (Kin P z) where
  subhint _ _ _ _ fits inside := fits.of_shows inside.shows
  value _ _ _ _ _ _ stands := fits_alias placed clean stands.grounds
  intrinsic kind := .refl (.intrinsic kind)
  void text := .refl (.void text)
  unsupported text := .refl (.unsupported text none)
  typeParameter _ _ _ name _ _ _ := .refl (.typeParameter name)
  list _ _ _ kin := .list _ _ kin
  awaitable _ _ _ kin := .awaitable _ kin
  union _ _ kin := .unionOf kin
  classObject _ _ _ _ _ _ _ _ stands known kin :=
    have ⟨_, bound⟩ := stands.grounds
    .classObject bound known kin
  record _ _ _ _ _ _ _ _ _ stands known _ kin :=
    have ⟨_, bound⟩ := stands.grounds
    .record (.ofClass bound known) none none kin
  call _ _ _ _ _ _ stands := .refl (.record (.ofCall stands.grounds) (List.forall_mem_nil _))
  inline _ _ _ pos value index place items rest fits same indices looked :=
    have node := fits _ .refl _ ⟨pos, value, index, place, items, rest, same ▸ Expr.mem_parts_self _,
      indices, rfl, looked⟩
    .refl (.record (.written node) (List.forall_mem_nil _))
  deferred _ _ _ _ _ _ _ _ stands _ kin := .deferred stands.grounds kin
  renamedLeft _ _ _ name _ kin := kin.renamed (some name)
  renamedRight _ _ _ name _ kin := (kin.symm.renamed (some name)).symm

theorem agree_resolve (placed : P.Placed) (clean : P.NoQuotedRecord)
    (named : List.Forall₂ (Named (Kin P z)) scope scope') {hint : Option Expr}
    (fits : ∀ expr, hint = some expr → P.Fits file expr) :
    Agree P z (P.resolve file scope hint) (P.resolve file scope' hint) (Kin P z) :=
  (congruence_kin placed clean).resolve named fits

theorem agree_apparent (placed : P.Placed) (clean : P.NoQuotedRecord) {a b : Handle}
    (kin : Kin P z a b) : Agree P z (P.apparent a) (P.apparent b) (Kin P z) := by
  cases kin.left with
  | deferred bound _ =>
    obtain ⟨others, rfl, parts⟩ := kin.of_deferred
    exact (congruence_kin placed clean).apparent (fits_alias placed clean bound) parts
  | _ =>
    cases kin.right with
    | deferred bound _ =>
      obtain ⟨_, impossible, _⟩ := kin.symm.of_deferred
      cases impossible
    | _ => exact .pure kin

end Program

end HintSchema

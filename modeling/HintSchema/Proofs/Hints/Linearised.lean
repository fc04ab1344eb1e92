import HintSchema.Proofs.Hierarchy
import HintSchema.Proofs.Hints.Lasting
import HintSchema.Proofs.Pairs

/-!
The order in which a dataclass inherits fields. The walk over the bases leaves each class after all
that it inherits from, base by base, and a class goes over what has been left before it
(`propertiesOf_along`). That is the reversed linearisation of the class just if the first base of
each class inherits from the other ones.
-/

namespace HintSchema

open Hierarchy (Linear Walks FollowsFirst)

theorem foldlM_commutes {α β : Type} {f : β → α → CheckM β} {g : β → β}
    (commutes : ∀ b item, f (g b) item = g <$> f b item) (items : List α) (b : β) :
    items.foldlM f (g b) = g <$> items.foldlM f b := by
  induction items generalizing b with
  | nil => rw [List.foldlM_nil, List.foldlM_nil, map_pure]
  | cons item rest ih =>
    rw [List.foldlM_cons, List.foldlM_cons, commutes, bind_map_left, map_bind]
    exact bind_congr ih

def Declared.declares (x : Declared) : Bool :=
  x.2.body.any fun
    | .declare (.name _ _) _ _ _ => true
    | _ => false

namespace Program

/-! ### The classes that a class names for its bases -/

def baseClass? (P : Program) (file : Path) (base : Expr) : Option Declared :=
  match (P.lookupExpr file base.base).1 with
  | .ok (.classDef home definition) => some (home, definition)
  | _ => none

def parents (P : Program) (x : Declared) : List Declared :=
  x.2.bases.filterMap (P.baseClass? x.1)

/-- A dataclass by its decorators, of which each base names a class, without brackets. -/
structure Direct (P : Program) (x : Declared) : Prop where
  signed : P.sign x = some .dataclass
  legible : ∀ decorator ∈ x.2.decorators, (P.lookupExpr x.1 decorator.callee).1.isOk
  named : ∀ base ∈ x.2.bases, base.isReference ∧ (P.baseClass? x.1 base).isSome

variable {P : Program} {x y : Declared} {file : Path} {base : Expr}

theorem baseClass?_eq_some_iff :
    P.baseClass? file base = some y ↔
      (P.lookupExpr file base.base).1 = .ok (.classDef y.1 y.2) := by
  unfold baseClass?
  split
  · rename_i home definition looked
    rw [looked]
    simp [Prod.ext_iff]
  · rename_i other
    exact ⟨nofun, fun looked => absurd looked (other y.1 y.2)⟩

theorem up_iff : Hierarchy.Up P.parents x y ↔ P.Inherits x y := by
  simp only [Hierarchy.Up, parents, List.mem_filterMap, baseClass?_eq_some_iff, Inherits]

theorem binds_of_linear {order : List Declared} (bound : P.Binds x)
    (linear : Linear P.parents x order) : ∀ y ∈ order, P.Binds y := by
  intro y member
  refine bound.of_inherited ?_
  exact Relation.ReflTransGen.mono (fun _ _ => up_iff.mp) _ _ (linear.mem_iff.mp member)

namespace Direct

theorem signOver (direct : P.Direct x) {before : List Expr} (part : before ⊆ x.2.bases) :
    P.signOver x before = P.signOver x [] := by
  induction before using List.reverseRecOn with
  | nil => rfl
  | append_singleton before base ih =>
    obtain ⟨early, last⟩ := List.append_subset.mp part
    obtain ⟨y, named⟩ := Option.isSome_iff_exists.mp (direct.named base (last (by simp))).2
    rw [signOver_append_singleton, afterSign, baseClass?_eq_some_iff.mp named]
    exact ih early

theorem not_consults (direct : P.Direct x) : ¬ P.Consults x y := by
  rintro ⟨before, base, after, whole, unsigned, _⟩
  have part : before ⊆ x.2.bases := by simp [whole]
  have signed := direct.signed
  rw [sign, direct.signOver (List.Subset.refl _), ← direct.signOver part, unsigned] at signed
  cases signed

theorem isLegible (direct : P.Direct x) : P.Legible x := by
  intro y consulted
  rcases Relation.ReflTransGen.cases_head consulted with rfl | ⟨z, consults, _⟩
  · refine ⟨direct.legible, fun base member => ?_⟩
    obtain ⟨y, named⟩ := Option.isSome_iff_exists.mp (direct.named base member).2
    rw [baseClass?_eq_some_iff.mp named]
    rfl
  · exact absurd consults direct.not_consults

theorem baseArguments (direct : P.Direct x) (member : base ∈ x.2.bases) (scope : TypeVariables) :
    P.baseArguments x.1 scope base = Pure.pure [] := by
  have plain := (direct.named base member).1
  cases base with
  | name => rfl
  | member => rfl
  | _ => cases plain

theorem parametersOf (direct : P.Direct x) : P.parametersOf x = [] := by
  have kept (bases : List Expr) (part : bases ⊆ x.2.bases) :
      bases.foldl (P.afterParameters x.1) [] = [] := by
    induction bases with
    | nil => rfl
    | cons base rest ih =>
      obtain ⟨own, others⟩ := List.cons_subset.mp part
      have plain := (direct.named base own).1
      have same : P.afterParameters x.1 [] base = [] := by
        cases base with
        | name => rfl
        | member => rfl
        | _ => cases plain
      rw [List.foldl_cons, same]
      exact ih others
  exact kept _ (List.Subset.refl _)

end Direct

/-! ### Fields along a list of classes -/

/-- The class's own fields are added. A field that is there already keeps its place. -/
def addFields (P : Program) (properties : Properties) (x : Declared) : CheckM Properties :=
  P.ownFields (P.recordOfClass .dataclass x) [] properties x.2.body

def fieldsAlong (P : Program) (classes : List Declared) : CheckM Properties :=
  classes.foldlM P.addFields []

theorem ownFields_putAll (source : RecordSource) (scope : TypeVariables)
    (properties members : Properties) (body : List Statement) :
    P.ownFields source scope (Pairs.putAll properties members) body =
      Pairs.putAll properties <$> P.ownFields source scope members body := by
  refine foldlM_commutes (g := Pairs.putAll properties) (fun members statement => ?_) _ _
  split
  · rw [map_bind]
    refine bind_congr fun ignored => ?_
    split
    · rw [map_pure]
    · simp only [map_bind, map_pure, Pairs.put_putAll]
  · rw [map_pure]

theorem addFields_putAll (properties members : Properties) (x : Declared) :
    P.addFields (Pairs.putAll properties members) x =
      Pairs.putAll properties <$> P.addFields members x :=
  ownFields_putAll _ _ properties members _

theorem fieldsAlong_concat (classes : List Declared) (x : Declared) :
    P.fieldsAlong (classes ++ [x]) =
      P.fieldsAlong classes >>= fun members => P.addFields members x := by
  rw [fieldsAlong, List.foldlM_append]
  simp only [List.foldlM_cons, List.foldlM_nil, bind_pure]
  rfl

theorem fieldsAlong_append (classes further : List Declared) :
    P.fieldsAlong (classes ++ further) = P.fieldsAlong classes >>= fun members =>
      Pairs.putAll members <$> P.fieldsAlong further := by
  rw [fieldsAlong, List.foldlM_append]
  refine bind_congr fun members => ?_
  exact foldlM_commutes (g := Pairs.putAll members) (addFields_putAll members) further []

theorem fieldsAlong_filter (classes : List Declared) :
    P.fieldsAlong (classes.filter Declared.declares) = P.fieldsAlong classes := by
  have silent (x : Declared) (none : x.declares = false) (members : Properties) :
      P.addFields members x = pure members := by
    have each := List.any_eq_false.mp none
    unfold addFields ownFields
    generalize x.2.body = body at each
    induction body with
    | nil => rfl
    | cons statement rest ih =>
      rw [List.foldlM_cons]
      have own := each statement List.mem_cons_self
      split
      · exact absurd rfl own
      · rw [pure_bind]
        exact ih fun other member => each other (List.mem_cons_of_mem _ member)
  unfold fieldsAlong
  generalize ([] : Properties) = members
  induction classes generalizing members with
  | nil => rfl
  | cons x rest ih =>
    cases declares : x.declares with
    | true =>
      rw [List.filter_cons_of_pos declares, List.foldlM_cons, List.foldlM_cons]
      exact bind_congr ih
    | false =>
      rw [List.filter_cons_of_neg (by simp [declares]), List.foldlM_cons, silent x declares,
        pure_bind]
      exact ih members

/-! ### The walk over the bases -/

/-- Own fields of some of the classes cannot be read, now or later. -/
def Misread (P : Program) (classes : List Declared) (c : CheckState) (fault : Fault) : Prop :=
  ∃ x ∈ classes, ∃ members m n, c.Grows P m ∧ Raises (P.addFields members x) m fault n

/-- Of the classes all are dataclasses, and they are closed under their bases. -/
structure Hereditary (P : Program) (classes : List Declared) : Prop where
  direct : ∀ x ∈ classes, P.Direct x
  binds : ∀ x ∈ classes, P.Binds x
  up : ∀ x ∈ classes, ∀ y ∈ P.parents x, y ∈ classes

theorem hereditary_of_linear {order : List Declared} (bound : P.Binds x)
    (linear : Linear P.parents x order) (direct : ∀ y ∈ order, P.Direct y) :
    P.Hereditary order where
  direct := direct
  binds := binds_of_linear bound linear
  up _ member _ parent := linear.mem_iff.mpr ((linear.mem_iff.mp member).tail parent)

/-- The keys are those of the classes in the set. -/
def Marks (P : Program) (seen : Set Declared) (keys : List ClassKey) : Prop :=
  ∀ y, P.Binds y → (y ∈ seen ↔ y.key ∈ keys)

theorem Marks.insert (placed : P.Placed) (bound : P.Binds x) {seen : Set Declared}
    {keys : List ClassKey} (marks : P.Marks seen keys) :
    P.Marks (insert x seen) (x.key :: keys) := by
  intro y other
  rw [Set.mem_insert_iff, List.mem_cons, marks y other]
  refine or_congr_left ⟨congrArg Declared.key, other.eq_of_key placed bound⟩

/-- The state is a later one in which only what is credible is remembered. -/
structure Later (P : Program) (c d : CheckState) : Prop where
  trusty : P.Trusty [] d
  grows : c.Grows P d

variable {classes : List Declared} {c d e : CheckState} {pending keys : List ClassKey}
  {properties : Properties} {seen : Set Declared}
  {recur : List ClassKey → RecordSource → List Handle → CheckM (Properties × List ClassKey)}

theorem Later.trans (first : P.Later c d) (second : P.Later d e) : P.Later c e :=
  ⟨second.trusty, first.grows.trans second.grows⟩

theorem Later.ends {α : Type} {question : CheckM α} {S : α → Prop} {E : Fault → Prop}
    (later : P.Later c d) (careful : Careful (P.Trusty []) E question S)
    (moves : Moves P question) :
    Ends question d (fun a e => Returns question d a e ∧ S a ∧ P.Later c e) E := by
  rcases careful d later.trusty with ⟨a, e, answered, right, trusty⟩ | raised
  · exact .inl ⟨a, e, answered, answered, right, trusty, later.grows.trans (moves d a e answered)⟩
  · exact .inr raised

theorem ends_afterParent (placed : P.Placed) (hereditary : P.Hereditary classes)
    {Q : Properties × List ClassKey → CheckState → Prop} {E : Fault → Prop}
    (member : x ∈ classes) (inside : base ∈ x.2.bases) (named : P.baseClass? x.1 base = some y)
    (trusty : P.Trusty [] c) (old : y.key ∈ keys → ∀ d, P.Later c d → Q (properties, keys) d)
    (new : y.key ∉ keys → ∀ d, P.Later c d →
      Ends (recur keys (P.recordOfClass .dataclass y) []) d
        (fun result e => Q (Pairs.putAll properties result.1, result.2) e) E) :
    Ends (P.afterParent recur x.1 [] (properties, keys) base) c Q E := by
  have looked := baseClass?_eq_some_iff.mp named
  have listed : y ∈ classes :=
    hereditary.up x member y (List.mem_filterMap.mpr ⟨base, inside, named⟩)
  have direct := hereditary.direct y listed
  have found : Ends (P.find x.1 base.base) c (fun b d => b = .classDef y.1 y.2 ∧ P.Later c d) E :=
    .inl ⟨_, _, returns_find_iff.mpr ⟨looked, rfl⟩, rfl, trusty.of_records_eq rfl,
      .of_records_eq rfl⟩
  unfold afterParent
  refine found.bind ?_
  rintro _ d ⟨rfl, later⟩
  have asked : Ends (P.recordOf y.1 y.2) d (fun record e =>
      record = some (P.recordOfClass .dataclass y) ∧ P.Later c e) E := by
    rcases later.ends (careful_recordOf placed (hereditary.binds y listed))
      (P.settles_recordOf _ _).moves with
      ⟨record, e, answered, _, credible, later⟩ | ⟨_, _, _, illegible⟩
    · exact .inl ⟨record, e, answered, credible.signed _ direct.signed, later⟩
    · exact absurd direct.isLegible illegible
  refine asked.bind ?_
  rintro _ e ⟨rfl, later⟩
  dsimp only
  split
  · rename_i visited
    exact .pure (old (List.contains_iff_mem.mp visited) e later)
  · rename_i fresh
    rw [(hereditary.direct x member).baseArguments inside, pure_bind]
    refine (new (fun visited => fresh (List.contains_iff_mem.mpr visited)) e later).bind ?_
    exact fun result e right => .pure right

theorem ends_addFields (placed : P.Placed) (member : x ∈ classes) (later : P.Later c d)
    (properties : Properties) :
    Ends (P.addFields properties x) d
      (fun members e => P.Later d e ∧ Stands P e (P.addFields properties x) members)
      (P.Misread classes c) := by
  have all (h : Handle) : h.In P.credibly := h.in_of_all (fun _ _ => trivial) fun _ => trivial
  have record : P.credibly.record ⟨"", []⟩ (P.recordOfClass .dataclass x) := trivial
  have asks : P.credibly.Asks (P.addFields properties x) fun members =>
      ∀ m ∈ members, m.2.In P.credibly :=
    (closed_credibly placed).ownFields record (List.forall_mem_nil _) (fun m _ => all m.2) rfl
  have settles : Settles P (P.addFields properties x) fun _ => True :=
    (settles_ownFields .any _ (fun _ _ => trivial) (fun _ _ => trivial) _).mono fun _ _ => trivial
  rcases asks d later.trusty with ⟨members, e, answered, _, trusty⟩ | ⟨fault, e, raised, _⟩
  · exact .inl ⟨members, e, answered, ⟨trusty, settles.moves _ _ _ answered⟩,
      .of_settles settles answered⟩
  · exact .inr ⟨fault, e, raised, x, member, properties, d, e, later.grows, raised⟩

/-- Visiting a class leaves what the walk up from it leaves. -/
def Leaves (P : Program) (classes : List Declared) (c : CheckState) (pending : List ClassKey)
    (recur : List ClassKey → RecordSource → List Handle → CheckM (Properties × List ClassKey)) :
    Prop :=
  ∀ x ∈ classes, ∀ (seen : Set Declared) keys arguments d, x ∉ seen → P.Marks seen keys →
    (∀ other, P.Binds other → other.key ∉ pending → other ∈ seen) → P.Later c d →
    Ends (recur keys (P.recordOfClass .dataclass x) arguments) d (fun result e =>
      P.Later d e ∧ ∃ visited, Walks P.parents seen [x] visited ∧
        P.Marks (seen ∪ {y | y ∈ visited}) result.2 ∧
        Stands P e (P.fieldsAlong visited) result.1) (P.Misread classes c)

theorem ends_parents (placed : P.Placed) (hereditary : P.Hereditary classes)
    (leaves : P.Leaves classes c pending recur) (member : x ∈ classes) {bases : List Expr}
    (part : bases ⊆ x.2.bases) {before : List Declared} (marks : P.Marks seen keys)
    (open' : ∀ other, P.Binds other → other.key ∉ pending → other ∈ seen) (later : P.Later c d)
    (stands : Stands P d (P.fieldsAlong before) properties) :
    Ends (bases.foldlM (P.afterParent recur x.1 []) (properties, keys)) d (fun result e =>
      P.Later d e ∧ ∃ above, Walks P.parents seen (bases.filterMap (P.baseClass? x.1)) above ∧
        P.Marks (seen ∪ {y | y ∈ above}) result.2 ∧
        Stands P e (P.fieldsAlong (before ++ above)) result.1) (P.Misread classes c) := by
  induction bases generalizing seen keys before properties d with
  | nil =>
    refine .pure ⟨⟨later.trusty, .refl d⟩, [], .done seen, ?_, ?_⟩
    · simpa using marks
    · rwa [List.append_nil]
  | cons base rest ih =>
    obtain ⟨inside, part⟩ := List.cons_subset.mp part
    obtain ⟨y, named⟩ :=
      Option.isSome_iff_exists.mp ((hereditary.direct x member).named base inside).2
    have listed : y ∈ classes :=
      hereditary.up x member y (List.mem_filterMap.mpr ⟨base, inside, named⟩)
    have visited := marks y (hereditary.binds y listed)
    rw [List.foldlM_cons, List.filterMap_cons_some named]
    refine Ends.bind (Q := fun state e => P.Later d e ∧ ∃ first, Walks P.parents seen [y] first ∧
      P.Marks (seen ∪ {y | y ∈ first}) state.2 ∧
      Stands P e (P.fieldsAlong (before ++ first)) state.1) ?_ ?_
    · refine ends_afterParent placed hereditary member inside named later.trusty ?_ ?_
      · intro known e next
        refine ⟨next, [], .old (visited.mpr known) (.done seen), by simpa using marks, ?_⟩
        rw [List.append_nil]
        exact stands.mono next.grows
      · intro fresh e next
        rcases leaves y listed seen keys [] e (fresh ∘ visited.mp) marks open'
          (later.trans next) with
          ⟨result, f, answered, further, first, walks, marks, above⟩ | raised
        · have next := next.trans further
          refine .inl ⟨result, f, answered, next, first, walks, marks, ?_⟩
          rw [fieldsAlong_append]
          exact (stands.mono next.grows).bind above.map
        · exact .inr raised
    · rintro ⟨properties, keys⟩ e ⟨next, first, walks, marks, stands⟩
      have open' (other : Declared) (bound : P.Binds other) (closed : other.key ∉ pending) :
          other ∈ seen ∪ {y | y ∈ first} := .inl (open' other bound closed)
      rcases ih part marks open' (later.trans next) stands with
        ⟨result, f, answered, further, above, others, marks, stands⟩ | raised
      · refine .inl ⟨result, f, answered, next.trans further, first ++ above,
          walks.append others, ?_, ?_⟩
        · rwa [← Hierarchy.union_append]
        · rwa [← List.append_assoc]
      · exact .inr raised

theorem leaves_propertiesAmong (placed : P.Placed) (hereditary : P.Hereditary classes)
    (pending : List ClassKey) : P.Leaves classes c pending (P.propertiesAmong pending) := by
  generalize size : pending.length = limit
  induction limit using Nat.strongRecOn generalizing pending with
  | ind limit ih =>
    subst size
    intro x member seen keys arguments d fresh marks open' later
    have bound := hereditary.binds x member
    have direct := hereditary.direct x member
    have own : x.key ∈ pending := by
      by_contra closed
      exact fresh (open' x bound closed)
    have below := ih _ (Pending.length_without_lt own) (Pending.without pending x.key) rfl
    have open' (other : Declared) (bound : P.Binds other)
        (closed : other.key ∉ Pending.without pending x.key) : other ∈ insert x seen := by
      by_cases itself : other = x
      · exact .inl itself
      · refine .inr (open' other bound fun waiting => closed ?_)
        have apart := mt (bound.eq_of_key placed (hereditary.binds x member)) itself
        exact List.mem_filter.mpr ⟨waiting, by simpa using apart⟩
    have key : (⟨(P.recordOfClass .dataclass x).file, x.2.pos⟩ : ClassKey) = x.key := rfl
    have scope : (P.recordOfClass .dataclass x).typeParameters.zip arguments = [] := by
      rw [recordOfClass, direct.parametersOf, List.zip_nil_left]
    rw [propertiesAmong]
    simp only [scope]
    split
    · rename_i impossible
      cases impossible
    · rename_i impossible
      cases impossible
    · rename_i definition read
      obtain rfl := RecordFields.ofClass.inj read
      rw [key, dif_pos own]
      have started : Stands P d (P.fieldsAlong []) [] := .pure
      refine Ends.bind (ends_parents placed hereditary below member (List.Subset.refl _)
        (marks.insert placed bound) open' later started) ?_
      rintro ⟨inherited, visited⟩ e ⟨next, above, walks, marks, stands⟩
      refine Ends.bind (ends_addFields placed member (later.trans next) inherited) ?_
      rintro members f ⟨further, added⟩
      refine .pure ⟨next.trans further, above ++ [x], walks.singleton fresh, ?_, ?_⟩
      · rwa [← Hierarchy.insert_union]
      · rw [fieldsAlong_concat]
        exact (stands.mono further.grows).bind added

/-- Of a dataclass whose bases, and theirs, are dataclasses that are named directly, and that has a
linearisation, a checker reads the fields along the walk up, unless the own fields of some class
cannot be read. Along the reversed linearisation they are the same where the classes that declare
something stand in the same order in both. -/
theorem propertiesOf_along (parsed : P.Parsed) (bound : P.Binds x) {order : List Declared}
    (linear : Linear P.parents x order) (direct : ∀ y ∈ order, P.Direct y) (asked : P.Asked c)
    (arguments : List Handle) :
    (∃ d, Returns (P.recordOf x.1 x.2) c (some (P.recordOfClass .dataclass x)) d) ∧
      Ends (P.propertiesOf (P.recordOfClass .dataclass x) arguments) c
        (fun properties d => ∃ visited, Walks P.parents ∅ [x] visited ∧ visited.Perm order ∧
          (visited = order.reverse ↔ FollowsFirst P.parents order) ∧
          (∃ e, Returns (P.fieldsAlong visited) d properties e) ∧
          (visited.filter Declared.declares = order.reverse.filter Declared.declares →
            ∃ e, Returns (P.fieldsAlong order.reverse) d properties e))
        (P.Misread order c) := by
  have placed := parsed.placed
  have trusty := asked.trusty placed
  have member : x ∈ order := linear.mem_iff.mpr .refl
  constructor
  · rcases careful_recordOf placed bound c trusty with
      ⟨record, d, answered, credible, _⟩ | ⟨_, _, _, illegible⟩
    · rw [credible.signed _ (direct x member).signed] at answered
      exact ⟨d, answered⟩
    · exact absurd (direct x member).isLegible illegible
  · have leaves := leaves_propertiesAmong (c := c) placed (hereditary_of_linear bound linear direct)
      P.classes x member ∅ [] arguments c id (fun _ _ => by simp)
      (fun other bound closed => absurd bound.key_mem closed) ⟨trusty, .refl c⟩
    unfold propertiesOf
    refine leaves.bind ?_
    rintro ⟨properties, keys⟩ d ⟨_, visited, walks, _, stands⟩
    obtain ⟨e, answered, _⟩ := stands d (.refl d)
    refine .pure ⟨visited, walks, walks.perm linear fun _ _ => id,
      linear.eq_reverse_iff walks fun _ _ => id,
      ⟨e, answered⟩, fun same => ⟨e, ?_⟩⟩
    rwa [← fieldsAlong_filter, ← same, fieldsAlong_filter]

/-! ### Tests -/

def isDirect (P : Program) (x : Declared) : Bool :=
  P.sign x = some .dataclass &&
    x.2.decorators.all (fun e => (P.lookupExpr x.1 e.callee).1.isOk) &&
    x.2.bases.all fun base => base.isReference && (P.baseClass? x.1 base).isSome

theorem direct_of_isDirect (direct : P.isDirect x) : P.Direct x := by
  obtain ⟨front, named⟩ := Bool.and_eq_true_iff.mp direct
  obtain ⟨signed, legible⟩ := Bool.and_eq_true_iff.mp front
  refine ⟨of_decide_eq_true signed, fun decorator inside => ?_, fun base inside => ?_⟩
  · exact List.all_eq_true.mp legible decorator inside
  · exact Bool.and_eq_true_iff.mp (List.all_eq_true.mp named base inside)

structure Pair (P : Program) (x first second : Declared) : Prop where
  binds : P.Binds x
  parents : P.parents x = [first, second]
  roots : P.parents first = [] ∧ P.parents second = []
  apart : first.2.name ≠ second.2.name
  direct : P.Direct x ∧ P.Direct first ∧ P.Direct second

namespace Pair

variable {first second : Declared}

theorem ne (pair : P.Pair x first second) : first ≠ second :=
  fun same => pair.apart (congrArg (fun y : Declared => y.2.name) same)

theorem linear (pair : P.Pair x first second) : Linear P.parents x [x, first, second] := by
  have roots : Linear P.parents x (x :: P.parents x) := by
    refine .of_roots ?_ ?_
    · simp [pair.parents, pair.ne]
    · simp [pair.parents, pair.roots]
  rwa [pair.parents] at roots

theorem directAll (pair : P.Pair x first second) : ∀ y ∈ [x, first, second], P.Direct y := by
  simp [pair.direct]

theorem walks (pair : P.Pair x first second) :
    Walks P.parents ∅ [x] [first, second, x] := by
  have distinct := pair.linear.nodup
  simp only [List.nodup_cons, List.mem_cons, not_or] at distinct
  have root {y : Declared} (none : P.parents y = []) {seen : Set Declared} (fresh : y ∉ seen) :
      Walks P.parents seen [y] [y] := by
    have up : Walks P.parents (insert y seen) (P.parents y) [] := by
      rw [none]
      exact .done _
    exact up.singleton fresh
  have up : Walks P.parents (insert x ∅) (P.parents x) ([first] ++ [second]) := by
    rw [pair.parents]
    refine (root pair.roots.1 ?_).append (root pair.roots.2 ?_)
    · simp [Ne.symm distinct.1.1]
    · simp [Ne.symm distinct.1.2.1, pair.ne.symm]
  exact up.singleton id

end Pair

def isPair (P : Program) (x : Declared) : Bool :=
  match P.parents x with
  | [first, second] => (P.parents first).isEmpty && (P.parents second).isEmpty &&
      first.2.name != second.2.name && [x, first, second].all P.isDirect
  | _ => false

theorem exists_pair {name : String} (named : (P.classNamed? name).any P.isPair) :
    ∃ x first second, P.classNamed? name = some x ∧ P.Pair x first second := by
  obtain ⟨x, found, pair⟩ := (Option.any_eq_true ..).mp named
  unfold isPair at pair
  split at pair
  · rename_i first second parents
    simp only [Bool.and_eq_true, List.isEmpty_iff, bne_iff_ne, List.all_cons, List.all_nil,
      and_true] at pair
    obtain ⟨⟨roots, apart⟩, own, one, other⟩ := pair
    exact ⟨x, first, second, found, binds_of_classNamed? found, parents, roots, apart,
      direct_of_isDirect own, direct_of_isDirect one, direct_of_isDirect other⟩
  · cases pair

def shapes (properties : Properties) : List (String × Option String) :=
  properties.map fun p => (p.1, p.2.scalarName?)

/-- The properties of the class, and then the own fields of its bases, from the last base on, with
those of the class after them. -/
def bothShapes (P : Program) (x : Declared) :
    CheckM (List (String × Option String) × List (String × Option String)) := do
  let properties ← P.propertiesOf (P.recordOfClass .dataclass x) []
  let members ← P.fieldsAlong (x :: P.parents x).reverse
  return (shapes properties, shapes members)

theorem returns_bothShapes {one other : List (String × Option String)}
    (returned : Returns (P.bothShapes x) c (one, other) d) :
    ∃ properties m members,
      Returns (P.propertiesOf (P.recordOfClass .dataclass x) []) c properties m ∧
      Returns (P.fieldsAlong (x :: P.parents x).reverse) m members d ∧
      shapes properties = one ∧ shapes members = other := by
  obtain ⟨properties, m, first, returned⟩ := (returns_bind_iff ..).mp returned
  obtain ⟨members, n, second, returned⟩ := (returns_bind_iff ..).mp returned
  obtain ⟨same, rfl⟩ := (returns_pure_iff ..).mp returned
  obtain ⟨rfl, rfl⟩ := Prod.mk.inj same
  exact ⟨properties, m, members, first, second, rfl, rfl⟩

/-- Two bases, the first of which declares nothing. -/
def marked : Program := .ofLines ⟨.root, ["app", "functions.py"]⟩ [
  "from dataclasses import dataclass",
  "@dataclass",
  "class Marker:",
  "    pass",
  "@dataclass",
  "class Base:",
  "    id: int",
  "@dataclass",
  "class Leaf(Marker, Base):",
  "    name: str"]

/-- The fields of the class come in the order of the reversed linearisation. -/
theorem propertiesOf_along_marked :
    ∃ x order properties d e, marked.Binds x ∧ Linear marked.parents x order ∧
      (∀ y ∈ order, marked.Direct y) ∧ marked.Asked {} ∧
      Returns (marked.propertiesOf (marked.recordOfClass .dataclass x) []) {} properties d ∧
      Returns (marked.fieldsAlong order.reverse) d properties e ∧
      shapes properties = [("id", some "Int"), ("name", some "String")] := by
  have parsed : marked.Parsed := parsed_ofLines (by decide +kernel) _
  have tests : (marked.classNamed? "Leaf").any marked.isPair ∧
      (marked.classNamed? "Leaf").map (fun x => (x :: marked.parents x).map Declared.declares) =
        some [true, false, true] ∧
      (marked.classNamed? "Leaf").map (fun x => (runFrom (marked.bothShapes x) {}).1) =
        some (.ok ([("id", some "Int"), ("name", some "String")],
          [("id", some "Int"), ("name", some "String")])) := by decide +kernel
  obtain ⟨pairs, declares, ran⟩ := tests
  obtain ⟨x, first, second, named, pair⟩ := exists_pair pairs
  rw [named, Option.map_some, Option.some_inj] at ran declares
  obtain ⟨properties, d, _, returned, _, shown, _⟩ := returns_bothShapes (returns_of_ok ran)
  rw [pair.parents] at declares
  obtain ⟨own, one, other⟩ :
      x.declares = true ∧ first.declares = false ∧ second.declares = true := by
    simpa using declares
  have asked : marked.Asked {} := .start rfl
  rcases (propertiesOf_along parsed pair.binds pair.linear pair.directAll asked []).2 with
    ⟨_, _, again, visited, walks, _, _, _, agree⟩ | ⟨_, _, raised, _⟩
  · obtain ⟨rfl, rfl⟩ := returned.unique again
    obtain rfl := walks.unique pair.walks
    obtain ⟨e, along⟩ := agree (by simp [own, one, other])
    exact ⟨x, _, properties, d, e, pair.binds, pair.linear, pair.directAll, asked, returned, along,
      shown⟩
  · cases returned.symm.trans raised

def rivals : Program := .ofLines ⟨.root, ["app", "functions.py"]⟩ [
  "from dataclasses import dataclass",
  "@dataclass",
  "class Left:",
  "    v: int",
  "@dataclass",
  "class Right:",
  "    v: str",
  "@dataclass",
  "class Leaf(Left, Right):",
  "    w: bool"]

/-- The field of the last base prevails, and not that of the first one. -/
theorem rivals_last_prevails :
    rivals.Parsed ∧ ∃ x order properties d, rivals.Binds x ∧ Linear rivals.parents x order ∧
      (∀ y ∈ order, rivals.Direct y) ∧ rivals.Asked {} ∧
      Returns (rivals.propertiesOf (rivals.recordOfClass .dataclass x) []) {} properties d ∧
      shapes properties = [("v", some "String"), ("w", some "Boolean")] ∧
      ∃ members e, Returns (rivals.fieldsAlong order.reverse) d members e ∧
        shapes members = [("v", some "Int"), ("w", some "Boolean")] := by
  have tests : (rivals.classNamed? "Leaf").any rivals.isPair ∧
      (rivals.classNamed? "Leaf").map (fun x => (runFrom (rivals.bothShapes x) {}).1) =
        some (.ok ([("v", some "String"), ("w", some "Boolean")],
          [("v", some "Int"), ("w", some "Boolean")])) := by decide +kernel
  obtain ⟨pairs, ran⟩ := tests
  obtain ⟨x, first, second, named, pair⟩ := exists_pair pairs
  rw [named, Option.map_some, Option.some_inj] at ran
  obtain ⟨properties, d, members, returned, along, shown, shown'⟩ :=
    returns_bothShapes (returns_of_ok ran)
  rw [pair.parents] at along
  exact ⟨parsed_ofLines (by decide +kernel) _, x, _, properties, d, pair.binds, pair.linear,
    pair.directAll, .start rfl, returned, shown, members, _, along, shown'⟩

end Program

end HintSchema

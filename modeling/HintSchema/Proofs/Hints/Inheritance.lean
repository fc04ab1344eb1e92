import Mathlib.Data.Fintype.EquivFin
import HintSchema.Proofs.Hints.Resolution
import HintSchema.Proofs.Hints.Uniform

/-!
Classes whose bases lead nowhere back. Then what is remembered of a class is what a checker that
knows of no class would say of it, and asking for a class is asking for that (`uniform_recordOf`).
-/

namespace HintSchema

/-- A class together with the module it is declared in. -/
abbrev Declared := Path × ClassDef Statement

def Declared.key (x : Declared) : ClassKey := ⟨x.1, x.2.pos⟩

namespace Program

def Inherits (P : Program) (x y : Declared) : Prop :=
  ∃ base ∈ x.2.bases, (P.lookupExpr x.1 base.base).1 = .ok (.classDef y.1 y.2)

/-- No class inherits from itself, not even by way of others. -/
def Acyclic (P : Program) : Prop := ∀ x, ¬ Relation.TransGen P.Inherits x x

/-- Some name is bound to the class. -/
def Binds (P : Program) (x : Declared) : Prop := P.Grounds (.classDef x.1 x.2)

variable {P : Program} {x y : Declared}

theorem Inherits.binds (inherits : P.Inherits x y) : P.Binds y := by
  obtain ⟨_, _, found⟩ := inherits
  exact grounds_lookupExpr found

theorem Binds.of_inherited (bound : P.Binds x)
    (inherited : Relation.ReflTransGen P.Inherits x y) : P.Binds y := by
  cases inherited with
  | refl => exact bound
  | tail _ inherits => exact inherits.binds

theorem Binds.key_mem (bound : P.Binds x) : x.key ∈ P.classes := by
  obtain ⟨_, bound⟩ := bound
  exact mem_classes bound

theorem Binds.eq_of_key (placed : P.Placed) (bound : P.Binds x) (other : P.Binds y)
    (same : x.key = y.key) : x = y := by
  obtain ⟨file, definition⟩ := x
  obtain ⟨file', definition'⟩ := y
  simp only [Declared.key, ClassKey.mk.injEq] at same
  obtain ⟨rfl, pos⟩ := same
  obtain ⟨_, bound⟩ := bound
  obtain ⟨_, other⟩ := other
  have node := placed.unique (placed.written bound (class_mem_nodes definition))
    (placed.written other (class_mem_nodes definition')) rfl rfl pos
  cases node
  rfl

theorem Acyclic.wellFounded (acyclic : P.Acyclic) (placed : P.Placed) :
    WellFounded fun y x => P.Inherits x y := by
  let Class := { x : Declared // P.Binds x }
  have : Finite Class := by
    refine Finite.of_injective
      (fun x : Class => (⟨x.1.key, x.2.key_mem⟩ : { key // key ∈ P.classes })) ?_
    intro x y same
    exact Subtype.ext (x.2.eq_of_key placed y.2 (congrArg Subtype.val same))
  let Leads (y x : Class) : Prop := Relation.TransGen P.Inherits x.1 y.1
  have transitive : IsTrans Class Leads := ⟨fun _ _ _ first second => second.trans first⟩
  have irreflexive : Std.Irrefl Leads := ⟨fun x => acyclic x.1⟩
  have below : ∀ x : Class, Acc (fun y x => P.Inherits x y) x.1 := by
    intro x
    induction x using (Finite.wellFounded_of_trans_of_irrefl Leads).induction with
    | _ x ih => exact ⟨_, fun y inherits => ih ⟨y, inherits.binds⟩ (.single inherits)⟩
  exact ⟨fun x => ⟨x, fun y inherits => below ⟨y, inherits.binds⟩⟩⟩

/-- What a checker that knows of no class says of this one. -/
def Fresh (P : Program) (x : Declared) (record : Option RecordSource) : Prop :=
  ∃ d, Returns (P.recordOf x.1 x.2) {} record d

theorem Fresh.unique {record other : Option RecordSource} (fresh : P.Fresh x record)
    (again : P.Fresh x other) : record = other := by
  obtain ⟨_, answered⟩ := fresh
  obtain ⟨_, answered'⟩ := again
  exact (answered.unique answered').1

/-- What is remembered, save under the keys that are being looked at, is what a checker that knows
of no class says of the class of that key. -/
def Consistent (P : Program) (looking : List ClassKey) (c : CheckState) : Prop :=
  ∀ key, key ∉ looking → ∀ record, c.records.lookup key = some record →
    ∃ x, P.Binds x ∧ x.key = key ∧ P.Fresh x record

theorem consistent_of_blank {looking : List ClassKey} {c : CheckState} (blank : c.records = []) :
    P.Consistent looking c := by
  intro key _ record known
  rw [blank] at known
  cases known

theorem ignoresFiles_consistent (P : Program) (looking : List ClassKey) :
    IgnoresFiles (P.Consistent looking) := by
  intro c d same consistent key closed record known
  rw [same] at known
  exact consistent key closed record known

theorem Consistent.fresh (placed : P.Placed) (bound : P.Binds x) {looking : List ClassKey}
    {c : CheckState} (consistent : P.Consistent looking c) (closed : x.key ∉ looking)
    {record : Option RecordSource} (known : c.records.lookup x.key = some record) :
    P.Fresh x record := by
  obtain ⟨y, other, same, fresh⟩ := consistent x.key closed record known
  obtain rfl := other.eq_of_key placed bound same
  exact fresh

/-- A class and all that it inherits from can be asked for: no caller is looking at them. -/
structure Ready (P : Program) (x : Declared) (looking pending : List ClassKey) : Prop where
  closed : ∀ y, Relation.ReflTransGen P.Inherits x y → y.key ∉ looking
  listed : ∀ y, Relation.ReflTransGen P.Inherits x y → P.Binds y → y.key ∈ pending

variable {looking looking' pending pending' : List ClassKey}

theorem ready_classes (x : Declared) : P.Ready x [] P.classes :=
  ⟨fun _ _ => List.not_mem_nil, fun _ _ bound => bound.key_mem⟩

theorem Ready.base (acyclic : P.Acyclic) (placed : P.Placed) (bound : P.Binds x)
    (ready : P.Ready x looking pending) (inherits : P.Inherits x y) :
    P.Ready y (x.key :: looking) (Pending.without pending x.key) := by
  have apart : ∀ z, Relation.ReflTransGen P.Inherits y z → z.key ≠ x.key := by
    intro z further same
    obtain rfl := (inherits.binds.of_inherited further).eq_of_key placed bound same
    exact acyclic z (.head' inherits further)
  constructor
  · intro z further impossible
    rcases List.mem_cons.mp impossible with same | open'
    · exact apart z further same
    · exact ready.closed z (.head inherits further) open'
  · intro z further held
    exact List.mem_filter.mpr ⟨ready.listed z (.head inherits further) held, by
      simpa using apart z further⟩

/-- What is known of a class once its decorators and its bases have been read. -/
def readForm (P : Program) (recur : Path → ClassDef Statement → CheckM (Option RecordSource))
    (x : Declared) : CheckM RecordForm := do
  let form ← x.2.decorators.foldlM (RecordForm.afterDecorator P x.1) {}
  x.2.bases.foldlM (RecordForm.afterBase P recur x.1) form

variable {I J : CheckState → Prop}
  {recur recur' : Path → ClassDef Statement → CheckM (Option RecordSource)}

theorem mirrors_readForm (left : IgnoresFiles I) (right : IgnoresFiles J)
    (below : ∀ y, P.Inherits x y → Mirrors I J (recur y.1 y.2) (recur' y.1 y.2)) :
    Mirrors I J (P.readForm recur x) (P.readForm recur' x) := by
  unfold readForm
  apply Mirrors.bind
  · apply Mirrors.foldlM
    intro decorator _ form
    unfold RecordForm.afterDecorator
    apply mirrors_find_bind left right
    intro found _
    split <;> exact .pure _
  · intro form
    apply Mirrors.foldlM
    intro base member form
    unfold RecordForm.afterBase
    apply mirrors_find_bind left right
    intro found looked
    apply Mirrors.bind
    · unfold RecordForm.afterParameters
      split
      · exact (mirrors_typeVariables left right _ _ _).bind fun _ => .pure _
      · exact .pure _
    · intro form
      split
      · exact .pure _
      · rename_i home parent
        split
        · exact .pure _
        · apply (below (home, parent) ⟨base, member, looked⟩).bind
          intro record
          split <;> exact .pure _
      · exact .pure _

/-- Asked for anywhere, the class is what a checker that knows of no class says. -/
structure Settled (P : Program) (x : Declared) (looking pending : List ClassKey) : Prop where
  fresh : ∀ c, P.Consistent looking c → ∀ record d,
    Returns (P.recordAmong pending x.1 x.2) c record d → P.Fresh x record ∧ P.Consistent looking d
  answered : ∀ c, P.Consistent looking c → ∀ record, P.Fresh x record →
    ∃ d, Returns (P.recordAmong pending x.1 x.2) c record d

theorem Settled.mirrors (settled : P.Settled x looking pending)
    (settled' : P.Settled x looking' pending') :
    Mirrors (P.Consistent looking) (P.Consistent looking') (P.recordAmong pending x.1 x.2)
      (P.recordAmong pending' x.1 x.2) := by
  intro c d left right record c' answered
  obtain ⟨fresh, kept⟩ := settled.fresh c left record c' answered
  obtain ⟨d', answered'⟩ := settled'.answered d right record fresh
  exact ⟨kept, d', answered', (settled'.fresh d right record d' answered').2⟩

theorem returns_recordAmong_of_unknown {c d : CheckState} {record : Option RecordSource}
    (unknown : c.records.lookup x.key = none) (listed : x.key ∈ pending) :
    Returns (P.recordAmong pending x.1 x.2) c record d ↔ ∃ form e,
      Returns (P.readForm (P.recordAmong (Pending.without pending x.key)) x)
        (c.remember x.key none) form e ∧
      record = form.finish x.1 x.2 ∧ d = e.remember x.key record := by
  unfold readForm
  simp only [returns_bind_iff]
  constructor
  · intro answered
    rcases returns_recordAmong_iff.mp answered with
      ⟨known, _⟩ | ⟨_, foreign, _⟩ | ⟨_, _, first, m, form, e, decorated, based, same, rfl⟩
    · cases known.symm.trans unknown
    · exact absurd listed foreign
    · exact ⟨form, e, ⟨first, m, decorated, based⟩, same, rfl⟩
  · intro given
    obtain ⟨form, e, ⟨first, m, decorated, based⟩, same, rfl⟩ := given
    exact returns_recordAmong_iff.mpr
      (.inr (.inr ⟨unknown, listed, first, m, form, e, decorated, based, same, rfl⟩))

theorem Consistent.remember {c : CheckState} (consistent : P.Consistent looking c)
    (key : ClassKey) (record : Option RecordSource) :
    P.Consistent (key :: looking) (c.remember key record) := by
  intro other closed found known
  obtain ⟨apart, closed⟩ := not_or.mp (List.mem_cons.not.mp closed)
  rw [CheckState.lookup_remember, if_neg apart] at known
  exact consistent other closed found known

theorem Consistent.finish (bound : P.Binds x) {c : CheckState}
    (consistent : P.Consistent (x.key :: looking) c) {record : Option RecordSource}
    (fresh : P.Fresh x record) : P.Consistent looking (c.remember x.key record) := by
  intro key closed found known
  rw [CheckState.lookup_remember] at known
  split at known
  · rename_i same
    cases known
    exact ⟨x, bound, same.symm, fresh⟩
  · rename_i apart
    exact consistent key (by simp [apart, closed]) found known

theorem settled_of_ready (acyclic : P.Acyclic) (placed : P.Placed) (bound : P.Binds x)
    (ready : P.Ready x looking pending) : P.Settled x looking pending := by
  induction x using (acyclic.wellFounded placed).induction generalizing looking pending with
  | _ x ih =>
    -- However it is asked for, the class is read off bases that are settled.
    have read {looking looking' pending pending' : List ClassKey}
        (one : P.Ready x looking pending) (other : P.Ready x looking' pending') :
        Mirrors (P.Consistent (x.key :: looking)) (P.Consistent (x.key :: looking'))
          (P.readForm (P.recordAmong (Pending.without pending x.key)) x)
          (P.readForm (P.recordAmong (Pending.without pending' x.key)) x) :=
      mirrors_readForm (ignoresFiles_consistent P _) (ignoresFiles_consistent P _)
        fun y inherits =>
          (ih y inherits inherits.binds (one.base acyclic placed bound inherits)).mirrors
            (ih y inherits inherits.binds (other.base acyclic placed bound inherits))
    have blank : P.Consistent [] {} := consistent_of_blank rfl
    constructor
    · intro c consistent record d answered
      cases known : c.records.lookup x.key with
      | some other =>
        rcases returns_recordAmong_iff.mp answered with
          ⟨found, rfl⟩ | ⟨unknown, _⟩ | ⟨unknown, _⟩
        · exact ⟨consistent.fresh placed bound (ready.closed x .refl) found, consistent⟩
        · cases known.symm.trans unknown
        · cases known.symm.trans unknown
      | none =>
        obtain ⟨form, e, formed, rfl, rfl⟩ :=
          (returns_recordAmong_of_unknown known (ready.listed x .refl bound)).mp answered
        obtain ⟨kept, e', formed', _⟩ := read ready (ready_classes x) _ _
          (consistent.remember x.key none) (blank.remember x.key none) _ _ formed
        have fresh : P.Fresh x (form.finish x.1 x.2) :=
          ⟨_, (returns_recordAmong_of_unknown rfl bound.key_mem).mpr ⟨form, e', formed', rfl, rfl⟩⟩
        exact ⟨fresh, kept.finish bound fresh⟩
    · intro c consistent record fresh
      cases known : c.records.lookup x.key with
      | some other =>
        obtain rfl := fresh.unique (consistent.fresh placed bound (ready.closed x .refl) known)
        exact ⟨c, returns_recordAmong_iff.mpr (.inl ⟨known, rfl⟩)⟩
      | none =>
        obtain ⟨_, answered⟩ := fresh
        obtain ⟨form, e, formed, rfl, rfl⟩ :=
          (returns_recordAmong_of_unknown rfl bound.key_mem).mp answered
        obtain ⟨_, e', formed', _⟩ := read (ready_classes x) ready _ _
          (blank.remember x.key none) (consistent.remember x.key none) _ _ formed
        exact ⟨_, (returns_recordAmong_of_unknown known (ready.listed x .refl bound)).mpr
          ⟨form, e', formed', rfl, rfl⟩⟩

/-- Unless classes inherit from themselves, asking for one has the same answer whatever has been
asked before. -/
theorem uniform_recordOf (acyclic : P.Acyclic) (placed : P.Placed) {file : Path}
    {definition : ClassDef Statement} (bound : P.Grounds (.classDef file definition)) :
    Uniform (P.Consistent []) (P.recordOf file definition) := by
  have settled : P.Settled (file, definition) [] P.classes :=
    settled_of_ready acyclic placed bound (ready_classes _)
  exact settled.mirrors settled

end Program

end HintSchema

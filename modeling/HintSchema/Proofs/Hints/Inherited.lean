import HintSchema.Proofs.Hints.Answers
import HintSchema.Proofs.Hints.Confined
import HintSchema.Proofs.Modules.Parsed

/-!
Which fields a record inherits. The walk over the bases of a class visits each class once, comes to all
that it can come to by way of records, and leaves out no field of a class that it visits; bases that do
not name a class it passes over (`mem_keys_propertiesOf_iff`).
-/

namespace HintSchema

/-- Among the statements of the file a field of the name is declared, and is not ignored. -/
def Statement.Field (P : Program) (file : Path) (body : List Statement) (name : String) : Prop :=
  ∃ pos hint value bare, Statement.declare (.name pos name) hint value bare ∈ body ∧
    ∃ c d, Returns (P.isIgnoredField file hint) c false d

def Declared.Fields (P : Program) (x : Declared) (name : String) : Prop :=
  Statement.Field P x.1 x.2.body name

/-- The record is read off the class. -/
structure RecordSource.Of (source : RecordSource) (x : Declared) : Prop where
  file : source.file = x.1
  fields : source.fields = .ofClass x.2

namespace Program

/-- A base of the first class is the second one, and that is known to be a record. -/
def Extends (P : Program) (z : CheckState) (x y : Declared) : Prop :=
  P.Inherits x y ∧ ∃ record, z.records.lookup y.key = some (some record)

variable {P : Program} {z c d : CheckState} {x y : Declared} {R S : Declared → Prop}
  {seen seen' seen'' : List ClassKey} {names names' : List String} {source : RecordSource}

/-- From some visited classes to more of them: the classes visited in between can be reached, all
that they extend has been visited, and the names are those of their fields. -/
structure Covers (P : Program) (z : CheckState) (R : Declared → Prop) (seen seen' : List ClassKey)
    (names : List String) : Prop where
  kept : seen ⊆ seen'
  reached : ∀ y, P.Binds y → y.key ∈ seen' → y.key ∉ seen → R y
  closed : ∀ y further, P.Binds y → y.key ∈ seen' → y.key ∉ seen → P.Extends z y further →
    further.key ∈ seen'
  names : ∀ name, name ∈ names ↔
    ∃ y, P.Binds y ∧ y.key ∈ seen' ∧ y.key ∉ seen ∧ y.Fields P name

namespace Covers

theorem refl (seen : List ClassKey) : P.Covers z R seen seen [] where
  kept := List.Subset.refl _
  reached _ _ new old := absurd new old
  closed _ _ _ new old := absurd new old
  names name := by
    constructor
    · exact fun impossible => absurd impossible List.not_mem_nil
    · rintro ⟨_, _, new, old, _⟩
      exact absurd new old

theorem mono (covers : P.Covers z R seen seen' names) (wider : ∀ y, R y → S y) :
    P.Covers z S seen seen' names :=
  ⟨covers.kept, fun y bound new old => wider y (covers.reached y bound new old), covers.closed,
    covers.names⟩

theorem trans {all : List String} (first : P.Covers z R seen seen' names)
    (second : P.Covers z R seen' seen'' names')
    (both : ∀ name, name ∈ all ↔ name ∈ names ∨ name ∈ names') : P.Covers z R seen seen'' all where
  kept := List.Subset.trans first.kept second.kept
  reached y bound new old := by
    by_cases early : y.key ∈ seen'
    · exact first.reached y bound early old
    · exact second.reached y bound new early
  closed y further bound new old extended := by
    by_cases early : y.key ∈ seen'
    · exact second.kept (first.closed y further bound early old extended)
    · exact second.closed y further bound new early extended
  names name := by
    rw [both, first.names, second.names]
    constructor
    · rintro (⟨y, bound, new, old, field⟩ | ⟨y, bound, new, late, field⟩)
      · exact ⟨y, bound, second.kept new, old, field⟩
      · exact ⟨y, bound, new, fun old => late (first.kept old), field⟩
    · rintro ⟨y, bound, new, old, field⟩
      by_cases early : y.key ∈ seen'
      · exact .inl ⟨y, bound, early, old, field⟩
      · exact .inr ⟨y, bound, new, early, field⟩

theorem node {all : List String} (placed : P.Placed) (bound : P.Binds x)
    (parents : P.Covers z (Relation.TransGen (P.Extends z) x) (x.key :: seen) seen' names)
    (bases : ∀ y, P.Extends z x y → y.key ∈ seen')
    (own : ∀ name, name ∈ all ↔ name ∈ names ∨ x.Fields P name) (fresh : x.key ∉ seen) :
    P.Covers z (Relation.ReflTransGen (P.Extends z) x) seen seen' all where
  kept := List.Subset.trans (List.subset_cons_self _ _) parents.kept
  reached y other new old := by
    by_cases itself : y.key = x.key
    · rw [other.eq_of_key placed bound itself]
    · exact (parents.reached y other new (by simp [itself, old])).to_reflTransGen
  closed y further other new old extended := by
    by_cases itself : y.key = x.key
    · obtain rfl := other.eq_of_key placed bound itself
      exact bases further extended
    · exact parents.closed y further other new (by simp [itself, old]) extended
  names name := by
    rw [own, parents.names]
    constructor
    · rintro (⟨y, other, new, old, field⟩ | field)
      · exact ⟨y, other, new, fun early => old (List.mem_cons_of_mem _ early), field⟩
      · exact ⟨x, bound, parents.kept List.mem_cons_self, fresh, field⟩
    · rintro ⟨y, other, new, old, field⟩
      by_cases itself : y.key = x.key
      · obtain rfl := other.eq_of_key placed bound itself
        exact .inr field
      · exact .inl ⟨y, other, new, by simp [itself, old], field⟩

theorem complete (covers : P.Covers z R [] seen names) (bound : P.Binds x) (visited : x.key ∈ seen)
    (reached : Relation.ReflTransGen (P.Extends z) x y) : P.Binds y ∧ y.key ∈ seen := by
  induction reached with
  | refl => exact ⟨bound, visited⟩
  | tail _ extended ih =>
    exact ⟨extended.1.binds, covers.closed _ _ ih.1 ih.2 List.not_mem_nil extended⟩

end Covers

theorem of_known (placed : P.Placed) (genuine : z.Genuine P) (bound : P.Binds x)
    (known : z.records.lookup x.key = some (some source)) : source.Of x := by
  obtain ⟨name, definition, member, pos, file, fields⟩ := genuine x.key source known
  have same : (⟨x.1, definition⟩ : Declared) = x := by
    refine Binds.eq_of_key placed ⟨name, member⟩ bound ?_
    rw [Declared.key, pos]
    rfl
  exact ⟨file, fields.trans (congrArg (fun y : Declared => RecordFields.ofClass y.2) same)⟩

section

variable {file : Path} {scope : TypeVariables} {properties properties' : Properties}
  {recur : List ClassKey → RecordSource → List Handle → CheckM (Properties × List ClassKey)}

theorem field_cons_iff {statement : Statement} {rest : List Statement} {name : String} :
    Statement.Field P file (statement :: rest) name ↔
      Statement.Field P file [statement] name ∨ Statement.Field P file rest name := by
  constructor
  · rintro ⟨pos, hint, value, bare, member, kept⟩
    rcases List.mem_cons.mp member with rfl | later
    · exact .inl ⟨pos, hint, value, bare, List.mem_cons_self, kept⟩
    · exact .inr ⟨pos, hint, value, bare, later, kept⟩
  · rintro (⟨pos, hint, value, bare, member, kept⟩ | ⟨pos, hint, value, bare, member, kept⟩)
    · cases List.mem_singleton.mp member
      exact ⟨pos, hint, value, bare, List.mem_cons_self, kept⟩
    · exact ⟨pos, hint, value, bare, List.mem_cons_of_mem _ member, kept⟩

theorem keys_of_ownFields {body : List Statement} {inherited : Properties}
    (returned : Returns (P.ownFields source scope inherited body) c properties d) (name : String) :
    name ∈ Pairs.keys properties ↔
      name ∈ Pairs.keys inherited ∨ Statement.Field P source.file body name := by
  unfold ownFields at returned
  induction body generalizing inherited c with
  | nil =>
    obtain ⟨rfl, rfl⟩ := (returns_pure_iff _ _).mp returned
    simp [Statement.Field]
  | cons statement rest ih =>
    rw [List.foldlM_cons, returns_bind_iff] at returned
    obtain ⟨next, m, first, later⟩ := returned
    rw [ih later, field_cons_iff, ← or_assoc]
    refine or_congr_left ?_
    split at first
    · rename_i pos id hint value bare
      obtain ⟨ignored, n, asked, first⟩ := (returns_bind_iff _ _ _).mp first
      cases ignored with
      | true =>
        obtain ⟨rfl, rfl⟩ := (returns_pure_iff _ _).mp first
        refine ⟨.inl, ?_⟩
        rintro (old | ⟨_, _, _, _, member, e, f, kept⟩)
        · exact old
        · cases List.mem_singleton.mp member
          cases (fixed_isIgnoredField P _ _ _ _ _ _ _ _ asked kept).1
      | false =>
        obtain ⟨handle, _, _, first⟩ := (returns_bind_iff _ _ _).mp first
        obtain ⟨rfl, rfl⟩ := (returns_pure_iff _ _).mp first
        rw [Pairs.mem_keys_put]
        refine or_congr_right ⟨?_, ?_⟩
        · rintro rfl
          exact ⟨pos, hint, value, bare, List.mem_cons_self, _, _, asked⟩
        · rintro ⟨_, _, _, _, member, _⟩
          cases List.mem_singleton.mp member
          rfl
    · rename_i other
      obtain ⟨rfl, rfl⟩ := (returns_pure_iff _ _).mp first
      refine ⟨.inl, ?_⟩
      rintro (old | ⟨pos, hint, value, bare, member, _⟩)
      · exact old
      · exact absurd (List.mem_singleton.mp member).symm (other pos _ hint value bare)

theorem eq_of_looked {e : Expr} (looked : (P.lookupExpr file e).1 = .ok (.classDef x.1 x.2))
    (again : (P.lookupExpr file e).1 = .ok (.classDef y.1 y.2)) : y = x := by
  obtain ⟨home, definition⟩ := Binding.classDef.inj (Except.ok.inj (again.symm.trans looked))
  exact Prod.ext home definition

theorem returns_afterParent {base : Expr}
    (settled : ∀ seen source arguments, Settles P (recur seen source arguments) fun _ => True)
    (returned : Returns (P.afterParent recur file scope (properties, seen) base) c
      (properties', seen') d) :
    (properties' = properties ∧ seen' = seen ∧
      ∀ y : Declared, (P.lookupExpr file base.base).1 = .ok (.classDef y.1 y.2) →
        y.key ∈ seen ∨ d.records.lookup y.key = some none) ∨
    ∃ (y : Declared) (record : RecordSource) (arguments : List Handle) (inherited : Properties)
        (m : CheckState),
      (P.lookupExpr file base.base).1 = .ok (.classDef y.1 y.2) ∧
      m.records.lookup y.key = some (some record) ∧ y.key ∉ seen ∧ m.Grows P d ∧
      (∃ n, Returns (P.baseArguments file scope base) m arguments n ∧
        Returns (recur seen record arguments) n (inherited, seen') d) ∧
      properties' = Pairs.putAll properties inherited := by
  unfold afterParent at returned
  dsimp only at returned
  obtain ⟨found, m, asked, returned⟩ := (returns_bind_iff _ _ _).mp returned
  have looked := (fixed_find P file base.base _ _ _ _ _ _ asked asked).2
  split at returned
  · rename_i home definition
    obtain ⟨record, n, read, returned⟩ := (returns_bind_iff _ _ _).mp returned
    obtain ⟨_, bound⟩ := grounds_lookupExpr looked
    have known := lookup_of_recordOf bound read
    have only (y : Declared)
        (again : (P.lookupExpr file base.base).1 = .ok (.classDef y.1 y.2)) :
        y = (home, definition) := eq_of_looked (x := (home, definition)) looked again
    split at returned
    · obtain ⟨same, rfl⟩ := (returns_pure_iff _ _).mp returned
      cases same
      refine .inl ⟨rfl, rfl, fun y again => .inr ?_⟩
      rw [only y again]
      exact known
    · rename_i record
      split at returned
      · rename_i visited
        obtain ⟨same, rfl⟩ := (returns_pure_iff _ _).mp returned
        cases same
        refine .inl ⟨rfl, rfl, fun y again => .inl ?_⟩
        rw [only y again]
        exact List.contains_iff_mem.mp visited
      · rename_i fresh
        obtain ⟨arguments, e, argued, returned⟩ := (returns_bind_iff _ _ _).mp returned
        obtain ⟨⟨inherited, after⟩, f, walked, returned⟩ := (returns_bind_iff _ _ _).mp returned
        obtain ⟨same, rfl⟩ := (returns_pure_iff _ _).mp returned
        cases same
        have begun := (settles_baseArguments .any (fun _ _ => trivial) base).moves _ _ _ argued
        refine .inr ⟨(home, definition), record, arguments, inherited, n, looked, known, ?_,
          begun.trans ((settled _ _ _).moves _ _ _ walked), ⟨e, argued, walked⟩, rfl⟩
        exact fun visited => fresh (List.contains_iff_mem.mpr visited)
  · rename_i other
    obtain ⟨same, rfl⟩ := (returns_pure_iff _ _).mp returned
    cases same
    exact .inl ⟨rfl, rfl, fun y again =>
      absurd (Except.ok.inj (looked.symm.trans again)) (other y.1 y.2)⟩

def Visits (P : Program) (z : CheckState) (pending : List ClassKey)
    (recur : List ClassKey → RecordSource → List Handle → CheckM (Properties × List ClassKey)) :
    Prop :=
  ∀ seen source arguments c properties seen' d (y : Declared),
    Returns (recur seen source arguments) c (properties, seen') d → d.Grows P z →
    P.Binds y → source.Of y → y.key ∉ seen →
    (∀ other, P.Binds other → other.key ∉ pending → other.key ∈ seen) →
    y.key ∈ seen' ∧
      P.Covers z (Relation.ReflTransGen (P.Extends z) y) seen seen' (Pairs.keys properties)

theorem covers_parents (placed : P.Placed) (genuine : z.Genuine P) {pending : List ClassKey}
    (visits : P.Visits z pending recur)
    (settled : ∀ seen source arguments, Settles P (recur seen source arguments) fun _ => True)
    {bases : List Expr}
    (all : ∀ base ∈ bases, base ∈ x.2.bases)
    (open' : ∀ other, P.Binds other → other.key ∉ pending → other.key ∈ seen)
    (returned : Returns (bases.foldlM (P.afterParent recur x.1 scope) (properties, seen)) c
      (properties', seen') d) (known : d.Grows P z) :
    (∃ names, P.Covers z (Relation.TransGen (P.Extends z) x) seen seen' names ∧
      ∀ name, name ∈ Pairs.keys properties' ↔ name ∈ Pairs.keys properties ∨ name ∈ names) ∧
    ∀ base ∈ bases, ∀ y : Declared, (P.lookupExpr x.1 base.base).1 = .ok (.classDef y.1 y.2) →
      (∃ record, z.records.lookup y.key = some (some record)) → y.key ∈ seen' := by
  induction bases generalizing properties seen c with
  | nil =>
    obtain ⟨same, rfl⟩ := (returns_pure_iff _ _).mp returned
    cases same
    exact ⟨⟨[], .refl _, fun name => by simp⟩, List.forall_mem_nil _⟩
  | cons base rest ih =>
    obtain ⟨own, others⟩ := List.forall_mem_cons.mp all
    rw [List.foldlM_cons, returns_bind_iff] at returned
    obtain ⟨⟨next, between⟩, m, first, later⟩ := returned
    have grown : m.Grows P z := by
      refine (Moves.foldlM (fun base state => ?_) _ _ _ _ later).trans known
      exact (settles_afterParent .any (fun _ _ _ _ => (settled _ _ _).mono fun _ _ _ _ => trivial)
        (fun _ _ => trivial) (fun _ _ => trivial) base).moves
    rcases returns_afterParent settled first with
      ⟨rfl, rfl, passed⟩ |
      ⟨y, record, arguments, inherited, n, looked, isRecord, fresh, begun, ⟨e, _, walked⟩, rfl⟩
    · obtain ⟨covered, visited⟩ := ih others open' later
      refine ⟨covered, List.forall_mem_cons.mpr ⟨?_, visited⟩⟩
      rintro y looked ⟨record, isRecord⟩
      obtain ⟨_, covers, _⟩ := covered
      rcases passed y looked with old | none
      · exact covers.kept old
      · cases isRecord.symm.trans (grown.known _ _ none)
    · have bound : P.Binds y := grounds_lookupExpr looked
      have isRecord := grown.known _ _ (begun.known _ _ isRecord)
      obtain ⟨visited, covers⟩ := visits _ _ _ _ _ _ _ y walked grown bound
        (of_known placed genuine bound isRecord) fresh open'
      obtain ⟨⟨names, further, both⟩, rest⟩ := ih others
        (fun other bound closed => covers.kept (open' other bound closed)) later
      have extended : P.Extends z x y := ⟨⟨base, own, looked⟩, record, isRecord⟩
      refine ⟨⟨Pairs.keys inherited ++ names, ?_, fun name => ?_⟩, ?_⟩
      · exact (covers.mono fun _ => .head' extended).trans further fun name => List.mem_append
      · rw [both, Pairs.mem_keys_putAll, List.mem_append, or_assoc]
      · refine List.forall_mem_cons.mpr ⟨fun other again _ => ?_, rest⟩
        rw [eq_of_looked looked again]
        exact further.kept visited

theorem visits_propertiesAmong (placed : P.Placed) (genuine : z.Genuine P)
    (pending : List ClassKey) : P.Visits z pending (P.propertiesAmong pending) := by
  generalize size : pending.length = limit
  induction limit using Nat.strongRecOn generalizing pending with
  | ind limit ih =>
    intro seen source arguments c properties seen' d x returned known bound of fresh open'
    have own : x.key ∈ pending := by
      by_contra closed
      exact fresh (open' x bound closed)
    have key : (⟨source.file, x.2.pos⟩ : ClassKey) = x.key := by rw [of.file, Declared.key]
    rw [propertiesAmong] at returned
    dsimp only at returned
    split at returned
    · rename_i impossible
      cases impossible.symm.trans of.fields
    · rename_i impossible
      cases impossible.symm.trans of.fields
    · rename_i definition read
      obtain rfl : definition = x.2 := RecordFields.ofClass.inj (read.symm.trans of.fields)
      rw [key, dif_pos own, of.file] at returned
      obtain ⟨⟨inherited, visited⟩, m, walked, returned⟩ := (returns_bind_iff _ _ _).mp returned
      obtain ⟨members, n, declared, returned⟩ := (returns_bind_iff _ _ _).mp returned
      obtain ⟨same, rfl⟩ := (returns_pure_iff _ _).mp returned
      cases same
      have later := (settles_ownFields .any source (fun _ _ => trivial) (fun _ _ => trivial)
        _).moves _ _ _ declared
      subst size
      have below := ih _ (Pending.length_without_lt own) (Pending.without pending x.key) rfl
      -- A class on the way down to `x` was visited before, and so is `x` itself now.
      have open' (other : Declared) (bound : P.Binds other)
          (closed : other.key ∉ Pending.without pending x.key) : other.key ∈ x.key :: seen := by
        by_cases itself : other.key = x.key
        · rw [itself]
          exact List.mem_cons_self
        · refine List.mem_cons_of_mem _ (open' other bound fun waiting => closed ?_)
          exact List.mem_filter.mpr ⟨waiting, by simpa using itself⟩
      obtain ⟨⟨names, covers, both⟩, bases⟩ := covers_parents placed genuine below
        (fun _ _ _ => (settles_propertiesAmong .any _ _ _ _ fun _ _ => trivial).mono
          fun _ _ => trivial)
        (fun _ => id) open' walked (later.trans known)
      refine ⟨covers.kept List.mem_cons_self, covers.node placed bound ?_ (fun name => ?_) fresh⟩
      · rintro y ⟨⟨base, member, looked⟩, isRecord⟩
        exact bases base member y looked isRecord
      · rw [keys_of_ownFields declared, both, of.file]
        simp [Pairs.keys, Declared.Fields]

end

/-- The properties of a class's record are the fields that the class declares and does not ignore,
and those of all records that it can be traced back to from record to record, whatever the shape of
the inheritance. Only a base that names a class leads on. -/
theorem mem_keys_propertiesOf_iff (parsed : P.Parsed) (genuine : c.Genuine P) (x : Declared)
    (bound : P.Binds x) (source : RecordSource)
    (known : c.records.lookup x.key = some (some source)) (arguments : List Handle)
    (properties : Properties) (returned : Returns (P.propertiesOf source arguments) c properties d)
    (name : String) :
    name ∈ Pairs.keys properties ↔
      ∃ y, Relation.ReflTransGen (P.Extends d) x y ∧ y.Fields P name := by
  have placed := parsed.placed
  have of := of_known placed genuine bound known
  have later := genuine.propertiesOf returned
  obtain ⟨⟨members, seen⟩, m, walked, returned⟩ := (returns_bind_iff _ _ _).mp returned
  obtain ⟨rfl, rfl⟩ := (returns_pure_iff _ _).mp returned
  obtain ⟨visited, covers⟩ := visits_propertiesAmong placed later P.classes _ _ _ _ _ _ _ x walked
    (.refl d) bound of List.not_mem_nil fun other bound closed => absurd bound.key_mem closed
  rw [covers.names]
  constructor
  · rintro ⟨y, bound, new, _, field⟩
    exact ⟨y, covers.reached y bound new List.not_mem_nil, field⟩
  · rintro ⟨y, reached, field⟩
    obtain ⟨bound, new⟩ := covers.complete bound visited reached
    exact ⟨y, bound, new, List.not_mem_nil, field⟩

/-- The names of the fields of a class's record, and of the records that its bases denote. -/
def fieldNames (P : Program) (name : String) : CheckM (List String × List (List String)) := do
  match ← P.findName P.entry name with
  | .classDef home definition =>
    match ← P.recordOf home definition with
    | some source =>
      let properties ← P.propertiesOf source []
      let parents ← definition.bases.mapM fun base => do
        match ← P.resolve home [] (some base) with
        | .record _ parent arguments _ => return Pairs.keys (← P.propertiesOf parent arguments)
        | _ => return []
      return (Pairs.keys properties, parents)
    | none => return ([], [])
  | _ => return ([], [])

def Parent (P : Program) (x : Declared) (names : List String) : Prop :=
  ∃ base ∈ x.2.bases, ∃ c symbol parent arguments aliasName d members e,
    Returns (P.resolve x.1 [] (some base)) c (.record symbol parent arguments aliasName) d ∧
    Returns (P.propertiesOf parent arguments) d members e ∧ Pairs.keys members = names

theorem parent_of_returns {base : Expr} {names : List String} (member : base ∈ x.2.bases)
    (returned : Returns (do
      match ← P.resolve x.1 [] (some base) with
      | .record _ parent arguments _ => return Pairs.keys (← P.propertiesOf parent arguments)
      | _ => return []) c names d) (some : names ≠ []) : P.Parent x names := by
  obtain ⟨h, m, resolved, returned⟩ := (returns_bind_iff _ _ _).mp returned
  split at returned
  · obtain ⟨members, n, asked, returned⟩ := (returns_bind_iff _ _ _).mp returned
    obtain ⟨rfl, rfl⟩ := (returns_pure_iff _ _).mp returned
    exact ⟨base, member, _, _, _, _, _, _, _, _, resolved, asked, rfl⟩
  · obtain ⟨rfl, _⟩ := (returns_pure_iff _ _).mp returned
    exact absurd rfl some

theorem returns_fieldNames {name first : String} {rest : List String} {parents : List (List String)}
    (blank : c.records = [])
    (returned : Returns (P.fieldNames name) c (first :: rest, parents) d) :
    ∃ x source m properties n, P.Binds x ∧ m.Genuine P ∧
      m.records.lookup x.key = some (some source) ∧
      Returns (P.propertiesOf source []) m properties n ∧
      Pairs.keys properties = first :: rest ∧
      ∀ names ∈ parents, names ≠ [] → P.Parent x names := by
  unfold fieldNames findName at returned
  simp only [bind_assoc, pure_bind] at returned
  obtain ⟨_, e, opened, returned⟩ := (returns_bind_iff _ _ _).mp returned
  obtain rfl := (returns_modify_iff _ _).mp opened
  have begun : (c.openAll (P.lookupName P.entry name).2).Genuine P :=
    CheckState.genuine_of_blank blank
  have grounds := grounds_lookupName P P.entry name
  split at returned
  · rename_i home definition found
    rw [found] at grounds
    let x : Declared := (home, definition)
    have bound : P.Binds x := grounds
    obtain ⟨record, m, read, returned⟩ := (returns_bind_iff _ _ _).mp returned
    split at returned
    · rename_i source
      obtain ⟨properties, n, asked, returned⟩ := (returns_bind_iff _ _ _).mp returned
      obtain ⟨found, e, walked, returned⟩ := (returns_bind_iff _ _ _).mp returned
      obtain ⟨same, rfl⟩ := (returns_pure_iff _ _).mp returned
      obtain ⟨names, rfl⟩ := Prod.mk.inj same
      refine ⟨x, source, m, properties, n, bound, begun.recordOf bound read,
        lookup_of_recordOf bound.choose_spec read, asked, names.symm, fun names inside some => ?_⟩
      obtain ⟨base, member, _, _, denoted⟩ := exists_of_returns_mapM walked names inside
      exact parent_of_returns member denoted some
    · obtain ⟨impossible, _⟩ := (returns_pure_iff _ _).mp returned
      cases impossible
  · obtain ⟨impossible, _⟩ := (returns_pure_iff _ _).mp returned
    cases impossible

/-- Two bases that share a base, and a field that is ignored. -/
def diamond : Program := .ofLines ⟨.root, ["app", "functions.py"]⟩ [
  "from dataclasses import dataclass",
  "from typing import ClassVar",
  "@dataclass",
  "class Root:",
  "    id: int",
  "    count: ClassVar[int]",
  "@dataclass",
  "class Left(Root):",
  "    left: int",
  "@dataclass",
  "class Right(Root):",
  "    right: int",
  "@dataclass",
  "class Leaf(Left, Right):",
  "    own: int"]

theorem mem_keys_propertiesOf_iff_diamond :
    diamond.Parsed ∧ ∃ x source c properties d, c.Genuine diamond ∧ diamond.Binds x ∧
      c.records.lookup x.key = some (some source) ∧
      Returns (diamond.propertiesOf source []) c properties d ∧
      Pairs.keys properties = ["id", "left", "right", "own"] ∧
      ∃ y, Relation.ReflTransGen (diamond.Extends d) x y ∧ y.Fields diamond "id" := by
  have parsed : diamond.Parsed := parsed_ofLines (by decide +kernel) _
  have shown : (runFrom (diamond.fieldNames "Leaf") (.start diamond)).1 =
      .ok (["id", "left", "right", "own"],
        [["id", "left"], ["id", "right"]]) := by decide +kernel
  obtain ⟨x, source, c, properties, d, bound, genuine, known, returned, names, _⟩ :=
    returns_fieldNames rfl (returns_of_ok shown)
  refine ⟨parsed, x, source, c, properties, d, genuine, bound, known, returned, names, ?_⟩
  refine (mem_keys_propertiesOf_iff parsed genuine x bound source known [] properties returned
    "id").mp ?_
  rw [names]
  exact List.mem_cons_self

def aliasedBase : Program := .ofLines ⟨.root, ["app", "functions.py"]⟩ [
  "from dataclasses import dataclass",
  "@dataclass",
  "class Base:",
  "    id: int",
  "Parent = Base",
  "@dataclass",
  "class Child(Parent):",
  "    name: str",
  "def f(child: Child) -> int:",
  "    return 0"]

/-- A base of the class denotes a record with a field that the class's record does not have. -/
theorem aliasedBase_loses :
    ∃ x source c properties d, aliasedBase.Binds x ∧ c.Genuine aliasedBase ∧
      c.records.lookup x.key = some (some source) ∧
      Returns (aliasedBase.propertiesOf source []) c properties d ∧
      Pairs.keys properties = ["name"] ∧ aliasedBase.Parent x ["id"] := by
  have shown : (runFrom (aliasedBase.fieldNames "Child") (.start aliasedBase)).1 =
      .ok (["name"], [["id"]]) := by decide +kernel
  obtain ⟨x, source, c, properties, d, bound, genuine, known, returned, names, parents⟩ :=
    returns_fieldNames rfl (returns_of_ok shown)
  exact ⟨x, source, c, properties, d, bound, genuine, known, returned, names,
    parents ["id"] List.mem_cons_self (List.cons_ne_nil _ _)⟩

end Program

end HintSchema

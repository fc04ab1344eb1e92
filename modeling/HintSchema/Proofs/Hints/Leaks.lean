import HintSchema.Proofs.Hints.Properties

/-!
Which type variables a declaration leaves without a meaning. Each hint is read with the names that
have a meaning where it stands, and leads to others: to its parts, to the value of an alias, to the
fields of a record. A type variable that is met outside the names of its hint stays as it is,
whatever the declaration is applied to.
-/

namespace HintSchema

/-- What is read: a hint of a file, or the fields of a record, with the names that have a meaning
there. -/
inductive Reading where
  | hint (file : Path) (keys : List String) (e : Expr)
  | fields (source : RecordSource) (keys : List String)

namespace Program

variable {P : Program} {z : CheckState}

/-- Reading the first leads to reading the second. An alias, a class and a base give a meaning to as
many of their own variables as they have arguments there; a record that is written in a hint, or
declared by a call, gives a meaning to none. -/
inductive Leads (P : Program) (z : CheckState) : Reading → Reading → Prop
  | subhint {file : Path} {keys : List String} {e part : Expr} (inside : P.Subhint file e part) :
      Leads P z (.hint file keys e) (.hint file keys part)
  | value {file : Path} {keys : List String} {e : Expr} {key : NameKey} {value : Expr}
      (stands : P.StandsFor file keys e (.alias key value)) :
      Leads P z (.hint file keys e)
        (.hint key.file ((P.variablesOf key.file value []).take e.arity) value)
  | ofClass {file : Path} {keys : List String} {e : Expr} {home : Path}
      {definition : ClassDef Statement} {source : RecordSource}
      (stands : P.StandsFor file keys e (.classDef home definition))
      (known : z.records.lookup ⟨home, definition.pos⟩ = some (some source)) :
      Leads P z (.hint file keys e) (.fields source (source.typeParameters.take e.arity))
  | ofCall {file : Path} {keys : List String} {e : Expr} {key : NameKey} {call : RecordCall}
      (stands : P.StandsFor file keys e (.recordCall key call)) :
      Leads P z (.hint file keys e) (.fields (Program.recordOfCall key call) [])
  | inline {file : Path} {keys : List String} {pos place : Position} {value index : Expr}
      {items : List DictItem} {rest : List Expr} (first : index.indices = .dict place items :: rest)
      (looked : (P.lookupExpr file value).1 = .ok (.special "typing.TypedDict")) :
      Leads P z (.hint file keys (.subscript pos value index))
        (.fields { kind := .inlineTypedDict, file, fields := .ofDict (.dict place items) } [])
  | field {source : RecordSource} {keys : List String} {hint : Expr}
      (field : source.Field P hint) :
      Leads P z (.fields source keys) (.hint source.file keys hint)
  | baseArgument {source record : RecordSource} {keys : List String} {base hint : Expr}
      (above : source.Base P z base record) (inside : hint ∈ base.bracketed) :
      Leads P z (.fields source keys) (.hint source.file keys hint)
  | base {source record : RecordSource} {keys : List String} {base : Expr}
      (above : source.Base P z base record) :
      Leads P z (.fields source keys) (.fields record (record.typeParameters.take base.arity))

/-- A hint is the type variable of the name, where that has no meaning. -/
inductive Unbound (P : Program) (name : String) : Reading → Prop
  | mk {file : Path} {keys : List String} {e : Expr}
      (stands : P.StandsFor file keys e (.typeVariable name)) (free : name ∉ keys) :
      Unbound P name (.hint file keys e)

/-- Reading leads to the type variable where it has no meaning. -/
def Leaks (P : Program) (z : CheckState) (r : Reading) (name : String) : Prop :=
  ∃ s, Relation.ReflTransGen (P.Leads z) r s ∧ P.Unbound name s

/-- Reading leads to none of the type variables where they have no meaning. -/
def Tight (P : Program) (z : CheckState) (names : List String) (r : Reading) : Prop :=
  ∀ name ∈ names, ¬ P.Leaks z r name

variable {names : List String} {r s : Reading}

theorem Tight.step (tight : P.Tight z names r) (leads : P.Leads z r s) : P.Tight z names s :=
  fun name member ⟨t, reached, unbound⟩ =>
    tight name member ⟨t, .head leads reached, unbound⟩

theorem Tight.not_mem {file : Path} {keys : List String} {e : Expr} {name : String}
    (tight : P.Tight z names (.hint file keys e))
    (stands : P.StandsFor file keys e (.typeVariable name)) (free : name ∉ keys) : name ∉ names :=
  fun member => tight name member ⟨_, .refl, stands, free⟩

theorem closedRecords_tight (P : Program) (z : CheckState) (names : List String) :
    P.ClosedRecords z (fun file keys e => P.Tight z names (.hint file keys e))
      fun source keys => P.Tight z names (.fields source keys) where
  subhint _ _ _ _ tight inside := tight.step (.subhint inside)
  value _ _ _ _ _ tight stands := tight.step (.value stands)
  field _ _ _ tight field := tight.step (.field field)
  baseArgument _ _ _ _ _ tight above inside := tight.step (.baseArgument above inside)
  base _ _ _ _ tight above := tight.step (.base above)

def subhints (P : Program) (file : Path) : Expr → List Expr
  | .binary _ .bitOr left right => [left, right]
  | .literal _ (.text text _) =>
    (text.chars?.bind fun chars => Parser.expression? (Text.strip chars)).toList
  | .subscript _ value index =>
    match (P.lookupExpr file value).1 with
    | .ok form => shown form index.indices
    | .error _ => []
  | _ => []

theorem mem_subhints {file : Path} {e part : Expr} (inside : P.Subhint file e part) :
    part ∈ P.subhints file e := by
  cases inside with
  | argument found member => rwa [subhints, found]
  | left | right => simp [subhints]
  | text quotes =>
    obtain ⟨chars, held, parsed⟩ := quotes
    simp [subhints, held, parsed]

def meaning? (P : Program) (file : Path) (keys : List String) (e : Expr) : Option Binding :=
  match e with
  | .name _ id => if id ∈ keys then none else (P.lookupExpr file e.base).1.toOption
  | _ => (P.lookupExpr file e.base).1.toOption

theorem StandsFor.meaning? {file : Path} {keys : List String} {e : Expr} {found : Binding}
    (stands : P.StandsFor file keys e found) : P.meaning? file keys e = some found := by
  unfold Program.meaning?
  split
  · rw [if_neg (stands.free _ _ rfl)]
    exact Except.toOption_eq_some_iff.mpr stands.looked
  · exact Except.toOption_eq_some_iff.mpr stands.looked

def known? (z : CheckState) (home : Path) (definition : ClassDef Statement) : Option RecordSource :=
  (z.records.lookup ⟨home, definition.pos⟩).join

def behind (P : Program) (z : CheckState) (arity : Nat) : Binding → Option Reading
  | .alias key value =>
    some (.hint key.file ((P.variablesOf key.file value []).take arity) value)
  | .classDef home definition =>
    (known? z home definition).map fun source =>
      .fields source (source.typeParameters.take arity)
  | .recordCall key call => some (.fields (Program.recordOfCall key call) [])
  | _ => none

/-- The fields that are written in a hint. -/
def written (file : Path) : Expr → List Reading
  | .subscript _ _ index =>
    match index.indices with
    | .dict place items :: _ =>
      [.fields { kind := .inlineTypedDict, file, fields := .ofDict (.dict place items) } []]
    | _ => []
  | _ => []

def above (P : Program) (z : CheckState) (file : Path) (keys : List String) (base : Expr) :
    List Reading :=
  match (P.lookupExpr file base.base).1 with
  | .ok (.classDef home parent) =>
    match known? z home parent with
    | some record =>
      .fields record (record.typeParameters.take base.arity) ::
        base.bracketed.map (.hint file keys)
    | none => []
  | _ => []

/-- All that a reading leads to, and maybe more. -/
def next (P : Program) (z : CheckState) : Reading → List Reading
  | .hint file keys e =>
    (P.subhints file e).map (.hint file keys) ++
      ((P.meaning? file keys e).bind (P.behind z e.arity)).toList ++ written file e
  | .fields source keys =>
    match source.fields with
    | .ofDict (.dict _ items) => items.map fun item => .hint source.file keys item.value
    | .ofDict _ => []
    | .ofClass definition =>
      (definition.body.filterMap fun
        | .declare _ hint _ _ => some (.hint source.file keys hint)
        | _ => none) ++
      definition.bases.flatMap (P.above z source.file keys)

theorem mem_above {source record : RecordSource} {keys : List String} {base : Expr}
    {t : Reading} (extended : source.Base P z base record)
    (member : t = .fields record (record.typeParameters.take base.arity) ∨
      t ∈ base.bracketed.map (.hint source.file keys)) : t ∈ P.next z (.fields source keys) := by
  obtain ⟨fields, inside, looked, known⟩ := extended
  rw [next, fields]
  refine List.mem_append_right _ (List.mem_flatMap.mpr ⟨base, inside, ?_⟩)
  rw [above, looked]
  simpa [known?, known] using member

theorem mem_next (leads : P.Leads z r s) : s ∈ P.next z r := by
  cases leads with
  | subhint inside =>
    exact List.mem_append_left _ (List.mem_append_left _ (List.mem_map_of_mem (mem_subhints inside)))
  | value stands | ofCall stands => simp [next, stands.meaning?, behind]
  | ofClass stands known => simp [next, stands.meaning?, behind, known?, known]
  | inline first looked =>
    refine List.mem_append_right _ ?_
    simp [written, first]
  | field field =>
    cases field with
    | item fields member =>
      rw [next, fields]
      exact List.mem_map.mpr ⟨_, member, rfl⟩
    | declared fields member _ =>
      rw [next, fields]
      exact List.mem_append_left _ (List.mem_filterMap.mpr ⟨_, member, rfl⟩)
  | baseArgument above inside => exact mem_above above (.inr (List.mem_map_of_mem inside))
  | base extended => exact mem_above extended (.inl rfl)

/-- None of the names is a type variable without a meaning here. -/
def bound (P : Program) (names : List String) : Reading → Bool
  | .hint file keys e =>
    match P.meaning? file keys e with
    | some (.typeVariable name) => keys.contains name || !names.contains name
    | _ => true
  | .fields _ _ => true

/-- A test of all that is led to in fewer than `fuel` steps. -/
def tight (P : Program) (z : CheckState) (names : List String) : Nat → Reading → Bool
  | 0, _ => false
  | fuel + 1, r => P.bound names r && (P.next z r).all (tight P z names fuel)

theorem not_mem_of_bound {name : String} (unbound : P.Unbound name r)
    (bound : P.bound names r = true) : name ∉ names := by
  obtain ⟨stands, free⟩ := unbound
  rw [Program.bound, stands.meaning?] at bound
  simpa [free] using bound

theorem tight_of_test {fuel : Nat} (tested : P.tight z names fuel r = true) :
    P.Tight z names r := by
  induction fuel generalizing r with
  | zero => cases tested
  | succ fuel ih =>
    rw [tight, Bool.and_eq_true, List.all_eq_true] at tested
    rintro name member ⟨s, reached, unbound⟩
    rcases Relation.ReflTransGen.cases_head reached with rfl | ⟨t, first, later⟩
    · exact not_mem_of_bound unbound tested.1 member
    · exact ih (tested.2 t (mem_next first)) name member ⟨s, later, unbound⟩

end Program

end HintSchema

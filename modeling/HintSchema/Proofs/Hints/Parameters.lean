import HintSchema.Proofs.Hints.Applied
import HintSchema.Proofs.Hints.Culprits
import HintSchema.Proofs.Syntax.Reading

/-!
The type parameters of generic classes and aliases. The type variables of an expression are found
level by level; where that is not the order in which they are written, the arguments of a generic are
bound to other variables than the language binds them to.
-/

namespace HintSchema

theorem nodup_eraseDups : ∀ names : List String, names.eraseDups.Nodup
  | [] => .nil
  | first :: rest => by
    rw [List.eraseDups_cons, List.nodup_cons, List.mem_eraseDups]
    exact ⟨by simp, nodup_eraseDups _⟩
termination_by names => names.length
decreasing_by exact Nat.lt_succ_of_le (List.length_filter_le _ _)

namespace Binding

def typeVariable? : Binding → Option String
  | typeVariable name => some name
  | _ => none

end Binding

namespace Program

variable {P : Program} {file : Path} {names : List String} {es ws : List Expr}

def typeVariable? (P : Program) (file : Path) : Expr → Option String
  | .name _ id => (P.lookupName file id).1.typeVariable?.map fun _ => id
  | e => (P.lookupExpr file e).1.toOption.bind Binding.typeVariable?

def variablesFound (P : Program) (file : Path) (es : List Expr) : List String :=
  (es.flatMap Expr.namesByLevel).foldl (P.afterName file) []

def variablesWritten (P : Program) (file : Path) (es : List Expr) : List String :=
  ((es.flatMap Expr.words).filterMap (P.typeVariable? file)).eraseDups

theorem afterName_eq (P : Program) (file : Path) (known : List String) (name : String) :
    P.afterName file known name =
      if name ∈ known ∨ (P.lookupName file name).1.typeVariable? = none then known
      else known ++ [name] := by
  unfold afterName
  by_cases old : name ∈ known
  · simp [old]
  · cases (P.lookupName file name).1 <;> simp [old, Binding.typeVariable?]

/-- Going through the names finds each type variable among them once, in the order in which they
come first. -/
structure Finds (P : Program) (file : Path) (names found : List String) : Prop where
  nodup : found.Nodup
  mem_iff : ∀ name, name ∈ found ↔ name ∈ names ∧ (P.lookupName file name).1.typeVariable?.isSome
  ordered : found.Pairwise fun u v => names.idxOf u < names.idxOf v

theorem Finds.step {before known : List String} (finds : P.Finds file before known)
    (name : String) : P.Finds file (before ++ [name]) (P.afterName file known name) := by
  obtain ⟨nodup, mem_iff, ordered⟩ := finds
  have inside {u : String} (member : u ∈ known) : u ∈ before := ((mem_iff u).mp member).1
  have kept : known.Pairwise fun u v =>
      (before ++ [name]).idxOf u < (before ++ [name]).idxOf v := by
    refine ordered.imp_of_mem fun first second lt => ?_
    rwa [List.idxOf_append_of_mem (inside first), List.idxOf_append_of_mem (inside second)]
  rw [afterName_eq]
  split
  · rename_i nothing
    refine ⟨nodup, fun other => ?_, kept⟩
    rw [mem_iff, List.mem_append, List.mem_singleton]
    constructor
    · exact fun held => ⟨.inl held.1, held.2⟩
    · rintro ⟨old | rfl, isVariable⟩
      · exact ⟨old, isVariable⟩
      · rcases nothing with known | other
        · exact (mem_iff _).mp known
        · rw [other] at isVariable
          cases isVariable
  · rename_i new
    obtain ⟨unknown, isVariable⟩ := not_or.mp new
    have isVariable := Option.isSome_iff_ne_none.mpr isVariable
    have first : name ∉ before := fun old => unknown ((mem_iff name).mpr ⟨old, isVariable⟩)
    refine ⟨?_, fun other => ?_, ?_⟩
    · rw [← List.concat_eq_append]
      exact nodup.concat unknown
    · rw [List.mem_append, List.mem_append, List.mem_singleton, mem_iff]
      constructor
      · rintro (⟨old, held⟩ | rfl)
        · exact ⟨.inl old, held⟩
        · exact ⟨.inr rfl, isVariable⟩
      · rintro ⟨old | rfl, held⟩
        · exact .inl ⟨old, held⟩
        · exact .inr rfl
    · refine List.pairwise_append.mpr ⟨kept, List.pairwise_singleton _ _, fun u member v same => ?_⟩
      obtain rfl := List.mem_singleton.mp same
      rw [List.idxOf_append_of_mem (inside member), List.idxOf_append_of_notMem first]
      exact Nat.lt_add_right _ (List.idxOf_lt_length_of_mem (inside member))

theorem finds (P : Program) (file : Path) (names : List String) :
    P.Finds file names (names.foldl (P.afterName file) []) := by
  induction names using List.reverseRecOn with
  | nil => exact ⟨.nil, by simp, .nil⟩
  | append_singleton before name ih =>
    rw [List.foldl_concat]
    exact ih.step name

/-- The type variables that are found are those that are written, and whichever is written earlier
is found earlier. -/
structure InOrder (P : Program) (file : Path) (es ws : List Expr) : Prop where
  same : ∀ name, name ∈ P.variablesFound file es ↔ name ∈ P.variablesWritten file ws
  ordered : (P.variablesWritten file ws).Pairwise fun u v =>
    (es.flatMap Expr.namesByLevel).idxOf u < (es.flatMap Expr.namesByLevel).idxOf v

theorem found_eq_written_iff :
    P.variablesFound file es = P.variablesWritten file ws ↔ P.InOrder file es ws := by
  have found := P.finds file (es.flatMap Expr.namesByLevel)
  constructor
  · intro same
    exact ⟨fun name => by rw [same], same ▸ found.ordered⟩
  · intro inOrder
    have permuted := (List.perm_ext_iff_of_nodup found.nodup (nodup_eraseDups _)).mpr inOrder.same
    exact permuted.eq_of_pairwise (fun u v _ _ before after => absurd before after.not_gt)
      found.ordered inOrder.ordered

def PlainVariables (P : Program) (file : Path) (es : List Expr) : Prop :=
  ∀ w ∈ es.flatMap Expr.words, (∃ pos id, w = .name pos id) ∨
    (P.typeVariable? file w = none ∧ (P.lookupName file w.root).1.typeVariable? = none)

theorem found_perm_written (plain : P.PlainVariables file es) :
    (P.variablesFound file es).Perm (P.variablesWritten file es) := by
  have found := P.finds file (es.flatMap Expr.namesByLevel)
  refine (List.perm_ext_iff_of_nodup found.nodup (nodup_eraseDups _)).mpr fun name => ?_
  have named : name ∈ es.flatMap Expr.namesByLevel ↔
      ∃ w ∈ es.flatMap Expr.words, w.root = name := by
    simp only [List.mem_flatMap, (Expr.perm_namesByLevel _).mem_iff, List.mem_map]
    grind
  rw [found.mem_iff, named, List.mem_eraseDups, List.mem_filterMap]
  constructor
  · rintro ⟨⟨w, member, rfl⟩, isVariable⟩
    refine ⟨w, member, ?_⟩
    rcases plain w member with ⟨pos, id, rfl⟩ | ⟨_, none⟩
    · exact Option.map_eq_some_iff.mpr ⟨_, Option.some_get isVariable |>.symm, rfl⟩
    · rw [none] at isVariable
      cases isVariable
  · rintro ⟨w, member, stands⟩
    rcases plain w member with ⟨pos, id, rfl⟩ | ⟨none, _⟩
    · obtain ⟨variableName, found, rfl⟩ := Option.map_eq_some_iff.mp stands
      exact ⟨⟨_, member, rfl⟩, Option.isSome_iff_exists.mpr ⟨variableName, found⟩⟩
    · rw [none] at stands
      cases stands

end Program

def Declared.brackets (x : Declared) : List Expr :=
  x.2.bases.filterMap fun
    | .subscript _ _ index => some index
    | _ => none

namespace Program

variable {P : Program} {x : Declared} {z : CheckState} {source : RecordSource} {as : List Handle}

theorem parametersOf_eq (P : Program) (x : Declared) :
    P.parametersOf x = P.variablesFound x.1 x.brackets := by
  unfold parametersOf variablesFound Declared.brackets
  generalize ([] : List String) = known
  induction x.2.bases generalizing known with
  | nil => rfl
  | cons base rest ih =>
    rw [List.foldl_cons, ih]
    cases base with
    | subscript pos value index =>
      rw [List.filterMap_cons, List.flatMap_cons, List.foldl_append]
      rfl
    | _ => rfl

def genericBrackets? (P : Program) (x : Declared) : Option Expr :=
  x.2.bases.findSome? fun
    | .subscript _ value index =>
      match (P.lookupExpr x.1 value).1 with
      | .ok (.special "typing.Generic") => some index
      | _ => none
    | _ => none

/-- The brackets that decide on the type parameters of the class: those of `Generic`, and otherwise
those of all bases. -/
def decidingBrackets (P : Program) (x : Declared) : List Expr :=
  match P.genericBrackets? x with
  | some index => [index]
  | none => x.brackets

def declaredParameters (P : Program) (x : Declared) : List String :=
  P.variablesWritten x.1 (P.decidingBrackets x)

/-- Under the arguments the record has the fields that it has under its own type parameters, with
each parameter replaced by the argument at its place. -/
def Substitutes (P : Program) (z : CheckState) (source : RecordSource) (as : List Handle) : Prop :=
  ∀ c members d c' members' d',
    Returns (P.propertiesOf source (source.typeParameters.map .typeParameter)) c members d →
    d.Grows P z → Returns (P.propertiesOf source as) c' members' d' → d'.Grows P z →
    List.Forall₂ (fun v w => v.1 = w.1 ∧
      w.2.unnamed = (v.2.subst (source.typeParameters.zip as)).unnamed) members members'

theorem substitutes_of_tight (distinct : source.typeParameters.Nodup)
    (count : as.length = source.typeParameters.length) (whole : ∀ a ∈ as, a.Whole)
    (tight : P.Tight z source.typeParameters (.fields source source.typeParameters)) :
    P.Substitutes z source as := by
  intro c members d c' members' d' asked grown asked' grown'
  have known : Handle.WholeScope (source.typeParameters.zip as) :=
    fun v member => whole v.2 (List.of_mem_zip member).2
  have named : Pairs.keys (source.typeParameters.zip as) ⊆ source.typeParameters := by
    rw [Pairs.keys_zip]
    exact List.take_subset _ _
  have held : P.Tight z source.typeParameters (.fields source (source.typeParameters.take
      (source.typeParameters.map Handle.typeParameter).length)) := by
    rwa [List.length_map, List.take_length]
  have related := (recordCongruence_becomes known named).propertiesOf held
    (becomes_parameters distinct count.symm) _ _ _ _ _ _ asked asked' grown grown'
  exact related.imp fun _ _ pair => ⟨pair.1, pair.2.same⟩

/-- The type parameters of a record are those of its class in the order of the language exactly
where they are found in that order; where chains of members have nothing to do with type variables,
they are those in all brackets, if in another order. A hint that applies the class is the record
under the arguments, with each type parameter replaced by the argument at its place in the fields.
-/
theorem class_parameters (P : Program) (parsed : P.Parsed) (handles : List Handle)
    (c d : CheckState) (session : P.Session handles c) (x : Declared) (bound : P.Binds x)
    (source : RecordSource) (answered : Returns (P.recordOf x.1 x.2) c (some source) d) :
    (source.typeParameters = P.declaredParameters x ↔
      P.InOrder x.1 x.brackets (P.decidingBrackets x)) ∧
    (P.PlainVariables x.1 x.brackets →
      source.typeParameters.Perm (P.variablesWritten x.1 x.brackets)) ∧
    ∀ file scope pos value index k h e z,
      (P.lookupExpr file value).1 = .ok (.classDef x.1 x.2) → Handle.WholeScope scope →
      index.indices.length = source.typeParameters.length →
      P.Tight z source.typeParameters (.fields source source.typeParameters) →
      Returns (P.resolve file scope (some (.subscript pos value index))) k h e →
      d.Grows P z → e.Grows P z →
      ∃ as l m, Returns (index.indices.mapM fun argument => P.resolve file scope (some argument))
          l as m ∧
        h = .record (.declaredAt x.2.name x.1 x.2.pos) source as none ∧
        P.Substitutes z source as := by
  have placed := parsed.placed
  obtain ⟨declares, _⟩ := ((remembers_blame placed).recordOf bound).of_returns answered
    (session.held placed).1
  obtain ⟨kind, same, _⟩ := declares source rfl
  have found : source.typeParameters = P.variablesFound x.1 x.brackets := by
    rw [same, recordOfClass, parametersOf_eq]
  have distinct : source.typeParameters.Nodup := found ▸ (P.finds x.1 _).nodup
  refine ⟨by rw [found]; exact found_eq_written_iff,
    fun plain => by rw [found]; exact found_perm_written plain, ?_⟩
  intro file scope pos value index k h e z looked whole count tight resolved grown later
  have known : (Generic.ofClass x.1 x.2 source).Known z := by
    obtain ⟨_, member⟩ := bound
    exact ⟨grown.known _ _ (lookup_of_recordOf member answered), distinct⟩
  obtain ⟨as, l, m, _, argued, applied⟩ := returns_resolve_applied looked known later resolved
  obtain ⟨rfl, _⟩ := (returns_pure_iff _ _).mp applied
  have wholes : Settles P (index.indices.mapM fun argument => P.resolve file scope (some argument))
      fun handles => ∀ a ∈ handles, a.Whole :=
    .mapM fun argument _ => settles_resolve Formation.whole file whole (some argument)
  exact ⟨as, l, m, argued, rfl, substitutes_of_tight distinct
    ((length_of_returns_mapM argued).trans count) (wholes _ _ _ argued).1 tight⟩

structure AppliedFields where
  /-- The type parameters of its record. -/
  found : List String
  /-- Those of the class in the order of the language. -/
  declared : List String
  /-- The fields of the record under its type parameters. -/
  pattern : List (String × Identity)
  /-- The fields of the record in the hint. -/
  members : List (String × Identity)
  /-- Whether there is an argument for each parameter, and the record leaks none of them. -/
  sound : Bool
  deriving DecidableEq

def appliedFields? (P : Program) (test : Expr → Bool) : CheckM (Option AppliedFields) := do
  match P.hintsWhere test with
  | [.subscript pos value index] =>
    match (P.lookupExpr P.entry value).1 with
    | .ok (.classDef home definition) =>
      match ← P.recordOf home definition with
      | some source =>
        match ← P.resolve P.entry [] (some (.subscript pos value index)) with
        | .record _ _ as _ =>
          let pattern ← P.propertiesOf source (source.typeParameters.map .typeParameter)
          let members ← P.propertiesOf source as
          let z ← get
          return some {
            found := source.typeParameters
            declared := P.declaredParameters (home, definition)
            pattern := pattern.map fun m => (m.1, m.2.identity)
            members := members.map fun m => (m.1, m.2.identity)
            sound := index.indices.length = source.typeParameters.length &&
              P.tight z source.typeParameters 8 (.fields source source.typeParameters) }
        | _ => return none
      | none => return none
    | _ => return none
  | _ => return none

theorem returns_appliedFields? {test : Expr → Bool} {a : AppliedFields} {c z : CheckState}
    (returned : Returns (P.appliedFields? test) c (some a) z) :
    ∃ x pos value index source d symbol applied as aliasName e pattern m members,
      (P.lookupExpr P.entry value).1 = .ok (.classDef x.1 x.2) ∧
      Returns (P.recordOf x.1 x.2) c (some source) d ∧
      Returns (P.resolve P.entry [] (some (.subscript pos value index))) d
        (.record symbol applied as aliasName) e ∧
      Returns (P.propertiesOf source (source.typeParameters.map .typeParameter)) e pattern m ∧
      Returns (P.propertiesOf source as) m members z ∧
      source.typeParameters = a.found ∧ P.declaredParameters x = a.declared ∧
      pattern.map (fun m => (m.1, m.2.identity)) = a.pattern ∧
      members.map (fun m => (m.1, m.2.identity)) = a.members ∧
      (index.indices.length = source.typeParameters.length &&
        P.tight z source.typeParameters 8 (.fields source source.typeParameters)) = a.sound := by
  unfold appliedFields? at returned
  split at returned
  · split at returned
    · rename_i pos value index _ _ home definition looked
      obtain ⟨record, d, read, returned⟩ := (returns_bind_iff _ _ _).mp returned
      split at returned
      · rename_i source
        obtain ⟨h, e, resolved, returned⟩ := (returns_bind_iff _ _ _).mp returned
        split at returned
        · rename_i symbol applied as aliasName
          obtain ⟨pattern, m, unapplied, returned⟩ := (returns_bind_iff _ _ _).mp returned
          obtain ⟨members, n, asked, returned⟩ := (returns_bind_iff _ _ _).mp returned
          obtain ⟨_, _, ⟨rfl, rfl⟩, returned⟩ := (returns_bind_iff _ _ _).mp returned
          obtain ⟨same, rfl⟩ := (returns_pure_iff _ _).mp returned
          cases same
          exact ⟨(home, definition), pos, value, index, source, d, symbol, applied, as, aliasName, e,
            pattern, m, members, looked, read, resolved, unapplied, asked, rfl, rfl, rfl, rfl, rfl⟩
        · cases ((returns_pure_iff _ _).mp returned).1
      · cases ((returns_pure_iff _ _).mp returned).1
    · cases ((returns_pure_iff _ _).mp returned).1
  · cases ((returns_pure_iff _ _).mp returned).1

def isChild : Expr → Bool
  | .subscript _ (.name _ "Child") _ => true
  | _ => false

def levelPair : Program := .ofLines ⟨.root, ["app", "functions.py"]⟩ [
  "from typing import Generic, List, TypedDict, TypeVar",
  "T = TypeVar(\"T\")",
  "U = TypeVar(\"U\")",
  "class Pair(TypedDict, Generic[T, U]):",
  "    first: List[T]",
  "    second: U",
  "class Child(Pair[U, int], Generic[U, T]):",
  "    own: T",
  "def f(child: Child[int, str]) -> int:",
  "    return 0"]

theorem class_parameters_levelPair :
    ∃ c d x source pos value index symbol as aliasName e pattern m members z,
      levelPair.Parsed ∧ levelPair.Session [] c ∧ levelPair.Binds x ∧
      Returns (levelPair.recordOf x.1 x.2) c (some source) d ∧
      levelPair.InOrder x.1 x.brackets (levelPair.decidingBrackets x) ∧
      source.typeParameters = levelPair.declaredParameters x ∧
      source.typeParameters = ["U", "T"] ∧
      Returns (levelPair.resolve levelPair.entry [] (some (.subscript pos value index))) d
        (.record symbol source as aliasName) e ∧
      Returns (levelPair.propertiesOf source [.typeParameter "U", .typeParameter "T"]) e pattern m ∧
      Returns (levelPair.propertiesOf source as) m members z ∧
      List.Forall₂ (fun v w => v.1 = w.1 ∧
        w.2.unnamed = (v.2.subst (["U", "T"].zip as)).unnamed) pattern members ∧
      pattern.map (fun m => (m.1, m.2.identity)) = [("first", .list (.typeParameter "U")),
        ("second", .intrinsic .int), ("own", .typeParameter "T")] ∧
      members.map (fun m => (m.1, m.2.identity)) = [("first", .list (.intrinsic .int)),
        ("second", .intrinsic .int), ("own", .intrinsic .str)] := by
  have shown : (runFrom (levelPair.appliedFields? isChild) (.start levelPair)).1 =
      .ok (some {
        found := ["U", "T"], declared := ["U", "T"]
        pattern := [("first", .list (.typeParameter "U")), ("second", .intrinsic .int),
          ("own", .typeParameter "T")]
        members := [("first", .list (.intrinsic .int)), ("second", .intrinsic .int),
          ("own", .intrinsic .str)]
        sound := true }) := by decide +kernel
  obtain ⟨x, pos, value, index, source, d, symbol, applied, as, aliasName, e, pattern, m, members,
    looked, read, resolved, unapplied, asked, found, declared, first, second, sound⟩ :=
    returns_appliedFields? (returns_of_ok shown)
  have parsed : levelPair.Parsed := parsed_ofLines (by decide) _
  have session : levelPair.Session [] (.start levelPair) := .start rfl
  have bound : levelPair.Binds x := grounds_lookupExpr looked
  simp only [Bool.and_eq_true, decide_eq_true_eq] at sound
  obtain ⟨count, tested⟩ := sound
  have last := moves_propertiesOf levelPair _ _ _ _ _ asked
  have later := (moves_propertiesOf levelPair _ _ _ _ _ unapplied).trans last
  have grown := (moves_resolve levelPair _ _ _ _ _ _ resolved).trans later
  have same : source.typeParameters = levelPair.declaredParameters x := found.trans declared.symm
  obtain ⟨inOrder, _, applies⟩ :=
    class_parameters levelPair parsed [] _ d session x bound source read
  obtain ⟨_, _, _, _, record, substitutes⟩ := applies _ _ pos value index d _ e _ looked
    (List.forall_mem_nil _) count (tight_of_test tested) resolved grown later
  obtain ⟨rfl, rfl, rfl, rfl⟩ := Handle.record.inj record
  have related := substitutes _ _ _ _ _ _ unapplied last asked (.refl _)
  rw [found] at related unapplied
  exact ⟨_, d, x, _, pos, value, index, _, _, _, e, pattern, m, members, _, parsed, session, bound,
    read, inOrder.mp same, same, found, resolved, unapplied, asked, related, first, second⟩

/-- A class whose base names the first variable below the second one. -/
def nestedPair : Program := .ofLines ⟨.root, ["app", "functions.py"]⟩ [
  "from typing import Generic, List, TypedDict, TypeVar",
  "T = TypeVar(\"T\")",
  "U = TypeVar(\"U\")",
  "class Pair(TypedDict, Generic[T, U]):",
  "    first: T",
  "    second: U",
  "class Child(Pair[List[T], U]):",
  "    own: T",
  "def f(child: Child[int, str]) -> int:",
  "    return 0"]

/-- The arguments are bound to the variables in the other order. -/
theorem nestedPair_swaps :
    ∃ c d x source pos value index symbol applied as aliasName e m members z,
      nestedPair.Parsed ∧ nestedPair.Session [] c ∧ nestedPair.Binds x ∧
      Returns (nestedPair.recordOf x.1 x.2) c (some source) d ∧
      nestedPair.declaredParameters x = ["T", "U"] ∧ source.typeParameters = ["U", "T"] ∧
      Returns (nestedPair.resolve nestedPair.entry [] (some (.subscript pos value index))) d
        (.record symbol applied as aliasName) e ∧
      Returns (nestedPair.propertiesOf source as) m members z ∧
      members.map (fun m => (m.1, m.2.identity)) = [("first", .list (.intrinsic .str)),
        ("second", .intrinsic .int), ("own", .intrinsic .str)] := by
  have shown : (runFrom (nestedPair.appliedFields? isChild) (.start nestedPair)).1 =
      .ok (some {
        found := ["U", "T"], declared := ["T", "U"]
        pattern := [("first", .list (.typeParameter "T")), ("second", .typeParameter "U"),
          ("own", .typeParameter "T")]
        members := [("first", .list (.intrinsic .str)), ("second", .intrinsic .int),
          ("own", .intrinsic .str)]
        sound := true }) := by decide +kernel
  obtain ⟨x, pos, value, index, source, d, symbol, applied, as, aliasName, e, _, m, members, looked,
    read, resolved, _, asked, found, declared, _, second, _⟩ :=
    returns_appliedFields? (returns_of_ok shown)
  exact ⟨_, d, x, source, pos, value, index, symbol, applied, as, aliasName, e, m, members, _,
    parsed_ofLines (by decide) _, .start rfl, grounds_lookupExpr looked, read, declared, found,
    resolved, asked, second⟩

/-! ### Aliases -/

def aliasParameters (P : Program) (target : AliasRef) : List String :=
  P.variablesFound target.key.file [target.value]

theorem aliasParameters_eq (P : Program) (target : AliasRef) :
    P.aliasParameters target = P.variablesOf target.key.file target.value [] := by
  rw [aliasParameters, variablesFound, List.flatMap_singleton]
  rfl

/-- A hint that applies an alias comes to the value of the alias, resolved where each of its type
variables stands for the argument at its place. They are in the order in which they are written
exactly where they are found in that order; where chains of members have nothing to do with type
variables, they are at least the ones that are written. -/
theorem alias_parameters (P : Program) (target : AliasRef) (file : Path) (scope : TypeVariables)
    (pos : Position) (value index : Expr) (c d : CheckState) (h : Handle)
    (looked : (P.lookupExpr file value).1 = .ok (.alias target.key target.value))
    (resolved : Returns (P.resolve file scope (some (.subscript pos value index))) c h d) :
    (P.aliasParameters target = P.variablesWritten target.key.file [target.value] ↔
      P.InOrder target.key.file [target.value] [target.value]) ∧
    (P.PlainVariables target.key.file [target.value] → (P.aliasParameters target).Perm
      (P.variablesWritten target.key.file [target.value])) ∧
    ∃ as k l m shown n,
      Returns (index.indices.mapM fun argument => P.resolve file scope (some argument)) k as l ∧
      Returns (P.resolveAmong (Pending.without P.aliases target.key) target.key.file
        ((P.aliasParameters target).zip as) target.value) m shown n ∧
      h.unnamed = shown.unnamed ∧
      ∀ z, d.Grows P z → Handle.WholeScope scope →
        index.indices.length = (P.aliasParameters target).length →
        P.Tight z (P.aliasParameters target)
          (.hint target.key.file (P.aliasParameters target) target.value) →
        ∀ p pattern q,
          Returns (P.apparent (.deferred target ((P.aliasParameters target).map .typeParameter)))
            p pattern q → q.Grows P z →
          h.unnamed = (pattern.subst ((P.aliasParameters target).zip as)).unnamed := by
  refine ⟨found_eq_written_iff, found_perm_written, ?_⟩
  obtain ⟨as, k, l, m, argued, applied⟩ := returns_resolve_applied (G := .ofAlias target) looked
    trivial (.refl d) resolved
  have expanded : Returns (P.expandAlias (fun scope => P.resolveAmong
      (Pending.without P.aliases target.key) target.key.file scope target.value) target as) m h d :=
    applied
  obtain ⟨free, n, shown, o, named, asked, _, same⟩ := returns_expandAlias expanded
  obtain rfl := (fixed_typeVariables P _ _ _ _ _ _ _ _ _ named named).2
  rw [aliasParameters_eq]
  refine ⟨as, k, l, n, shown, o, argued, asked, ?_, ?_⟩
  · rcases same with rfl | ⟨_, _, _, _, rfl, rfl⟩ <;> rfl
  · intro z grown whole count tight p pattern q applied' grown'
    have wholes : Settles P (index.indices.mapM fun argument =>
        P.resolve file scope (some argument)) fun handles => ∀ a ∈ handles, a.Whole :=
      .mapM fun argument _ => settles_resolve Formation.whole file whole (some argument)
    have known : Handle.WholeScope ((P.variablesOf target.key.file target.value []).zip as) :=
      fun v member => (wholes _ _ _ argued).1 v.2 (List.of_mem_zip member).2
    have keys : Pairs.keys ((P.variablesOf target.key.file target.value []).zip as) ⊆
        P.variablesOf target.key.file target.value [] := by
      rw [Pairs.keys_zip]
      exact List.take_subset _ _
    have lengths := (length_of_returns_mapM argued).trans count
    have distinct := nodup_variablesOf P target.key.file target.value List.nodup_nil
    exact (becomes_of_applied (G := .ofAlias target) known keys tight (List.length_map _)
      (becomes_parameters distinct lengths.symm) applied' grown' applied grown).same

structure AppliedAlias where
  /-- Its type variables as they are found. -/
  found : List String
  /-- Its type variables as they are written. -/
  written : List String
  /-- What it is under its type variables. -/
  pattern : Identity
  /-- What it is in the hint. -/
  handle : Identity
  /-- Whether there is an argument for each type variable, and the value leaks none of them. -/
  sound : Bool
  deriving DecidableEq

def appliedAlias? (P : Program) (test : Expr → Bool) : CheckM (Option AppliedAlias) := do
  match P.hintsWhere test with
  | [.subscript pos value index] =>
    match (P.lookupExpr P.entry value).1 with
    | .ok (.alias key target) =>
      let found := P.aliasParameters ⟨key, target⟩
      let h ← P.resolve P.entry [] (some (.subscript pos value index))
      let pattern ← P.apparent (.deferred ⟨key, target⟩ (found.map .typeParameter))
      let z ← get
      return some {
        found
        written := P.variablesWritten key.file [target]
        pattern := pattern.identity
        handle := h.identity
        sound := index.indices.length = found.length &&
          P.tight z found 8 (.hint key.file found target) }
    | _ => return none
  | _ => return none

theorem returns_appliedAlias? {test : Expr → Bool} {a : AppliedAlias} {c e : CheckState}
    (returned : Returns (P.appliedAlias? test) c (some a) e) :
    ∃ target pos value index h d pattern,
      (P.lookupExpr P.entry value).1 = .ok (.alias target.key target.value) ∧
      Returns (P.resolve P.entry [] (some (.subscript pos value index))) c h d ∧
      Returns (P.apparent (.deferred target ((P.aliasParameters target).map .typeParameter)))
        d pattern e ∧
      P.aliasParameters target = a.found ∧
      P.variablesWritten target.key.file [target.value] = a.written ∧
      pattern.identity = a.pattern ∧ h.identity = a.handle ∧
      (index.indices.length = (P.aliasParameters target).length && P.tight e
        (P.aliasParameters target) 8
        (.hint target.key.file (P.aliasParameters target) target.value)) = a.sound := by
  unfold appliedAlias? at returned
  split at returned
  · split at returned
    · rename_i pos value index _ _ key target looked
      obtain ⟨h, d, resolved, returned⟩ := (returns_bind_iff _ _ _).mp returned
      obtain ⟨pattern, m, applied, returned⟩ := (returns_bind_iff _ _ _).mp returned
      obtain ⟨_, _, ⟨rfl, rfl⟩, returned⟩ := (returns_bind_iff _ _ _).mp returned
      obtain ⟨same, rfl⟩ := (returns_pure_iff _ _).mp returned
      cases same
      exact ⟨⟨key, target⟩, pos, value, index, h, d, pattern, looked, resolved, applied, rfl, rfl,
        rfl, rfl, rfl⟩
    · cases ((returns_pure_iff _ _).mp returned).1
  · cases ((returns_pure_iff _ _).mp returned).1

def isEither : Expr → Bool
  | .subscript _ (.name _ "Either") _ => true
  | _ => false

def levelAlias : Program := .ofLines ⟨.root, ["app", "functions.py"]⟩ [
  "from typing import List, TypeVar, Union",
  "T = TypeVar(\"T\")",
  "U = TypeVar(\"U\")",
  "Either = Union[T, List[U]]",
  "def f(either: Either[int, str]) -> int:",
  "    return 0"]

theorem alias_parameters_levelAlias :
    ∃ target pos value index c h d as pattern e,
      (levelAlias.lookupExpr levelAlias.entry value).1 = .ok (.alias target.key target.value) ∧
      Returns (levelAlias.resolve levelAlias.entry [] (some (.subscript pos value index))) c h d ∧
      levelAlias.InOrder target.key.file [target.value] [target.value] ∧
      levelAlias.aliasParameters target = ["T", "U"] ∧
      Returns (levelAlias.apparent (.deferred target
        ((levelAlias.aliasParameters target).map .typeParameter))) d pattern e ∧
      h.unnamed = (pattern.subst (["T", "U"].zip as)).unnamed ∧
      pattern.identity = .union [.typeParameter "T", .list (.typeParameter "U")] ∧
      h.identity = .union [.intrinsic .int, .list (.intrinsic .str)] := by
  have shown : (runFrom (levelAlias.appliedAlias? isEither) (.start levelAlias)).1 =
      .ok (some {
        found := ["T", "U"], written := ["T", "U"]
        pattern := .union [.typeParameter "T", .list (.typeParameter "U")]
        handle := .union [.intrinsic .int, .list (.intrinsic .str)]
        sound := true }) := by decide +kernel
  obtain ⟨target, pos, value, index, h, d, pattern, looked, resolved, applied, found, written,
    first, second, sound⟩ := returns_appliedAlias? (returns_of_ok shown)
  simp only [Bool.and_eq_true, decide_eq_true_eq] at sound
  obtain ⟨count, tested⟩ := sound
  have grown := levelAlias.moves_apparent _ _ _ _ applied
  obtain ⟨ordered, _, as, _, _, _, _, _, _, _, _, becomes⟩ :=
    alias_parameters levelAlias target _ _ pos value index _ d h looked resolved
  have same := becomes _ grown (List.forall_mem_nil _) count (tight_of_test tested) _ _ _ applied
    (.refl _)
  rw [found] at same
  exact ⟨target, pos, value, index, _, h, d, as, pattern, _, looked, resolved,
    ordered.mp (found.trans written.symm), found, applied, same, first, second⟩

def nestedAlias : Program := .ofLines ⟨.root, ["app", "functions.py"]⟩ [
  "from typing import List, TypeVar, Union",
  "T = TypeVar(\"T\")",
  "U = TypeVar(\"U\")",
  "Either = Union[List[T], U]",
  "def f(either: Either[int, str]) -> int:",
  "    return 0"]

/-- The first argument replaces the second type variable. -/
theorem nestedAlias_swaps :
    ∃ target pos value index c h d pattern e,
      (nestedAlias.lookupExpr nestedAlias.entry value).1 = .ok (.alias target.key target.value) ∧
      Returns (nestedAlias.resolve nestedAlias.entry [] (some (.subscript pos value index))) c h d ∧
      nestedAlias.variablesWritten target.key.file [target.value] = ["T", "U"] ∧
      nestedAlias.aliasParameters target = ["U", "T"] ∧
      Returns (nestedAlias.apparent (.deferred target
        ((nestedAlias.aliasParameters target).map .typeParameter))) d pattern e ∧
      pattern.identity = .union [.list (.typeParameter "T"), .typeParameter "U"] ∧
      h.identity = .union [.list (.intrinsic .str), .intrinsic .int] := by
  have shown : (runFrom (nestedAlias.appliedAlias? isEither) (.start nestedAlias)).1 =
      .ok (some {
        found := ["U", "T"], written := ["T", "U"]
        pattern := .union [.list (.typeParameter "T"), .typeParameter "U"]
        handle := .union [.list (.intrinsic .str), .intrinsic .int]
        sound := true }) := by decide +kernel
  obtain ⟨target, pos, value, index, h, d, pattern, looked, resolved, applied, found, written,
    first, second, _⟩ := returns_appliedAlias? (returns_of_ok shown)
  exact ⟨target, pos, value, index, _, h, d, pattern, _, looked, resolved, written, found, applied,
    first, second⟩

end Program

end HintSchema

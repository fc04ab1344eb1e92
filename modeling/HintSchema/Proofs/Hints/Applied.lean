import HintSchema.Proofs.Hints.Inquiry
import HintSchema.Proofs.Hints.Reached
import HintSchema.Proofs.Hints.Substitution
import HintSchema.Proofs.Syntax.Weight

/-!
Generic classes and aliases under their arguments. Where a declaration leaks none of its own type
variables, none of them is left in what it is applied to, and each field is what it would be under
the variables themselves, with the variables replaced by the arguments.
-/

namespace HintSchema

/-- What takes type arguments: a class that is a record, or an alias. -/
inductive Generic where
  | ofClass (home : Path) (definition : ClassDef Statement) (source : RecordSource)
  | ofAlias (target : AliasRef)

namespace Generic

def binding : Generic → Binding
  | ofClass home definition _ => .classDef home definition
  | ofAlias target => .alias target.key target.value

def parameters (P : Program) : Generic → List String
  | ofClass _ _ source => source.typeParameters
  | ofAlias target => P.variablesOf target.key.file target.value []

def declaration (P : Program) : Generic → Reading
  | ofClass _ _ source => .fields source source.typeParameters
  | ofAlias target =>
    .hint target.key.file (P.variablesOf target.key.file target.value []) target.value

def apply (arguments : List Handle) : Generic → Handle
  | ofClass home definition source =>
    .record (.declaredAt definition.name home definition.pos) source arguments none
  | ofAlias target => .deferred target arguments

/-- It is known which record the class is, with each type parameter named once. -/
def Known (z : CheckState) : Generic → Prop
  | ofClass home definition source =>
    z.records.lookup ⟨home, definition.pos⟩ = some (some source) ∧ source.typeParameters.Nodup
  | ofAlias _ => True

end Generic

theorem Formation.whole : Formation Handle.Whole where
  intrinsic _ _ := trivial
  void _ := trivial
  union _ _ each := (Handle.whole_unionOf each).1
  list _ _ _ _ := trivial
  awaitable _ _ _ := trivial
  classObject _ _ _ := trivial
  record _ _ _ _ := trivial
  renamed _ _ _ _ _ _ := trivial
  typeParameter _ := trivial
  unsupported _ := trivial
  deferred _ _ _ := trivial

namespace Program

variable {P : Program} {file : Path} {scope : TypeVariables} {e : Expr} {limit limit' : Nat}

section

variable {expand : AliasRef → List Handle → CheckM Handle}

theorem resolveExpr_congr {quoted other : CodeText → CheckM Handle}
    (read : ∀ pos text marked, .literal pos (.text text marked) ∈ e.parts →
      quoted text = other text) :
    P.resolveExpr expand quoted file scope e = P.resolveExpr expand other file scope e := by
  generalize bound : sizeOf e = size
  induction size using Nat.strongRecOn generalizing e with
  | ind size ih =>
    subst bound
    cases e with
    | literal pos value =>
      rw [resolveExpr.eq_def, resolveExpr.eq_def]
      cases value with
      | text text marked => exact read pos text marked (Expr.mem_parts_self _)
      | _ => rfl
    | binary pos op left right =>
      rw [resolveExpr.eq_def, resolveExpr.eq_def]
      cases op with
      | bitOr =>
        have first : left.parts ⊆ (Expr.binary pos .bitOr left right).parts :=
          Expr.parts_subset (by simp [Expr.parts])
        have second : right.parts ⊆ (Expr.binary pos .bitOr left right).parts :=
          Expr.parts_subset (by simp [Expr.parts])
        dsimp only
        rw [ih (sizeOf left) (by simp +arith)
            (fun pos text marked inside => read pos text marked (first inside)) rfl,
          ih (sizeOf right) (by simp +arith)
            (fun pos text marked inside => read pos text marked (second inside)) rfl]
      | _ => rfl
    | subscript pos value index =>
      rw [resolveExpr, resolveExpr]
      refine bind_congr fun found => congrArg (P.handleOfBinding expand file scope found · _) ?_
      refine List.map_congr_left fun argument _ => ?_
      have part_le := Expr.sizeOf_le_of_mem_indices argument.2
      have smaller := Expr.subscript.sizeOf_spec pos value index
      have below : argument.1.parts ⊆ (Expr.subscript pos value index).parts :=
        Expr.parts_of_mem_indices argument.2
      exact congrArg (HintArgument.mk argument.1) (ih (sizeOf argument.1) (by omega)
        (fun pos text marked inside => read pos text marked (below inside)) rfl)
    | _ => rw [resolveExpr.eq_def, resolveExpr.eq_def]

theorem resolveQuoting_limit (below : e.TextsBelow limit) (within : e.TextsBelow limit') :
    P.resolveQuoting expand limit file scope e = P.resolveQuoting expand limit' file scope e := by
  rw [resolveQuoting, resolveQuoting]
  refine resolveExpr_congr fun pos text marked inside => ?_
  rw [dif_pos (below pos text marked inside), dif_pos (within pos text marked inside)]

end

def expandFirst (P : Program) (target : AliasRef) (arguments : List Handle) : CheckM Handle :=
  if _open : target.key ∈ P.aliases then P.apparent (.deferred target arguments)
  else return .deferred target arguments

/-- A hint with arguments is resolved by what its name stands for. The arguments are resolved as the
hints that they are. -/
theorem resolve_subscript (pos : Position) (value index : Expr) :
    P.resolve file scope (some (.subscript pos value index)) = (do
      let found ← P.find file value
      P.handleOfBinding P.expandFirst file scope found
        (index.indices.attach.map fun argument =>
          ⟨argument.1, P.resolve file scope (some argument.1)⟩)
        (.subscript pos value index)) := by
  rw [resolve, resolveAmong, resolveQuoting, resolveExpr]
  refine bind_congr fun found => ?_
  refine congrArg (P.handleOfBinding P.expandFirst file scope found · _) ?_
  refine List.map_congr_left fun (argument : { part // part ∈ index.indices }) _ => ?_
  refine congrArg (HintArgument.mk argument.1) ?_
  have below : argument.1.TextsBelow (Expr.subscript pos value index).weight :=
    (Expr.textsBelow_weight _).of_parts (Expr.parts_of_mem_indices argument.2)
  rw [resolve, resolveAmong, resolveQuoting_limit argument.1.textsBelow_weight below, resolveQuoting]

theorem resolveAll_indices (index : Expr) :
    HintArgument.resolveAll (index.indices.attach.map fun argument =>
      ⟨argument.1, P.resolve file scope (some argument.1)⟩) =
      index.indices.mapM fun argument => P.resolve file scope (some argument) := by
  unfold HintArgument.resolveAll
  rw [List.mapM_map]
  conv_rhs => rw [← List.attach_map_subtype_val index.indices, List.mapM_map]
  rfl

theorem returns_resolve_applied {G : Generic} {pos : Position} {value index : Expr}
    {c d z : CheckState} {h : Handle} (looked : (P.lookupExpr file value).1 = .ok G.binding)
    (known : G.Known z) (grown : d.Grows P z)
    (resolved : Returns (P.resolve file scope (some (.subscript pos value index))) c h d) :
    ∃ as k l m, Returns (index.indices.mapM fun argument => P.resolve file scope (some argument))
      k as l ∧ Returns (P.apparent (G.apply as)) m h d := by
  rw [resolve_subscript] at resolved
  obtain ⟨found, k, asked, resolved⟩ := (returns_bind_iff _ _ _).mp resolved
  have same := (fixed_find P file value _ _ _ _ _ _ asked asked).2
  obtain rfl := Except.ok.inj (same.symm.trans looked)
  cases G with
  | ofClass home definition source =>
    obtain ⟨record, l, read, resolved⟩ := (returns_bind_iff _ _ _).mp resolved
    obtain ⟨_, bound⟩ := grounds_lookupExpr looked
    have all : Moves P (index.indices.mapM fun argument => P.resolve file scope (some argument)) :=
      .mapM fun _ _ => moves_resolve P _ _ _
    split at resolved
    · obtain ⟨as, m, argued, resolved⟩ := (returns_bind_iff _ _ _).mp resolved
      obtain ⟨rfl, rfl⟩ := (returns_pure_iff _ _).mp resolved
      rw [resolveAll_indices] at argued
      have later := ((all _ _ _ argued).trans grown).known _ _ (lookup_of_recordOf bound read)
      cases later.symm.trans known.1
      exact ⟨as, l, _, _, argued, (returns_pure_iff _ _).mpr ⟨rfl, rfl⟩⟩
    · obtain ⟨as, m, argued, resolved⟩ := (returns_bind_iff _ _ _).mp resolved
      obtain ⟨rfl, rfl⟩ := (returns_pure_iff _ _).mp resolved
      rw [resolveAll_indices] at argued
      have later := ((all _ _ _ argued).trans grown).known _ _ (lookup_of_recordOf bound read)
      cases later.symm.trans known.1
  | ofAlias target =>
    obtain ⟨as, l, argued, resolved⟩ := (returns_bind_iff _ _ _).mp resolved
    have listed := mem_aliases (mem_names_of_findSome? (grounds_lookupExpr looked))
    rw [resolveAll_indices] at argued
    rw [expandFirst, dif_pos listed] at resolved
    exact ⟨as, k, l, l, argued, resolved⟩

theorem nodup_variablesOf (P : Program) (file : Path) (e : Expr) {known : List String}
    (distinct : known.Nodup) : (P.variablesOf file e known).Nodup := by
  unfold variablesOf
  induction e.namesByLevel generalizing known with
  | nil => exact distinct
  | cons name rest ih =>
    refine ih ?_
    unfold afterName
    split
    · exact distinct
    · rename_i absent
      have new : name ∉ known := fun inside => absent (List.contains_iff_mem.mpr inside)
      split
      · rw [← List.concat_eq_append]
        exact distinct.concat new
      · exact distinct

theorem nodup_parameters {G : Generic} {z : CheckState} (known : G.Known z) :
    (G.parameters P).Nodup := by
  cases G with
  | ofClass => exact known.2
  | ofAlias => exact nodup_variablesOf P _ _ .nil

theorem becomes_parameters {z : CheckState} {names : List String} {as : List Handle}
    (distinct : names.Nodup) (count : names.length = as.length) :
    List.Forall₂ (P.Becomes z names (names.zip as)) (names.map Handle.typeParameter) as := by
  rw [List.forall₂_map_left_iff]
  refine (Pairs.lookup_zip distinct count).imp fun name a found => ⟨?_, ?_⟩
  · exact .of_single rfl trivial (List.forall_mem_nil _)
  · rw [Handle.subst, found]
    rfl

section

variable {G : Generic} {z : CheckState} {names : List String} {as bs : List Handle} {h : Handle}
  {k d : CheckState}

theorem take_parameters (count : as.length = (G.parameters P).length) :
    (G.parameters P).take as.length = G.parameters P := by
  rw [count, List.take_length]

theorem free_of_applied (tight : P.Tight z names (G.declaration P))
    (count : as.length = (G.parameters P).length) (free : ∀ a ∈ as, P.Apart z names a)
    (applied : Returns (P.apparent (G.apply as)) k h d) (grown : d.Grows P z) :
    P.Free z names h := by
  have parts : ∀ a ∈ as, P.Free z names a := fun a member => .foreign (free a member)
  have all := take_parameters count
  cases G with
  | ofClass home definition source =>
    obtain ⟨rfl, _⟩ := (returns_pure_iff _ _).mp applied
    refine .record ?_ parts
    rwa [show source.typeParameters.take as.length = source.typeParameters from all]
  | ofAlias target =>
    refine (Free.deferred ?_ parts).step (.expanded applied grown)
    rwa [show (P.variablesOf target.key.file target.value []).take as.length = _ from all]

theorem becomes_of_applied {scope : TypeVariables} (known : Handle.WholeScope scope)
    (named : Pairs.keys scope ⊆ names) (tight : P.Tight z names (G.declaration P))
    (count : as.length = (G.parameters P).length)
    (become : List.Forall₂ (P.Becomes z names scope) as bs)
    {k' d' : CheckState} {h' : Handle}
    (applied : Returns (P.apparent (G.apply as)) k h d) (grown : d.Grows P z)
    (applied' : Returns (P.apparent (G.apply bs)) k' h' d') (grown' : d'.Grows P z) :
    P.Becomes z names scope h h' := by
  have all := take_parameters count
  cases G with
  | ofClass home definition source =>
    obtain ⟨rfl, _⟩ := (returns_pure_iff _ _).mp applied
    obtain ⟨rfl, _⟩ := (returns_pure_iff _ _).mp applied'
    refine ⟨.of_single rfl ?_ (Becomes.shapes become),
      congrArg (Handle.record _ _ · none) (Becomes.unnamedAll_eq become)⟩
    change P.Tight z names (.fields source (source.typeParameters.take as.length))
    rwa [show source.typeParameters.take as.length = source.typeParameters from all]
  | ofAlias target =>
    refine (recordCongruence_becomes known named).apparent ?_ become _ _ _ _ _ _ applied applied'
      grown grown'
    rwa [show (P.variablesOf target.key.file target.value []).take as.length = _ from all]

end

/-- Where the declaration of a generic leaks none of its type parameters, each of them has become
its argument in whatever the generic comes to. A parameter that cannot be looked at from the
arguments cannot be looked at from the type, nor from anything in its properties; and the type and
its properties are those that the generic has under its own parameters, with the parameters
replaced by the arguments. -/
theorem arguments_reach_fields (P : Program) (G : Generic) (file : Path) (scope : TypeVariables)
    (pos : Position) (value index : Expr) (c d z : CheckState) (h : Handle)
    (looked : (P.lookupExpr file value).1 = .ok G.binding) (known : G.Known z)
    (count : index.indices.length = (G.parameters P).length) (whole : Handle.WholeScope scope)
    (tight : P.Tight z (G.parameters P) (G.declaration P))
    (resolved : Returns (P.resolve file scope (some (.subscript pos value index))) c h d)
    (grown : d.Grows P z) :
    ∃ as k l m, Returns (index.indices.mapM fun argument => P.resolve file scope (some argument))
        k as l ∧ Returns (P.apparent (G.apply as)) m h d ∧
      (∀ name ∈ G.parameters P, (∀ a ∈ as, ¬ P.Reaches z a (.typeParameter name)) →
        ¬ P.Reaches z h (.typeParameter name)) ∧
      ∀ p pattern q,
        Returns (P.apparent (G.apply ((G.parameters P).map .typeParameter))) p pattern q →
        q.Grows P z →
        h.unnamed = (pattern.subst ((G.parameters P).zip as)).unnamed ∧
        ∀ symbol source own name, pattern = .record symbol source own name →
          ∃ own' name', h = .record symbol source own' name' ∧
            ∀ r members s t members' u, Returns (P.propertiesOf source own) r members s →
              s.Grows P z → Returns (P.propertiesOf source own') t members' u → u.Grows P z →
              List.Forall₂ (fun v w => v.1 = w.1 ∧
                w.2.unnamed = (v.2.subst ((G.parameters P).zip as)).unnamed) members members' := by
  obtain ⟨as, k, l, m, argued, applied⟩ := returns_resolve_applied looked known grown resolved
  have lengths : as.length = (G.parameters P).length := (length_of_returns_mapM argued).trans count
  have named : Pairs.keys ((G.parameters P).zip as) ⊆ G.parameters P := by
    rw [Pairs.keys_zip]
    exact List.take_subset _ _
  have wholes : Settles P (index.indices.mapM fun argument => P.resolve file scope (some argument))
      fun handles => ∀ a ∈ handles, a.Whole :=
    .mapM fun argument _ => settles_resolve Formation.whole file whole (some argument)
  have replaced : Handle.WholeScope ((G.parameters P).zip as) :=
    fun v member => (wholes _ _ _ argued).1 v.2 (List.of_mem_zip member).2
  refine ⟨as, k, l, m, argued, applied, fun name member apart => ?_,
    fun p pattern q applied' grown' => ?_⟩
  · have single : P.Tight z [name] (G.declaration P) := by
      rintro _ (_ | ⟨_, ⟨⟩⟩)
      exact tight name member
    exact (free_of_applied single lengths (fun a inside => by
      rintro _ (_ | ⟨_, ⟨⟩⟩)
      exact apart a inside) applied grown).apart name List.mem_cons_self
  · have become := becomes_of_applied replaced named tight (by simp)
      (becomes_parameters (nodup_parameters known) lengths.symm) applied' grown' applied grown
    refine ⟨become.same, ?_⟩
    rintro symbol source own name rfl
    obtain ⟨own', name', rfl, parts⟩ := become.of_record
    refine ⟨own', name', rfl, fun r members s t members' u asked within asked' within' => ?_⟩
    have related := (recordCongruence_becomes replaced named).propertiesOf become.shaped.tight parts
      _ _ _ _ _ _ asked asked' within within'
    exact related.imp fun _ _ pair => ⟨pair.1, pair.2.same⟩

structure AppliedClass where
  pos : Position
  value : Expr
  index : Expr
  home : Path
  definition : ClassDef Statement
  source : RecordSource
  handle : Handle

def appliedClass? (P : Program) (test : Expr → Bool) : CheckM (Option AppliedClass) := do
  match P.hintsWhere test with
  | [.subscript pos value index] =>
    match ← P.find P.entry value with
    | .classDef home definition =>
      match ← P.recordOf home definition with
      | some source =>
        let handle ← P.resolve P.entry [] (some (.subscript pos value index))
        return some ⟨pos, value, index, home, definition, source, handle⟩
      | none => return none
    | _ => return none
  | _ => return none

theorem returns_appliedClass? {test : Expr → Bool} {c d : CheckState} {x : AppliedClass}
    (returned : Returns (P.appliedClass? test) c (some x) d) :
    (P.lookupExpr P.entry x.value).1 = .ok (.classDef x.home x.definition) ∧
      d.records.lookup ⟨x.home, x.definition.pos⟩ = some (some x.source) ∧
      ∃ m, Returns (P.resolve P.entry [] (some (.subscript x.pos x.value x.index))) m x.handle d := by
  unfold appliedClass? at returned
  split at returned
  · obtain ⟨found, k, asked, returned⟩ := (returns_bind_iff _ _ _).mp returned
    have looked := (fixed_find P P.entry _ _ _ _ _ _ _ asked asked).2
    split at returned
    · obtain ⟨record, l, read, returned⟩ := (returns_bind_iff _ _ _).mp returned
      obtain ⟨_, bound⟩ := grounds_lookupExpr looked
      have known := lookup_of_recordOf bound read
      split at returned
      · obtain ⟨handle, m, resolved, returned⟩ := (returns_bind_iff _ _ _).mp returned
        obtain ⟨same, rfl⟩ := (returns_pure_iff _ _).mp returned
        cases same
        have grown := moves_resolve P _ _ _ _ _ _ resolved
        exact ⟨looked, grown.known _ _ known, l, resolved⟩
      · cases ((returns_pure_iff _ _).mp returned).1
    · cases ((returns_pure_iff _ _).mp returned).1
  · cases ((returns_pure_iff _ _).mp returned).1

/-- A generic class that is used in another one, a generic base, and a union with a parameter. -/
def nestedBox : Program := .ofLines ⟨.root, ["app", "functions.py"]⟩ [
  "from typing import Generic, List, Optional, TypedDict, TypeVar, Union",
  "T = TypeVar(\"T\")",
  "U = TypeVar(\"U\")",
  "class Item(TypedDict, Generic[U]):",
  "    value: U",
  "class Page(TypedDict, Generic[T]):",
  "    entries: List[Item[T]]",
  "class Box(Page[U], Generic[U]):",
  "    first: Union[U, None]",
  "def f(box: Box[Optional[int]]) -> int:",
  "    return 0"]

def isBox : Expr → Bool
  | .subscript _ (.name _ "Box") _ => true
  | _ => false

/-- Whether the class leaks none of its parameters, which of its properties are of which types under
its own parameters, and which are under the arguments. -/
def boxProperties (P : Program) :
    CheckM (Bool × List (String × Identity) × List (String × Identity)) := do
  match ← P.appliedClass? isBox with
  | some ⟨_, _, index, _, _, source, .record _ _ [.union [.intrinsic .int, .intrinsic .none]] _⟩ =>
    let pattern ← P.propertiesOf source (source.typeParameters.map .typeParameter)
    let members ← P.propertiesOf source [.union [.intrinsic .int, .intrinsic .none]]
    let z ← get
    let sound := source.typeParameters = ["U"] && index.indices.length = 1 &&
      P.tight z ["U"] 8 (.fields source ["U"])
    return (sound, pattern.map fun m => (m.1, m.2.identity),
      members.map fun m => (m.1, m.2.identity))
  | _ => return (false, [], [])

theorem arguments_reach_fields_nestedBox :
    ∃ (G : Generic) (pos : Position) (value index : Expr) (c d z : CheckState) (symbol : Symbol)
        (source : RecordSource) (own own' : List Handle) (name : Option String)
        (members members' : Properties),
      (nestedBox.lookupExpr nestedBox.entry value).1 = .ok G.binding ∧ G.Known z ∧
      G.parameters nestedBox = ["U"] ∧ index.indices.length = 1 ∧ Handle.WholeScope [] ∧
      nestedBox.Tight z (G.parameters nestedBox) (G.declaration nestedBox) ∧
      Returns (nestedBox.resolve nestedBox.entry [] (some (.subscript pos value index))) c
        (.record symbol source own' name) d ∧ d.Grows nestedBox z ∧
      ¬ nestedBox.Reaches z (.record symbol source own' name) (.typeParameter "U") ∧
      (∃ m n, Returns (nestedBox.propertiesOf source own) m members n) ∧
      (∃ m n, Returns (nestedBox.propertiesOf source own') m members' n) ∧
      List.Forall₂ (fun v w => v.1 = w.1 ∧ w.2.unnamed = (v.2.subst (["U"].zip own')).unnamed)
        members members' ∧
      members.map (fun m => (m.1, m.2.identity)) =
        [("entries", .list (.declared none [⟨"/app/functions.py", 4, 0⟩] [.typeParameter "U"])),
          ("first", .union [.typeParameter "U", .intrinsic .none])] ∧
      members'.map (fun m => (m.1, m.2.identity)) =
        [("entries", .list (.declared none [⟨"/app/functions.py", 4, 0⟩]
          [.union [.intrinsic .int, .intrinsic .none]])),
          ("first", .union [.intrinsic .int, .intrinsic .none])] := by
  have shown : (runFrom nestedBox.boxProperties (.start nestedBox)).1 = .ok (true,
      [("entries", .list (.declared none [⟨"/app/functions.py", 4, 0⟩] [.typeParameter "U"])),
        ("first", .union [.typeParameter "U", .intrinsic .none])],
      [("entries", .list (.declared none [⟨"/app/functions.py", 4, 0⟩]
        [.union [.intrinsic .int, .intrinsic .none]])),
        ("first", .union [.intrinsic .int, .intrinsic .none])]) := by decide +kernel
  have returned := returns_of_ok shown
  obtain ⟨found, d, applied, returned⟩ := (returns_bind_iff _ _ _).mp returned
  split at returned
  · rename_i pos value index home definition source symbol read name
    obtain ⟨members, m, asked, returned⟩ := (returns_bind_iff _ _ _).mp returned
    obtain ⟨members', z, asked', returned⟩ := (returns_bind_iff _ _ _).mp returned
    obtain ⟨_, _, ⟨rfl, rfl⟩, returned⟩ := (returns_bind_iff _ _ _).mp returned
    obtain ⟨same, _⟩ := (returns_pure_iff _ _).mp returned
    obtain ⟨sound, rest⟩ := Prod.mk.inj same
    obtain ⟨first, second⟩ := Prod.mk.inj rest
    have sound := sound.symm
    simp only [Bool.and_eq_true, decide_eq_true_eq] at sound
    obtain ⟨⟨named, count⟩, tested⟩ := sound
    obtain ⟨looked, known, c, resolved⟩ := returns_appliedClass? applied
    have later : m.Grows nestedBox z := moves_propertiesOf nestedBox _ _ _ _ _ asked'
    have grown : d.Grows nestedBox z := (moves_propertiesOf nestedBox _ _ _ _ _ asked).trans later
    have single : (Generic.ofClass home definition source).parameters nestedBox = ["U"] := named
    have tight : nestedBox.Tight z
        ((Generic.ofClass home definition source).parameters nestedBox)
        ((Generic.ofClass home definition source).declaration nestedBox) := by
      rw [single, Generic.declaration, named]
      exact tight_of_test tested
    have whole : Handle.WholeScope [] := List.forall_mem_nil _
    have known' : (Generic.ofClass home definition source).Known z :=
      ⟨grown.known _ _ known, by rw [named]; decide⟩
    obtain ⟨as, _, _, k, _, same, apart, becomes⟩ := arguments_reach_fields nestedBox
      (.ofClass home definition source) nestedBox.entry [] pos value index c d z _ looked known'
      (by rw [single]; exact count) whole tight resolved grown
    obtain ⟨same, _⟩ := (returns_pure_iff _ _).mp same
    obtain ⟨rfl, rfl, rfl, rfl⟩ := Handle.record.inj same
    obtain ⟨_, fields⟩ := becomes z _ z ((returns_pure_iff _ _).mpr ⟨rfl, rfl⟩) (.refl z)
    obtain ⟨own', name', same, related⟩ := fields _ _ _ _ rfl
    cases same
    refine ⟨.ofClass home definition _, pos, value, index, c, d, z, _, _, _, _, _, members,
      members', looked, known', single, count, whole, tight, resolved, grown, ?_, ⟨_, _, asked⟩,
      ⟨_, _, asked'⟩, ?_, first.symm, second.symm⟩
    · have free : nestedBox.Free z ["U"] (.union [.intrinsic .int, .intrinsic .none]) :=
        .union (List.forall_mem_cons.mpr ⟨.foreign (apart_intrinsic _),
          List.forall_mem_singleton.mpr (.foreign (apart_intrinsic _))⟩)
      exact apart "U" (single ▸ List.mem_cons_self)
        (List.forall_mem_singleton.mpr (free.apart "U" List.mem_cons_self))
    · rw [← single]
      exact related _ _ _ _ _ _ asked later asked' (.refl z)
  · cases ((returns_pure_iff _ _).mp returned).1

/-- A record that is written in a hint of a generic class, with the parameter of the class. -/
def leakyBox : Program := .ofLines ⟨.root, ["app", "functions.py"]⟩ [
  "from typing import Generic, TypedDict, TypeVar",
  "T = TypeVar(\"T\")",
  "class Box(TypedDict, Generic[T]):",
  "    inner: TypedDict[\x7b\"value\": T\x7d]",
  "def f(box: Box[int]) -> int:",
  "    return 0"]

/-- Whether the class has one field, a record with one field, and that is the type parameter. -/
def keepsParameter (P : Program) : CheckM Bool := do
  match ← P.appliedClass? isBox with
  | some ⟨_, _, index, _, _, source, .record _ _ [.intrinsic .int] _⟩ =>
    match ← P.propertiesOf source [.intrinsic .int] with
    | [(_, .record _ inner [] none)] =>
      match ← P.propertiesOf inner [] with
      | [(_, .typeParameter "T")] =>
        return source.typeParameters = ["T"] && index.indices.length = 1
      | _ => return false
    | _ => return false
  | _ => return false

/-- The type parameter of the class can be looked at from the class under an argument from which it
cannot. -/
theorem leakyBox_keeps :
    ∃ (G : Generic) (pos : Position) (value index : Expr) (c d z : CheckState) (h : Handle)
        (as : List Handle),
      (leakyBox.lookupExpr leakyBox.entry value).1 = .ok G.binding ∧ G.Known z ∧
      G.parameters leakyBox = ["T"] ∧ index.indices.length = 1 ∧
      Returns (leakyBox.resolve leakyBox.entry [] (some (.subscript pos value index))) c h d ∧
      d.Grows leakyBox z ∧
      (∃ k l, Returns (index.indices.mapM fun argument =>
        leakyBox.resolve leakyBox.entry [] (some argument)) k as l) ∧
      (∃ m, Returns (leakyBox.apparent (G.apply as)) m h d) ∧
      (∀ a ∈ as, ¬ leakyBox.Reaches z a (.typeParameter "T")) ∧
      leakyBox.Reaches z h (.typeParameter "T") := by
  have shown : (runFrom leakyBox.keepsParameter (.start leakyBox)).1 = .ok true := by
    decide +kernel
  have returned := returns_of_ok shown
  obtain ⟨found, d, applied, returned⟩ := (returns_bind_iff _ _ _).mp returned
  split at returned
  · rename_i pos value index home definition source symbol read name
    obtain ⟨members, m, asked, returned⟩ := (returns_bind_iff _ _ _).mp returned
    split at returned
    · rename_i field place inner
      obtain ⟨members', z, asked', returned⟩ := (returns_bind_iff _ _ _).mp returned
      split at returned
      · rename_i key
        obtain ⟨sound, rfl⟩ := (returns_pure_iff _ _).mp returned
        have sound := sound.symm
        simp only [Bool.and_eq_true, decide_eq_true_eq] at sound
        obtain ⟨named, count⟩ := sound
        obtain ⟨looked, known, c, resolved⟩ := returns_appliedClass? applied
        have later : m.Grows leakyBox _ := moves_propertiesOf leakyBox _ _ _ _ _ asked'
        have grown : d.Grows leakyBox _ :=
          (moves_propertiesOf leakyBox _ _ _ _ _ asked).trans later
        have known' : (Generic.ofClass home definition source).Known _ :=
          ⟨grown.known _ _ known, by rw [named]; decide⟩
        obtain ⟨as, k, l, o, argued, same⟩ := returns_resolve_applied
          (G := .ofClass home definition source) looked known' grown resolved
        have again := same
        obtain ⟨same, _⟩ := (returns_pure_iff _ _).mp same
        obtain ⟨rfl, rfl, rfl, rfl⟩ := Handle.record.inj same
        refine ⟨.ofClass home definition _, pos, value, index, c, d, _, _, _, looked, known', named,
          count, resolved, grown, ⟨k, l, argued⟩, ⟨o, again⟩, ?_, ?_⟩
        · have apart {z : CheckState} : leakyBox.Apart z ["T"] (.intrinsic .int) :=
            apart_intrinsic .int
          exact List.forall_mem_singleton.mpr (apart "T" List.mem_cons_self)
        · refine .head (.property asked later List.mem_cons_self) (.single ?_)
          exact .property asked' (.refl _) List.mem_cons_self
      · cases ((returns_pure_iff _ _).mp returned).1
    · cases ((returns_pure_iff _ _).mp returned).1
  · cases ((returns_pure_iff _ _).mp returned).1

end Program

end HintSchema

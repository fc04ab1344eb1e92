import Mathlib.Data.List.Forall2
import HintSchema.Handle.Form
import HintSchema.Proofs.Hints.Genuine

/-!
Handles of one identity. Where every record is declared at a place of its own, two handles that come
from the program and have one identity are built alike: records stem from one declaration, unions
have equal members in the same order (`Kin`).
-/

namespace HintSchema

namespace Program

/-- The modules are what their texts bind, no two records of a module are declared at one place, and
each path is the one that its text names. -/
structure Placed (P : Program) : Prop where
  paths : ∀ s ∈ P.sources, Path.ofString s.path.toString = s.path
  scopes : ∀ s ∈ P.sources, s.scope = .ofStatements s.statements
  apart : ∀ s ∈ P.sources, s.Apart

variable {P : Program} {file : Path}

namespace Placed

theorem scope (placed : P.Placed) (file : Path) :
    (P.source file).scope = .ofStatements (P.source file).statements := by
  rcases P.source_cases file with ⟨member, _⟩ | missing
  · exact placed.scopes _ member
  · rw [missing]
    rfl

theorem written (placed : P.Placed) {name : String} {bound : Bound}
    (member : (name, bound) ∈ (P.source file).scope.names) :
    bound.Written (P.source file).nodes :=
  written_of_mem_names (placed.scope file) member

theorem path_of_node (placed : P.Placed) {n : Node} (member : n ∈ (P.source file).nodes) :
    Path.ofString file.toString = file := by
  rcases P.source_cases file with ⟨present, same⟩ | missing
  · have named := placed.paths _ present
    rwa [same] at named
  · rw [missing] at member
    cases member

theorem unique (placed : P.Placed) {m n : Node} (first : m ∈ (P.source file).nodes)
    (second : n ∈ (P.source file).nodes) (site : m.isSite) (other : n.isSite)
    (same : m.pos = n.pos) : m = n := by
  rcases P.source_cases file with ⟨present, _⟩ | missing
  · exact (placed.apart _ present).unique first second site other same
  · rw [missing] at first
    cases first

end Placed

end Program

namespace RecordSource

/-- The properties are read off the same fields in the same way; the name may differ. -/
def Alike (s t : RecordSource) : Prop := { s with name := none } = { t with name := none }

end RecordSource

/-- Where records come from: a class whose form is known, a call that a name is bound to, or a
dictionary written in a hint of the file. -/
inductive Origin (P : Program) (z : CheckState) : Symbol → RecordSource → Prop
  | ofClass {name : String} {home : Path} {definition : ClassDef Statement} {source : RecordSource}
      (bound : (name, .classDef definition) ∈ (P.source home).scope.names)
      (known : z.records.lookup ⟨home, definition.pos⟩ = some (some source)) :
      Origin P z (.declaredAt definition.name home definition.pos) source
  | ofCall {key : NameKey} {call : RecordCall}
      (bound : (key.name, .recordCall call) ∈ (P.source key.file).scope.names) :
      Origin P z (.declaredAt key.name key.file call.pos) (Program.recordOfCall key call)
  | written {file : Path} {pos : Position} {items : List DictItem}
      (node : .expr (.dict pos items) ∈ (P.source file).nodes) :
      Origin P z (.declaredAt Symbol.anonymousName file pos)
        { kind := .inlineTypedDict, file, fields := .ofDict (.dict pos items) }

/-- The handle comes from the program: its records stem from declarations, its classes are known to
be no records, and its aliases are bound. -/
inductive Sourced (P : Program) (z : CheckState) : Handle → Prop
  | intrinsic (kind : Intrinsic) : Sourced P z (.intrinsic kind)
  | void (text : String) : Sourced P z (.void text)
  | union {members : List Handle} (parts : ∀ h ∈ members, Sourced P z h) :
      Sourced P z (.union members)
  | list {name : String} {element : Handle} (inner : Sourced P z element) :
      Sourced P z (.list name element)
  | awaitable {name : String} {arguments : List Handle} (parts : ∀ h ∈ arguments, Sourced P z h) :
      Sourced P z (.awaitable name arguments)
  | classObject {name : String} {home : Path} {definition : ClassDef Statement}
      {arguments : List Handle}
      (bound : (name, .classDef definition) ∈ (P.source home).scope.names)
      (known : z.records.lookup ⟨home, definition.pos⟩ = some none)
      (parts : ∀ h ∈ arguments, Sourced P z h) :
      Sourced P z (.classObject (.declaredAt definition.name home definition.pos) arguments)
  | record {symbol : Symbol} {source : RecordSource} {arguments : List Handle}
      {aliasName : Option String} (origin : Origin P z symbol source)
      (parts : ∀ h ∈ arguments, Sourced P z h) :
      Sourced P z (.record symbol source arguments aliasName)
  | typeParameter (name : String) : Sourced P z (.typeParameter name)
  | unsupported (text : String) (symbol : Option Symbol) : Sourced P z (.unsupported text symbol)
  | deferred {target : AliasRef} {arguments : List Handle}
      (bound : ((P.source target.key.file).scope.boundTo target.key.name).findSome?
        Bound.alias? = some target.value)
      (parts : ∀ h ∈ arguments, Sourced P z h) : Sourced P z (.deferred target arguments)

/-- Two handles from the program that have one identity. -/
structure Kin (P : Program) (z : CheckState) (a b : Handle) : Prop where
  same : a.identity = b.identity
  left : Sourced P z a
  right : Sourced P z b

section

variable {P : Program} {y z : CheckState} {symbol other : Symbol} {source found : RecordSource}

theorem Origin.later (grown : y.Grows P z) (origin : Origin P y symbol source) :
    Origin P z symbol source := by
  cases origin with
  | ofClass bound known => exact .ofClass bound (grown.known _ _ known)
  | ofCall bound => exact .ofCall bound
  | written node => exact .written node

theorem Sourced.later (grown : y.Grows P z) {h : Handle} (sourced : Sourced P y h) :
    Sourced P z h := by
  induction sourced with
  | intrinsic kind => exact .intrinsic kind
  | void text => exact .void text
  | union _ ih => exact .union ih
  | list _ ih => exact .list ih
  | awaitable _ ih => exact .awaitable ih
  | classObject bound known _ ih => exact .classObject bound (grown.known _ _ known) ih
  | record origin _ ih => exact .record (origin.later grown) ih
  | typeParameter name => exact .typeParameter name
  | unsupported text symbol => exact .unsupported text symbol
  | deferred bound _ ih => exact .deferred bound ih

def ReadOff (z : CheckState) (file : Path) (source : RecordSource) : Node → Prop
  | .classDef definition => z.records.lookup ⟨file, definition.pos⟩ = some (some source)
  | .expr (.call _ _ (_ :: fields :: _) keywords) =>
    source.Alike { kind := .inlineTypedDict, file, fields := .ofDict fields,
                   total := Keyword.total keywords }
  | .expr (.dict pos items) =>
    source = { kind := .inlineTypedDict, file, fields := .ofDict (.dict pos items) }
  | _ => False

theorem mem_of_parts {e : Expr} {nodes : List Node} (held : e.parts.map .expr ⊆ nodes) :
    .expr e ∈ nodes :=
  held (List.mem_map_of_mem e.mem_parts_self)

theorem class_mem_nodes (definition : ClassDef Statement) :
    .classDef definition ∈ (Statement.classDef definition).nodes :=
  List.mem_cons_self

theorem Origin.site (placed : P.Placed) (origin : Origin P z symbol source) :
    ∃ file node, node ∈ (P.source file).nodes ∧ node.isSite ∧
      symbol.declarations = [⟨file.toString, node.pos.line, node.pos.column⟩] ∧
      ReadOff z file source node := by
  cases origin with
  | @ofClass _ home definition _ bound known =>
    exact ⟨home, .classDef definition, placed.written bound (class_mem_nodes definition), rfl, rfl,
      known⟩
  | @ofCall key call bound =>
    obtain ⟨callee, first, rest, dotted, held⟩ := placed.written bound
    exact ⟨key.file, _, mem_of_parts held, dotted, rfl, rfl⟩
  | @written file pos items node =>
    exact ⟨file, _, node, rfl, rfl, rfl⟩

theorem place_eq (placed : P.Placed) {file file' : Path} {m n : Node}
    (first : m ∈ (P.source file).nodes) (second : n ∈ (P.source file').nodes)
    (same : ([⟨file.toString, m.pos.line, m.pos.column⟩] : List Declaration) =
      [⟨file'.toString, n.pos.line, n.pos.column⟩]) : file = file' ∧ m.pos = n.pos := by
  simp only [List.cons.injEq, Declaration.mk.injEq, Int.natCast_inj, and_true] at same
  obtain ⟨files, lines, columns⟩ := same
  constructor
  · rw [← placed.path_of_node first, ← placed.path_of_node second, files]
  · cases hm : m.pos
    cases hn : n.pos
    simp_all

theorem Origin.alike (placed : P.Placed) (one : Origin P z symbol source)
    (another : Origin P z other found) (same : symbol.declarations = other.declarations) :
    source.Alike found := by
  obtain ⟨file, m, first, site, place, read⟩ := one.site placed
  obtain ⟨file', n, second, site', place', read'⟩ := another.site placed
  obtain ⟨rfl, pos⟩ := place_eq placed first second (by rw [← place, ← place', same])
  obtain rfl := placed.unique first second site site' pos
  cases m with
  | classDef definition =>
    have equal := read.symm.trans read'
    cases equal
    rfl
  | expr e =>
    cases e with
    | dict => rw [show source = found from read.trans read'.symm, RecordSource.Alike]
    | call _ _ arguments =>
      match arguments with
      | [] | [_] => exact read.elim
      | _ :: _ :: _ => exact read.trans read'.symm
    | _ => exact read.elim

theorem Origin.declarations_ne (placed : P.Placed) (origin : Origin P z symbol source)
    {name : String} {home : Path} {definition : ClassDef Statement}
    (bound : (name, .classDef definition) ∈ (P.source home).scope.names)
    (known : z.records.lookup ⟨home, definition.pos⟩ = some none) :
    symbol.declarations ≠ (Symbol.declaredAt definition.name home definition.pos).declarations := by
  intro same
  obtain ⟨file, m, first, site, place, read⟩ := origin.site placed
  have second := placed.written bound (class_mem_nodes definition)
  obtain ⟨rfl, pos⟩ := place_eq placed first second (by rw [← place, same]; rfl)
  obtain rfl := placed.unique first second site rfl pos
  cases read.symm.trans known

end

namespace Handle

theorem isNone_iff (h : Handle) : h.isNone = true ↔ h.identity = .intrinsic .none := by
  cases h with
  | intrinsic kind => cases kind <;> simp [isNone, identity]
  | _ => simp [isNone, identity]

theorem isMissing_iff (h : Handle) : h.isMissing = true ↔ h.identity = .intrinsic .missing := by
  cases h with
  | intrinsic kind => cases kind <;> simp [isMissing, identity]
  | _ => simp [isMissing, identity]

end Handle

namespace Kin

variable {P : Program} {z : CheckState} {a b h : Handle} {as bs : List Handle}

theorem refl (sourced : Sourced P z h) : Kin P z h h := ⟨rfl, sourced, sourced⟩

theorem symm (kin : Kin P z a b) : Kin P z b a := ⟨kin.same.symm, kin.right, kin.left⟩

theorem identities_eq (kin : List.Forall₂ (Kin P z) as bs) :
    Handle.identities as = Handle.identities bs := by
  induction kin with
  | nil => rfl
  | cons first _ ih => rw [Handle.identities, Handle.identities, first.same, ih]

theorem lefts (kin : List.Forall₂ (Kin P z) as bs) : ∀ h ∈ as, Sourced P z h := by
  induction kin with
  | nil => exact List.forall_mem_nil _
  | cons first _ ih => exact List.forall_mem_cons.mpr ⟨first.left, ih⟩

theorem rights (kin : List.Forall₂ (Kin P z) as bs) : ∀ h ∈ bs, Sourced P z h := by
  induction kin with
  | nil => exact List.forall_mem_nil _
  | cons first _ ih => exact List.forall_mem_cons.mpr ⟨first.right, ih⟩

theorem forall₂_of_identities (same : Handle.identities as = Handle.identities bs)
    (left : ∀ h ∈ as, Sourced P z h) (right : ∀ h ∈ bs, Sourced P z h) :
    List.Forall₂ (Kin P z) as bs := by
  induction as generalizing bs with
  | nil =>
    cases bs with
    | nil => exact .nil
    | cons => cases same
  | cons a as ih =>
    cases bs with
    | nil => cases same
    | cons b bs =>
      obtain ⟨first, others⟩ := List.cons.inj same
      obtain ⟨a_sourced, left⟩ := List.forall_mem_cons.mp left
      obtain ⟨b_sourced, right⟩ := List.forall_mem_cons.mp right
      exact .cons ⟨first, a_sourced, b_sourced⟩ (ih others left right)

theorem of_union {members : List Handle} (kin : Kin P z (.union members) b) :
    ∃ others, b = .union others ∧ List.Forall₂ (Kin P z) members others := by
  obtain ⟨same, left, right⟩ := kin
  cases left with
  | union parts =>
    cases right with
    | union others =>
      exact ⟨_, rfl, forall₂_of_identities (Identity.union.inj same) parts others⟩
    | _ => cases same

theorem of_list {name : String} {element : Handle} (kin : Kin P z (.list name element) b) :
    ∃ name' element', b = .list name' element' ∧ Kin P z element element' := by
  obtain ⟨same, left, right⟩ := kin
  cases left with
  | list inner =>
    cases right with
    | list inner' => exact ⟨_, _, rfl, Identity.list.inj same, inner, inner'⟩
    | _ => cases same

theorem of_intrinsic {kind : Intrinsic} (kin : Kin P z (.intrinsic kind) b) :
    b = .intrinsic kind := by
  obtain ⟨same, _, right⟩ := kin
  cases right with
  | intrinsic =>
    cases same
    rfl
  | _ => cases same

theorem of_deferred {target : AliasRef} {arguments : List Handle}
    (kin : Kin P z (.deferred target arguments) b) :
    ∃ arguments', b = .deferred target arguments' ∧
      List.Forall₂ (Kin P z) arguments arguments' := by
  obtain ⟨same, left, right⟩ := kin
  cases left with
  | deferred bound parts =>
    cases right with
    | @deferred target' arguments' bound' parts' =>
      obtain ⟨keys, others⟩ := Identity.alias.inj same
      obtain ⟨key, value⟩ := target
      obtain ⟨key', value'⟩ := target'
      cases keys
      cases bound.symm.trans bound'
      exact ⟨_, rfl, forall₂_of_identities others parts parts'⟩
    | _ => cases same

theorem of_record (placed : P.Placed) {symbol : Symbol} {source : RecordSource}
    {arguments : List Handle} {aliasName : Option String}
    (kin : Kin P z (.record symbol source arguments aliasName) b) :
    ∃ symbol' source' arguments' aliasName', b = .record symbol' source' arguments' aliasName' ∧
      symbol.declarations = symbol'.declarations ∧ source.Alike source' ∧
      List.Forall₂ (Kin P z) arguments arguments' := by
  obtain ⟨same, left, right⟩ := kin
  cases left with
  | record origin parts =>
    cases right with
    | @record symbol' source' arguments' aliasName' origin' parts' =>
      obtain ⟨_, places, others⟩ := Identity.declared.inj same
      exact ⟨_, _, _, _, rfl, places, origin.alike placed origin' places,
        forall₂_of_identities others parts parts'⟩
    | classObject bound known parts' =>
      obtain ⟨_, places, _⟩ := Identity.declared.inj same
      exact absurd places (origin.declarations_ne placed bound known)
    | _ => cases same

theorem alternatives (kin : Kin P z a b) :
    List.Forall₂ (Kin P z) a.alternatives b.alternatives := by
  cases a with
  | union members =>
    obtain ⟨others, rfl, parts⟩ := kin.of_union
    exact parts
  | _ =>
    cases b with
    | union others =>
      obtain ⟨_, impossible, _⟩ := kin.symm.of_union
      cases impossible
    | _ => exact .cons kin .nil

theorem flatMap_alternatives (kin : List.Forall₂ (Kin P z) as bs) :
    List.Forall₂ (Kin P z) (as.flatMap Handle.alternatives) (bs.flatMap Handle.alternatives) := by
  induction kin with
  | nil => exact .nil
  | cons first _ ih => exact List.rel_append first.alternatives ih

theorem distinctFrom (seen : List Identity) (kin : List.Forall₂ (Kin P z) as bs) :
    List.Forall₂ (Kin P z) (Handle.distinctFrom seen as) (Handle.distinctFrom seen bs) := by
  induction kin generalizing seen with
  | nil => exact .nil
  | cons first _ ih =>
    rw [Handle.distinctFrom, Handle.distinctFrom, first.same]
    split
    · exact ih seen
    · exact .cons first (ih _)

theorem union (kin : List.Forall₂ (Kin P z) as bs) : Kin P z (.union as) (.union bs) :=
  ⟨congrArg Identity.union (identities_eq kin), .union (lefts kin), .union (rights kin)⟩

theorem unionOf (kin : List.Forall₂ (Kin P z) as bs) :
    Kin P z (Handle.unionOf as) (Handle.unionOf bs) := by
  have distinct := distinctFrom [] (flatMap_alternatives kin)
  unfold Handle.unionOf
  generalize Handle.distinctFrom [] (as.flatMap Handle.alternatives) = left at distinct
  generalize Handle.distinctFrom [] (bs.flatMap Handle.alternatives) = right at distinct
  cases distinct with
  | nil => exact union .nil
  | cons first others =>
    cases others with
    | nil => exact first
    | cons second others => exact union (.cons first (.cons second others))

theorem list (name name' : String) (kin : Kin P z a b) : Kin P z (.list name a) (.list name' b) :=
  ⟨congrArg Identity.list kin.same, .list kin.left, .list kin.right⟩

theorem awaitable (name : String) (kin : List.Forall₂ (Kin P z) as bs) :
    Kin P z (.awaitable name as) (.awaitable name bs) :=
  ⟨congrArg (Identity.awaitable name) (identities_eq kin), .awaitable (lefts kin),
    .awaitable (rights kin)⟩

theorem deferred {target : AliasRef}
    (bound : ((P.source target.key.file).scope.boundTo target.key.name).findSome?
      Bound.alias? = some target.value) (kin : List.Forall₂ (Kin P z) as bs) :
    Kin P z (.deferred target as) (.deferred target bs) :=
  ⟨congrArg (Identity.alias target.key) (identities_eq kin), .deferred bound (lefts kin),
    .deferred bound (rights kin)⟩

theorem record {symbol : Symbol} {source : RecordSource} (origin : Origin P z symbol source)
    (aliasName aliasName' : Option String) (kin : List.Forall₂ (Kin P z) as bs) :
    Kin P z (.record symbol source as aliasName) (.record symbol source bs aliasName') :=
  ⟨congrArg (Identity.declared _ _) (identities_eq kin), .record origin (lefts kin),
    .record origin (rights kin)⟩

theorem classObject {name : String} {home : Path} {definition : ClassDef Statement}
    (bound : (name, .classDef definition) ∈ (P.source home).scope.names)
    (known : z.records.lookup ⟨home, definition.pos⟩ = some none)
    (kin : List.Forall₂ (Kin P z) as bs) :
    Kin P z (.classObject (.declaredAt definition.name home definition.pos) as)
      (.classObject (.declaredAt definition.name home definition.pos) bs) :=
  ⟨congrArg (Identity.declared _ _) (identities_eq kin), .classObject bound known (lefts kin),
    .classObject bound known (rights kin)⟩

theorem isNone_eq (kin : Kin P z a b) : a.isNone = b.isNone := by
  rw [Bool.eq_iff_iff, Handle.isNone_iff, Handle.isNone_iff, kin.same]

theorem isMissing_eq (kin : Kin P z a b) : a.isMissing = b.isMissing := by
  rw [Bool.eq_iff_iff, Handle.isMissing_iff, Handle.isMissing_iff, kin.same]

theorem absence?_eq (kin : List.Forall₂ (Kin P z) as bs) :
    Handle.absence? as = Handle.absence? bs := by
  have same : as.any Handle.isNone = bs.any Handle.isNone ∧
      as.any Handle.isMissing = bs.any Handle.isMissing := by
    induction kin with
    | nil => exact ⟨rfl, rfl⟩
    | cons first _ ih =>
      simp only [List.any_cons, first.isNone_eq, first.isMissing_eq, ih, and_self]
  unfold Handle.absence?
  rw [same.1, same.2]

theorem present (kin : List.Forall₂ (Kin P z) as bs) :
    List.Forall₂ (Kin P z) (as.filter fun m => !m.isNone && !m.isMissing)
      (bs.filter fun m => !m.isNone && !m.isMissing) := by
  induction kin with
  | nil => exact .nil
  | cons first _ ih =>
    rw [List.filter_cons, List.filter_cons, first.isNone_eq, first.isMissing_eq]
    split
    · exact .cons first ih
    · exact ih

theorem nullable? (kin : List.Forall₂ (Kin P z) as bs) :
    Option.Rel (fun x y => Kin P z x.1 y.1 ∧ x.2 = y.2) (Handle.union as).nullable?
      (Handle.union bs).nullable? := by
  have others := present kin
  unfold Handle.nullable?
  dsimp only
  rw [absence?_eq kin]
  generalize as.filter (fun m => !m.isNone && !m.isMissing) = left at others
  generalize bs.filter (fun m => !m.isNone && !m.isMissing) = right at others
  cases Handle.absence? bs with
  | none => exact .none
  | some absence =>
    cases others with
    | nil => exact .none
    | cons first rest =>
      cases rest with
      | nil => exact .some ⟨first, rfl⟩
      | cons => exact .none

theorem renamed {symbol : Symbol} {source : RecordSource} {arguments : List Handle}
    {aliasName : Option String} (kin : Kin P z (.record symbol source arguments aliasName) b)
    (other : Option String) : Kin P z (.record symbol source arguments other) b := by
  obtain ⟨same, left, right⟩ := kin
  cases left with
  | record origin parts => exact ⟨same, .record origin parts, right⟩

end Kin

end HintSchema

import HintSchema.Handle.Form
import HintSchema.Proofs.Hints.Declarations
import HintSchema.Proofs.Hints.Present
import HintSchema.Proofs.Hints.Qualifiers

/-!
The keys of typed dictionaries that may be left out. The handle of a key admits a missing value just
if the declaration that counts does not require the key, by its qualifiers or by the totality of the
class that it stands in (`missing_iff_not_required`).
-/

namespace HintSchema

theorem Handle.In.own {P : Program} {W : Realm P} {symbol : Symbol} {source : RecordSource}
    {arguments : List Handle} {aliasName : Option String}
    (held : (Handle.record symbol source arguments aliasName).In W) :
    W.record symbol source ∧ ∀ h ∈ arguments, h.In W := by
  cases held with
  | record own parts => exact ⟨own, parts⟩

/-- What a record is read off: a class, a call, or a dictionary in a hint. -/
inductive Shape where
  | classBody (x : Declared)
  | functional (key : NameKey) (call : RecordCall)
  | inline (file : Path) (fields : Expr)

namespace Shape

def file : Shape → Path
  | classBody x => x.1
  | functional key _ => key.file
  | inline file _ => file

/-- Whether keys are required by default. -/
def total : Shape → Bool
  | classBody x => Keyword.total x.2.keywords
  | functional _ call => Keyword.total call.keywords
  | inline _ _ => true

variable (P : Program)

def kind : Shape → RecordKind
  | classBody x => (P.sign x).getD .typedDict
  | _ => .inlineTypedDict

def record : Shape → RecordSource
  | classBody x => P.ownRecord x
  | functional key call => Program.recordOfCall key call
  | inline file fields => Program.inlineSource file fields

def Bound : Shape → Prop
  | classBody x => P.Binds x
  | _ => True

@[simp] theorem record_file (shape : Shape) : (shape.record P).file = shape.file := by
  cases shape <;> rfl

@[simp] theorem record_total (shape : Shape) : (shape.record P).total = shape.total := by
  cases shape <;> rfl

@[simp] theorem record_kind (shape : Shape) : (shape.record P).kind = shape.kind P := by
  cases shape <;> rfl

end Shape

namespace Program

/-- The declaration of a name that counts for a record, the shape that it belongs to, and its hint.
-/
inductive Prevails (P : Program) (z : CheckState) (name : String) : Shape → Shape → Expr → Prop
  | inherited {x y : Declared} {visited : List Declared} {hint : Expr}
      (walks : Hierarchy.Walks (P.recordParents z) ∅ [x] visited)
      (last : Last (Declared.Gives P name) visited (y, hint)) :
      Prevails P z name (.classBody x) (.classBody y) hint
  | functional {key : NameKey} {call : RecordCall} {pos : Position} {items : List DictItem}
      {text : CodeText} {hint : Expr}
      (fields : call.fields = .dict pos items) (named : text.toName = name)
      (last : Last (DictItem.Gives text) items hint) :
      Prevails P z name (.functional key call) (.functional key call) hint
  | inline {file : Path} {pos : Position} {items : List DictItem} {text : CodeText} {hint : Expr}
      (named : text.toName = name) (last : Last (DictItem.Gives text) items hint) :
      Prevails P z name (.inline file (.dict pos items)) (.inline file (.dict pos items)) hint

/-- The handle admits a missing value, as a whole, exactly if it is one of a key in a typed
dictionary and the key is not required. -/
structure Admits (P : Program) (owner : Shape) (hint : Expr) (h : Handle) : Prop where
  top : h.MissingAtTop
  missing : .missing ∈ h.alternatives ↔
    (owner.kind P).isTypedDict ∧ ¬ P.Requires owner.file owner.total hint

variable {P : Program} {z c d : CheckState} {name : String} {shape owner : Shape} {hint : Expr}
  {arguments : List Handle} {properties : Properties}

theorem Prevails.unique {other : Shape} {hint' : Expr}
    (prevails : P.Prevails z name shape owner hint)
    (again : P.Prevails z name shape other hint') : owner = other ∧ hint = hint' := by
  cases prevails with
  | inherited walks last => cases again with
    | inherited walks' last' =>
      obtain rfl := walks.unique walks'
      have same := last.unique (fun _ _ _ gives => gives.unique) last'
      cases same
      exact ⟨rfl, rfl⟩
  | functional fields named last => cases again with
    | functional fields' named' last' =>
      cases fields.symm.trans fields'
      cases CodeText.toName_injective (named.trans named'.symm)
      exact ⟨rfl, last.unique (fun _ _ _ gives => gives.unique) last'⟩
  | inline named last => cases again with
    | inline named' last' =>
      cases CodeText.toName_injective (named.trans named'.symm)
      exact ⟨rfl, last.unique (fun _ _ _ gives => gives.unique) last'⟩

theorem fields_record (P : Program) (owner : Shape) :
    P.Fields Handle.Given (owner.record P) (P.Admits owner) := by
  intro hint scope c h d known answered
  unfold fieldHandle at answered
  simp only [Shape.record_file, Shape.record_total, Shape.record_kind] at answered
  split at answered
  · rename_i typed
    obtain ⟨⟨inner, required⟩, m, peeled, answered⟩ := (returns_bind_iff ..).mp answered
    obtain ⟨h, n, resolved, answered⟩ := (returns_bind_iff ..).mp answered
    obtain ⟨rfl, rfl⟩ := (returns_pure_iff _ _).mp answered
    have given : h.Given := (settles_resolve .given _ known _ _ _ _ resolved).1
    have decided := required_of_peel hint.textsBelow_weight peeled
    cases required with
    | true => exact ⟨given.missingAtTop, iff_of_false given.missing_not_mem
        fun both => both.2 (decided.mp rfl)⟩
    | false =>
      obtain ⟨top, missing⟩ := given.orMissing
      exact ⟨top, iff_of_true missing ⟨typed, fun required => by cases decided.mpr required⟩⟩
  · rename_i plain
    have given : h.Given := (settles_resolve .given _ known _ _ _ _ answered).1
    exact ⟨given.missingAtTop, iff_of_false given.missing_not_mem fun both => plain both.1⟩

theorem returns_propertiesOf_dict {source : RecordSource} {expr : Expr}
    (fields : source.fields = .ofDict expr)
    (returned : Returns (P.propertiesOf source arguments) c properties d) :
    properties = [] ∨ ∃ pos items, expr = .dict pos items ∧
      Returns (P.dictFields source (source.typeParameters.zip arguments) items) c properties d := by
  obtain ⟨⟨found, keys⟩, m, walked, returned⟩ := (returns_bind_iff _ _ _).mp returned
  obtain ⟨rfl, rfl⟩ := (returns_pure_iff _ _).mp returned
  rw [propertiesAmong, fields] at walked
  dsimp only at walked
  split at walked
  · rename_i pos items read
    obtain rfl := RecordFields.ofDict.inj read
    obtain ⟨members, m, read, walked⟩ := (returns_bind_iff _ _ _).mp walked
    obtain ⟨same, rfl⟩ := (returns_pure_iff _ _).mp walked
    cases same
    exact .inr ⟨pos, items, rfl, read⟩
  · obtain ⟨same, rfl⟩ := (returns_pure_iff _ _).mp walked
    cases same
    exact .inl rfl
  · rename_i impossible
    cases impossible

theorem prevails_of_propertiesOf (placed : P.Placed) (trusty : P.Trusty [] d)
    (bound : shape.Bound P) (parts : ∀ h ∈ arguments, h.Given)
    (returned : Returns (P.propertiesOf (shape.record P) arguments) c properties d) :
    ∀ p ∈ properties, ∃ owner hint,
      P.Prevails d p.1 shape owner hint ∧ P.Admits owner hint p.2 := by
  intro p member
  have known : ∀ v ∈ (shape.record P).typeParameters.zip arguments, v.2.Given :=
    fun v inside => parts v.2 (List.of_mem_zip inside).2
  have fields := fields_record P shape
  cases shape with
  | classBody x =>
    obtain ⟨visited, walks, collects⟩ := collects_propertiesOf
      (Q := fun b => P.Admits (.classBody b.1) b.2) placed trusty .given
      (fun y => fields_record P (.classBody y)) bound parts returned
    obtain ⟨⟨y, hint⟩, last, admits⟩ := collects.last p member
    exact ⟨.classBody y, hint, .inherited walks last, admits⟩
  | functional key call =>
    rcases returns_propertiesOf_dict rfl returned with rfl | ⟨pos, items, dict, read⟩
    · cases member
    · obtain ⟨hint, last, admits⟩ := (collects_dictFields fields known read).last p member
      obtain ⟨_, named, last⟩ := DictItem.gives_of_last last
      exact ⟨_, hint, .functional dict named last, admits⟩
  | inline file expr =>
    rcases returns_propertiesOf_dict rfl returned with rfl | ⟨pos, items, rfl, read⟩
    · cases member
    · obtain ⟨hint, last, admits⟩ := (collects_dictFields fields known read).last p member
      obtain ⟨_, named, last⟩ := DictItem.gives_of_last last
      exact ⟨_, hint, .inline named last, admits⟩

/-! ### Handles that come up -/

def shaped (P : Program) : Realm P where
  state := P.Trusty []
  reads _ _ := True
  record _ source := ∃ shape : Shape, shape.Bound P ∧ source = shape.record P
  target _ := True
  fault _ := True

theorem closed_shaped (placed : P.Placed) : P.shaped.Closed where
  opening _ trusty := trusty.of_records_eq rfl
  unresolved _ _ := trivial
  recordOf _ looked := by
    have bound : P.Binds (_, _) := grounds_lookupExpr looked
    refine ((careful_recordOf placed bound).weaken fun _ _ => trivial).mono ?_
    rintro _ credible source rfl
    exact ⟨.classBody _, bound, credible.eq_ownRecord⟩
  call _ _ := ⟨.functional _ _, trivial, rfl⟩
  aliased _ _ := trivial
  inline _ _ _ := ⟨.inline _ _, trivial, rfl⟩
  mentions _ _ _ := trivial
  values _ _ _ := trivial
  unwritten _ _ := trivial
  undisplayed _ _ _ := trivial
  surrogate _ _ := trivial
  null _ _ _ := trivial
  empty _ _ _ _ _ := trivial

/-- Handles that come up when a checker is asked questions, in any order: what hints are resolved
to, what functions take and return, and what is found in handles that have come up. -/
inductive Arises (P : Program) : Handle → Prop
  | hint {file : Path} {hint : Option Expr} {c d : CheckState} {h : Handle} (asked : P.Asked c)
      (answered : Returns (P.resolve file [] hint) c h d) : Arises P h
  | parameter {f : Function} {c d : CheckState} {s : Signature} {p : TypedParameter}
      (asked : P.Asked c) (answered : Returns (P.signature f) c s d) (member : p ∈ s.parameters) :
      Arises P p.handle
  | result {f : Function} {c d : CheckState} {s : Signature} (asked : P.Asked c)
      (answered : Returns (P.signature f) c s d) : Arises P s.result
  | part {h g : Handle} (whole : Arises P h) (member : g ∈ h.parts) : Arises P g
  | expanded {h g : Handle} {c d : CheckState} (arises : Arises P h) (asked : P.Asked c)
      (answered : Returns (P.apparent h) c g d) : Arises P g
  | property {symbol : Symbol} {source : RecordSource} {arguments : List Handle}
      {aliasName : Option String} {properties : Properties} {c d : CheckState}
      {p : String × Handle} (arises : Arises P (.record symbol source arguments aliasName))
      (asked : P.Asked c) (answered : Returns (P.propertiesOf source arguments) c properties d)
      (member : p ∈ properties) : Arises P p.2

theorem Arises.sound (placed : P.Placed) {h : Handle} (arises : P.Arises h) :
    h.In P.shaped ∧ h.MissingAtTop := by
  have closed := closed_shaped placed
  induction arises with
  | hint asked answered =>
    have inside := (closed.resolve (List.forall_mem_nil _) fun _ _ _ _ => trivial).of_returns
      answered (asked.trusty placed)
    have given := (settles_resolve .given _ (List.forall_mem_nil _) _ _ _ _ answered).1
    exact ⟨inside.1, given.missingAtTop⟩
  | parameter asked answered member =>
    have inside := (closed.signature fun _ _ _ _ => trivial).of_returns answered
      (asked.trusty placed)
    have formed := (settles_signature_given P _ _ _ _ answered).1
    exact ⟨inside.1.1 _ member, formed.1 _ member⟩
  | result asked answered =>
    have inside := (closed.signature fun _ _ _ _ => trivial).of_returns answered
      (asked.trusty placed)
    have formed := (settles_signature_given P _ _ _ _ answered).1
    exact ⟨inside.1.2, formed.2.missingAtTop⟩
  | @part h g _ member ih =>
    refine ⟨ih.1.parts g member, ?_⟩
    rcases List.mem_append.mp member with alternative | argument
    · refine ih.2.of_mem_alternatives ?_
      cases h with
      | union => exact alternative
      | _ => cases alternative
    · exact (ih.2.arguments g argument).missingAtTop
  | expanded _ asked answered ih =>
    have inside := (closed.apparent ih.1).of_returns answered (asked.trusty placed)
    exact ⟨inside.1, (settles_apparent_missingAtTop P ih.2 _ _ _ answered).1⟩
  | @property _ source arguments _ _ c d p _ asked answered member ih =>
    obtain ⟨held, top⟩ := ih
    obtain ⟨own, parts⟩ := held.own
    have inside := (closed.propertiesOf own parts).of_returns answered (asked.trusty placed)
    obtain ⟨shape, bound, rfl⟩ := own
    obtain ⟨owner, hint, _, admits⟩ :=
      prevails_of_propertiesOf placed inside.2 bound top.arguments answered p member
    exact ⟨inside.1 p member, admits.top⟩

/-- For each key of a record one declaration counts. The key admits a missing value just if that is
one of a typed dictionary and does not require the key. -/
theorem missing_iff_not_required (P : Program) (parsed : P.Parsed) (symbol : Symbol)
    (source : RecordSource) (arguments : List Handle) (aliasName : Option String)
    (arises : P.Arises (.record symbol source arguments aliasName)) (c d : CheckState)
    (asked : P.Asked c) (properties : Properties)
    (returned : Returns (P.propertiesOf source arguments) c properties d) (key : String)
    (handle : Handle) (member : (key, handle) ∈ properties) :
    ∃ shape owner hint, source = shape.record P ∧
      (∀ other hint', P.Prevails d key shape other hint' ↔ other = owner ∧ hint' = hint) ∧
      (.missing ∈ handle.alternatives ↔
        (owner.kind P).isTypedDict ∧ ¬ P.Requires owner.file owner.total hint) := by
  obtain ⟨held, top⟩ := arises.sound parsed.placed
  obtain ⟨own, parts⟩ := held.own
  have trusty := (((closed_shaped parsed.placed).propertiesOf own parts).of_returns returned
    (asked.trusty parsed.placed)).2
  obtain ⟨shape, bound, rfl⟩ := own
  obtain ⟨owner, hint, prevails, admits⟩ :=
    prevails_of_propertiesOf parsed.placed trusty bound top.arguments returned _ member
  refine ⟨shape, owner, hint, rfl, fun other hint' => ⟨fun again => again.unique prevails, ?_⟩,
    admits.missing⟩
  rintro ⟨rfl, rfl⟩
  exact prevails

/-- The keys of the record that a hint stands for, and whether they may be left out. -/
def keysOf (P : Program) (hint : Expr) : CheckM (List (String × Bool)) := do
  match ← P.resolve P.entry [] (some hint) with
  | .record _ source arguments _ =>
    let properties ← P.propertiesOf source arguments
    return properties.map fun p => (p.1, p.2.alternatives.any Handle.isMissing)
  | _ => return []

theorem returns_keysOf {hint : Expr} {keys : List (String × Bool)} (nonempty : keys ≠ [])
    (returned : Returns (P.keysOf hint) c keys d) :
    ∃ symbol source arguments aliasName m properties,
      Returns (P.resolve P.entry [] (some hint)) c (.record symbol source arguments aliasName) m ∧
      Returns (P.propertiesOf source arguments) m properties d ∧
      keys = properties.map
        fun p => (p.1, p.2.alternatives.any Handle.isMissing) := by
  obtain ⟨h, m, resolved, returned⟩ := (returns_bind_iff _ _ _).mp returned
  split at returned
  · obtain ⟨properties, n, read, returned⟩ := (returns_bind_iff _ _ _).mp returned
    obtain ⟨rfl, rfl⟩ := (returns_pure_iff _ _).mp returned
    exact ⟨_, _, _, _, m, properties, resolved, read, rfl⟩
  · exact absurd ((returns_pure_iff _ _).mp returned).1 nonempty

/-- The keys of the base are not required, those of the class under it are, and qualifiers in
quotes say otherwise. -/
def partialBase : Program := .ofLines ⟨.root, ["app", "functions.py"]⟩ [
  "from typing import Annotated, Generic, NotRequired, Required, TypedDict, TypeVar",
  "T = TypeVar(\"T\")",
  "class Base(TypedDict, Generic[T], total=False):",
  "    a: T",
  "    b: Required[\"NotRequired[Annotated[T, 1]]\"]",
  "    c: Required[T]",
  "class Leaf(Base[int]):",
  "    d: str",
  "    e: \"NotRequired[Required[int]]\"",
  "    f: \"Required['NotRequired[int]']\"",
  "def send(body: Leaf) -> int:",
  "    return 0"]

theorem missing_iff_not_required_partialBase :
    ∃ symbol source arguments aliasName c properties d,
      partialBase.Arises (.record symbol source arguments aliasName) ∧ partialBase.Asked c ∧
      Returns (partialBase.propertiesOf source arguments) c properties d ∧
      (properties.map fun p => (p.1, p.2.alternatives.any Handle.isMissing)) =
        [("a", true), ("b", true), ("c", false), ("d", false), ("e", false), ("f", true)] ∧
      ∀ key handle, (key, handle) ∈ properties → ∃ shape owner hint,
        source = shape.record partialBase ∧
        (∀ other hint', partialBase.Prevails d key shape other hint' ↔
          other = owner ∧ hint' = hint) ∧
        (.missing ∈ handle.alternatives ↔ (owner.kind partialBase).isTypedDict ∧
          ¬ partialBase.Requires owner.file owner.total hint) := by
  have parsed : partialBase.Parsed := parsed_ofLines (by decide +kernel) _
  have shown : (runFrom (partialBase.keysOf (.name default "Leaf")) {}).1 =
      .ok [("a", true), ("b", true), ("c", false), ("d", false), ("e", false), ("f", true)] := by
    decide +kernel
  obtain ⟨symbol, source, arguments, aliasName, c, properties, resolved, read, keys⟩ :=
    returns_keysOf (by simp) (returns_of_ok shown)
  have arises : partialBase.Arises (.record symbol source arguments aliasName) :=
    .hint (.start rfl) resolved
  have asked : partialBase.Asked c := (Asked.start rfl).next (.resolve _ _ _) resolved
  exact ⟨symbol, source, arguments, aliasName, c, properties, _, arises, asked, read, keys.symm,
    fun key handle member => missing_iff_not_required partialBase parsed symbol source arguments
      aliasName arises c _ asked properties read key handle member⟩

end Program

end HintSchema

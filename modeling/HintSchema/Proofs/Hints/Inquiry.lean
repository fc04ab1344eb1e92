import HintSchema.Proofs.Hints.Confined
import HintSchema.Proofs.Hints.Properties
import HintSchema.Proofs.Modules.Parsed

/-!
Handles that come up when a program's hints are inquired into, one question after the other. Unless
a record is written in a text, two records of one identity have the same properties
(`properties_of_identity_eq`).
-/

namespace HintSchema

def Handle.parts (h : Handle) : List Handle := h.members?.getD [] ++ h.arguments

theorem Sourced.parts {P : Program} {z : CheckState} {h : Handle} (sourced : Sourced P z h) :
    ∀ g ∈ h.parts, Sourced P z g := by
  cases sourced with
  | union parts => simpa [Handle.parts, Handle.members?, Handle.arguments] using parts
  | list inner => simpa [Handle.parts, Handle.members?, Handle.arguments] using inner
  | awaitable parts | classObject _ _ parts | record _ parts | deferred _ parts =>
    simpa [Handle.parts, Handle.members?, Handle.arguments] using parts
  | _ => exact List.forall_mem_nil _

namespace SourceFile

theorem mem_statements_of_exported {s : SourceFile} {f : Function}
    (exported : f ∈ s.exportedFunctions) :
    .functionDef f.definition ∈ s.statements ∧ f.file = s.path := by
  unfold exportedFunctions at exported
  obtain ⟨p, member, rfl⟩ := List.mem_map.mp exported
  let Defined (g : Function) : Prop := .functionDef g.definition ∈ s.statements ∧ g.file = s.path
  refine List.foldlRecOn (motive := fun functions => ∀ q ∈ functions, Defined q.2) s.statements _
    (List.forall_mem_nil _) ?_ p member
  intro functions known statement inside
  split
  · split
    · exact Pairs.forall_mem_put (Q := Defined) known ⟨inside, rfl⟩
    · exact known
  · exact known

end SourceFile

namespace Program

variable {P : Program} {z : CheckState} {f : Function}

theorem nodes_of_exported {file : Path} (exported : f ∈ (P.source file).exportedFunctions) :
    (Statement.functionDef f.definition).nodes ⊆ (P.source f.file).nodes := by
  obtain ⟨defined, same⟩ := SourceFile.mem_statements_of_exported exported
  rw [path_source] at same
  rw [same]
  exact Statement.nodes_of_mem defined

def SameTypes (P : Program) (z : CheckState) (s t : Signature) : Prop :=
  List.Forall₂ (fun p q => Kin P z p.handle q.handle) s.parameters t.parameters ∧
    Kin P z s.result t.result

theorem agree_resultHandle (placed : P.Placed) (clean : P.NoQuotedRecord) {file : Path}
    {hint : Option Expr} (fits : ∀ expr, hint = some expr → P.Fits file expr) :
    Agree P z (P.resultHandle file hint) (P.resultHandle file hint) (Kin P z) := by
  unfold resultHandle
  split
  · exact .pure (.refl (.void _))
  · split
    · exact .pure (.refl (.void _))
    · exact agree_resolve placed clean .nil fits
  · exact agree_resolve placed clean .nil fits

theorem agree_signature (placed : P.Placed) (clean : P.NoQuotedRecord) {file : Path}
    (exported : f ∈ (P.source file).exportedFunctions) :
    Agree P z (P.signature f) (P.signature f) (SameTypes P z) := by
  have held := nodes_of_exported exported
  unfold signature
  have parameters : Agree P z (f.definition.parameters.mapM (P.typedParameter f.file))
      (f.definition.parameters.mapM (P.typedParameter f.file))
      (List.Forall₂ fun p q => Kin P z p.handle q.handle) := by
    have moves (parameter : Parameter) : Moves P (P.typedParameter f.file parameter) :=
      (settles_typedParameter .any f.file parameter).moves
    refine .mapM (fun p _ => moves p) (fun p _ => moves p) (List.forall₂_same.mpr ?_)
    intro parameter member
    unfold typedParameter
    refine (agree_resolve placed clean .nil ?_).map fun a b kin => ?_
    · intro hint hinted
      have inside := List.map_subset Node.expr (Expr.parts_hint_of_mem_parameters member hinted)
      have written := List.Subset.trans inside (Statement.parameters_subset _)
      exact fits_of_nodes clean (List.Subset.trans written held)
    · dsimp only
      split
      · exact .unionOf (.cons kin (.cons (.refl (.intrinsic _)) .nil))
      · exact kin
  have result : Agree P z (P.resultHandle f.file f.definition.returns)
      (P.resultHandle f.file f.definition.returns) (Kin P z) := by
    refine agree_resultHandle placed clean fun hint hinted => ?_
    have inside := Statement.returns_subset f.definition
    rw [hinted] at inside
    exact fits_of_nodes clean (List.Subset.trans inside held)
  have rest (parameters : List TypedParameter) : Moves P (do
      let result ← P.resultHandle f.file f.definition.returns
      return (⟨parameters, if f.definition.isAsync then .awaitable "Coroutine" [result]
        else result⟩ : Signature)) :=
    (settles_resultHandle .any _ _).moves.bind fun _ => .pure _
  refine parameters.bind rest rest fun p q related => ?_
  refine result.map fun a b kin => ⟨related, ?_⟩
  dsimp only
  split
  · exact .awaitable _ (.cons kin .nil)
  · exact kin

/-- A question about hints, when some handles have come up already, and the handles that it adds. -/
inductive Asks (P : Program) (handles : List Handle) :
    CheckState → List Handle → CheckState → Prop
  | hint {file : Path} {scope : TypeVariables} {hint : Expr} {h : Handle} {c d : CheckState}
      (hinted : P.Hint file hint) (known : ∀ v ∈ scope, v.2 ∈ handles)
      (answered : Returns (P.resolve file scope (some hint)) c h d) : Asks P handles c [h] d
  | signature {file : Path} {f : Function} {s : Signature} {c d : CheckState}
      (exported : f ∈ (P.source file).exportedFunctions)
      (answered : Returns (P.signature f) c s d) :
      Asks P handles c (s.result :: s.parameters.map (·.handle)) d
  | apparent {h shown : Handle} {c d : CheckState} (known : h ∈ handles)
      (answered : Returns (P.apparent h) c shown d) : Asks P handles c [shown] d
  | properties {symbol : Symbol} {source : RecordSource} {arguments : List Handle}
      {aliasName : Option String} {members : Properties} {c d : CheckState}
      (known : .record symbol source arguments aliasName ∈ handles)
      (answered : Returns (P.propertiesOf source arguments) c members d) :
      Asks P handles c (members.map (·.2)) d
  | parts {h : Handle} {c : CheckState} (known : h ∈ handles) : Asks P handles c (h.parts) c

/-- Questions about a program's hints, one after the other, and the handles that have come up. At
first nothing is known of classes. -/
inductive Inquiry (P : Program) : List Handle → CheckState → Prop
  | start {c : CheckState} (blank : c.records = []) : Inquiry P [] c
  | asked {handles new : List Handle} {c d : CheckState} (before : Inquiry P handles c)
      (asks : P.Asks handles c new d) : Inquiry P (new ++ handles) d

theorem Asks.sound (placed : P.Placed) (clean : P.NoQuotedRecord) {handles new : List Handle}
    {c d : CheckState} (asks : P.Asks handles c new d) (genuine : c.Genuine P)
    (sourced : ∀ h ∈ handles, Sourced P c h) :
    c.Grows P d ∧ d.Genuine P ∧ ∀ h ∈ new, Sourced P d h := by
  cases asks with
  | @hint file scope hint h _ _ hinted known answered =>
    have grown := P.moves_resolve file scope (some hint) _ _ _ answered
    have kept := genuine.resolve answered
    refine ⟨grown, kept, List.forall_mem_singleton.mpr ?_⟩
    have named : List.Forall₂ (Named (Kin P d)) scope scope := List.forall₂_same.mpr
      fun v member => ⟨rfl, .refl ((sourced v.2 (known v member)).later grown)⟩
    have fits := hinted.fits clean
    refine (agree_resolve placed clean named ?_ _ _ _ _ _ _ answered answered (.refl d)
      (.refl d)).left
    rintro _ ⟨⟩
    exact fits
  | @signature file f s _ _ exported answered =>
    have grown := P.moves_signature f _ _ _ answered
    have kept := genuine.signature answered
    obtain ⟨parameters, result⟩ := agree_signature placed clean exported _ _ _ _ _ _ answered
      answered (.refl d) (.refl d)
    refine ⟨grown, kept, List.forall_mem_cons.mpr ⟨result.left, List.forall_mem_map.mpr ?_⟩⟩
    exact fun p member => (List.forall₂_same.mp parameters p member).left
  | @apparent h shown _ _ known answered =>
    have grown := P.moves_apparent h _ _ _ answered
    have kept := genuine.apparent answered
    refine ⟨grown, kept, List.forall_mem_singleton.mpr ?_⟩
    exact (agree_apparent placed clean (.refl ((sourced h known).later grown)) _ _ _ _ _ _ answered
      answered (.refl d) (.refl d)).left
  | @properties symbol source arguments aliasName members _ _ known answered =>
    have grown := P.moves_propertiesOf source arguments _ _ _ answered
    have kept := genuine.propertiesOf answered
    refine ⟨grown, kept, List.forall_mem_map.mpr fun m member => ?_⟩
    have related := agree_propertiesOf placed clean kept (.refl ((sourced _ known).later grown))
      _ _ _ _ _ _ answered answered (.refl d) (.refl d)
    exact (List.forall₂_same.mp related m member).2.left
  | parts known => exact ⟨.refl _, genuine, (sourced _ known).parts⟩

theorem Inquiry.sound (placed : P.Placed) (clean : P.NoQuotedRecord) {handles : List Handle}
    {c : CheckState} (inquiry : P.Inquiry handles c) :
    c.Genuine P ∧ ∀ h ∈ handles, Sourced P c h := by
  induction inquiry with
  | start blank => exact ⟨CheckState.genuine_of_blank blank, List.forall_mem_nil _⟩
  | asked _ asks ih =>
    obtain ⟨genuine, sourced⟩ := ih
    obtain ⟨grown, kept, new⟩ := asks.sound placed clean genuine sourced
    exact ⟨kept, List.forall_mem_append.mpr ⟨new, fun h member => (sourced h member).later grown⟩⟩

/-- Of two records that have come up, if they have one identity, the properties have the same names
in the same order, and in each place handles of one identity. -/
theorem properties_of_identity_eq (P : Program) (parsed : P.Parsed) (clean : P.NoQuotedRecord)
    (handles : List Handle) (c : CheckState) (inquiry : P.Inquiry handles c)
    (symbol symbol' : Symbol) (source source' : RecordSource) (arguments arguments' : List Handle)
    (aliasName aliasName' : Option String)
    (first : .record symbol source arguments aliasName ∈ handles)
    (second : .record symbol' source' arguments' aliasName' ∈ handles)
    (same : (Handle.record symbol source arguments aliasName).identity =
      (Handle.record symbol' source' arguments' aliasName').identity)
    (members members' : Properties) (d e : CheckState)
    (asked : Returns (P.propertiesOf source arguments) c members d)
    (asked' : Returns (P.propertiesOf source' arguments') d members' e) :
    List.Forall₂ (fun m n => m.1 = n.1 ∧ m.2.identity = n.2.identity) members members' := by
  have placed := parsed.placed
  obtain ⟨genuine, sourced⟩ := inquiry.sound placed clean
  have begun := P.moves_propertiesOf source arguments _ _ _ asked
  have ended := P.moves_propertiesOf source' arguments' _ _ _ asked'
  have kept : e.Genuine P := (genuine.propertiesOf asked).propertiesOf asked'
  have kin : Kin P e (.record symbol source arguments aliasName)
      (.record symbol' source' arguments' aliasName') :=
    ⟨same, (sourced _ first).later (begun.trans ended),
      (sourced _ second).later (begun.trans ended)⟩
  have related := agree_propertiesOf placed clean kept kin _ _ _ _ _ _ asked asked' ended (.refl e)
  exact related.imp fun _ _ named => ⟨named.1, named.2.same⟩

def hintsWhere (P : Program) (test : Expr → Bool) : List Expr :=
  (P.source P.entry).nodes.filterMap fun
    | .expr e => if test e then some e else none
    | .classDef _ => none

theorem mem_nodes_of_hintsWhere {test : Expr → Bool} {e : Expr} (member : e ∈ P.hintsWhere test) :
    .expr e ∈ (P.source P.entry).nodes := by
  obtain ⟨n, inside, same⟩ := List.mem_filterMap.mp member
  split at same
  · split at same
    · cases same
      exact inside
    · cases same
  · cases same

theorem Inquiry.hints {old : List Handle} {c d : CheckState} (before : P.Inquiry old c)
    {hints : List Expr} {handles : List Handle}
    (nodes : ∀ hint ∈ hints, .expr hint ∈ (P.source P.entry).nodes)
    (returned : Returns (hints.mapM fun hint => P.resolve P.entry [] (some hint)) c handles d) :
    P.Inquiry (handles.reverse ++ old) d := by
  induction hints generalizing old c handles with
  | nil =>
    obtain ⟨rfl, rfl⟩ := (returns_pure_iff _ _).mp returned
    exact before
  | cons hint rest ih =>
    obtain ⟨first, others⟩ := List.forall_mem_cons.mp nodes
    obtain ⟨h, m, more, resolved, later, rfl⟩ := (returns_mapM_cons_iff ..).mp returned
    have asked := before.asked (.hint (hint_of_node first) (List.forall_mem_nil _) resolved)
    simpa using ih asked others later

/-- Whether the first two hints are records of one identity, and the names of their properties. -/
def compareRecords (P : Program) (hints : List Expr) :
    CheckM (Bool × List String × List String) := do
  match ← hints.mapM fun hint => P.resolve P.entry [] (some hint) with
  | .record symbol source arguments aliasName :: .record symbol' source' arguments' aliasName' ::
      _ =>
    let members ← P.propertiesOf source arguments
    let members' ← P.propertiesOf source' arguments'
    let same := (Handle.record symbol source arguments aliasName).identity =
      (Handle.record symbol' source' arguments' aliasName').identity
    return (decide same, Pairs.keys members, Pairs.keys members')
  | _ => return (false, [], [])

theorem inquiry_of_compareRecords {test : Expr → Bool} {names names' : List String}
    {c e : CheckState} (blank : c.records = [])
    (returned : Returns (P.compareRecords (P.hintsWhere test)) c (true, names, names') e) :
    ∃ handles d symbol source arguments aliasName symbol' source' arguments' aliasName' members
      members' f, P.Inquiry handles d ∧
      .record symbol source arguments aliasName ∈ handles ∧
      .record symbol' source' arguments' aliasName' ∈ handles ∧
      (Handle.record symbol source arguments aliasName).identity =
        (Handle.record symbol' source' arguments' aliasName').identity ∧
      Returns (P.propertiesOf source arguments) d members f ∧
      Returns (P.propertiesOf source' arguments') f members' e ∧
      names = Pairs.keys members ∧ names' = Pairs.keys members' := by
  unfold compareRecords at returned
  obtain ⟨handles, d, resolved, rest⟩ := (returns_bind_iff ..).mp returned
  have inquiry := (Inquiry.start blank).hints (fun _ => mem_nodes_of_hintsWhere) resolved
  rw [List.append_nil] at inquiry
  split at rest
  · simp only [returns_bind_iff, returns_pure_iff, Prod.mk.injEq] at rest
    obtain ⟨members, f, asked, members', _, asked', ⟨same, first, second⟩, rfl⟩ := rest
    exact ⟨_, d, _, _, _, _, _, _, _, _, members, members', f, inquiry, by simp, by simp,
      of_decide_eq_true same.symm, asked, asked', first, second⟩
  · obtain ⟨impossible, _⟩ := (returns_pure_iff _ _).mp rest
    cases impossible

/-- Two records that stand in texts at the same column. -/
def quotedRecords : Program := .ofLines ⟨.root, ["app", "functions.py"]⟩ [
  "from typing import TypedDict, Union",
  "def send(body: Union['TypedDict[\x7b\"x\": int\x7d]', 'TypedDict[\x7b\"y\": str\x7d]']) -> int:",
  "    return 0"]

def isText : Expr → Bool
  | .literal _ (.text _ _) => true
  | _ => false

/-- The places of the two dictionaries are counted from the start of their texts. -/
theorem quotedRecords_merged :
    ∃ handles c symbol source arguments aliasName symbol' source' arguments' aliasName' members
      members' d e, quotedRecords.Inquiry handles c ∧
      .record symbol source arguments aliasName ∈ handles ∧
      .record symbol' source' arguments' aliasName' ∈ handles ∧
      (Handle.record symbol source arguments aliasName).identity =
        (Handle.record symbol' source' arguments' aliasName').identity ∧
      Returns (quotedRecords.propertiesOf source arguments) c members d ∧
      Returns (quotedRecords.propertiesOf source' arguments') d members' e ∧
      Pairs.keys members = ["x"] ∧ Pairs.keys members' = ["y"] := by
  have shown : (runFrom (quotedRecords.compareRecords (quotedRecords.hintsWhere isText))
      (.start quotedRecords)).1 = .ok (true, ["x"], ["y"]) := by decide +kernel
  obtain ⟨handles, c, _, _, _, _, _, _, _, _, members, members', d, inquiry, first, second, same,
    asked, asked', names, names'⟩ := inquiry_of_compareRecords rfl (returns_of_ok shown)
  exact ⟨handles, c, _, _, _, _, _, _, _, _, members, members', d, _, inquiry, first, second, same,
    asked, asked', names.symm, names'.symm⟩

/-- A record that has a name where its alias is used, and none where it is written. -/
def namedShape : Program := .ofLines ⟨.root, ["app", "functions.py"]⟩ [
  "from typing import Generic, TypedDict, TypeVar",
  "T = TypeVar(\"T\")",
  "class Box(TypedDict, Generic[T]):",
  "    value: T",
  "Shape = TypedDict[\x7b\"left\": \"Box[int]\", \"right\": \"Shape\"\x7d]",
  "def turn(shape: Shape) -> Shape:",
  "    return shape"]

def isShape : Expr → Bool
  | .name _ "Shape" => true
  | .subscript _ (.name _ "TypedDict") _ => true
  | _ => false

theorem namedShape_clean : namedShape.NoQuotedRecord :=
  noQuotedRecord_of_plain (by decide +kernel)

theorem properties_of_identity_eq_namedShape :
    namedShape.Parsed ∧ namedShape.NoQuotedRecord ∧
    ∃ handles c symbol source arguments aliasName symbol' source' arguments' aliasName' members
      members' d e, namedShape.Inquiry handles c ∧
      .record symbol source arguments aliasName ∈ handles ∧
      .record symbol' source' arguments' aliasName' ∈ handles ∧
      (Handle.record symbol source arguments aliasName).identity =
        (Handle.record symbol' source' arguments' aliasName').identity ∧
      Returns (namedShape.propertiesOf source arguments) c members d ∧
      Returns (namedShape.propertiesOf source' arguments') d members' e ∧
      Pairs.keys members = ["left", "right"] ∧
      List.Forall₂ (fun m n => m.1 = n.1 ∧ m.2.identity = n.2.identity) members members' := by
  have parsed : namedShape.Parsed := parsed_ofLines (by decide +kernel) _
  have shown : (runFrom (namedShape.compareRecords (namedShape.hintsWhere isShape))
      (.start namedShape)).1 = .ok (true, ["left", "right"], ["left", "right"]) := by
    decide +kernel
  obtain ⟨handles, c, _, _, _, _, _, _, _, _, members, members', d, inquiry, first, second, same,
    asked, asked', names, _⟩ := inquiry_of_compareRecords rfl (returns_of_ok shown)
  have alike := properties_of_identity_eq namedShape parsed namedShape_clean handles c inquiry _ _
    _ _ _ _ _ _ first second same members members' d _ asked asked'
  exact ⟨parsed, namedShape_clean, handles, c, _, _, _, _, _, _, _, _, members, members', d, _,
    inquiry, first, second, same, asked, asked', names.symm, alike⟩

end Program

end HintSchema

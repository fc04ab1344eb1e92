import HintSchema.Proofs.Hints.Faithful
import HintSchema.Proofs.Hints.Inquiry

/-!
The questions that a derivation puts to the checker, one after the other, and what in the program is
to blame when one of them has no answer (`answers_or_culprit`): a text that cannot be read, an
expression or a class without a name that cannot be written out, or a field of a typed dictionary
with an empty form.
-/

namespace HintSchema

namespace Program

/-- The expressions of a file that questions come to: the hints of functions and fields, and what is
mentioned by what names are bound to. -/
inductive Reads (P : Program) (file : Path) : Expr → Prop
  | hint {top part : Expr} (written : top ∈ (P.source file).topHints)
      (shown : Relation.ReflTransGen (P.Shows file) top part) : Reads P file part
  | bound {name : String} {bound : Bound} {e : Expr}
      (member : (name, bound) ∈ (P.source file).scope.names) (mentioned : bound.Mentions P file e) :
      Reads P file e
  | fields {name : String} {call : RecordCall}
      (member : (name, .recordCall call) ∈ (P.source file).scope.names) : Reads P file call.fields

/-- The fields of a typed dictionary: of a class, of a call or of a hint. -/
inductive TypedFields (P : Program) : Path → RecordFields → Prop
  | ofClass {x : Declared} (bound : P.Binds x) (dictionary : P.Dictionary x) :
      TypedFields P x.1 (.ofClass x.2)
  | ofCall {file : Path} {name : String} {call : RecordCall}
      (member : (name, .recordCall call) ∈ (P.source file).scope.names) :
      TypedFields P file (.ofDict call.fields)
  | ofHint {file : Path} {pos place : Position} {value index : Expr} {items : List DictItem}
      {rest : List Expr} (read : P.Reads file (.subscript pos value index))
      (found : (P.lookupExpr file value).1 = .ok (.special "typing.TypedDict"))
      (parts : index.indices = .dict place items :: rest) :
      TypedFields P file (.ofDict (.dict place items))

/-- What in the program a fault comes from. -/
inductive Culprit (P : Program) : Fault → Prop
  | null {file : Path} {pos : Position} {text : CodeText} {marked : Bool} {chars : List Char}
      (read : P.Reads file (.literal pos (.text text marked))) (written : text.chars? = some chars)
      (null : '\x00' ∈ Text.strip chars) : Culprit P .nullInHint
  | surrogate {file : Path} {pos : Position} {text : CodeText} {marked : Bool}
      (read : P.Reads file (.literal pos (.text text marked))) (half : text.chars? = none) :
      Culprit P .surrogateInHint
  | expression {file : Path} {e : Expr} {cause : PrintFault} (read : P.Reads file e)
      (unwritten : e.source? = .error cause ∨ (P.lookupExpr file e).1 = .error cause) :
      Culprit P (.unprintable cause)
  | record {x : Declared} {cause : PrintFault} (bound : P.Binds x)
      (nameless : x.2.name = Symbol.anonymousName) (unwritten : x.2.source? = .error cause) :
      Culprit P (.unprintable cause)
  | empty {file : Path} {fields : RecordFields} {hint part : Expr}
      (typed : P.TypedFields file fields) (declared : fields.Declares hint)
      (peels : Relation.ReflTransGen (P.Peels file) hint part) (empty : P.EmptyForm file part) :
      Culprit P .noArgument

/-- What is looked up for the record is read, a typed dictionary has the fields of one, and a class
goes by its name. -/
structure Accounts (P : Program) (symbol : Symbol) (source : RecordSource) : Prop where
  mentions : ∀ e, source.fields.Mentions P source.file e → P.Reads source.file e
  typed : source.kind.isTypedDict → P.TypedFields source.file source.fields
  fields : ∀ fields, source.fields = .ofDict fields → P.Reads source.file fields
  classes : ∀ definition, source.fields = .ofClass definition →
    symbol.name = definition.name ∧ P.Binds (source.file, definition)

def blame (P : Program) : Realm P where
  state := CheckState.Faithful P
  reads := P.Reads
  record := P.Accounts
  target target := ∀ e, (Bound.alias target.value).Mentions P target.key.file e →
    P.Reads target.key.file e
  fault := P.Culprit

variable {P : Program} {x : Declared} {e : Expr} {symbol : Symbol} {record : RecordSource}

theorem searched_blame (P : Program) : P.blame.Searched where
  opening _ faithful := faithful
  unresolved read unresolved := .expression read (.inr unresolved)

theorem Binds.reads (bound : P.Binds x) (mentioned : (Bound.classDef x.2).Mentions P x.1 e) :
    P.Reads x.1 e :=
  bound.elim fun _ member => .bound member mentioned

theorem remembers_blame (placed : P.Placed) : P.blame.Remembers P.Binds P.Declares where
  toSearched := P.searched_blame
  mentions := Binds.reads
  inherits _ inherits := inherits.binds
  remember faithful bound declared := faithful.remember bound declared
  known faithful bound found := faithful.declares placed bound found
  plain _ plain := ⟨_, rfl, fun typed => absurd typed plain⟩
  own _ member found := ⟨_, rfl, fun _ => .own member found⟩
  inherited _ inherits declares typed :=
    ⟨_, rfl, fun _ => .inherited inherits (declares.dictionary (by rw [typed]; rfl))⟩

theorem Declares.accounts (declares : P.Declares x record) (bound : P.Binds x)
    (named : symbol.name = x.2.name) : P.Accounts symbol record := by
  obtain ⟨kind, rfl, dictionary⟩ := declares
  refine ⟨fun e mentioned => bound.reads (.record mentioned), fun typed => ?_, ?_, ?_⟩
  · exact .ofClass bound (dictionary typed)
  · rintro _ ⟨⟩
  · rintro _ ⟨⟩
    exact ⟨named, bound⟩

theorem accounts_inline {file : Path} {pos place : Position} {value index : Expr}
    {items : List DictItem} {rest : List Expr}
    (shown : P.blame.Shown file (.subscript pos value index))
    (found : (P.lookupExpr file value).1 = .ok (.special "typing.TypedDict"))
    (parts : index.indices = .dict place items :: rest) :
    P.Accounts symbol (inlineSource file (.dict place items)) := by
  have dict : P.blame.Shown file (.dict place items) := by
    refine shown.of_shows (.argument found ?_)
    rw [parts]
    exact List.mem_cons_self
  refine ⟨fun e mentioned => ?_, fun _ => .ofHint shown.reads found parts, ?_, ?_⟩
  · cases mentioned with
    | item member inside => exact dict.of_shows (.dict member) e inside
  · rintro _ ⟨⟩
    exact dict.reads
  · rintro _ ⟨⟩

theorem Accounts.culprit (accounts : P.Accounts symbol record) (nameless : symbol.isAnonymous)
    {cause : PrintFault} (unwritten : Handle.Source.inlineText? record = .error cause) :
    P.Culprit (.unprintable cause) := by
  unfold Handle.Source.inlineText? at unwritten
  split at unwritten
  · rename_i fields same
    exact .expression (accounts.fields fields same) (.inl unwritten)
  · rename_i definition same
    obtain ⟨named, bound⟩ := accounts.classes definition same
    exact .record bound (named.symm.trans (beq_iff_eq.mp nameless)) unwritten

theorem closed_blame (placed : P.Placed) : P.blame.Closed where
  toSearched := P.searched_blame
  recordOf {file e home definition} read found := by
    have bound : P.Binds (home, definition) := grounds_lookupExpr found
    exact ((remembers_blame placed).recordOf bound).mono fun record declares source same =>
      (declares source same).accounts bound rfl
  call {file e key call} read found := by
    have member : (key.name, .recordCall call) ∈ (P.source key.file).scope.names :=
      grounds_lookupExpr found
    refine ⟨fun e mentioned => .bound member (.call mentioned), fun _ => .ofCall member, ?_, ?_⟩
    · rintro _ ⟨⟩
      exact .fields member
    · rintro _ ⟨⟩
  aliased {file e key value} read found := by
    obtain ⟨bound, member, same⟩ := List.exists_of_findSome?_eq_some (grounds_lookupExpr found)
    match bound, same with
    | .alias _, rfl => exact fun e mentioned => .bound (mem_names_of_boundTo member) mentioned
  inline := accounts_inline
  mentions accounts := accounts.mentions
  values own := own
  unwritten read unwritten := .expression read (.inl unwritten)
  undisplayed accounts nameless unwritten := accounts.culprit nameless unwritten
  surrogate read half := .surrogate read half
  null read written null := .null read written null
  empty accounts typed declared peels empty := .empty (accounts.typed typed) declared peels empty

/-- A question, when some handles have come up already, and the handles in its answer. -/
inductive Query (P : Program) (handles : List Handle) :
    {α : Type} → CheckM α → (α → List Handle) → Prop
  | check (file : Path) : Query P handles (P.checkFile file) fun _ => []
  | signature {file : Path} {f : Function} (exported : f ∈ (P.source file).exportedFunctions) :
      Query P handles (P.signature f) fun s => s.result :: s.parameters.map (·.handle)
  | apparent {h : Handle} (known : h ∈ handles) :
      Query P handles (P.apparent h) fun shown => [shown]
  | properties {symbol : Symbol} {source : RecordSource} {arguments : List Handle}
      {aliasName : Option String} (known : .record symbol source arguments aliasName ∈ handles) :
      Query P handles (P.propertiesOf source arguments) fun members => members.map (·.2)

/-- Questions that have been answered, one after the other, and the handles that have come up. At
first nothing is known of classes. -/
inductive Session (P : Program) : List Handle → CheckState → Prop
  | start {c : CheckState} (blank : c.records = []) : Session P [] c
  | asked {handles : List Handle} {c d : CheckState} {α : Type} {question : CheckM α}
      {answers : α → List Handle} {a : α} (before : Session P handles c)
      (query : P.Query handles question answers) (answered : Returns question c a d) :
      Session P (answers a ++ handles) d
  | parts {handles : List Handle} {c : CheckState} {h : Handle} (before : Session P handles c)
      (known : h ∈ handles) : Session P (h.parts ++ handles) c

variable {handles : List Handle} {c : CheckState} {α : Type} {question : CheckM α}
  {answers : α → List Handle} {file : Path}

theorem shown_topHint {hint : Expr} (written : hint ∈ (P.source file).topHints) :
    P.blame.Shown file hint :=
  fun _ shown => .hint written shown

theorem Query.asks (placed : P.Placed) (query : P.Query handles question answers)
    (held : ∀ h ∈ handles, h.In P.blame) :
    P.blame.Asks question fun a => ∀ h ∈ answers a, h.In P.blame := by
  have closed := closed_blame placed
  cases query with
  | check file =>
    refine (closed.checkFile (fun c paths faithful => faithful) fun hint written => ?_).mono
      fun _ _ => List.forall_mem_nil _
    exact shown_topHint written
  | @signature file f exported =>
    obtain ⟨defined, same⟩ := SourceFile.mem_statements_of_exported exported
    rw [path_source] at same
    subst same
    refine (closed.signature fun hint written => shown_topHint ?_).mono fun s found => ?_
    · exact List.mem_flatMap.mpr ⟨_, defined, written⟩
    · exact List.forall_mem_cons.mpr ⟨found.2, List.forall_mem_map.mpr found.1⟩
  | apparent known =>
    exact (closed.apparent (held _ known)).mono fun _ found => List.forall_mem_singleton.mpr found
  | properties known =>
    cases held _ known with
    | record own parts =>
      exact (closed.propertiesOf own parts).mono fun members found => List.forall_mem_map.mpr found

theorem Session.held (placed : P.Placed) (session : P.Session handles c) :
    c.Faithful P ∧ ∀ h ∈ handles, h.In P.blame := by
  induction session with
  | start blank => exact ⟨CheckState.faithful_of_blank blank, List.forall_mem_nil _⟩
  | asked before query answered ih =>
    obtain ⟨new, kept⟩ := (query.asks placed ih.2).of_returns answered ih.1
    exact ⟨kept, List.forall_mem_append.mpr ⟨new, ih.2⟩⟩
  | parts before known ih =>
    exact ⟨ih.1, List.forall_mem_append.mpr ⟨(ih.2 _ known).parts, ih.2⟩⟩

end Program

end HintSchema

import HintSchema.Hints.Function
import HintSchema.Proofs.Hints.Equations
import HintSchema.Proofs.Hints.Mentioned
import HintSchema.Proofs.Pairs

/-!
Realms: conditions on states, on what is read of hints, on records and aliases, and on faults, under
which no question leads out. A question that is asked inside a realm has an answer inside, or it
stops with a fault of the realm.
-/

namespace HintSchema

/-- Asked in a state that satisfies `S`, the question has an answer that satisfies `Q` and leaves
such a state, or it stops with a fault that satisfies `E`. -/
def Careful {α : Type} (S : CheckState → Prop) (E : Fault → Prop) (question : CheckM α)
    (Q : α → Prop) : Prop :=
  ∀ c, S c → (∃ a d, Returns question c a d ∧ Q a ∧ S d) ∨
    ∃ fault d, Raises question c fault d ∧ E fault

namespace Careful

variable {S : CheckState → Prop} {E : Fault → Prop} {α β : Type} {Q : α → Prop} {R : β → Prop}

theorem pure {a : α} (right : Q a) : Careful S E (pure a) Q :=
  fun c inside => .inl ⟨a, c, rfl, right, inside⟩

theorem throw {fault : Fault} (admitted : E fault) : Careful S E (throw fault : CheckM α) Q :=
  fun c _ => .inr ⟨fault, c, rfl, admitted⟩

theorem bind {question : CheckM α} {next : α → CheckM β} (first : Careful S E question Q)
    (second : ∀ a, Q a → Careful S E (next a) R) : Careful S E (question >>= next) R := by
  intro c inside
  refine Ends.bind (first c inside) ?_
  rintro a m ⟨right, begun⟩
  exact second a right m begun

theorem mono {Q' : α → Prop} {question : CheckM α} (careful : Careful S E question Q)
    (weaker : ∀ a, Q a → Q' a) : Careful S E question Q' := by
  intro c inside
  rcases careful c inside with ⟨a, d, asked, right, kept⟩ | stopped
  · exact .inl ⟨a, d, asked, weaker a right, kept⟩
  · exact .inr stopped

theorem weaken {F : Fault → Prop} {question : CheckM α} (careful : Careful S E question Q)
    (weaker : ∀ fault, E fault → F fault) : Careful S F question Q := by
  intro c inside
  rcases careful c inside with answered | ⟨fault, d, raised, admitted⟩
  · exact .inl answered
  · exact .inr ⟨fault, d, raised, weaker fault admitted⟩

theorem map {question : CheckM α} {f : α → β} (asked : Careful S E question fun a => R (f a)) :
    Careful S E (f <$> question) R := by
  rw [map_eq_pure_bind]
  exact asked.bind fun a right => .pure right

theorem get : Careful S E (get : CheckM CheckState) S :=
  fun c inside => .inl ⟨c, c, (returns_get_iff ..).mpr ⟨rfl, rfl⟩, inside, inside⟩

theorem modify {f : CheckState → CheckState} (kept : ∀ c, S c → S (f c)) :
    Careful S E (modify f : CheckM PUnit) fun _ => True :=
  fun c inside => .inl ⟨⟨⟩, f c, (returns_modify_iff _ _).mpr rfl, trivial, kept c inside⟩

theorem mapM {f : α → CheckM β} {items : List α}
    (each : ∀ item ∈ items, Careful S E (f item) R) :
    Careful S E (items.mapM f) fun results => ∀ b ∈ results, R b := by
  induction items with
  | nil => exact .pure (List.forall_mem_nil _)
  | cons item rest ih =>
    rw [List.mapM_cons]
    apply (each item List.mem_cons_self).bind
    intro b first
    apply (ih fun item member => each item (List.mem_cons_of_mem _ member)).bind
    intro results others
    exact .pure (List.forall_mem_cons.mpr ⟨first, others⟩)

theorem each {f : α → CheckM β} {items : List α}
    (asked : ∀ item ∈ items, Careful S E (f item) fun _ => True) :
    Careful S E (items.mapM f) fun _ => True :=
  (mapM asked).mono fun _ _ => trivial

theorem foldlM_along {γ : Type} (step : γ → α → γ) {R : γ → β → Prop} {f : β → α → CheckM β}
    {items : List α} {g : γ} {b : β} (start : R g b)
    (each : ∀ item ∈ items, ∀ g b, R g b → Careful S E (f b item) (R (step g item))) :
    Careful S E (items.foldlM f b) (R (items.foldl step g)) := by
  induction items generalizing g b with
  | nil => exact .pure start
  | cons item rest ih =>
    rw [List.foldlM_cons, List.foldl_cons]
    apply (each item List.mem_cons_self g b start).bind
    intro b next
    exact ih next fun item member => each item (List.mem_cons_of_mem _ member)

theorem foldlM {f : β → α → CheckM β} {items : List α} {b : β} (start : R b)
    (each : ∀ item ∈ items, ∀ b, R b → Careful S E (f b item) R) :
    Careful S E (items.foldlM f b) R :=
  foldlM_along (fun _ _ => ()) (R := fun _ => R) (g := ()) start
    fun item member _ => each item member

theorem of_returns {question : CheckM α} {a : α} {c d : CheckState}
    (careful : Careful S E question Q) (answered : Returns question c a d) (inside : S c) :
    Q a ∧ S d := by
  rcases careful c inside with ⟨b, e, asked, right, kept⟩ | ⟨fault, e, raised, _⟩
  · obtain ⟨rfl, rfl⟩ := answered.unique asked
    exact ⟨right, kept⟩
  · cases answered.symm.trans raised

end Careful

inductive RecordFields.Declares : RecordFields → Expr → Prop
  | declare {definition : ClassDef Statement} {pos : Position} {name : String} {hint : Expr}
      {value : Option Expr} {bare : Bool}
      (member : .declare (.name pos name) hint value bare ∈ definition.body) :
      Declares (.ofClass definition) hint
  | item {pos place : Position} {items : List DictItem} {key : CodeText} {marked : Bool}
      {hint : Expr} (member : .pair (.literal place (.text key marked)) hint ∈ items) :
      Declares (.ofDict (.dict pos items)) hint

namespace Program

/-- What the qualifiers and the quotes of a field's hint are taken off for. -/
inductive Peels (P : Program) (file : Path) : Expr → Expr → Prop
  | text {pos : Position} {text : CodeText} {marked : Bool} {inner : Expr}
      (quotes : text.Quotes inner) : Peels P file (.literal pos (.text text marked)) inner
  | qualifier {pos : Position} {value index first : Expr} {rest : List Expr} {qualname : String}
      (found : (P.lookupExpr file value).1 = .ok (.special qualname))
      (qualifies : (requiredInside? qualname true).isSome) (parts : index.indices = first :: rest) :
      Peels P file (.subscript pos value index) first

def EmptyForm (P : Program) (file : Path) (e : Expr) : Prop :=
  ∃ pos value index qualname, e = .subscript pos value index ∧
    (P.lookupExpr file value).1 = .ok (.special qualname) ∧ index.indices = []

def inlineSource (file : Path) (fields : Expr) : RecordSource where
  kind := .inlineTypedDict
  file := file
  fields := .ofDict fields

end Program

/-- Conditions on what questions about hints come to. -/
structure Realm (P : Program) where
  state : CheckState → Prop
  /-- The expressions that are read in a file. -/
  reads : Path → Expr → Prop
  /-- The records under their names. -/
  record : Symbol → RecordSource → Prop
  target : AliasRef → Prop
  fault : Fault → Prop

namespace Realm

variable {P : Program}

def Shown (W : Realm P) (file : Path) (hint : Expr) : Prop :=
  ∀ part, Relation.ReflTransGen (P.Shows file) hint part → W.reads file part

/-- No look-up leads out of the realm. -/
structure Searched (W : Realm P) : Prop where
  opening : ∀ {file e c}, W.reads file e → W.state c → W.state (c.openAll (P.lookupExpr file e).2)
  unresolved : ∀ {file e cause}, W.reads file e → (P.lookupExpr file e).1 = .error cause →
    W.fault (.unprintable cause)

/-- No question leads out of the realm. -/
structure Closed (W : Realm P) : Prop extends W.Searched where
  recordOf : ∀ {file e home definition}, W.reads file e →
    (P.lookupExpr file e).1 = .ok (.classDef home definition) →
    Careful W.state W.fault (P.recordOf home definition) fun record =>
      ∀ source, record = some source →
        W.record (.declaredAt definition.name home definition.pos) source
  call : ∀ {file e key call}, W.reads file e →
    (P.lookupExpr file e).1 = .ok (.recordCall key call) →
    W.record (.declaredAt key.name key.file call.pos) (Program.recordOfCall key call)
  aliased : ∀ {file e key value}, W.reads file e →
    (P.lookupExpr file e).1 = .ok (.alias key value) → W.target ⟨key, value⟩
  inline : ∀ {file pos value index place items rest}, W.Shown file (.subscript pos value index) →
    (P.lookupExpr file value).1 = .ok (.special "typing.TypedDict") →
    index.indices = .dict place items :: rest →
    W.record (.declaredAt Symbol.anonymousName file place)
      (Program.inlineSource file (.dict place items))
  mentions : ∀ {symbol source}, W.record symbol source →
    ∀ e, source.fields.Mentions P source.file e → W.reads source.file e
  values : ∀ {target}, W.target target → ∀ e,
    (Bound.alias target.value).Mentions P target.key.file e → W.reads target.key.file e
  unwritten : ∀ {file e cause}, W.reads file e → e.source? = .error cause →
    W.fault (.unprintable cause)
  undisplayed : ∀ {symbol source cause}, W.record symbol source → symbol.isAnonymous →
    Handle.Source.inlineText? source = .error cause → W.fault (.unprintable cause)
  surrogate : ∀ {file pos text marked}, W.reads file (.literal pos (.text text marked)) →
    text.chars? = none → W.fault .surrogateInHint
  null : ∀ {file pos text marked chars}, W.reads file (.literal pos (.text text marked)) →
    text.chars? = some chars → '\x00' ∈ Text.strip chars → W.fault .nullInHint
  empty : ∀ {symbol source hint part}, W.record symbol source → source.kind.isTypedDict →
    source.fields.Declares hint → Relation.ReflTransGen (P.Peels source.file) hint part →
    P.EmptyForm source.file part → W.fault .noArgument

namespace Shown

variable {W : Realm P} {file : Path} {hint part : Expr}

theorem reads (shown : W.Shown file hint) : W.reads file hint := shown hint .refl

theorem of_shows (shown : W.Shown file hint) (shows : P.Shows file hint part) :
    W.Shown file part :=
  fun other reached => shown other (.head shows reached)

theorem base (shown : W.Shown file hint) : W.Shown file hint.base := by
  cases hint with
  | subscript => exact shown.of_shows .base
  | _ => exact shown

end Shown

end Realm

namespace Handle

/-- The records and the aliases in the handle are those of the realm. -/
inductive In {P : Program} (W : Realm P) : Handle → Prop
  | intrinsic (kind : Intrinsic) : In W (.intrinsic kind)
  | void (text : String) : In W (.void text)
  | union {members : List Handle} (parts : ∀ h ∈ members, In W h) : In W (.union members)
  | list {name : String} {element : Handle} (inner : In W element) : In W (.list name element)
  | awaitable {name : String} {arguments : List Handle} (parts : ∀ h ∈ arguments, In W h) :
      In W (.awaitable name arguments)
  | classObject {symbol : Symbol} {arguments : List Handle} (parts : ∀ h ∈ arguments, In W h) :
      In W (.classObject symbol arguments)
  | record {symbol : Symbol} {source : RecordSource} {arguments : List Handle}
      {aliasName : Option String} (own : W.record symbol source) (parts : ∀ h ∈ arguments, In W h) :
      In W (.record symbol source arguments aliasName)
  | typeParameter (name : String) : In W (.typeParameter name)
  | unsupported (text : String) (symbol : Option Symbol) : In W (.unsupported text symbol)
  | deferred {target : AliasRef} {arguments : List Handle} (own : W.target target)
      (parts : ∀ h ∈ arguments, In W h) : In W (.deferred target arguments)

namespace In

variable {P : Program} {W : Realm P} {h : Handle} {members : List Handle}

theorem of_mem_alternatives {part : Handle} (held : h.In W) (member : part ∈ h.alternatives) :
    part.In W := by
  cases held with
  | union parts => exact parts part member
  | _ =>
    cases List.mem_singleton.mp member
    constructor <;> assumption

theorem unionOf (held : ∀ h ∈ members, h.In W) : (Handle.unionOf members).In W :=
  unionOf_of_alternatives (fun h member _ part => (held h member).of_mem_alternatives part)
    (fun _ each => each) fun _ each => .union each

theorem optional {other : Handle} (first : h.In W) (second : other.In W) :
    (Handle.unionOf [h, other]).In W :=
  .unionOf (List.forall_mem_cons.mpr ⟨first, List.forall_mem_singleton.mpr second⟩)

theorem parts (held : h.In W) : ∀ part ∈ h.members?.getD [] ++ h.arguments, part.In W := by
  cases held with
  | union parts => simpa [Handle.members?, Handle.arguments] using parts
  | list inner => simpa [Handle.members?, Handle.arguments] using inner
  | awaitable parts | classObject parts | record _ parts | deferred _ parts =>
    simpa [Handle.members?, Handle.arguments] using parts
  | _ => exact List.forall_mem_nil _

end In

end Handle

theorem Program.of_mem_parametersToCheck {definition : FunctionDef Statement} {p : Parameter}
    (member : p ∈ parametersToCheck definition) : p ∈ definition.parameters := by
  unfold parametersToCheck at member
  rw [List.partition_eq_filter_filter] at member
  rcases List.mem_append.mp member with plain | starred
  · exact List.mem_of_mem_filter plain
  · exact List.mem_of_mem_filter starred

theorem Handle.exists_of_displayAll? {handles : List Handle} {cause : PrintFault}
    (unwritten : displayAll? handles = .error cause) :
    ∃ h ∈ handles, h.display? = .error cause := by
  induction handles with
  | nil => cases unwritten
  | cons first rest ih =>
    rw [displayAll?] at unwritten
    rcases Except.bind_eq_error_iff.mp unwritten with here | ⟨text, _, later⟩
    · exact ⟨first, List.mem_cons_self, here⟩
    · obtain ⟨h, member, unwritten⟩ := ih (Except.bind_pure_eq_error_iff.mp later)
      exact ⟨h, List.mem_cons_of_mem _ member, unwritten⟩

theorem Literal.source?_of_quoted {value : Literal} {cause : PrintFault} (pos : Position)
    (unwritten : value.quoted = .error cause) :
    (Expr.literal pos value).source? = .error cause := by
  cases value with
  | int => exact unwritten
  | _ => cases unwritten

namespace Realm

abbrev Asks {P : Program} (W : Realm P) {α : Type} (question : CheckM α) (Q : α → Prop) : Prop :=
  Careful W.state W.fault question Q

theorem asks_lift {P : Program} {W : Realm P} {α : Type} {written : Except PrintFault α}
    (unwritten : ∀ cause, written = .error cause → W.fault (.unprintable cause)) :
    W.Asks (PrintFault.lift written) fun a => written = .ok a := by
  cases written with
  | ok => exact .pure rfl
  | error cause => exact .throw (unwritten cause rfl)

namespace Searched

variable {P : Program} {W : Realm P} {file : Path} {expr : Expr}

theorem find (searched : W.Searched) (read : W.reads file expr) :
    W.Asks (P.find file expr) fun found => (P.lookupExpr file expr).1 = .ok found := by
  unfold Program.find
  apply (Careful.modify fun c => searched.opening read).bind
  exact fun _ _ => asks_lift fun _ => searched.unresolved read

theorem typeVariables (searched : W.Searched) {known : List String}
    (named : ∀ name ∈ expr.namesByLevel, ∀ place, W.reads file (.name place name)) :
    W.Asks (P.typeVariables file expr known) fun found =>
      found = P.variablesOf file expr known := by
  unfold Program.typeVariables Program.findName Program.variablesOf
  apply Careful.foldlM_along _ (R := fun g b => b = g) rfl
  rintro name member known _ rfl
  unfold Program.afterName
  split
  · exact .pure rfl
  · apply Careful.bind (Q := fun found => found = (P.lookupName file name).1)
    · have opening (c : CheckState) (inside : W.state c) :
          W.state (c.openAll (P.lookupName file name).2) :=
        searched.opening (named name member default) inside
      exact (Careful.modify opening).bind fun _ _ => .pure rfl
    · rintro _ rfl
      cases (P.lookupName file name).1 <;> exact .pure rfl

end Searched

namespace Closed

variable {P : Program} {W : Realm P} {file : Path} {scope : TypeVariables}

/-! ### Texts -/

theorem source (closed : W.Closed) {e : Expr} (read : W.reads file e) :
    W.Asks e.source fun _ => True :=
  (asks_lift fun _ => closed.unwritten read).mono fun _ _ => trivial

theorem ofQuoted? (closed : W.Closed) {pos : Position} {text : CodeText} {marked : Bool}
    (read : W.reads file (.literal pos (.text text marked))) :
    W.Asks (Expr.ofQuoted? text) fun found => ∀ inner, found = some inner → text.Quotes inner := by
  unfold Expr.ofQuoted?
  split
  · rename_i surrogate
    exact .throw (closed.surrogate read surrogate)
  · rename_i chars written
    dsimp only
    split
    · rename_i null
      exact .throw (closed.null read written (List.contains_iff_mem.mp null))
    · exact .pure fun inner parsed => ⟨chars, written, parsed⟩

theorem undisplayed_of (closed : W.Closed) {h : Handle} (held : h.In W) {cause : PrintFault}
    (undisplayed : h.display? = .error cause) : W.fault (.unprintable cause) := by
  generalize bound : sizeOf h = limit
  induction limit using Nat.strongRecOn generalizing h with
  | ind limit ih =>
    subst bound
    have parts {handles : List Handle} (smaller : sizeOf handles < sizeOf h)
        (each : ∀ part ∈ handles, part.In W)
        (unwritten : Handle.displayAll? handles = .error cause) : W.fault (.unprintable cause) := by
      obtain ⟨part, member, unwritten⟩ := Handle.exists_of_displayAll? unwritten
      have below := Nat.lt_trans (List.sizeOf_lt_of_mem member) smaller
      exact ih (sizeOf part) below (each part member) unwritten rfl
    cases held with
    | intrinsic | void | typeParameter | unsupported =>
      rw [Handle.display?] at undisplayed
      cases undisplayed
    | union each =>
      rw [Handle.display?, Except.bind_pure_eq_error_iff] at undisplayed
      exact parts (by simp +arith) each undisplayed
    | list inner =>
      rw [Handle.display?, Except.bind_pure_eq_error_iff] at undisplayed
      exact ih _ (by simp +arith) inner undisplayed rfl
    | awaitable each | classObject each | deferred _ each =>
      rw [Handle.display?, Except.bind_pure_eq_error_iff] at undisplayed
      exact parts (by simp +arith) each undisplayed
    | @record symbol source arguments aliasName own each =>
      rw [Handle.display?] at undisplayed
      split at undisplayed
      · cases undisplayed
      · split at undisplayed
        · rename_i anonymous
          rw [Except.bind_pure_eq_error_iff] at undisplayed
          exact closed.undisplayed own anonymous undisplayed
        · rw [Except.bind_pure_eq_error_iff] at undisplayed
          exact parts (by simp +arith) each undisplayed

theorem display (closed : W.Closed) {h : Handle} (held : h.In W) :
    W.Asks h.display fun _ => True :=
  (asks_lift fun _ => closed.undisplayed_of held).mono fun _ _ => trivial

/-! ### Handles -/

theorem unsupported (closed : W.Closed) {expr : Expr} (read : W.reads file expr) :
    W.Asks (do return .unsupported (← expr.source) none) (Handle.In W) :=
  (closed.source read).bind fun text _ => .pure (.unsupported text none)

theorem resolveAll {arguments : List HintArgument}
    (each : ∀ argument ∈ arguments, W.Asks argument.resolve (Handle.In W)) :
    W.Asks (HintArgument.resolveAll arguments) fun handles => ∀ h ∈ handles, h.In W :=
  .mapM each

theorem handleOfSpecial (closed : W.Closed) {qualname : String} {arguments : List HintArgument}
    {expr : Expr} (read : W.reads file expr)
    (inline : qualname = "typing.TypedDict" → ∀ x rest pos items, arguments = x :: rest →
      x.expr = .dict pos items → W.record (.declaredAt Symbol.anonymousName file pos)
        (Program.inlineSource file (.dict pos items)))
    (each : ∀ argument ∈ arguments, W.Asks argument.resolve (Handle.In W)) :
    W.Asks (Program.handleOfSpecial file qualname arguments expr) (Handle.In W) := by
  have all := resolveAll each
  have unsupported := closed.unsupported read
  unfold Program.handleOfSpecial
  dsimp only
  split
  · exact .pure (.intrinsic _)
  split
  · split
    · apply (each _ List.mem_cons_self).bind
      intro element held
      exact .pure (.list held)
    · exact .pure (.list (.intrinsic _))
  split
  · exact all.bind fun handles held => .pure (.awaitable held)
  split
  · exact .pure (.void _)
  split
  · exact .pure (.intrinsic _)
  · split
    · rename_i last isLast
      apply (each last (List.mem_of_getLast? isLast)).bind
      intro result held
      exact .pure (.awaitable (List.forall_mem_singleton.mpr held))
    · exact .pure (.awaitable (List.forall_mem_nil _))
  · apply (each _ List.mem_cons_self).bind
    intro handle held
    exact .pure (held.optional (.intrinsic _))
  · exact all.bind fun handles held => .pure (.unionOf held)
  · exact .pure (.record (inline rfl _ _ _ _ rfl rfl) (List.forall_mem_nil _))
  · split
    · exact each _ List.mem_cons_self
    · exact unsupported
  · exact unsupported

theorem handleOfSpecial_shown (closed : W.Closed) {qualname : String}
    {arguments : List HintArgument} {expr : Expr} (read : W.reads file expr)
    (inline : qualname = "typing.TypedDict" → ∀ x rest pos items, arguments = x :: rest →
      x.expr = .dict pos items → W.record (.declaredAt Symbol.anonymousName file pos)
        (Program.inlineSource file (.dict pos items)))
    (each : ∀ argument ∈ Program.shown (.special qualname) arguments,
      W.Asks argument.resolve (Handle.In W)) :
    W.Asks (Program.handleOfSpecial file qualname arguments expr) (Handle.In W) := by
  have unsupported := closed.unsupported read
  by_cases literal : qualname = "typing.Literal"
  · subst literal
    cases arguments <;> exact unsupported
  · by_cases annotated : qualname = "typing.Annotated"
    · subst annotated
      cases arguments with
      | nil => exact unsupported
      | cons first rest => exact each first List.mem_cons_self
    · refine closed.handleOfSpecial read inline fun argument member => each argument ?_
      unfold Program.shown
      split
      · rename_i same
        exact absurd (Binding.special.inj same) literal
      · rename_i same
        exact absurd (Binding.special.inj same) annotated
      · exact member

theorem expandAlias (closed : W.Closed) {resolveValue : TypeVariables → CheckM Handle}
    {target : AliasRef} {arguments : List Handle} (own : W.target target)
    (value : ∀ scope : TypeVariables, (∀ v ∈ scope, v.2.In W) →
      W.Asks (resolveValue scope) (Handle.In W))
    (held : ∀ h ∈ arguments, h.In W) :
    W.Asks (P.expandAlias resolveValue target arguments) (Handle.In W) := by
  unfold Program.expandAlias
  apply (closed.typeVariables fun name named place => closed.values own _ (.free named)).bind
  intro free _
  apply (value (free.zip arguments) fun v member => held v.2 (List.of_mem_zip member).2).bind
  intro handle expanded
  split
  · split
    · apply (Careful.mapM fun h member => closed.display (held h member)).bind
      intro texts _
      cases expanded with
      | record own parts => exact .pure (.record own parts)
    · exact .pure expanded
  · exact .pure expanded

theorem in_of_lookup {name : String} {handle : Handle} (known : ∀ v ∈ scope, v.2.In W)
    (found : scope.lookup name = some handle) : handle.In W := by
  obtain ⟨before, after, whole, _⟩ := List.lookup_eq_some_iff.mp found
  exact known (name, handle) (by simp [whole])

theorem variableName (closed : W.Closed) {expr : Expr} (read : W.reads file expr) :
    W.Asks (Program.variableName expr) fun _ => True := by
  unfold Program.variableName
  split
  · exact .pure trivial
  · exact closed.source read

theorem handleOfBinding (closed : W.Closed)
    {expand : AliasRef → List Handle → CheckM Handle} {found : Binding} {target expr : Expr}
    {arguments : List HintArgument} (looked : (P.lookupExpr file target).1 = .ok found)
    (entered : W.reads file target) (read : W.reads file expr)
    (expanded : ∀ target handles, W.target target → (∀ h ∈ handles, h.In W) →
      W.Asks (expand target handles) (Handle.In W))
    (known : ∀ v ∈ scope, v.2.In W)
    (inline : found = .special "typing.TypedDict" → ∀ x rest pos items, arguments = x :: rest →
      x.expr = .dict pos items → W.record (.declaredAt Symbol.anonymousName file pos)
        (Program.inlineSource file (.dict pos items)))
    (each : ∀ argument ∈ Program.shown found arguments, W.Asks argument.resolve (Handle.In W)) :
    W.Asks (P.handleOfBinding expand file scope found arguments expr) (Handle.In W) := by
  have unsupported := closed.unsupported read
  cases found with
  | special qualname =>
    exact closed.handleOfSpecial_shown read (fun same => inline (congrArg Binding.special same)) each
  | classDef other definition =>
    have all := resolveAll each
    apply (closed.recordOf entered looked).bind
    intro record formed
    cases record with
    | some source => exact all.bind fun handles parts => .pure (.record (formed source rfl) parts)
    | none => exact all.bind fun handles parts => .pure (.classObject parts)
  | recordCall key call =>
    exact .pure (.record (closed.call entered looked) (List.forall_mem_nil _))
  | «alias» key value =>
    have all := resolveAll each
    exact all.bind fun handles parts => expanded _ _ (closed.aliased entered looked) parts
  | typeVariable name =>
    apply Careful.pure
    cases found : scope.lookup name with
    | none => exact .typeParameter name
    | some handle => exact in_of_lookup known found
  | unresolved message =>
    apply (closed.variableName read).bind
    intro name _
    split
    · exact .pure (in_of_lookup known ‹_›)
    · exact unsupported
  | module | value => exact unsupported

theorem resolveExpr (closed : W.Closed)
    {expand : AliasRef → List Handle → CheckM Handle} {quoted : CodeText → CheckM Handle}
    (expanded : ∀ target handles, W.target target → (∀ h ∈ handles, h.In W) →
      W.Asks (expand target handles) (Handle.In W))
    (read : ∀ pos text marked, W.Shown file (.literal pos (.text text marked)) →
      W.Asks (quoted text) (Handle.In W))
    (known : ∀ v ∈ scope, v.2.In W) {expr : Expr} (shown : W.Shown file expr) :
    W.Asks (P.resolveExpr expand quoted file scope expr) (Handle.In W) := by
  generalize bound : sizeOf expr = limit
  induction limit using Nat.strongRecOn generalizing expr with
  | ind limit ih =>
    subst bound
    cases expr with
    | literal pos value =>
      rw [Program.resolveExpr.eq_def]
      cases value with
      | none => exact .pure (.intrinsic _)
      | text text marked => exact read pos text marked shown
      | _ =>
        refine (asks_lift fun cause unwritten => ?_).bind fun text _ => .pure (.unsupported text _)
        exact closed.unwritten shown.reads (Literal.source?_of_quoted pos unwritten)
    | binary pos op left right =>
      cases op with
      | bitOr =>
        rw [Program.resolveExpr]
        apply (ih (sizeOf left) (by simp +arith) (shown.of_shows .left) rfl).bind
        intro first held
        apply (ih (sizeOf right) (by simp +arith) (shown.of_shows .right) rfl).bind
        intro second alsoHeld
        exact .pure (held.optional alsoHeld)
      | _ =>
        rw [Program.resolveExpr.eq_def]
        exact closed.unsupported shown.reads
    | name pos id =>
      rw [Program.resolveExpr]
      split
      · rename_i handle found
        exact .pure (in_of_lookup known found)
      · apply (closed.find shown.reads).bind
        intro found looked
        refine closed.handleOfBinding looked shown.reads shown.reads expanded known ?_ ?_
        · rintro _ x rest pos items ⟨⟩
        · intro argument member
          exact absurd (Program.shown_subset _ _ member) List.not_mem_nil
    | member pos value attr =>
      rw [Program.resolveExpr]
      apply (closed.find shown.reads).bind
      intro found looked
      refine closed.handleOfBinding looked shown.reads shown.reads expanded known ?_ ?_
      · rintro _ x rest pos items ⟨⟩
      · intro argument member
        exact absurd (Program.shown_subset _ _ member) List.not_mem_nil
    | subscript pos value index =>
      rw [Program.resolveExpr_subscript]
      apply (closed.find (shown.of_shows .base).reads).bind
      intro found looked
      refine closed.handleOfBinding looked (shown.of_shows .base).reads shown.reads expanded known
        ?_ ?_
      · rintro rfl x rest place items same dict
        obtain ⟨first, others, indices, rfl, _⟩ := List.map_eq_cons_iff.mp same
        cases dict
        exact closed.inline shown looked indices
      · rw [Program.shown_map]
        refine List.forall_mem_map.mpr fun argument member => ?_
        have part_le := Expr.sizeOf_le_of_mem_indices (Program.shown_subset _ _ member)
        have smaller := Expr.subscript.sizeOf_spec pos value index
        exact ih (sizeOf argument) (by omega) (shown.of_shows (.argument looked member)) rfl
    | _ =>
      rw [Program.resolveExpr.eq_def]
      exact closed.unsupported shown.reads

theorem resolveQuoting (closed : W.Closed) {expand : AliasRef → List Handle → CheckM Handle}
    (limit : Nat)
    (expanded : ∀ target handles, W.target target → (∀ h ∈ handles, h.In W) →
      W.Asks (expand target handles) (Handle.In W))
    (known : ∀ v ∈ scope, v.2.In W) {expr : Expr} (shown : W.Shown file expr) :
    W.Asks (P.resolveQuoting expand limit file scope expr) (Handle.In W) := by
  induction limit using Nat.strongRecOn generalizing expr with
  | ind limit ih =>
    rw [Program.resolveQuoting]
    refine closed.resolveExpr expanded (fun pos text marked inside => ?_) known shown
    split
    · rename_i shorter
      apply (closed.ofQuoted? inside.reads).bind
      intro found quotes
      split
      · exact ih _ shorter (inside.of_shows (.text (quotes _ rfl)))
      · exact .pure (.unsupported _ _)
    · exact .pure (.unsupported _ _)

theorem resolveAmong (closed : W.Closed) (pending : List NameKey)
    (known : ∀ v ∈ scope, v.2.In W) {expr : Expr} (shown : W.Shown file expr) :
    W.Asks (P.resolveAmong pending file scope expr) (Handle.In W) := by
  generalize bound : pending.length = limit
  induction limit using Nat.strongRecOn generalizing pending file scope expr with
  | ind limit ih =>
    subst bound
    rw [Program.resolveAmong]
    refine closed.resolveQuoting _ (fun target handles own held => ?_) known shown
    split
    · rename_i present
      refine closed.expandAlias own (fun scope known => ?_) held
      exact ih _ (Pending.length_without_lt present) _ known
        (fun part shown => closed.values own part (.value shown)) rfl
    · exact .pure (.deferred own held)

theorem resolve (closed : W.Closed) (known : ∀ v ∈ scope, v.2.In W) {hint : Option Expr}
    (shown : ∀ expr, hint = some expr → W.Shown file expr) :
    W.Asks (P.resolve file scope hint) (Handle.In W) := by
  unfold Program.resolve
  split
  · exact closed.resolveAmong _ known (shown _ rfl)
  · exact .pure (.intrinsic _)

theorem apparent (closed : W.Closed) {handle : Handle} (held : handle.In W) :
    W.Asks (P.apparent handle) (Handle.In W) := by
  unfold Program.apparent
  split
  · cases held with
    | deferred own parts =>
      refine closed.expandAlias own (fun scope known => ?_) parts
      exact closed.resolveAmong _ known fun part shown => closed.values own part (.value shown)
  · exact .pure held

/-! ### Fields -/

theorem isIgnoredForm (closed : W.Closed) {target : Expr} (read : W.reads file target) :
    W.Asks (P.isIgnoredForm file target) fun _ => True := by
  unfold Program.isIgnoredForm
  split
  · apply (closed.find read).bind
    intro found _
    split <;> exact .pure trivial
  · apply (closed.find read).bind
    intro found _
    split <;> exact .pure trivial
  · exact .pure trivial

theorem isIgnoredField (closed : W.Closed) {hint : Expr} (shown : W.Shown file hint) :
    W.Asks (P.isIgnoredField file hint) fun _ => True := by
  have based := shown.base
  unfold Program.isIgnoredField
  split
  · rename_i same
    rw [same] at based
    apply (closed.ofQuoted? based.reads).bind
    intro found quotes
    split
    · exact closed.isIgnoredForm (based.of_shows (.text (quotes _ rfl))).base.reads
    · exact .pure trivial
  · exact closed.isIgnoredForm based.reads

theorem requiredInside?_isSome {qualname : String} {required inside : Bool}
    (found : Program.requiredInside? qualname required = some inside) :
    (Program.requiredInside? qualname true).isSome := by
  unfold Program.requiredInside? at found ⊢
  split at found
  · rfl
  · rfl
  · rfl
  · rfl
  · cases found

theorem shows_of_qualifier {pos : Position} {value index first : Expr} {rest : List Expr}
    {qualname : String} (found : (P.lookupExpr file value).1 = .ok (.special qualname))
    (qualifies : (Program.requiredInside? qualname true).isSome)
    (parts : index.indices = first :: rest) :
    P.Shows file (.subscript pos value index) first := by
  refine .argument found ?_
  rw [parts]
  unfold Program.requiredInside? at qualifies
  split at qualifies <;> simp_all [Program.shown]

theorem peelExpr (closed : W.Closed) {quoted : Bool → CodeText → CheckM (Option (Expr × Bool))}
    (read : ∀ required pos text marked, W.Shown file (.literal pos (.text text marked)) →
      (∀ part, Relation.ReflTransGen (P.Peels file) (.literal pos (.text text marked)) part →
        P.EmptyForm file part → W.fault .noArgument) →
      W.Asks (quoted required text) fun found => ∀ peeled, found = some peeled →
        W.Shown file peeled.1)
    (required : Bool) {hint : Expr} (shown : W.Shown file hint)
    (empty : ∀ part, Relation.ReflTransGen (P.Peels file) hint part → P.EmptyForm file part →
      W.fault .noArgument) :
    W.Asks (P.peelExpr quoted file required hint) fun peeled => W.Shown file peeled.1 := by
  generalize bound : sizeOf hint = limit
  induction limit using Nat.strongRecOn generalizing hint required with
  | ind limit ih =>
    subst bound
    cases hint with
    | literal pos value =>
      rw [Program.peelExpr.eq_def]
      cases value with
      | text text marked =>
        apply (read required pos text marked shown empty).bind
        intro found inside
        split
        · exact .pure (inside _ rfl)
        · exact .pure shown
      | _ => exact .pure shown
    | subscript pos value index =>
      rw [Program.peelExpr_subscript]
      apply (closed.find (shown.of_shows .base).reads).bind
      intro found looked
      split
      · rename_i qualname
        split
        · rename_i none
          exact .throw (empty _ .refl ⟨pos, value, index, qualname, rfl, looked, none⟩)
        · rename_i first rest parts
          split
          · rename_i inside qualified
            have qualifies := requiredInside?_isSome qualified
            have part_le := @Expr.sizeOf_le_of_mem_indices index first (by simp [parts])
            have smaller := Expr.subscript.sizeOf_spec pos value index
            exact ih (sizeOf first) (by omega) inside
              (shown.of_shows (shows_of_qualifier looked qualifies parts))
              (fun part peels => empty part (.head (.qualifier looked qualifies parts) peels)) rfl
          · exact .pure shown
      · exact .pure shown
    | _ =>
      rw [Program.peelExpr.eq_def]
      exact .pure shown

theorem peel (closed : W.Closed) (limit : Nat) (required : Bool) {hint : Expr}
    (shown : W.Shown file hint)
    (empty : ∀ part, Relation.ReflTransGen (P.Peels file) hint part → P.EmptyForm file part →
      W.fault .noArgument) :
    W.Asks (P.peel file limit required hint) fun peeled => W.Shown file peeled.1 := by
  induction limit using Nat.strongRecOn generalizing required hint with
  | ind limit ih =>
    rw [Program.peel]
    refine closed.peelExpr (fun required pos text marked inside empty => ?_) required shown empty
    split
    · rename_i shorter
      apply (closed.ofQuoted? inside.reads).bind
      intro found quotes
      split
      · rename_i inner
        have held := quotes inner rfl
        apply Careful.map
        apply (ih _ shorter required (inside.of_shows (.text held))
          fun part peels => empty part (.head (.text held) peels)).mono
        rintro _ shown peeled ⟨⟩
        exact shown
      · exact .pure fun _ impossible => by cases impossible
    · exact .pure fun _ impossible => by cases impossible

theorem fieldHandle (closed : W.Closed) {symbol : Symbol} {source : RecordSource}
    (own : W.record symbol source) (known : ∀ v ∈ scope, v.2.In W) {hint : Expr}
    (shown : W.Shown source.file hint) (declared : source.fields.Declares hint) :
    W.Asks (P.fieldHandle source scope hint) (Handle.In W) := by
  unfold Program.fieldHandle
  split
  · rename_i typed
    apply (closed.peel _ _ shown fun part => closed.empty own typed declared).bind
    intro peeled inner
    apply (closed.resolve known fun expr same => by cases same; exact inner).bind
    intro handle held
    apply Careful.pure
    split
    · exact held
    · exact held.optional (.intrinsic _)
  · exact closed.resolve known fun expr same => by cases same; exact shown

theorem shown_of_declares (closed : W.Closed) {symbol : Symbol} {source : RecordSource}
    (own : W.record symbol source) {hint : Expr} (declared : source.fields.Declares hint) :
    W.Shown source.file hint := by
  intro part shown
  apply closed.mentions own
  generalize source.fields = fields at declared
  cases declared with
  | declare member => exact .field member shown
  | item member => exact .item member shown

theorem dictFields (closed : W.Closed) {symbol : Symbol} {source : RecordSource}
    (own : W.record symbol source) (known : ∀ v ∈ scope, v.2.In W) {pos : Position}
    {items : List DictItem} (fields : source.fields = .ofDict (.dict pos items)) :
    W.Asks (P.dictFields source scope items) fun members => ∀ m ∈ members, m.2.In W := by
  unfold Program.dictFields
  apply Careful.foldlM (List.forall_mem_nil _)
  intro item member members held
  split
  · rename_i hint
    have declared : source.fields.Declares hint := by
      rw [fields]
      exact .item member
    apply (closed.fieldHandle own known (closed.shown_of_declares own declared) declared).bind
    intro handle alsoHeld
    exact .pure (Pairs.forall_mem_put held alsoHeld)
  · exact .pure held

theorem ownFields (closed : W.Closed) {symbol : Symbol} {source : RecordSource}
    (own : W.record symbol source) (known : ∀ v ∈ scope, v.2.In W) {inherited : Properties}
    (held : ∀ m ∈ inherited, m.2.In W) {definition : ClassDef Statement}
    (fields : source.fields = .ofClass definition) :
    W.Asks (P.ownFields source scope inherited definition.body) fun members =>
      ∀ m ∈ members, m.2.In W := by
  unfold Program.ownFields
  apply Careful.foldlM held
  intro statement member members held
  split
  · rename_i hint _ _
    have declared : source.fields.Declares hint := by
      rw [fields]
      exact .declare member
    have shown := closed.shown_of_declares own declared
    apply (closed.isIgnoredField shown).bind
    intro ignored _
    split
    · exact .pure held
    · apply (closed.fieldHandle own known shown declared).bind
      intro handle alsoHeld
      exact .pure (Pairs.forall_mem_put held alsoHeld)
  · exact .pure held

/-! ### Properties -/

theorem baseArguments (closed : W.Closed) (known : ∀ v ∈ scope, v.2.In W) {base : Expr}
    (each : ∀ pos value index, base = .subscript pos value index → ∀ hint ∈ index.indices,
      W.Shown file hint) :
    W.Asks (P.baseArguments file scope base) fun arguments => ∀ h ∈ arguments, h.In W := by
  unfold Program.baseArguments
  split
  · refine .mapM fun hint member => closed.resolve known ?_
    rintro _ ⟨⟩
    exact each _ _ _ rfl hint member
  · exact .pure (List.forall_mem_nil _)

theorem afterParent (closed : W.Closed)
    {recur : List ClassKey → RecordSource → List Handle → CheckM (Properties × List ClassKey)}
    (visited : ∀ seen symbol source arguments, W.record symbol source →
      (∀ h ∈ arguments, h.In W) →
      W.Asks (recur seen source arguments) fun result => ∀ m ∈ result.1, m.2.In W)
    (known : ∀ v ∈ scope, v.2.In W) {state : Properties × List ClassKey}
    (held : ∀ m ∈ state.1, m.2.In W) {base : Expr} (read : W.reads file base.base)
    (each : ∀ pos value index, base = .subscript pos value index → ∀ hint ∈ index.indices,
      W.Shown file hint) :
    W.Asks (P.afterParent recur file scope state base) fun result => ∀ m ∈ result.1, m.2.In W := by
  unfold Program.afterParent
  dsimp only
  apply (closed.find read).bind
  intro found looked
  split
  · apply (closed.recordOf read looked).bind
    intro record formed
    split
    · exact .pure held
    · split
      · exact .pure held
      · apply (closed.baseArguments known each).bind
        intro arguments parts
        apply (visited _ _ _ _ (formed _ rfl) parts).bind
        intro result others
        exact .pure (Pairs.forall_mem_putAll held others)
  · exact .pure held

theorem propertiesAmong (closed : W.Closed) (pending seen : List ClassKey) {symbol : Symbol}
    {source : RecordSource} (own : W.record symbol source) {arguments : List Handle}
    (parts : ∀ h ∈ arguments, h.In W) :
    W.Asks (P.propertiesAmong pending seen source arguments) fun result =>
      ∀ m ∈ result.1, m.2.In W := by
  generalize bound : pending.length = limit
  induction limit using Nat.strongRecOn generalizing pending seen symbol source arguments with
  | ind limit ih =>
    subst bound
    have known : ∀ v ∈ source.typeParameters.zip arguments, v.2.In W :=
      fun v member => parts v.2 (List.of_mem_zip member).2
    have mentions := closed.mentions own
    rw [Program.propertiesAmong]
    dsimp only
    split
    · rename_i fields
      exact (closed.dictFields own known fields).bind fun members held => .pure held
    · exact .pure (List.forall_mem_nil _)
    · rename_i definition fields
      rw [fields] at mentions
      split
      · rename_i present
        apply Careful.bind
        · apply Careful.foldlM (R := fun state => ∀ m ∈ state.1, m.2.In W)
            (List.forall_mem_nil _)
          intro base member state held
          refine closed.afterParent (fun seen symbol source arguments own parts => ?_) known held
            (mentions _ (.base member)) ?_
          · exact ih _ (Pending.length_without_lt present) _ _ own parts rfl
          · rintro _ _ _ rfl hint inside part shown
            exact mentions part (.argument member inside shown)
        · intro state held
          exact (closed.ownFields own known held fields).bind fun members held => .pure held
      · exact .pure (List.forall_mem_nil _)

theorem propertiesOf (closed : W.Closed) {symbol : Symbol} {source : RecordSource}
    (own : W.record symbol source) {arguments : List Handle} (parts : ∀ h ∈ arguments, h.In W) :
    W.Asks (P.propertiesOf source arguments) fun members => ∀ m ∈ members, m.2.In W := by
  unfold Program.propertiesOf
  exact (closed.propertiesAmong _ _ own parts).bind fun result held => .pure held

/-! ### Signatures -/

theorem resultHandle (closed : W.Closed) {hint : Option Expr}
    (shown : ∀ expr, hint = some expr → W.Shown file expr) :
    W.Asks (P.resultHandle file hint) (Handle.In W) := by
  unfold Program.resultHandle
  split
  · exact .pure (.void _)
  · split
    · exact .pure (.void _)
    · exact closed.resolve (List.forall_mem_nil _) shown
  · exact closed.resolve (List.forall_mem_nil _) shown

theorem typedParameter (closed : W.Closed) {parameter : Parameter}
    (shown : ∀ expr, parameter.hint = some expr → W.Shown file expr) :
    W.Asks (P.typedParameter file parameter) fun p => p.handle.In W := by
  unfold Program.typedParameter
  apply (closed.resolve (List.forall_mem_nil _) shown).bind
  intro handle held
  apply Careful.pure
  dsimp only
  split
  · exact held.optional (.intrinsic _)
  · exact held

theorem signature (closed : W.Closed) {f : Function}
    (shown : ∀ hint ∈ (Statement.functionDef f.definition).hints, W.Shown f.file hint) :
    W.Asks (P.signature f) fun s =>
      (∀ p ∈ s.parameters, p.handle.In W) ∧ s.result.In W := by
  unfold Program.signature
  refine (Careful.mapM fun p member => closed.typedParameter fun expr hinted =>
    shown expr (List.mem_append_left _ (List.mem_filterMap.mpr ⟨p, member, hinted⟩))).bind ?_
  intro parameters held
  refine (closed.resultHandle fun expr hinted =>
    shown expr (List.mem_append_right _ (Option.mem_toList.mpr hinted))).bind ?_
  intro result alsoHeld
  apply Careful.pure
  refine ⟨held, ?_⟩
  dsimp only
  split
  · exact .awaitable (List.forall_mem_singleton.mpr alsoHeld)
  · exact alsoHeld

/-! ### The check -/

theorem checkName (closed : W.Closed) (pos : Position) {target : Expr}
    (read : W.reads file target) : W.Asks (P.checkName file pos target) fun _ => True := by
  unfold Program.checkName
  apply (closed.find read).bind
  intro found _
  split <;> exact .pure trivial

theorem checkExpr (closed : W.Closed) {quoted : Position → CodeText → CheckM (List Diagnostic)}
    (read : ∀ place pos text marked, W.Shown file (.literal pos (.text text marked)) →
      W.Asks (quoted place text) fun _ => True)
    (place : Option Position) {hint : Expr} (shown : W.Shown file hint) :
    W.Asks (P.checkExpr quoted file place hint) fun _ => True := by
  generalize bound : sizeOf hint = limit
  induction limit using Nat.strongRecOn generalizing hint with
  | ind limit ih =>
    subst bound
    have all {items : List Expr} (smaller : ∀ item ∈ items, sizeOf item < sizeOf hint)
        (each : ∀ item ∈ items, W.Shown file item) :
        W.Asks (do return (← items.mapM (P.checkExpr quoted file place)).flatten) fun _ => True := by
      refine Careful.bind (.each fun item member => ?_) fun _ _ => .pure trivial
      exact ih (sizeOf item) (smaller item member) (each item member) rfl
    cases hint with
    | literal pos value =>
      cases value with
      | text text marked =>
        rw [Program.checkExpr.eq_def]
        exact read _ pos text marked shown
      | _ =>
        rw [Program.checkExpr.eq_def]
        exact .pure trivial
    | name pos id =>
      rw [Program.checkExpr]
      exact closed.checkName _ shown.reads
    | member pos value attr =>
      rw [Program.checkExpr]
      exact closed.checkName _ shown.reads
    | subscript pos value index =>
      rw [Program.checkExpr_subscript]
      apply (ih (sizeOf value) (by simp +arith) (shown.of_shows .base) rfl).bind
      intro outer _
      apply (closed.find (shown.of_shows .base).reads).bind
      intro form found
      refine Careful.bind (.each fun argument member => ?_) fun _ _ => .pure trivial
      have part_le := Expr.sizeOf_le_of_mem_indices (Program.shown_subset form _ member)
      exact ih (sizeOf argument) (by simp +arith; omega)
        (shown.of_shows (.argument found member)) rfl
    | binary pos op left right =>
      rw [Program.checkExpr]
      apply (ih (sizeOf left) (by simp +arith) (shown.of_shows .left) rfl).bind
      intro first _
      apply (ih (sizeOf right) (by simp +arith) (shown.of_shows .right) rfl).bind
      exact fun _ _ => .pure trivial
    | tuple pos items =>
      rw [(Program.checkExpr_items quoted place pos items).1]
      refine all (fun item member => ?_) fun item member => shown.of_shows (.tuple member)
      have smaller := List.sizeOf_lt_of_mem member
      simp +arith only [Expr.tuple.sizeOf_spec]
      omega
    | list pos items =>
      rw [(Program.checkExpr_items quoted place pos items).2]
      refine all (fun item member => ?_) fun item member => shown.of_shows (.list member)
      have smaller := List.sizeOf_lt_of_mem member
      simp +arith only [Expr.list.sizeOf_spec]
      omega
    | dict pos items =>
      rw [Program.checkExpr_dict]
      refine all (List.forall_mem_map.mpr fun item member => ?_)
        (List.forall_mem_map.mpr fun item member => shown.of_shows (.dict member))
      have smaller := List.sizeOf_lt_of_mem member
      have value := item.sizeOf_value_lt
      simp +arith only [Expr.dict.sizeOf_spec]
      omega
    | _ =>
      rw [Program.checkExpr.eq_def]
      exact .pure trivial

theorem checkHint (closed : W.Closed) (limit : Nat) (place : Option Position) {hint : Expr}
    (shown : W.Shown file hint) : W.Asks (P.checkHint file limit place hint) fun _ => True := by
  induction limit using Nat.strongRecOn generalizing place hint with
  | ind limit ih =>
    rw [Program.checkHint]
    refine closed.checkExpr (fun place pos text marked inside => ?_) place shown
    split
    · rename_i shorter
      apply (closed.ofQuoted? inside.reads).bind
      intro found quotes
      split
      · exact ih _ shorter _ (inside.of_shows (.text (quotes _ rfl)))
      · exact .pure trivial
    · exact .pure trivial

theorem checkHint? (closed : W.Closed) {hint : Option Expr}
    (shown : ∀ expr, hint = some expr → W.Shown file expr) :
    W.Asks (P.checkHint? file hint) fun _ => True := by
  unfold Program.checkHint?
  split
  · exact closed.checkHint _ _ (shown _ rfl)
  · exact .pure trivial

theorem checkStatement (closed : W.Closed) {statement : Statement}
    (shown : ∀ hint ∈ statement.hints, W.Shown file hint) :
    W.Asks (P.checkStatement file statement) fun _ => True := by
  unfold Program.checkStatement
  split
  · rename_i definition
    refine Careful.bind (.each fun p member => closed.checkHint? fun expr hinted => ?_)
      fun _ _ => ?_
    · refine shown expr (List.mem_append_left _ (List.mem_filterMap.mpr ⟨p, ?_, hinted⟩))
      exact Program.of_mem_parametersToCheck member
    · refine Careful.bind (closed.checkHint? fun expr hinted => ?_) fun _ _ => .pure trivial
      exact shown expr (List.mem_append_right _ (Option.mem_toList.mpr hinted))
  · rename_i definition
    refine Careful.bind (.each fun statement member => ?_)
      fun _ _ => .pure trivial
    split
    · rename_i target hint value bare
      refine closed.checkHint? fun expr hinted => shown expr ?_
      exact List.mem_filterMap.mpr ⟨.declare target hint value bare, member, hinted⟩
    · exact .pure trivial
  · exact .pure trivial

theorem checkFile (closed : W.Closed) (opens : ∀ c paths, W.state c → W.state (c.openAll paths))
    (shown : ∀ hint ∈ (P.source file).topHints, W.Shown file hint) :
    W.Asks (P.checkFile file) fun _ => True := by
  unfold Program.checkFile
  split
  · exact .pure trivial
  · rename_i statements body
    refine Careful.bind (.each fun item _ => ?_) fun _ _ => ?_
    · unfold Program.checkRelativeImport Program.openImported
      refine Careful.bind (Q := fun _ => True) ?_ fun found _ => ?_
      · exact (Careful.modify fun c => opens c _).bind fun _ _ => .pure trivial
      · split <;> exact .pure trivial
    · refine Careful.bind (.each fun statement member => closed.checkStatement fun hint held => ?_)
        fun _ _ => .pure trivial
      refine shown hint (List.mem_flatMap.mpr ⟨statement, ?_, held⟩)
      rwa [SourceFile.statements, body]

end Closed

end Realm

end HintSchema

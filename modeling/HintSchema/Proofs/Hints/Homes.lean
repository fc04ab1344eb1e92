import HintSchema.Proofs.Hints.Confined
import HintSchema.Proofs.Hints.Inquiry

/-!
Where records and classes come from. Whatever a question about hints comes to, each record and each
class inside it has one declaration, and it stands in a file that is loaded by then. A question only
loads further files, so what is required of a file may be required of those that are loaded in the
end.
-/

namespace HintSchema

/-- The symbol has one declaration, and that stands in the file. -/
def Symbol.DeclaredIn (symbol : Symbol) (file : Path) : Prop :=
  ∃ pos : Position, symbol.declarations = [⟨file.toString, pos.line, pos.column⟩]

theorem Symbol.declaredIn_declaredAt (name : String) (file : Path) (pos : Position) :
    (declaredAt name file pos).DeclaredIn file :=
  ⟨pos, rfl⟩

namespace Handle

/-- The records and the classes in the handle are each declared once, in a file of which `F` holds,
and so is what a record's properties are read from. -/
inductive Homed (F : Path → Prop) : Handle → Prop
  | intrinsic (kind : Intrinsic) : Homed F (.intrinsic kind)
  | void (text : String) : Homed F (.void text)
  | union {members : List Handle} (parts : ∀ h ∈ members, Homed F h) : Homed F (.union members)
  | list {name : String} {element : Handle} (inner : Homed F element) : Homed F (.list name element)
  | awaitable {name : String} {arguments : List Handle} (parts : ∀ h ∈ arguments, Homed F h) :
      Homed F (.awaitable name arguments)
  | classObject {symbol : Symbol} {file : Path} {arguments : List Handle}
      (declared : symbol.DeclaredIn file) (home : F file) (parts : ∀ h ∈ arguments, Homed F h) :
      Homed F (.classObject symbol arguments)
  | record {symbol : Symbol} {source : RecordSource} {arguments : List Handle}
      {aliasName : Option String} (declared : symbol.DeclaredIn source.file) (home : F source.file)
      (parts : ∀ h ∈ arguments, Homed F h) : Homed F (.record symbol source arguments aliasName)
  | typeParameter (name : String) : Homed F (.typeParameter name)
  | unsupported (text : String) : Homed F (.unsupported text .none)
  | deferred {target : AliasRef} {arguments : List Handle} (home : F target.key.file)
      (parts : ∀ h ∈ arguments, Homed F h) : Homed F (.deferred target arguments)

namespace Homed

variable {F G : Path → Prop} {h : Handle} {members : List Handle}

theorem mono (homed : h.Homed F) (wider : ∀ file, F file → G file) : h.Homed G := by
  induction homed with
  | intrinsic kind => exact .intrinsic kind
  | void text => exact .void text
  | union _ ih => exact .union ih
  | list _ ih => exact .list ih
  | awaitable _ ih => exact .awaitable ih
  | classObject declared home _ ih => exact .classObject declared (wider _ home) ih
  | record declared home _ ih => exact .record declared (wider _ home) ih
  | typeParameter name => exact .typeParameter name
  | unsupported text => exact .unsupported text
  | deferred home _ ih => exact .deferred (wider _ home) ih

theorem parts (homed : h.Homed F) : ∀ part ∈ h.parts, part.Homed F := by
  cases homed with
  | union parts => simpa [Handle.parts, Handle.members?, Handle.arguments] using parts
  | list inner => simpa [Handle.parts, Handle.members?, Handle.arguments] using inner
  | awaitable parts | classObject _ _ parts | record _ _ parts | deferred _ parts =>
    simpa [Handle.parts, Handle.members?, Handle.arguments] using parts
  | _ => exact List.forall_mem_nil _

theorem of_mem_alternatives {part : Handle} (homed : h.Homed F) (member : part ∈ h.alternatives) :
    part.Homed F := by
  cases homed with
  | union parts => exact parts part member
  | _ =>
    cases List.mem_singleton.mp member
    constructor <;> assumption

theorem unionOf (homed : ∀ h ∈ members, h.Homed F) : (Handle.unionOf members).Homed F :=
  unionOf_of_alternatives (fun h member _ part => (homed h member).of_mem_alternatives part)
    (fun _ each => each) fun _ each => .union each

theorem optional {other : Handle} (first : h.Homed F) (second : other.Homed F) :
    (Handle.unionOf [h, other]).Homed F :=
  .unionOf (List.forall_mem_cons.mpr ⟨first, List.forall_mem_singleton.mpr second⟩)

end Homed

end Handle

namespace Program

/-- The file is open, and the program has its source. -/
def Loaded (P : Program) (c : CheckState) (file : Path) : Prop :=
  file ∈ c.opened ∧ (P.source? file).isSome

def onward (P : Program) (opened : List Path) : Realm P where
  state c := c.Genuine P ∧ opened ⊆ c.opened
  reads _ _ := True
  record _ _ := True
  target _ := True
  fault _ := True

theorem remembers_onward (P : Program) (opened : List Path) :
    (P.onward opened).Remembers P.Binds fun x => P.ReadOff x.key where
  opening _ kept := ⟨kept.1.of_records_eq rfl, fun _ member =>
    CheckState.mem_openAll.mpr (.inl (kept.2 member))⟩
  unresolved _ _ := trivial
  mentions _ _ := trivial
  inherits _ inherits := inherits.binds
  remember kept _ read := ⟨kept.1.remember read, kept.2⟩
  known kept _ known := kept.1 _ _ known
  plain here _ := here.readOff _
  own here _ _ := here.readOff _
  inherited here _ _ _ := here.readOff _

theorem closed_onward (P : Program) (opened : List Path) : (P.onward opened).Closed where
  toSearched := (P.remembers_onward opened).toSearched
  recordOf {_ _ home definition} _ looked :=
    ((P.remembers_onward opened).recordOf (x := (home, definition))
      (grounds_lookupExpr looked)).mono fun _ _ _ _ => trivial
  call _ _ := trivial
  aliased _ _ := trivial
  inline _ _ _ := trivial
  mentions _ _ _ := trivial
  values _ _ _ := trivial
  unwritten _ _ := trivial
  undisplayed _ _ _ := trivial
  surrogate _ _ := trivial
  null _ _ _ := trivial
  empty _ _ _ _ _ := trivial

theorem shown_onward (P : Program) (opened : List Path) (file : Path) (hint : Expr) :
    (P.onward opened).Shown file hint :=
  fun _ _ => trivial

end Program

/-- No file has been closed since, and what is remembered of classes is genuine. -/
structure CheckState.Leads (P : Program) (c d : CheckState) : Prop where
  opened : c.opened ⊆ d.opened
  genuine : d.Genuine P

namespace CheckState.Leads

variable {P : Program} {c d e : CheckState}

theorem refl (genuine : c.Genuine P) : c.Leads P c := ⟨List.Subset.refl _, genuine⟩

theorem trans (first : c.Leads P d) (second : d.Leads P e) : c.Leads P e :=
  ⟨List.Subset.trans first.opened second.opened, second.genuine⟩

theorem loaded (leads : c.Leads P d) {file : Path} (loaded : P.Loaded c file) : P.Loaded d file :=
  ⟨leads.opened loaded.1, loaded.2⟩

theorem homed (leads : c.Leads P d) {h : Handle} (homed : h.Homed (P.Loaded c)) :
    h.Homed (P.Loaded d) :=
  homed.mono fun _ => leads.loaded

theorem homed_all (leads : c.Leads P d) {α : Type} {f : α → Handle} {items : List α}
    (homed : ∀ a ∈ items, (f a).Homed (P.Loaded c)) : ∀ a ∈ items, (f a).Homed (P.Loaded d) :=
  fun a member => leads.homed (homed a member)

end CheckState.Leads

abbrev Program.Homes (P : Program) (c : CheckState) (h : Handle) : Prop := h.Homed (P.Loaded c)

/-- Asked in a state or in a later one, the question only opens further files, and its answer
satisfies `Q` in the state that it leaves. -/
def Loading {α : Type} (P : Program) (c : CheckState) (question : CheckM α)
    (Q : CheckState → α → Prop) : Prop :=
  ∀ d a e, c.Leads P d → Returns question d a e → d.Leads P e ∧ Q e a

namespace Loading

variable {P : Program} {c d : CheckState} {α β : Type} {Q : CheckState → α → Prop}
  {R : CheckState → β → Prop}

theorem pure {a : α} (right : ∀ d, c.Leads P d → Q d a) : Loading P c (pure a) Q := by
  intro d b e leads answered
  obtain ⟨rfl, rfl⟩ := (returns_pure_iff _ _).mp answered
  exact ⟨.refl leads.genuine, right _ leads⟩

theorem throw {fault : Fault} : Loading P c (throw fault : CheckM α) Q := by
  intro d a e leads answered
  cases (returns_throw_iff _ _).mp answered

theorem bind {question : CheckM α} {next : α → CheckM β} (first : Loading P c question Q)
    (second : ∀ d a, c.Leads P d → Q d a → Loading P d (next a) R) :
    Loading P c (question >>= next) R := by
  intro d b e leads answered
  obtain ⟨a, m, asked, later⟩ := (returns_bind_iff _ _ _).mp answered
  obtain ⟨begun, right⟩ := first d a m leads asked
  obtain ⟨ended, result⟩ := second m a (leads.trans begun) right m b e (.refl begun.genuine) later
  exact ⟨begun.trans ended, result⟩

theorem later {question : CheckM α} (loading : Loading P c question Q) (leads : c.Leads P d) :
    Loading P d question Q :=
  fun _ _ _ further => loading _ _ _ (leads.trans further)

theorem mono {S : CheckState → α → Prop} {question : CheckM α} (loading : Loading P c question Q)
    (weaker : ∀ d a, c.Leads P d → Q d a → S d a) : Loading P c question S := by
  intro d a e leads answered
  obtain ⟨further, right⟩ := loading d a e leads answered
  exact ⟨further, weaker e a (leads.trans further) right⟩

theorem mapM {f : α → CheckM β} {items : List α}
    (each : ∀ item ∈ items, Loading P c (f item) R)
    (kept : ∀ {d e b}, d.Leads P e → R d b → R e b) :
    Loading P c (items.mapM f) fun d results => ∀ b ∈ results, R d b := by
  induction items generalizing c with
  | nil => exact .pure fun _ _ => List.forall_mem_nil _
  | cons item rest ih =>
    obtain ⟨first, others⟩ := List.forall_mem_cons.mp each
    rw [List.mapM_cons]
    refine first.bind fun d b leads right => ?_
    refine (ih fun item member => (others item member).later leads).bind
      fun e results further all => ?_
    exact .pure fun _ last => List.forall_mem_cons.mpr
      ⟨kept (further.trans last) right, fun b member => kept last (all b member)⟩

theorem of_leads {question : CheckM α}
    (loading : ∀ d, c.Leads P d → Loading P d question Q) : Loading P c question Q :=
  fun d a e leads => loading d leads d a e (.refl leads.genuine)

theorem foldlM {f : β → α → CheckM β} {items : List α} {b : β} (start : R c b)
    (each : ∀ item ∈ items, ∀ d b, c.Leads P d → R d b → Loading P d (f b item) R)
    (kept : ∀ {d e b}, d.Leads P e → R d b → R e b) :
    Loading P c (items.foldlM f b) R := by
  induction items generalizing b c with
  | nil => exact .pure fun _ leads => kept leads start
  | cons item rest ih =>
    rw [List.foldlM_cons]
    refine .of_leads fun d leads => ?_
    refine (each item List.mem_cons_self d b leads (kept leads start)).bind
      fun e b further next => ih next fun item member u b last => ?_
    exact each item (List.mem_cons_of_mem _ member) u b (leads.trans (further.trans last))

/-- A question of which no more is said than what holds of its answer in all states. -/
theorem of_asks {question : CheckM α} {S : α → Prop}
    (asks : ∀ opened, (P.onward opened).Asks question S) : Loading P c question fun _ => S := by
  intro d a e leads answered
  obtain ⟨right, genuine, opened⟩ :=
    (asks d.opened).of_returns answered ⟨leads.genuine, List.Subset.refl _⟩
  exact ⟨⟨opened, genuine⟩, right⟩

end Loading

/-- The file of the class, the alias or the call that the binding stands for is loaded. -/
def Binding.LoadedIn (P : Program) (c : CheckState) : Binding → Prop
  | .classDef file _ => P.Loaded c file
  | .alias key _ | .recordCall key _ => P.Loaded c key.file
  | _ => True

namespace Program

variable {P : Program} {c d : CheckState} {file : Path} {scope : TypeVariables} {expr : Expr}

/-! ### Look-ups -/

theorem isSome_of_names {name : String} {bound : Bound}
    (member : (name, bound) ∈ (P.source file).scope.names) : (P.source? file).isSome := by
  unfold source at member
  cases found : P.source? file with
  | none =>
    rw [found] at member
    cases member
  | some => rfl

theorem loadedIn_of_grounds {found : Binding} (grounds : P.Grounds found)
    (held : found.HomeIn c.opened) : found.LoadedIn P c := by
  cases found with
  | classDef => exact ⟨held _ rfl, isSome_of_names grounds.choose_spec⟩
  | «alias» => exact ⟨held _ rfl, isSome_of_names (mem_names_of_findSome? grounds)⟩
  | recordCall => exact ⟨held _ rfl, isSome_of_names grounds⟩
  | _ => trivial

theorem loading_find (home : P.Loaded c file) (expr : Expr) :
    Loading P c (P.find file expr) fun d found =>
      (P.lookupExpr file expr).1 = .ok found ∧ found.LoadedIn P d := by
  intro d found e leads answered
  obtain ⟨further, looked⟩ := Loading.of_asks (fun opened => (P.closed_onward opened).find trivial)
    d found e leads answered
  refine ⟨further, looked, loadedIn_of_grounds (grounds_lookupExpr looked) ?_⟩
  have opened : ∀ path ∈ (P.lookupExpr file expr).2, path ∈ e.opened := by
    unfold find at answered
    obtain ⟨_, _, extended, rest⟩ := (returns_bind_iff ..).mp answered
    obtain rfl := (returns_modify_iff _ _).mp extended
    rw [looked, PrintFault.lift_ok] at rest
    obtain ⟨_, rfl⟩ := (returns_pure_iff _ _).mp rest
    exact fun path member => CheckState.mem_openAll.mpr (.inr member)
  intro path same
  rcases List.mem_cons.mp ((P.traced_lookupExpr file expr).home found looked path same) with
    rfl | member
  · exact further.opened (leads.opened home.1)
  · exact opened path member

theorem loading_recordOf {home : Path} {definition : ClassDef Statement}
    (bound : P.Binds (home, definition)) :
    Loading P c (P.recordOf home definition) fun _ record =>
      ∀ source, record = some source → source.file = home :=
  .of_asks fun opened => ((P.remembers_onward opened).recordOf bound).mono
    fun _ read source same => by
      obtain ⟨_, _, _, _, placed, _⟩ := read source same
      exact placed

theorem loading_typeVariables (file : Path) (expr : Expr) (known : List String) :
    Loading P c (P.typeVariables file expr known) fun _ _ => True :=
  .of_asks fun opened => ((P.closed_onward opened).typeVariables fun _ _ _ => trivial).mono
    fun _ _ => trivial

theorem loading_lift {α : Type} (written : Except PrintFault α) :
    Loading P c (PrintFault.lift written) fun _ _ => True := by
  cases written with
  | ok => exact .pure fun _ _ => trivial
  | error => exact .throw

theorem loading_display (h : Handle) : Loading P c h.display fun _ _ => True := loading_lift _

theorem loading_source (e : Expr) : Loading P c e.source fun _ _ => True := loading_lift _

theorem loading_ofQuoted? (text : CodeText) :
    Loading P c (Expr.ofQuoted? text) fun _ _ => True := by
  unfold Expr.ofQuoted?
  split
  · exact .throw
  · dsimp only
    split
    · exact .throw
    · exact .pure fun _ _ => trivial

/-! ### Handles -/

theorem loading_unsupported (expr : Expr) :
    Loading P c (do return .unsupported (← expr.source) none) P.Homes :=
  (loading_source expr).bind fun _ _ _ _ => .pure fun _ _ => .unsupported _

theorem loading_resolveAll {arguments : List HintArgument}
    (each : ∀ argument ∈ arguments, Loading P c argument.resolve P.Homes) :
    Loading P c (HintArgument.resolveAll arguments) fun d handles => ∀ h ∈ handles, P.Homes d h :=
  .mapM each fun leads => leads.homed

theorem loading_handleOfSpecial (home : P.Loaded c file) (qualname : String)
    (arguments : List HintArgument) (expr : Expr)
    (each : ∀ argument ∈ arguments, Loading P c argument.resolve P.Homes) :
    Loading P c (handleOfSpecial file qualname arguments expr) P.Homes := by
  have all := loading_resolveAll each
  have unsupported := loading_unsupported (P := P) (c := c) expr
  unfold handleOfSpecial
  dsimp only
  split
  · exact .pure fun _ _ => .intrinsic _
  split
  · split
    · exact (each _ List.mem_cons_self).bind fun d element leads homed =>
        .pure fun _ further => .list (further.homed homed)
    · exact .pure fun _ _ => .list (.intrinsic _)
  split
  · exact all.bind fun d handles leads homed =>
      .pure fun _ further => .awaitable (further.homed_all homed)
  split
  · exact .pure fun _ _ => .void _
  split
  · exact .pure fun _ _ => .intrinsic _
  · split
    · rename_i last isLast
      exact (each last (List.mem_of_getLast? isLast)).bind fun d result leads homed =>
        .pure fun _ further => .awaitable (List.forall_mem_singleton.mpr (further.homed homed))
    · exact .pure fun _ _ => .awaitable (List.forall_mem_nil _)
  · exact (each _ List.mem_cons_self).bind fun d handle leads homed =>
      .pure fun _ further => (further.homed homed).optional (.intrinsic _)
  · exact all.bind fun d handles leads homed =>
      .pure fun _ further => .unionOf (further.homed_all homed)
  · exact .pure fun _ leads => .record (Symbol.declaredIn_declaredAt _ _ _) (leads.loaded home)
      (List.forall_mem_nil _)
  · split
    · exact each _ List.mem_cons_self
    · exact unsupported
  · exact unsupported

theorem loading_expandAlias {resolveValue : TypeVariables → CheckM Handle} {target : AliasRef}
    {arguments : List Handle}
    (value : ∀ d (scope : TypeVariables), c.Leads P d → (∀ v ∈ scope, P.Homes d v.2) →
      Loading P d (resolveValue scope) P.Homes)
    (homed : ∀ h ∈ arguments, P.Homes c h) :
    Loading P c (P.expandAlias resolveValue target arguments) P.Homes := by
  unfold expandAlias
  refine (loading_typeVariables _ _ _).bind fun d free leads _ => ?_
  have known : ∀ v ∈ free.zip arguments, P.Homes d v.2 :=
    fun v member => leads.homed (homed v.2 (List.of_mem_zip member).2)
  refine (value d _ leads known).bind fun e handle further expanded => ?_
  split
  · split
    · refine (Loading.mapM (fun h _ => loading_display h) fun _ _ => trivial).bind
        fun u texts later _ => .pure fun _ last => ?_
      cases later.homed expanded with
      | record declared home parts =>
        exact .record declared (last.loaded home) (last.homed_all parts)
    · exact .pure fun _ last => last.homed expanded
  · exact .pure fun _ last => last.homed expanded

theorem loading_variableName (expr : Expr) :
    Loading P c (variableName expr) fun _ _ => True := by
  unfold variableName
  split
  · exact .pure fun _ _ => trivial
  · exact loading_source expr

/-- What an alias becomes comes from files that are loaded, if the alias and its arguments do. -/
def Expands (P : Program) (c : CheckState) (expand : AliasRef → List Handle → CheckM Handle) :
    Prop :=
  ∀ d target handles, c.Leads P d → P.Loaded d target.key.file → (∀ h ∈ handles, P.Homes d h) →
    Loading P d (expand target handles) P.Homes

theorem loading_handleOfBinding {expand : AliasRef → List Handle → CheckM Handle}
    (expanded : P.Expands c expand) (home : P.Loaded c file)
    (known : ∀ v ∈ scope, P.Homes c v.2) {found : Binding} {target : Expr}
    (looked : (P.lookupExpr file target).1 = .ok found) (loaded : found.LoadedIn P c)
    {arguments : List HintArgument}
    (each : ∀ argument ∈ arguments, Loading P c argument.resolve P.Homes) :
    Loading P c (P.handleOfBinding expand file scope found arguments expr) P.Homes := by
  have all := loading_resolveAll each
  have unsupported := loading_unsupported (P := P) (c := c) expr
  cases found with
  | special qualname => exact loading_handleOfSpecial home _ _ _ each
  | classDef other definition =>
    refine (loading_recordOf (grounds_lookupExpr looked)).bind fun d record leads placed => ?_
    have declared := Symbol.declaredIn_declaredAt definition.name other definition.pos
    cases record with
    | some source =>
      refine (all.later leads).bind fun e handles further homed => .pure fun u last => ?_
      obtain rfl := placed source rfl
      exact .record declared (last.loaded (further.loaded (leads.loaded loaded)))
        (last.homed_all homed)
    | none =>
      refine (all.later leads).bind fun e handles further homed => .pure fun u last => ?_
      exact .classObject declared (last.loaded (further.loaded (leads.loaded loaded)))
        (last.homed_all homed)
  | recordCall key call =>
    exact .pure fun _ leads => .record (Symbol.declaredIn_declaredAt _ _ _) (leads.loaded loaded)
      (List.forall_mem_nil _)
  | «alias» key value =>
    exact all.bind fun d handles leads homed =>
      expanded d ⟨key, value⟩ handles leads (leads.loaded loaded) homed
  | typeVariable name =>
    refine .pure fun d leads => ?_
    cases found : scope.lookup name with
    | none => exact .typeParameter name
    | some handle => exact leads.homed (formed_of_lookup known found)
  | unresolved message =>
    refine (loading_variableName expr).bind fun d name leads _ => ?_
    split
    · exact .pure fun e further => (leads.trans further).homed (formed_of_lookup known ‹_›)
    · exact unsupported.later leads
  | module | value => exact unsupported

theorem Expands.later {expand : AliasRef → List Handle → CheckM Handle}
    (expanded : P.Expands c expand) (leads : c.Leads P d) : P.Expands d expand :=
  fun e target handles further => expanded e target handles (leads.trans further)

theorem loading_resolveExpr {expand : AliasRef → List Handle → CheckM Handle}
    {quoted : CodeText → CheckM Handle} (expanded : P.Expands c expand)
    (read : ∀ text, Loading P c (quoted text) P.Homes) (home : P.Loaded c file)
    (known : ∀ v ∈ scope, P.Homes c v.2) (expr : Expr) :
    Loading P c (P.resolveExpr expand quoted file scope expr) P.Homes := by
  generalize bound : sizeOf expr = limit
  induction limit using Nat.strongRecOn generalizing c expr with
  | ind limit ih =>
    have again {d : CheckState} (leads : c.Leads P d) (part : Expr)
        (smaller : sizeOf part < limit) :
        Loading P d (P.resolveExpr expand quoted file scope part) P.Homes :=
      ih _ smaller (expanded.later leads) (fun text => (read text).later leads)
        (leads.loaded home) (leads.homed_all known) part rfl
    have reference {target : Expr} {arguments : List HintArgument}
        (each : ∀ d, c.Leads P d → ∀ argument ∈ arguments, Loading P d argument.resolve P.Homes) :
        Loading P c (do
          let found ← P.find file target
          P.handleOfBinding expand file scope found arguments expr) P.Homes :=
      (loading_find home target).bind fun d found leads looked =>
        loading_handleOfBinding (expanded.later leads) (leads.loaded home) (leads.homed_all known)
          looked.1 looked.2 (each d leads)
    rw [resolveExpr.eq_def]
    split
    · exact .pure fun _ _ => .intrinsic _
    · exact read _
    · exact (loading_lift _).bind fun _ _ _ _ => .pure fun _ _ => .unsupported _
    · rename_i pos left right
      have smaller := Expr.binary.sizeOf_spec pos .bitOr left right
      refine .of_leads fun d leads => ?_
      refine (again leads left (by omega)).bind fun e first further homed => ?_
      refine (again (leads.trans further) right (by omega)).bind fun u second last also => ?_
      exact .pure fun _ final => (final.homed (last.homed homed)).optional (final.homed also)
    · split
      · exact .pure fun _ leads => leads.homed (formed_of_lookup known ‹_›)
      · exact reference fun _ _ => List.forall_mem_nil _
    · exact reference fun _ _ => List.forall_mem_nil _
    · rename_i pos value index
      refine reference fun d leads argument member => ?_
      obtain ⟨⟨part, inside⟩, _, rfl⟩ := List.mem_map.mp member
      have part_le := Expr.sizeOf_le_of_mem_indices inside
      have smaller := Expr.subscript.sizeOf_spec pos value index
      exact again leads part (by omega)
    · exact loading_unsupported _

theorem loading_resolveQuoting {expand : AliasRef → List Handle → CheckM Handle} (limit : Nat)
    (expanded : P.Expands c expand) (home : P.Loaded c file)
    (known : ∀ v ∈ scope, P.Homes c v.2) (expr : Expr) :
    Loading P c (P.resolveQuoting expand limit file scope expr) P.Homes := by
  induction limit using Nat.strongRecOn generalizing c expr with
  | ind limit ih =>
    rw [resolveQuoting]
    refine loading_resolveExpr expanded (fun text => ?_) home known expr
    split
    · rename_i shorter
      refine (loading_ofQuoted? text).bind fun d inner leads _ => ?_
      split
      · exact ih _ shorter (expanded.later leads) (leads.loaded home) (leads.homed_all known) _
      · exact .pure fun _ _ => .unsupported _
    · exact .pure fun _ _ => .unsupported _

theorem loading_resolveAmong (pending : List NameKey) (home : P.Loaded c file)
    (known : ∀ v ∈ scope, P.Homes c v.2) (expr : Expr) :
    Loading P c (P.resolveAmong pending file scope expr) P.Homes := by
  generalize bound : pending.length = limit
  induction limit using Nat.strongRecOn generalizing c pending file scope expr with
  | ind limit ih =>
    rw [resolveAmong]
    refine loading_resolveQuoting _ (fun d target handles leads home homed => ?_) home known expr
    split
    · rename_i present
      subst bound
      refine loading_expandAlias (fun e scope further known => ?_) homed
      exact ih _ (Pending.length_without_lt present) _ (further.loaded home) known _ rfl
    · exact .pure fun _ further => .deferred (further.loaded home) (further.homed_all homed)

theorem loading_resolve (home : P.Loaded c file) (known : ∀ v ∈ scope, P.Homes c v.2)
    (hint : Option Expr) : Loading P c (P.resolve file scope hint) P.Homes := by
  unfold resolve
  split
  · exact loading_resolveAmong _ home known _
  · exact .pure fun _ _ => .intrinsic _

theorem loading_apparent {handle : Handle} (homed : P.Homes c handle) :
    Loading P c (P.apparent handle) P.Homes := by
  unfold apparent
  split
  · cases homed with
    | deferred home parts =>
      exact loading_expandAlias (fun d scope leads known =>
        loading_resolveAmong _ (leads.loaded home) known _) parts
  · exact .pure fun _ leads => leads.homed homed

/-! ### Properties -/

abbrev AllHome (P : Program) (c : CheckState) (members : Properties) : Prop :=
  ∀ m ∈ members, P.Homes c m.2

theorem loading_isIgnoredField (file : Path) (hint : Expr) :
    Loading P c (P.isIgnoredField file hint) fun _ _ => True :=
  .of_asks fun opened => (P.closed_onward opened).isIgnoredField (P.shown_onward opened file hint)

theorem loading_peel (file : Path) (limit : Nat) (required : Bool) (hint : Expr) :
    Loading P c (P.peel file limit required hint) fun _ _ => True :=
  .of_asks fun opened => ((P.closed_onward opened).peel limit required
    (P.shown_onward opened file hint) fun _ _ _ => trivial).mono fun _ _ => trivial

theorem loading_fieldHandle {source : RecordSource} (home : P.Loaded c source.file)
    (known : ∀ v ∈ scope, P.Homes c v.2) (hint : Expr) :
    Loading P c (P.fieldHandle source scope hint) P.Homes := by
  unfold fieldHandle
  split
  · refine (loading_peel _ _ _ _).bind fun d (inner, required) leads _ => ?_
    refine (loading_resolve (leads.loaded home) (leads.homed_all known) _).bind
      fun e handle further homed => .pure fun _ last => ?_
    split
    · exact last.homed homed
    · exact (last.homed homed).optional (.intrinsic _)
  · exact loading_resolve home known _

theorem loading_put {source : RecordSource} (home : P.Loaded c source.file)
    (known : ∀ v ∈ scope, P.Homes c v.2) {members : Properties} (homed : P.AllHome c members)
    (name : String) (hint : Expr) :
    Loading P c (do return Pairs.put members name (← P.fieldHandle source scope hint)) P.AllHome :=
  (loading_fieldHandle home known hint).bind fun _ _ leads also => .pure fun _ further =>
    Pairs.forall_mem_put ((leads.trans further).homed_all homed) (further.homed also)

theorem loading_dictFields {source : RecordSource} (home : P.Loaded c source.file)
    (known : ∀ v ∈ scope, P.Homes c v.2) (items : List DictItem) :
    Loading P c (P.dictFields source scope items) P.AllHome := by
  unfold dictFields
  refine .foldlM (List.forall_mem_nil _) (fun item _ d members leads homed => ?_)
    fun leads => leads.homed_all
  split
  · exact loading_put (leads.loaded home) (leads.homed_all known) homed _ _
  · exact .pure fun _ further => further.homed_all homed

theorem loading_ownFields {source : RecordSource} (home : P.Loaded c source.file)
    (known : ∀ v ∈ scope, P.Homes c v.2) {inherited : Properties} (homed : P.AllHome c inherited)
    (statements : List Statement) :
    Loading P c (P.ownFields source scope inherited statements) P.AllHome := by
  unfold ownFields
  refine .foldlM homed (fun statement _ d members leads homed => ?_) fun leads => leads.homed_all
  split
  · refine (loading_isIgnoredField _ _).bind fun e ignored further _ => ?_
    have whole := leads.trans further
    split
    · exact .pure fun _ last => (further.trans last).homed_all homed
    · exact loading_put (whole.loaded home) (whole.homed_all known) (further.homed_all homed) _ _
  · exact .pure fun _ further => further.homed_all homed

theorem loading_baseArguments (home : P.Loaded c file) (known : ∀ v ∈ scope, P.Homes c v.2)
    (base : Expr) :
    Loading P c (P.baseArguments file scope base) fun d arguments =>
      ∀ h ∈ arguments, P.Homes d h := by
  unfold baseArguments
  split
  · exact .mapM (fun hint _ => loading_resolve home known _) fun leads => leads.homed
  · exact .pure fun _ _ => List.forall_mem_nil _

theorem loading_afterParent
    {recur : List ClassKey → RecordSource → List Handle → CheckM (Properties × List ClassKey)}
    (visited : ∀ d seen source arguments, c.Leads P d → P.Loaded d source.file →
      (∀ h ∈ arguments, P.Homes d h) →
      Loading P d (recur seen source arguments) fun e result => P.AllHome e result.1)
    (home : P.Loaded c file) (known : ∀ v ∈ scope, P.Homes c v.2)
    {state : Properties × List ClassKey} (homed : P.AllHome c state.1) (base : Expr) :
    Loading P c (P.afterParent recur file scope state base) fun d result =>
      P.AllHome d result.1 := by
  unfold afterParent
  dsimp only
  refine (loading_find home base.base).bind fun d found leads looked => ?_
  split
  · rename_i other definition
    refine (loading_recordOf (grounds_lookupExpr looked.1)).bind fun e record further placed => ?_
    have whole := leads.trans further
    split
    · exact .pure fun _ last => (whole.trans last).homed_all homed
    · rename_i source
      split
      · exact .pure fun _ last => (whole.trans last).homed_all homed
      · refine (loading_baseArguments (whole.loaded home) (whole.homed_all known) base).bind
          fun u arguments later parts => ?_
        have own : P.Loaded u source.file := by
          rw [placed source rfl]
          exact (further.trans later).loaded looked.2
        refine (visited u _ source arguments (whole.trans later) own parts).bind
          fun v result last others => .pure fun w final => ?_
        exact Pairs.forall_mem_putAll
          ((whole.trans (later.trans (last.trans final))).homed_all homed) (final.homed_all others)
  · exact .pure fun _ further => (leads.trans further).homed_all homed

theorem loading_propertiesAmong (pending seen : List ClassKey) {source : RecordSource}
    (home : P.Loaded c source.file) {arguments : List Handle}
    (parts : ∀ h ∈ arguments, P.Homes c h) :
    Loading P c (P.propertiesAmong pending seen source arguments) fun d result =>
      P.AllHome d result.1 := by
  generalize bound : pending.length = limit
  induction limit using Nat.strongRecOn generalizing c pending seen source arguments with
  | ind limit ih =>
    have known : ∀ v ∈ source.typeParameters.zip arguments, P.Homes c v.2 :=
      fun v member => parts v.2 (List.of_mem_zip member).2
    rw [propertiesAmong]
    dsimp only
    split
    · exact (loading_dictFields home known _).bind fun d members leads homed =>
        .pure fun _ further => further.homed_all homed
    · exact .pure fun _ _ => List.forall_mem_nil _
    · split
      · rename_i present
        subst bound
        refine .bind (Q := fun d state => P.AllHome d state.1) (.foldlM (List.forall_mem_nil _)
          (fun base _ d state leads homed => ?_) fun leads => leads.homed_all)
          fun d state leads homed => ?_
        · refine loading_afterParent (fun e seen source arguments further home parts => ?_)
            (leads.loaded home) (leads.homed_all known) homed base
          exact ih _ (Pending.length_without_lt present) _ _ home parts rfl
        · exact (loading_ownFields (leads.loaded home) (leads.homed_all known) homed _).bind
            fun e members further homed => .pure fun _ last => last.homed_all homed
      · exact .pure fun _ _ => List.forall_mem_nil _

theorem loading_propertiesOf {source : RecordSource} (home : P.Loaded c source.file)
    {arguments : List Handle} (parts : ∀ h ∈ arguments, P.Homes c h) :
    Loading P c (P.propertiesOf source arguments) P.AllHome := by
  unfold propertiesOf
  exact (loading_propertiesAmong _ _ home parts).bind fun d result leads homed =>
    .pure fun _ further => further.homed_all homed

/-! ### Signatures -/

theorem loading_resultHandle (home : P.Loaded c file) (hint : Option Expr) :
    Loading P c (P.resultHandle file hint) P.Homes := by
  unfold resultHandle
  split
  · exact .pure fun _ _ => .void _
  · split
    · exact .pure fun _ _ => .void _
    · exact loading_resolve home (List.forall_mem_nil _) _
  · exact loading_resolve home (List.forall_mem_nil _) _

theorem loading_typedParameter (home : P.Loaded c file) (parameter : Parameter) :
    Loading P c (P.typedParameter file parameter) fun d p => P.Homes d p.handle := by
  unfold typedParameter
  refine (loading_resolve home (List.forall_mem_nil _) _).bind fun d handle leads homed =>
    .pure fun _ further => ?_
  dsimp only
  split
  · exact (further.homed homed).optional (.intrinsic _)
  · exact further.homed homed

theorem loading_signature {f : Function} (home : P.Loaded c f.file) :
    Loading P c (P.signature f) fun d s =>
      (∀ p ∈ s.parameters, P.Homes d p.handle) ∧ P.Homes d s.result := by
  unfold signature
  refine (Loading.mapM (fun p _ => loading_typedParameter home p) fun leads => leads.homed).bind
    fun d parameters leads homed => ?_
  refine (loading_resultHandle (leads.loaded home) _).bind fun e result further also =>
    .pure fun _ last => ⟨(further.trans last).homed_all homed, ?_⟩
  dsimp only
  split
  · exact .awaitable (List.forall_mem_singleton.mpr (last.homed also))
  · exact last.homed also

end Program

end HintSchema

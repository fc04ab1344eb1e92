import HintSchema.Proofs.Hints.Memory

/-!
Questions about hints stay within any set of files that no look-up for a name leaves: they open no
other file, and the handles that they come to are within the set. What they remember of classes is
genuine throughout. The set is a realm in which every fault may occur (`Program.closed_enclosure`).
-/

namespace HintSchema

/-- Asked within the set of files, the question stays there, and its answer satisfies `R`. -/
def Confined {α : Type} (P : Program) (F : Path → Prop) (question : CheckM α) (R : α → Prop) :
    Prop :=
  ∀ c a d, Returns question c a d → c.Within P F → R a ∧ d.Within P F

namespace Program

def enclosure (P : Program) (F : Path → Prop) : Realm P where
  state := CheckState.Within P F
  reads file e := F file ∧ P.LooksWithin F file e
  record _ source := source.Within P F
  target := AliasRef.Within P F
  fault _ := True

/-- The record was read off a class of the program that is declared at the place. -/
def ReadOff (P : Program) (key : ClassKey) (record : RecordSource) : Prop :=
  ∃ name definition, (name, .classDef definition) ∈ (P.source key.file).scope.names ∧
    definition.pos = key.pos ∧ record.file = key.file ∧ record.fields = .ofClass definition

end Program

namespace Handle

variable {P : Program} {F : Path → Prop} {h : Handle}

theorem Within.enclosed (within : h.Within P F) : h.In (P.enclosure F) := by
  induction within with
  | intrinsic kind => exact .intrinsic kind
  | void text => exact .void text
  | union _ ih => exact .union ih
  | list _ ih => exact .list ih
  | awaitable _ ih => exact .awaitable ih
  | classObject _ ih => exact .classObject ih
  | record own _ ih => exact .record own ih
  | typeParameter name => exact .typeParameter name
  | unsupported text symbol => exact .unsupported text symbol
  | deferred own _ ih => exact .deferred own ih

theorem In.within (held : h.In (P.enclosure F)) : h.Within P F := by
  induction held with
  | intrinsic kind => exact .intrinsic kind
  | void text => exact .void text
  | union _ ih => exact .union ih
  | list _ ih => exact .list ih
  | awaitable _ ih => exact .awaitable ih
  | classObject _ ih => exact .classObject ih
  | record own _ ih => exact .record own ih
  | typeParameter name => exact .typeParameter name
  | unsupported text symbol => exact .unsupported text symbol
  | deferred own _ ih => exact .deferred own ih

end Handle

theorem Realm.Asks.confined {P : Program} {F : Path → Prop} {α : Type} {question : CheckM α}
    {Q R : α → Prop} (asks : (P.enclosure F).Asks question Q) (right : ∀ a, Q a → R a) :
    Confined P F question R := by
  intro c a d answered within
  obtain ⟨held, kept⟩ := asks.of_returns answered within
  exact ⟨right a held, kept⟩

namespace Program

variable {P : Program} {F : Path → Prop} {file : Path} {scope : TypeVariables} {x : Declared}

theorem ShowsWithin.enclosed {hint : Expr} (shows : P.ShowsWithin F file hint) (home : F file) :
    (P.enclosure F).Shown file hint :=
  fun part reached => ⟨home, shows part reached⟩

theorem home_of_looked {expr : Expr} {found : Binding} {path : Path} (home : F file)
    (looks : P.LooksWithin F file expr) (looked : (P.lookupExpr file expr).1 = .ok found)
    (bound : found.home? = some path) : F path := by
  rcases List.mem_cons.mp ((P.traced_lookupExpr file expr).home found looked path bound) with
    rfl | opened
  · exact home
  · exact looks path opened

theorem Binds.readOff (bound : P.Binds x) (kind : RecordKind) :
    P.ReadOff x.key (P.recordOfClass kind x) := by
  obtain ⟨name, member⟩ := bound
  exact ⟨name, x.2, member, rfl, rfl, rfl⟩

theorem ReadOff.within (closed : P.ClosedFiles F) {key : ClassKey} {record : RecordSource}
    (read : P.ReadOff key record) (home : F key.file) : record.Within P F := by
  obtain ⟨name, definition, member, _, placed, fields⟩ := read
  exact closed.ofClass home member placed fields

theorem searched_enclosure (P : Program) (F : Path → Prop) : (P.enclosure F).Searched where
  opening read within :=
    ⟨within.genuine.of_records_eq rfl, fun path member =>
      (CheckState.mem_openAll.mp member).elim (within.opened path) (read.2 path)⟩
  unresolved _ _ := trivial

theorem remembers_enclosure (closed : P.ClosedFiles F) :
    (P.enclosure F).Remembers (fun x => P.Binds x ∧ F x.1) fun x => P.ReadOff x.key where
  toSearched := P.searched_enclosure F
  mentions here mentioned := by
    obtain ⟨⟨name, member⟩, home⟩ := here
    exact ⟨home, closed.looks home member mentioned⟩
  inherits {x y} here inherits := by
    obtain ⟨⟨name, member⟩, home⟩ := here
    refine ⟨inherits.binds, ?_⟩
    obtain ⟨base, inside, looked⟩ := inherits
    have looks := closed.looks home member (.record (.base inside))
    exact home_of_looked home looks looked rfl
  remember within _ read := ⟨within.genuine.remember read, within.opened⟩
  known within _ known := within.genuine _ _ known
  plain here _ := here.1.readOff _
  own here _ _ := here.1.readOff _
  inherited here _ _ _ := here.1.readOff _

theorem asks_recordOf (closed : P.ClosedFiles F) (bound : P.Binds x) (home : F x.1) :
    (P.enclosure F).Asks (P.recordOf x.1 x.2) fun record =>
      ∀ source, record = some source → source.Within P F :=
  ((remembers_enclosure closed).recordOf ⟨bound, home⟩).mono fun _ read source same =>
    (read source same).within closed home

theorem closed_enclosure (closed : P.ClosedFiles F) : (P.enclosure F).Closed where
  toSearched := P.searched_enclosure F
  recordOf {file e home definition} read looked :=
    asks_recordOf closed (x := (home, definition)) (grounds_lookupExpr looked)
      (home_of_looked read.1 read.2 looked rfl)
  call read looked :=
    closed.ofCall (home_of_looked read.1 read.2 looked rfl) (grounds_lookupExpr looked)
  aliased read looked :=
    closed.ofAlias (home_of_looked read.1 read.2 looked rfl) (grounds_lookupExpr looked)
  inline shown looked parts := by
    have dict := shown.of_shows (.argument looked (by rw [parts]; exact List.mem_cons_self))
    refine ⟨dict.reads.1, fun e mentioned => ?_⟩
    cases mentioned with
    | item member inside => exact ((dict.of_shows (.dict member)) e inside).2
  mentions own e mentioned := ⟨own.home, own.mentions e mentioned⟩
  values own e mentioned := ⟨own.home, own.mentions e mentioned⟩
  unwritten _ _ := trivial
  undisplayed _ _ _ := trivial
  surrogate _ _ := trivial
  null _ _ _ := trivial
  empty _ _ _ _ _ := trivial

theorem confined_resolve (closed : P.ClosedFiles F) (home : F file)
    (known : ∀ v ∈ scope, v.2.Within P F) {hint : Option Expr}
    (shows : ∀ expr, hint = some expr → P.ShowsWithin F file expr) :
    Confined P F (P.resolve file scope hint) (Handle.Within P F) :=
  ((closed_enclosure closed).resolve (fun v member => (known v member).enclosed)
    fun expr hinted => (shows expr hinted).enclosed home).confined fun _ held => held.within

theorem confined_apparent (closed : P.ClosedFiles F) {handle : Handle}
    (within : handle.Within P F) : Confined P F (P.apparent handle) (Handle.Within P F) :=
  ((closed_enclosure closed).apparent within.enclosed).confined fun _ held => held.within

theorem confined_propertiesOf (closed : P.ClosedFiles F) {source : RecordSource}
    (own : source.Within P F) {arguments : List Handle} (parts : ∀ h ∈ arguments, h.Within P F) :
    Confined P F (P.propertiesOf source arguments) fun members =>
      ∀ m ∈ members, m.2.Within P F := by
  have record : (P.enclosure F).record ⟨"", []⟩ source := own
  exact ((closed_enclosure closed).propertiesOf record fun h member =>
    (parts h member).enclosed).confined fun _ held m member => (held m member).within

theorem confined_signature (closed : P.ClosedFiles F) {f : Function} (home : F f.file)
    (shows : ∀ hint ∈ (Statement.functionDef f.definition).hints, P.ShowsWithin F f.file hint) :
    Confined P F (P.signature f) fun s =>
      (∀ p ∈ s.parameters, p.handle.Within P F) ∧ s.result.Within P F :=
  ((closed_enclosure closed).signature fun hint written =>
    (shows hint written).enclosed home).confined
    fun _ held => ⟨fun p member => (held.1 p member).within, held.2.within⟩

end Program

namespace CheckState.Genuine

/-! Every question leaves what is remembered of classes genuine: it stays within the set of all
files. -/

variable {P : Program} {c d : CheckState}

theorem within (genuine : c.Genuine P) : c.Within P fun _ => True := ⟨genuine, fun _ _ => trivial⟩

theorem recordOf (genuine : c.Genuine P) {x : Declared} (bound : P.Binds x)
    {record : Option RecordSource} (answered : Returns (P.recordOf x.1 x.2) c record d) :
    d.Genuine P :=
  have all : Path → True := fun _ => trivial
  ((Program.asks_recordOf (Program.closedFiles_of_all all) bound trivial).of_returns answered
    genuine.within).2.genuine

theorem resolve (genuine : c.Genuine P) {file : Path} {scope : TypeVariables} {hint : Option Expr}
    {h : Handle} (answered : Returns (P.resolve file scope hint) c h d) : d.Genuine P :=
  have all : Path → True := fun _ => trivial
  (Program.confined_resolve (Program.closedFiles_of_all all) trivial
    (fun v _ => v.2.within_of_all all) (fun _ _ => Program.showsWithin_of_all all _ _) _ _ _
    answered genuine.within).2.genuine

theorem signature (genuine : c.Genuine P) {f : Function} {s : Signature}
    (answered : Returns (P.signature f) c s d) : d.Genuine P :=
  have all : Path → True := fun _ => trivial
  (Program.confined_signature (Program.closedFiles_of_all all) trivial
    (fun _ _ => Program.showsWithin_of_all all _ _) _ _ _ answered genuine.within).2.genuine

theorem apparent (genuine : c.Genuine P) {h shown : Handle}
    (answered : Returns (P.apparent h) c shown d) : d.Genuine P :=
  have all : Path → True := fun _ => trivial
  (Program.confined_apparent (Program.closedFiles_of_all all) (h.within_of_all all) _ _ _ answered
    genuine.within).2.genuine

theorem propertiesOf (genuine : c.Genuine P) {source : RecordSource} {arguments : List Handle}
    {members : Properties} (answered : Returns (P.propertiesOf source arguments) c members d) :
    d.Genuine P :=
  have all : Path → True := fun _ => trivial
  (Program.confined_propertiesOf (Program.closedFiles_of_all all) (source.within_of_all all)
    (fun h _ => h.within_of_all all) _ _ _ answered genuine.within).2.genuine

end CheckState.Genuine

end HintSchema

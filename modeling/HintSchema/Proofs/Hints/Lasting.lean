import HintSchema.Proofs.Hints.Answers
import HintSchema.Proofs.Hints.Signs
import HintSchema.Proofs.Modules.Parsed

/-!
What a checker says of a class after other questions. A class that names its kind, that does not
come from a typed dictionary, or that comes from one by way of bases which do not lead back to it,
is said to be what a checker says that was asked nothing before (`recordOf_lasts`). For other
classes that come from themselves it may depend on which class of the circle was asked for first.
-/

namespace HintSchema

theorem Handle.in_of_all {P : Program} {W : Realm P}
    (records : ∀ symbol source, W.record symbol source) (targets : ∀ target, W.target target) : ∀ h : Handle, h.In W
  | .intrinsic kind => .intrinsic kind
  | .void text => .void text
  | .union members => .union fun h _ => in_of_all records targets h
  | .list _ element => .list (in_of_all records targets element)
  | .awaitable _ arguments => .awaitable fun h _ => in_of_all records targets h
  | .classObject _ arguments => .classObject fun h _ => in_of_all records targets h
  | .record symbol source arguments _ =>
    .record (records symbol source) fun h _ => in_of_all records targets h
  | .typeParameter name => .typeParameter name
  | .unsupported text symbol => .unsupported text symbol
  | .deferred target arguments => .deferred (targets target) fun h _ => in_of_all records targets h

namespace Program

inductive Question (P : Program) : {α : Type} → CheckM α → Prop
  | find (file : Path) (expr : Expr) : Question P (P.find file expr)
  | recordOf {x : Declared} (bound : P.Binds x) : Question P (P.recordOf x.1 x.2)
  | resolve (file : Path) (scope : TypeVariables) (hint : Option Expr) :
      Question P (P.resolve file scope hint)
  | apparent (handle : Handle) : Question P (P.apparent handle)
  | propertiesOf (source : RecordSource) (arguments : List Handle) :
      Question P (P.propertiesOf source arguments)
  | signature (f : Function) : Question P (P.signature f)
  | checkFile (file : Path) : Question P (P.checkFile file)
  | check : Question P P.check

/-- A checker that has answered some questions. At first it knows of no class. -/
inductive Asked (P : Program) : CheckState → Prop
  | start {c : CheckState} (blank : c.records = []) : Asked P c
  | next {c d : CheckState} {α : Type} {question : CheckM α} {a : α} (before : Asked P c)
      (asked : P.Question question) (answered : Returns question c a d) : Asked P d

def credibly (P : Program) : Realm P where
  state := P.Trusty []
  reads _ _ := True
  record _ _ := True
  target _ := True
  fault _ := True

variable {P : Program} {x : Declared} {c d : CheckState} {α : Type} {question : CheckM α}

theorem careful_recordOf (placed : P.Placed) (bound : P.Binds x) :
    Careful (P.Trusty []) (fun _ => ¬ P.Legible x) (P.recordOf x.1 x.2) (P.Credible x) :=
  (trusty_recordAmong placed P.classes bound (fun _ other _ => other.key_mem)
    fun _ _ impossible => absurd impossible List.not_mem_nil).mono
      fun _ said => said.2 List.not_mem_nil

theorem closed_credibly (placed : P.Placed) : P.credibly.Closed where
  opening _ trusty := trusty.of_records_eq rfl
  unresolved _ _ := trivial
  recordOf _ looked := by
    have bound : P.Binds (_, _) := grounds_lookupExpr looked
    exact ((careful_recordOf placed bound).weaken fun _ _ => trivial).mono fun _ _ _ _ => trivial
  call _ _ := trivial
  aliased _ _ := trivial
  inline _ _ _ := trivial
  mentions _ _ _ := trivial
  values _ _ _ := trivial
  unwritten _ _ := trivial
  undisplayed _ _ _ := trivial
  surrogate _ _ := trivial
  null _ _ _ := trivial
  empty _ _ _ _ _ := trivial

theorem asks_checkFrom (placed : P.Placed) (limit position : Nat) :
    P.credibly.Asks (P.checkFrom limit position) fun _ => True := by
  induction limit generalizing position with
  | zero => exact .pure trivial
  | succ limit ih =>
    rw [checkFrom]
    refine Careful.bind .get fun c _ => ?_
    split
    · exact .pure trivial
    · rename_i file _
      have rest (found : List Diagnostic) : P.credibly.Asks
          (do return found ++ (← P.checkFrom limit (position + 1))) fun _ => True :=
        (ih (position + 1)).bind fun _ _ => .pure trivial
      dsimp only
      split
      · refine Careful.bind (Q := fun _ => True) ?_ fun found _ => rest found
        exact (closed_credibly placed).checkFile (fun _ _ trusty => trusty.of_records_eq rfl)
          fun _ _ _ _ => trivial
      · exact rest []

theorem Question.asks (placed : P.Placed) (asked : P.Question question) :
    P.credibly.Asks question fun _ => True := by
  have closed := closed_credibly placed
  have all (h : Handle) : h.In P.credibly := h.in_of_all (fun _ _ => trivial) fun _ => trivial
  cases asked with
  | find => exact (closed.find trivial).mono fun _ _ => trivial
  | recordOf bound =>
    exact ((careful_recordOf placed bound).weaken fun _ _ => trivial).mono fun _ _ => trivial
  | resolve =>
    exact (closed.resolve (fun v _ => all v.2) fun _ _ _ _ => trivial).mono fun _ _ => trivial
  | apparent handle => exact (closed.apparent (all handle)).mono fun _ _ => trivial
  | propertiesOf source =>
    have record : P.credibly.record ⟨"", []⟩ source := trivial
    exact (closed.propertiesOf record fun h _ => all h).mono fun _ _ => trivial
  | signature => exact (closed.signature fun _ _ _ _ => trivial).mono fun _ _ => trivial
  | checkFile =>
    exact closed.checkFile (fun _ _ trusty => trusty.of_records_eq rfl) fun _ _ _ _ => trivial
  | check =>
    unfold Program.check
    split
    · exact .pure trivial
    · exact asks_checkFrom placed _ _

theorem Asked.trusty (placed : P.Placed) (asked : P.Asked c) : P.Trusty [] c := by
  induction asked with
  | start blank => exact trusty_of_blank blank
  | next before question answered ih => exact ((question.asks placed).of_returns answered ih).2

/-- Whatever has been asked before, a class whose decorators and bases can be looked up is told to
be something credible; and unless that leaves a choice, what a checker says that has been asked
nothing before. -/
theorem recordOf_lasts (parsed : P.Parsed) (bound : P.Binds x) (legible : P.Legible x)
    (asked : P.Asked c) :
    ∃ lasting fresh, (∃ d, Returns (P.recordOf x.1 x.2) c lasting d) ∧ P.Fresh x fresh ∧
      P.Credible x lasting ∧ P.Credible x fresh ∧
      (P.sign x ≠ none ∨ ¬ P.Typed x ∨ P.Sure x → lasting = fresh) := by
  have answered (c : CheckState) (trusty : P.Trusty [] c) :
      ∃ record d, Returns (P.recordOf x.1 x.2) c record d ∧ P.Credible x record := by
    rcases careful_recordOf parsed.placed bound c trusty with
      ⟨record, d, told, credible, _⟩ | ⟨_, _, _, illegible⟩
    · exact ⟨record, d, told, credible⟩
    · exact absurd legible illegible
  obtain ⟨lasting, d, told, credible⟩ := answered c (asked.trusty parsed.placed)
  obtain ⟨fresh, e, told', credible'⟩ := answered {} (trusty_of_blank rfl)
  exact ⟨lasting, fresh, ⟨d, told⟩, ⟨e, told'⟩, credible, credible', credible.unique credible'⟩

/-! ### Tests -/

def isLegible (P : Program) : Bool :=
  P.sources.all fun s => s.scope.names.all fun p =>
    match p.2 with
    | .classDef definition =>
      definition.decorators.all (fun e => (P.lookupExpr s.path e.callee).1.isOk) &&
        definition.bases.all fun e => (P.lookupExpr s.path e.base).1.isOk
    | _ => true

theorem legible_of_isLegible (legible : P.isLegible) (bound : P.Binds x) : P.Legible x := by
  intro y consulted
  have bound' : P.Binds y := by
    cases consulted with
    | refl => exact bound
    | tail _ last => exact last.inherits.binds
  obtain ⟨name, member⟩ := bound'
  have source : P.source y.1 ∈ P.sources := by
    rcases P.source_cases y.1 with ⟨present, _⟩ | missing
    · exact present
    · rw [missing] at member
      cases member
  have own := List.all_eq_true.mp (List.all_eq_true.mp legible _ source) _ member
  rw [path_source] at own
  obtain ⟨decorators, bases⟩ := Bool.and_eq_true_iff.mp own
  refine ⟨fun decorator member => ?_, fun base member => ?_⟩
  · exact List.all_eq_true.mp decorators _ member
  · exact List.all_eq_true.mp bases _ member

/-- Some base of the class is a class that names typed dictionaries as its kind and has no class for
a base. -/
def leansOnPlain (P : Program) (x : Declared) : Bool :=
  x.2.bases.any fun base =>
    match (P.lookupExpr x.1 base.base).1 with
    | .ok (.classDef home definition) =>
      P.sign (home, definition) = some .typedDict && definition.bases.all fun further =>
        match (P.lookupExpr home further.base).1 with
        | .ok (.classDef _ _) => false
        | _ => true
    | _ => false

theorem sure_of_leansOnPlain (unsigned : P.sign x = none) (leans : P.leansOnPlain x) :
    P.Sure x := by
  obtain ⟨base, member, leans⟩ := List.any_eq_true.mp leans
  split at leans
  · rename_i home definition looked
    obtain ⟨signed, plain⟩ := Bool.and_eq_true_iff.mp leans
    have inherits : P.Inherits x (home, definition) := ⟨base, member, looked⟩
    refine .inherited unsigned inherits (fun leads => ?_) (.own (of_decide_eq_true signed))
    obtain ⟨y, consults, _⟩ := Relation.TransGen.head'_iff.mp leads
    obtain ⟨further, inside, looked⟩ := consults.inherits
    have other := List.all_eq_true.mp plain _ inside
    rw [looked] at other
    cases other
  · cases leans

/-- The class that a name of the functions file stands for. -/
def classNamed? (P : Program) (name : String) : Option Declared :=
  match (P.lookupName P.entry name).1 with
  | .classDef home definition => some (home, definition)
  | _ => none

theorem binds_of_classNamed? {name : String} (named : P.classNamed? name = some x) : P.Binds x := by
  have grounds := grounds_lookupName P P.entry name
  unfold classNamed? at named
  split at named
  · rename_i found
    rw [found] at grounds
    cases named
    exact grounds
  · cases named

def kindNamed (P : Program) (name : String) : CheckM (Option RecordKind) := do
  match P.classNamed? name with
  | some x => return (← P.recordOf x.1 x.2).map (·.kind)
  | none => return none

theorem returns_kindNamed {name : String} {kind : Option RecordKind}
    (named : P.classNamed? name = some x) (returned : Returns (P.kindNamed name) c kind d) :
    ∃ record, Returns (P.recordOf x.1 x.2) c record d ∧ record.map (·.kind) = kind := by
  rw [kindNamed, named] at returned
  obtain ⟨record, e, answered, returned⟩ := (returns_bind_iff ..).mp returned
  obtain ⟨rfl, rfl⟩ := (returns_pure_iff ..).mp returned
  exact ⟨record, answered, rfl⟩

/-- Two classes that are bases of each other. One of them also has a typed dictionary for a base. -/
def circle : Program := .ofLines ⟨.root, ["app", "functions.py"]⟩ [
  "from typing import TypedDict",
  "class Base(TypedDict):",
  "    x: int",
  "class Outer(Base):",
  "    y: int",
  "class Inner(Outer):",
  "    z: int",
  "class Outer(Inner, Base):",
  "    y: int"]

theorem exists_classNamed_circle : circle.isLegible ∧ ∃ outer inner,
    circle.classNamed? "Outer" = some outer ∧ circle.classNamed? "Inner" = some inner ∧
      circle.sign outer = none ∧ circle.leansOnPlain outer ∧ circle.sign inner = none := by
  have tests : circle.isLegible ∧
      (circle.classNamed? "Outer").map (fun x => (circle.sign x, circle.leansOnPlain x)) =
        some (none, true) ∧
      (circle.classNamed? "Inner").map circle.sign = some none := by decide +kernel
  obtain ⟨legible, outer, inner⟩ := tests
  obtain ⟨x, named, facts⟩ := Option.map_eq_some_iff.mp outer
  obtain ⟨y, named', unsigned⟩ := Option.map_eq_some_iff.mp inner
  obtain ⟨sign, leans⟩ := Prod.mk.inj facts
  exact ⟨legible, x, y, named, named', sign, leans, unsigned⟩

/-- The class that leans on the typed dictionary is told to be one, whatever was asked before. -/
theorem recordOf_lasts_circle :
    ∃ outer inner c, circle.classNamed? "Outer" = some outer ∧
      circle.classNamed? "Inner" = some inner ∧ circle.Asked c ∧
      (∃ record, Returns (circle.recordOf inner.1 inner.2) {} record c) ∧
      ∃ record, (∃ d, Returns (circle.recordOf outer.1 outer.2) c record d) ∧
        circle.Fresh outer record := by
  have parsed : circle.Parsed := parsed_ofLines (by decide +kernel) _
  obtain ⟨legible, outer, inner, named, named', unsigned, leans, _⟩ := exists_classNamed_circle
  have bound := binds_of_classNamed? named
  have bound' := binds_of_classNamed? named'
  rcases careful_recordOf parsed.placed bound' {} (trusty_of_blank rfl) with
    ⟨record, c, told, _⟩ | ⟨_, _, _, illegible⟩
  · have asked : circle.Asked c := (Asked.start rfl).next (.recordOf bound') told
    obtain ⟨lasting, fresh, answered, answered', _, _, same⟩ :=
      recordOf_lasts parsed bound (legible_of_isLegible legible bound) asked
    obtain rfl := same (.inr (.inr (sure_of_leansOnPlain unsigned leans)))
    exact ⟨outer, inner, c, named, named', asked, ⟨record, told⟩, lasting, answered, answered'⟩
  · exact absurd (legible_of_isLegible legible bound') illegible

/-- The other class of the circle is told to be no record, if that one was asked for first, though
it is a typed dictionary for a checker that was asked nothing before. -/
theorem circle_forgets :
    circle.Parsed ∧ ∃ inner c lasting fresh, circle.Binds inner ∧ circle.Legible inner ∧
      circle.Asked c ∧ (∃ d, Returns (circle.recordOf inner.1 inner.2) c lasting d) ∧
      circle.Fresh inner fresh ∧ lasting ≠ fresh := by
  obtain ⟨legible, outer, inner, named, named', _⟩ := exists_classNamed_circle
  have bound := binds_of_classNamed? named
  have bound' := binds_of_classNamed? named'
  have tests : (runFrom (circle.kindNamed "Inner") {}).1 = .ok (some .typedDict) ∧
      (runFrom (circle.kindNamed "Outer" >>= fun _ => circle.kindNamed "Inner") {}).1 =
        .ok none := by decide +kernel
  obtain ⟨alone, later⟩ := tests
  obtain ⟨fresh, told, kind⟩ := returns_kindNamed named' (returns_of_ok alone)
  obtain ⟨_, c, asked, returned⟩ := (returns_bind_iff ..).mp (returns_of_ok later)
  obtain ⟨_, asked, _⟩ := returns_kindNamed named asked
  obtain ⟨lasting, told', kind'⟩ := returns_kindNamed named' returned
  refine ⟨parsed_ofLines (by decide +kernel) _, inner, c, lasting, fresh, bound',
    legible_of_isLegible legible bound', (Asked.start rfl).next (.recordOf bound) asked,
    ⟨_, told'⟩, ⟨_, told⟩, ?_⟩
  rintro rfl
  cases kind.symm.trans kind'

end Program

end HintSchema

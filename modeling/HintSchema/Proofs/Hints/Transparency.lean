import HintSchema.Proofs.Hints.Straight
import HintSchema.Proofs.Hints.Unquoted

/-!
Aliases that do not mention themselves are transparent: a hint that stands for an alias comes to what
the alias's value comes to in the alias's module, for the handles of the arguments. Only the name of
a record without one is found in addition, and that may fail.
-/

namespace HintSchema

namespace Program

variable {P : Program} {file : Path} {scope : TypeVariables} {e : Expr} {key : NameKey}
  {value : Expr}

def argumentHandles (P : Program) (file : Path) (scope : TypeVariables) (e : Expr) :
    CheckM (List Handle) :=
  e.bracketed.mapM fun argument => P.resolve file scope (some argument)

def valueFor (P : Program) (target : AliasRef) (arguments : List Handle) : CheckM Handle :=
  P.resolve target.key.file ((P.variablesOf target.key.file target.value []).zip arguments)
    (some target.value)

/-- What stands for an alias comes to what its value comes to in its module, up to the name of a
record. -/
theorem resolve_of_stands (straight : P.Straight)
    (stands : P.StandsFor file (Pairs.keys scope) e (.alias key value)) :
    P.resolve file scope (some e) = (do
      let _ ← P.find file e.base
      let arguments ← P.argumentHandles file scope e
      P.expandAlias (fun scope => P.resolve key.file scope (some value)) ⟨key, value⟩
        arguments) := by
  have own : P.Avoids ([] ++ [key]) key.file value :=
    (Avoids.nil P file e).through straight stands.looked
  have plain scope : P.resolveUnder ([] ++ [key]) key.file scope value =
      P.resolve key.file scope (some value) := by
    rw [resolve_eq_under]
    exact resolveUnder_eq_of_avoids straight ⟨_, _, _⟩ own [] (.nil _ _ _) scope
  rw [resolve_eq_under, P.resolveUnder_eq_call, resolveCall_of_stands stands]
  unfold aliasCall expandCall argumentHandles
  simp only [List.not_mem_nil, if_false, plain, resolve_eq_under]

theorem exists_returns_foldlM {α β : Type} {f : β → α → CheckM β} {g : β → α → β}
    (each : ∀ known item c, ∃ d, Returns (f known item) c (g known item) d ∧
      d.records = c.records) (items : List α) (known : β) (c : CheckState) :
    ∃ d, Returns (items.foldlM f known) c (items.foldl g known) d ∧ d.records = c.records := by
  induction items generalizing known c with
  | nil => exact ⟨c, (returns_pure_iff _ _).mpr ⟨rfl, rfl⟩, rfl⟩
  | cons item rest ih =>
    obtain ⟨m, stepped, same⟩ := each known item c
    obtain ⟨d, returned, still⟩ := ih (g known item) m
    rw [List.foldlM_cons]
    exact ⟨d, (returns_bind_iff _ _ _).mpr ⟨_, m, stepped, returned⟩, still.trans same⟩

theorem exists_returns_typeVariables (P : Program) (file : Path) (e : Expr) (known : List String)
    (c : CheckState) : ∃ d, Returns (P.typeVariables file e known) c (P.variablesOf file e known) d ∧
      d.records = c.records := by
  unfold typeVariables variablesOf
  refine exists_returns_foldlM (fun known name c => ?_) _ known c
  unfold afterName
  split
  · exact ⟨c, (returns_pure_iff _ _).mpr ⟨rfl, rfl⟩, rfl⟩
  · refine ⟨c.openAll (P.lookupName file name).2, ?_, rfl⟩
    refine (returns_bind_iff _ _ _).mpr ⟨_, _, P.returns_findName file name c, ?_⟩
    cases (P.lookupName file name).1 <;> exact (returns_pure_iff _ _).mpr ⟨rfl, rfl⟩

theorem display_of_eq_ok {h : Handle} {text : String} (written : h.display? = .ok text) :
    h.display = return text := by
  rw [Handle.display, written, PrintFault.lift_ok]

theorem display_of_eq_error {h : Handle} {cause : PrintFault}
    (unwritten : h.display? = .error cause) : h.display = throw (.unprintable cause) := by
  rw [Handle.display, unwritten, PrintFault.lift_error]

theorem exists_returns_displays {handles : List Handle}
    (written : ∀ h ∈ handles, h.display?.isOk) (c : CheckState) :
    ∃ texts, Returns (handles.mapM (·.display)) c texts c := by
  induction handles with
  | nil => exact ⟨[], (returns_pure_iff _ _).mpr ⟨rfl, rfl⟩⟩
  | cons h rest ih =>
    obtain ⟨first, others⟩ := List.forall_mem_cons.mp written
    obtain ⟨text, shown⟩ := Except.isOk_iff.mp first
    obtain ⟨texts, rested⟩ := ih others
    refine ⟨text :: texts, (returns_mapM_cons_iff ..).mpr ⟨text, c, texts, ?_, rested, rfl⟩⟩
    rw [display_of_eq_ok shown]
    exact (returns_pure_iff _ _).mpr ⟨rfl, rfl⟩

theorem raises_displays {handles : List Handle}
    (unwritten : ¬ ∀ h ∈ handles, h.display?.isOk) (c : CheckState) :
    ∃ h ∈ handles, ∃ cause, h.display? = .error cause ∧
      Raises (handles.mapM (·.display)) c (.unprintable cause) c := by
  induction handles with
  | nil => exact absurd (List.forall_mem_nil _) unwritten
  | cons h rest ih =>
    simp only [List.mapM_cons, raises_bind_iff]
    cases shown : h.display? with
    | error cause =>
      refine ⟨h, List.mem_cons_self, cause, shown, .inl ?_⟩
      rw [display_of_eq_error shown]
      exact (raises_throw_iff ..).mpr ⟨rfl, rfl⟩
    | ok text =>
      have others : ¬ ∀ h ∈ rest, h.display?.isOk := fun each =>
        unwritten (List.forall_mem_cons.mpr ⟨shown ▸ rfl, each⟩)
      obtain ⟨g, member, cause, missing, raised⟩ := ih others
      refine ⟨g, List.mem_cons_of_mem _ member, cause, missing, .inr ⟨text, c, ?_, .inl raised⟩⟩
      rw [display_of_eq_ok shown]
      exact (returns_pure_iff _ _).mpr ⟨rfl, rfl⟩

/-- What an alias comes to when its value comes to the handle: a record without a name is named
after the alias. -/
def namedAfter (target : AliasRef) (arguments : List Handle) : Handle → CheckM Handle
  | .record symbol source own none =>
    if symbol.isAnonymous then do
      let texts ← arguments.mapM (·.display)
      return .record symbol source own (some (Handle.withArguments target.key.name texts))
    else return .record symbol source own none
  | other => return other

theorem expandAlias_eq (resolveValue : TypeVariables → CheckM Handle) (target : AliasRef)
    (arguments : List Handle) : P.expandAlias resolveValue target arguments = (do
      let free ← P.typeVariables target.key.file target.value []
      let value ← resolveValue (free.zip arguments)
      namedAfter target arguments value) := rfl

/-- The handle can be named after an alias: it is no record without a name, or the arguments of the
alias can be written out. -/
def Nameable (arguments : List Handle) : Handle → Prop
  | .record symbol _ _ none => symbol.isAnonymous → ∀ argument ∈ arguments, argument.display?.isOk
  | _ => True

theorem exists_returns_namedAfter (target : AliasRef) {arguments : List Handle} {g : Handle}
    (nameable : Nameable arguments g) (c : CheckState) :
    ∃ h, Returns (namedAfter target arguments g) c h c ∧ h.identity = g.identity := by
  unfold namedAfter
  split
  · split
    · rename_i anonymous
      obtain ⟨texts, displayed⟩ := exists_returns_displays (nameable anonymous) c
      exact ⟨_, (returns_bind_iff _ _ _).mpr
        ⟨texts, c, displayed, (returns_pure_iff _ _).mpr ⟨rfl, rfl⟩⟩, rfl⟩
    · exact ⟨_, (returns_pure_iff _ _).mpr ⟨rfl, rfl⟩, rfl⟩
  · exact ⟨_, (returns_pure_iff _ _).mpr ⟨rfl, rfl⟩, rfl⟩

theorem raises_namedAfter (target : AliasRef) {arguments : List Handle} {g : Handle}
    (unnameable : ¬ Nameable arguments g) (c : CheckState) :
    ∃ argument ∈ arguments, ∃ cause, argument.display? = .error cause ∧
      Raises (namedAfter target arguments g) c (.unprintable cause) c := by
  unfold Nameable at unnameable
  split at unnameable
  · rename_i symbol source own
    obtain ⟨anonymous, unwritten⟩ := Classical.not_imp.mp unnameable
    obtain ⟨argument, member, cause, missing, raised⟩ := raises_displays unwritten c
    refine ⟨argument, member, cause, missing, ?_⟩
    unfold namedAfter
    dsimp only
    rw [if_pos anonymous]
    exact (raises_bind_iff ..).mpr (.inl raised)
  · exact absurd trivial unnameable

theorem settles_argumentHandles (P : Program) (file : Path) (scope : TypeVariables) (e : Expr) :
    Settles P (P.argumentHandles file scope e) fun _ => True :=
  (Settles.mapM fun argument _ =>
    settles_resolve .any file (fun _ _ => trivial) (some argument)).mono fun _ _ => trivial

theorem settles_valueFor (P : Program) (target : AliasRef) (arguments : List Handle) :
    Settles P (P.valueFor target arguments) fun _ => True :=
  settles_resolve .any target.key.file (fun _ _ => trivial) _

theorem exists_valueFor_of_returns (straight : P.Straight)
    (stands : P.StandsFor file (Pairs.keys scope) e (.alias key value)) {c d z : CheckState}
    {h : Handle} (used : Returns (P.resolve file scope (some e)) c h d) (later : d.Grows P z) :
    ∃ arguments k g n, Returns (P.argumentHandles file scope e) z arguments k ∧
      Returns (P.valueFor ⟨key, value⟩ arguments) k g n ∧ h.identity = g.identity := by
  rw [resolve_of_stands straight stands] at used
  obtain ⟨_, _, _, used⟩ := (returns_bind_iff _ _ _).mp used
  obtain ⟨arguments, l, asked, expanded⟩ := (returns_bind_iff _ _ _).mp used
  obtain ⟨free, m, g, n, found, resolved, grown, named⟩ := returns_expandAlias expanded
  have free_eq := (P.fixed_typeVariables _ _ _ _ _ _ _ _ _ found found).2
  rw [free_eq] at resolved
  obtain ⟨_, ended, again⟩ := P.settles_valueFor ⟨key, value⟩ arguments _ _ _ resolved
  have begun : l.Grows P n := (P.settles_typeVariables _ _ _ _ _ _ found).2.1.trans ended
  have after : n.Grows P z := grown.trans later
  obtain ⟨p, repeated, same⟩ :=
    (P.settles_argumentHandles _ _ _ _ _ _ asked).2.2 z (begun.trans after)
  obtain ⟨q, valued, _⟩ := again p (after.of_records_eq_right same)
  refine ⟨arguments, p, g, q, repeated, valued, ?_⟩
  rcases named with rfl | ⟨symbol, source, own, name, rfl, rfl⟩
  · rfl
  · rfl

theorem exists_runFrom_resolve (straight : P.Straight)
    (stands : P.StandsFor file (Pairs.keys scope) e (.alias key value))
    {k l m n z : CheckState} {arguments : List Handle} {g : Handle}
    (asked : Returns (P.argumentHandles file scope e) k arguments l)
    (resolved : Returns (P.valueFor ⟨key, value⟩ arguments) m g n)
    (before : l.Grows P z) (later : n.Grows P z) :
    ∃ d, runFrom (P.resolve file scope (some e)) z =
      runFrom (namedAfter ⟨key, value⟩ arguments g) d := by
  have found : Returns (P.find file e.base) z (.alias key value)
      (z.openAll (P.lookupExpr file e.base).2) := returns_find_iff.mpr ⟨stands.looked, rfl⟩
  have unchanged : z.Grows P (z.openAll (P.lookupExpr file e.base).2) := .of_records_eq rfl
  obtain ⟨p, argued, same⟩ :=
    (P.settles_argumentHandles _ _ _ _ _ _ asked).2.2 _ (before.trans unchanged)
  obtain ⟨q, variables_eq, still⟩ := P.exists_returns_typeVariables key.file value [] p
  have after : n.Grows P q := (later.trans unchanged).of_records_eq_right (still.trans same)
  obtain ⟨d, valued, _⟩ := (P.settles_valueFor _ _ _ _ _ resolved).2.2 q after
  refine ⟨d, ?_⟩
  rw [resolve_of_stands straight stands, runFrom_bind_of_returns found,
    runFrom_bind_of_returns argued, expandAlias_eq, runFrom_bind_of_returns variables_eq]
  exact runFrom_bind_of_returns valued

/-- A program whose aliases do not mention themselves. What a hint comes to, where the type
variables stand for handles without a deferred alias, has no deferred alias in it. A hint that
stands for an alias, in whatever file, is the value of the alias with the handles of its arguments
for the type variables: once the hint has come to a handle, the value comes to one of the same
identity, and once the value has, so does the hint, unless the value is a record without a name and
an argument cannot be written out for its name. -/
theorem uses_come_to_values (P : Program) (straight : P.Straight) :
    (∀ file scope hint c h d, (∀ v ∈ scope, v.2.Expanded) →
      Returns (P.resolve file scope hint) c h d → h.Expanded) ∧
    ∀ file scope e key value, P.StandsFor file (Pairs.keys scope) e (.alias key value) →
      (∀ c h d z, Returns (P.resolve file scope (some e)) c h d → d.Grows P z →
        ∃ arguments k g n, Returns (P.argumentHandles file scope e) z arguments k ∧
          Returns (P.valueFor ⟨key, value⟩ arguments) k g n ∧ h.identity = g.identity) ∧
      ∀ k arguments l m g n z, Returns (P.argumentHandles file scope e) k arguments l →
        Returns (P.valueFor ⟨key, value⟩ arguments) m g n → l.Grows P z → n.Grows P z →
        (Nameable arguments g →
          ∃ h d, Returns (P.resolve file scope (some e)) z h d ∧ h.identity = g.identity) ∧
        (¬ Nameable arguments g →
          ∃ argument ∈ arguments, ∃ cause d, argument.display? = .error cause ∧
            Raises (P.resolve file scope (some e)) z (.unprintable cause) d) := by
  refine ⟨fun file scope hint c h d known resolved =>
    (settles_resolve_expanded straight known hint c h d resolved).1, ?_⟩
  intro file scope e key value stands
  refine ⟨fun c h d z used later => exists_valueFor_of_returns straight stands used later, ?_⟩
  intro k arguments l m g n z asked resolved before later
  obtain ⟨d, same⟩ := exists_runFrom_resolve straight stands asked resolved before later
  unfold Returns Raises
  rw [same]
  constructor
  · intro nameable
    obtain ⟨h, named, identical⟩ := exists_returns_namedAfter ⟨key, value⟩ nameable d
    exact ⟨h, d, named, identical⟩
  · intro unnameable
    obtain ⟨argument, member, cause, missing, raised⟩ := raises_namedAfter _ unnameable d
    exact ⟨argument, member, cause, d, missing, raised⟩

/-- An alias under another use of itself, in the value of an alias of another module. -/
def optionals : Program := .ofModules [
  ("functions.py", [
    "from typing import List, TypeVar",
    "from shapes import Opt",
    "T = TypeVar(\"T\")",
    "Rows = Opt[List[Opt[T]]]"]),
  ("shapes.py", [
    "from typing import Optional, TypeVar",
    "T = TypeVar(\"T\")",
    "Opt = Optional[T]"])]

def rowsOfInt : Expr := .subscript ⟨1, 0⟩ (.name ⟨1, 0⟩ "Rows") (.name ⟨1, 5⟩ "int")

theorem uses_come_to_values_optionals :
    optionals.Straight ∧ ∃ value c h d arguments k g n h' d',
      optionals.StandsFor optionals.entry [] rowsOfInt
        (.alias ⟨optionals.entry, "Rows"⟩ value) ∧
      Returns (optionals.resolve optionals.entry [] (some rowsOfInt)) c h d ∧
      h.identity = .union [.list (.union [.intrinsic .int, .intrinsic .none]), .intrinsic .none] ∧
      h.Expanded ∧
      Returns (optionals.argumentHandles optionals.entry [] rowsOfInt) d arguments k ∧
      Returns (optionals.valueFor ⟨⟨optionals.entry, "Rows"⟩, value⟩ arguments) k g n ∧
      h.identity = g.identity ∧ Nameable arguments g ∧
      Returns (optionals.resolve optionals.entry [] (some rowsOfInt)) n h' d' ∧
      h'.identity = g.identity := by
  -- The modules are parsed once for all three facts.
  have facts : optionals.descends (fun key => if key.name = "Rows" then 1 else 0) 6 = true ∧
      (runFrom (Handle.identity <$> optionals.resolve optionals.entry [] (some rowsOfInt))
        (.start optionals)).1 =
          .ok (.union [.list (.union [.intrinsic .int, .intrinsic .none]), .intrinsic .none]) ∧
      (optionals.lookupExpr optionals.entry (.name ⟨1, 0⟩ "Rows")).1.toOption.bind
        Binding.aliasKey? = some ⟨optionals.entry, "Rows"⟩ := by
    decide +kernel
  obtain ⟨descending, shown, found⟩ := facts
  have straight : optionals.Straight := straight_of_descends descending
  obtain ⟨expanded, transparent⟩ := uses_come_to_values optionals straight
  obtain ⟨h, resolved, identity⟩ := (returns_map_iff ..).mp (returns_of_ok shown)
  obtain ⟨value, looked⟩ := exists_alias_of_aliasKey? found
  have stands : optionals.StandsFor optionals.entry [] rowsOfInt
      (.alias ⟨optionals.entry, "Rows"⟩ value) := ⟨nofun, looked⟩
  obtain ⟨after, before⟩ := transparent optionals.entry [] _ _ _ stands
  obtain ⟨arguments, k, g, n, argued, valued, same⟩ := after _ _ _ _ resolved (.refl _)
  have nameable : Nameable arguments g := by
    cases g with
    | record =>
      rw [← identity] at same
      cases same
    | _ => trivial
  have grown : k.Grows optionals n :=
    (settles_resolve .any _ (fun _ _ => trivial) _ _ _ _ valued).2.1
  obtain ⟨h', d', again, same'⟩ :=
    (before _ _ _ _ _ _ n argued valued grown (.refl n)).1 nameable
  exact ⟨straight, value, _, h, _, arguments, k, g, n, h', d', stands, resolved,
    identity.symm, expanded _ _ _ _ _ _ (List.forall_mem_nil _) resolved, argued, valued, same,
    nameable, again, same'⟩

def anonymousBox : Program := .ofLines ⟨.root, ["app", "functions.py"]⟩ [
  "from typing import TypedDict",
  "Box = TypedDict[\x7b\"x\": int\x7d]"]

/-- The alias under a record with a field whose hint cannot be written out: in a field of an
interpolated text, a character would have to be escaped. -/
def boxOfUnwritten : Expr :=
  hintIn "Box[TypedDict[\x7b\"y\": f\"\x7b'\x01'\x7d\"\x7d]]"

def isUnwritten : Handle → Bool
  | .record symbol
      { fields := .ofDict (.dict _ [.pair (.literal _ (.text _ _)) (.interpolated _
        [.replacement _ (.literal _ (.text text false)) none none])]), .. } _ none =>
    symbol.isAnonymous && text == .ofString "\x01"
  | _ => false

theorem display?_of_isUnwritten {h : Handle} (unwritten : isUnwritten h = true) :
    h.display? = .error .backslashInField := by
  have escaped : Printer.plainText (.ofString "\x01") = "'\\x01'" := by decide +kernel
  have escape : "'\\x01'".contains '\\' := by simp
  have field : Printer.fieldValue "'\\x01'" = .error .backslashInField := if_pos escape
  unfold isUnwritten at unwritten
  split at unwritten
  · obtain ⟨anonymous, same⟩ := Bool.and_eq_true_iff.mp unwritten
    obtain rfl := eq_of_beq same
    simp [Handle.display?, anonymous, Handle.Source.inlineText?, Expr.source?, Expr.sourceAt,
      Expr.sourceOfItems, Expr.partsOf, Printer.literal, escaped, field]
  · cases unwritten

def isAnonymousRecord : Handle → Bool
  | .record symbol _ _ none => symbol.isAnonymous
  | _ => false

theorem not_nameable {arguments : List Handle} {g : Handle} (anonymous : isAnonymousRecord g = true)
    (unwritten : arguments.any isUnwritten = true) : ¬ Nameable arguments g := by
  obtain ⟨argument, member, missing⟩ := List.any_eq_true.mp unwritten
  unfold isAnonymousRecord at anonymous
  split at anonymous
  · intro nameable
    have written := nameable anonymous argument member
    rw [display?_of_isUnwritten missing] at written
    cases written
  · cases anonymous

/-- Whether the hint stands for an alias whose value comes to a record without a name, for arguments
of which one is such a record. -/
def isUnnameable (P : Program) (e : Expr) : CheckM Bool :=
  match (P.lookupExpr P.entry e.base).1 with
  | .ok (.alias key value) => do
    let arguments ← P.argumentHandles P.entry [] e
    let g ← P.valueFor ⟨key, value⟩ arguments
    return isAnonymousRecord g && arguments.any isUnwritten
  | _ => return false

theorem exists_of_isUnnameable {c d : CheckState}
    (returned : Returns (P.isUnnameable e) c true d) :
    ∃ key value arguments k g, P.StandsFor P.entry [] e (.alias key value) ∧
      Returns (P.argumentHandles P.entry [] e) c arguments k ∧
      Returns (P.valueFor ⟨key, value⟩ arguments) k g d ∧ ¬ Nameable arguments g := by
  unfold isUnnameable at returned
  split at returned
  · rename_i key value looked
    obtain ⟨arguments, k, argued, later⟩ := (returns_bind_iff ..).mp returned
    obtain ⟨g, n, valued, last⟩ := (returns_bind_iff ..).mp later
    obtain ⟨facts, rfl⟩ := (returns_pure_iff ..).mp last
    obtain ⟨anonymous, unwritten⟩ := Bool.and_eq_true_iff.mp facts.symm
    exact ⟨key, value, arguments, k, g, ⟨fun _ _ _ => List.not_mem_nil, looked⟩, argued, valued,
      not_nameable anonymous unwritten⟩
  · cases (returns_pure_iff ..).mp returned |>.1

/-- The arguments of the alias and its value come to handles, and the alias does not: its arguments
cannot be written out for the name of the record. -/
theorem anonymousBox_stops :
    anonymousBox.Straight ∧ ∃ key value arguments k g n cause d,
      anonymousBox.StandsFor anonymousBox.entry [] boxOfUnwritten (.alias key value) ∧
      Returns (anonymousBox.argumentHandles anonymousBox.entry [] boxOfUnwritten)
        (.start anonymousBox) arguments k ∧
      Returns (anonymousBox.valueFor ⟨key, value⟩ arguments) k g n ∧
      Raises (anonymousBox.resolve anonymousBox.entry [] (some boxOfUnwritten)) n
        (.unprintable cause) d := by
  have facts : anonymousBox.descends (fun _ => 0) 6 = true ∧
      (runFrom (anonymousBox.isUnnameable boxOfUnwritten) (.start anonymousBox)).1 = .ok true := by
    decide +kernel
  have straight : anonymousBox.Straight := straight_of_descends facts.1
  obtain ⟨key, value, arguments, k, g, stands, argued, valued, unnameable⟩ :=
    exists_of_isUnnameable (returns_of_ok facts.2)
  have grown := (anonymousBox.settles_valueFor _ _ _ _ _ valued).2.1
  obtain ⟨d, same⟩ := exists_runFrom_resolve straight stands argued valued grown (.refl _)
  obtain ⟨_, _, cause, _, stopped⟩ := raises_namedAfter ⟨key, value⟩ unnameable d
  exact ⟨straight, key, value, arguments, k, g, _, cause, d, stands, argued, valued,
    same.trans stopped⟩

end Program

end HintSchema

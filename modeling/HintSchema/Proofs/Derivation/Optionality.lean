import HintSchema.Proofs.Derivation.Turns
import HintSchema.Proofs.Hints.Admitted
import HintSchema.Proofs.Hints.Realm
import HintSchema.Proofs.Modules.Defaults

/-!
Arguments that may be left out, and arguments that may be null. An argument of an entry may be left
out exactly if its parameter has a default, and may be null exactly if the parameter's hint admits
`None` (`arguments_optionality`).
-/

namespace HintSchema

open Schema

namespace Schema.TypeDef

/-- The type says at the top that it accepts this absence of a value. -/
def accepts (absence : Absence) : TypeDef → Bool
  | nullable _ found => found = absence || found = .either
  | _ => false

theorem accepts_eq_false {type : TypeDef} (flat : type.isNullable = false) (absence : Absence) :
    type.accepts absence = false := by
  cases type with
  | nullable => cases flat
  | _ => rfl

end Schema.TypeDef

namespace Handle

variable {members : List Handle} {absence : Absence} {single : Handle}

theorem any_isNone_iff : members.any isNone = true ↔ Handle.none ∈ members := by
  simp only [List.any_eq_true, isNone_iff, ← eq_intrinsic_iff, exists_eq_right]
  rfl

theorem any_isMissing_iff : members.any isMissing = true ↔ Handle.missing ∈ members := by
  simp only [List.any_eq_true, isMissing_iff, ← eq_intrinsic_iff, exists_eq_right]
  rfl

/-- What a nullable union is split into: what it accepts are the members that stand for absence, and
there is one member besides. -/
theorem nullable?_union_eq_some (split : (Handle.union members).nullable? = some (single, absence))
    (type : TypeDef) :
    ((TypeDef.nullable type absence).accepts .null = true ↔ Handle.none ∈ members) ∧
      ((TypeDef.nullable type absence).accepts .undefined = true ↔ Handle.missing ∈ members) ∧
      ∀ h ∈ members, h = .none ∨ h = .missing ∨ h = single := by
  unfold nullable? at split
  dsimp only at split
  split at split
  · rename_i found other expressed only
    cases split
    rw [← any_isNone_iff, ← any_isMissing_iff]
    refine ⟨?_, ?_, fun h member => ?_⟩
    · unfold absence? at expressed
      split at expressed <;> cases expressed <;> simp_all [TypeDef.accepts]
    · unfold absence? at expressed
      split at expressed <;> cases expressed <;> simp_all [TypeDef.accepts]
    · by_cases rest : h ∈ members.filter fun m => !m.isNone && !m.isMissing
      · rw [only] at rest
        exact .inr (.inr (List.mem_singleton.mp rest))
      · have absent : h.isNone = true ∨ h.isMissing = true := by
          simpa [List.mem_filter, member, imp_iff_not_or] using rest
        rw [isNone_iff, isMissing_iff, ← eq_intrinsic_iff, ← eq_intrinsic_iff] at absent
        exact absent.imp_right .inl
  · cases split

end Handle

theorem Careful.any {α : Type} (question : CheckM α) :
    Careful (fun _ => True) (fun _ => True) question fun _ => True := by
  intro c _
  rcases run : runFrom question c with ⟨fault | a, d⟩
  · exact .inr ⟨fault, d, run, trivial⟩
  · exact .inl ⟨a, d, run, trivial, trivial⟩

namespace Program

variable {P : Program}

def bounded (P : Program) : Realm P where
  state _ := True
  reads _ _ := True
  record _ _ := True
  target target := P.Grounds (.alias target.key target.value)
  fault _ := True

theorem closed_bounded : P.bounded.Closed where
  opening _ _ := trivial
  unresolved _ _ := trivial
  recordOf _ _ := (Careful.any _).mono fun _ _ _ _ => trivial
  call _ _ := trivial
  aliased _ looked := grounds_lookupExpr looked
  inline _ _ _ := trivial
  mentions _ _ _ := trivial
  values _ _ _ := trivial
  unwritten _ _ := trivial
  undisplayed _ _ _ := trivial
  surrogate _ _ := trivial
  null _ _ _ := trivial
  empty _ _ _ _ _ := trivial

end Program

theorem Handle.In.bound {P : Program} {h : Handle} (held : h.In P.bounded) :
    ∀ target arguments, h = .deferred target arguments →
      P.Grounds (.alias target.key target.value) := by
  rintro target arguments rfl
  cases held with
  | deferred own => exact own

namespace Derivation

variable {P : Program} {depth : Int} {path : TypePath} {h : Handle} {s t : DerivationState}
  {type : TypeDef} {warnings : List String}

theorem accepts_null_iff (held : h.In P.bounded)
    (returned : Returns (deriveType P depth path h) s (.type type warnings) t) :
    type.accepts .null = true ↔ h.AdmitsNone P := by
  refine deriveType_induct (M := fun _ _ h _ o _ => h.In P.bounded → ∀ type warnings,
    o = .type type warnings → (type.accepts .null = true ↔ h.AdmitsNone P)) ?_ returned held type
    warnings rfl
  intro depth path h shown s u o t within seen step held type warnings same
  subst same
  have expanded : shown.AdmitsNone P ↔ h.AdmitsNone P :=
    (asked_settled (Program.settlesNone_apparent held.bound) seen).1
  obtain ⟨_, answered, _⟩ := (returns_asking_iff ..).mp seen
  have held := ((Program.closed_bounded.apparent held).of_returns answered trivial).1
  rw [← expanded]
  cases step with
  | @scalar kind _ _ named =>
    refine iff_of_false Bool.false_ne_true ?_
    rw [Handle.admitsNone_intrinsic]
    rintro rfl
    cases named
  | list => exact iff_of_false Bool.false_ne_true (Handle.not_admitsNone_list _ _)
  | known record | registered record =>
    obtain ⟨_, _, rfl⟩ := eq_record_of_record? record
    exact iff_of_false Bool.false_ne_true (Handle.not_admitsNone_record _ _ _ _)
  | @nullable members single absence type _ _ _ split derived flat =>
    obtain ⟨null, _, others⟩ := Handle.nullable?_union_eq_some split type
    have inner := held.of_mem_alternatives (Handle.mem_of_nullable? split)
    have never : ¬ single.AdmitsNone P := by
      rw [← derived.2 inner _ _ rfl, TypeDef.accepts_eq_false flat]
      exact Bool.false_ne_true
    rw [null, Handle.admitsNone_union]
    constructor
    · exact fun member => ⟨_, member, (Handle.admitsNone_intrinsic _).mpr rfl⟩
    · rintro ⟨part, member, admits⟩
      rcases others part member with rfl | rfl | rfl
      · exact member
      · cases (Handle.admitsNone_intrinsic _).mp admits
      · exact absurd admits never

theorem accepts_undefined_iff (top : h.MissingAtTop)
    (returned : Returns (deriveType P depth path h) s (.type type warnings) t) :
    type.accepts .undefined = true ↔ .missing ∈ h.alternatives := by
  obtain ⟨shown, u, seen, _, step⟩ := (returns_deriveType_iff ..).mp returned
  rw [← (asked_settled (Program.settles_apparent_missing P top) seen).1]
  cases step with
  | @scalar kind _ _ named =>
    refine iff_of_false Bool.false_ne_true fun member => ?_
    cases List.mem_singleton.mp member
    cases named
  | list =>
    refine iff_of_false Bool.false_ne_true fun member => ?_
    cases List.mem_singleton.mp member
  | known record | registered record =>
    refine iff_of_false Bool.false_ne_true fun member => ?_
    obtain ⟨_, _, rfl⟩ := eq_record_of_record? record
    cases List.mem_singleton.mp member
  | nullable split => exact (Handle.nullable?_union_eq_some split _).2.1

end Derivation

theorem forall₂_trans {α β γ : Type} {Q : α → β → Prop} {R : β → γ → Prop} {S : α → γ → Prop}
    (through : ∀ a b c, Q a b → R b c → S a c) {as : List α} {bs : List β} {cs : List γ}
    (first : List.Forall₂ Q as bs) (second : List.Forall₂ R bs cs) : List.Forall₂ S as cs := by
  induction first generalizing cs with
  | nil =>
    cases second
    exact .nil
  | cons related _ ih =>
    cases second with
    | cons head tail => exact .cons (through _ _ _ related head) (ih tail)

namespace Program

/-- What is known of a parameter, of the type of its hint and of its default. -/
structure ParameterAs (P : Program) (file : Path) (parameter : Parameter) (typed : TypedParameter) :
    Prop where
  name : typed.name = parameter.name
  top : typed.handle.MissingAtTop
  missing : .missing ∈ typed.handle.alternatives ↔ parameter.default.isSome
  none : typed.handle.AdmitsNone P ↔
    ∃ hint, parameter.hint = some hint ∧ P.AdmitsNone P.aliasParameters file [] hint

theorem settles_parameters (P : Program) (f : Function) :
    Settles P (P.signature f) fun s =>
      List.Forall₂ (P.ParameterAs f.file) f.definition.parameters s.parameters := by
  have each (parameter : Parameter) :
      Settles P (P.typedParameter f.file parameter) (P.ParameterAs f.file parameter) := by
    have named : Settles P (P.typedParameter f.file parameter) fun p => p.name = parameter.name :=
      (settles_resolve .given f.file (List.forall_mem_nil _) parameter.hint).bind
        fun _ _ => .pure rfl
    refine (named.and ((P.settles_typedParameter_given f.file parameter).and
      (P.settlesNone_typedParameter f.file parameter))).mono ?_
    rintro p ⟨name, ⟨top, missing⟩, none⟩
    exact ⟨name, top, missing, none⟩
  unfold signature
  refine (Settles.mapM_forall₂ fun parameter _ => each parameter).bind fun parameters typed => ?_
  exact (settles_resultHandle .given f.file f.definition.returns).bind fun _ _ => .pure typed

end Program

namespace Derivation

variable {P : Program}

/-- What an argument shows of its parameter: whether it has a default, and whether `None` is a
member of its hint. An alias takes its arguments in the order in which its type variables are found,
which need not be the one in which they are written. -/
structure ReflectedIn (P : Program) (file : Path) (parameter : Parameter) (argument : Argument) :
    Prop where
  name : argument.name = parameter.name
  undefined : argument.type.accepts .undefined = true ↔ parameter.default.isSome
  null : argument.type.accepts .null = true ↔
    ∃ hint, parameter.hint = some hint ∧ P.AdmitsNone P.aliasParameters file [] hint
  ordered : ∀ hint, parameter.hint = some hint →
    (∀ target, P.Involves file hint target →
      P.InOrder target.key.file [target.value] [target.value]) →
    (argument.type.accepts .null = true ↔ P.AdmitsNone P.writtenParameters file [] hint)

/-- Whatever parameters a function has, positional-only ones, regular ones and keyword-only ones,
and however many of them have defaults: once it has an entry, there is an argument for each of
them, which accepts undefined exactly if the parameter has a default, and accepts null exactly if
`None` is a member of the parameter's hint when aliases are expanded and unions are flattened. The
same holds of the parameters that get their defaults from lists that are kept apart. -/
theorem arguments_optionality (P : Program) (s t : DerivationState) (outcome : SchemaOutcome)
    (f : Function) (entry : FunctionEntry) (returned : Returns (deriveUnchecked P) s outcome t)
    (exported : f ∈ (P.source P.entry).exportedFunctions)
    (registered : Pairs.get? outcome.schema.functions f.name = some entry) :
    List.Forall₂ (ReflectedIn P f.file) f.definition.parameters entry.arguments ∧
      (P.Parsed → List.Forall₂ (ReflectedIn P f.file)
        (Parameter.layout f.definition.parameters).parameters entry.arguments) := by
  suffices reflected : List.Forall₂ (ReflectedIn P f.file) f.definition.parameters entry.arguments
    from ⟨reflected, fun parsed => by rwa [Program.layout_of_exported parsed exported]⟩
  obtain ⟨signature, c, d, answered, arguments⟩ := arguments_of_entry returned exported registered
  have held := (Program.closed_bounded.signature fun _ _ _ _ => trivial).of_returns answered trivial
  have bounded : ∀ p ∈ signature.parameters, p.handle.In P.bounded := held.1.1
  have typed := (P.settles_parameters f _ _ _ answered).1
  refine forall₂_trans (fun parameter p argument known given => ?_) typed
    ((List.forall₂_and_left ..).mpr ⟨bounded, arguments⟩)
  obtain ⟨inside, named, _, _, _, _, derived⟩ := given
  have null := (accepts_null_iff inside derived).trans known.none
  refine ⟨named.trans known.name, (accepts_undefined_iff known.top derived).trans known.missing,
    null, fun hint hinted ordered => null.trans ?_⟩
  rw [Program.admitsNone_written_iff ordered, hinted]
  simp

def optionality (P : Program) (outcome : SchemaOutcome) :
    List (Option (List (String × Bool × Bool))) :=
  (P.source P.entry).exportedFunctions.map fun f =>
    (Pairs.get? outcome.schema.functions f.name).map fun entry =>
      entry.arguments.map fun a => (a.name, a.type.accepts .undefined, a.type.accepts .null)

theorem exists_of_optionality {outcome : SchemaOutcome} {shown : List (String × Bool × Bool)}
    (same : optionality P outcome = [some shown]) :
    ∃ f entry, (P.source P.entry).exportedFunctions = [f] ∧
      Pairs.get? outcome.schema.functions f.name = some entry ∧
      entry.arguments.map (fun a => (a.name, a.type.accepts .undefined, a.type.accepts .null)) =
        shown := by
  obtain ⟨f, single, given⟩ := List.map_eq_singleton_iff.mp same
  obtain ⟨entry, registered, shown⟩ := Option.map_eq_some_iff.mp given
  exact ⟨f, entry, single, registered, shown⟩

def mixedParameters : Program := .ofLines ⟨.root, ["app", "functions.py"]⟩ [
  "from typing import Optional, TypeVar, Union",
  "T = TypeVar(\"T\")",
  "Maybe = Union[T, None]",
  "Nothing = None",
  "def f(a: int, b: Maybe[str], /, c: \"int | Nothing\" = 0, d: int = 1, *,",
  "      e: Optional[bool] = None, g: str, h: Maybe[Maybe[int]] = 2) -> int:",
  "    return 0"]

theorem arguments_optionality_mixedParameters :
    ∃ outcome t f entry,
      Returns (deriveUnchecked mixedParameters) { check := .start mixedParameters } outcome t ∧
      (mixedParameters.source mixedParameters.entry).exportedFunctions = [f] ∧
      Pairs.get? outcome.schema.functions f.name = some entry ∧
      entry.arguments.map (fun a => (a.name, a.type.accepts .undefined, a.type.accepts .null)) =
        [("a", false, false), ("b", false, true), ("c", true, true), ("d", true, false),
          ("e", true, true), ("g", false, false), ("h", true, true)] ∧
      List.Forall₂ (ReflectedIn mixedParameters f.file) f.definition.parameters entry.arguments ∧
      List.Forall₂ (ReflectedIn mixedParameters f.file)
        (Parameter.layout f.definition.parameters).parameters entry.arguments := by
  have shown : (runFrom (optionality mixedParameters <$> deriveUnchecked mixedParameters)
      { check := .start mixedParameters }).1 =
        .ok [some [("a", false, false), ("b", false, true), ("c", true, true), ("d", true, false),
          ("e", true, true), ("g", false, false), ("h", true, true)]] := by
    decide +kernel
  obtain ⟨outcome, returned, same⟩ := (returns_map_iff ..).mp (returns_of_ok shown)
  obtain ⟨f, entry, single, registered, flags⟩ := exists_of_optionality same.symm
  obtain ⟨reflected, apart⟩ := arguments_optionality _ _ _ outcome f entry returned
    (single ▸ List.mem_cons_self) registered
  exact ⟨outcome, _, f, entry, returned, single, registered, flags, reflected,
    apart (Program.parsed_ofLines (by decide +kernel) _)⟩

/-- An alias whose first type variable stands below the second one. -/
def boxedEither : Program := .ofLines ⟨.root, ["app", "functions.py"]⟩ [
  "from typing import Generic, TypedDict, TypeVar, Union",
  "T = TypeVar(\"T\")",
  "U = TypeVar(\"U\")",
  "class Box(TypedDict, Generic[T]):",
  "    size: int",
  "Either = Union[Box[T], U]",
  "def f(box: Either[Box[None], None]) -> int:",
  "    return 0"]

/-- The second argument of the alias is `None`, and a member of the union as it is written, but it
takes the place of the first type variable. -/
theorem boxedEither_not_null :
    ∃ outcome t f entry parameter hint argument,
      Returns (deriveUnchecked boxedEither) { check := .start boxedEither } outcome t ∧
      (boxedEither.source boxedEither.entry).exportedFunctions = [f] ∧
      Pairs.get? outcome.schema.functions f.name = some entry ∧
      f.definition.parameters = [parameter] ∧ entry.arguments = [argument] ∧
      parameter.hint = some hint ∧
      boxedEither.AdmitsNone boxedEither.writtenParameters f.file [] hint ∧
      argument.type.accepts .null = false := by
  have tests : (runFrom (optionality boxedEither <$> deriveUnchecked boxedEither)
        { check := .start boxedEither }).1 = .ok [some [("box", false, false)]] ∧
      (boxedEither.source boxedEither.entry).exportedFunctions.map (fun f =>
        f.definition.parameters.map fun p =>
          p.hint.map (boxedEither.findsNone boxedEither.writtenParameters 4 f.file [])) =
        [[some true]] := by
    decide +kernel
  obtain ⟨shown, written⟩ := tests
  obtain ⟨outcome, returned, same⟩ := (returns_map_iff ..).mp (returns_of_ok shown)
  obtain ⟨f, entry, single, registered, flags⟩ := exists_of_optionality same.symm
  rw [single, List.map_singleton, List.singleton_inj] at written
  obtain ⟨parameter, declared, found⟩ := List.map_eq_singleton_iff.mp written
  obtain ⟨hint, hinted, found⟩ := Option.map_eq_some_iff.mp found
  obtain ⟨argument, listed, flags⟩ := List.map_eq_singleton_iff.mp flags
  simp only [Prod.mk.injEq] at flags
  exact ⟨outcome, _, f, entry, parameter, hint, argument, returned, single, registered, declared,
    listed, hinted, Program.admitsNone_of_findsNone found, flags.2.2⟩

end Derivation

end HintSchema

import HintSchema.Proofs.Derivation.Naming
import HintSchema.Proofs.Derivation.Limits

/-!
The handles that are met when exported functions are derived come from the program, so where each
record has a name of its own and no name stands for two types, a name tells which handle it was given
to (`territory_meets`).
-/

namespace HintSchema

namespace CheckState

variable {P : Program} {c d : CheckState}

/-- What is known of classes in one of two states. -/
def merge (c d : CheckState) : CheckState := { c with records := c.records ++ d.records }

theorem lookup_merge (c d : CheckState) (key : ClassKey) :
    (c.merge d).records.lookup key = (c.records.lookup key).or (d.records.lookup key) :=
  List.lookup_append

end CheckState

namespace Program

variable {P : Program} {c d : CheckState}

theorem Consistent.foreign (consistent : P.Consistent [] c) {key : ClassKey}
    (foreign : key ∉ P.classes) : c.records.lookup key = none := by
  cases known : c.records.lookup key with
  | none => rfl
  | some record =>
    obtain ⟨x, bound, rfl, _⟩ := consistent key List.not_mem_nil record known
    exact absurd bound.key_mem foreign

theorem Consistent.agree (placed : P.Placed) (consistent : P.Consistent [] c)
    (other : P.Consistent [] d) {key : ClassKey} {record found : Option RecordSource}
    (known : c.records.lookup key = some record) (also : d.records.lookup key = some found) :
    record = found := by
  obtain ⟨x, bound, rfl, fresh⟩ := consistent key List.not_mem_nil record known
  exact fresh.unique (other.fresh placed bound List.not_mem_nil also)

theorem Consistent.merge (consistent : P.Consistent [] c) (other : P.Consistent [] d) :
    P.Consistent [] (c.merge d) := by
  intro key closed record known
  rw [CheckState.lookup_merge] at known
  rcases Option.or_eq_some_iff.mp known with first | ⟨_, second⟩
  · exact consistent key closed record first
  · exact other key closed record second

theorem Consistent.grows_merge_left (consistent : P.Consistent [] c) (other : P.Consistent [] d) :
    c.Grows P (c.merge d) where
  known key record found := by rw [CheckState.lookup_merge, found, Option.some_or]
  foreign key foreign := by
    rw [CheckState.lookup_merge, consistent.foreign foreign, other.foreign foreign, Option.or_none]

theorem Consistent.grows_merge_right (placed : P.Placed) (consistent : P.Consistent [] c)
    (other : P.Consistent [] d) : d.Grows P (c.merge d) where
  known key record found := by
    rw [CheckState.lookup_merge]
    cases first : c.records.lookup key with
    | none => rw [Option.none_or, found]
    | some before => rw [consistent.agree placed other first found, Option.some_or]
  foreign key foreign := by
    rw [CheckState.lookup_merge, consistent.foreign foreign, other.foreign foreign, Option.or_none]

end Program

namespace Derivation

/-- The handles that are met when some functions are derived: those that the functions declare, and
from there on all that have to be derived for one that is met. -/
inductive Meets (P : Program) (fs : List Function) : Handle → Prop
  | declared {f : Function} {handle : Handle} (member : f ∈ fs) (declares : Declares P f handle) :
      Meets P fs handle
  | further {handle part : Handle} (met : Meets P fs handle) (yields : Yields P handle part) :
      Meets P fs part

variable {P : Program} {fs : List Function} {f : Function} {handle shown inner : Handle}

theorem meets_congr {fs' : List Function} (same : ∀ f, f ∈ fs ↔ f ∈ fs') :
    Meets P fs = Meets P fs' := by
  funext handle
  refine propext ⟨fun met => ?_, fun met => ?_⟩
  · induction met with
    | declared member declares => exact .declared ((same _).mp member) declares
    | further _ yields ih => exact ih.further yields
  · induction met with
    | declared member declares => exact .declared ((same _).mpr member) declares
    | further _ yields ih => exact ih.further yields

/-- Once enough is known of classes, the handle comes from the program. -/
def Native (P : Program) (handle : Handle) : Prop :=
  handle.Spelled ∧ ∃ z, P.Consistent [] z ∧ z.Genuine P ∧ Sourced P z handle

theorem Native.views (steadied : P.Steadied (P.Consistent [])) (placed : P.Placed)
    (clean : P.NoQuotedRecord) (native : Native P handle) (seen : Views P handle shown) :
    Native P shown := by
  obtain ⟨spelled, z, consistent, genuine, sourced⟩ := native
  have uniform := Program.uniform_apparent steadied handle
  obtain ⟨d, answered⟩ := Program.returns_of_answers uniform consistent seen
  have grown := P.moves_apparent handle _ _ _ answered
  have kin := Program.agree_apparent placed clean (.refl (sourced.later grown)) _ _ _ _ _ _ answered
    answered (.refl d) (.refl d)
  exact ⟨(Program.settles_apparent .spelled spelled spelled.arguments _ _ _ answered).1, d,
    (Program.answers_of_returns uniform consistent answered).2, genuine.apparent answered, kin.left⟩

theorem Native.part (steadied : P.Steadied (P.Consistent [])) (placed : P.Placed)
    (clean : P.NoQuotedRecord) (native : Native P shown) (held : Part P shown inner) :
    Native P inner := by
  obtain ⟨spelled, z, consistent, genuine, sourced⟩ := native
  cases held with
  | element => exact ⟨spelled.arguments _ List.mem_cons_self, z, consistent, genuine,
      sourced.parts _ List.mem_cons_self⟩
  | single split =>
    have member := Handle.mem_of_nullable? split
    exact ⟨spelled.alternatives _ member, z, consistent, genuine,
      sourced.parts _ (List.mem_append_left _ member)⟩
  | @property _ source arguments _ _ _ record _ answers present =>
    obtain ⟨symbol, aliasName, rfl⟩ := eq_record_of_record? record
    have uniform := Program.uniform_propertiesOf steadied source arguments
    obtain ⟨d, answered⟩ := Program.returns_of_answers uniform consistent answers
    have grown := P.moves_propertiesOf _ _ _ _ _ answered
    have kept := genuine.propertiesOf answered
    have related := Program.agree_propertiesOf placed clean kept (.refl (sourced.later grown))
      _ _ _ _ _ _ answered answered (.refl d) (.refl d)
    exact ⟨(Program.settles_propertiesOf .spelled _ spelled.arguments _ _ _ answered).1 _ present, d,
      (Program.answers_of_returns uniform consistent answered).2, kept,
      (List.forall₂_same.mp related _ present).2.left⟩

theorem native_of_declares (steadied : P.Steadied (P.Consistent [])) (placed : P.Placed)
    (clean : P.NoQuotedRecord) {file : Path} (exported : f ∈ (P.source file).exportedFunctions)
    (declares : Declares P f handle) : Native P handle := by
  have signed {signature : Signature} (signed : Answers (P.signature f) signature) :
      (∀ p ∈ signature.parameters, Native P p.handle) ∧ Native P signature.result := by
    obtain ⟨d, answered⟩ := signed
    have blank : P.Consistent [] {} := Program.consistent_of_blank rfl
    have consistent :=
      (Program.answers_of_returns (Program.uniform_signature steadied f) blank answered).2
    have genuine := (CheckState.genuine_of_blank rfl).signature answered
    obtain ⟨⟨parameters, result⟩, _⟩ := Program.settles_signature .spelled f _ _ _ answered
    obtain ⟨parameters', result'⟩ := Program.agree_signature placed clean exported _ _ _ _ _ _
      answered answered (.refl d) (.refl d)
    exact ⟨fun p member => ⟨parameters p member, d, consistent, genuine,
      (List.forall₂_same.mp parameters' p member).left⟩, result, d, consistent, genuine, result'.left⟩
  cases declares with
  | parameter answers declared _ => exact (signed answers).1 _ declared
  | result answers => exact (signed answers).2

theorem Meets.native (steadied : P.Steadied (P.Consistent [])) (placed : P.Placed)
    (clean : P.NoQuotedRecord) {file : Path}
    (exported : ∀ f ∈ fs, f ∈ (P.source file).exportedFunctions) (met : Meets P fs handle) :
    Native P handle := by
  induction met with
  | declared member declares =>
    exact native_of_declares steadied placed clean (exported _ member) declares
  | further _ yields ih =>
    obtain ⟨shown, seen, held⟩ := yields
    exact (ih.views steadied placed clean seen).part steadied placed clean held

theorem Native.kin (placed : P.Placed) {a b : Handle} (native : Native P a) (native' : Native P b)
    (same : a.identity = b.identity) : ∃ z, Kin P z a b := by
  obtain ⟨_, z, consistent, _, sourced⟩ := native
  obtain ⟨_, z', consistent', _, sourced'⟩ := native'
  exact ⟨z.merge z', same, sourced.later (consistent.grows_merge_left consistent'),
    sourced'.later (consistent.grows_merge_right placed consistent')⟩

/-- No record is written in a hint: not in a text that is a hint, and not among what is seen of the
handles or what that mentions, whose records all have names of their own. -/
structure NoInlineRecord (P : Program) (M : Handle → Prop) : Prop where
  quoted : P.NoQuotedRecord
  named : ∀ handle shown, M handle → Views P handle shown → shown.ownNames = true

/-- Records that are seen under one name are of one type. -/
def NoConflict (P : Program) (M : Handle → Prop) : Prop :=
  ∀ handle shown other shown' name, M handle → Views P handle shown → M other →
    Views P other shown' → Names P shown name → Names P shown' name →
    shown.identity = shown'.identity

theorem territory_meets (steadied : P.Steadied (P.Consistent [])) (placed : P.Placed) {file : Path}
    (exported : ∀ f ∈ fs, f ∈ (P.source file).exportedFunctions)
    (named : NoInlineRecord P (Meets P fs)) (apart : NoConflict P (Meets P fs)) :
    Territory P (Meets P fs) where
  further _ _ met yields := .further met yields
  steady handle shown met seen record path path' :=
    have native := (met.native steadied placed named.quoted exported).views steadied placed
      named.quoted seen
    nameAt?_steady native.1 (isNamed_of_ownNames record (named.named handle shown met seen)) path path'
  apart handle shown other shown' name met seen met' seen' known known' := by
    have native := (met.native steadied placed named.quoted exported).views steadied placed
      named.quoted seen
    have native' := (met'.native steadied placed named.quoted exported).views steadied placed
      named.quoted seen'
    obtain ⟨z, kin⟩ := native.kin placed native'
      (apart handle shown other shown' name met seen met' seen' known known')
    exact eq_of_nameAt? placed kin known.1 known'.1 native.1 native'.1
      (named.named handle shown met seen) (named.named other shown' met' seen') (known.2 [])
      (known'.2 [])

theorem displayable_meets (named : NoInlineRecord P (Meets P fs)) : Displayable P (Meets P fs) :=
  fun handle shown met seen => shown.display_of_ownNames (named.named handle shown met seen)

end Derivation

end HintSchema

import HintSchema.Proofs.Hints.Applied
import HintSchema.Proofs.Hints.Kin

/-!
Where a value is admitted to be missing: nowhere in a handle that a hint comes to
(`Formation.given`), so it is only a field or a parameter that may be left out which brings it in.
-/

namespace HintSchema

theorem Formation.and {I J : Handle → Prop} (first : Formation I) (second : Formation J) :
    Formation fun h => I h ∧ J h where
  intrinsic kind given := ⟨first.intrinsic kind given, second.intrinsic kind given⟩
  void text := ⟨first.void text, second.void text⟩
  union members some each := ⟨first.union members some fun h member => (each h member).1,
    second.union members some fun h member => (each h member).2⟩
  list name form element each := ⟨first.list name form element each.1,
    second.list name form element each.2⟩
  awaitable name arguments each :=
    ⟨first.awaitable name arguments fun h member => (each h member).1,
      second.awaitable name arguments fun h member => (each h member).2⟩
  classObject symbol arguments each :=
    ⟨first.classObject symbol arguments fun h member => (each h member).1,
      second.classObject symbol arguments fun h member => (each h member).2⟩
  record symbol source arguments each :=
    ⟨first.record symbol source arguments fun h member => (each h member).1,
      second.record symbol source arguments fun h member => (each h member).2⟩
  renamed symbol source arguments name anonymous whole :=
    ⟨first.renamed symbol source arguments name anonymous whole.1,
      second.renamed symbol source arguments name anonymous whole.2⟩
  typeParameter name := ⟨first.typeParameter name, second.typeParameter name⟩
  unsupported text := ⟨first.unsupported text, second.unsupported text⟩
  deferred target arguments each :=
    ⟨first.deferred target arguments fun h member => (each h member).1,
      second.deferred target arguments fun h member => (each h member).2⟩

namespace Handle

variable {h part : Handle} {members : List Handle} {kind : Intrinsic}

/-! ### The alternatives of a union -/

theorem exists_mem_distinctFrom {seen : List Identity} (member : h ∈ members)
    (new : h.identity ∉ seen) : ∃ part ∈ distinctFrom seen members, part.identity = h.identity := by
  induction members generalizing seen with
  | nil => cases member
  | cons first rest ih =>
    rw [distinctFrom]
    by_cases same : h.identity = first.identity
    · rw [if_neg (by rwa [← same, List.contains_iff_mem])]
      exact ⟨first, List.mem_cons_self, same.symm⟩
    · have later : h ∈ rest := List.mem_of_ne_of_mem (fun equal => same (congrArg _ equal)) member
      split
      · exact ih later new
      · obtain ⟨part, inside, equal⟩ := ih later (List.not_mem_cons_of_ne_of_not_mem same new)
        exact ⟨part, List.mem_cons_of_mem _ inside, equal⟩

/-- Of each type that is an alternative of a member of a union, some spelling is an alternative of
the union, and no other type is. -/
theorem exists_mem_unionOf_iff (flat : ∀ h ∈ members, h.Flat) (i : Identity) :
    (∃ part ∈ (unionOf members).alternatives, part.identity = i) ↔
      ∃ h ∈ members, ∃ part ∈ h.alternatives, part.identity = i := by
  rw [alternatives_unionOf fun h member part inside =>
    ((flat h member).of_mem_alternatives inside).1]
  constructor
  · rintro ⟨part, inside, same⟩
    obtain ⟨h, member, inside⟩ := List.mem_flatMap.mp (mem_of_mem_distinctFrom inside)
    exact ⟨h, member, part, inside, same⟩
  · rintro ⟨h, member, part, inside, rfl⟩
    exact exists_mem_distinctFrom (List.mem_flatMap.mpr ⟨h, member, inside⟩) List.not_mem_nil

theorem eq_intrinsic_iff : h = .intrinsic kind ↔ h.identity = .intrinsic kind := by
  cases h <;> simp [identity]

theorem intrinsic_mem_unionOf_iff (flat : ∀ h ∈ members, h.Flat) :
    .intrinsic kind ∈ (unionOf members).alternatives ↔
      ∃ h ∈ members, .intrinsic kind ∈ h.alternatives := by
  have spelled (handles : List Handle) : .intrinsic kind ∈ handles ↔
      ∃ part ∈ handles, part.identity = .intrinsic kind := by
    simp only [← eq_intrinsic_iff, exists_eq_right]
  simp only [spelled]
  exact exists_mem_unionOf_iff flat _

/-! ### Missing values -/

/-- Nowhere in the handle is a value admitted to be missing. -/
inductive Present : Handle → Prop
  | intrinsic {kind : Intrinsic} (given : kind ≠ .missing) : Present (.intrinsic kind)
  | void (text : String) : Present (.void text)
  | union {members : List Handle} (parts : ∀ h ∈ members, Present h) : Present (.union members)
  | list {name : String} {element : Handle} (inner : Present element) :
      Present (.list name element)
  | awaitable {name : String} {arguments : List Handle} (parts : ∀ h ∈ arguments, Present h) :
      Present (.awaitable name arguments)
  | classObject {symbol : Symbol} {arguments : List Handle} (parts : ∀ h ∈ arguments, Present h) :
      Present (.classObject symbol arguments)
  | record {symbol : Symbol} {source : RecordSource} {arguments : List Handle}
      {aliasName : Option String} (parts : ∀ h ∈ arguments, Present h) :
      Present (.record symbol source arguments aliasName)
  | typeParameter (name : String) : Present (.typeParameter name)
  | unsupported (text : String) (symbol : Option Symbol) : Present (.unsupported text symbol)
  | deferred {target : AliasRef} {arguments : List Handle} (parts : ∀ h ∈ arguments, Present h) :
      Present (.deferred target arguments)

namespace Present

theorem ne_missing (present : h.Present) : h ≠ .missing := by
  rintro rfl
  cases present with
  | intrinsic given => exact given rfl

theorem of_mem_alternatives (present : h.Present) (member : part ∈ h.alternatives) :
    part.Present := by
  cases present with
  | union parts => exact parts part member
  | _ =>
    cases List.mem_singleton.mp member
    constructor <;> assumption

theorem unionOf (present : ∀ h ∈ members, h.Present) : (Handle.unionOf members).Present :=
  unionOf_of_alternatives (fun h member _ part => (present h member).of_mem_alternatives part)
    (fun _ each => each) fun _ each => .union each

theorem arguments (present : h.Present) : ∀ part ∈ h.arguments, part.Present := by
  cases present with
  | list inner => exact List.forall_mem_singleton.mpr inner
  | awaitable parts | classObject parts | record parts | deferred parts => exact parts
  | _ => exact List.forall_mem_nil _

end Present

/-- A type of values that are given: its unions are flat, and it admits no missing value. -/
def Given (h : Handle) : Prop := h.Flat ∧ h.Present

/-- A missing value is admitted by the handle as a whole, if at all, and not by what is inside. -/
structure MissingAtTop (h : Handle) : Prop where
  flat : h.Flat
  present : ∀ part ∈ h.alternatives, part = .missing ∨ part.Present

theorem Given.missing_not_mem (given : h.Given) : .missing ∉ h.alternatives :=
  fun member => (given.2.of_mem_alternatives member).ne_missing rfl

theorem Given.arguments (given : h.Given) : ∀ part ∈ h.arguments, part.Given :=
  fun part member => ⟨given.1.arguments part member, given.2.arguments part member⟩

theorem Given.missingAtTop (given : h.Given) : h.MissingAtTop :=
  ⟨given.1, fun _ member => .inr (given.2.of_mem_alternatives member)⟩

theorem Given.orMissing (given : h.Given) :
    (unionOf [h, .missing]).MissingAtTop ∧ .missing ∈ (unionOf [h, .missing]).alternatives := by
  have flat : ∀ member ∈ [h, .missing], member.Flat :=
    List.forall_mem_cons.mpr ⟨given.1, List.forall_mem_singleton.mpr (.intrinsic _)⟩
  refine ⟨⟨.unionOf flat, ?_⟩, ?_⟩
  · have parts : ∀ member ∈ [h, .missing], ∀ part ∈ member.alternatives,
        part = .missing ∨ part.Present :=
      List.forall_mem_cons.mpr ⟨given.missingAtTop.present,
        List.forall_mem_singleton.mpr (List.forall_mem_singleton.mpr (.inl rfl))⟩
    rw [alternatives_unionOf fun h member part inside =>
      ((flat h member).of_mem_alternatives inside).1]
    intro part inside
    obtain ⟨member, listed, inside⟩ := List.mem_flatMap.mp (mem_of_mem_distinctFrom inside)
    exact parts member listed part inside
  · exact (intrinsic_mem_unionOf_iff flat).mpr
      ⟨.missing, List.mem_cons_of_mem _ List.mem_cons_self, List.mem_cons_self⟩

namespace MissingAtTop

theorem arguments (top : h.MissingAtTop) : ∀ part ∈ h.arguments, part.Given := by
  intro part member
  refine ⟨top.flat.arguments part member, ?_⟩
  have whole : h.alternatives = [h] := by
    cases h with
    | union => cases member
    | _ => rfl
  rcases top.present h (by simp [whole]) with rfl | present
  · cases member
  · exact present.arguments part member

theorem of_mem_alternatives (top : h.MissingAtTop) (member : part ∈ h.alternatives) :
    part.MissingAtTop := by
  obtain ⟨single, flat⟩ := top.flat.of_mem_alternatives member
  refine ⟨flat, ?_⟩
  rw [alternatives_of_single single]
  exact List.forall_mem_singleton.mpr (top.present part member)

end MissingAtTop

end Handle

theorem Formation.present : Formation Handle.Present where
  intrinsic _ given := .intrinsic given
  void := .void
  union _ _ := .unionOf
  list _ _ _ := .list
  awaitable _ _ := .awaitable
  classObject _ _ := .classObject
  record _ _ _ := .record
  renamed _ _ _ _ _ present := .record present.arguments
  typeParameter := .typeParameter
  unsupported text := .unsupported text none
  deferred _ _ := .deferred

theorem Formation.given : Formation Handle.Given := Formation.flat.and .present

namespace Program

theorem settles_apparent_missingAtTop (P : Program) {h : Handle} (top : h.MissingAtTop) :
    Settles P (P.apparent h) Handle.MissingAtTop := by
  unfold apparent
  split
  · exact (settles_expandAlias Formation.given.toShaping
      (fun scope known => settles_resolveAmong .given _ known _) top.arguments).mono fun _ => Handle.Given.missingAtTop
  · exact .pure top

theorem settles_apparent_missing (P : Program) {h : Handle} (top : h.MissingAtTop) :
    Settles P (P.apparent h) fun shown =>
      .missing ∈ shown.alternatives ↔ .missing ∈ h.alternatives := by
  unfold apparent
  split
  · refine (settles_expandAlias Formation.given.toShaping
      (fun scope known => settles_resolveAmong .given _ known _) top.arguments).mono fun shown given => iff_of_false given.missing_not_mem fun member => ?_
    cases List.mem_singleton.mp member
  · exact .pure .rfl

theorem settles_typedParameter_given (P : Program) (file : Path) (parameter : Parameter) :
    Settles P (P.typedParameter file parameter) fun p => p.handle.MissingAtTop ∧
      (.missing ∈ p.handle.alternatives ↔ parameter.default.isSome) := by
  unfold typedParameter
  apply (settles_resolve .given file (List.forall_mem_nil _) parameter.hint).bind
  intro h given
  apply Settles.pure
  dsimp only
  split
  · rename_i default
    obtain ⟨top, missing⟩ := given.orMissing
    exact ⟨top, iff_of_true missing default⟩
  · rename_i none
    exact ⟨given.missingAtTop, iff_of_false given.missing_not_mem none⟩

theorem settles_signature_given (P : Program) (f : Function) :
    Settles P (P.signature f) fun s => (∀ p ∈ s.parameters, p.handle.MissingAtTop) ∧
      s.result.Given := by
  unfold signature
  apply (Settles.mapM (R := fun p => p.handle.MissingAtTop) fun p _ =>
    (settles_typedParameter_given P f.file p).mono fun _ formed => formed.1).bind
  intro parameters formed
  apply (settles_resultHandle .given f.file _).bind
  intro result given
  apply Settles.pure
  refine ⟨formed, ?_⟩
  dsimp only
  split
  · exact Formation.given.awaitable _ _ (List.forall_mem_singleton.mpr given)
  · exact given

end Program

end HintSchema

import HintSchema.Proofs.Hints.Realm
import HintSchema.Proofs.Hints.Shown

/-!
The qualifiers around the type of a field. What says whether a value is required may stand in other
qualifiers, and in quotes; the innermost decides (`required_of_peel`).
-/

namespace HintSchema

theorem CodeText.Quotes.unique {text : CodeText} {inner other : Expr} (quotes : text.Quotes inner)
    (again : text.Quotes other) : other = inner := by
  obtain ⟨chars, held, parsed⟩ := quotes
  obtain ⟨chars', held', parsed'⟩ := again
  obtain rfl := Option.some.inj (held.symm.trans held')
  exact Option.some.inj (parsed'.symm.trans parsed)

def SpecialForm.required? (qualname : String) : Option Bool :=
  match qualname with
  | "typing.Required" => some true
  | "typing.NotRequired" => some false
  | _ => none

namespace Program

variable {P : Program} {file : Path} {hint inner part : Expr} {default required : Bool}

open Relation (ReflTransGen TransGen)

/-- The hint is a qualifier that says whether a value is required. -/
inductive Says (P : Program) (file : Path) : Expr → Bool → Prop
  | mk {pos : Position} {value index : Expr} {qualname : String} {required : Bool}
      (found : (P.lookupExpr file value).1 = .ok (.special qualname))
      (qualifies : SpecialForm.required? qualname = some required) :
      Says P file (.subscript pos value index) required

/-- Neither the hint nor anything that is left when qualifiers and quotes are taken off says whether
a value is required. -/
def Unqualified (P : Program) (file : Path) (hint : Expr) : Prop :=
  ∀ part, ReflTransGen (P.Peels file) hint part → ∀ required, ¬ P.Says file part required

/-- The innermost that says whether a value is required says so. -/
def Decides (P : Program) (file : Path) (hint : Expr) (required : Bool) : Prop :=
  ∃ part, ReflTransGen (P.Peels file) hint part ∧ P.Says file part required ∧
    ∀ lower, TransGen (P.Peels file) part lower → ∀ other, ¬ P.Says file lower other

/-- A field with the hint requires a value: by the innermost that says so, or by default. -/
def Requires (P : Program) (file : Path) (default : Bool) (hint : Expr) : Prop :=
  P.Decides file hint true ∨ default = true ∧ P.Unqualified file hint

theorem Says.unique {other : Bool} (told : P.Says file hint required)
    (again : P.Says file hint other) : other = required := by
  obtain ⟨found, qualifies⟩ := told
  obtain ⟨found', qualifies'⟩ := again
  obtain rfl := Binding.special.inj (Except.ok.inj (found.symm.trans found'))
  exact Option.some.inj (qualifies'.symm.trans qualifies)

theorem Peels.unique {other : Expr} (peels : P.Peels file hint inner)
    (again : P.Peels file hint other) : other = inner := by
  cases peels with
  | text quotes => cases again with
    | text quotes' => exact quotes.unique quotes'
  | qualifier _ _ parts => cases again with
    | qualifier _ _ parts' => exact (List.cons.inj (parts'.symm.trans parts)).1

theorem Peels.transGen_iff (peels : P.Peels file hint inner) :
    TransGen (P.Peels file) hint part ↔ ReflTransGen (P.Peels file) inner part := by
  rw [TransGen.head'_iff]
  constructor
  · rintro ⟨other, first, rest⟩
    rwa [← peels.unique first]
  · exact fun rest => ⟨inner, peels, rest⟩

theorem Peels.unqualified_iff (peels : P.Peels file hint inner) :
    P.Unqualified file hint ↔
      (∀ required, ¬ P.Says file hint required) ∧ P.Unqualified file inner := by
  constructor
  · exact fun silent => ⟨silent hint .refl, fun part rest => silent part (.head peels rest)⟩
  · rintro ⟨own, silent⟩ part reached
    rcases Relation.reflTransGen_iff_eq_or_transGen.mp reached with rfl | further
    · exact own
    · exact silent part (peels.transGen_iff.mp further)

theorem Peels.decides_iff (peels : P.Peels file hint inner) :
    P.Decides file hint required ↔
      P.Decides file inner required ∨ P.Says file hint required ∧ P.Unqualified file inner := by
  constructor
  · rintro ⟨part, reached, told, last⟩
    rcases Relation.reflTransGen_iff_eq_or_transGen.mp reached with rfl | further
    · exact .inr ⟨told, fun lower below => last lower (peels.transGen_iff.mpr below)⟩
    · exact .inl ⟨part, peels.transGen_iff.mp further, told, last⟩
  · rintro (⟨part, reached, told, last⟩ | ⟨told, silent⟩)
    · exact ⟨part, .head peels reached, told, last⟩
    · exact ⟨hint, .refl, told, fun lower below => silent lower (peels.transGen_iff.mp below)⟩

theorem requires_of_told (told : P.Says file hint required) (peels : P.Peels file hint inner) :
    P.Requires file default hint ↔ P.Requires file required inner := by
  unfold Requires
  rw [peels.decides_iff, peels.unqualified_iff]
  constructor
  · rintro ((decides | ⟨again, silent⟩) | ⟨_, none, _⟩)
    · exact .inl decides
    · exact .inr ⟨(told.unique again).symm, silent⟩
    · exact absurd told (none required)
  · rintro (decides | ⟨rfl, silent⟩)
    · exact .inl (.inl decides)
    · exact .inl (.inr ⟨told, silent⟩)

theorem requires_of_peels (none : ∀ required, ¬ P.Says file hint required)
    (peels : P.Peels file hint inner) :
    P.Requires file default hint ↔ P.Requires file default inner := by
  unfold Requires
  rw [peels.decides_iff, peels.unqualified_iff, and_iff_right none]
  refine or_congr_left (or_iff_left fun both => none true both.1)

theorem requires_of_plain (none : ∀ required, ¬ P.Says file hint required)
    (last : ∀ inner, ¬ P.Peels file hint inner) :
    P.Requires file default hint ↔ default = true := by
  have only {part : Expr} (reached : ReflTransGen (P.Peels file) hint part) : part = hint := by
    rcases ReflTransGen.cases_head reached with rfl | ⟨inner, peels, _⟩
    · rfl
    · exact absurd peels (last inner)
  constructor
  · rintro (⟨part, reached, told, _⟩ | ⟨required, _⟩)
    · rw [only reached] at told
      exact absurd told (none true)
    · exact required
  · refine fun required => .inr ⟨required, fun part reached => ?_⟩
    rw [only reached]
    exact none

/-! ### Taking qualifiers off -/

theorem requiredInside?_cases {qualname : String}
    (qualifies : requiredInside? qualname default = some required) :
    SpecialForm.required? qualname = some required ∨
      SpecialForm.required? qualname = none ∧ required = default := by
  unfold requiredInside? at qualifies
  split at qualifies
  · exact .inl qualifies
  · exact .inl qualifies
  all_goals first
    | exact .inr ⟨rfl, (Option.some.inj qualifies).symm⟩
    | cases qualifies

theorem requiredInside?_none {qualname : String} (plain : requiredInside? qualname default = none) :
    SpecialForm.required? qualname = none ∧ ∀ other, requiredInside? qualname other = none := by
  unfold requiredInside? at plain
  split at plain
  any_goals cases plain
  constructor
  · unfold SpecialForm.required?
    split <;> first | contradiction | rfl
  · intro other
    unfold requiredInside?
    split <;> first | contradiction | rfl

theorem requires_of_qualifier {pos : Position} {value index first : Expr} {rest : List Expr}
    {qualname : String} (found : (P.lookupExpr file value).1 = .ok (.special qualname))
    (parts : index.indices = first :: rest)
    (qualifies : requiredInside? qualname default = some required) :
    P.Requires file default (.subscript pos value index) ↔ P.Requires file required first := by
  have peels : P.Peels file (.subscript pos value index) first :=
    .qualifier found (Realm.Closed.requiredInside?_isSome qualifies) parts
  rcases requiredInside?_cases qualifies with told | ⟨silent, rfl⟩
  · exact requires_of_told (.mk found told) peels
  · refine requires_of_peels ?_ peels
    rintro other ⟨found', told⟩
    obtain rfl := Binding.special.inj (Except.ok.inj (found.symm.trans found'))
    cases silent.symm.trans told

theorem requires_of_other {pos : Position} {value index : Expr} {found : Binding}
    (looked : (P.lookupExpr file value).1 = .ok found)
    (other : ∀ qualname, found = .special qualname → requiredInside? qualname default = none) :
    P.Requires file default (.subscript pos value index) ↔ default = true := by
  have plain {qualname : String} (again : (P.lookupExpr file value).1 = .ok (.special qualname)) :=
    requiredInside?_none (other qualname (Except.ok.inj (looked.symm.trans again)))
  refine requires_of_plain ?_ ?_
  · rintro required ⟨again, told⟩
    cases (plain again).1.symm.trans told
  · rintro inner (_ | ⟨again, qualifies, _⟩)
    rw [(plain again).2] at qualifies
    cases qualifies

def ReadsRequired (P : Program) (file : Path)
    (quoted : Bool → CodeText → CheckM (Option (Expr × Bool))) (text : CodeText) : Prop :=
  ∀ required c found d, Returns (quoted required text) c found d →
    (found = none ∧ ∀ inner, ¬ text.Quotes inner) ∨
      ∃ peeled inner, found = some peeled ∧ text.Quotes inner ∧
        (peeled.2 = true ↔ P.Requires file required inner)

theorem required_of_peelExpr {quoted : Bool → CodeText → CheckM (Option (Expr × Bool))}
    (read : ∀ pos text marked, .literal pos (.text text marked) ∈ hint.parts →
      P.ReadsRequired file quoted text) {peeled : Expr × Bool} {c d : CheckState}
    (returned : Returns (P.peelExpr quoted file default hint) c peeled d) :
    peeled.2 = true ↔ P.Requires file default hint := by
  generalize bound : sizeOf hint = size
  induction size using Nat.strongRecOn generalizing hint default c with
  | ind size ih =>
    subst bound
    cases hint with
    | literal pos value =>
      cases value with
      | text text marked =>
        rw [peelExpr, returns_bind_iff] at returned
        obtain ⟨found, m, asked, returned⟩ := returned
        rcases read pos text marked (Expr.mem_parts_self _) default c found m asked with
          ⟨rfl, none⟩ | ⟨peeled', inner, rfl, quotes, required⟩
        · obtain ⟨rfl, rfl⟩ := (returns_pure_iff _ _).mp returned
          refine (requires_of_plain (fun _ told => by cases told) ?_).symm
          rintro inner ⟨quotes⟩
          exact none inner quotes
        · obtain ⟨rfl, rfl⟩ := (returns_pure_iff _ _).mp returned
          rw [required, requires_of_peels (fun _ told => by cases told) (.text quotes)]
      | _ =>
        rw [peelExpr.eq_def] at returned
        obtain ⟨rfl, rfl⟩ := (returns_pure_iff _ _).mp returned
        exact (requires_of_plain (fun _ told => by cases told) fun _ peels => by cases peels).symm
    | subscript pos value index =>
      rw [peelExpr_subscript, returns_bind_iff] at returned
      obtain ⟨found, m, asked, returned⟩ := returned
      obtain ⟨looked, _⟩ := returns_find_iff.mp asked
      cases found with
      | special qualname =>
        dsimp only at returned
        cases parts : index.indices with
        | nil =>
          rw [parts] at returned
          cases (returns_throw_iff _ _).mp returned
        | cons first rest =>
          rw [parts] at returned
          dsimp only at returned
          cases qualifies : requiredInside? qualname default with
          | some required =>
            rw [qualifies] at returned
            have member : first ∈ index.indices := by simp [parts]
            have part_le := Expr.sizeOf_le_of_mem_indices member
            have smaller := Expr.subscript.sizeOf_spec pos value index
            have below : first.parts ⊆ (Expr.subscript pos value index).parts :=
              Expr.parts_of_mem_indices member
            rw [requires_of_qualifier looked parts qualifies]
            exact ih (sizeOf first) (by omega)
              (fun pos text marked inside => read pos text marked (below inside)) returned rfl
          | none =>
            rw [qualifies] at returned
            obtain ⟨rfl, rfl⟩ := (returns_pure_iff _ _).mp returned
            refine (requires_of_other looked ?_).symm
            rintro _ ⟨⟩
            exact qualifies
      | _ =>
        obtain ⟨rfl, rfl⟩ := (returns_pure_iff _ _).mp returned
        exact (requires_of_other looked fun _ same => by cases same).symm
    | _ =>
      rw [peelExpr.eq_def] at returned
      obtain ⟨rfl, rfl⟩ := (returns_pure_iff _ _).mp returned
      exact (requires_of_plain (fun _ told => by cases told) fun _ peels => by cases peels).symm

theorem required_of_peel {limit : Nat} (below : hint.TextsBelow limit) {peeled : Expr × Bool}
    {c d : CheckState} (returned : Returns (P.peel file limit default hint) c peeled d) :
    peeled.2 = true ↔ P.Requires file default hint := by
  induction limit using Nat.strongRecOn generalizing hint default peeled c d with
  | ind limit ih =>
    rw [peel] at returned
    refine required_of_peelExpr (fun pos text marked inside required c found d asked => ?_) returned
    have shorter := below pos text marked inside
    rw [dif_pos shorter, returns_bind_iff] at asked
    obtain ⟨read, m, read_text, asked⟩ := asked
    have quotes := Expr.quotes_iff_of_returns read_text
    cases read with
    | none =>
      obtain ⟨rfl, rfl⟩ := (returns_pure_iff _ _).mp asked
      exact .inl ⟨rfl, fun inner quoted => by cases (quotes inner).mpr quoted⟩
    | some inner =>
      obtain ⟨peeled, inside, rfl⟩ := (returns_map_iff ..).mp asked
      have quoted := (quotes inner).mp rfl
      exact .inr ⟨peeled, inner, rfl, quoted, ih _ shorter quoted.textsBelow inside⟩

end Program

end HintSchema

import HintSchema.Proofs.Hints.Parameters

/-!
Hints that admit `None`: by themselves, as an alternative of a union, or through an alias under its
arguments. That depends on the order in which aliases take their arguments, but only on that of the
aliases which the hint involves (`AdmitsNone.reorder`).
-/

namespace HintSchema

namespace SpecialForm

/-- The arguments of a special form that are alternatives of it. -/
def alternatives {α : Type} (qualname : String) (arguments : List α) : List α :=
  match qualname with
  | "typing.Union" => arguments
  | "typing.Optional" | "typing.Annotated" | "typing.Required" | "typing.NotRequired"
  | "typing.ReadOnly" => arguments.take 1
  | _ => []

theorem alternatives_map {α β : Type} (qualname : String) (f : α → β) (arguments : List α) :
    alternatives qualname (arguments.map f) = (alternatives qualname arguments).map f := by
  unfold alternatives
  split <;> simp

theorem alternatives_subset {α : Type} (qualname : String) (arguments : List α) :
    alternatives qualname arguments ⊆ arguments := by
  unfold alternatives
  split
  · exact List.Subset.refl _
  all_goals first | exact List.take_subset _ _ | exact List.nil_subset _

def choosing : List String := "typing.Union" :: "typing.Optional" :: wrappers

theorem alternatives_of_not_mem {α : Type} {qualname : String} (other : qualname ∉ choosing)
    (arguments : List α) : alternatives qualname arguments = [] := by
  unfold alternatives
  split <;> first | rfl | simp [choosing, wrappers] at other

theorem alternatives_of_wrapper {α : Type} {qualname : String} (wraps : qualname ∈ wrappers)
    (arguments : List α) : alternatives qualname arguments = arguments.take 1 := by
  simp only [wrappers, List.mem_cons, List.not_mem_nil, or_false] at wraps
  rcases wraps with rfl | rfl | rfl | rfl <;> rfl

end SpecialForm

namespace Expr

def refers : Expr → Bool
  | name _ _ | member _ _ _ | subscript _ _ _ => true
  | _ => false

def spelling? (e : Expr) : Option String := e.dotted?.or e.source?.toOption

end Expr

namespace Program

variable {P : Program} {α : Type} {file : Path} {order : AliasRef → List String}

/-- The expression is a type variable that stands for this in the scope. What is bound nowhere is
looked up as it is written. -/
inductive StandsIn (P : Program) (file : Path) (scope : List (String × α)) : Expr → α → Prop
  | name {pos : Position} {id : String} {a : α} (found : scope.lookup id = some a) :
      StandsIn P file scope (.name pos id) a
  | declared {e : Expr} {name : String} {a : α}
      (stands : P.StandsFor file (Pairs.keys scope) e (.typeVariable name))
      (found : scope.lookup name = some a) : StandsIn P file scope e a
  | unbound {e : Expr} {message name : String} {a : α} (reference : e.refers)
      (stands : P.StandsFor file (Pairs.keys scope) e (.unresolved message))
      (spelled : e.spelling? = some name) (found : scope.lookup name = some a) :
      StandsIn P file scope e a

/-- `None` is a member of the hint when aliases are expanded and unions are flattened. The scope
says which type variables stand for hints of which it is a member, and `order` in which order an
alias takes its arguments. -/
inductive AdmitsNone (P : Program) (order : AliasRef → List String) :
    Path → List (String × Prop) → Expr → Prop
  | none {file : Path} {scope : List (String × Prop)} {pos : Position} :
      AdmitsNone P order file scope (.literal pos .none)
  | text {file : Path} {scope : List (String × Prop)} {pos : Position} {text : CodeText}
      {marked : Bool} {inner : Expr} (quotes : text.Quotes inner)
      (inside : AdmitsNone P order file scope inner) :
      AdmitsNone P order file scope (.literal pos (.text text marked))
  | left {file : Path} {scope : List (String × Prop)} {pos : Position} {left right : Expr}
      (inside : AdmitsNone P order file scope left) :
      AdmitsNone P order file scope (.binary pos .bitOr left right)
  | right {file : Path} {scope : List (String × Prop)} {pos : Position} {left right : Expr}
      (inside : AdmitsNone P order file scope right) :
      AdmitsNone P order file scope (.binary pos .bitOr left right)
  | typeVariable {file : Path} {scope : List (String × Prop)} {e : Expr} {p : Prop}
      (stands : P.StandsIn file scope e p) (holds : p) : AdmitsNone P order file scope e
  | optional {file : Path} {scope : List (String × Prop)} {e : Expr}
      (stands : P.StandsFor file (Pairs.keys scope) e (.special "typing.Optional"))
      (applied : e.bracketed ≠ []) : AdmitsNone P order file scope e
  | part {file : Path} {scope : List (String × Prop)} {e part : Expr} {qualname : String}
      (stands : P.StandsFor file (Pairs.keys scope) e (.special qualname))
      (member : part ∈ SpecialForm.alternatives qualname e.bracketed)
      (inside : AdmitsNone P order file scope part) : AdmitsNone P order file scope e
  | expanded {file : Path} {scope : List (String × Prop)} {e value : Expr} {key : NameKey}
      {admitted : List Prop}
      (stands : P.StandsFor file (Pairs.keys scope) e (.alias key value))
      (count : admitted.length = e.bracketed.length)
      (each : ∀ q ∈ admitted.zip e.bracketed, q.1 → AdmitsNone P order file scope q.2)
      (inside : AdmitsNone P order key.file ((order ⟨key, value⟩).zip admitted) value) :
      AdmitsNone P order file scope e

/-! ### Scopes -/

/-- Under each name the second scope stands for what the first one does, or for more. -/
def Widens (scope wider : List (String × Prop)) : Prop :=
  List.Forall₂ (fun v w => v.1 = w.1 ∧ (v.2 → w.2)) scope wider

variable {scope wider : List (String × Prop)} {e : Expr} {p : Prop} {name : String}

theorem Widens.keys_eq (widens : Widens scope wider) : Pairs.keys wider = Pairs.keys scope := by
  induction widens with
  | nil => rfl
  | cons first _ ih => exact congrArg₂ List.cons first.1.symm ih

theorem Widens.lookup (widens : Widens scope wider) (found : scope.lookup name = some p) :
    ∃ q, wider.lookup name = some q ∧ (p → q) := by
  induction widens with
  | nil => cases found
  | @cons v w _ _ first _ ih =>
    rw [List.lookup_cons] at found ⊢
    rw [← first.1]
    split at found
    · cases found
      exact ⟨w.2, rfl, first.2⟩
    · exact ih found

theorem Widens.zip (names : List String) {admitted more : List Prop}
    (each : List.Forall₂ (fun p q => p → q) admitted more) :
    Widens (names.zip admitted) (names.zip more) := by
  induction each generalizing names with
  | nil => simp [Widens]
  | cons first _ ih =>
    cases names with
    | nil => exact .nil
    | cons name names => exact .cons ⟨rfl, first⟩ (ih names)

theorem StandsIn.widen (stands : P.StandsIn file scope e p) (widens : Widens scope wider) :
    ∃ q, P.StandsIn file wider e q ∧ (p → q) := by
  cases stands with
  | name found =>
    obtain ⟨q, found, implied⟩ := widens.lookup found
    exact ⟨q, .name found, implied⟩
  | declared stands found =>
    obtain ⟨q, found, implied⟩ := widens.lookup found
    exact ⟨q, .declared (widens.keys_eq ▸ stands) found, implied⟩
  | unbound reference stands spelled found =>
    obtain ⟨q, found, implied⟩ := widens.lookup found
    exact ⟨q, .unbound reference (widens.keys_eq ▸ stands) spelled found, implied⟩

theorem AdmitsNone.widen (admits : P.AdmitsNone order file scope e) (widens : Widens scope wider) :
    P.AdmitsNone order file wider e := by
  induction admits generalizing wider with
  | none => exact .none
  | text quotes _ ih => exact .text quotes (ih widens)
  | left _ ih => exact .left (ih widens)
  | right _ ih => exact .right (ih widens)
  | typeVariable stands holds =>
    obtain ⟨q, stands, implied⟩ := stands.widen widens
    exact .typeVariable stands (implied holds)
  | optional stands applied => exact .optional (widens.keys_eq ▸ stands) applied
  | part stands member _ ih => exact .part (widens.keys_eq ▸ stands) member (ih widens)
  | expanded stands count _ inside each _ =>
    exact .expanded (widens.keys_eq ▸ stands) count
      (fun q member holds => each q member holds widens) inside

/-! ### References -/

variable {found : Binding} {pos : Position}

theorem StandsFor.unresolved (stands : P.StandsFor file (Pairs.keys scope) e found)
    (other : e.refers = false) : ∃ message, found = .unresolved message := by
  obtain ⟨_, looked⟩ := stands
  cases e with
  | name | member | subscript => cases other
  | _ =>
    obtain ⟨text, _, rfl⟩ := Except.map_eq_ok_iff.mp looked
    exact ⟨_, rfl⟩

theorem StandsIn.refers (stands : P.StandsIn file scope e p) : e.refers := by
  cases stands with
  | name => rfl
  | unbound reference => exact reference
  | declared stands =>
    by_contra other
    obtain ⟨_, impossible⟩ := stands.unresolved (eq_false_of_ne_true other)
    cases impossible

theorem AdmitsNone.cases_on (admits : P.AdmitsNone order file scope e) :
    e.refers ∨ (∃ pos, e = .literal pos .none) ∨
      (∃ pos text marked inner, e = .literal pos (.text text marked) ∧ text.Quotes inner ∧
        P.AdmitsNone order file scope inner) ∨
      ∃ pos left right, e = .binary pos .bitOr left right ∧
        (P.AdmitsNone order file scope left ∨ P.AdmitsNone order file scope right) := by
  have reference {found : Binding}
      (stands : P.StandsFor file (Pairs.keys scope) e found)
      (named : ∀ message, found ≠ .unresolved message) : e.refers := by
    by_contra other
    obtain ⟨message, impossible⟩ := stands.unresolved (eq_false_of_ne_true other)
    exact named message impossible
  cases admits with
  | none => exact .inr (.inl ⟨_, rfl⟩)
  | text quotes inside => exact .inr (.inr (.inl ⟨_, _, _, _, rfl, quotes, inside⟩))
  | left inside => exact .inr (.inr (.inr ⟨_, _, _, rfl, .inl inside⟩))
  | right inside => exact .inr (.inr (.inr ⟨_, _, _, rfl, .inr inside⟩))
  | typeVariable stands => exact .inl stands.refers
  | optional stands => exact .inl (reference stands fun _ same => by cases same)
  | part stands => exact .inl (reference stands fun _ same => by cases same)
  | expanded stands => exact .inl (reference stands fun _ same => by cases same)

def AdmitsBy (P : Program) (order : AliasRef → List String) (file : Path)
    (scope : List (String × Prop)) (e : Expr) : Binding → Prop
  | .special qualname => (qualname = "typing.Optional" ∧ e.bracketed ≠ []) ∨
      ∃ part ∈ SpecialForm.alternatives qualname e.bracketed, P.AdmitsNone order file scope part
  | .alias key value => P.AdmitsNone order key.file
      ((order ⟨key, value⟩).zip (e.bracketed.map (P.AdmitsNone order file scope))) value
  | .typeVariable name => ∃ p, scope.lookup name = some p ∧ p
  | .unresolved _ => ∃ name p, e.spelling? = some name ∧ scope.lookup name = some p ∧ p
  | _ => False

theorem forall₂_map_of_zip {α : Type} {f : α → Prop} {admitted : List Prop} {items : List α}
    (count : admitted.length = items.length) (each : ∀ q ∈ admitted.zip items, q.1 → f q.2) :
    List.Forall₂ (fun p q => p → q) admitted (items.map f) := by
  rw [List.forall₂_map_right_iff, List.forall₂_iff_zip]
  exact ⟨count, fun {p item} member => each (p, item) member⟩

theorem admitsNone_iff_of_stands (stands : P.StandsFor file (Pairs.keys scope) e found)
    (reference : e.refers) :
    P.AdmitsNone order file scope e ↔ P.AdmitsBy order file scope e found := by
  have same {other : Binding} (again : P.StandsFor file (Pairs.keys scope) e other) :
      found = other := Except.ok.inj (stands.looked.symm.trans again.looked)
  constructor
  · intro admits
    cases admits with
    | none | text | left | right => cases reference
    | typeVariable held holds =>
      cases held with
      | name held =>
        exact absurd (Pairs.mem_keys_of_lookup held) (stands.free _ _ rfl)
      | declared again held =>
        obtain rfl := same again
        exact ⟨_, held, holds⟩
      | unbound _ again spelled held =>
        obtain rfl := same again
        exact ⟨_, _, spelled, held, holds⟩
    | optional again applied =>
      obtain rfl := same again
      exact .inl ⟨rfl, applied⟩
    | part again member inside =>
      obtain rfl := same again
      exact .inr ⟨_, member, inside⟩
    | expanded again count each inside =>
      obtain rfl := same again
      exact inside.widen (.zip _ (forall₂_map_of_zip count each))
  · intro admits
    cases found with
    | special qualname =>
      rcases admits with ⟨rfl, applied⟩ | ⟨part, member, inside⟩
      · exact .optional stands applied
      · exact .part stands member inside
    | «alias» key value =>
      refine .expanded stands (List.length_map _) (fun q member holds => ?_) admits
      rw [← List.map_prod_right_eq_zip] at member
      obtain ⟨part, _, rfl⟩ := List.mem_map.mp member
      exact holds
    | typeVariable name =>
      obtain ⟨p, held, holds⟩ := admits
      exact .typeVariable (.declared stands held) holds
    | unresolved message =>
      obtain ⟨name, p, spelled, held, holds⟩ := admits
      exact .typeVariable (.unbound reference stands spelled held) holds
    | _ => cases admits

/-! ### The order of arguments -/

/-- The aliases that a hint and the values of its aliases mention. -/
inductive Involves (P : Program) : Path → Expr → AliasRef → Prop
  | text {file : Path} {pos : Position} {text : CodeText} {marked : Bool} {inner : Expr}
      {target : AliasRef} (quotes : text.Quotes inner) (inside : Involves P file inner target) :
      Involves P file (.literal pos (.text text marked)) target
  | left {file : Path} {pos : Position} {left right : Expr} {target : AliasRef}
      (inside : Involves P file left target) :
      Involves P file (.binary pos .bitOr left right) target
  | right {file : Path} {pos : Position} {left right : Expr} {target : AliasRef}
      (inside : Involves P file right target) :
      Involves P file (.binary pos .bitOr left right) target
  | argument {file : Path} {e part : Expr} {target : AliasRef} (member : part ∈ e.bracketed)
      (inside : Involves P file part target) : Involves P file e target
  | itself {file : Path} {e value : Expr} {key : NameKey}
      (looked : (P.lookupExpr file e.base).1 = .ok (.alias key value)) :
      Involves P file e ⟨key, value⟩
  | value {file : Path} {e value : Expr} {key : NameKey} {target : AliasRef}
      (looked : (P.lookupExpr file e.base).1 = .ok (.alias key value))
      (inside : Involves P key.file value target) : Involves P file e target

theorem AdmitsNone.reorder {other : AliasRef → List String}
    (admits : P.AdmitsNone order file scope e)
    (same : ∀ target, P.Involves file e target → order target = other target) :
    P.AdmitsNone other file scope e := by
  induction admits with
  | none => exact .none
  | text quotes _ ih => exact .text quotes (ih fun _ inside => same _ (.text quotes inside))
  | left _ ih => exact .left (ih fun _ inside => same _ (.left inside))
  | right _ ih => exact .right (ih fun _ inside => same _ (.right inside))
  | typeVariable stands holds => exact .typeVariable stands holds
  | optional stands applied => exact .optional stands applied
  | part stands member _ ih =>
    have written := SpecialForm.alternatives_subset _ _ member
    exact .part stands member (ih fun _ inside => same _ (.argument written inside))
  | expanded stands count _ _ each ih =>
    refine .expanded stands count (fun q member holds => ?_) ?_
    · exact each q member holds fun _ inside =>
        same _ (.argument (List.of_mem_zip member).2 inside)
    · rw [← same _ (.itself stands.looked)]
      exact ih fun _ inside => same _ (.value stands.looked inside)

/-- The type variables of an alias, in the order in which they are written. -/
def writtenParameters (P : Program) (target : AliasRef) : List String :=
  P.variablesWritten target.key.file [target.value]

/-- Where the type variables of each alias are found in the order in which they are written, it does
not matter in which order an alias takes its arguments. -/
theorem admitsNone_written_iff
    (ordered : ∀ target, P.Involves file e target →
      P.InOrder target.key.file [target.value] [target.value]) :
    P.AdmitsNone P.writtenParameters file scope e ↔
      P.AdmitsNone P.aliasParameters file scope e := by
  have same (target) (involved : P.Involves file e target) :
      P.aliasParameters target = P.writtenParameters target :=
    found_eq_written_iff.mpr (ordered target involved)
  exact ⟨fun admits => admits.reorder fun target involved => (same target involved).symm,
    fun admits => admits.reorder same⟩

/-! ### A test -/

def findsNone (P : Program) (order : AliasRef → List String) :
    Nat → Path → List (String × Bool) → Expr → Bool
  | 0, _, _, _ => false
  | limit + 1, file, scope, e =>
    let byBinding := match (P.lookupExpr file e.base).1 with
      | .ok (.special qualname) => qualname == "typing.Optional" && !e.bracketed.isEmpty ||
          (SpecialForm.alternatives qualname e.bracketed).any (P.findsNone order limit file scope)
      | .ok (.alias key value) => P.findsNone order limit key.file
          ((order ⟨key, value⟩).zip (e.bracketed.map (P.findsNone order limit file scope))) value
      | _ => false
    match e with
    | .literal _ .none => true
    | .binary _ .bitOr left right =>
      P.findsNone order limit file scope left || P.findsNone order limit file scope right
    | .name _ id => (scope.lookup id).getD byBinding
    | _ => byBinding

def flagged (flags : List (String × Bool)) : List (String × Prop) :=
  flags.map fun v => (v.1, v.2 = true)

theorem keys_flagged (flags : List (String × Bool)) :
    Pairs.keys (flagged flags) = Pairs.keys flags := by
  simp [Pairs.keys, flagged]

theorem flagged_zip (names : List String) (flags : List Bool) :
    flagged (names.zip flags) = names.zip (flags.map fun flag => flag = true) :=
  Pairs.map_snd_zip names (fun flag => flag = true) flags

theorem admitsNone_of_findsNone {limit : Nat} {flags : List (String × Bool)}
    (found : P.findsNone order limit file flags e = true) :
    P.AdmitsNone order file (flagged flags) e := by
  induction limit generalizing file flags e with
  | zero => cases found
  | succ limit ih =>
    -- What a reference stands for decides if it is no name with a meaning of its own.
    have byBinding (free : ∀ pos id, e = .name pos id → flags.lookup id = none)
        (found : (match (P.lookupExpr file e.base).1 with
          | .ok (.special qualname) => qualname == "typing.Optional" && !e.bracketed.isEmpty ||
              (SpecialForm.alternatives qualname e.bracketed).any
                (P.findsNone order limit file flags)
          | .ok (.alias key value) => P.findsNone order limit key.file ((order ⟨key, value⟩).zip
              (e.bracketed.map (P.findsNone order limit file flags))) value
          | _ => false) = true) : P.AdmitsNone order file (flagged flags) e := by
      have stands {b : Binding} (looked : (P.lookupExpr file e.base).1 = .ok b) :
          P.StandsFor file (Pairs.keys (flagged flags)) e b :=
        ⟨fun pos id same => keys_flagged flags ▸ Pairs.lookup_eq_none_iff.mp (free pos id same),
          looked⟩
      split at found
      · rename_i qualname looked
        rcases Bool.or_eq_true_iff.mp found with optional | alternative
        · obtain ⟨named, applied⟩ := Bool.and_eq_true_iff.mp optional
          obtain rfl := beq_iff_eq.mp named
          exact .optional (stands looked) (by simpa using applied)
        · obtain ⟨part, member, found⟩ := List.any_eq_true.mp alternative
          exact .part (stands looked) member (ih found)
      · rename_i key value looked
        have inside := ih found
        rw [flagged_zip, List.map_map] at inside
        refine .expanded (stands looked) (List.length_map _) (fun q member holds => ?_) inside
        rw [← List.map_prod_right_eq_zip] at member
        obtain ⟨part, _, rfl⟩ := List.mem_map.mp member
        exact ih holds
      · cases found
    unfold findsNone at found
    dsimp only at found
    split at found
    · exact .none
    · rcases Bool.or_eq_true_iff.mp found with first | second
      · exact .left (ih first)
      · exact .right (ih second)
    · rename_i pos id
      cases held : flags.lookup id with
      | some flag =>
        rw [held] at found
        refine .typeVariable (.name ?_) found
        rw [flagged, Pairs.lookup_map_snd flags (fun flag => flag = true), held]
        rfl
      | none =>
        rw [held] at found
        exact byBinding (by rintro _ _ ⟨⟩; exact held) found
    · rename_i named
      exact byBinding (fun pos id same => absurd same (named pos id)) found

end Program

end HintSchema

import HintSchema.Proofs.Hints.Termination

/-!
Programs whose aliases do not mention themselves. The chain of aliases whose values are being
resolved makes no difference to a hint that uses none of them (`resolveUnder_eq_of_avoids`), and no
handle of a hint has a deferred alias in it (`settles_resolve_expanded`).
-/

namespace HintSchema

/-- No alias is deferred anywhere in the handle. -/
inductive Handle.Expanded : Handle → Prop
  | mk {h : Handle} (own : ∀ target arguments, h ≠ .deferred target arguments)
      (parts : ∀ part ∈ h.parts, Expanded part) : Expanded h

namespace Handle

namespace Expanded

variable {h : Handle} {members : List Handle}

theorem parts (expanded : h.Expanded) : ∀ part ∈ h.parts, part.Expanded := by
  cases expanded with
  | mk _ parts => exact parts

theorem of_mem_alternatives {part : Handle} (expanded : h.Expanded)
    (member : part ∈ h.alternatives) : part.Expanded := by
  cases h with
  | union members => exact expanded.parts part (List.mem_append_left _ member)
  | _ =>
    cases List.mem_singleton.mp member
    exact expanded

theorem union (each : ∀ h ∈ members, h.Expanded) : (Handle.union members).Expanded :=
  .mk nofun fun part member => each part (by simpa [Handle.parts, members?, arguments] using member)

theorem unionOf (each : ∀ h ∈ members, h.Expanded) : (Handle.unionOf members).Expanded :=
  unionOf_of_alternatives (fun h member _ part => (each h member).of_mem_alternatives part)
    (fun _ each => each) fun _ each => .union each

theorem of_arguments (own : ∀ target arguments, h ≠ .deferred target arguments)
    (single : h.members? = .none) (each : ∀ part ∈ h.arguments, part.Expanded) : h.Expanded := by
  refine .mk own ?_
  rw [Handle.parts, single]
  exact each

end Expanded

end Handle

theorem Shaping.expanded : Shaping Handle.Expanded where
  intrinsic _ _ := .of_arguments nofun rfl (List.forall_mem_nil _)
  void _ := .of_arguments nofun rfl (List.forall_mem_nil _)
  union _ _ := .unionOf
  list _ _ _ element := .of_arguments nofun rfl (List.forall_mem_singleton.mpr element)
  awaitable _ _ each := .of_arguments nofun rfl each
  classObject _ _ each := .of_arguments nofun rfl each
  record _ _ _ each := .of_arguments nofun rfl each
  renamed _ _ _ _ _ expanded := .of_arguments nofun rfl expanded.parts
  typeParameter _ := .of_arguments nofun rfl (List.forall_mem_nil _)
  unsupported _ := .of_arguments nofun rfl (List.forall_mem_nil _)

namespace Program

def Mentions (P : Program) (a b : AliasRef) : Prop :=
  ∃ part, Relation.ReflTransGen (P.Subhint a.key.file) a.value part ∧
    (P.lookupExpr a.key.file part.base).1 = .ok (.alias b.key b.value)

/-- No alias mentions itself, be it through the values of others. -/
def Straight (P : Program) : Prop := ∀ a, ¬ Relation.TransGen P.Mentions a a

def Uses (P : Program) (file : Path) (e : Expr) (a : AliasRef) : Prop :=
  ∃ part b, Relation.ReflTransGen (P.Subhint file) e part ∧
    (P.lookupExpr file part.base).1 = .ok (.alias b.key b.value) ∧
    Relation.ReflTransGen P.Mentions b a

/-- The hint uses no alias of the chain. -/
def Avoids (P : Program) (chain : List NameKey) (file : Path) (e : Expr) : Prop :=
  ∀ a, P.Uses file e a → a.key ∉ chain

variable {P : Program} {file : Path} {scope : TypeVariables} {e part : Expr} {key : NameKey}
  {value : Expr} {chain : List NameKey} {a b : AliasRef}

theorem Mentions.grounds (mentions : P.Mentions a b) : P.Grounds (.alias b.key b.value) := by
  obtain ⟨_, _, looked⟩ := mentions
  exact grounds_lookupExpr looked

theorem eq_of_grounds {other : Expr} (one : P.Grounds (.alias key value))
    (two : P.Grounds (.alias key other)) : value = other :=
  Option.some.inj (one.symm.trans two)

namespace Uses

theorem inside (inside : P.Subhint file e part) (uses : P.Uses file part a) : P.Uses file e a := by
  obtain ⟨deeper, b, reached, looked, mentioned⟩ := uses
  exact ⟨deeper, b, .head inside reached, looked, mentioned⟩

theorem own (looked : (P.lookupExpr file e.base).1 = .ok (.alias key value)) :
    P.Uses file e ⟨key, value⟩ :=
  ⟨e, ⟨key, value⟩, .refl, looked, .refl⟩

theorem mentioned (uses : P.Uses key.file value a) : Relation.TransGen P.Mentions ⟨key, value⟩ a := by
  obtain ⟨part, b, reached, looked, later⟩ := uses
  exact .head' ⟨part, reached, looked⟩ later

theorem through (looked : (P.lookupExpr file e.base).1 = .ok (.alias key value))
    (uses : P.Uses key.file value a) : P.Uses file e a :=
  ⟨e, ⟨key, value⟩, .refl, looked, uses.mentioned.to_reflTransGen⟩

theorem grounds (uses : P.Uses file e a) : P.Grounds (.alias a.key a.value) := by
  obtain ⟨part, b, _, looked, mentioned⟩ := uses
  rcases Relation.ReflTransGen.cases_tail mentioned with rfl | ⟨_, _, last⟩
  · exact grounds_lookupExpr looked
  · exact last.grounds

end Uses

namespace Avoids

theorem nil (P : Program) (file : Path) (e : Expr) : P.Avoids [] file e :=
  fun _ _ => List.not_mem_nil

theorem inside (avoids : P.Avoids chain file e) (inside : P.Subhint file e part) :
    P.Avoids chain file part :=
  fun a uses => avoids a (.inside inside uses)

theorem own (avoids : P.Avoids chain file e)
    (looked : (P.lookupExpr file e.base).1 = .ok (.alias key value)) : key ∉ chain :=
  avoids _ (.own looked)

theorem through (straight : P.Straight) (avoids : P.Avoids chain file e)
    (looked : (P.lookupExpr file e.base).1 = .ok (.alias key value)) :
    P.Avoids (chain ++ [key]) key.file value := by
  intro a uses member
  rcases List.mem_append.mp member with inside | last
  · exact avoids a (.through looked uses) inside
  · obtain ⟨other, expr⟩ := a
    obtain rfl : other = key := List.mem_singleton.mp last
    obtain rfl : value = expr := eq_of_grounds (grounds_lookupExpr looked) uses.grounds
    exact straight _ uses.mentioned

end Avoids

/-- A chain of which a hint uses no alias makes no difference to it. -/
theorem resolveUnder_eq_of_avoids (straight : P.Straight) (call : HintCall)
    (avoids : P.Avoids call.chain call.file call.expr) (other : List NameKey)
    (free : P.Avoids other call.file call.expr) (scope : TypeVariables) :
    P.resolveUnder call.chain call.file scope call.expr =
      P.resolveUnder other call.file scope call.expr := by
  induction call.acc_makes P generalizing other scope with
  | intro call _ ih =>
    rw [P.resolveUnder_eq_call, P.resolveUnder_eq_call other]
    refine resolveCall_congr (fun part inside => ?_) fun key value handles looked => ?_
    · exact ih _ (.inside inside) (avoids.inside inside) other (free.inside inside) scope
    · have apart := avoids.own looked
      unfold aliasCall expandCall
      rw [if_neg apart, if_neg (free.own looked)]
      refine congrArg (P.expandAlias · _ handles) (funext fun scope => ?_)
      exact ih _ (.value looked apart) (avoids.through straight looked) _
        (free.through straight looked) scope

theorem settles_resolveUnder_expanded (straight : P.Straight) (call : HintCall)
    (avoids : P.Avoids call.chain call.file call.expr) (known : ∀ v ∈ scope, v.2.Expanded) :
    Settles P (P.resolveUnder call.chain call.file scope call.expr) Handle.Expanded := by
  induction call.acc_makes P generalizing scope with
  | intro call _ ih =>
    rw [P.resolveUnder_eq_call]
    refine settles_resolveCall .expanded known (fun part inside => ?_)
      fun key value handles looked formed => ?_
    · exact ih _ (.inside inside) (avoids.inside inside) known
    · have apart := avoids.own looked
      unfold aliasCall expandCall
      rw [if_neg apart]
      exact settles_expandAlias .expanded
        (fun _ known => ih _ (.value looked apart) (avoids.through straight looked) known) formed

theorem settles_resolve_expanded (straight : P.Straight) (known : ∀ v ∈ scope, v.2.Expanded)
    (hint : Option Expr) : Settles P (P.resolve file scope hint) Handle.Expanded := by
  cases hint with
  | none => exact .pure (Shaping.expanded.intrinsic _ (by decide))
  | some hint =>
    rw [resolve_eq_under]
    exact settles_resolveUnder_expanded straight ⟨[], file, hint⟩ (.nil P file hint) known

def mentionsBelow (P : Program) (rank : NameKey → Nat) (bound : Nat) (file : Path) :
    Nat → Expr → Bool
  | 0, _ => false
  | limit + 1, e =>
    (match (P.lookupExpr file e.base).1 with
      | .ok (.alias key _) => rank key < bound
      | _ => true) &&
    (P.subhints file e).all (mentionsBelow P rank bound file limit)

/-- The value of each alias mentions aliases of a lower rank only. -/
def descends (P : Program) (rank : NameKey → Nat) (limit : Nat) : Bool :=
  P.sources.all fun s => s.scope.names.all fun (name, bound) =>
    match bound with
    | .alias value => P.mentionsBelow rank (rank ⟨s.path, name⟩) s.path limit value
    | _ => true

variable {rank : NameKey → Nat} {limit bound : Nat}

theorem rank_lt_of_mentionsBelow (tested : P.mentionsBelow rank bound file limit e = true)
    (reached : Relation.ReflTransGen (P.Subhint file) e part)
    (looked : (P.lookupExpr file part.base).1 = .ok (.alias key value)) : rank key < bound := by
  induction limit generalizing e with
  | zero => cases tested
  | succ limit ih =>
    rw [mentionsBelow, Bool.and_eq_true, List.all_eq_true] at tested
    rcases Relation.ReflTransGen.cases_head reached with rfl | ⟨next, first, later⟩
    · have own := tested.1
      rw [looked] at own
      exact of_decide_eq_true own
    · exact ih (tested.2 next (mem_subhints first)) later

theorem rank_lt_of_mentions (descending : P.descends rank limit = true)
    (grounds : P.Grounds (.alias a.key a.value)) (mentions : P.Mentions a b) :
    rank b.key < rank a.key := by
  obtain ⟨part, reached, looked⟩ := mentions
  have bound := mem_names_of_findSome? grounds
  rcases P.source_cases a.key.file with ⟨present, same⟩ | missing
  · have each := List.all_eq_true.mp (List.all_eq_true.mp descending _ present) _ bound
    rw [same] at each
    exact rank_lt_of_mentionsBelow each reached looked
  · rw [missing] at bound
    cases bound

theorem straight_of_descends (descending : P.descends rank limit = true) : P.Straight := by
  have lower {a b : AliasRef} (grounds : P.Grounds (.alias a.key a.value))
      (path : Relation.TransGen P.Mentions a b) :
      P.Grounds (.alias b.key b.value) ∧ rank b.key < rank a.key := by
    induction path with
    | single mentions => exact ⟨mentions.grounds, rank_lt_of_mentions descending grounds mentions⟩
    | tail _ mentions ih =>
      exact ⟨mentions.grounds, (rank_lt_of_mentions descending ih.1 mentions).trans ih.2⟩
  intro a path
  obtain ⟨b, _, last⟩ := Relation.TransGen.tail'_iff.mp path
  exact absurd (lower last.grounds path).2 (Nat.lt_irrefl _)

end Program

end HintSchema

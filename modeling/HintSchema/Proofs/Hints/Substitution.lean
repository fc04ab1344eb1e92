import HintSchema.Proofs.Hints.Leaks
import HintSchema.Proofs.Hints.Flat

/-!
Handles in which type variables stand for others. A union is flattened again once its members have
been replaced, and no type comes twice in it, whichever types have become equal
(`Handle.unionOf_subst`).
-/

namespace HintSchema

namespace Handle

section

variable (scope : TypeVariables)

mutual

/-- The handle with its type variables standing for what they stand for in the scope. -/
def subst : Handle → Handle
  | .intrinsic kind => .intrinsic kind
  | .void text => .void text
  | .union members => .unionOf (substAll members)
  | .list name element => .list name (subst element)
  | .awaitable name arguments => .awaitable name (substAll arguments)
  | .classObject symbol arguments => .classObject symbol (substAll arguments)
  | .record symbol source arguments aliasName =>
    .record symbol source (substAll arguments) aliasName
  | .typeParameter name => (scope.lookup name).getD (.typeParameter name)
  | .unsupported text symbol => .unsupported text symbol
  | .deferred target arguments => .deferred target (substAll arguments)

def substAll : List Handle → List Handle
  | [] => []
  | h :: rest => subst h :: substAll rest

end

theorem substAll_eq_map (handles : List Handle) :
    substAll scope handles = handles.map (subst scope) := by
  induction handles with
  | nil => rfl
  | cons h rest ih => rw [substAll, ih, List.map_cons]

end

mutual

/-- The handle without the names that aliases give to records. -/
def unnamed : Handle → Handle
  | .intrinsic kind => .intrinsic kind
  | .void text => .void text
  | .union members => .union (unnamedAll members)
  | .list name element => .list name (unnamed element)
  | .awaitable name arguments => .awaitable name (unnamedAll arguments)
  | .classObject symbol arguments => .classObject symbol (unnamedAll arguments)
  | .record symbol source arguments _ => .record symbol source (unnamedAll arguments) .none
  | .typeParameter name => .typeParameter name
  | .unsupported text symbol => .unsupported text symbol
  | .deferred target arguments => .deferred target (unnamedAll arguments)

def unnamedAll : List Handle → List Handle
  | [] => []
  | h :: rest => unnamed h :: unnamedAll rest

end

theorem unnamedAll_eq_map (handles : List Handle) : unnamedAll handles = handles.map unnamed := by
  induction handles with
  | nil => rfl
  | cons h rest ih => rw [unnamedAll, ih, List.map_cons]

theorem identities_eq_map (handles : List Handle) : identities handles = handles.map identity := by
  induction handles with
  | nil => rfl
  | cons h rest ih => rw [identities, ih, List.map_cons]

mutual

theorem identity_unnamed : ∀ h : Handle, h.unnamed.identity = h.identity
  | .intrinsic _ | .void _ | .typeParameter _ | .unsupported _ _ => rfl
  | .union members => congrArg Identity.union (identities_unnamedAll members)
  | .list _ element => congrArg Identity.list (identity_unnamed element)
  | .awaitable name arguments => congrArg (Identity.awaitable name) (identities_unnamedAll arguments)
  | .classObject _ arguments => congrArg (Identity.declared _ _) (identities_unnamedAll arguments)
  | .record _ _ arguments _ => congrArg (Identity.declared _ _) (identities_unnamedAll arguments)
  | .deferred target arguments =>
    congrArg (Identity.alias target.key) (identities_unnamedAll arguments)

theorem identities_unnamedAll : ∀ handles : List Handle,
    identities (unnamedAll handles) = identities handles
  | [] => rfl
  | h :: rest => by
    rw [unnamedAll, identities, identities, identity_unnamed h, identities_unnamedAll rest]

end

section

variable {seen seen' : List Identity} {handles others : List Handle} {f g : Handle → List Handle}

theorem distinctFrom_congr (same : ∀ i, i ∈ seen ↔ i ∈ seen') (handles : List Handle) :
    distinctFrom seen handles = distinctFrom seen' handles := by
  induction handles generalizing seen seen' with
  | nil => rfl
  | cons h rest ih =>
    have known : seen.contains h.identity = seen'.contains h.identity := by
      rw [Bool.eq_iff_iff, List.contains_iff_mem, List.contains_iff_mem, same]
    have more : ∀ i, i ∈ h.identity :: seen ↔ i ∈ h.identity :: seen' := by simp [same]
    rw [distinctFrom, distinctFrom, known, ih same, ih more]

theorem distinctFrom_append (seen : List Identity) (handles others : List Handle) :
    distinctFrom seen (handles ++ others) =
      distinctFrom seen handles ++ distinctFrom (handles.map identity ++ seen) others := by
  induction handles generalizing seen with
  | nil => rfl
  | cons h rest ih =>
    rw [List.cons_append, distinctFrom, distinctFrom]
    split
    · rename_i known
      rw [ih]
      congr 1
      apply distinctFrom_congr
      intro i
      have known := List.contains_iff_mem.mp known
      simp only [List.map_cons, List.cons_append, List.mem_cons]
      constructor
      · exact .inr
      · rintro (rfl | later)
        · exact List.mem_append_right _ known
        · exact later
    · rw [ih, List.cons_append]
      congr 2
      apply distinctFrom_congr
      intro i
      simp only [List.map_cons, List.cons_append, List.mem_append, List.mem_cons]
      tauto

theorem distinctFrom_of_seen (known : ∀ h ∈ handles, h.identity ∈ seen) :
    distinctFrom seen handles = [] := by
  induction handles with
  | nil => rfl
  | cons h rest ih =>
    obtain ⟨first, others⟩ := List.forall_mem_cons.mp known
    rw [distinctFrom, if_pos (List.contains_iff_mem.mpr first), ih others]

/-- What comes from a handle that comes twice comes twice, so it does not matter which of them are
left out first. `before` are the identities of which what comes from them has been seen. -/
theorem distinctFrom_flatMap_distinctFrom
    (respects : ∀ a b, a.identity = b.identity → (f a).map identity = (f b).map identity)
    (seen before : List Identity)
    (covered : ∀ a, a.identity ∈ before → ∀ h ∈ f a, h.identity ∈ seen)
    (handles others : List Handle) :
    distinctFrom seen ((distinctFrom before handles).flatMap f ++ others) =
      distinctFrom seen (handles.flatMap f ++ others) := by
  induction handles generalizing seen before with
  | nil => rfl
  | cons a rest ih =>
    rw [distinctFrom, List.flatMap_cons, List.append_assoc]
    split
    · rename_i known
      have all := covered a (List.contains_iff_mem.mp known)
      rw [ih seen before covered, distinctFrom_append seen (f a), distinctFrom_of_seen all,
        List.nil_append]
      apply distinctFrom_congr
      intro i
      rw [List.mem_append, List.mem_map]
      constructor
      · exact .inr
      · rintro (⟨h, inside, rfl⟩ | old)
        · exact all h inside
        · exact old
    · rw [List.flatMap_cons, List.append_assoc, distinctFrom_append, distinctFrom_append seen (f a)]
      congr 1
      apply ih
      intro b member h inside
      rcases List.mem_cons.mp member with same | old
      · have both := List.mem_map_of_mem (f := identity) inside
        rw [respects b a same] at both
        exact List.mem_append_left _ both
      · exact List.mem_append_right _ (covered b old h inside)

theorem distinctFrom_distinctFrom_append (seen : List Identity) (handles others : List Handle) :
    distinctFrom seen (distinctFrom [] handles ++ others) = distinctFrom seen (handles ++ others) := by
  have alone : ∀ a b : Handle, a.identity = b.identity → [a].map identity = [b].map identity :=
    fun a b same => by simp [same]
  have flat := distinctFrom_flatMap_distinctFrom alone seen []
    (fun _ impossible => absurd impossible List.not_mem_nil) handles others
  simpa using flat

def Interchangeable (handles others : List Handle) : Prop :=
  ∀ seen further, distinctFrom seen (handles ++ further) = distinctFrom seen (others ++ further)

theorem Interchangeable.flatMap (each : ∀ h ∈ handles, Interchangeable (f h) (g h)) :
    Interchangeable (handles.flatMap f) (handles.flatMap g) := by
  induction handles with
  | nil => exact fun _ _ => rfl
  | cons h rest ih =>
    obtain ⟨first, others⟩ := List.forall_mem_cons.mp each
    intro seen further
    rw [List.flatMap_cons, List.flatMap_cons, List.append_assoc, List.append_assoc, first,
      distinctFrom_append, distinctFrom_append seen (g h), ih others]

theorem Interchangeable.distinctFrom_eq (same : Interchangeable handles others)
    (seen : List Identity) : distinctFrom seen handles = distinctFrom seen others := by
  simpa using same seen []

end

section

variable {scope : TypeVariables} {h m : Handle} {handles members others : List Handle}

/-- A union as `unionOf` makes it: none of its members is a union, no type comes twice, and there is
not just one. -/
def Whole : Handle → Prop
  | .union members =>
    (∀ m ∈ members, m.members? = .none) ∧ distinctFrom [] members = members ∧ members.length ≠ 1
  | _ => True

theorem whole_of_single (single : m.members? = .none) : m.Whole := by
  cases m with
  | union => cases single
  | _ => trivial

theorem alternatives_of_single (single : m.members? = .none) : m.alternatives = [m] := by
  cases m with
  | union => cases single
  | _ => rfl

theorem Whole.single_of_mem (whole : h.Whole) (inside : m ∈ h.alternatives) :
    m.members? = .none := by
  cases h with
  | union => exact whole.1 m inside
  | _ =>
    cases List.mem_singleton.mp inside
    rfl

theorem alternatives_unionOf
    (single : ∀ h ∈ handles, ∀ m ∈ h.alternatives, m.members? = .none) :
    (unionOf handles).alternatives = distinctFrom [] (handles.flatMap alternatives) := by
  unfold unionOf
  split
  · rename_i m only
    have inside : m ∈ distinctFrom [] (handles.flatMap alternatives) := by simp [only]
    obtain ⟨h, member, part⟩ := List.mem_flatMap.mp (mem_of_mem_distinctFrom inside)
    rw [only, alternatives_of_single (single h member m part)]
  · rfl

theorem whole_unionOf (whole : ∀ h ∈ handles, h.Whole) :
    (unionOf handles).Whole ∧
      (unionOf handles).alternatives = distinctFrom [] (handles.flatMap alternatives) := by
  have single (h : Handle) (member : h ∈ handles) (m : Handle) (part : m ∈ h.alternatives) :
      m.members? = .none := (whole h member).single_of_mem part
  refine ⟨?_, alternatives_unionOf single⟩
  have alone : ∀ m ∈ distinctFrom [] (handles.flatMap alternatives), m.members? = .none := by
    intro m inside
    obtain ⟨h, member, part⟩ := List.mem_flatMap.mp (mem_of_mem_distinctFrom inside)
    exact single h member m part
  unfold unionOf
  split
  · rename_i m only
    exact whole_of_single (alone m (by simp [only]))
  · rename_i several
    refine ⟨alone, ?_, fun one => ?_⟩
    · simpa using distinctFrom_distinctFrom_append [] (handles.flatMap alternatives) []
    · obtain ⟨m, only⟩ := List.length_eq_one_iff.mp one
      exact several m only

theorem unionOf_singleton (whole : h.Whole) : unionOf [h] = h := by
  have flat : [h].flatMap alternatives = h.alternatives := by simp
  unfold unionOf
  rw [flat]
  cases h with
  | union members =>
    rw [show (Handle.union members).alternatives = members from rfl, whole.2.1]
    split
    · exact absurd rfl whole.2.2
    · rfl
  | _ => rfl

theorem unionOf_congr (same : distinctFrom [] (handles.flatMap alternatives) =
    distinctFrom [] (others.flatMap alternatives)) : unionOf handles = unionOf others := by
  unfold unionOf
  rw [same]

theorem identities_alternatives {a b : Handle} (same : a.identity = b.identity) :
    a.alternatives.map identity = b.alternatives.map identity := by
  cases a with
  | union members =>
    cases b with
    | union others =>
      simpa only [alternatives, identities_eq_map] using Identity.union.inj same
    | _ => cases same
  | _ =>
    cases b with
    | union others => cases same
    | _ => simp only [alternatives, List.map_cons, List.map_nil, same]

theorem map_identity_distinctFrom {as bs : List Handle}
    (same : as.map identity = bs.map identity) (seen : List Identity) :
    (distinctFrom seen as).map identity = (distinctFrom seen bs).map identity := by
  induction as generalizing bs seen with
  | nil =>
    obtain rfl := List.map_eq_nil_iff.mp same.symm
    rfl
  | cons a as ih =>
    cases bs with
    | nil => cases same
    | cons b bs =>
      obtain ⟨first, rest⟩ := List.cons.inj same
      rw [distinctFrom, distinctFrom, first]
      split
      · exact ih rest seen
      · rw [List.map_cons, List.map_cons, first, ih rest]

theorem map_identity_flatMap_alternatives {as bs : List Handle}
    (same : as.map identity = bs.map identity) :
    (as.flatMap alternatives).map identity = (bs.flatMap alternatives).map identity := by
  induction as generalizing bs with
  | nil =>
    obtain rfl := List.map_eq_nil_iff.mp same.symm
    rfl
  | cons a as ih =>
    cases bs with
    | nil => cases same
    | cons b bs =>
      obtain ⟨first, rest⟩ := List.cons.inj same
      rw [List.flatMap_cons, List.flatMap_cons, List.map_append, List.map_append,
        identities_alternatives first, ih rest]

theorem identity_unionOf_congr {as bs : List Handle} (same : as.map identity = bs.map identity) :
    (unionOf as).identity = (unionOf bs).identity := by
  have distinct := map_identity_distinctFrom (map_identity_flatMap_alternatives same) []
  unfold unionOf
  generalize distinctFrom [] (as.flatMap alternatives) = left at distinct
  generalize distinctFrom [] (bs.flatMap alternatives) = right at distinct
  have count := congrArg List.length distinct
  match left, right with
  | [], [] => rfl
  | [_], [_] => exact (List.cons.inj distinct).1
  | _ :: _ :: _, _ :: _ :: _ => simp only [identity, identities_eq_map, distinct]
  | [], _ :: _ | [_], _ :: _ :: _ | _ :: _, [] | _ :: _ :: _, [_] => simp at count

end

section

variable {scope : TypeVariables} {h m : Handle} {handles members : List Handle}

mutual

theorem identity_subst_congr (scope : TypeVariables) : ∀ a b : Handle, a.identity = b.identity →
    (a.subst scope).identity = (b.subst scope).identity
  | .intrinsic _, b, same | .void _, b, same | .unsupported _ _, b, same => by
    cases b <;> cases same
    rfl
  | .typeParameter _, b, same => by
    cases b <;> cases same
    rfl
  | .union members, b, same => by
    cases b with
    | union others =>
      have parts := identities_substAll_congr scope members others (Identity.union.inj same)
      rw [identities_eq_map, identities_eq_map] at parts
      exact identity_unionOf_congr parts
    | _ => cases same
  | .list _ element, b, same => by
    cases b with
    | list _ other =>
      exact congrArg Identity.list
        (identity_subst_congr scope element other (Identity.list.inj same))
    | _ => cases same
  | .awaitable _ arguments, b, same => by
    cases b with
    | awaitable _ others =>
      obtain ⟨rfl, parts⟩ := Identity.awaitable.inj same
      exact congrArg (Identity.awaitable _) (identities_substAll_congr scope arguments others parts)
    | _ => cases same
  | .classObject _ arguments, b, same | .record _ _ arguments _, b, same => by
    cases b with
    | classObject _ others | record _ _ others _ =>
      obtain ⟨names, places, parts⟩ := Identity.declared.inj same
      simp only [subst, identity, Identity.declared.injEq]
      exact ⟨names, places, identities_substAll_congr scope arguments others parts⟩
    | _ => cases same
  | .deferred _ arguments, b, same => by
    cases b with
    | deferred _ others =>
      obtain ⟨keys, parts⟩ := Identity.alias.inj same
      simp only [subst, identity, Identity.alias.injEq]
      exact ⟨keys, identities_substAll_congr scope arguments others parts⟩
    | _ => cases same

theorem identities_substAll_congr (scope : TypeVariables) :
    ∀ as bs : List Handle, identities as = identities bs →
    identities (substAll scope as) = identities (substAll scope bs)
  | [], bs, same => by
    cases bs with
    | nil => rfl
    | cons => cases same
  | a :: as, bs, same => by
    cases bs with
    | nil => cases same
    | cons b bs =>
      obtain ⟨first, rest⟩ := List.cons.inj same
      rw [substAll, substAll, identities, identities, identity_subst_congr scope a b first,
        identities_substAll_congr scope as bs rest]

end

/-- All that the type variables of the scope stand for is whole. -/
def WholeScope (scope : TypeVariables) : Prop := ∀ v ∈ scope, v.2.Whole

theorem WholeScope.lookup (whole : WholeScope scope) {name : String} {handle : Handle}
    (found : scope.lookup name = some handle) : handle.Whole := by
  obtain ⟨before, after, same, _⟩ := List.lookup_eq_some_iff.mp found
  exact whole (name, handle) (by simp [same])

theorem whole_subst_of_single (whole : WholeScope scope) (single : m.members? = .none) :
    (m.subst scope).Whole := by
  cases m with
  | union => cases single
  | typeParameter name =>
    rw [subst]
    cases found : scope.lookup name with
    | none => trivial
    | some handle => exact whole.lookup found
  | _ => trivial

theorem interchangeable_alternatives_subst (known : WholeScope scope) (whole : h.Whole) :
    Interchangeable (h.subst scope).alternatives
      (h.alternatives.flatMap fun m => (m.subst scope).alternatives) := by
  cases h with
  | union members =>
    have each : ∀ m ∈ members.map (subst scope), m.Whole := by
      intro m inside
      obtain ⟨part, member, rfl⟩ := List.mem_map.mp inside
      exact whole_subst_of_single known (whole.1 part member)
    intro seen further
    rw [subst, substAll_eq_map, (whole_unionOf each).2, distinctFrom_distinctFrom_append,
      List.flatMap_map]
    rfl
  | _ =>
    intro seen further
    simp only [alternatives, List.flatMap_singleton]

theorem whole_subst (known : WholeScope scope) (whole : h.Whole) : (h.subst scope).Whole := by
  cases h with
  | union members =>
    rw [subst, substAll_eq_map]
    refine (whole_unionOf fun m inside => ?_).1
    obtain ⟨part, member, rfl⟩ := List.mem_map.mp inside
    exact whole_subst_of_single known (whole.1 part member)
  | _ => exact whole_subst_of_single known rfl

theorem subst_eq_unionOf (known : WholeScope scope) (whole : h.Whole) :
    h.subst scope = unionOf (h.alternatives.map (subst scope)) := by
  cases h with
  | union members => rw [subst, substAll_eq_map, alternatives]
  | _ => exact (unionOf_singleton (whole_subst known whole)).symm

/-- To replace type variables in a union is to form the union of its members with the type variables
replaced. -/
theorem unionOf_subst (known : WholeScope scope) (whole : ∀ h ∈ handles, h.Whole) :
    (unionOf handles).subst scope = unionOf (handles.map (subst scope)) := by
  have flat : distinctFrom [] ((handles.map (subst scope)).flatMap alternatives) =
      distinctFrom [] (((unionOf handles).alternatives.map (subst scope)).flatMap alternatives) := by
    rw [List.flatMap_map, List.flatMap_map, (whole_unionOf whole).2]
    calc
      distinctFrom [] (handles.flatMap fun h => (h.subst scope).alternatives) =
          distinctFrom [] (handles.flatMap fun h =>
            h.alternatives.flatMap fun m => (m.subst scope).alternatives) :=
        (Interchangeable.flatMap fun h member =>
          interchangeable_alternatives_subst known (whole h member)).distinctFrom_eq []
      _ = distinctFrom [] ((handles.flatMap alternatives).flatMap fun m =>
            (m.subst scope).alternatives) := by rw [List.flatMap_assoc]
      _ = distinctFrom [] ((distinctFrom [] (handles.flatMap alternatives)).flatMap fun m =>
            (m.subst scope).alternatives) := by
        have respects (a b : Handle) (same : a.identity = b.identity) :=
          identities_alternatives (identity_subst_congr scope a b same)
        have once := distinctFrom_flatMap_distinctFrom respects [] []
          (fun _ impossible => absurd impossible List.not_mem_nil) (handles.flatMap alternatives) []
        simpa using once.symm
  rw [subst_eq_unionOf known (whole_unionOf whole).1, unionOf_congr flat]

theorem alternatives_unnamed (h : Handle) : h.unnamed.alternatives = h.alternatives.map unnamed := by
  cases h with
  | union members => rw [unnamed, alternatives, alternatives, unnamedAll_eq_map]
  | _ => rfl

theorem distinctFrom_map_unnamed (seen : List Identity) (handles : List Handle) :
    distinctFrom seen (handles.map unnamed) = (distinctFrom seen handles).map unnamed := by
  induction handles generalizing seen with
  | nil => rfl
  | cons h rest ih =>
    rw [List.map_cons, distinctFrom, distinctFrom, identity_unnamed]
    split
    · exact ih seen
    · rw [List.map_cons, ih]

theorem unnamed_unionOf (handles : List Handle) :
    (unionOf handles).unnamed = unionOf (handles.map unnamed) := by
  have flat : (handles.map unnamed).flatMap alternatives =
      (handles.flatMap alternatives).map unnamed := by
    simp only [List.flatMap_map, List.map_flatMap, alternatives_unnamed]
  unfold unionOf
  rw [flat, distinctFrom_map_unnamed]
  generalize distinctFrom [] (handles.flatMap alternatives) = distinct
  match distinct with
  | [] | [_] => rfl
  | _ :: _ :: _ => rw [unnamed, unnamedAll_eq_map]; rfl

end

end Handle

namespace Program

variable {P : Program} {z : CheckState} {names : List String} {scope : TypeVariables}

def TightRecord (P : Program) (z : CheckState) (names : List String) : Handle → Prop
  | .record _ source own _ =>
    P.Tight z names (.fields source (source.typeParameters.take own.length))
  | _ => True

/-- Throughout the handle unions are whole, and no declaration of a record leaks a type variable. -/
inductive Shaped (P : Program) (z : CheckState) (names : List String) : Handle → Prop
  | mk {h : Handle} (whole : h.Whole) (tight : P.TightRecord z names h)
      (members : ∀ members, h = .union members → ∀ m ∈ members, Shaped P z names m)
      (arguments : ∀ part ∈ h.arguments, Shaped P z names part) : Shaped P z names h

namespace Shaped

variable {h m : Handle} {handles : List Handle}

theorem of_single (single : h.members? = none) (tight : P.TightRecord z names h)
    (arguments : ∀ part ∈ h.arguments, P.Shaped z names part) : P.Shaped z names h := by
  refine .mk (Handle.whole_of_single single) tight ?_ arguments
  rintro members rfl
  cases single

theorem whole (shaped : P.Shaped z names h) : h.Whole := by
  cases shaped with
  | mk whole => exact whole

theorem tight (shaped : P.Shaped z names h) : P.TightRecord z names h := by
  cases shaped with
  | mk _ tight => exact tight

theorem arguments (shaped : P.Shaped z names h) : ∀ part ∈ h.arguments, P.Shaped z names part := by
  cases shaped with
  | mk _ _ _ arguments => exact arguments

theorem alternatives (shaped : P.Shaped z names h) (inside : m ∈ h.alternatives) :
    P.Shaped z names m := by
  cases shaped with
  | mk _ _ members _ =>
    cases h with
    | union parts => exact members parts rfl m inside
    | _ =>
      cases List.mem_singleton.mp inside
      constructor <;> assumption

theorem unionOf (shaped : ∀ h ∈ handles, P.Shaped z names h) :
    P.Shaped z names (.unionOf handles) := by
  have union := Handle.whole_unionOf fun h member => (shaped h member).whole
  have each : ∀ m ∈ (Handle.unionOf handles).alternatives, P.Shaped z names m := by
    intro m inside
    rw [union.2] at inside
    obtain ⟨h, member, part⟩ := List.mem_flatMap.mp (Handle.mem_of_mem_distinctFrom inside)
    exact (shaped h member).alternatives part
  have whole := union.1
  generalize Handle.unionOf handles = result at *
  cases result with
  | union members =>
    refine .mk whole trivial ?_ (List.forall_mem_nil _)
    rintro _ ⟨⟩
    exact each
  | _ => exact each _ List.mem_cons_self

end Shaped

/-- The second handle is the first one with the type variables of the scope replaced, but for the
names that aliases give to records. -/
structure Becomes (P : Program) (z : CheckState) (names : List String) (scope : TypeVariables)
    (a b : Handle) : Prop where
  shaped : P.Shaped z names a
  same : b.unnamed = (a.subst scope).unnamed

namespace Becomes

variable {a b : Handle} {as bs : List Handle}

theorem map_unnamed (become : List.Forall₂ (P.Becomes z names scope) as bs) :
    bs.map Handle.unnamed = (as.map (Handle.subst scope)).map Handle.unnamed := by
  induction become with
  | nil => rfl
  | cons first _ ih => rw [List.map_cons, List.map_cons, List.map_cons, ih, first.same]

theorem unnamedAll_eq (become : List.Forall₂ (P.Becomes z names scope) as bs) :
    Handle.unnamedAll bs = Handle.unnamedAll (Handle.substAll scope as) := by
  rw [Handle.unnamedAll_eq_map, Handle.unnamedAll_eq_map, Handle.substAll_eq_map,
    map_unnamed become]

theorem shapes (become : List.Forall₂ (P.Becomes z names scope) as bs) :
    ∀ a ∈ as, P.Shaped z names a :=
  forall_mem_of_forall₂ (List.Forall₂.flip (become.imp fun _ _ each => each.shaped))

theorem of_shapes (shaped : ∀ a ∈ as, P.Shaped z names a)
    (same : Handle.unnamedAll bs = Handle.unnamedAll (Handle.substAll scope as)) :
    List.Forall₂ (P.Becomes z names scope) as bs := by
  induction as generalizing bs with
  | nil =>
    cases bs with
    | nil => exact .nil
    | cons => cases same
  | cons a as ih =>
    cases bs with
    | nil => cases same
    | cons b bs =>
      obtain ⟨first, rest⟩ := List.cons.inj same
      obtain ⟨own, others⟩ := List.forall_mem_cons.mp shaped
      exact .cons ⟨own, first⟩ (ih others rest)

theorem of_plain (single : a.members? = none) (tight : P.TightRecord z names a)
    (plain : a.arguments = []) (same : a.subst scope = a) : P.Becomes z names scope a a where
  shaped := .of_single single tight (plain ▸ List.forall_mem_nil _)
  same := by rw [same]

theorem unionOf (known : Handle.WholeScope scope)
    (become : List.Forall₂ (P.Becomes z names scope) as bs) :
    P.Becomes z names scope (.unionOf as) (.unionOf bs) where
  shaped := .unionOf (shapes become)
  same := by
    rw [Handle.unionOf_subst known fun a member => (shapes become a member).whole,
      Handle.unnamed_unionOf, Handle.unnamed_unionOf, map_unnamed become]

theorem of_record {symbol : Symbol} {source : RecordSource} {own : List Handle}
    {name : Option String} (become : P.Becomes z names scope (.record symbol source own name) b) :
    ∃ own' name', b = .record symbol source own' name' ∧
      List.Forall₂ (P.Becomes z names scope) own own' := by
  obtain ⟨shaped, same⟩ := become
  cases b with
  | record =>
    obtain ⟨rfl, rfl, parts, _⟩ := Handle.record.inj same
    exact ⟨_, _, rfl, of_shapes shaped.arguments parts⟩
  | _ => cases same

end Becomes

/-- In hints that leak no variable of the scope, to resolve them under arguments is to resolve them
and to replace the variables by the arguments. -/
theorem recordCongruence_becomes (known : Handle.WholeScope scope)
    (named : Pairs.keys scope ⊆ names) :
    RecordCongruence P z (fun file keys e => P.Tight z names (.hint file keys e))
      (fun source keys => P.Tight z names (.fields source keys)) (P.Becomes z names scope) where
  __ := closedRecords_tight P z names
  intrinsic _ := .of_plain rfl trivial rfl rfl
  void _ := .of_plain rfl trivial rfl rfl
  unsupported _ := .of_plain rfl trivial rfl rfl
  typeParameter _ _ _ name tight stands free := by
    have absent : scope.lookup name = none := Pairs.lookup_eq_none_iff.mpr
      fun inside => tight.not_mem stands free (named inside)
    refine .of_plain rfl trivial rfl ?_
    rw [Handle.subst, absent]
    rfl
  list name _ _ become :=
    ⟨.of_single rfl trivial (List.forall_mem_singleton.mpr become.shaped),
      congrArg (Handle.list name) become.same⟩
  awaitable name _ _ become :=
    ⟨.of_single rfl trivial (Becomes.shapes become),
      congrArg (Handle.awaitable name) (Becomes.unnamedAll_eq become)⟩
  union _ _ become := .unionOf known become
  classObject _ _ _ _ _ _ _ _ _ _ become :=
    ⟨.of_single rfl trivial (Becomes.shapes become),
      congrArg (Handle.classObject _) (Becomes.unnamedAll_eq become)⟩
  record _ _ _ _ _ _ _ _ tight stands read count become :=
    ⟨.of_single rfl (by rw [TightRecord, count]; exact tight.step (.ofClass stands read))
        (Becomes.shapes become),
      congrArg (Handle.record _ _ · none) (Becomes.unnamedAll_eq become)⟩
  call _ _ _ _ _ tight stands := .of_plain rfl (tight.step (.ofCall stands)) rfl rfl
  inline _ _ _ _ _ _ _ _ _ tight same first looked := by
    cases same
    exact .of_plain rfl (tight.step (.inline first looked)) rfl rfl
  deferred _ _ _ _ _ _ _ _ _ _ become :=
    ⟨.of_single rfl trivial (Becomes.shapes become),
      congrArg (Handle.deferred _) (Becomes.unnamedAll_eq become)⟩
  renamedLeft _ _ _ _ _ become :=
    ⟨.of_single rfl become.shaped.tight become.shaped.arguments, become.same⟩
  renamedRight _ _ _ _ _ become := ⟨become.shaped, become.same⟩

end Program

end HintSchema

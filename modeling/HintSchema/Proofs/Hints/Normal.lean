import HintSchema.Proofs.Hints.Omittable

/-!
Unions in normal form: at least two members, none of them a union, and no type twice. Forming a
union keeps the first of each type and does not depend on how the types are grouped
(`Handle.unionOf_regroups`), and every union in what a hint, a signature or a property comes to is
in normal form (`Program.unions_proper`).
-/

namespace HintSchema

namespace Handle

/-- The handle stands in the other one, at any depth, or is the other one. -/
def Inside (part h : Handle) : Prop :=
  Relation.ReflTransGen (fun whole part => part ∈ whole.parts) h part

/-- What the members of a union are in normal form. -/
structure Proper (members : List Handle) : Prop where
  several : 2 ≤ members.length
  single : ∀ m ∈ members, m.members? = .none
  distinct : (members.map identity).Nodup

/-- Every union that stands in the handle is in normal form. -/
def Normal (h : Handle) : Prop := ∀ members, Inside (.union members) h → Proper members

/-- The handles of which none before is of the same identity. -/
def firsts (handles : List Handle) : List Handle :=
  (handles.zipIdx.filter fun p => p.1.identity ∉ (handles.take p.2).map identity).map (·.1)

section

variable {h part : Handle} {seen : List Identity} {handles members : List Handle}

/-! ### First occurrences -/

theorem distinctFrom_eq_firsts (handles : List Handle) :
    distinctFrom [] handles = firsts handles := by
  induction handles using List.reverseRecOn with
  | nil => rfl
  | append_singleton handles last ih =>
    have earlier : ∀ p ∈ handles.zipIdx, (handles ++ [last]).take p.2 = handles.take p.2 := by
      intro p member
      obtain ⟨_, bound, _⟩ := List.mem_zipIdx member
      exact List.take_append_of_le_length (by omega)
    have before : handles.zipIdx.filter
          (fun p => p.1.identity ∉ ((handles ++ [last]).take p.2).map identity) =
        handles.zipIdx.filter (fun p => p.1.identity ∉ (handles.take p.2).map identity) :=
      List.filter_congr fun p member => by rw [earlier p member]
    rw [distinctFrom_append, ih, firsts, firsts, List.zipIdx_append, List.filter_append, before,
      List.map_append, List.append_nil]
    congr 1
    by_cases known : last.identity ∈ handles.map identity
    · simp [distinctFrom, known]
    · simp [distinctFrom, known]

theorem mem_identities_distinctFrom_iff {i : Identity} :
    i ∈ (distinctFrom seen handles).map identity ↔ i ∈ handles.map identity ∧ i ∉ seen := by
  induction handles generalizing seen with
  | nil => simp [distinctFrom]
  | cons first rest ih =>
    rw [distinctFrom]
    split
    · rename_i known
      have known := List.contains_iff_mem.mp known
      rw [ih, List.map_cons, List.mem_cons]
      constructor
      · rintro ⟨member, new⟩
        exact ⟨.inr member, new⟩
      · rintro ⟨rfl | member, new⟩
        · exact absurd known new
        · exact ⟨member, new⟩
    · rename_i new
      have new := fun known => new (List.contains_iff_mem.mpr known)
      rw [List.map_cons, List.map_cons, List.mem_cons, List.mem_cons, ih, List.mem_cons, not_or]
      constructor
      · rintro (rfl | ⟨member, _, unseen⟩)
        · exact ⟨.inl rfl, new⟩
        · exact ⟨.inr member, unseen⟩
      · rintro ⟨rfl | member, unseen⟩
        · exact .inl rfl
        · by_cases same : i = first.identity
          · exact .inl same
          · exact .inr ⟨member, same, unseen⟩

theorem nodup_identities_distinctFrom (seen : List Identity) (handles : List Handle) :
    ((distinctFrom seen handles).map identity).Nodup := by
  induction handles generalizing seen with
  | nil => exact List.nodup_nil
  | cons first rest ih =>
    rw [distinctFrom]
    split
    · exact ih seen
    · refine List.nodup_cons.mpr ⟨fun again => ?_, ih _⟩
      exact (mem_identities_distinctFrom_iff.mp again).2 List.mem_cons_self

/-! ### Normal form -/

theorem inside_iff : Inside part h ↔ part = h ∨ ∃ inner ∈ h.parts, Inside part inner := by
  refine Relation.ReflTransGen.cases_head_iff.trans (or_congr eq_comm ?_)
  rfl

theorem normal_iff :
    h.Normal ↔
      (∀ members, h = .union members → Proper members) ∧ ∀ part ∈ h.parts, part.Normal := by
  constructor
  · intro normal
    refine ⟨fun members same => normal members (inside_iff.mpr (.inl same.symm)), ?_⟩
    intro part member members inside
    exact normal members (inside_iff.mpr (.inr ⟨part, member, inside⟩))
  · rintro ⟨own, parts⟩ members inside
    obtain same | ⟨part, member, inside⟩ := inside_iff.mp inside
    · exact own members same.symm
    · exact parts part member members inside

namespace Normal

theorem of_single (single : h.members? = .none) (parts : ∀ part ∈ h.arguments, part.Normal) :
    h.Normal := by
  refine normal_iff.mpr ⟨?_, ?_⟩
  · rintro members rfl
    cases single
  · rw [Handle.parts, single]
    exact parts

theorem intrinsic (kind : Intrinsic) : (Handle.intrinsic kind).Normal :=
  .of_single rfl (List.forall_mem_nil _)

theorem parts (normal : h.Normal) : ∀ part ∈ h.parts, part.Normal := (normal_iff.mp normal).2

theorem arguments (normal : h.Normal) : ∀ part ∈ h.arguments, part.Normal :=
  fun part member => normal.parts part (List.mem_append_right _ member)

theorem of_mem_alternatives (normal : h.Normal) (member : part ∈ h.alternatives) :
    part.members? = .none ∧ part.Normal := by
  obtain ⟨own, parts⟩ := normal_iff.mp normal
  cases h with
  | union members =>
    exact ⟨(own members rfl).single part member, parts part (List.mem_append_left _ member)⟩
  | _ =>
    cases List.mem_singleton.mp member
    exact ⟨rfl, normal⟩

theorem alternatives_ne_nil (normal : h.Normal) : h.alternatives ≠ [] := by
  cases h with
  | union members =>
    have several := ((normal_iff.mp normal).1 members rfl).several
    change members ≠ []
    rintro rfl
    cases several
  | _ => exact List.cons_ne_nil _ _

theorem union (proper : Proper members) (normal : ∀ m ∈ members, m.Normal) :
    (Handle.union members).Normal := by
  refine normal_iff.mpr ⟨?_, ?_⟩
  · rintro _ ⟨⟩
    exact proper
  · simpa [Handle.parts, members?, Handle.arguments] using normal

theorem unionOf (some : handles ≠ []) (normal : ∀ h ∈ handles, h.Normal) :
    (Handle.unionOf handles).Normal := by
  have each : ∀ m ∈ distinctFrom [] (handles.flatMap alternatives),
      m.members? = .none ∧ m.Normal := by
    intro m kept
    obtain ⟨h, member, part⟩ := List.mem_flatMap.mp (mem_of_mem_distinctFrom kept)
    exact (normal h member).of_mem_alternatives part
  have kept : distinctFrom [] (handles.flatMap alternatives) ≠ [] := by
    obtain ⟨h, rest, rfl⟩ := List.exists_cons_of_ne_nil some
    obtain ⟨m, member⟩ :=
      List.exists_mem_of_ne_nil _ (normal h List.mem_cons_self).alternatives_ne_nil
    have candidate : m.identity ∈ ((h :: rest).flatMap alternatives).map identity :=
      List.mem_map_of_mem (List.mem_flatMap.mpr ⟨h, List.mem_cons_self, member⟩)
    intro none
    have found := mem_identities_distinctFrom_iff.mpr ⟨candidate, List.not_mem_nil⟩
    rw [none] at found
    cases found
  have distinct := nodup_identities_distinctFrom [] (handles.flatMap alternatives)
  unfold Handle.unionOf
  split
  · rename_i m only
    exact (each m (only ▸ List.mem_cons_self)).2
  · rename_i notOne
    refine .union ⟨?_, fun m member => (each m member).1, distinct⟩
      fun m member => (each m member).2
    match same : distinctFrom [] (handles.flatMap alternatives) with
    | [] => exact absurd same kept
    | [m] => exact absurd same (notOne m)
    | _ :: _ :: _ => simp

end Normal

/-! ### Grouping and repetition -/

theorem distinctFrom_append_self (handles : List Handle) :
    distinctFrom [] (handles ++ handles) = distinctFrom [] handles := by
  have known : ∀ h ∈ handles, h.identity ∈ handles.map identity ++ [] := by
    intro h member
    exact List.mem_append_left _ (List.mem_map_of_mem member)
  rw [distinctFrom_append, distinctFrom_of_seen known, List.append_nil]

theorem unionOf_append_unionOf {before after : List Handle} (normal : ∀ h ∈ handles, h.Normal) :
    unionOf (before ++ [unionOf handles] ++ after) = unionOf (before ++ handles ++ after) := by
  have inner : (unionOf handles).alternatives = distinctFrom [] (handles.flatMap alternatives) :=
    alternatives_unionOf fun h member part inside =>
      ((normal h member).of_mem_alternatives inside).1
  apply unionOf_congr
  simp only [List.flatMap_append, List.flatMap_singleton, List.append_assoc]
  rw [distinctFrom_append, inner, distinctFrom_distinctFrom_append, ← distinctFrom_append]

theorem perm_identities_distinctFrom {others : List Handle} (perm : others.Perm handles) :
    ((distinctFrom [] others).map identity).Perm ((distinctFrom [] handles).map identity) := by
  refine (List.perm_ext_iff_of_nodup (nodup_identities_distinctFrom [] others)
    (nodup_identities_distinctFrom [] handles)).mpr fun i => ?_
  rw [mem_identities_distinctFrom_iff, mem_identities_distinctFrom_iff, (perm.map identity).mem_iff]

end

/-- A union does not depend on how its types are grouped or how often they come. Of types that are
equal the first one is kept, in the order of the first ones; in another order the types of the union
are the same in another order. -/
theorem unionOf_regroups {xs ys zs : List Handle} (normal : ∀ h ∈ xs ++ ys ++ zs, h.Normal) :
    unionOf (xs ++ [unionOf ys] ++ zs) = unionOf (xs ++ ys ++ zs) ∧
    unionOf (xs ++ xs) = unionOf xs ∧
    (∀ ps, ps.Perm xs →
      ((unionOf ps).alternatives.map identity).Perm ((unionOf xs).alternatives.map identity)) ∧
    (unionOf xs).alternatives = firsts (xs.flatMap alternatives) := by
  have parts {handles : List Handle} (some : handles ⊆ xs ++ ys ++ zs) :
      ∀ h ∈ handles, h.Normal := fun h member => normal h (some member)
  have kept {handles : List Handle} (some : handles ⊆ xs ++ ys ++ zs) :
      (unionOf handles).alternatives = distinctFrom [] (handles.flatMap alternatives) :=
    alternatives_unionOf fun h member part inside =>
      ((parts some h member).of_mem_alternatives inside).1
  have first : xs ⊆ xs ++ ys ++ zs := by simp
  have second : ys ⊆ xs ++ ys ++ zs := by simp
  refine ⟨unionOf_append_unionOf (parts second), ?repeated, ?permuted, ?firsts⟩
  case repeated =>
    apply unionOf_congr
    rw [List.flatMap_append, distinctFrom_append_self]
  case permuted =>
    intro ps perm
    rw [kept first, kept (List.Subset.trans perm.subset first)]
    exact perm_identities_distinctFrom (perm.flatMap_right _)
  case firsts => rw [kept first, distinctFrom_eq_firsts]

/-- Two of the groups have a type in common, and the one in the middle comes to a single type. -/
theorem unionOf_regroups_collapsed :
    let int : Handle := .intrinsic .int
    let str : Handle := .intrinsic .str
    let either : Handle := .union [int, str]
    (∀ h ∈ [either, .none] ++ [str, str] ++ [.none, int], h.Normal) ∧
    unionOf [str, str] = str ∧
    unionOf ([either, .none] ++ [unionOf [str, str]] ++ [.none, int]) =
      unionOf ([either, .none] ++ [str, str] ++ [.none, int]) ∧
    unionOf ([either, .none] ++ [str, str] ++ [.none, int]) = .union [int, str, .none] ∧
    unionOf ([either, .none] ++ [either, .none]) = unionOf [either, .none] ∧
    unionOf [.none, either] = .union [.none, int, str] ∧
    ((unionOf [.none, either]).alternatives.map identity).Perm
      ((unionOf [either, .none]).alternatives.map identity) ∧
    (unionOf [either, .none]).alternatives = firsts [int, str, .none] := by
  intro int str either
  have single (kind : Intrinsic) : (Handle.intrinsic kind).Normal := .intrinsic kind
  have both : (unionOf [int, str]).Normal := .unionOf (List.cons_ne_nil _ _)
    (List.forall_mem_cons.mpr ⟨single _, List.forall_mem_singleton.mpr (single _)⟩)
  have normal : ∀ h ∈ [either, .none] ++ [str, str] ++ [.none, int], h.Normal := by
    intro h member
    simp only [List.cons_append, List.nil_append, List.mem_cons, List.not_mem_nil,
      or_false] at member
    rcases member with rfl | rfl | rfl | rfl | rfl | rfl
    · exact both
    all_goals exact single _
  obtain ⟨grouped, repeated, permuted, kept⟩ := unionOf_regroups normal
  exact ⟨normal, rfl, grouped, rfl, repeated, rfl, permuted _ (.swap _ _ _), kept⟩

end Handle

theorem Formation.normal : Formation Handle.Normal where
  intrinsic kind _ := .intrinsic kind
  void _ := .of_single rfl (List.forall_mem_nil _)
  union _ := .unionOf
  list _ _ _ element := .of_single rfl (List.forall_mem_singleton.mpr element)
  awaitable _ _ each := .of_single rfl each
  classObject _ _ each := .of_single rfl each
  record _ _ _ each := .of_single rfl each
  renamed _ _ _ _ _ normal := .of_single rfl normal.arguments
  typeParameter _ := .of_single rfl (List.forall_mem_nil _)
  unsupported _ := .of_single rfl (List.forall_mem_nil _)
  deferred _ _ each := .of_single rfl each

theorem FieldFormation.normal : FieldFormation Handle.Normal := ⟨.normal, .intrinsic _⟩

namespace Program

theorem Arises.normal {P : Program} {h : Handle} (arises : P.Arises h) : h.Normal := by
  induction arises with
  | hint _ answered =>
    exact (settles_resolve .normal _ (List.forall_mem_nil _) _ _ _ _ answered).1
  | parameter _ answered member =>
    exact (settles_signature .normal _ _ _ _ answered).1.1 _ member
  | result _ answered => exact (settles_signature .normal _ _ _ _ answered).1.2
  | part _ member ih => exact ih.parts _ member
  | expanded _ _ answered ih =>
    exact (settles_apparent Formation.normal ih ih.arguments _ _ _ answered).1
  | property _ _ answered member ih =>
    exact (settles_propertiesOf .normal _ ih.arguments _ _ _ answered).1 _ member

/-- In the answers to all questions every union is in normal form, if it is so in what type
variables stand for; and so it is in every handle that comes up. -/
theorem unions_proper (P : Program) :
    (∀ file scope hint c h d, (∀ v ∈ scope, v.2.Normal) →
      Returns (P.resolve file scope hint) c h d → h.Normal) ∧
    (∀ h c shown d, h.Normal → Returns (P.apparent h) c shown d → shown.Normal) ∧
    (∀ f c s d, Returns (P.signature f) c s d →
      (∀ p ∈ s.parameters, p.handle.Normal) ∧ s.result.Normal) ∧
    (∀ source arguments c members d, (∀ h ∈ arguments, h.Normal) →
      Returns (P.propertiesOf source arguments) c members d → ∀ m ∈ members, m.2.Normal) ∧
    ∀ h, P.Arises h → h.Normal := by
  refine ⟨?resolve, ?apparent, ?signature, ?properties, fun _ => Arises.normal⟩
  case resolve =>
    intro file scope hint c h d known answered
    exact (settles_resolve .normal file known hint _ _ _ answered).1
  case apparent =>
    intro h c shown d normal answered
    exact (settles_apparent .normal normal normal.arguments _ _ _ answered).1
  case signature =>
    intro f c s d answered
    exact (settles_signature .normal f _ _ _ answered).1
  case properties =>
    intro source arguments c members d normal answered
    exact (settles_propertiesOf .normal source normal _ _ _ answered).1

def recordUnder (P : Program) (scope : TypeVariables) (hint : Expr) :
    CheckM (List Identity × List (String × Identity)) := do
  match ← P.resolve P.entry scope (some hint) with
  | .record _ source arguments _ =>
    let properties ← P.propertiesOf source arguments
    return (arguments.map Handle.identity, properties.map fun p => (p.1, p.2.identity))
  | _ => return ([], [])

theorem returns_recordUnder {P : Program} {scope : TypeVariables} {hint : Expr} {c d : CheckState}
    {arguments : List Identity} {fields : List (String × Identity)} (nonempty : fields ≠ [])
    (returned : Returns (P.recordUnder scope hint) c (arguments, fields) d) :
    ∃ symbol source handles aliasName m properties,
      Returns (P.resolve P.entry scope (some hint)) c (.record symbol source handles aliasName) m ∧
      Returns (P.propertiesOf source handles) m properties d ∧
      arguments = handles.map Handle.identity ∧
      fields = properties.map fun p => (p.1, p.2.identity) := by
  obtain ⟨h, m, resolved, returned⟩ := (returns_bind_iff _ _ _).mp returned
  split at returned
  · obtain ⟨properties, n, read, returned⟩ := (returns_bind_iff _ _ _).mp returned
    obtain ⟨same, rfl⟩ := (returns_pure_iff _ _).mp returned
    cases same
    exact ⟨_, _, _, _, m, properties, resolved, read, rfl, rfl⟩
  · exact absurd (congrArg Prod.snd ((returns_pure_iff _ _).mp returned).1) nonempty

/-- A union in an alias, under type variables, and in the fields of a typed dictionary whose keys
may be left out. -/
def maybes : Program := .ofLines ⟨.root, ["app", "functions.py"]⟩ [
  "from typing import Generic, Optional, TypedDict, TypeVar, Union",
  "T = TypeVar(\"T\")",
  "Maybe = Union[T, None]",
  "class Box(TypedDict, Generic[T], total=False):",
  "    value: Union[Maybe[str], T]"]

/-- The argument `Maybe[T] | None`, where `T` stands for `int | None`. -/
theorem unions_proper_maybes :
    let scope : TypeVariables := [("T", .unionOf [.intrinsic .int, .none])]
    let argument : Expr := .binary default .bitOr
      (.subscript default (.name default "Maybe") (.name default "T")) (.literal default .none)
    ∃ symbol source arguments aliasName c properties d,
      (∀ v ∈ scope, v.2.Normal) ∧
      Returns (maybes.resolve maybes.entry scope
          (some (.subscript default (.name default "Box") argument))) (.start maybes)
        (.record symbol source arguments aliasName) c ∧
      (Handle.record symbol source arguments aliasName).Normal ∧
      arguments.map Handle.identity = [.union [.intrinsic .int, .intrinsic .none]] ∧
      Returns (maybes.propertiesOf source arguments) c properties d ∧
      (properties.map fun p => (p.1, p.2.identity)) = [("value", .union [.intrinsic .str,
        .intrinsic .none, .intrinsic .int, .intrinsic .missing])] ∧
      ∀ p ∈ properties, p.2.Normal := by
  intro scope argument
  obtain ⟨resolve, _, _, fields, _⟩ := unions_proper maybes
  have shown : (runFrom
      (maybes.recordUnder scope (.subscript default (.name default "Box") argument))
      (.start maybes)).1 = .ok ([.union [.intrinsic .int, .intrinsic .none]], [("value", .union
        [.intrinsic .str, .intrinsic .none, .intrinsic .int, .intrinsic .missing])]) := by
    decide +kernel
  have known : ∀ v ∈ scope, v.2.Normal := by
    have inner : (Handle.unionOf [.intrinsic .int, .none]).Normal :=
      .unionOf (List.cons_ne_nil _ _) (List.forall_mem_cons.mpr
        ⟨.intrinsic _, List.forall_mem_singleton.mpr (.intrinsic _)⟩)
    exact List.forall_mem_singleton.mpr inner
  obtain ⟨symbol, source, arguments, aliasName, c, properties, resolved, read, own, all⟩ :=
    returns_recordUnder (by simp) (returns_of_ok shown)
  have normal := resolve _ _ _ _ _ _ known resolved
  exact ⟨symbol, source, arguments, aliasName, c, properties, _, known, resolved, normal, own.symm,
    read, all.symm, fields _ _ _ _ _ normal.arguments read⟩

end Program

end HintSchema

import Mathlib.Data.List.Forall2
import Mathlib.Data.List.Induction
import Mathlib.Data.List.Nodup
import HintSchema.Pairs

/-!
Where a value put under a key ends up: at the end for a new key, in place for a known one.
-/

namespace HintSchema.Pairs

variable {α β : Type} [BEq α] {pairs before after : List (α × β)} {key : α}

theorem forall_mem_put {Q : β → Prop} {value : β} (held : ∀ p ∈ pairs, Q p.2) (new : Q value) :
    ∀ p ∈ put pairs key value, Q p.2 := by
  unfold put
  split
  · intro p member
    obtain ⟨q, old, rfl⟩ := List.mem_map.mp member
    split
    · exact new
    · exact held q old
  · intro p member
    rcases List.mem_append.mp member with old | last
    · exact held p old
    · cases List.mem_singleton.mp last
      exact new

theorem forall_mem_foldl_put {γ : Type} {Q : β → Prop} {f : γ → α} {g : γ → β} {items : List γ}
    (held : ∀ p ∈ pairs, Q p.2) (new : ∀ item ∈ items, Q (g item)) :
    ∀ p ∈ items.foldl (fun pairs item => put pairs (f item) (g item)) pairs, Q p.2 := by
  induction items generalizing pairs with
  | nil => exact held
  | cons item rest ih =>
    obtain ⟨first, others⟩ := List.forall_mem_cons.mp new
    exact ih (forall_mem_put held first) others

theorem forall_mem_putAll {Q : β → Prop} {more : List (α × β)} (held : ∀ p ∈ pairs, Q p.2)
    (new : ∀ p ∈ more, Q p.2) : ∀ p ∈ putAll pairs more, Q p.2 :=
  forall_mem_foldl_put held new

theorem forall₂_put {γ : Type} {R : β → γ → Prop} {others : List (α × γ)} {value : β} {other : γ}
    (related : List.Forall₂ (fun p q => p.1 = q.1 ∧ R p.2 q.2) pairs others)
    (new : R value other) :
    List.Forall₂ (fun p q => p.1 = q.1 ∧ R p.2 q.2) (put pairs key value)
      (put others key other) := by
  have known : pairs.any (·.1 == key) = others.any (·.1 == key) := by
    induction related with
    | nil => rfl
    | cons first _ ih => rw [List.any_cons, List.any_cons, ih, first.1]
  unfold put
  rw [known]
  split
  · rw [List.forall₂_map_left_iff, List.forall₂_map_right_iff]
    refine related.imp ?_
    rintro ⟨_, _⟩ ⟨_, _⟩ ⟨rfl, held⟩
    dsimp only
    split
    · exact ⟨rfl, new⟩
    · exact ⟨rfl, held⟩
  · exact List.rel_append related (.cons ⟨rfl, new⟩ .nil)

theorem forall₂_putAll {γ : Type} {R : β → γ → Prop} {others : List (α × γ)}
    {more : List (α × β)} {further : List (α × γ)}
    (related : List.Forall₂ (fun p q => p.1 = q.1 ∧ R p.2 q.2) pairs others)
    (new : List.Forall₂ (fun p q => p.1 = q.1 ∧ R p.2 q.2) more further) :
    List.Forall₂ (fun p q => p.1 = q.1 ∧ R p.2 q.2) (putAll pairs more)
      (putAll others further) := by
  unfold putAll
  induction new generalizing pairs others with
  | nil => exact related
  | cons first _ ih =>
    rw [List.foldl_cons, List.foldl_cons, ← first.1]
    exact ih (forall₂_put related first.2)

theorem lookup_map_snd {γ : Type} (pairs : List (α × β)) (f : β → γ) (key : α) :
    (pairs.map fun p => (p.1, f p.2)).lookup key = (pairs.lookup key).map f := by
  induction pairs with
  | nil => rfl
  | cons p rest ih =>
    rw [List.map_cons, List.lookup_cons, List.lookup_cons, ih]
    cases key == p.1 <;> rfl

theorem map_snd_put {γ : Type} (pairs : List (α × β)) (key : α) (value : β) (f : β → γ) :
    ((put pairs key value).map fun p => (p.1, f p.2)) =
      put (pairs.map fun p => (p.1, f p.2)) key (f value) := by
  have known : (pairs.map fun p => (p.1, f p.2)).any (·.1 == key) = pairs.any (·.1 == key) := by
    rw [List.any_map]
    rfl
  unfold put
  rw [known]
  split
  · rw [List.map_map, List.map_map]
    refine List.map_congr_left fun p _ => ?_
    simp only [Function.comp_apply]
    split <;> rfl
  · rw [List.map_append]
    rfl

omit [BEq α] in
theorem map_snd_zip {γ : Type} (names : List α) (f : β → γ) (values : List β) :
    ((names.zip values).map fun p => (p.1, f p.2)) = names.zip (values.map f) := by
  rw [List.zip_map_right]
  rfl

omit [BEq α] in
theorem keys_zip (names : List α) (values : List β) :
    keys (names.zip values) = names.take values.length := by
  induction names generalizing values with
  | nil => simp [keys]
  | cons name names ih =>
    cases values with
    | nil => simp [keys]
    | cons value values => simpa [keys] using ih values

variable [LawfulBEq α]

theorem any_key_iff : pairs.any (·.1 == key) = true ↔ key ∈ keys pairs := by
  simp only [keys, List.any_eq_true, List.mem_map, beq_iff_eq]

theorem lookup_eq_none_iff : pairs.lookup key = none ↔ key ∉ keys pairs := by
  rw [List.lookup_eq_none_iff]
  constructor
  · intro apart present
    obtain ⟨p, member, rfl⟩ := List.mem_map.mp present
    simpa using apart p member
  · intro absent p member
    rw [bne_iff_ne]
    intro same
    obtain rfl := same
    exact absent (List.mem_map_of_mem member)

theorem mem_keys_of_lookup {value : β} (found : pairs.lookup key = some value) :
    key ∈ keys pairs := by
  by_contra absent
  rw [lookup_eq_none_iff.mpr absent] at found
  cases found

theorem lookup_zip {names : List α} {values : List β} (distinct : names.Nodup)
    (count : names.length = values.length) :
    List.Forall₂ (fun name value => (names.zip values).lookup name = some value) names values := by
  refine List.forall₂_iff_zip.mpr ⟨count, fun {name value} member => ?_⟩
  obtain ⟨before, after, whole⟩ := List.append_of_mem member
  have first : name ∉ keys before := by
    have all : keys (names.zip values) = names := by rw [keys_zip, ← count, List.take_length]
    rw [← all, whole, keys, List.map_append, List.map_cons] at distinct
    exact fun inside => (List.nodup_append.mp distinct).2.2 _ inside _ List.mem_cons_self rfl
  rw [whole, List.lookup_append, lookup_eq_none_iff.mpr first, List.lookup_cons_self,
    Option.none_or]

theorem put_absent (absent : key ∉ keys pairs) (value : β) :
    put pairs key value = pairs ++ [(key, value)] := by
  unfold put
  rw [if_neg]
  rwa [any_key_iff]

theorem replace_absent (absent : key ∉ keys pairs) (value : β) :
    (pairs.map fun p => if p.1 == key then (p.1, value) else p) = pairs := by
  have kept : ∀ p ∈ pairs, (if p.1 == key then (p.1, value) else p) = p := by
    intro p member
    rw [if_neg]
    intro same
    exact absent (List.mem_map.mpr ⟨p, member, eq_of_beq same⟩)
  rw [List.map_congr_left kept, List.map_id']

theorem put_present (old value : β) (first : key ∉ keys before) (last : key ∉ keys after) :
    put (before ++ (key, old) :: after) key value = before ++ (key, value) :: after := by
  unfold put
  rw [if_pos]
  · rw [List.map_append, List.map_cons, replace_absent first, replace_absent last]
    simp
  · rw [any_key_iff]
    simp [keys]

theorem keys_put (value : β) :
    keys (put pairs key value) = keys pairs ∨
      key ∉ keys pairs ∧ keys (put pairs key value) = keys pairs ++ [key] := by
  by_cases known : key ∈ keys pairs
  · refine .inl ?_
    unfold put
    rw [if_pos (any_key_iff.mpr known), keys, List.map_map]
    apply List.map_congr_left
    intro p _
    simp only [Function.comp_apply]
    split <;> rfl
  · refine .inr ⟨known, ?_⟩
    rw [put_absent known, keys, List.map_append]
    rfl

theorem mem_keys_put {other : α} {value : β} :
    other ∈ keys (put pairs key value) ↔ other ∈ keys pairs ∨ other = key := by
  by_cases present : key ∈ keys pairs
  · have same : keys (put pairs key value) = keys pairs := by
      rcases (keys_put value : keys (put pairs key value) = _ ∨ _) with same | ⟨absent, _⟩
      · exact same
      · exact absurd present absent
    rw [same]
    refine ⟨.inl, ?_⟩
    rintro (old | rfl)
    · exact old
    · exact present
  · rw [put_absent present]
    simp [keys]

theorem mem_keys_putAll {other : α} {more : List (α × β)} :
    other ∈ keys (putAll pairs more) ↔ other ∈ keys pairs ∨ other ∈ keys more := by
  unfold putAll
  induction more generalizing pairs with
  | nil => simp [keys]
  | cons p rest ih =>
    rw [List.foldl_cons, ih, mem_keys_put, or_assoc]
    simp [keys]

theorem put_of_mem (present : key ∈ keys pairs) (value : β) :
    put pairs key value = pairs.map fun p => if p.1 == key then (p.1, value) else p := by
  unfold put
  rw [if_pos (any_key_iff.mpr present)]

theorem lookup_put (pairs : List (α × β)) (key : α) (value : β) :
    (put pairs key value).lookup key = some value := by
  unfold put
  split
  · rename_i present
    induction pairs with
    | nil => cases present
    | cons p rest ih =>
      by_cases same : p.1 = key
      · simp [same]
      · have later : rest.any (·.1 == key) = true := by
          simpa only [List.any_cons, beq_eq_false_iff_ne.mpr same, Bool.false_or] using present
        rw [List.map_cons, if_neg (by simpa using same), List.lookup_cons, ih later]
        simp [beq_eq_false_iff_ne.mpr (Ne.symm same)]
  · rename_i absent
    have unknown := lookup_eq_none_iff.mpr fun known => absent (any_key_iff.mpr known)
    rw [List.lookup_append, unknown, List.lookup_cons_self, Option.none_or]

theorem put_put (pairs : List (α × β)) (key : α) (old value : β) :
    put (put pairs key old) key value = put pairs key value := by
  by_cases present : key ∈ keys pairs
  · rw [put_of_mem (mem_keys_put.mpr (.inr rfl)), put_of_mem present, put_of_mem present,
      List.map_map]
    refine List.map_congr_left fun p _ => ?_
    simp only [Function.comp_apply]
    split <;> simp_all
  · rw [put_absent present, put_absent present, put_present old value present List.not_mem_nil]

theorem put_comm {other : α} (present : key ∈ keys pairs) (apart : other ≠ key) (value more : β) :
    put (put pairs key value) other more = put (put pairs other more) key value := by
  have kept : key ∈ keys (put pairs other more) := mem_keys_put.mpr (.inl present)
  rw [put_of_mem kept, put_of_mem present]
  by_cases known : other ∈ keys pairs
  · have again : other ∈ keys (pairs.map fun p => if p.1 == key then (p.1, value) else p) := by
      rw [← put_of_mem present]
      exact mem_keys_put.mpr (.inl known)
    rw [put_of_mem again, put_of_mem known, List.map_map, List.map_map]
    refine List.map_congr_left fun p _ => ?_
    simp only [Function.comp_apply]
    by_cases itself : p.1 = key
    · simp [itself, Ne.symm apart]
    · by_cases same : p.1 = other <;> simp [itself, same, apart]
  · have still : other ∉ keys (pairs.map fun p => if p.1 == key then (p.1, value) else p) := by
      rw [← put_of_mem present, mem_keys_put, not_or]
      exact ⟨known, apart⟩
    rw [put_absent still, put_absent known, List.map_append, List.map_singleton]
    simp [apart]

theorem put_putAll_of_mem {more : List (α × β)} (present : key ∈ keys pairs) (value : β) :
    put (putAll pairs more) key value =
      putAll (put pairs key value) (more.map fun p => if p.1 == key then (p.1, value) else p) := by
  unfold putAll
  induction more generalizing pairs with
  | nil => rfl
  | cons p rest ih =>
    rw [List.foldl_cons, List.map_cons, List.foldl_cons,
      ih (mem_keys_put.mpr (.inl present))]
    congr 1
    by_cases same : p.1 = key
    · rw [if_pos (beq_iff_eq.mpr same), same, put_put, put_put]
    · rw [if_neg (by simpa using same), put_comm present same]

theorem put_putAll (pairs more : List (α × β)) (key : α) (value : β) :
    put (putAll pairs more) key value = putAll pairs (put more key value) := by
  by_cases present : key ∈ keys more
  · rw [put_of_mem present]
    induction more generalizing pairs with
    | nil => cases present
    | cons p rest ih =>
      by_cases same : p.1 = key
      · have again : key ∈ keys (put pairs p.1 p.2) := mem_keys_put.mpr (.inr same.symm)
        rw [List.map_cons, if_pos (beq_iff_eq.mpr same)]
        change put (putAll (put pairs p.1 p.2) rest) key value = putAll (put pairs p.1 value) _
        rw [put_putAll_of_mem again, same, put_put]
      · rw [List.map_cons, if_neg (by simpa using same)]
        exact ih _ (List.mem_of_ne_of_mem (Ne.symm same) present)
  · rw [put_absent present]
    unfold putAll
    rw [List.foldl_concat]

theorem has_eq_isSome (pairs : List (α × β)) (key : α) :
    has pairs key = (get? pairs key).isSome := by
  rw [Bool.eq_iff_iff, has, any_key_iff, get?, Option.isSome_iff_ne_none, ne_eq,
    lookup_eq_none_iff, not_not]

theorem nodup_keys_put (distinct : (keys pairs).Nodup) (value : β) :
    (keys (put pairs key value)).Nodup := by
  have grown : keys (put pairs key value) = keys pairs ∨
      key ∉ keys pairs ∧ keys (put pairs key value) = keys pairs ++ [key] := keys_put value
  rcases grown with same | ⟨new, added⟩
  · rwa [same]
  · rw [added, ← List.concat_eq_append]
    exact distinct.concat new

theorem mem_put_cases {p : α × β} {value : β} (member : p ∈ put pairs key value) :
    p ∈ pairs ∧ p.1 ≠ key ∨ p = (key, value) := by
  unfold put at member
  split at member
  · obtain ⟨q, old, rfl⟩ := List.mem_map.mp member
    split
    · rename_i same
      exact .inr (by rw [eq_of_beq same])
    · rename_i apart
      exact .inl ⟨old, fun same => apart (beq_iff_eq.mpr same)⟩
  · rename_i absent
    rcases List.mem_append.mp member with old | last
    · refine .inl ⟨old, ?_⟩
      rintro rfl
      exact absent (any_key_iff.mpr (List.mem_map_of_mem old))
    · exact .inr (List.mem_singleton.mp last)

theorem mem_put {p : α × β} {value : β} (member : p ∈ put pairs key value) :
    p ∈ pairs ∨ p = (key, value) :=
  (mem_put_cases member).imp_left And.left

theorem mem_putAll_cases {p : α × β} {more : List (α × β)} (member : p ∈ putAll pairs more) :
    p ∈ pairs ∧ p.1 ∉ keys more ∨ p ∈ more := by
  unfold putAll at member
  induction more generalizing pairs with
  | nil => exact .inl ⟨member, List.not_mem_nil⟩
  | cons first rest ih =>
    rw [List.foldl_cons] at member
    rcases ih member with ⟨early, absent⟩ | late
    · rcases mem_put_cases early with ⟨old, apart⟩ | rfl
      · exact .inl ⟨old, List.not_mem_cons_of_ne_of_not_mem apart absent⟩
      · exact .inr List.mem_cons_self
    · exact .inr (List.mem_cons_of_mem _ late)

theorem get?_filterMap {γ : Type} {name : γ → α} {items : List γ}
    (distinct : (items.map name).Nodup) (value : γ → Option β) {item : γ} (member : item ∈ items) :
    get? (items.filterMap fun i => (value i).map (name i, ·)) (name item) = value item := by
  have absent (others : List γ) (apart : name item ∉ others.map name) :
      (others.filterMap fun i => (value i).map (name i, ·)).lookup (name item) = none := by
    rw [lookup_eq_none_iff]
    intro present
    obtain ⟨p, listed, same⟩ := List.mem_map.mp present
    obtain ⟨i, other, given⟩ := List.mem_filterMap.mp listed
    obtain ⟨_, _, rfl⟩ := Option.map_eq_some_iff.mp given
    exact apart (List.mem_map.mpr ⟨i, other, same⟩)
  obtain ⟨before, after, rfl⟩ := List.append_of_mem member
  rw [List.map_append, List.map_cons, List.nodup_middle, List.nodup_cons, List.mem_append,
    not_or] at distinct
  rw [get?, List.filterMap_append, List.lookup_append, absent _ distinct.1.1, Option.none_or]
  cases given : value item with
  | none => rw [List.filterMap_cons_none (by rw [given]; rfl), absent _ distinct.1.2]
  | some v => rw [List.filterMap_cons_some (by rw [given]; rfl), List.lookup_cons_self]

theorem mem_keys_foldl_put {γ : Type} {f : γ → α} {g : γ → β} {items : List γ} {key : α} :
    key ∈ keys (items.foldl (fun pairs item => put pairs (f item) (g item)) []) ↔
      key ∈ items.map f := by
  have whole : key ∈ keys (putAll [] (items.map fun item => (f item, g item))) ↔ _ :=
    mem_keys_putAll
  simpa [putAll, List.foldl_map, keys] using whole

/-- Values that are put one after the other: each key once, in the order in which the keys first
come, and with the last value. -/
theorem foldl_put_eq {γ : Type} (f : γ → α) (g : γ → β) (items : List γ) :
    items.foldl (fun pairs item => put pairs (f item) (g item)) [] =
      (items.map f).eraseDups.filterMap fun key =>
        (items.reverse.find? (f · == key)).map fun item => (key, g item) := by
  induction items using List.reverseRecOn with
  | nil => rfl
  | append_singleton items last ih =>
    have known : f last ∈ keys (items.foldl (fun pairs item => put pairs (f item) (g item)) []) ↔
        f last ∈ items.map f := mem_keys_foldl_put
    rw [List.foldl_concat, List.map_append, List.map_singleton, List.eraseDups_append,
      List.reverse_concat]
    by_cases again : f last ∈ items.map f
    · rw [put_of_mem (known.mpr again), ih, List.map_filterMap]
      have nothing : [f last].removeAll (items.map f) = [] := by simp [List.removeAll, again]
      rw [nothing, List.eraseDups_nil, List.append_nil]
      refine List.filterMap_congr fun key _ => ?_
      by_cases same : f last = key
      · obtain ⟨item, inside, named⟩ := List.mem_map.mp again
        have found : (items.reverse.find? (f · == key)).isSome = true := by
          rw [List.find?_isSome]
          exact ⟨item, List.mem_reverse.mpr inside, beq_iff_eq.mpr (named.trans same)⟩
        obtain ⟨item, found⟩ := Option.isSome_iff_exists.mp found
        simp [found, same]
      · have other : key ≠ f last := Ne.symm same
        rw [List.find?_cons_of_neg (by simpa using same)]
        cases items.reverse.find? (f · == key) with
        | none => rfl
        | some item => simp [other]
    · rw [put_absent (mt known.mp again), ih]
      have new : [f last].removeAll (items.map f) = [f last] := by simp [List.removeAll, again]
      rw [new, List.filterMap_append]
      congr 1
      · refine List.filterMap_congr fun key member => ?_
        have apart : f last ≠ key := by
          rintro rfl
          exact again (List.mem_eraseDups.mp member)
        rw [List.find?_cons_of_neg (by simpa using apart)]
      · simp [List.eraseDups_cons]

end HintSchema.Pairs

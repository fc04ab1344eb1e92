import Mathlib.Data.List.Nodup
import Mathlib.Data.List.Perm.Subperm
import Mathlib.Data.Set.Insert
import Mathlib.Logic.Relation

/-!
Two orders of what is above a member of a hierarchy: the C3 linearisation, in which each member
comes before its parents and these come as they are listed, and the order in which a walk up, depth
first, leaves the members. One is the other reversed just if the first parent of every member leads
to the other parents (`eq_reverse_iff`).
-/

namespace HintSchema.Hierarchy

open Relation (ReflTransGen TransGen)

variable {α : Type}

/-! ### The merge of C3 -/

/-- The member comes in no list after its head. -/
def Free (lists : List (List α)) (a : α) : Prop := ∀ l ∈ lists, a ∉ l.tail

/-- The first head that is free. -/
def Heads (lists : List (List α)) (a : α) : Prop :=
  ∃ before rest after, lists = before ++ (a :: rest) :: after ∧ Free lists a ∧
    ∀ b later, b :: later ∈ before → Free lists b → b = a

/-- The list without the member, if that is its head. -/
inductive Drops (a : α) : List α → List α → Prop
  | head (rest : List α) : Drops a (a :: rest) rest
  | other {l : List α} (apart : l.head? ≠ some a) : Drops a l l

/-- The lists merged: always the first head that is free comes next. -/
inductive Merges : List (List α) → List α → Prop
  | done {lists : List (List α)} (empty : ∀ l ∈ lists, l = []) : Merges lists []
  | next {lists : List (List α)} {a : α} {order : List α} {rest : List α → List α}
      (heads : Heads lists a) (drops : ∀ l ∈ lists, Drops a l (rest l))
      (merges : Merges (lists.map rest) order) : Merges lists (a :: order)

variable {lists : List (List α)} {order l l' : List α} {a b : α}

namespace Drops

theorem mem_iff (drops : Drops a l l') (apart : b ≠ a) : b ∈ l' ↔ b ∈ l := by
  cases drops with
  | head rest => simp [apart]
  | other => rfl

theorem not_mem (drops : Drops a l l') (free : a ∉ l.tail) : a ∉ l' := by
  cases drops with
  | head rest => exact free
  | other apart =>
    cases l with
    | nil => exact List.not_mem_nil
    | cons b rest =>
      rintro (_ | ⟨_, later⟩)
      · exact apart rfl
      · exact free later

theorem sublist (drops : Drops a l l') (later : l'.Sublist order) : l.Sublist (a :: order) := by
  cases drops with
  | head rest => exact later.cons_cons a
  | other => exact later.cons a

theorem sublist_of_sublist_cons (drops : Drops a l l') (whole : l.Sublist (a :: order)) :
    l'.Sublist order := by
  cases drops with
  | head rest => exact List.cons_sublist_cons.mp whole
  | other apart =>
    cases whole with
    | cons _ held => exact held
    | cons_cons => exact absurd rfl apart

theorem eq_of_head (drops : Drops a (a :: l) l') : l' = l := by
  cases drops with
  | head => rfl
  | other apart => exact absurd rfl apart

end Drops

theorem exists_drops (a : α) (l : List α) : ∃ l', Drops a l l' := by
  by_cases head : l.head? = some a
  · obtain ⟨rest, rfl⟩ := List.head?_eq_some_iff.mp head
    exact ⟨rest, .head rest⟩
  · exact ⟨l, .other head⟩

namespace Merges

theorem sublist (merges : Merges lists order) (member : l ∈ lists) : l.Sublist order := by
  induction merges generalizing l with
  | done empty => rw [empty l member]
  | next _ drops _ ih => exact (drops l member).sublist (ih (List.mem_map_of_mem member))

theorem mem_iff (merges : Merges lists order) : a ∈ order ↔ ∃ l ∈ lists, a ∈ l := by
  refine ⟨fun member => ?_, fun ⟨l, inside, member⟩ => (merges.sublist inside).subset member⟩
  induction merges with
  | done => cases member
  | @next lists b _ _ heads drops _ ih =>
    by_cases same : a = b
    · obtain ⟨before, rest, after, rfl, _⟩ := heads
      exact ⟨b :: rest, by simp, same ▸ List.mem_cons_self⟩
    · obtain ⟨_, inside, member⟩ := ih (List.mem_of_ne_of_mem same member)
      obtain ⟨l, outside, rfl⟩ := List.mem_map.mp inside
      exact ⟨l, outside, ((drops l outside).mem_iff same).mp member⟩

theorem nodup (merges : Merges lists order) : order.Nodup := by
  induction merges with
  | done => exact List.nodup_nil
  | next heads drops merges ih =>
    refine List.nodup_cons.mpr ⟨fun again => ?_, ih⟩
    obtain ⟨_, _, _, _, free, _⟩ := heads
    obtain ⟨_, inside, member⟩ := merges.mem_iff.mp again
    obtain ⟨l, outside, rfl⟩ := List.mem_map.mp inside
    exact (drops l outside).not_mem (free l outside) member

theorem of_sublists (distinct : l.Nodup) (member : l ∈ lists)
    (parts : ∀ other ∈ lists, other.Sublist l) : Merges lists l := by
  induction l generalizing lists with
  | nil => exact .done fun other inside => List.sublist_nil.mp (parts other inside)
  | cons a rest ih =>
    obtain ⟨absent, distinct⟩ := List.nodup_cons.mp distinct
    choose without drops using exists_drops a
    refine .next ?_ (fun other _ => drops other) (ih distinct ?_ ?_)
    · obtain ⟨before, after, rfl⟩ := List.append_of_mem member
      refine ⟨before, rest, after, rfl, fun other inside again => ?_, fun b later early free => ?_⟩
      · exact absent ((parts other inside).tail.subset again)
      · have inside := (parts _ (List.mem_append_left _ early)).subset List.mem_cons_self
        exact (List.mem_cons.mp inside).resolve_right (free _ member)
    · rw [← (drops (a :: rest)).eq_of_head]
      exact List.mem_map_of_mem member
    · intro other inside
      obtain ⟨l, outside, rfl⟩ := List.mem_map.mp inside
      exact (drops l).sublist_of_sublist_cons (parts l outside)

end Merges

/-! ### The linearisation -/

variable {parents : α → List α} {x y z : α} {seen : Set α} {todo visited : List α}

def Up (parents : α → List α) (x y : α) : Prop := y ∈ parents x

/-- The member, and then what the linearisations of its parents and the list of these merge to. -/
inductive Linear (parents : α → List α) : α → List α → Prop
  | mk {x : α} {orders : α → List α} {merged : List α}
      (above : ∀ y ∈ parents x, Linear parents y (orders y))
      (merges : Merges ((parents x).map orders ++ [parents x]) merged) :
      Linear parents x (x :: merged)

namespace Linear

theorem head (linear : Linear parents x order) : ∃ rest, order = x :: rest := by
  cases linear with
  | mk above merges => exact ⟨_, rfl⟩

theorem of_root (root : parents x = []) : Linear parents x [x] := by
  have above : ∀ y ∈ parents x, Linear parents y [] := by
    rw [root]
    exact List.forall_mem_nil _
  refine .mk above (.done fun l inside => ?_)
  rw [root] at inside
  exact List.mem_singleton.mp inside

theorem of_roots (distinct : (parents x).Nodup) (roots : ∀ y ∈ parents x, parents y = []) :
    Linear parents x (x :: parents x) := by
  have above : ∀ y ∈ parents x, Linear parents y [y] := fun y parent => .of_root (roots y parent)
  refine .mk above (.of_sublists distinct (by simp) fun l inside => ?_)
  rcases List.mem_append.mp inside with higher | own
  · obtain ⟨y, parent, rfl⟩ := List.mem_map.mp higher
    exact List.singleton_sublist.mpr parent
  · rw [List.mem_singleton.mp own]

theorem mem_iff (linear : Linear parents x order) :
    y ∈ order ↔ ReflTransGen (Up parents) x y := by
  induction linear with
  | @mk x orders merged above merges ih =>
    rw [List.mem_cons, merges.mem_iff]
    constructor
    · rintro (rfl | ⟨l, inside, member⟩)
      · exact .refl
      · rcases List.mem_append.mp inside with higher | own
        · obtain ⟨z, up, rfl⟩ := List.mem_map.mp higher
          exact .head up ((ih z up).mp member)
        · rw [List.mem_singleton.mp own] at member
          exact .single member
    · intro reached
      rcases ReflTransGen.cases_head reached with rfl | ⟨z, up, reached⟩
      · exact .inl rfl
      · refine .inr ⟨orders z, ?_, (ih z up).mpr reached⟩
        exact List.mem_append_left _ (List.mem_map_of_mem up)

theorem not_above_self (linear : Linear parents x order) : ¬ TransGen (Up parents) x x := by
  induction linear with
  | @mk x orders merged above merges ih =>
    intro circle
    obtain ⟨y, up, back⟩ := TransGen.head'_iff.mp circle
    exact ih y up (TransGen.tail' back up)

theorem nodup (linear : Linear parents x order) : order.Nodup := by
  have circle := linear.not_above_self
  cases linear with
  | @mk _ orders _ above merges =>
    refine List.nodup_cons.mpr ⟨fun again => circle ?_, merges.nodup⟩
    obtain ⟨l, inside, member⟩ := merges.mem_iff.mp again
    rcases List.mem_append.mp inside with higher | own
    · obtain ⟨y, up, rfl⟩ := List.mem_map.mp higher
      exact TransGen.head' up ((above y up).mem_iff.mp member)
    · rw [List.mem_singleton.mp own] at member
      exact .single member

end Linear

/-! ### The walk up -/

/-- From members that wait for it, the walk leaves these: each after all that it comes to from its
parents. Members that have been seen are passed over. -/
inductive Walks (parents : α → List α) : Set α → List α → List α → Prop
  | done (seen : Set α) : Walks parents seen [] []
  | old {seen : Set α} {x : α} {rest later : List α} (known : x ∈ seen)
      (others : Walks parents seen rest later) : Walks parents seen (x :: rest) later
  | new {seen : Set α} {x : α} {rest above later : List α} (fresh : x ∉ seen)
      (up : Walks parents (insert x seen) (parents x) above)
      (others : Walks parents (seen ∪ {y | y ∈ above ++ [x]}) rest later) :
      Walks parents seen (x :: rest) (above ++ x :: later)

theorem union_append (seen : Set α) (l l' : List α) :
    seen ∪ {y | y ∈ l} ∪ {y | y ∈ l'} = seen ∪ {y | y ∈ l ++ l'} := by
  ext y
  simp [or_assoc]

theorem insert_union (seen : Set α) (x : α) (l : List α) :
    insert x seen ∪ {y | y ∈ l} = seen ∪ {y | y ∈ l ++ [x]} := by
  rw [Set.insert_union, Set.insert_eq, Set.union_comm, ← union_append]
  congr 1
  ext y
  simp

namespace Walks

theorem not_seen (walks : Walks parents seen todo visited) : ∀ y ∈ visited, y ∉ seen := by
  induction walks with
  | done => exact List.forall_mem_nil _
  | old _ _ ih => exact ih
  | new fresh _ _ above others =>
    rw [List.forall_mem_append, List.forall_mem_cons]
    refine ⟨fun y inside old => above y inside (.inr old), fresh, fun y inside old => ?_⟩
    exact others y inside (.inl old)

theorem nodup (walks : Walks parents seen todo visited) : visited.Nodup := by
  induction walks with
  | done => exact List.nodup_nil
  | old _ _ ih => exact ih
  | new _ up others above later =>
    refine List.nodup_append.mpr ⟨above, List.nodup_cons.mpr ⟨fun again => ?_, later⟩, ?_⟩
    · exact others.not_seen _ again (.inr List.mem_concat_self)
    · rintro y early z inside rfl
      rcases List.mem_cons.mp inside with rfl | late
      · exact up.not_seen y early (.inl rfl)
      · exact others.not_seen y late (.inr (List.mem_append_left _ early))

theorem reached (walks : Walks parents seen todo visited) :
    ∀ y ∈ visited, ∃ x ∈ todo, ReflTransGen (Up parents) x y := by
  induction walks with
  | done => exact List.forall_mem_nil _
  | old _ _ ih =>
    intro y inside
    obtain ⟨x, waiting, reached⟩ := ih y inside
    exact ⟨x, List.mem_cons_of_mem _ waiting, reached⟩
  | @new seen x rest above later _ _ _ higher others =>
    intro y inside
    rcases List.mem_append.mp inside with early | inside
    · obtain ⟨z, up, reached⟩ := higher y early
      exact ⟨x, List.mem_cons_self, .head up reached⟩
    · rcases List.mem_cons.mp inside with rfl | late
      · exact ⟨y, List.mem_cons_self, .refl⟩
      · obtain ⟨z, waiting, reached⟩ := others y late
        exact ⟨z, List.mem_cons_of_mem _ waiting, reached⟩

theorem covers (walks : Walks parents seen todo visited) :
    ∀ y ∈ todo, y ∈ seen ∨ y ∈ visited := by
  induction walks with
  | done => exact List.forall_mem_nil _
  | old known _ ih => exact List.forall_mem_cons.mpr ⟨.inl known, ih⟩
  | new _ _ _ _ others =>
    refine List.forall_mem_cons.mpr ⟨.inr (by simp), fun y waiting => ?_⟩
    rw [List.append_cons, List.mem_append, ← or_assoc]
    exact others y waiting

theorem closed (walks : Walks parents seen todo visited) :
    ∀ y ∈ visited, ∀ z ∈ parents y, z ∈ seen ∨ z ∈ visited := by
  induction walks with
  | done => exact List.forall_mem_nil _
  | old _ _ ih => exact ih
  | @new seen x rest above later _ up _ higher others =>
    have known {z : α} : z ∈ insert x seen ∨ z ∈ above → z ∈ seen ∨ z ∈ above ++ x :: later := by
      rintro ((rfl | old) | early)
      · exact .inr (by simp)
      · exact .inl old
      · exact .inr (List.mem_append_left _ early)
    rw [List.forall_mem_append, List.forall_mem_cons]
    refine ⟨fun y inside z parent => known (higher y inside z parent),
      fun z parent => known (up.covers z parent), fun y inside z parent => ?_⟩
    rw [List.append_cons, List.mem_append, ← or_assoc]
    exact others y inside z parent

theorem eq_nil_iff (walks : Walks parents seen todo visited) :
    visited = [] ↔ ∀ y ∈ todo, y ∈ seen := by
  constructor
  · rintro rfl y waiting
    exact (walks.covers y waiting).resolve_right List.not_mem_nil
  · intro known
    induction walks with
    | done => rfl
    | old _ _ ih => exact ih fun y waiting => known y (List.mem_cons_of_mem _ waiting)
    | new fresh => exact absurd (known _ List.mem_cons_self) fresh

theorem append {first rest later : List α} (walks : Walks parents seen todo first)
    (others : Walks parents (seen ∪ {y | y ∈ first}) rest later) :
    Walks parents seen (todo ++ rest) (first ++ later) := by
  induction walks with
  | done => simpa using others
  | old known _ ih => exact .old known (ih others)
  | @new seen x waiting above late fresh up _ _ ih =>
    rw [List.append_cons, ← union_append] at others
    rw [List.append_assoc]
    exact .new fresh up (ih others)

theorem singleton (up : Walks parents (insert x seen) (parents x) todo) (fresh : x ∉ seen) :
    Walks parents seen [x] (todo ++ [x]) :=
  .new fresh up (.done _)

theorem of_singleton (walks : Walks parents seen [x] visited) (fresh : x ∉ seen) :
    ∃ above, visited = above ++ [x] ∧ Walks parents (insert x seen) (parents x) above := by
  cases walks with
  | old known => exact absurd known fresh
  | new _ up others =>
    cases others with
    | done => exact ⟨_, rfl, up⟩

theorem of_cons (walks : Walks parents seen (x :: todo) visited) :
    ∃ first later, visited = first ++ later ∧ Walks parents seen [x] first ∧
      Walks parents (seen ∪ {y | y ∈ first}) todo later := by
  cases walks with
  | old known others =>
    exact ⟨[], visited, rfl, .old known (.done seen), by simpa using others⟩
  | @new _ _ _ above later fresh up others =>
    exact ⟨above ++ [x], later, by simp, up.singleton fresh, others⟩

theorem unique {other : List α} (walks : Walks parents seen todo visited)
    (again : Walks parents seen todo other) : visited = other := by
  induction walks generalizing other with
  | done => cases again with | done => rfl
  | old known _ ih =>
    cases again with
    | old _ others => exact ih others
    | new fresh => exact absurd known fresh
  | new fresh _ _ higher ih =>
    cases again with
    | old known => exact absurd known fresh
    | new _ up others =>
      obtain rfl := higher up
      rw [ih others]

theorem perm (walks : Walks parents seen [x] visited) (linear : Linear parents x order)
    (fresh : ∀ y ∈ order, y ∉ seen) : visited.Perm order := by
  refine (List.perm_ext_iff_of_nodup walks.nodup linear.nodup).mpr fun y => ?_
  constructor
  · intro inside
    obtain ⟨z, waiting, reached⟩ := walks.reached y inside
    rw [List.mem_singleton.mp waiting] at reached
    exact linear.mem_iff.mpr reached
  · intro member
    have reached := linear.mem_iff.mp member
    induction reached with
    | refl => exact (walks.covers x List.mem_cons_self).resolve_left (fresh x member)
    | tail early up ih =>
      have inside := ih (linear.mem_iff.mpr early)
      exact (walks.closed _ inside _ up).resolve_left (fresh _ member)

end Walks

theorem eq_nil_of_append_cons {before behind rest : List α} (absent : a ∉ behind)
    (same : before ++ a :: behind = rest ++ [a]) : behind = [] := by
  rcases List.eq_nil_or_concat behind with none | ⟨init, last, rfl⟩
  · exact none
  · rw [List.concat_eq_append, ← List.cons_append, ← List.append_assoc] at same
    obtain rfl := List.singleton_inj.mp (List.append_inj_right' same rfl)
    simp at absent

/-- After the first of those that wait, nothing is left just if the others are above it. -/
theorem Linear.eq_nil_iff {later : List α} (linear : Linear parents x order)
    (walks : Walks parents seen [x] visited)
    (others : Walks parents (seen ∪ {y | y ∈ visited}) todo later)
    (fresh : ∀ y ∈ order, y ∉ seen) (waiting : ∀ y ∈ todo, y ∉ seen) :
    later = [] ↔ ∀ y ∈ todo, ReflTransGen (Up parents) x y := by
  have same := walks.perm linear fresh
  rw [others.eq_nil_iff]
  refine forall₂_congr fun y member => ?_
  rw [← linear.mem_iff, ← same.mem_iff]
  exact or_iff_right (waiting y member)

theorem Walks.eq_nil_of_last {later : List α} (walks : Walks parents seen [x] visited)
    (others : Walks parents (seen ∪ {y | y ∈ visited}) todo later) (fresh : x ∉ seen)
    (same : visited ++ later = order ++ [x]) : later = [] := by
  obtain ⟨above, rfl, _⟩ := walks.of_singleton fresh
  rw [← List.append_cons] at same
  refine eq_nil_of_append_cons (fun again => ?_) same
  exact others.not_seen x again (.inr List.mem_concat_self)

/-- The first parent of each of the members leads to the others. -/
def FollowsFirst (parents : α → List α) (members : List α) : Prop :=
  ∀ x ∈ members, ∀ first further, parents x = first :: further →
    ∀ y ∈ further, ReflTransGen (Up parents) first y

namespace Linear

variable {orders : α → List α} {merged further : List α} {first : α}

theorem head_merged (above : ∀ y ∈ parents x, Linear parents y (orders y))
    (merges : Merges ((parents x).map orders ++ [parents x]) merged)
    (listed : parents x = first :: further) : ∃ rest, merged = first :: rest := by
  cases merges with
  | done empty =>
    rw [listed] at empty
    cases empty (first :: further) (by simp)
  | @next _ a order _ heads =>
    refine ⟨order, ?_⟩
    obtain ⟨before, rest, after, whole, free, _⟩ := heads
    have own : a ∈ parents x := by
      have inside : a :: rest ∈ (parents x).map orders ++ [parents x] := by simp [whole]
      rcases List.mem_append.mp inside with higher | last
      · obtain ⟨y, parent, same⟩ := List.mem_map.mp higher
        obtain ⟨_, shown⟩ := (above y parent).head
        rw [shown] at same
        rwa [← (List.cons.inj same).1]
      · rw [← List.mem_singleton.mp last]
        exact List.mem_cons_self
    rw [listed] at own
    rcases List.mem_cons.mp own with rfl | behind
    · rfl
    · exact absurd behind (free (first :: further) (by simp [listed]))

theorem merged_eq (above : ∀ y ∈ parents x, Linear parents y (orders y))
    (merges : Merges ((parents x).map orders ++ [parents x]) merged)
    (listed : parents x = first :: further)
    (leads : ∀ y ∈ further, ReflTransGen (Up parents) first y) : merged = orders first := by
  have parent : first ∈ parents x := by simp [listed]
  have part : (orders first).Sublist merged :=
    merges.sublist (List.mem_append_left _ (List.mem_map_of_mem parent))
  have reached (y : α) (own : y ∈ parents x) : ReflTransGen (Up parents) first y := by
    rw [listed] at own
    rcases List.mem_cons.mp own with rfl | behind
    · exact .refl
    · exact leads y behind
  have within : merged ⊆ orders first := by
    intro y member
    rw [(above first parent).mem_iff]
    obtain ⟨l, inside, member⟩ := merges.mem_iff.mp member
    rcases List.mem_append.mp inside with higher | last
    · obtain ⟨z, own, rfl⟩ := List.mem_map.mp higher
      exact (reached z own).trans ((above z own).mem_iff.mp member)
    · rw [List.mem_singleton.mp last] at member
      exact reached y member
  exact (part.eq_of_length_le (List.subperm_of_subset merges.nodup within).length_le).symm

theorem merged_eq_nil (merges : Merges ((parents x).map orders ++ [parents x]) merged)
    (root : parents x = []) : merged = [] := by
  refine List.eq_nil_iff_forall_not_mem.mpr fun y member => ?_
  obtain ⟨l, inside, member⟩ := merges.mem_iff.mp member
  rw [root] at inside
  rw [List.mem_singleton.mp inside] at member
  cases member

/-- The walk leaves the members in the order of the linearisation reversed just if from each of them
the first parent leads to the others. -/
theorem eq_reverse_iff (linear : Linear parents x order)
    (walks : Walks parents seen [x] visited) (fresh : ∀ y ∈ order, y ∉ seen) :
    visited = order.reverse ↔ FollowsFirst parents order := by
  induction linear generalizing seen visited with
  | @mk x orders merged above merges ih =>
    have linear : Linear parents x (x :: merged) := .mk above merges
    obtain ⟨absent, _⟩ := List.nodup_cons.mp linear.nodup
    obtain ⟨own, fresh⟩ := List.forall_mem_cons.mp fresh
    obtain ⟨higher, rfl, up⟩ := walks.of_singleton own
    rw [List.reverse_cons, List.append_left_inj]
    cases listed : parents x with
    | nil =>
      rw [listed] at up
      cases up with
      | done =>
      obtain rfl := merged_eq_nil merges listed
      refine ⟨fun _ y member first further impossible => ?_, fun _ => rfl⟩
      rw [List.mem_singleton.mp member, listed] at impossible
      cases impossible
    | cons first further =>
      have parent : first ∈ parents x := by simp [listed]
      have unseen (y : α) (member : y ∈ merged) : y ∉ insert x seen := by
        rintro (rfl | old)
        · exact absent member
        · exact fresh y member old
      have within {l : List α} (inside : l ∈ (parents x).map orders ++ [parents x]) : l ⊆ merged :=
        (merges.sublist inside).subset
      have part : orders first ⊆ merged :=
        within (List.mem_append_left _ (List.mem_map_of_mem parent))
      rw [listed] at up
      obtain ⟨early, late, rfl, walks, others⟩ := up.of_cons
      have closed (y : α) (member : y ∈ orders first) : y ∉ insert x seen := unseen y (part member)
      have below := ih first parent walks closed
      have leads_iff := (above first parent).eq_nil_iff walks others closed fun y waiting =>
        unseen y (within List.mem_concat_self (by simp [listed, waiting]))
      constructor
      · intro same
        have late_eq_nil : late = [] := by
          obtain ⟨rest, shown⟩ := head_merged above merges listed
          rw [shown, List.reverse_cons] at same
          exact walks.eq_nil_of_last others (unseen first (shown ▸ List.mem_cons_self)) same
        have leads := leads_iff.mp late_eq_nil
        have whole := merged_eq above merges listed leads
        rw [late_eq_nil, List.append_nil, whole] at same
        refine List.forall_mem_cons.mpr ⟨fun first' further' listed' => ?_, ?_⟩
        · obtain ⟨rfl, rfl⟩ := List.cons.inj (listed.symm.trans listed')
          exact leads
        · rw [whole]
          exact below.mp same
      · intro follows
        have leads := follows x List.mem_cons_self first further listed
        have whole := merged_eq above merges listed leads
        rw [leads_iff.mpr leads, List.append_nil, whole]
        refine below.mpr fun y member => follows y (List.mem_cons_of_mem _ ?_)
        rwa [whole]

end Linear

end HintSchema.Hierarchy

import HintSchema.Proofs.Modules.Bound
import HintSchema.Proofs.Syntax.Tally

/-!
Where no two records are declared at one place, a call that makes a record is bound to one name.
-/

namespace HintSchema

open Tally

variable {p : Position}

def Bound.isCallAt (p : Position) : Bound → Bool
  | .recordCall call => call.pos = p
  | _ => false

namespace Bound

theorem isCallAt_le_tally (value : Expr) :
    ((ofAssignment value).isCallAt p).toNat ≤ value.tally (recordsAt p) := by
  cases value with
  | call pos callee arguments keywords =>
    unfold ofAssignment
    dsimp only
    split
    · exact Nat.zero_le _
    · split
      · rename_i maker
        split
        · simp only [isCallAt, Expr.tally_call, dotted?_of_lastName maker, if_true, record]
          by_cases same : pos = p <;> simp [same]
        · exact Nat.zero_le _
      · exact Nat.zero_le _
  | _ => exact Nat.zero_le _

end Bound

namespace Scope

def callsAt (p : Position) (s : Scope) : Nat := s.names.countP (·.2.isCallAt p)

variable {s : Scope}

theorem callsAt_bind (name : String) (bound : Bound) :
    (s.bind name bound).callsAt p = s.callsAt p + (bound.isCallAt p).toNat := by
  unfold callsAt bind
  rw [List.countP_cons]
  cases bound.isCallAt p <;> rfl

theorem callsAt_assign (name : String) (value : Expr) :
    (s.assign name value).callsAt p ≤ s.callsAt p + value.tally (recordsAt p) := by
  have spent := Bound.isCallAt_le_tally (p := p) value
  unfold assign
  rw [callsAt_bind]
  split <;> exact Nat.add_le_add_left spent _

theorem callsAt_declare (name : String) (hint : Expr) (value : Option Expr) :
    (s.declare name hint value).callsAt p = s.callsAt p := by
  unfold declare
  split
  · exact callsAt_bind ..
  · split
    · exact callsAt_bind ..
    · dsimp only
      rw [callsAt_bind]
      split <;> rfl

theorem callsAt_importModules (items : List ImportAlias) :
    (items.foldl importModule s).callsAt p = s.callsAt p := by
  induction items generalizing s with
  | nil => rfl
  | cons item rest ih =>
    rw [List.foldl_cons, ih, importModule]
    split <;> exact callsAt_bind ..

theorem callsAt_importMembers (module : Option String) (level : Nat) (items : List ImportAlias) :
    (items.foldl (importMember module level) s).callsAt p = s.callsAt p := by
  induction items generalizing s with
  | nil => rfl
  | cons item rest ih =>
    rw [List.foldl_cons, ih, importMember]
    split
    · rfl
    · exact callsAt_bind ..

theorem callsAt_afterAssign (targets : List Expr) (value : Expr) :
    (s.afterStatement (.assign targets value)).callsAt p ≤
      s.callsAt p + value.tally (recordsAt p) := by
  cases targets with
  | nil => exact Nat.le_add_right ..
  | cons target rest =>
    cases rest with
    | cons => cases target <;> exact Nat.le_add_right ..
    | nil =>
      cases target with
      | name => exact callsAt_assign _ value
      | _ => exact Nat.le_add_right ..

end Scope

namespace Statement

mutual

theorem callsAt_after (s : Scope) : ∀ statement : Statement,
    (s.afterStatement statement).callsAt p ≤
      s.callsAt p + statement.tally (recordsAt p)
  | .classDef definition => by
    rw [Scope.afterStatement, Scope.callsAt_bind]
    exact Nat.add_le_add_left (Nat.zero_le _) _
  | .functionDef definition => by
    rw [Scope.afterStatement, Scope.callsAt_bind]
    exact Nat.add_le_add_left (Nat.zero_le _) _
  | .importModules items => (Scope.callsAt_importModules items).le
  | .importFrom _ module level items => (Scope.callsAt_importMembers module level items).le
  | .assign targets value => by
    have spent := Scope.callsAt_afterAssign (p := p) (s := s) targets value
    rw [tally_assign]
    omega
  | .declare target hint value _ => by
    refine Nat.le_trans (Nat.le_of_eq ?_) (Nat.le_add_right _ _)
    cases target with
    | name => exact Scope.callsAt_declare ..
    | _ => rfl
  | .branch _ body orelse => by
    have first := callsAt_afterAll s body
    have last := callsAt_afterAll (s.afterAll body) orelse
    rw [tally_branch]
    exact Nat.le_trans last (by omega)
  | .attempt false body handlers orelse cleanup => by
    have first := callsAt_afterAll s body
    have second := callsAt_afterArms (s.afterAll body) handlers
    have third := callsAt_afterAll ((s.afterAll body).afterArms handlers) orelse
    have last := callsAt_afterAll (((s.afterAll body).afterArms handlers).afterAll orelse) cleanup
    rw [tally_attempt]
    exact Nat.le_trans last (by omega)
  | .attempt true _ _ _ _ | .augment _ _ _ | .expression _ | .loop _ _ _ | .within _ _ _
  | .choice _ _ | .simple _ => Nat.le_add_right ..

theorem callsAt_afterAll (s : Scope) : ∀ statements : List Statement,
    (s.afterAll statements).callsAt p ≤
      s.callsAt p + tallyAll (recordsAt p) statements
  | [] => Nat.le_refl _
  | statement :: rest => by
    have first := callsAt_after s statement
    have last := callsAt_afterAll (s.afterStatement statement) rest
    rw [tallyAll_cons]
    exact Nat.le_trans last (by omega)

theorem callsAt_afterArms (s : Scope) : ∀ arms : List (Arm Statement),
    (s.afterArms arms).callsAt p ≤ s.callsAt p + tallyArms (recordsAt p) arms
  | [] => Nat.le_refl _
  | ⟨_, body⟩ :: rest => by
    have first := callsAt_afterAll s body
    have last := callsAt_afterArms (s.afterAll body) rest
    rw [tallyArms_cons]
    dsimp only
    exact Nat.le_trans last (by omega)

end

end Statement

namespace SourceFile.Apart

variable {s : SourceFile}

theorem callsAt_le (apart : s.Apart) (p : Position) :
    (Scope.ofStatements s.statements).callsAt p ≤ 1 := by
  have spent := Statement.callsAt_afterAll (p := p) .empty s.statements
  have single := List.nodup_iff_count_le_one.mp apart p
  rw [← Node.tally_recordsAt, SourceFile.nodes, Statement.tally_nodesOf] at single
  exact Nat.le_trans spent (by simpa [Scope.callsAt, Scope.empty] using single)

theorem recordCall_unique (apart : s.Apart) (own : s.scope = .ofStatements s.statements)
    {name name' : String} {call call' : RecordCall}
    (first : (name, .recordCall call) ∈ s.scope.names)
    (second : (name', .recordCall call') ∈ s.scope.names) (same : call.pos = call'.pos) :
    name = name' ∧ call = call' := by
  have few := apart.callsAt_le call.pos
  rw [← own, Scope.callsAt, List.countP_eq_length_filter] at few
  have one : (name, Bound.recordCall call) ∈
      s.scope.names.filter fun b => b.2.isCallAt call.pos :=
    List.mem_filter.mpr ⟨first, by simp [Bound.isCallAt]⟩
  have other : (name', Bound.recordCall call') ∈
      s.scope.names.filter fun b => b.2.isCallAt call.pos :=
    List.mem_filter.mpr ⟨second, by simp [Bound.isCallAt, same]⟩
  obtain ⟨only, single⟩ := List.length_eq_one_iff.mp
    (Nat.le_antisymm few (List.length_pos_of_mem one))
  rw [single, List.mem_singleton] at one other
  simpa using one.trans other.symm

end SourceFile.Apart

end HintSchema

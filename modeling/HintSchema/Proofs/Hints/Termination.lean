import HintSchema.Proofs.Hints.Expansion
import HintSchema.Proofs.Hints.Leaks

/-!
The resolution of a hint ends. Every chain of calls is finite: the value of an alias is resolved with
one alias less to expand, and otherwise the hint of a call is inside a text of its caller or inside
its caller's hint. So a bounded depth of calls makes the handle of a hint, for all that it is given
at the bound.
-/

namespace HintSchema

def Binding.aliasKey? : Binding → Option NameKey
  | .alias key _ => some key
  | _ => none

structure HintCall where
  chain : List NameKey
  file : Path
  expr : Expr

namespace HintCall

inductive Makes (P : Program) : HintCall → HintCall → Prop
  | inside {chain : List NameKey} {file : Path} {expr part : Expr}
      (inside : P.Subhint file expr part) : Makes P ⟨chain, file, expr⟩ ⟨chain, file, part⟩
  | value {chain : List NameKey} {file : Path} {expr : Expr} {key : NameKey} {value : Expr}
      (looked : (P.lookupExpr file expr.base).1 = .ok (.alias key value)) (apart : key ∉ chain) :
      Makes P ⟨chain, file, expr⟩ ⟨chain ++ [key], key.file, value⟩

def below (P : Program) (call : HintCall) : List HintCall :=
  (P.subhints call.file call.expr).map (fun part => { call with expr := part }) ++
    match (P.lookupExpr call.file call.expr.base).1 with
    | .ok (.alias key value) => [⟨call.chain ++ [key], key.file, value⟩]
    | _ => []

theorem Makes.mem_below {P : Program} {call other : HintCall} (makes : call.Makes P other) :
    other ∈ call.below P := by
  cases makes with
  | inside inside =>
    exact List.mem_append_left _ (List.mem_map.mpr ⟨_, Program.mem_subhints inside, rfl⟩)
  | value looked =>
    refine List.mem_append_right _ ?_
    rw [looked]
    exact List.mem_singleton.mpr rfl

/-- Calls to this depth make the handle of the hint, whatever the calls beyond come to. -/
def EndsWithin (P : Program) (depth : Nat) (call : HintCall) : Prop :=
  ∀ beyond scope, P.resolveCall^[depth] beyond call.chain call.file scope call.expr =
    P.resolveUnder call.chain call.file scope call.expr

variable {P : Program} {call : HintCall} {depth : Nat}

theorem EndsWithin.mono {more : Nat} (ends : call.EndsWithin P depth) (deeper : depth ≤ more) :
    call.EndsWithin P more := by
  obtain ⟨further, rfl⟩ := Nat.exists_eq_add_of_le deeper
  intro beyond scope
  rw [Function.iterate_add_apply]
  exact ends _ scope

theorem endsWithin_succ (within : ∀ other, call.Makes P other → other.EndsWithin P depth) :
    call.EndsWithin P (depth + 1) := by
  intro beyond scope
  rw [Function.iterate_succ_apply', P.resolveUnder_eq_call]
  refine Program.resolveCall_congr (fun part inside => ?_) fun key value handles looked => ?_
  · exact within _ (.inside inside) beyond scope
  · unfold Program.aliasCall Program.expandCall
    dsimp only
    split
    · rfl
    · rename_i apart
      congr 1
      funext scope
      exact within _ (.value looked apart) beyond scope

end HintCall

namespace Program

variable {P : Program} {file : Path} {limit : Nat} {expr : Expr}

theorem acc_subhint (below : expr.TextsBelow limit) :
    Acc (fun part hint => P.Subhint file hint part) expr := by
  induction limit using Nat.strongRecOn generalizing expr with
  | ind limit shorterText =>
    generalize size : sizeOf expr = bound
    induction bound using Nat.strongRecOn generalizing expr with
    | ind bound smaller =>
      subst size
      refine .intro expr fun part inside => ?_
      cases inside with
      | @argument pos value index _ form found member =>
        have held := shown_subset _ _ member
        have part_le := Expr.sizeOf_le_of_mem_indices held
        have whole := Expr.subscript.sizeOf_spec pos value index
        exact smaller (sizeOf part) (by omega) (below.of_parts (Expr.parts_of_mem_indices held)) rfl
      | @left pos _ right =>
        have whole := Expr.binary.sizeOf_spec pos .bitOr part right
        have parts : part.parts ⊆ (Expr.binary pos .bitOr part right).parts :=
          Expr.parts_subset (by simp [Expr.parts])
        exact smaller (sizeOf part) (by omega) (below.of_parts parts) rfl
      | @right pos left _ =>
        have whole := Expr.binary.sizeOf_spec pos .bitOr left part
        have parts : part.parts ⊆ (Expr.binary pos .bitOr left part).parts :=
          Expr.parts_subset (by simp [Expr.parts])
        exact smaller (sizeOf part) (by omega) (below.of_parts parts) rfl
      | text quotes =>
        have shorter := below _ _ _ (Expr.mem_parts_self _)
        exact shorterText _ shorter quotes.textsBelow

end Program

namespace HintCall

theorem acc_makes (P : Program) (call : HintCall) :
    Acc (fun other call => Makes P call other) call := by
  obtain ⟨chain, file, expr⟩ := call
  generalize left : (P.unexpanded chain).length = limit
  induction limit using Nat.strongRecOn generalizing chain file expr with
  | ind limit fewer =>
    subst left
    have ends : Acc (fun part hint => P.Subhint file hint part) expr :=
      Program.acc_subhint expr.textsBelow_weight
    induction ends with
    | intro expr _ ih =>
      refine .intro _ fun other makes => ?_
      cases makes with
      | inside inside => exact ih _ inside
      | value looked apart =>
        have known := Program.mem_aliases_of_grounds (Program.grounds_lookupExpr looked)
        exact fewer _ (Program.length_unexpanded_lt known apart) _ _ _ rfl

theorem exists_endsWithin (P : Program) (call : HintCall) : ∃ depth, call.EndsWithin P depth := by
  induction call.acc_makes P with
  | intro call _ ih =>
    choose! depth ends using ih
    let bound := ((call.below P).map depth).max?.getD 0
    have above {other : HintCall} (makes : call.Makes P other) : depth other ≤ bound :=
      List.le_max?_getD_of_mem (List.mem_map_of_mem makes.mem_below)
    exact ⟨bound + 1, endsWithin_succ fun other makes => (ends other makes).mono (above makes)⟩

end HintCall

namespace Program

variable {P : Program}

theorem apparent_eq_expandCall (P : Program) (target : AliasRef) (arguments : List Handle) :
    P.apparent (.deferred target arguments) =
      P.expandCall P.resolveUnder [] target arguments := by
  have all : P.unexpanded [] = P.aliases := by simp [unexpanded]
  unfold apparent expandCall resolveUnder
  rw [unexpanded_append, all]

/-- The resolution of hints ends. Take any program, any aliases whose values are being resolved, and
any hint in any file. Whatever the type variables stand for, calls to some depth make the handle of
the hint; so they do for an alias, whatever its arguments are; and so it is one way only to resolve
hints that makes of each hint what a call makes of it. Where no alias is being expanded, that is the
handle of a hint and of a deferred alias. A reference to an alias whose value is being resolved is
not expanded again: it is deferred, with the handles of its arguments. -/
theorem resolution_terminates (P : Program) :
    (∀ chain file expr, ∃ depth, ∀ beyond scope,
      P.resolveCall^[depth] beyond chain file scope expr = P.resolveUnder chain file scope expr) ∧
    (∀ chain target, ∃ depth, ∀ beyond arguments,
      P.expandCall (P.resolveCall^[depth] beyond) chain target arguments =
        P.expandCall P.resolveUnder chain target arguments) ∧
    (∀ resolver, P.resolveCall resolver = resolver ↔ resolver = P.resolveUnder) ∧
    (∀ file scope hint, P.resolve file scope (some hint) = P.resolveUnder [] file scope hint) ∧
    (∀ target arguments, P.apparent (.deferred target arguments) =
      P.expandCall P.resolveUnder [] target arguments) ∧
    ∀ chain file scope expr key value,
      P.StandsFor file (Pairs.keys scope) expr (.alias key value) → key ∈ chain →
      P.resolveUnder chain file scope expr = (do
        let _ ← P.find file expr.base
        let arguments ← expr.bracketed.mapM (P.resolveUnder chain file scope)
        return .deferred ⟨key, value⟩ arguments) := by
  have ends chain file expr : ∃ depth, HintCall.EndsWithin P depth ⟨chain, file, expr⟩ :=
    HintCall.exists_endsWithin P _
  refine ⟨ends, ?expanded, ?unique, P.resolve_eq_under, P.apparent_eq_expandCall, ?deferred⟩
  case expanded =>
    intro chain target
    obtain ⟨depth, within⟩ := ends (chain ++ [target.key]) target.key.file target.value
    refine ⟨depth, fun beyond arguments => ?_⟩
    exact congrArg (P.expandAlias · target arguments) (funext (within beyond))
  case unique =>
    intro resolver
    constructor
    · intro same
      funext chain file scope expr
      obtain ⟨depth, within⟩ := ends chain file expr
      rw [← within resolver scope, Function.iterate_fixed same]
    · rintro rfl
      funext chain file scope expr
      exact (P.resolveUnder_eq_call chain file scope expr).symm
  case deferred =>
    intro chain file scope expr key value stands expanding
    rw [P.resolveUnder_eq_call, resolveCall_of_stands stands]
    unfold aliasCall
    simp only [if_pos expanding]

theorem exists_alias_of_aliasKey? {file : Path} {expr : Expr} {key : NameKey}
    (found : (P.lookupExpr file expr).1.toOption.bind Binding.aliasKey? = some key) :
    ∃ value, (P.lookupExpr file expr).1 = .ok (.alias key value) := by
  obtain ⟨binding, looked, same⟩ := Option.bind_eq_some_iff.mp found
  unfold Binding.aliasKey? at same
  split at same
  · cases same
    exact ⟨_, Except.toOption_eq_some_iff.mp looked⟩
  · cases same

/-- Two modules with an alias each, which mention each other: one in a text inside a text, the other
one under more arguments each time. -/
def forest : Program := .ofModules [
  ("functions.py", [
    "from typing import List, TypeVar, Union",
    "from trees import Tree",
    "T = TypeVar(\"T\")",
    "Forest = Union[T, List[\"'Tree[T]'\"]]"]),
  ("trees.py", [
    "from typing import List, TypeVar, Union",
    "from functions import Forest",
    "T = TypeVar(\"T\")",
    "Tree = Union[T, Forest[List[T]]]"])]

def trees : Path := ⟨.root, ["app", "trees.py"]⟩

def forestOf (argument : Expr) : Expr := .subscript ⟨1, 0⟩ (.name ⟨1, 0⟩ "Forest") argument

/-- Where the values of both aliases are resolved, the first one is met again. -/
theorem resolution_terminates_forest :
    let both : List NameKey := [⟨forest.entry, "Forest"⟩, ⟨trees, "Tree"⟩]
    let again : Expr := .subscript ⟨1, 7⟩ (.name ⟨1, 7⟩ "List") (.name ⟨1, 12⟩ "T")
    (∃ depth, ∀ beyond,
      (runFrom (Handle.identity <$> forest.resolveCall^[depth] beyond [] forest.entry []
        (forestOf (.name ⟨1, 7⟩ "int"))) (.start forest)).1 =
        .ok (.union [.intrinsic .int, .list (.union [.intrinsic .int,
          .alias ⟨forest.entry, "Forest"⟩ [.list (.intrinsic .int)]])])) ∧
    ∃ value,
      forest.StandsFor trees ["T"] (forestOf again) (.alias ⟨forest.entry, "Forest"⟩ value) ∧
      ⟨forest.entry, "Forest"⟩ ∈ both ∧
      forest.resolveUnder both trees [("T", .intrinsic .int)] (forestOf again) = (do
        let _ ← forest.find trees (.name ⟨1, 0⟩ "Forest")
        let arguments ← [again].mapM (forest.resolveUnder both trees [("T", .intrinsic .int)])
        return .deferred ⟨⟨forest.entry, "Forest"⟩, value⟩ arguments) := by
  intro both again
  obtain ⟨ends, _, _, whole, _, deferred⟩ := resolution_terminates forest
  -- The modules are parsed once for both facts.
  have facts : (runFrom (Handle.identity <$> forest.resolve forest.entry []
        (some (forestOf (.name ⟨1, 7⟩ "int")))) (.start forest)).1 =
          .ok (.union [.intrinsic .int, .list (.union [.intrinsic .int,
            .alias ⟨forest.entry, "Forest"⟩ [.list (.intrinsic .int)]])]) ∧
      (forest.lookupExpr trees (.name ⟨1, 0⟩ "Forest")).1.toOption.bind Binding.aliasKey? =
        some ⟨forest.entry, "Forest"⟩ := by
    decide +kernel
  constructor
  · obtain ⟨depth, within⟩ := ends [] forest.entry (forestOf (.name ⟨1, 7⟩ "int"))
    refine ⟨depth, fun beyond => ?_⟩
    rw [within, ← whole]
    exact facts.1
  · obtain ⟨value, looked⟩ := exists_alias_of_aliasKey? facts.2
    have stands : forest.StandsFor trees ["T"] (forestOf again)
        (.alias ⟨forest.entry, "Forest"⟩ value) := ⟨nofun, looked⟩
    exact ⟨value, stands, List.mem_cons_self,
      deferred both trees [("T", .intrinsic .int)] _ _ value stands List.mem_cons_self⟩

end Program

end HintSchema

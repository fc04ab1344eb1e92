import HintSchema.Modules.Lookup
import HintSchema.Proofs.Syntax.Nodes

/-!
What names are bound to is written in the module that binds them, and what a search finds for a name
is bound in the module it says.
-/

namespace HintSchema

namespace Bound

def alias? : Bound → Option Expr
  | .alias target => some target
  | _ => none

/-- What the binding holds is written among the nodes. -/
def Written (whole : List Node) : Bound → Prop
  | .classDef definition => (Statement.classDef definition).nodes ⊆ whole
  | .alias target => target.parts.map .expr ⊆ whole
  | .recordCall call => ∃ callee first rest, callee.dotted?.isSome ∧
      (Expr.call call.pos callee (first :: call.fields :: rest) call.keywords).parts.map .expr ⊆
        whole
  | _ => True

variable {whole : List Node}

theorem dotted?_of_lastName {callee : Expr}
    (maker : Expr.lastName (callee.dotted?.getD "") = "TypedDict") : callee.dotted?.isSome := by
  cases dotted : callee.dotted? with
  | some _ => rfl
  | none =>
    rw [dotted] at maker
    exact absurd maker (by decide)

theorem written_ofAssignment {value : Expr} (held : value.parts.map .expr ⊆ whole) :
    (ofAssignment value).Written whole := by
  unfold ofAssignment
  split
  · rename_i pos callee arguments keywords
    dsimp only
    split
    · trivial
    · split
      · rename_i first fields rest maker
        split
        · exact ⟨callee, first, rest, dotted?_of_lastName maker, held⟩
        · trivial
      · trivial
  · split
    all_goals first | exact held | trivial

end Bound

namespace Scope

/-- Every binding is written among the nodes. -/
def Written (whole : List Node) (s : Scope) : Prop :=
  ∀ name bound, (name, bound) ∈ s.names → bound.Written whole

variable {whole : List Node} {s : Scope}

theorem Written.bind (written : s.Written whole) {name : String} {bound : Bound}
    (new : bound.Written whole) : (s.bind name bound).Written whole := by
  intro other old member
  rcases List.mem_cons.mp member with same | later
  · cases same
    exact new
  · exact written other old later

theorem Written.assign (written : s.Written whole) {name : String} {value : Expr}
    (held : value.parts.map .expr ⊆ whole) : (s.assign name value).Written whole := by
  apply Written.bind _ (Bound.written_ofAssignment held)
  split <;> exact written

theorem Written.declare (written : s.Written whole) {name : String} {hint : Expr}
    {value : Option Expr} (held : (Expr.innerOfOption value).map .expr ⊆ whole) :
    (s.declare name hint value).Written whole := by
  unfold Scope.declare
  split
  · exact written.bind trivial
  · split
    · exact written.bind held
    · apply Written.bind
      · split <;> exact written
      · trivial

theorem Written.importModules (written : s.Written whole) (items : List ImportAlias) :
    (items.foldl importModule s).Written whole := by
  induction items generalizing s with
  | nil => exact written
  | cons item rest ih =>
    apply ih
    unfold importModule
    split <;> exact written.bind trivial

theorem Written.importMembers (written : s.Written whole) (module : Option String) (level : Nat)
    (items : List ImportAlias) : (items.foldl (importMember module level) s).Written whole := by
  induction items generalizing s with
  | nil => exact written
  | cons item rest ih =>
    apply ih
    unfold importMember
    split
    · exact written
    · exact written.bind trivial

theorem Written.afterAssign (written : s.Written whole) (targets : List Expr) {value : Expr}
    (held : value.parts.map .expr ⊆ whole) :
    (s.afterStatement (.assign targets value)).Written whole := by
  cases targets with
  | nil => exact written
  | cons target rest =>
    cases rest with
    | cons => cases target <;> exact written
    | nil =>
      cases target with
      | name => exact written.assign held
      | _ => exact written

theorem Written.afterDeclare (written : s.Written whole) (target hint : Expr)
    {value : Option Expr} (bare : Bool) (held : (Expr.innerOfOption value).map .expr ⊆ whole) :
    (s.afterStatement (.declare target hint value bare)).Written whole := by
  cases target with
  | name => exact written.declare held
  | _ => exact written

end Scope

namespace Statement

variable {whole : List Node}

mutual

theorem written_after (s : Scope) : ∀ statement : Statement, statement.nodes ⊆ whole →
    s.Written whole → (s.afterStatement statement).Written whole
  | .classDef definition, held, written => written.bind held
  | .functionDef definition, _, written => written.bind trivial
  | .importModules items, _, written => written.importModules items
  | .importFrom _ module level items, _, written => written.importMembers module level items
  | .assign targets value, held, written => by
    rw [nodes, List.map_append] at held
    exact written.afterAssign targets (List.append_subset.mp held).2
  | .declare target hint value bare, held, written => by
    rw [nodes, List.map_append] at held
    exact written.afterDeclare target hint bare (List.append_subset.mp held).2
  | .branch _ body orelse, held, written => by
    rw [nodes] at held
    obtain ⟨first, last⟩ := List.append_subset.mp held
    exact written_afterAll _ orelse last (written_afterAll s body first written)
  | .attempt false body handlers orelse cleanup, held, written => by
    rw [nodes] at held
    obtain ⟨held, last⟩ := List.append_subset.mp held
    obtain ⟨held, third⟩ := List.append_subset.mp held
    obtain ⟨first, second⟩ := List.append_subset.mp held
    exact written_afterAll _ cleanup last (written_afterAll _ orelse third
      (written_afterArms _ handlers second (written_afterAll s body first written)))
  | .attempt true _ _ _ _, _, written | .augment _ _ _, _, written | .expression _, _, written
  | .loop _ _ _, _, written | .within _ _ _, _, written | .choice _ _, _, written
  | .simple _, _, written => written

theorem written_afterAll (s : Scope) : ∀ statements : List Statement,
    nodesOf statements ⊆ whole → s.Written whole → (s.afterAll statements).Written whole
  | [], _, written => written
  | statement :: rest, held, written => by
    rw [nodesOf] at held
    obtain ⟨first, later⟩ := List.append_subset.mp held
    exact written_afterAll _ rest later (written_after s statement first written)

theorem written_afterArms (s : Scope) : ∀ arms : List (Arm Statement),
    nodesOfArms arms ⊆ whole → s.Written whole → (s.afterArms arms).Written whole
  | [], _, written => written
  | ⟨_, body⟩ :: rest, held, written => by
    rw [nodesOfArms] at held
    obtain ⟨first, later⟩ := List.append_subset.mp held
    exact written_afterArms _ rest later (written_afterAll s body first written)

end

end Statement

def Yields {α : Type} (Q : α → Prop) (m : SearchM α) : Prop := ∀ s, Q (m.run s).1

namespace Yields

variable {α β : Type} {Q : α → Prop} {R : β → Prop}

theorem pure {a : α} (right : Q a) : Yields Q (pure a) := fun _ => right

theorem bind {m : SearchM α} {next : α → SearchM β} (first : Yields Q m)
    (later : ∀ a, Q a → Yields R (next a)) : Yields R (m >>= next) :=
  fun s => later _ (first s) _

theorem mono {S : α → Prop} {m : SearchM α} (held : Yields Q m) (weaker : ∀ a, Q a → S a) :
    Yields S m :=
  fun s => weaker _ (held s)

theorem after {m : SearchM α} {next : α → SearchM β} (later : ∀ a, Yields R (next a)) :
    Yields R (m >>= next) :=
  fun _ => later _ _

end Yields

namespace Program

/-- What is found is bound in the module it says; an alias is the first that its name is bound to.
-/
def Grounds (P : Program) : Binding → Prop
  | .classDef file definition => ∃ name, (name, .classDef definition) ∈ (P.source file).scope.names
  | .alias key value =>
    ((P.source key.file).scope.boundTo key.name).findSome? Bound.alias? = some value
  | .recordCall key call => (key.name, .recordCall call) ∈ (P.source key.file).scope.names
  | _ => True

variable {P : Program} {recur : Path → String → SearchM Binding} {file : Path} {name : String}

theorem grounds_memberOfSpecial (module name : String) : P.Grounds (memberOfSpecial module name) := by
  unfold memberOfSpecial
  dsimp only
  split <;> trivial

theorem source_cases (P : Program) (file : Path) :
    (P.source file ∈ P.sources ∧ (P.source file).path = file) ∨ P.source file = .missing file := by
  unfold source
  cases found : P.source? file with
  | none => exact .inr rfl
  | some s =>
    have same := List.find?_some found
    exact .inl ⟨List.mem_of_find?_eq_some found, by simpa using same⟩

theorem path_source (P : Program) (file : Path) : (P.source file).path = file := by
  rcases P.source_cases file with ⟨_, same⟩ | missing
  · exact same
  · rw [missing]
    rfl

theorem mem_names_of_boundTo {s : Scope} {bound : Bound} (member : bound ∈ s.boundTo name) :
    (name, bound) ∈ s.names := by
  obtain ⟨⟨other, _⟩, present, rfl⟩ := List.mem_map.mp member
  obtain ⟨inside, same⟩ := List.mem_filter.mp present
  cases eq_of_beq same
  exact inside

theorem yields_orSubmodule {target : Path} {found : Binding} (grounds : P.Grounds found) :
    Yields P.Grounds (P.orSubmodule target name found) := by
  unfold orSubmodule
  split
  · exact .pure grounds
  · apply Yields.after
    intro _
    split
    · exact .pure trivial
    · exact .pure grounds

theorem yields_importedModule (P : Program) (file : Path) (module : String) :
    Yields P.Grounds (P.importedModule file module) := by
  unfold importedModule
  split
  · exact .pure trivial
  · apply Yields.after
    intro target
    cases target <;> exact .pure trivial

/-- A binding that no alias of the same name comes before; an alias itself always resolves. -/
theorem yields_resolveBound (below : ∀ file name, Yields P.Grounds (recur file name))
    {before after : List Bound} (bound : Bound)
    (whole : (P.source file).scope.boundTo name = before ++ bound :: after)
    (first : ∀ b ∈ before, b.alias? = none) :
    Yields (fun found => P.Grounds found ∧ (found.unresolved?.isNone ∨ bound.alias? = none))
      (P.resolveBound recur file name bound) := by
  have inside : (name, bound) ∈ (P.source file).scope.names :=
    mem_names_of_boundTo (by simp [whole])
  match bound with
  | .classDef definition => exact .pure ⟨⟨name, inside⟩, .inl rfl⟩
  | .recordCall call => exact .pure ⟨inside, .inl rfl⟩
  | .alias value =>
    refine .pure ⟨?_, .inl rfl⟩
    change List.findSome? _ _ = _
    rw [whole, List.findSome?_append, List.findSome?_eq_none_iff.mpr first]
    rfl
  | .typeVariable | .value => exact .pure ⟨trivial, .inl rfl⟩
  | .module other =>
    exact (yields_importedModule P file other).mono fun _ grounds => ⟨grounds, .inr rfl⟩
  | .member module level source =>
    rw [resolveBound]
    split
    · exact .pure ⟨grounds_memberOfSpecial _ _, .inr rfl⟩
    · apply Yields.after
      intro target
      cases target with
      | none => exact .pure ⟨trivial, .inr rfl⟩
      | some target =>
        refine Yields.mono ((below target source).bind fun _ => yields_orSubmodule) ?_
        exact fun _ grounds => ⟨grounds, .inr rfl⟩

theorem yields_firstResolved (below : ∀ file name, Yields P.Grounds (recur file name))
    {before bounds : List Bound}
    (whole : (P.source file).scope.boundTo name = before ++ bounds)
    (first : ∀ b ∈ before, b.alias? = none) :
    Yields (fun found => ∀ b, found = some b → P.Grounds b)
      (P.firstResolved recur file name bounds) := by
  induction bounds generalizing before with
  | nil => exact .pure fun _ impossible => by cases impossible
  | cons bound rest ih =>
    unfold firstResolved
    refine Yields.bind (yields_resolveBound below bound whole first) ?_
    rintro found ⟨grounds, resolves⟩
    split
    · exact .pure fun _ same => by cases same; exact grounds
    · rename_i unresolved
      have next : ∀ b ∈ before ++ [bound], b.alias? = none :=
        List.forall_mem_append.mpr
          ⟨first, List.forall_mem_singleton.mpr (resolves.resolve_left unresolved)⟩
      refine Yields.bind (ih (by simp [whole]) next) ?_
      intro later others
      cases later with
      | none => exact .pure fun _ same => by cases same; exact grounds
      | some later =>
        refine .pure fun _ same => ?_
        cases same
        split
        · exact others later rfl
        · exact grounds

theorem yields_throughStars (below : ∀ file name, Yields P.Grounds (recur file name))
    (stars : List (Option String × Nat)) :
    Yields (fun found => ∀ b, found = some b → P.Grounds b)
      (P.throughStars recur file name stars) := by
  induction stars with
  | nil => exact .pure fun _ impossible => by cases impossible
  | cons star rest ih =>
    unfold throughStars
    split
    · exact .pure fun _ same => by cases same; trivial
    · apply Yields.after
      intro target
      cases target with
      | none => exact ih
      | some target =>
        refine (below target name).bind fun found grounds => ?_
        split
        · exact .pure fun _ same => by cases same; exact grounds
        · exact ih

theorem yields_search (P : Program) (limit : Nat) (file : Path) (name : String) :
    Yields P.Grounds (P.search limit file name) := by
  induction limit generalizing file name with
  | zero => exact .pure trivial
  | succ limit ih =>
    unfold search searchStep
    apply Yields.after
    intro s
    split
    · exact .pure trivial
    · apply Yields.after
      intro _
      refine (yields_firstResolved ih (List.nil_append _).symm (List.forall_mem_nil _)).bind
        fun found bound => ?_
      cases found with
      | some found => exact .pure (bound found rfl)
      | none =>
        refine (yields_throughStars ih _).bind fun found through => ?_
        cases found with
        | some found => exact .pure (through found rfl)
        | none =>
          dsimp only
          split <;> exact .pure trivial

theorem grounds_lookupName (P : Program) (file : Path) (name : String) :
    P.Grounds (P.lookupName file name).1 := by
  unfold lookupName
  have grounds := yields_search P (P.searchLimit name) file name {}
  generalize StateT.run (P.search (P.searchLimit name) file name) {} = result at grounds ⊢
  exact grounds

theorem grounds_lookupExpr {found : Binding} {expr : Expr}
    (looked : (P.lookupExpr file expr).1 = .ok found) : P.Grounds found := by
  cases expr with
  | name pos id =>
    cases looked
    exact grounds_lookupName P file id
  | member pos value attr =>
    rw [lookupExpr] at looked
    split at looked
    rename_i base opened _
    dsimp only at looked
    split at looked
    · cases looked
    · cases looked
      trivial
    · cases looked
      exact grounds_memberOfSpecial _ _
    · rename_i target _
      have named := grounds_lookupName P target attr
      generalize P.lookupName target attr = result at named looked
      have submodule : Yields P.Grounds (P.orSubmodule target attr result.1) :=
        yields_orSubmodule named
      have member := submodule {}
      generalize StateT.run (P.orSubmodule target attr result.1) {} = final at member looked
      rw [← Except.ok.inj looked]
      exact member
    · cases looked
      trivial
  | _ =>
    unfold lookupExpr at looked
    dsimp only at looked
    generalize Expr.source? _ = written at looked
    cases written with
    | error => cases looked
    | ok =>
      cases looked
      trivial

theorem written_of_mem_names {s : SourceFile} (own : s.scope = .ofStatements s.statements)
    {bound : Bound} (member : (name, bound) ∈ s.scope.names) : bound.Written s.nodes := by
  have empty : Scope.empty.Written s.nodes := fun _ _ impossible => by cases impossible
  have written := Statement.written_afterAll _ s.statements (List.Subset.refl _) empty
  rw [own] at member
  exact written name bound member

theorem mem_names_of_findSome? {s : Scope} {value : Expr}
    (found : (s.boundTo name).findSome? Bound.alias? = some value) :
    (name, .alias value) ∈ s.names := by
  obtain ⟨bound, member, same⟩ := List.exists_of_findSome?_eq_some found
  match bound with
  | .alias target =>
    cases same
    exact mem_names_of_boundTo member

end Program

end HintSchema

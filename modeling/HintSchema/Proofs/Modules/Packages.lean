import HintSchema.Proofs.Modules.Whole

/-!
Modules in packages. A module below regular packages is found in one step by its whole dotted name,
and part by part from each package to the next: both ways lead to one file.
-/

namespace HintSchema

namespace Path

variable {p : Path} {s : String}

structure IsComponent (s : String) : Prop where
  single : '/' ∉ s.toList
  named : s ≠ "" ∧ s ≠ "."
  down : s ≠ ".."

/-- The path is absolute and never goes up. -/
structure IsSettled (p : Path) : Prop where
  absolute : p.anchor ≠ .relative
  down : ".." ∉ p.parts

theorem IsComponent.ofString (component : IsComponent s) : Path.ofString s = ⟨.relative, [s]⟩ := by
  have anchor : anchorOf s = .relative := by
    unfold anchorOf
    split
    all_goals first
      | rfl
      | rename_i same
        exact absurd (same ▸ List.mem_cons_self) component.single
  unfold Path.ofString components Text.splitAt
  rw [anchor, Text.pieces_of_not_mem component.single]
  simp [component.named]

theorem IsComponent.div (component : IsComponent s) : p / s = ⟨p.anchor, p.parts ++ [s]⟩ := by
  change p.append (.ofString s) = _
  rw [component.ofString]
  rfl

theorem IsComponent.parent_div (component : IsComponent s) : (p / s).parent = p := by
  rw [component.div, parent, List.dropLast_concat]

theorem IsComponent.name_div (component : IsComponent s) : (p / s).name = s := by
  rw [component.div, name, List.getLast?_concat]
  rfl

theorem IsSettled.div (settled : p.IsSettled) (component : IsComponent s) : (p / s).IsSettled := by
  rw [component.div]
  refine ⟨settled.absolute, fun member => ?_⟩
  rcases List.mem_append.mp member with before | last
  · exact settled.down before
  · exact component.down (List.mem_singleton.mp last).symm

theorem normalParts_of_not_mem {parts : List String} (down : ".." ∉ parts) (before : List String) :
    normalParts before parts = before.reverse ++ parts := by
  induction parts generalizing before with
  | nil => simp [normalParts]
  | cons part rest ih =>
    have other : part ≠ ".." := fun same => down (same ▸ List.mem_cons_self)
    rw [normalParts, ih fun member => down (List.mem_cons_of_mem _ member), List.reverse_cons,
      List.append_assoc]
    · rfl
    · exact other

theorem IsSettled.resolve (settled : p.IsSettled) (cwd : Path) : p.resolve cwd = p := by
  have whole : cwd.append p = p := by
    unfold append
    split
    · rename_i relative
      exact absurd relative settled.absolute
    · rfl
  unfold Path.resolve
  rw [whole]
  change { p with parts := normalParts [] p.parts } = p
  rw [normalParts_of_not_mem settled.down]
  rfl

theorem IsSettled.parent (settled : p.IsSettled) : p.parent.IsSettled :=
  ⟨settled.absolute, fun member => settled.down (List.dropLast_subset _ member)⟩

theorem not_mem_normalParts {before : List String} (down : ".." ∉ before) (parts : List String) :
    ".." ∉ normalParts before parts := by
  induction parts generalizing before with
  | nil => simpa [normalParts] using down
  | cons part rest ih =>
    unfold normalParts
    split
    · simpa using down
    · rename_i same
      cases same
      exact ih fun member => down (List.mem_of_mem_tail member)
    · rename_i other same
      cases same
      exact ih fun member => (List.mem_cons.mp member).elim (fun same => other same.symm) down

theorem isSettled_resolve {cwd : Path} (absolute : cwd.anchor ≠ .relative) (p : Path) :
    (p.resolve cwd).IsSettled := by
  refine ⟨?_, not_mem_normalParts List.not_mem_nil _⟩
  change (cwd.append p).anchor ≠ .relative
  unfold append
  split
  · exact absolute
  · assumption

end Path

namespace Resolver

variable {base : Path} {parts : List String}

theorem isSettled_joinAll (settled : base.IsSettled)
    (components : ∀ part ∈ parts, Path.IsComponent part) :
    (joinAll base parts).IsSettled := by
  induction parts generalizing base with
  | nil => exact settled
  | cons part rest ih =>
    obtain ⟨first, later⟩ := List.forall_mem_cons.mp components
    exact ih (settled.div first) later

theorem findIn?_concat (r : Resolver) (base : Path) (front : List String) (last : String) :
    r.findIn? base (front ++ [last]) = r.findIn? (joinAll base front) [last] := by
  simp [findIn?, candidates, joinAll]

theorem findIn?_of_package {r : Resolver} (nonempty : parts ≠ [])
    (package : r.tree.isFile (joinAll base parts / "__init__.py") = true) :
    r.findIn? base parts = some (joinAll base parts / "__init__.py") := by
  unfold findIn? candidates
  cases last : parts.getLast? with
  | none => exact absurd (List.getLast?_eq_none_iff.mp last) nonempty
  | some last => exact List.find?_cons_of_pos package

theorem isSettled_make {tree : FileTree} {root : Path} (absolute : tree.cwd.anchor ≠ .relative)
    (settled : root.IsSettled) (searchPaths : List String) :
    ∀ directory ∈ (make tree root searchPaths).directories, directory.IsSettled := by
  unfold make
  dsimp only
  have each : ∀ directory ∈ [root], directory.IsSettled := List.forall_mem_singleton.mpr settled
  generalize [root] = directories at each ⊢
  induction searchPaths generalizing directories with
  | nil => exact each
  | cons entry rest ih =>
    refine ih _ ?_
    dsimp only
    split
    · exact List.forall_mem_append.mpr ⟨each, List.forall_mem_singleton.mpr
        (Path.isSettled_resolve absolute _)⟩
    · exact each

end Resolver

namespace Program

variable {directory : Path}

theorem isComponent_init : Path.IsComponent "__init__.py" :=
  ⟨by decide, by decide, by decide⟩

theorem isSettled_of_load {P : Program} {tree : FileTree} {libraries : List String} {entry : Path}
    {settings : Settings} (absolute : tree.cwd.anchor ≠ .relative)
    (loaded : load tree libraries entry settings = .ok P) :
    ∀ directory ∈ P.resolver.directories, directory.IsSettled := by
  obtain ⟨_, resolver, _⟩ := eq_of_load loaded
  rw [resolver]
  exact Resolver.isSettled_make absolute (Path.isSettled_resolve absolute entry).parent _

def packageAt (P : Program) (directory : Path) (parts : List String) : Path :=
  P.resolver.tree.resolve (Resolver.joinAll directory parts / "__init__.py")

theorem resolveSubmodule?_packageAt (P : Program) (settled : directory.IsSettled)
    (front : List String) (components : ∀ part ∈ front, Path.IsComponent part) (part : String) :
    P.resolveSubmodule? (P.packageAt directory front) part =
      (P.resolver.findIn? directory (front ++ [part])).map P.resolver.tree.resolve := by
  have joined := Resolver.isSettled_joinAll settled components
  have own : P.packageAt directory front = Resolver.joinAll directory front / "__init__.py" :=
    (joined.div isComponent_init).resolve _
  have package : (P.source (P.packageAt directory front)).isPackage = true := by
    unfold SourceFile.isPackage
    rw [path_source, own, isComponent_init.name_div]
    decide
  unfold resolveSubmodule?
  rw [if_pos package, own, isComponent_init.parent_div, Resolver.findIn?_concat]

end Program

end HintSchema

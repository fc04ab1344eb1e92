import HintSchema.Proofs.Modules.Opening

/-!
Programs that have every module they import. A module is found under a name that ends like that of a
module, so a program that is loaded has read it.
-/

namespace HintSchema

namespace Text

theorem pieces_of_not_mem {separator : Char} {chars : List Char} (clear : separator ∉ chars) :
    pieces separator chars = [chars] := by
  induction chars with
  | nil => rfl
  | cons c rest ih =>
    have other : c ≠ separator := fun same => clear (same ▸ List.mem_cons_self)
    rw [pieces, if_neg other, ih fun member => clear (List.mem_cons_of_mem _ member)]

theorem pieces_append {separator : Char} {ending : List Char} (clear : separator ∉ ending)
    (chars : List Char) :
    ∃ front start, pieces separator (chars ++ ending) = front ++ [start ++ ending] := by
  induction chars with
  | nil => exact ⟨[], [], pieces_of_not_mem clear⟩
  | cons c rest ih =>
    obtain ⟨front, start, same⟩ := ih
    rw [List.cons_append, pieces, same]
    split
    · exact ⟨[] :: front, start, rfl⟩
    · cases front with
      | nil => exact ⟨[], c :: start, rfl⟩
      | cons first more => exact ⟨(c :: first) :: more, start, rfl⟩

end Text

namespace Path

/-- The last component ends in one of the ways in which that of a module ends. -/
def EndsAsModule (parts : List String) : Prop :=
  ∃ front last, parts = front ++ [last] ∧
    (['.', 'p', 'y'] <:+ last.toList ∨ ['.', 'p', 'y', 'i'] <:+ last.toList)

theorem EndsAsModule.append {parts : List String} (ends : EndsAsModule parts)
    (before : List String) : EndsAsModule (before ++ parts) := by
  obtain ⟨front, last, rfl, written⟩ := ends
  exact ⟨before ++ front, last, (List.append_assoc ..).symm, written⟩

theorem endsAsModule_components (s ending : String)
    (module : ending = ".py" ∨ ending = ".pyi") : EndsAsModule (components (s ++ ending)) := by
  have clear : '/' ∉ ending.toList := by rcases module with rfl | rfl <;> decide
  have long : 2 ≤ ending.toList.length := by rcases module with rfl | rfl <;> decide
  obtain ⟨front, start, same⟩ := Text.pieces_append clear s.toList
  have other {short : String} (brief : short.toList.length < 2) :
      String.ofList (start ++ ending.toList) ≠ short := by
    rintro rfl
    rw [String.toList_ofList, List.length_append] at brief
    omega
  have kept : (decide (String.ofList (start ++ ending.toList) ≠ "") &&
      decide (String.ofList (start ++ ending.toList) ≠ ".")) = true := by
    rw [Bool.and_eq_true, decide_eq_true_iff, decide_eq_true_iff]
    exact ⟨other (by decide), other (by decide)⟩
  unfold components Text.splitAt
  rw [String.toList_append, same, List.map_append, List.filter_append, List.map_singleton,
    List.filter_singleton, kept, cond_true]
  refine ⟨_, _, rfl, ?_⟩
  rw [String.toList_ofList]
  rcases module with rfl | rfl
  · exact .inl (List.suffix_append _ _)
  · exact .inr (List.suffix_append _ _)

theorem endsAsModule_div (p : Path) (s ending : String)
    (module : ending = ".py" ∨ ending = ".pyi") : EndsAsModule (p / (s ++ ending)).parts := by
  have ends := endsAsModule_components s ending module
  change EndsAsModule (p.append (ofString (s ++ ending))).parts
  unfold append
  split
  · exact ends.append _
  · exact ends

theorem normalParts_append_singleton (before front : List String) {last : String}
    (down : last ≠ "..") :
    ∃ init, normalParts before (front ++ [last]) = init ++ [last] := by
  induction front generalizing before with
  | nil =>
    refine ⟨before.reverse, ?_⟩
    rw [List.nil_append, normalParts]
    · simp [normalParts]
    · exact down
  | cons part rest ih =>
    rw [List.cons_append]
    unfold normalParts
    split
    · rename_i same
      cases same
    · rename_i same
      cases same
      exact ih _
    · rename_i same
      cases same
      exact ih _

theorem EndsAsModule.resolve {p : Path} (ends : EndsAsModule p.parts) (cwd : Path) :
    EndsAsModule (p.resolve cwd).parts := by
  have whole : EndsAsModule (cwd.append p).parts := by
    unfold Path.append
    split
    · exact ends.append _
    · exact ends
  obtain ⟨front, last, same, written⟩ := whole
  have down : last ≠ ".." := by
    rintro rfl
    rcases written with short | short
    · exact absurd short.length_le (by decide)
    · exact absurd short.length_le (by decide)
  obtain ⟨init, normal⟩ := normalParts_append_singleton [] front down
  refine ⟨init, last, ?_, written⟩
  change normalParts [] (cwd.append p).parts = _
  rw [same, normal]

theorem EndsAsModule.isModulePath {p : Path} (ends : EndsAsModule p.parts) :
    Program.isModulePath p = true := by
  obtain ⟨front, last, same, written⟩ := ends
  have name : p.name = last := by simp [Path.name, same]
  unfold Program.isModulePath
  rw [name, Bool.or_eq_true]
  rcases written with suffix | suffix
  · exact .inl (String.Slice.endsWith_string_iff.mpr (by simpa using suffix))
  · exact .inr (String.Slice.endsWith_string_iff.mpr (by simpa using suffix))

end Path

namespace FileTree

variable {t : FileTree}

theorem walk_eq_some {anchor : Anchor} {before parts : List String} {place : Path}
    (walked : t.walk ⟨anchor, before.reverse⟩ parts = some place) :
    place = ⟨anchor, Path.normalParts before parts⟩ := by
  induction parts generalizing before with
  | nil =>
    cases walked
    rfl
  | cons part rest ih =>
    rw [walk] at walked
    split at walked
    · split at walked
      · rename_i up
        rw [up, Path.normalParts]
        apply ih
        simpa [Path.parent] using walked
      · rename_i down
        rw [Path.normalParts]
        · apply ih
          simpa using walked
        · exact down
    · cases walked

theorem fileAt?_of_isFile {p : Path} (present : t.isFile p = true) :
    (t.fileAt? (t.resolve p)).isSome := by
  unfold isFile at present
  split at present
  · rename_i place located
    have walked : t.walk ⟨(t.cwd.append p).anchor, [].reverse⟩ (t.cwd.append p).parts = some place :=
      located
    have same : place = t.resolve p := walk_eq_some walked
    rwa [← same]
  · cases present

end FileTree

namespace Resolver

variable {r : Resolver} {base found : Path} {parts : List String}

theorem endsAsModule_candidates (base : Path) (parts : List String) :
    ∀ p ∈ candidates base parts, Path.EndsAsModule p.parts := by
  have package (directory : Path) := Path.endsAsModule_div directory "__init__" ".py" (.inl rfl)
  unfold candidates
  split
  · exact List.forall_mem_singleton.mpr (package _)
  · rename_i last _
    dsimp only
    refine List.forall_mem_cons.mpr ⟨package _, List.forall_mem_cons.mpr
      ⟨Path.endsAsModule_div _ last ".py" (.inl rfl), List.forall_mem_singleton.mpr ?_⟩⟩
    exact Path.endsAsModule_div _ last ".pyi" (.inr rfl)

theorem module_of_findIn? (held : r.findIn? base parts = some found) :
    (r.tree.fileAt? (r.tree.resolve found)).isSome ∧
      Program.isModulePath (r.tree.resolve found) = true := by
  have present := List.find?_some held
  have ends := endsAsModule_candidates base parts found (List.mem_of_find?_eq_some held)
  exact ⟨FileTree.fileAt?_of_isFile present, (ends.resolve _).isModulePath⟩

end Resolver

namespace Program

/-- Each file that an import can name is among the sources. -/
def Whole (P : Program) : Prop := ∀ path, P.IsImported path → (P.source? path).isSome

variable {P : Program} {path : Path}

theorem module_of_isImported (imported : P.IsImported path) :
    (P.resolver.tree.fileAt? path).isSome ∧ isModulePath path = true := by
  rcases imported with ⟨importer, module, level, found⟩ | ⟨package, name, found⟩
  · obtain ⟨target, located, rfl⟩ := Option.map_eq_some_iff.mp found
    split at located
    · exact Resolver.module_of_findIn? located
    · split at located
      · split at located
        · cases located
        · obtain ⟨directory, _, held⟩ := List.exists_of_findSome?_eq_some located
          exact Resolver.module_of_findIn? held
      · cases located
  · unfold resolveSubmodule? at found
    split at found
    · obtain ⟨target, located, rfl⟩ := Option.map_eq_some_iff.mp found
      exact Resolver.module_of_findIn? located
    · cases found

theorem whole_of_tree (read : ∀ file ∈ P.resolver.tree.files, isModulePath file.1 = true →
    (P.source? file.1).isSome) : P.Whole := by
  intro path imported
  obtain ⟨held, module⟩ := module_of_isImported imported
  obtain ⟨bytes, found⟩ := Option.isSome_iff_exists.mp held
  obtain ⟨before, after, whole, _⟩ := List.lookup_eq_some_iff.mp found
  exact read (path, bytes) (by simp [whole]) module

theorem whole_ofLines (entry : Path) (lines : List String) : (Program.ofLines entry lines).Whole :=
  whole_of_tree (List.forall_mem_nil _)

/-- A program is loaded from where its functions file is, with each file of the tree that has the
name of a module. -/
theorem eq_of_load {tree : FileTree} {libraries : List String} {entry : Path}
    {settings : Settings} (loaded : load tree libraries entry settings = .ok P) :
    ∃ dialect : Lexer.Dialect,
      P.resolver = .make tree (tree.resolve entry).parent (settings.searchPaths ++ libraries) ∧
      P.sources = tree.files.filterMap fun file =>
        if file.1 = P.entry || isModulePath file.1 then
          some (.read dialect (P.resolver.moduleName file.1) file.1 file.2)
        else none := by
  unfold load at loaded
  dsimp only at loaded
  split at loaded
  · rename_i version _
    split at loaded
    · cases answered : version.dialect with
      | error fault =>
        rw [answered] at loaded
        cases loaded
      | ok dialect =>
        rw [answered] at loaded
        cases loaded
        exact ⟨_, rfl, rfl⟩
    · cases loaded
      exact ⟨_, rfl, rfl⟩
  · cases loaded
    exact ⟨_, rfl, rfl⟩

theorem sources_of_load {tree : FileTree} {libraries : List String} {entry : Path}
    {settings : Settings} (loaded : load tree libraries entry settings = .ok P) :
    P.resolver.tree = tree ∧ ∃ dialect : Lexer.Dialect,
      P.sources = tree.files.filterMap fun file =>
        if file.1 = P.entry || isModulePath file.1 then
          some (.read dialect (P.resolver.moduleName file.1) file.1 file.2)
        else none := by
  obtain ⟨dialect, resolver, sources⟩ := eq_of_load loaded
  exact ⟨resolver ▸ rfl, dialect, sources⟩

theorem whole_of_load {tree : FileTree} {libraries : List String} {entry : Path}
    {settings : Settings} (loaded : load tree libraries entry settings = .ok P) : P.Whole := by
  obtain ⟨same, dialect, sources⟩ := sources_of_load loaded
  apply whole_of_tree
  intro file member module
  rw [same] at member
  rw [source?, List.find?_isSome, sources]
  refine ⟨.read dialect (P.resolver.moduleName file.1) file.1 file.2, ?_, ?_⟩
  · refine List.mem_filterMap.mpr ⟨file, member, ?_⟩
    rw [module, Bool.or_true, if_pos rfl]
  · exact decide_eq_true rfl

end Program

end HintSchema

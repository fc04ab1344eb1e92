import HintSchema.Proofs.Hints.Kin
import HintSchema.Proofs.Modules.Whole
import HintSchema.Proofs.Syntax.StatementSpending
import HintSchema.Proofs.Syntax.TokenPlaces

/-!
Programs whose modules are read from texts. In such a module every record is declared at a place of
its own, and every function has a name.
-/

namespace HintSchema

namespace SourceFile

/-- The module binds what its body binds, and the body, if it has one, is parsed from a text. -/
structure Parsed (s : SourceFile) : Prop where
  scope : s.scope = (s.body.map Scope.ofStatements).getD .empty
  body : ∀ statements, s.body = some statements →
    ∃ dialect chars, Parser.module? dialect chars = some statements

theorem parsed_read (dialect : Lexer.Dialect) (module : String) (path : Path) (bytes : ByteArray) :
    (SourceFile.read dialect module path bytes).Parsed := by
  refine ⟨rfl, fun statements parsed => ?_⟩
  obtain ⟨chars, _, parsed⟩ := Option.bind_eq_some_iff.mp parsed
  split at parsed
  · cases parsed
  · exact ⟨dialect, chars, parsed⟩

theorem parsed_ofLines (path : Path) (lines : List String) :
    (SourceFile.ofLines path lines).Parsed :=
  ⟨rfl, fun _ parsed => ⟨_, _, parsed⟩⟩

theorem Parsed.tally_le {s : SourceFile} (parsed : s.Parsed) (p : Tally) :
    Statement.tallyAll p s.statements = 0 ∨ ∃ dialect chars tokens,
      Lexer.tokens? dialect true chars = some tokens ∧
        Statement.tallyAll p s.statements ≤ Parser.tally p tokens := by
  cases written : s.body with
  | none => exact .inl (by simp [statements, written])
  | some statements =>
    obtain ⟨dialect, chars, read⟩ := parsed.body statements written
    obtain ⟨tokens, lexed, spent⟩ := Parser.tally_module (p := p) read
    refine .inr ⟨dialect, chars, tokens, lexed, ?_⟩
    simpa [SourceFile.statements, written] using spent

theorem Parsed.apart {s : SourceFile} (parsed : s.Parsed) : s.Apart := by
  refine List.nodup_iff_count_le_one.mpr fun p => ?_
  rw [← Node.tally_recordsAt]
  change Node.tally _ (Statement.nodesOf s.statements) ≤ 1
  rw [Statement.tally_nodesOf]
  rcases parsed.tally_le (.recordsAt p) with none | ⟨dialect, chars, tokens, lexed, spent⟩
  · exact none.trans_le (Nat.zero_le 1)
  · exact spent.trans ((Lexer.tally_tokens lexed).1 p)

theorem Parsed.named {s : SourceFile} (parsed : s.Parsed) {definition : FunctionDef Statement}
    (member : .functionDef definition ∈ s.statements) : definition.name.isEmpty = false := by
  have none : Statement.tallyAll .nameless s.statements = 0 := by
    rcases parsed.tally_le .nameless with none | ⟨dialect, chars, tokens, lexed, spent⟩
    · exact none
    · exact Nat.le_zero.mp (spent.trans_eq (Lexer.tally_tokens lexed).2)
  have within := List.le_sum_of_mem (List.mem_map_of_mem (f := Statement.tally .nameless) member)
  have own := Nat.le_zero.mp (within.trans_eq none)
  rw [Statement.tally_functionDef] at own
  cases empty : definition.name.isEmpty with
  | false => rfl
  | true =>
    simp only [Tally.name, empty, if_true] at own
    omega

end SourceFile

namespace Program

/-- Each module is read from a text, and each path is the one that its text names. -/
structure Parsed (P : Program) : Prop where
  paths : ∀ s ∈ P.sources, Path.ofString s.path.toString = s.path
  modules : ∀ s ∈ P.sources, s.Parsed

theorem parsed_ofLines {entry : Path} (named : Path.ofString entry.toString = entry)
    (lines : List String) : (Program.ofLines entry lines).Parsed :=
  ⟨List.forall_mem_singleton.mpr named,
    List.forall_mem_singleton.mpr (SourceFile.parsed_ofLines entry lines)⟩

theorem parsed_of_load {tree : FileTree} {libraries : List String} {entry : Path}
    {settings : Settings} {P : Program} (loaded : load tree libraries entry settings = .ok P)
    (named : ∀ file ∈ tree.files, Path.ofString file.1.toString = file.1) : P.Parsed := by
  obtain ⟨_, dialect, same⟩ := sources_of_load loaded
  have each : ∀ s ∈ P.sources, Path.ofString s.path.toString = s.path ∧ s.Parsed := by
    rw [same]
    intro s member
    obtain ⟨file, inside, kept⟩ := List.mem_filterMap.mp member
    split at kept <;> cases kept
    exact ⟨named file inside, SourceFile.parsed_read ..⟩
  exact ⟨fun s member => (each s member).1, fun s member => (each s member).2⟩

theorem Parsed.placed {P : Program} (parsed : P.Parsed) : P.Placed where
  paths := parsed.paths
  scopes s member := by
    rw [(parsed.modules s member).scope, SourceFile.statements]
    cases s.body <;> rfl
  apart s member := (parsed.modules s member).apart

end Program

end HintSchema

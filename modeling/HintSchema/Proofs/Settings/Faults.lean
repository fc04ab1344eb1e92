import HintSchema.Derivation.File
import HintSchema.Proofs.Settings.Reading

/-!
What is wrong with a settings file is reported, with the name of the file, but for four kinds of
contents that nothing is prepared for (`load_escapes_iff`).
-/

namespace HintSchema.Settings

/-- The bytes of a settings file. -/
def contents (tree : FileTree) (file : Path) : ByteArray :=
  ((tree.locate? file).bind tree.fileAt?).getD .empty

/-- The bytes are a document. -/
def Holds (bytes : ByteArray) (document : Toml.Table) : Prop :=
  ∃ text, String.fromUTF8? bytes = some text ∧ Toml.read text.toList = .ok document

/-- The document holds the table, and the key in it. -/
def Sets (document : Toml.Table) (key : String) : Prop :=
  ∃ tools members value, document.lookup toolName = some (.table tools) ∧
    tools.lookup tableName = some (.table members) ∧ members.lookup key = some value

/-- A value is taken for the table, although it is none: it counts as true, and either no key can
be looked for in it or one of the keys seems to be there. -/
inductive Mistaken : Toml → Prop
  | text {value : String}
      (mentioned : occursIn versionKey value = true ∨ occursIn searchPathsKey value = true) :
      Mistaken (.text value)
  | array {items : List Toml}
      (mentioned : .text versionKey ∈ items ∨ .text searchPathsKey ∈ items) :
      Mistaken (.array items)
  | bool : Mistaken (.bool true)
  | int {value : Int} (nonzero : value ≠ 0) : Mistaken (.int value)
  | float {value : Binary64} (nonzero : value.isZero = false) : Mistaken (.float value)
  | date (value : Date) : Mistaken (.date value)
  | time (value : TimeOfDay) : Mistaken (.time value)
  | moment (date : Date) (time : TimeOfDay) (offset : Option Int) :
      Mistaken (.moment date time offset)

/-- Contents of a settings file that are not reported as faulty, and what comes of them. -/
inductive Escapes (bytes : ByteArray) : SettingsFault → Prop
  | notText (illegible : String.fromUTF8? bytes = none) : Escapes bytes .notText
  | tooManyDigits {text : String} {count : Nat} (decoded : String.fromUTF8? bytes = some text)
      (refused : Toml.read text.toList = .error (.tooManyDigits count))
      (long : Number.digitLimit < count) (digits : Toml.HoldsNumber count text.toList) :
      Escapes bytes (.tooManyDigits count)
  | toolNotTable {document : Toml.Table} {value : Toml} (holds : Holds bytes document)
      (tool : document.lookup toolName = some value) (other : ∀ members, value ≠ .table members) :
      Escapes bytes .toolNotTable
  | notTable {document tools : Toml.Table} {value : Toml} (holds : Holds bytes document)
      (tool : document.lookup toolName = some (.table tools))
      (own : tools.lookup tableName = some value) (mistaken : Mistaken value) :
      Escapes bytes .notTable

variable {tree : FileTree} {directory file : Path} {bytes : ByteArray}
  {defaults settings : Settings} {fault : SettingsFault} {document : Toml.Table} {value : Toml}

/-- The settings are those before, but for what the document sets. -/
structure Keeps (document : Toml.Table) (before after : Settings) : Prop where
  version : ¬ Sets document versionKey → after.version = before.version
  searchPaths : ¬ Sets document searchPathsKey → after.searchPaths = before.searchPaths
  origin : after.origin = before.origin

def Reports (file : Path) (fault : SettingsFault) : Prop :=
  ∃ error, fault.compilerError? = some error ∧ error.message = loadErrorMessage ∧
    error.diagnostics ≠ [] ∧ ∀ d ∈ error.diagnostics, d.location = file.toString

theorem reports_malformed (file : Path) : Reports file (.malformed file) :=
  ⟨_, rfl, rfl, List.cons_ne_nil _ _, by simp [Diagnostic.location]⟩

theorem reports_invalid (file : Path) (message : String) : Reports file (.invalid file message) :=
  ⟨_, rfl, rfl, List.cons_ne_nil _ _, by simp [Diagnostic.location, Diagnostic.ofFile]⟩

theorem Escapes.unreported (escapes : Escapes bytes fault) : fault.compilerError? = none := by
  cases escapes <;> rfl

/-! ### The document -/

theorem readDocument_cases (file : Path) (bytes : ByteArray) :
    (∃ document, readDocument file bytes = .ok document ∧ Holds bytes document) ∨
      ∃ fault, readDocument file bytes = .error fault ∧
        (Reports file fault ∨ Escapes bytes fault) := by
  unfold readDocument
  cases decoded : String.fromUTF8? bytes with
  | none => exact .inr ⟨_, rfl, .inr (.notText decoded)⟩
  | some text =>
    dsimp only
    cases read : Toml.read text.toList with
    | ok document => exact .inl ⟨document, rfl, text, decoded, read⟩
    | error fault =>
      cases fault with
      | malformed => exact .inr ⟨_, rfl, .inl (reports_malformed file)⟩
      | tooManyDigits count =>
        obtain ⟨long, digits⟩ := Toml.holdsNumber_of_read read
        exact .inr ⟨_, rfl, .inr (.tooManyDigits decoded read long digits)⟩

theorem Holds.readDocument (holds : Holds bytes document) (file : Path) :
    readDocument file bytes = .ok document := by
  obtain ⟨text, decoded, read⟩ := holds
  simp only [Settings.readDocument, decoded, read]

theorem tableOf_cases (document : Toml.Table) :
    (∃ value, tableOf document = .ok value ∧
      (value = .table [] ∨ ∃ tools, document.lookup toolName = some (.table tools) ∧
        tools.lookup tableName = some value)) ∨
      tableOf document = .error .toolNotTable ∧
        ∃ value, document.lookup toolName = some value ∧ ∀ members, value ≠ .table members := by
  unfold tableOf
  cases tool : document.lookup toolName with
  | none => exact .inl ⟨_, rfl, .inl rfl⟩
  | some value =>
    cases value with
    | table tools =>
      refine .inl ⟨_, rfl, ?_⟩
      cases own : tools.lookup tableName with
      | none => exact .inl rfl
      | some value => exact .inr ⟨tools, rfl, own⟩
    | _ => exact .inr ⟨rfl, _, rfl, nofun⟩

/-! ### The table -/

theorem mapM_searchPath_cases (file : Path) (tree : FileTree) (entries : List String) :
    (∃ paths, entries.mapM (searchPath file tree) = .ok paths) ∨
      ∃ message, entries.mapM (searchPath file tree) = .error (.invalid file message) := by
  induction entries with
  | nil => exact .inl ⟨[], rfl⟩
  | cons entry rest ih =>
    rw [List.mapM_cons, searchPath]
    split
    · exact .inr ⟨_, rfl⟩
    · rcases ih with ⟨paths, same⟩ | ⟨message, same⟩ <;> rw [same]
      · exact .inl ⟨_, rfl⟩
      · exact .inr ⟨_, rfl⟩

theorem searchPathsIn_cases (file : Path) (tree : FileTree) (value : Toml) :
    (∃ paths, searchPathsIn file tree value = .ok paths) ∨
      ∃ message, searchPathsIn file tree value = .error (.invalid file message) := by
  cases value with
  | array items =>
    unfold searchPathsIn
    dsimp only
    split
    · exact mapM_searchPath_cases file tree _
    · exact .inr ⟨_, rfl⟩
  | _ => exact .inr ⟨_, rfl⟩

theorem versionIn_cases (file : Path) (value : Toml) :
    (∃ version, versionIn file value = .ok version) ∨
      ∃ message, versionIn file value = .error (.invalid file message) := by
  unfold versionIn
  split
  · exact .inr ⟨_, rfl⟩
  · split
    · exact .inl ⟨_, rfl⟩
    · exact .inr ⟨_, rfl⟩

theorem withVersion_cases (settings : Settings) (file : Path) (table : Toml.Table) :
    (∃ after, settings.withVersion file table = .ok after ∧ after.origin = settings.origin ∧
      after.searchPaths = settings.searchPaths ∧
      (table.lookup versionKey = none → after.version = settings.version)) ∨
      ∃ message, settings.withVersion file table = .error (.invalid file message) := by
  unfold withVersion
  cases table.lookup versionKey with
  | none => exact .inl ⟨settings, rfl, rfl, rfl, fun _ => rfl⟩
  | some value =>
    dsimp only
    rcases versionIn_cases file value with ⟨version, same⟩ | ⟨message, same⟩ <;> rw [same]
    · exact .inl ⟨_, rfl, rfl, rfl, nofun⟩
    · exact .inr ⟨_, rfl⟩

theorem withSearchPaths_cases (settings : Settings) (file : Path) (tree : FileTree)
    (table : Toml.Table) :
    (∃ after, settings.withSearchPaths file tree table = .ok after ∧
      after.origin = settings.origin ∧ after.version = settings.version ∧
      (table.lookup searchPathsKey = none → after.searchPaths = settings.searchPaths)) ∨
      ∃ message, settings.withSearchPaths file tree table = .error (.invalid file message) := by
  unfold withSearchPaths
  cases table.lookup searchPathsKey with
  | none => exact .inl ⟨settings, rfl, rfl, rfl, fun _ => rfl⟩
  | some value =>
    dsimp only
    rcases searchPathsIn_cases file tree value with ⟨paths, same⟩ | ⟨message, same⟩ <;> rw [same]
    · exact .inl ⟨_, rfl, rfl, rfl, nofun⟩
    · exact .inr ⟨_, rfl⟩

theorem withTable_cases (settings : Settings) (file : Path) (tree : FileTree)
    (table : Toml.Table) :
    (∃ after, settings.withTable file tree table = .ok after ∧ after.origin = settings.origin ∧
      (table.lookup versionKey = none → after.version = settings.version) ∧
      (table.lookup searchPathsKey = none → after.searchPaths = settings.searchPaths)) ∨
      ∃ message, settings.withTable file tree table = .error (.invalid file message) := by
  unfold withTable
  rcases settings.withVersion_cases file table with
    ⟨between, same, origin, searchPaths, version⟩ | ⟨message, same⟩
  · rw [same]
    rcases between.withSearchPaths_cases file tree table with
      ⟨after, there, origin', version', searchPaths'⟩ | failed
    · exact .inl ⟨after, there, origin'.trans origin, fun unset => version'.trans (version unset),
        fun unset => (searchPaths' unset).trans searchPaths⟩
    · exact .inr failed
  · rw [same]
    exact .inr ⟨message, rfl⟩

theorem text_beq (item : Toml) (key : String) :
    (item.text? == some key) = true ↔ item = .text key := by
  cases item <;> simp [Toml.text?]

theorem occursIn_empty (key : String) : occursIn key "" = false := by
  have single : ("".splitOn key).length = 1 := by
    unfold String.splitOn
    split
    · rfl
    · unfold String.splitOnAux
      rw [if_pos (by decide)]
      rfl
  rw [occursIn, single]
  rfl

theorem mistaken_iff (other : ∀ members, value ≠ .table members) :
    Mistaken value ↔ value.isEmpty = false ∧
      ¬ (mentions? versionKey value = some false ∧
        mentions? searchPathsKey value = some false) := by
  cases value with
  | table members => exact absurd rfl (other members)
  | text value =>
    have same : Mistaken (.text value) ↔
        (occursIn versionKey value = true ∨ occursIn searchPathsKey value = true) :=
      ⟨fun | .text mentioned => mentioned, .text⟩
    have full (mentioned : occursIn versionKey value = true ∨
        occursIn searchPathsKey value = true) : value ≠ "" := by
      rintro rfl
      rw [occursIn_empty, occursIn_empty] at mentioned
      exact mentioned.elim Bool.false_ne_true Bool.false_ne_true
    rw [same, Toml.isEmpty, mentions?, mentions?]
    by_cases empty : value = ""
    · subst empty
      simp [occursIn_empty]
    · simp [empty, imp_iff_not_or]
  | array items =>
    have same : Mistaken (.array items) ↔
        (.text versionKey ∈ items ∨ .text searchPathsKey ∈ items) :=
      ⟨fun | .array mentioned => mentioned, .array⟩
    have mention (key : String) :
        mentions? key (.array items) = some false ↔ .text key ∉ items := by
      simp only [mentions?, Option.some.injEq, List.any_eq_false, text_beq]
      exact ⟨fun none member => none _ member rfl, fun none _ member same => none (same ▸ member)⟩
    rw [same, mention, mention, Toml.isEmpty]
    cases items with
    | nil => simp
    | cons item rest => simp [imp_iff_not_or]
  | bool value =>
    cases value with
    | true => exact iff_of_true .bool ⟨rfl, nofun⟩
    | false => exact iff_of_false nofun fun full => absurd full.1 (by decide)
  | int value =>
    by_cases zero : value = 0
    · subst zero
      exact iff_of_false (fun | .int nonzero => nonzero rfl) fun full => absurd full.1 (by decide)
    · exact iff_of_true (.int zero) ⟨beq_eq_false_iff_ne.mpr zero, nofun⟩
  | float value =>
    exact ⟨fun | .float nonzero => ⟨nonzero, nofun⟩, fun full => .float full.1⟩
  | date value => exact iff_of_true (.date value) ⟨rfl, nofun⟩
  | time value => exact iff_of_true (.time value) ⟨rfl, nofun⟩
  | moment date time offset => exact iff_of_true (.moment date time offset) ⟨rfl, nofun⟩

def settle (tree : FileTree) (file : Path) (settings : Settings) (value : Toml) :
    Except SettingsFault Settings :=
  if value.isEmpty then return settings
  else
    match value with
    | .table table => settings.withTable file tree table
    | other =>
      match mentions? versionKey other, mentions? searchPathsKey other with
      | some false, some false => return settings
      | _, _ => throw .notTable

theorem settle_of_other (other : ∀ members, value ≠ .table members) (tree : FileTree) (file : Path)
    (settings : Settings) :
    settle tree file settings value = .ok settings ∧ ¬ Mistaken value ∨
      settle tree file settings value = .error .notTable ∧ Mistaken value := by
  rw [mistaken_iff other]
  unfold settle
  split
  · rename_i empty
    exact .inl ⟨rfl, fun mistaken => by simp [empty] at mistaken⟩
  · rename_i full
    split
    · exact absurd rfl (other _)
    · split
      · rename_i first second
        exact .inl ⟨rfl, fun mistaken => mistaken.2 ⟨first, second⟩⟩
      · rename_i absent
        exact .inr ⟨rfl, (Bool.not_eq_true _).mp full, fun ⟨first, second⟩ =>
          absent first second⟩

theorem load_of_find? (found : find? tree directory = some file) :
    load tree directory defaults = (do
      let document ← readDocument file (contents tree file)
      let value ← tableOf document
      settle tree file { defaults with origin := some file } value) := by
  simp only [load, found]
  rfl

/-! ### Loading -/

theorem keeps_refl (document : Toml.Table) (settings : Settings) :
    Keeps document settings settings :=
  ⟨fun _ => rfl, fun _ => rfl, rfl⟩

theorem settle_cases (tree : FileTree) (file : Path) (settings : Settings)
    (own : value = .table [] ∨ ∃ tools, document.lookup toolName = some (.table tools) ∧
      tools.lookup tableName = some value) :
    (∃ after, settle tree file settings value = .ok after ∧ Keeps document settings after) ∨
      (∃ message, settle tree file settings value = .error (.invalid file message)) ∨
        settle tree file settings value = .error .notTable ∧ Mistaken value := by
  by_cases table : ∃ members, value = .table members
  · obtain ⟨members, rfl⟩ := table
    rcases own with empty | ⟨tools, tool, own⟩
    · cases empty
      exact .inl ⟨settings, rfl, keeps_refl _ _⟩
    · unfold settle
      split
      · exact .inl ⟨settings, rfl, keeps_refl _ _⟩
      · have unset {key : String} (unset : ¬ Sets document key) : members.lookup key = none :=
          Option.eq_none_iff_forall_ne_some.mpr fun value held =>
            unset ⟨tools, members, value, tool, own, held⟩
        rcases withTable_cases settings file tree members with
          ⟨after, same, origin, version, searchPaths⟩ | failed
        · exact .inl ⟨after, same, fun other => version (unset other),
            fun other => searchPaths (unset other), origin⟩
        · exact .inr (.inl failed)
  · have other : ∀ members, value ≠ .table members := fun members same => table ⟨members, same⟩
    rcases settle_of_other other tree file settings with ⟨same, _⟩ | failed
    · exact .inl ⟨settings, same, keeps_refl _ _⟩
    · exact .inr (.inr failed)

theorem load_cases (found : find? tree directory = some file) (defaults : Settings) :
    (∃ settings document, load tree directory defaults = .ok settings ∧
      Holds (contents tree file) document ∧
      Keeps document { defaults with origin := some file } settings) ∨
    ∃ fault, load tree directory defaults = .error fault ∧
      (Reports file fault ∨ Escapes (contents tree file) fault) := by
  rw [load_of_find? found]
  rcases readDocument_cases file (contents tree file) with ⟨document, same, holds⟩ | failed
  · rw [same]
    rcases tableOf_cases document with ⟨value, there, own⟩ | ⟨there, value, tool, other⟩
    · simp only [bind, Except.bind, there]
      rcases settle_cases tree file { defaults with origin := some file } own with
        ⟨after, used, keeps⟩ | ⟨message, failed⟩ | ⟨failed, mistaken⟩
      · exact .inl ⟨after, document, used, holds, keeps⟩
      · exact .inr ⟨_, failed, .inl (reports_invalid file message)⟩
      · rcases own with rfl | ⟨tools, tool, own⟩
        · cases mistaken
        · exact .inr ⟨_, failed, .inr (.notTable holds tool own mistaken)⟩
    · simp only [bind, Except.bind, there]
      exact .inr ⟨_, rfl, .inr (.toolNotTable holds tool other)⟩
  · obtain ⟨fault, same, why⟩ := failed
    rw [same]
    exact .inr ⟨fault, rfl, why⟩

theorem load_of_escapes (found : find? tree directory = some file) (defaults : Settings)
    (escapes : Escapes (contents tree file) fault) :
    load tree directory defaults = .error fault := by
  rw [load_of_find? found]
  cases escapes with
  | notText illegible =>
    rw [readDocument, illegible]
    rfl
  | tooManyDigits decoded refused =>
    simp only [readDocument, decoded, refused]
    rfl
  | @toolNotTable document value holds tool other =>
    have none : tableOf document = .error .toolNotTable := by
      unfold tableOf
      cases value with
      | table members => exact absurd rfl (other members)
      | _ => rw [tool]
    rw [holds.readDocument file]
    simp only [bind, Except.bind, none]
  | @notTable document tools value holds tool own mistaken =>
    have there : tableOf document = .ok value := by simp only [tableOf, tool, own, Option.getD_some]
    have other : ∀ members, value ≠ .table members := by
      rintro members rfl
      cases mistaken
    rw [holds.readDocument file]
    simp only [bind, Except.bind, there]
    rcases settle_of_other other tree file { defaults with origin := some file } with
      ⟨_, passed⟩ | ⟨failed, _⟩
    · exact absurd mistaken passed
    · exact failed

/-- Loading settings ends with settings or with a report that names the file, unless the contents
of the file are among those that nothing is prepared for; these always escape. What the file does
not set stays as it was. -/
theorem load_escapes_iff (tree : FileTree) (directory : Path) (defaults : Settings) :
    (∀ fault, load tree directory defaults = .error fault ∧ fault.compilerError? = none ↔
      ∃ file, find? tree directory = some file ∧ Escapes (contents tree file) fault) ∧
    (∀ fault error, load tree directory defaults = .error fault →
      fault.compilerError? = some error →
        ∃ file, find? tree directory = some file ∧ error.message = loadErrorMessage ∧
          error.diagnostics ≠ [] ∧ ∀ d ∈ error.diagnostics, d.location = file.toString) ∧
    ∀ settings, load tree directory defaults = .ok settings →
      find? tree directory = none ∧ settings = defaults ∨
        ∃ file document, find? tree directory = some file ∧ Holds (contents tree file) document ∧
          Keeps document { defaults with origin := some file } settings := by
  cases found : find? tree directory with
  | none =>
    have kept : load tree directory defaults = .ok defaults := by simp only [load, found]; rfl
    rw [kept]
    refine ⟨fun fault => ⟨nofun, nofun⟩, nofun, ?_⟩
    rintro _ ⟨⟩
    exact .inl ⟨rfl, rfl⟩
  | some file =>
    have cases := load_cases found defaults
    refine ⟨fun fault => ⟨?_, ?_⟩, fun fault error failed reported => ?_, fun settings used => ?_⟩
    · rintro ⟨failed, unreported⟩
      rcases cases with ⟨_, _, used, _⟩ | ⟨_, same, ⟨_, reported, _⟩ | escapes⟩
      · cases used.symm.trans failed
      · cases same.symm.trans failed
        cases unreported.symm.trans reported
      · cases same.symm.trans failed
        exact ⟨file, rfl, escapes⟩
    · rintro ⟨_, ⟨⟩, escapes⟩
      exact ⟨load_of_escapes found defaults escapes, escapes.unreported⟩
    · rcases cases with ⟨_, _, used, _⟩ | ⟨_, same, ⟨other, reported', named⟩ | escapes⟩
      · cases used.symm.trans failed
      · cases same.symm.trans failed
        cases reported.symm.trans reported'
        exact ⟨file, rfl, named⟩
      · cases same.symm.trans failed
        cases reported.symm.trans escapes.unreported
    · rcases cases with ⟨_, document, same, holds, keeps⟩ | ⟨_, same, _⟩
      · cases same.symm.trans used
        exact .inr ⟨file, document, rfl, holds, keeps⟩
      · cases same.symm.trans used

/-- A directory with a settings file. -/
def withSettings (bytes : ByteArray) : FileTree :=
  ⟨⟨.root, ["app"]⟩, [(⟨.root, ["app", "pyproject.toml"]⟩, bytes)], []⟩

theorem find?_withSettings (bytes : ByteArray) :
    find? (withSettings bytes) ⟨.root, ["app"]⟩ = some ⟨.root, ["app", "pyproject.toml"]⟩ := by
  have found : find? (withSettings .empty) ⟨.root, ["app"]⟩ =
      some ⟨.root, ["app", "pyproject.toml"]⟩ := by decide +kernel
  exact found

theorem fromUTF8?_toUTF8 (text : String) : String.fromUTF8? text.toUTF8 = some text := by
  exact dif_pos text.isValidUTF8

/-- Bytes that are no text, and a document without a table of tools. -/
theorem load_escapes :
    load (withSettings ⟨#[0xff]⟩) ⟨.root, ["app"]⟩ {} = .error .notText ∧
      load (withSettings "tool = 1\n".toUTF8) ⟨.root, ["app"]⟩ {} = .error .toolNotTable ∧
      SettingsFault.compilerError? .notText = none ∧
      SettingsFault.compilerError? .toolNotTable = none := by
  refine ⟨?_, ?_, rfl, rfl⟩
  · have illegible : String.fromUTF8? ⟨#[0xff]⟩ = none := by decide +kernel
    exact load_of_escapes (find?_withSettings _) _ (.notText illegible)
  · have read : (Toml.read "tool = 1\n".toList).toOption.any fun document =>
        (document.lookup toolName).any fun
          | .table _ => false
          | _ => true := by decide +kernel
    obtain ⟨document, same, other⟩ := (Option.any_eq_true _ _).mp read
    obtain ⟨value, tool, noTable⟩ := (Option.any_eq_true _ _).mp other
    have holds : Holds "tool = 1\n".toUTF8 document := by
      refine ⟨_, fromUTF8?_toUTF8 _, ?_⟩
      cases result : Toml.read "tool = 1\n".toList with
      | error fault => rw [result] at same; cases same
      | ok found => rw [result] at same; cases same; rfl
    refine load_of_escapes (find?_withSettings _) _ (.toolNotTable holds tool ?_)
    rintro members rfl
    cases noTable

end HintSchema.Settings

import HintSchema.Proofs.Derivation.Supported
import HintSchema.Proofs.Hints.Spelling

/-!
Names of records that have one of their own. Such a name does not depend on the path, and records of
one identity that share it are equal.
-/

namespace HintSchema

namespace TypeName

variable {handle handle' : Handle} {path path' : TypePath} {symbol symbol' : Symbol}
  {text text' name : String} {entry cwd : Path}

theorem qualify_steady (found : symbolOf path handle = .ok symbol)
    (found' : symbolOf path' handle = .ok symbol) (written : text ≠ "") :
    qualify handle path (some text) entry cwd = qualify handle path' (some text) entry cwd := by
  unfold qualify
  rw [found, found']
  simp [Option.filter, written]

/-- What is written before the name of a type that is declared in a place. -/
def modulePrefix? (declarations : List Declaration) (entry cwd : Path) : Option String :=
  match declarations with
  | [] => none
  | declaration :: _ =>
    let file := (Path.ofString declaration.file).resolve cwd
    if file = entry then some ""
    else if file.isBelow entry.parent then
      (modulePath? file entry.parent).map (· ++ "_")
    else none

theorem prefixed_of_qualify (found : symbolOf path handle = .ok symbol) (written : text ≠ "")
    (named : qualify handle path (some text) entry cwd = .ok name) :
    ∃ before, modulePrefix? symbol.declarations entry cwd = some before ∧
      name = sanitize (before ++ text) := by
  have own : ((some text).filter (!·.isEmpty)).getD path.typeName = text := by
    simp [Option.filter, written]
  unfold qualify at named
  rw [found] at named
  simp only [bind, Except.bind, own] at named
  cases declared : symbol.declarations with
  | nil =>
    rw [declared] at named
    cases named
  | cons declaration others =>
    rw [declared] at named
    unfold modulePrefix?
    dsimp only at named ⊢
    split at named
    · rename_i entered
      cases named
      exact ⟨"", by simp [entered], by simp⟩
    · rename_i elsewhere
      split at named
      · rename_i below
        split at named
        · rename_i module located
          cases named
          exact ⟨module ++ "_", by simp [elsewhere, below, located], rfl⟩
        · cases named
      · cases named

theorem not_diverge_of_qualify (found : symbolOf path handle = .ok symbol)
    (found' : symbolOf path' handle' = .ok symbol')
    (same : symbol.declarations = symbol'.declarations) (written : text ≠ "")
    (written' : text' ≠ "") (named : qualify handle path (some text) entry cwd = .ok name)
    (named' : qualify handle' path' (some text') entry cwd = .ok name) : ¬ Diverge text text' := by
  intro diverge
  obtain ⟨before, placed, shown⟩ := prefixed_of_qualify found written named
  obtain ⟨before', placed', shown'⟩ := prefixed_of_qualify found' written' named'
  rw [same, placed', Option.some.injEq] at placed
  rw [placed] at shown'
  exact sanitize_ne_of_diverge (diverge.append_left before) (shown.symm.trans shown')

end TypeName

namespace Derivation

variable {P : Program} {z : CheckState} {a b : Handle} {path path' : TypePath} {name : String}

section

variable {symbol : Symbol} {source : RecordSource} {arguments : List Handle}

theorem nameAt?_of_named (named : symbol.isAnonymous = false) (path : TypePath) :
    nameAt? P path (.record symbol source arguments none) =
      (Handle.record symbol source arguments none).display?.toOption.map fun text =>
        TypeName.qualify (.record symbol source arguments none) path (some text) P.entry
          P.resolver.tree.cwd := by
  simp [nameAt?, Handle.declaredName?, named, Function.comp_def]

end

theorem nameAt?_steady (spelled : a.Spelled) (named : a.isNamed = true) (path path' : TypePath) :
    nameAt? P path a = nameAt? P path' a := by
  obtain ⟨symbol, source, arguments, rfl, anonymous, nonempty⟩ := spelled.eq_of_isNamed named
  rw [nameAt?_of_named anonymous, nameAt?_of_named anonymous]
  refine Option.map_congr fun text written => TypeName.qualify_steady rfl rfl ?_
  exact Handle.display_ne_empty anonymous nonempty (Except.toOption_eq_some_iff.mp written)

theorem isNamed_of_ownNames (record : a.record?.isSome) (own : a.ownNames = true) :
    a.isNamed = true := by
  cases a with
  | record =>
    obtain ⟨anonymous, nonempty, _⟩ := Handle.ownNames_record_iff.mp own
    simpa [Handle.isNamed] using And.intro anonymous nonempty
  | _ => cases record

theorem nameAt?_of_ownNames (record : a.record?.isSome) (spelled : a.Spelled)
    (own : a.ownNames = true) : ∃ symbol source arguments text,
      a = .record symbol source arguments none ∧ text ≠ "" ∧ a.display? = .ok text ∧
      ∀ path, nameAt? P path a =
        some (TypeName.qualify a path (some text) P.entry P.resolver.tree.cwd) := by
  obtain ⟨symbol, source, arguments, rfl, anonymous, nonempty⟩ :=
    spelled.eq_of_isNamed (isNamed_of_ownNames record own)
  obtain ⟨text, written⟩ := Handle.display_of_ownNames _ own
  refine ⟨symbol, source, arguments, text, rfl,
    Handle.display_ne_empty anonymous nonempty written, written, fun path => ?_⟩
  rw [nameAt?_of_named anonymous, written]
  rfl

theorem eq_of_nameAt? (placed : P.Placed) (kin : Kin P z a b) (record : a.record?.isSome)
    (record' : b.record?.isSome) (spelled : a.Spelled) (spelled' : b.Spelled)
    (own : a.ownNames = true) (own' : b.ownNames = true)
    (named : nameAt? P path a = some (.ok name)) (named' : nameAt? P path' b = some (.ok name)) :
    a = b := by
  obtain ⟨symbol, source, arguments, text, rfl, nonempty, written, qualified⟩ :=
    nameAt?_of_ownNames (P := P) record spelled own
  obtain ⟨symbol', source', arguments', text', rfl, nonempty', written', qualified'⟩ :=
    nameAt?_of_ownNames (P := P) record' spelled' own'
  obtain ⟨_, places, _⟩ := Identity.declared.inj kin.same
  rw [qualified, Option.some.injEq] at named
  rw [qualified', Option.some.injEq] at named'
  exact (kin.told placed spelled spelled' own text text' written written').resolve_right
    (TypeName.not_diverge_of_qualify rfl rfl places nonempty nonempty' named named')

end Derivation

end HintSchema

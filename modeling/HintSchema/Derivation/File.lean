import HintSchema.Derivation.Module
import HintSchema.Hints.Check
import HintSchema.Settings.Project

/-!
From a functions file to its schema: settings, check, derivation. Only a file that checks has a
schema.
-/

namespace HintSchema

/-- What is wrong with the analysed files, as it is reported to their author. -/
structure CompilerError where
  message : String
  diagnostics : List Diagnostic
  deriving DecidableEq, Repr

/-- Why there is no schema. All but the first are no fault of a function file's text alone. -/
inductive DeriveFault where
  | compiler (error : CompilerError)
  | settings (fault : SettingsFault)
  | version (fault : VersionFault)
  | derivation (fault : DerivationFault)
  deriving DecidableEq, Repr

namespace SettingsFault

/-- The report of a settings file that was read but cannot be used. -/
def compilerError? : SettingsFault → Option CompilerError
  | malformed file =>
    some ⟨Settings.loadErrorMessage, [.unreadableSettings file.toString]⟩
  | invalid file message =>
    some ⟨Settings.loadErrorMessage, [.ofFile message file.toString]⟩
  | _ => none

def toDeriveFault (fault : SettingsFault) : DeriveFault :=
  match fault.compilerError? with
  | some error => .compiler error
  | none => .settings fault

end SettingsFault

namespace Derivation

def checkErrorMessage : String := "Compiler errors"

def deriveProgram (P : Program) : Except DeriveFault SchemaOutcome :=
  match P.check.run (.start P) with
  | (.error fault, _) => .error (.derivation (.check fault))
  | (.ok [], checked) =>
    match (deriveUnchecked P).run { check := checked } with
    | (.ok outcome, _) => .ok outcome
    | (.error fault, _) => .error (.derivation fault)
  | (.ok diagnostics, _) => .error (.compiler ⟨checkErrorMessage, diagnostics⟩)

def deriveFile (tree : FileTree) (libraries : List String) (file : Path) (defaults : Settings) :
    Except DeriveFault SchemaOutcome := do
  let entry := tree.resolve file
  let settings ← (Settings.load tree entry.parent defaults).mapError SettingsFault.toDeriveFault
  let P ← (Program.load tree libraries entry settings).mapError DeriveFault.version
  deriveProgram P

end Derivation

end HintSchema

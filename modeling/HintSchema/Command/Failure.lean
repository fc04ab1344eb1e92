import HintSchema.Derivation.File

/-!
Why a command ends before its work is done, and what its user is told then.
-/

namespace HintSchema

namespace PrintFault

def message : PrintFault → String
  | backslashInField => "a field would need a backslash"
  | tooManyDigits => "an integer has too many digits"
  | foreignPart => "a part of a text is neither text nor a field"

end PrintFault

namespace Fault

def message : Fault → String
  | nullInHint => "A quoted hint holds a null character"
  | surrogateInHint => "A quoted hint holds half of a surrogate pair"
  | noArgument => "A qualifier has no argument"
  | unprintable cause => "A hint cannot be written out: " ++ cause.message

end Fault

namespace DerivationFault

def message : DerivationFault → String
  | check fault => fault.message
  | name fault => fault.message
  | tooDeep type => Derivation.tooDeepMessage type
  | nestedNullable => "A nullable type cannot directly wrap another nullable type"
  | namelessFunction => Derivation.namelessMessage

end DerivationFault

namespace SettingsFault

def message : SettingsFault → String
  | malformed _ => "The settings file is no document"
  | invalid _ message => message
  | notText => "The settings file is no text"
  | tooManyDigits count => tooManyDigitsMessage count
  | toolNotTable => Text.Quoted.string Settings.toolName ++ " is no table"
  | notTable => Text.Quoted.string Settings.tableName ++ " is no table"

end SettingsFault

namespace VersionFault

def message : VersionFault → String
  | unknownMajor => "Only versions with the major number 3 can be read"
  | minorOutOfRange => "The minor number of the version is out of range"

end VersionFault

namespace DeriveFault

def message : DeriveFault → String
  | compiler error => error.message
  | settings fault => fault.message
  | version fault => fault.message
  | derivation fault => fault.message

end DeriveFault

namespace Command

inductive WriteFault where
  | fileExists
  | notADirectory
  deriving DecidableEq, Repr

inductive Failure where
  | derive (fault : DeriveFault)
  | write (fault : WriteFault)
  deriving DecidableEq, Repr

namespace Failure

def message : Failure → String
  | derive fault => fault.message
  | write .fileExists => "A file stands in the place of the output directory"
  | write .notADirectory => "A file stands above the output directory"

end Failure

end Command

end HintSchema

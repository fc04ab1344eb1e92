import HintSchema.Command.Environment
import HintSchema.Command.Options

/-!
What a command line asks for, and what it gets wrong.
-/

namespace HintSchema.Command

inductive Action where
  | derive (file : String) (output : Option String)
  | schema (file : String)
  | check (file : String)
  | version
  | help (command : Option String)
  deriving DecidableEq, Repr

/-- A mistake in the use of a command; some are reported without its usage. -/
structure UsageFault where
  command : Option String
  message : String
  showUsage : Bool := true
  deriving DecidableEq, Repr

def programName : String := "cli"

def programVersion : String := "0.1.0"

def commandPath : Option String → String
  | none => programName
  | some name => programName ++ " " ++ name

def usageLine : Option String → String
  | none => "Usage: " ++ programName ++ " [OPTIONS] COMMAND [ARGS]...\n"
  | some name => "Usage: " ++ commandPath (some name) ++ " [OPTIONS] [FUNCTIONS_FILE]\n"

namespace UsageFault

def text (f : UsageFault) : String :=
  let usage := usageLine f.command ++ "Try '" ++ commandPath f.command ++ " --help' for help.\n\n"
  (if f.showUsage then usage else "") ++ "Error: " ++ f.message ++ "\n"

def ofOption (command : Option String) (fault : OptionFault) : UsageFault where
  command
  message := fault.message
  showUsage := match fault with
    | .unknown _ _ => true
    | _ => false

end UsageFault

def levelOption : OptionSpec := ⟨"--log-level", true⟩

def versionOption : OptionSpec := ⟨"--version", false⟩

def helpOption : OptionSpec := ⟨"--help", false⟩

def outputOption : OptionSpec := ⟨"--output", true⟩

def logLevels : List String := ["debug", "info", "warning", "error"]

def badValue (hint message : String) : String := "Invalid value for '" ++ hint ++ "': " ++ message

def badLevel (value : String) : String :=
  badValue levelOption.name (Text.Quoted.string value ++ " is not one of " ++
    ", ".intercalate (logLevels.map Text.Quoted.string) ++ ".")

def isLevel (value : String) : Bool := logLevels.contains (.ofList (value.toList.map Char.toLower))

def directoryGiven (hint path : String) : String :=
  badValue hint ("File " ++ Text.Quoted.string path ++ " is a directory.")

def fileHint : String := "[FUNCTIONS_FILE]"

def extraArguments (arguments : List String) : String :=
  "Got unexpected extra argument" ++ (if arguments.length = 1 then "" else "s") ++ " (" ++
    " ".intercalate arguments ++ ")"

/-- A command's options, and its action on a file. -/
structure CommandSpec where
  name : String
  options : List OptionSpec
  action : String → Given → Action

def commands : List CommandSpec :=
  [⟨"derive", [outputOption, helpOption], fun file given =>
      .derive file (given.value? outputOption.name)⟩,
    ⟨"schema", [helpOption], fun file _ => .schema file⟩,
    ⟨"check", [helpOption], fun file _ => .check file⟩]

def isDirectory (tree : FileTree) (path : String) : Bool :=
  !path.isEmpty && tree.isDirectory (.ofString path)

def readCommand (tree : FileTree) (environment : Environment) (spec : CommandSpec)
    (args : List String) : Except UsageFault Action := do
  let fail {α : Type} (message : String) : Except UsageFault α :=
    .error { command := some spec.name, message }
  let given ← (readOptions spec.options true args).mapError (UsageFault.ofOption (some spec.name))
  if given.has helpOption.name then return .help (some spec.name)
  if let some output := given.value? outputOption.name then
    if isDirectory tree output then fail (directoryGiven outputOption.name output)
  let file := given.arguments.head?.getD environment.functionsFile
  if isDirectory tree file then fail (directoryGiven fileHint file)
  unless given.arguments.length ≤ 1 do fail (extraArguments (given.arguments.drop 1))
  return spec.action file given

/-- What comes before the command: the level and what is asked of the program itself. -/
def readGlobal (environment : Environment) (args : List String) :
    Except UsageFault (Option Action × List String) := do
  let given ← (readOptions [levelOption, versionOption, helpOption] false args).mapError
    (UsageFault.ofOption none)
  match (given.options.map (·.1)).find? (· ≠ levelOption.name) with
  | some name => return (some (if name = versionOption.name then .version else .help none), [])
  | none =>
    let level := (given.value? levelOption.name).getD environment.logLevel
    if isLevel level then return (none, given.arguments)
    else throw { command := none, message := badLevel level }

def noSuchCommand (name : String) : UsageFault :=
  { command := none, message := "No such command " ++ Text.Quoted.string name ++ "." }

def readInvocation (tree : FileTree) (environment : Environment) (args : List String) :
    Except UsageFault Action := do
  match ← readGlobal environment args with
  | (some action, _) => return action
  | (none, []) => throw { command := none, message := "Missing command." }
  | (none, name :: rest) =>
    match commands.find? (·.name = name) with
    | some spec => readCommand tree environment spec rest
    | none =>
      if looksLikeOption name then
        match ← readGlobal environment (name :: rest) with
        | (some action, _) => return action
        | (none, _) => throw (noSuchCommand name)
      else throw (noSuchCommand name)

end HintSchema.Command

import HintSchema.Command.Failure
import HintSchema.Command.Invocation
import HintSchema.Command.Report
import HintSchema.Connector.Response
import HintSchema.Export.Document
import HintSchema.Json.Layout

/-!
The command line as a function: from a file tree, an environment and arguments to what is printed,
what is written and the exit status.
-/

namespace HintSchema.Command

/-- With a failure the command ends where it arose. -/
structure Result where
  status : Nat := 0
  out : String := ""
  err : String := ""
  written : List (Path × String) := []
  failure : Option Failure := none
  deriving DecidableEq, Repr

namespace Result

def failed (failure : Failure) (err : String) : Result := { status := 1, err, failure }

end Result

/-- Whether a directory is there or can be made. A file in its place or above it is in the way. -/
def makeDirectory (tree : FileTree) (directory : Path) : Except WriteFault Unit :=
  if tree.isDirectory directory then .ok ()
  else if tree.isFile directory then .error .fileExists
  else if directory.ancestors.any tree.isFile then .error .notADirectory
  else .ok ()

def deriveResult (tree : FileTree) (createdAt : String) (file : String) (output : Option String)
    (o : SchemaOutcome) : Result :=
  let issues := issuesText o.issues
  let text := (Export.document createdAt (.ofString file) o).layout
  match output.filter (!·.isEmpty) with
  | none => { out := text ++ "\n", err := issues }
  | some output =>
    let target := Path.ofString output
    match makeDirectory tree target.parent with
    | .error fault => .failed (.write fault) (issues ++ bannerText)
    | .ok () =>
      { out := summaryText o ++ savedText output
        err := issues ++ bannerText
        written := [(tree.resolve target, text)] }

def schemaResult (o : SchemaOutcome) : Result :=
  let response := Connector.SchemaResponse.ofSchema o.schema
  { out := response.toJson.layout ++ "\n", err := issuesText o.issues }

def checkResult (o : SchemaOutcome) : Result :=
  if o.hasBrokenFunctions then { status := 1, err := issuesText o.issues }
  else { out := passedText o, err := issuesText o.issues }

def usageResult (fault : UsageFault) : Result := { status := 2, err := fault.text }

def withOutcome (tree : FileTree) (libraries : List String) (environment : Environment)
    (command file : String) (next : SchemaOutcome → Result) : Result :=
  match environment.settings tree with
  | .error error => usageResult { command := some command, message := error.message }
  | .ok defaults =>
    match Derivation.deriveFile tree libraries (.ofString file) defaults with
    | .ok outcome => next outcome
    | .error (.compiler error) => { status := 1, err := failureText error }
    | .error fault => .failed (.derive fault) ""

def run (tree : FileTree) (libraries : List String) (environment : Environment)
    (createdAt : String) (args : List String) : Result :=
  match readInvocation tree environment args with
  | .error fault => usageResult fault
  | .ok .version => { out := programName ++ ", version " ++ programVersion ++ "\n" }
  | .ok (.help command) => { out := usageLine command }
  | .ok (.derive file output) =>
    withOutcome tree libraries environment "derive" file
      (deriveResult tree createdAt file output)
  | .ok (.schema file) => withOutcome tree libraries environment "schema" file schemaResult
  | .ok (.check file) => withOutcome tree libraries environment "check" file checkResult

end HintSchema.Command

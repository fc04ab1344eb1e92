import HintSchema.Files.Tree
import HintSchema.Settings.Version

/-!
What the environment sets for the command line.
-/

namespace HintSchema.Command

structure Environment where
  functionsFile : String := "./functions.py"
  outputDirectory : String := "./output"
  logLevel : String := "WARNING"
  version : Option String := none
  searchPaths : List String := []
  deriving DecidableEq, Repr

namespace Environment

def lead : String := "FUNCTIONS_SDK_"

/-- An empty version and empty search paths are none. -/
def ofVariables (valueOf : String → Option String) : Environment :=
  let get? (name : String) := valueOf (lead ++ name)
  { functionsFile := (get? "FUNCTIONS").getD "./functions.py"
    outputDirectory := (get? "OUTPUT_DIR").getD "./output"
    logLevel := (get? "LOG_LEVEL").getD "WARNING"
    version := (get? "PYTHON_VERSION").filter (!·.isEmpty)
    searchPaths := (Text.splitAt ':' ((get? "SEARCH_PATHS").getD "")).filter (!·.isEmpty) }

def settings (e : Environment) (tree : FileTree) : Except VersionError Settings := do
  let version ← e.version.mapM Version.parseText
  let searchPaths := e.searchPaths.map fun p => (tree.resolve (.ofString p)).toString
  return { version, searchPaths }

end Environment

end HintSchema.Command

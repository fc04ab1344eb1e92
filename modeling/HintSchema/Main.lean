import HintSchema.Command.Run
import Std.Time.Format

/-!
The program. It reads the working directory and the library directories, runs the command line on
them and shows what came of it.
-/

namespace HintSchema

def variableNames : List String :=
  ["FUNCTIONS", "OUTPUT_DIR", "LOG_LEVEL", "PYTHON_VERSION", "SEARCH_PATHS"].map
    (Command.Environment.lead ++ ·)

def readEnvironment : IO Command.Environment := do
  let values ← variableNames.filterMapM fun name => return (← IO.getEnv name).map (name, ·)
  return .ofVariables fun name => values.lookup name

def readLibraries : IO (List String) := do
  let places := (Text.splitAt ':' ((← IO.getEnv "PYTHONPATH").getD "")).filter (!·.isEmpty)
  places.filterM fun place => (System.mkFilePath [place]).isDir

def readBelow (tree : FileTree) (root : Path) : IO FileTree := do
  let mut files := tree.files
  let mut directories := root :: tree.directories
  for place in ← (System.mkFilePath [root.toString]).walkDir do
    let path := Path.ofString place.toString
    if ← place.isDir then directories := path :: directories
    else files := (path, ← IO.FS.readBinFile place) :: files
  return { tree with files, directories }

def readTree (libraries : List String) : IO FileTree := do
  let cwd := Path.ofString (← IO.currentDir).toString
  let roots := cwd :: (libraries.map fun l => (Path.ofString l).resolve cwd).filter (!·.isBelow cwd)
  roots.foldlM readBelow { cwd, files := [], directories := [] }

def writeResult (path : Path) (text : String) : IO Unit := do
  IO.FS.createDirAll path.parent.toString
  IO.FS.writeFile path.toString text

def currentTime : IO String :=
  return (← Std.Time.PlainDateTime.now).format "uuuu-MM-dd'T'HH:mm:ss.SSSSSS"

end HintSchema

open HintSchema in
def main (args : List String) : IO UInt32 := do
  let libraries ← readLibraries
  let tree ← readTree libraries
  let result := Command.run tree libraries (← readEnvironment) (← currentTime) args
  for (path, text) in result.written do
    writeResult path text
  IO.print result.out
  IO.eprint result.err
  if let some failure := result.failure then IO.eprintln failure.message
  return UInt32.ofNat result.status

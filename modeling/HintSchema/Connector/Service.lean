import HintSchema.Command.Report
import HintSchema.Connector.Response

/-!
A data connector for one functions file. It announces its schema and answers no requests.
-/

namespace HintSchema.Connector

structure Service where
  functionsFile : Path
  defaults : Settings

/-- A validated configuration is the schema it leads to. -/
structure Configuration where
  schema : FunctionsSchema
  deriving DecidableEq, Repr

inductive Request where
  | query | mutation | explain
  deriving DecidableEq, Repr

def configurationSchema : Json :=
  .obj [("description", .str "Python Functions SDK Connector Configuration"),
    ("type", .str "object"), ("required", .arr []), ("properties", .obj [])]

def emptyConfiguration : Json := .obj []

/-- There is nothing to configure, so an update leads back to the empty configuration. -/
def updateConfiguration (_ : Json) : Json := emptyConfiguration

def protocolVersion : String := "^0.1.0"

def capabilities : Json :=
  .obj [("versions", .str protocolVersion), ("capabilities", .obj [("query", .obj [])])]

def requestMessage (_ : Request) : String := "Function not implemented."

namespace Configuration

def response (c : Configuration) : SchemaResponse := .ofSchema c.schema

end Configuration

namespace Service

/-- The configuration, and what is reported on the way. What is wrong with the analysed files is
only reported: then the schema is empty. -/
def validate (s : Service) (tree : FileTree) (libraries : List String) :
    Except DeriveFault (Configuration × String) :=
  match Derivation.deriveFile tree libraries s.functionsFile s.defaults with
  | .ok outcome => .ok (⟨outcome.schema⟩, Command.issuesText outcome.issues)
  | .error (.compiler error) => .ok (⟨{}⟩, Command.diagnosticsText error.diagnostics)
  | .error fault => .error fault

end Service

end HintSchema.Connector

import HintSchema.Derivation.Module
import HintSchema.Schema.Document

/-!
The exported document: what was derived, from which file and when.
-/

namespace HintSchema.Export

def issuesJson (issues : List (String × List String)) : Json :=
  .obj (issues.map fun (name, texts) => (name, .texts texts))

/-- The numbers and names at the head of the document, without the time. -/
def summary (functionsFile : Path) (o : SchemaOutcome) : List (String × Json) :=
  [("functions_file", .str functionsFile.toString),
    ("total_functions", .int o.schema.functions.length),
    ("total_object_types", .int o.schema.objectTypes.length),
    ("broken_functions", .texts o.sortedBroken)]

def document (createdAt : String) (functionsFile : Path) (o : SchemaOutcome) : Json :=
  .obj [("metadata", .obj (("created_at", .str createdAt) :: summary functionsFile o)),
    ("schema", o.schema.toJson),
    ("function_issues", issuesJson o.issues)]

end HintSchema.Export

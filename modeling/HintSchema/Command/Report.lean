import HintSchema.Derivation.File

/-!
What the command line tells its user.
-/

namespace HintSchema.Command

def lines (items : List String) : String := String.join (items.map (· ++ "\n"))

def diagnosticsText (diagnostics : List Diagnostic) : String :=
  if diagnostics.isEmpty then ""
  else lines ((toString diagnostics.length ++ " compiler error(s):") ::
    diagnostics.map ("  " ++ ·.text))

def issuesText (issues : List (String × List String)) : String :=
  if issues.isEmpty then ""
  else lines (("Issues found in " ++ toString issues.length ++ " function(s):") ::
    issues.flatMap fun (name, texts) => ("  " ++ name ++ ":") ::
      texts.map fun text => "    • " ++ (CodeText.ofName text).toString)

def failureText (error : CompilerError) : String :=
  "❌ " ++ error.message ++ "\n" ++ diagnosticsText error.diagnostics

def bannerText : String :=
  let rule := String.ofList (List.replicate 44 '=')
  lines [rule, "║   Python Functions SDK                 ║",
    "║   Schema derivation from type hints    ║", rule]

def headerText (title : String) : String :=
  let rule := String.ofList (List.replicate 45 '━')
  lines ["", rule, title, rule, ""]

def summaryText (o : SchemaOutcome) : String :=
  let broken := o.sortedBroken
  let counts := "✅ " ++ toString o.schema.functions.length ++ " function(s), " ++
    toString o.schema.objectTypes.length ++ " object type(s)"
  headerText "Schema Derivation" ++ lines (counts ::
    if broken.isEmpty then []
    else ["❌ " ++ toString broken.length ++ " broken function(s): " ++ ", ".intercalate broken])

def passedText (o : SchemaOutcome) : String :=
  "✅ " ++ toString o.schema.functions.length ++ " function(s) OK\n"

def savedText (output : String) : String := "Saved to " ++ output ++ "\n"

end HintSchema.Command

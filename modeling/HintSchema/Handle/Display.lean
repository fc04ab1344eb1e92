import HintSchema.Handle.Basic
import HintSchema.Syntax.Listing

/-!
Handles as they would be written in a hint.
-/

namespace HintSchema.Handle

def withArguments (base : String) (arguments : List String) : String :=
  if arguments.isEmpty then base else base ++ "[" ++ ", ".intercalate arguments ++ "]"

namespace Source

/-- The fields behind a record without a name: the dictionary, or the class that goes by the name
such records have. -/
def inlineText? (source : RecordSource) : Except PrintFault String :=
  match source.fields with
  | .ofDict fields => fields.source?
  | .ofClass definition => definition.source?

end Source

mutual

/-- The written form, unless a record without a name has fields that cannot be written out. -/
def display? : Handle → Except PrintFault String
  | .intrinsic kind => return kind.text
  | .void text => return text
  | .union members => do
    let texts ← displayAll? members
    return " | ".intercalate texts
  | .list name element => do
    let text ← display? element
    return name ++ "[" ++ text ++ "]"
  | .awaitable name arguments => do
    let texts ← displayAll? arguments
    return withArguments name texts
  | .classObject symbol arguments => do
    let texts ← displayAll? arguments
    return withArguments symbol.name texts
  | .record symbol source arguments aliasName =>
    match aliasName.filter (!·.isEmpty) with
    | some name => return name
    | .none =>
      if symbol.isAnonymous then do
        let text ← Source.inlineText? source
        return "TypedDict[" ++ text ++ "]"
      else do
        let texts ← displayAll? arguments
        return withArguments ((source.name.filter (!·.isEmpty)).getD symbol.name) texts
  | .typeParameter name => return name
  | .unsupported text _ => return text
  | .deferred target arguments => do
    let texts ← displayAll? arguments
    return withArguments target.key.name texts

def displayAll? : List Handle → Except PrintFault (List String)
  | [] => return []
  | h :: rest => do
    let text ← display? h
    let texts ← displayAll? rest
    return text :: texts

end

end HintSchema.Handle

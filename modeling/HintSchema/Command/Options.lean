import HintSchema.Text.Quoted
import HintSchema.Text.Similarity

/-!
Options on a command line. Each has a long name, and some take a value.
-/

namespace HintSchema.Command

structure OptionSpec where
  name : String
  takesValue : Bool
  deriving DecidableEq, Repr

inductive OptionFault where
  | unknown (name : String) (near : List String)
  | valueMissing (name : String)
  | valueUnexpected (name : String)
  deriving DecidableEq, Repr

namespace OptionFault

def message : OptionFault → String
  | unknown name [] => "No such option: " ++ name
  | unknown name [one] => "No such option: " ++ name ++ " Did you mean " ++ one ++ "?"
  | unknown name near =>
    "No such option: " ++ name ++ " (Possible options: " ++ ", ".intercalate near ++ ")"
  | valueMissing name => "Option " ++ Text.Quoted.string name ++ " requires an argument."
  | valueUnexpected name => "Option " ++ Text.Quoted.string name ++ " does not take a value."

end OptionFault

/-- The options in the order in which they were given, and everything else. -/
structure Given where
  options : List (String × String) := []
  arguments : List String := []
  deriving DecidableEq, Repr

namespace Given

def value? (g : Given) (name : String) : Option String := g.options.reverse.lookup name

def has (g : Given) (name : String) : Bool := (g.value? name).isSome

end Given

def looksLikeOption (arg : String) : Bool := arg.startsWith "-" && arg.length > 1

/-- Without the second dash only the first letter counts as the name. -/
def unknownOption (specs : List OptionSpec) (arg name : String) : OptionFault :=
  if arg.startsWith "--" then
    .unknown name (((specs.map (·.name)).filter (Text.isClose · name)).mergeSort fun a b => a ≤ b)
  else .unknown (.ofList (arg.toList.take 2)) []

def splitOption (arg : String) : String × Option String :=
  let name := String.ofList (arg.toList.takeWhile (· ≠ '='))
  let rest := arg.toList.drop name.length
  (name, if rest.isEmpty then none else some (.ofList (rest.drop 1)))

/-- Reads a command line. `mixed` allows options behind other arguments; two dashes end them. -/
def readOptions (specs : List OptionSpec) (mixed : Bool) : List String → Except OptionFault Given
  | [] => .ok {}
  | "--" :: rest => .ok { arguments := rest }
  | arg :: rest => do
    if looksLikeOption arg then
      let (name, attached) := splitOption arg
      match specs.find? (·.name = name) with
      | none => throw (unknownOption specs arg name)
      | some spec =>
        if spec.takesValue then
          match attached with
          | some value =>
            let given ← readOptions specs mixed rest
            return { given with options := (name, value) :: given.options }
          | none =>
            match rest with
            | value :: after =>
              let given ← readOptions specs mixed after
              return { given with options := (name, value) :: given.options }
            | [] => throw (.valueMissing name)
        else if attached.isSome then throw (.valueUnexpected name)
        else
          let given ← readOptions specs mixed rest
          return { given with options := (name, "") :: given.options }
    else if mixed then
      let given ← readOptions specs mixed rest
      return { given with arguments := arg :: given.arguments }
    else return { arguments := arg :: rest }

end HintSchema.Command

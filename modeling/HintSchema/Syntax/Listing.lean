import HintSchema.Syntax.Printer
import HintSchema.Syntax.Statement

/-!
Statements written out again, line by line: four spaces for each block around a line, an empty line
before a class or a function, texts that document a body in triple quotes.
-/

namespace HintSchema

open Printer

namespace Pattern

mutual

def sourceAt (rank : Rank) : Pattern → Except PrintFault String
  | .value constant => constant.source?
  | .sequence items => do
    return "[" ++ commaList (← sourceOfList Rank.test items) ++ "]"
  | .mapping entries rest => do
    let entries ← sourceOfEntries entries
    return "\x7b" ++ commaList (entries ++ rest.toList.map ("**" ++ ·)) ++ "\x7d"
  | .record callee items fields => do
    let callee ← callee.sourceAt false Rank.atom
    let items ← sourceOfList Rank.test items
    let fields ← sourceOfFields fields
    return callee ++ "(" ++ commaList (items ++ fields) ++ ")"
  | .star name => return "*" ++ name.getD "_"
  | .capture name => return name.getD "_"
  | .bind inner name => do
    let text ← sourceAt Rank.bitOr inner
    return parens (Rank.test < rank) (text ++ " as " ++ name)
  | .either items => do
    let texts ← sourceOfList (Rank.bitOr + 1) items
    return parens (Rank.bitOr < rank) (" | ".intercalate texts)

def sourceOfList (rank : Rank) : List Pattern → Except PrintFault (List String)
  | [] => return []
  | p :: rest => do
    let text ← sourceAt rank p
    return text :: (← sourceOfList rank rest)

def sourceOfEntries : List PatternEntry → Except PrintFault (List String)
  | [] => return []
  | .mk key inner :: rest => do
    let key ← key.source?
    let text ← sourceAt Rank.test inner
    return (key ++ ": " ++ text) :: (← sourceOfEntries rest)

def sourceOfFields : List PatternField → Except PrintFault (List String)
  | [] => return []
  | .mk name inner :: rest => do
    let text ← sourceAt Rank.test inner
    return (name ++ "=" ++ text) :: (← sourceOfFields rest)

end

end Pattern

namespace Printer

def line (depth : Nat) (text : String) : String :=
  String.join (List.replicate depth "    ") ++ text

def under (depth : Nat) (word : String) (block : List String) : List String :=
  if block.isEmpty then [] else line depth (word ++ ":") :: block

def optionalSource (lead : String) (e : Option Expr) : Except PrintFault String :=
  Expr.sourceOfOption false Rank.test lead e

def documentText (value : CodeText) (marked : Bool) : String :=
  let (text, fitting) := inside ["\x22\x22\x22", "\x27\x27\x27"] false value
  (if marked then "u" else "") ++ quoted (fitting.headD "\x22\x22\x22") text

end Printer

namespace ImportAlias

def source (item : ImportAlias) : String :=
  item.name ++ (item.asName.map (" as " ++ ·)).getD ""

end ImportAlias

namespace WithItem

def source? (item : WithItem) : Except PrintFault String := do
  let context ← item.context.source?
  return context ++ (← optionalSource " as " item.target)

end WithItem

namespace ArmHead

def source? (groups : Bool) : ArmHead → Except PrintFault String
  | .handler caught name => do
    let caught ← optionalSource " " caught
    return (if groups then "except*" else "except") ++ caught ++
      (name.map (" as " ++ ·)).getD "" ++ ":"
  | .case pattern guard => do
    let pattern ← pattern.sourceAt Rank.test
    return "case " ++ pattern ++ (← optionalSource " if " guard) ++ ":"

end ArmHead

namespace LoopHead

def source? : LoopHead → Except PrintFault String
  | .test condition => return "while " ++ (← condition.source?) ++ ":"
  | .each isAsync target source => do
    let target ← target.sourceAt false Rank.tuple
    let source ← source.source?
    return (if isAsync then "async for " else "for ") ++ target ++ " in " ++ source ++ ":"

end LoopHead

namespace SimpleStatement

def source? : SimpleStatement → Except PrintFault String
  | .pass => return "pass"
  | .breakLoop => return "break"
  | .continueLoop => return "continue"
  | .returns value => return "return" ++ (← optionalSource " " value)
  | .raises none => return "raise"
  | .raises (some (raised, cause)) => do
    let raised ← raised.source?
    return "raise " ++ raised ++ (← optionalSource " from " cause)
  | .delete targets => return "del " ++ commaList (← targets.mapM Expr.source?)
  | .assert condition message => do
    let condition ← condition.source?
    return "assert " ++ condition ++ (← optionalSource ", " message)
  | .globals names => return "global " ++ commaList names
  | .nonlocals names => return "nonlocal " ++ commaList names

end SimpleStatement

namespace Statement

def decoratorLines (depth : Nat) (decorators : List Expr) : Except PrintFault (List String) :=
  decorators.mapM fun decorator => return line depth ("@" ++ (← decorator.source?))

def classHead (definition : ClassDef Statement) : Except PrintFault String := do
  let bases ← definition.bases.mapM Expr.source?
  let keywords ← Expr.sourceOfKeywords false definition.keywords
  let arguments := bases ++ keywords
  return "class " ++ definition.name ++
    (if arguments.isEmpty then "" else "(" ++ commaList arguments ++ ")") ++ ":"

def functionHead (definition : FunctionDef Statement) : Except PrintFault String := do
  let parameters ← Expr.sourceOfParameters false definition.parameters
  let returns ← optionalSource " -> " definition.returns
  return (if definition.isAsync then "async def " else "def ") ++ definition.name ++ "(" ++
    parameterList parameters ++ ")" ++ returns ++ ":"

def plainSource? : Statement → Except PrintFault String
  | .importModules names => return "import " ++ commaList (names.map (·.source))
  | .importFrom _ module level names =>
    return "from " ++ String.ofList (List.replicate level '.') ++ module.getD "" ++ " import " ++
      commaList (names.map (·.source))
  | .assign targets value => do
    let targets ← targets.mapM fun target => return (← target.sourceAt false Rank.tuple) ++ " = "
    return String.join targets ++ (← value.source?)
  | .augment target op value => do
    let target ← target.source?
    return target ++ " " ++ binarySign op ++ "= " ++ (← value.source?)
  | .declare target hint value bare => do
    let target ← target.source?
    let hint ← hint.source?
    return parens (!bare) target ++ ": " ++ hint ++ (← optionalSource " = " value)
  | .expression value => value.sourceAt false Rank.yield
  | .simple statement => statement.source?
  | _ => return ""

mutual

def linesOf (depth : Nat) : Statement → Except PrintFault (List String)
  | .classDef ⟨pos, name, bases, keywords, decorators, body⟩ => do
    let decorators' ← decoratorLines depth decorators
    let head ← classHead ⟨pos, name, bases, keywords, decorators, body⟩
    let body ← linesOfBody (depth + 1) body
    return "" :: decorators' ++ line depth head :: body
  | .functionDef ⟨isAsync, name, parameters, returns, decorators, body⟩ => do
    let decorators' ← decoratorLines depth decorators
    let head ← functionHead ⟨isAsync, name, parameters, returns, decorators, body⟩
    let body ← linesOfBody (depth + 1) body
    return "" :: decorators' ++ line depth head :: body
  | .branch test body orelse => do
    let test ← test.source?
    let body ← linesOfAll (depth + 1) body
    return line depth ("if " ++ test ++ ":") :: body ++ (← linesOfElse depth orelse)
  | .loop head body orelse => do
    let head ← head.source?
    let body ← linesOfAll (depth + 1) body
    return line depth head :: body ++ under depth "else" (← linesOfAll (depth + 1) orelse)
  | .within isAsync items body => do
    let items ← items.mapM (·.source?)
    let body ← linesOfAll (depth + 1) body
    return line depth ((if isAsync then "async with " else "with ") ++ commaList items ++ ":") ::
      body
  | .attempt groups body handlers orelse cleanup => do
    let body ← linesOfAll (depth + 1) body
    let handlers ← linesOfArms depth groups handlers
    let orelse ← linesOfAll (depth + 1) orelse
    let cleanup ← linesOfAll (depth + 1) cleanup
    return line depth "try:" :: body ++ handlers ++ under depth "else" orelse ++
      under depth "finally" cleanup
  | .choice subject arms => do
    let subject ← subject.source?
    return line depth ("match " ++ subject ++ ":") :: (← linesOfArms (depth + 1) false arms)
  | other => return [line depth (← plainSource? other)]

def linesOfAll (depth : Nat) : List Statement → Except PrintFault (List String)
  | [] => return []
  | s :: rest => do
    let first ← linesOf depth s
    return first ++ (← linesOfAll depth rest)

def linesOfBody (depth : Nat) : List Statement → Except PrintFault (List String)
  | [] => return []
  | .expression (.literal _ (.text value marked)) :: rest =>
    return line depth (documentText value marked) :: (← linesOfAll depth rest)
  | s :: rest => do
    let first ← linesOf depth s
    return first ++ (← linesOfAll depth rest)

/-- What follows the block of a condition: one more condition, if nothing else is there. -/
def linesOfElse (depth : Nat) : List Statement → Except PrintFault (List String)
  | [] => return []
  | [.branch test body orelse] => do
    let test ← test.source?
    let body ← linesOfAll (depth + 1) body
    return line depth ("elif " ++ test ++ ":") :: body ++ (← linesOfElse depth orelse)
  | s :: rest => do
    let first ← linesOf (depth + 1) s
    return under depth "else" (first ++ (← linesOfAll (depth + 1) rest))

def linesOfArms (depth : Nat) (groups : Bool) :
    List (Arm Statement) → Except PrintFault (List String)
  | [] => return []
  | ⟨head, body⟩ :: rest => do
    let head ← head.source? groups
    let body ← linesOfAll (depth + 1) body
    return line depth head :: body ++ (← linesOfArms depth groups rest)

end

end Statement

namespace ClassDef

def source? (definition : ClassDef Statement) : Except PrintFault String := do
  let lines ← Statement.linesOf 0 (.classDef definition)
  return "\n".intercalate (lines.drop 1)

end ClassDef

end HintSchema

import HintSchema.Decimal.Shortest
import HintSchema.Syntax.Number
import HintSchema.Text.Quoted

/-!
Expressions written out again in one canonical form: one space around operators, parentheses where
the rank of a node asks for them, constants in their quoted form. The first part that has no such
form decides what is wrong with the whole.
-/

namespace HintSchema

inductive PrintFault where
  /-- A field of an interpolated text needs a backslash. -/
  | backslashInField
  /-- An integer has more decimal digits than any conversion gives. -/
  | tooManyDigits
  /-- A part of an interpolated text is neither text nor a field. -/
  | foreignPart
  deriving DecidableEq, Repr

open HintSchema.Text (isPrintable)
open HintSchema.Text.Quoted (numericEscape)

namespace Printer

/-- How tightly a node binds. Adjacent ranks differ by one, and an operand's rank is its own or that
of its place plus one. -/
abbrev Rank := Nat

namespace Rank

def tuple : Rank := 2
def yield : Rank := 3
def test : Rank := 4
def or : Rank := 5
def and : Rank := 6
def not : Rank := 7
def comparison : Rank := 8
def bitOr : Rank := 9
def factor : Rank := 15
def power : Rank := 16
def await : Rank := 17
def atom : Rank := 18

end Rank

def binaryRank : BinaryOp → Rank
  | .bitOr => 9
  | .bitXor => 10
  | .bitAnd => 11
  | .leftShift | .rightShift => 12
  | .add | .sub => 13
  | .mul | .matMul | .div | .mod | .floorDiv => 14
  | .pow => 16

def binarySign : BinaryOp → String
  | .add => "+"
  | .sub => "-"
  | .mul => "*"
  | .matMul => "@"
  | .div => "/"
  | .mod => "%"
  | .pow => "**"
  | .leftShift => "<<"
  | .rightShift => ">>"
  | .bitOr => "|"
  | .bitXor => "^"
  | .bitAnd => "&"
  | .floorDiv => "//"

def compareSign : CompareOp → String
  | .eq => "=="
  | .notEq => "!="
  | .less => "<"
  | .lessEq => "<="
  | .greater => ">"
  | .greaterEq => ">="
  | .is => "is"
  | .isNot => "is not"
  | .isIn => "in"
  | .notIn => "not in"

def unarySign : UnaryOp → String
  | .invert => "~"
  | .not => "not "
  | .plus => "+"
  | .minus => "-"

def unaryRank : UnaryOp → Rank
  | .not => Rank.not
  | _ => Rank.factor

def parens (wanted : Bool) (text : String) : String :=
  if wanted then "(" ++ text ++ ")" else text

/-! ### Constants -/

def decimal (value : Nat) : Except PrintFault String :=
  let digits := toString value
  if Number.digitLimit < digits.length then throw .tooManyDigits else return digits

/-- An infinity is written as a number that is too large. -/
def numberText (whole : Bool) : Binary64 → String
  | .infinite negative => if negative then "-1e309" else "1e309"
  | x => x.render whole

/-! ### Texts that avoid backslashes -/

def quotes : List String := ["\x27", "\x22", "\x22\x22\x22", "\x27\x27\x27"]

def quoteChar (quote : String) : Char := (quote.toList.headD '\x27')

/-- An escape for a character that cannot stand for itself; line feeds and tabs may, if allowed. -/
def plainEscape (escapeSpace : Bool) : CodePoint → List Char
  | .scalar c =>
    if (c = '\n' ∨ c = '\t') ∧ !escapeSpace then [c]
    else if c = '\\' then ['\\', '\\']
    else if c = '\n' then ['\\', 'n']
    else if c = '\t' then ['\\', 't']
    else if c = '\r' then ['\\', 'r']
    else if isPrintable c then [c]
    else numericEscape c.toNat
  | .surrogate offset => numericEscape (0xd800 + offset.val)

def holds (quote : String) (text : List Char) : Bool :=
  match text with
  | [] => false
  | c :: rest => quote.toList.isPrefixOf (c :: rest) || holds quote rest

/-- The inside of a text literal, and the quotes that fit around it, best first. -/
def inside (allowed : List String) (escapeSpace : Bool) (value : CodeText) :
    List Char × List String :=
  let escaped := value.flatMap (plainEscape escapeSpace)
  let fitting := allowed.filter fun q =>
    (!escaped.contains '\n' || q.length == 3) && !holds q escaped
  if fitting.isEmpty then
    let written := (Text.Quoted.text value).toList
    let mark := written.headD '\x27'
    let quote := (allowed.find? fun q => q.toList.contains mark).getD mark.toString
    ((written.drop 1).dropLast, [quote])
  else
    match escaped.getLast? with
    | none => (escaped, fitting)
    | some last =>
      let (clashing, free) := fitting.partition fun q => quoteChar q == last
      let ordered := free ++ clashing
      if free.isEmpty then (escaped.dropLast ++ ['\\', last], ordered) else (escaped, ordered)

def quoted (quote : String) (text : List Char) : String := quote ++ .ofList text ++ quote

def plainText (value : CodeText) : String :=
  let (text, fitting) := inside quotes false value
  quoted (fitting.headD "\x27") text

/-- Joins the parts of an interpolated text, of which those that are text themselves may use
escapes, in quotes that fit all of them. -/
def joinParts (parts : List (CodeText × Bool)) : String :=
  let rec fit (allowed : List String) (written : List Char) :
      List (CodeText × Bool) → Option (List Char × List String)
    | [] => some (written, allowed)
    | (value, isText) :: rest =>
      let (text, fitting) := inside allowed isText value
      if fitting.any allowed.contains then fit fitting (written ++ text) rest else none
  match fit quotes [] parts with
  | some (written, allowed) => quoted (allowed.headD "\x27") written
  | none =>
    let written := parts.flatMap fun (value, _) =>
      (((Text.Quoted.text (.scalar '\x22' :: value)).toList).drop 2).dropLast
    quoted "\x27\x27\x27" written

def doubleBraces (value : CodeText) : CodeText :=
  value.flatMap fun p =>
    if p = .scalar '\x7b' ∨ p = .scalar '\x7d' then [p, p] else [p]

def literal (plain : Bool) : Literal → Except PrintFault String
  | .none => return "None"
  | .true => return "True"
  | .false => return "False"
  | .ellipsis => return "..."
  | .int value => decimal value
  | .float value => return numberText true value
  | .imaginary value => return numberText false value ++ "j"
  | .text value marked =>
    return (if marked then "u" else "") ++ if plain then plainText value else Text.Quoted.text value
  | .bytes value => return Text.Quoted.bytes value

def isInteger : Expr → Bool
  | .literal _ (.int _) | .literal _ .true | .literal _ .false => true
  | _ => false

def commaList : List String → String := String.intercalate ", "

def tupleItems (items : List String) : String :=
  match items with
  | [item] => item ++ ","
  | _ => commaList items

/-- Parameters with their slash and star, given each with its default written out. -/
def parameterList (items : List (ParameterKind × String)) : String :=
  let positionalOnly := items.filter fun p => p.1 == .positionalOnly
  let regular := items.filter fun p => p.1 == .positionalOrKeyword
  let variadic := items.filter fun p => p.1 == .variadicPositional
  let keywordOnly := items.filter fun p => p.1 == .keywordOnly
  let spread := items.filter fun p => p.1 == .variadicKeyword
  let slash := if positionalOnly.isEmpty then [] else ["/"]
  let star := if variadic.isEmpty && !keywordOnly.isEmpty then ["*"] else variadic.map ("*" ++ ·.2)
  commaList (positionalOnly.map (·.2) ++ slash ++ regular.map (·.2) ++ star ++
    keywordOnly.map (·.2) ++ spread.map ("**" ++ ·.2))

/-- What stands between the braces of a field: no backslash, and no brace right after the first. -/
def fieldValue (value : String) : Except PrintFault String :=
  if value.contains '\\' then throw .backslashInField
  else return if value.startsWith "\x7b" then " " ++ value else value

def fieldText (value : String) (conversion : Option Char) (spec : Option (List (CodeText × Bool))) :
    CodeText :=
  let mark := match conversion with
    | some c => ['!', c]
    | none => []
  let format := match spec with
    | some parts => CodePoint.scalar ':' :: parts.flatMap (·.1)
    | none => []
  CodeText.ofString ("\x7b" ++ value) ++ CodeText.ofChars mark ++ format ++
    CodeText.ofString "\x7d"

end Printer

namespace Expr

open Printer

mutual

/-- The canonical form in a place of the given rank. In the fields of an interpolated text, where
`plain` is set, no backslash may be written: without one there may be no form at all. -/
def sourceAt (plain : Bool) (rank : Rank) : Expr → Except PrintFault String
  | .name _ id => return id
  | .literal _ value => Printer.literal plain value
  | .member _ value attr => do
    let text ← sourceAt plain Rank.atom value
    return (text ++ (if isInteger value then " ." else ".") ++ attr)
  | .subscript _ value (.tuple _ (item :: items)) => do
    let text ← sourceAt plain Rank.atom value
    let item ← sourceAt plain Rank.test item
    let items ← sourceOfList plain Rank.test items
    return (text ++ "[" ++ tupleItems (item :: items) ++ "]")
  | .subscript _ value index => do
    let text ← sourceAt plain Rank.atom value
    let inner ← sourceAt plain Rank.test index
    return (text ++ "[" ++ inner ++ "]")
  | .call _ callee arguments keywords => do
    let text ← sourceAt plain Rank.atom callee
    let arguments ← sourceOfList plain Rank.test arguments
    let keywords ← sourceOfKeywords plain keywords
    return (text ++ "(" ++ commaList (arguments ++ keywords) ++ ")")
  | .binary _ op left right => do
    let own := binaryRank op
    let (onLeft, onRight) := if op = .pow then (own + 1, own) else (own, own + 1)
    let left ← sourceAt plain onLeft left
    let right ← sourceAt plain onRight right
    return (parens (own < rank) (left ++ " " ++ binarySign op ++ " " ++ right))
  | .unary _ op operand => do
    let own := unaryRank op
    let text ← sourceAt plain own operand
    return (parens (own < rank) (unarySign op ++ text))
  | .boolean _ op operands => do
    let own := match op with
      | .and => Rank.and
      | .or => Rank.or
    let texts ← sourceRising plain (own + 1) operands
    let sign := match op with
      | .and => " and "
      | .or => " or "
    return (parens (own < rank) (sign.intercalate texts))
  | .compare _ first rest => do
    let first ← sourceAt plain (Rank.comparison + 1) first
    let rest ← sourceOfComparisons plain rest
    return (parens (Rank.comparison < rank) (first ++ rest))
  | .conditional _ test body orelse => do
    let body ← sourceAt plain (Rank.test + 1) body
    let test ← sourceAt plain (Rank.test + 1) test
    let orelse ← sourceAt plain Rank.test orelse
    return (parens (Rank.test < rank) (body ++ " if " ++ test ++ " else " ++ orelse))
  | .lambda _ parameters body => do
    let parameters ← sourceOfParameters plain parameters
    let body ← sourceAt plain Rank.test body
    let list := parameterList parameters
    return (parens (Rank.test < rank)
      ((if list.isEmpty then "lambda: " else "lambda " ++ list ++ ": ") ++ body))
  | .tuple _ items => do
    let texts ← sourceOfList plain Rank.test items
    return (parens (texts.isEmpty || Rank.tuple < rank) (tupleItems texts))
  | .list _ items => do
    return ("[" ++ commaList (← sourceOfList plain Rank.test items) ++ "]")
  | .set _ items => do
    return ("\x7b" ++ commaList (← sourceOfList plain Rank.test items) ++ "\x7d")
  | .dict _ items => do
    return ("\x7b" ++ commaList (← sourceOfItems plain items) ++ "\x7d")
  | .comprehension _ kind element clauses => do
    let element ← sourceAt plain Rank.test element
    let clauses ← sourceOfClauses plain clauses
    let (opening, closing) := match kind with
      | .list => ("[", "]")
      | .set => ("\x7b", "\x7d")
      | .generator => ("(", ")")
    return (opening ++ element ++ clauses ++ closing)
  | .dictComprehension _ key value clauses => do
    let key ← sourceAt plain Rank.test key
    let value ← sourceAt plain Rank.test value
    let clauses ← sourceOfClauses plain clauses
    return ("\x7b" ++ key ++ ": " ++ value ++ clauses ++ "\x7d")
  | .await _ value => do
    let text ← sourceAt plain Rank.atom value
    return (parens (Rank.await < rank) ("await " ++ text))
  | .yield _ value => do
    let text ← sourceOfOption plain Rank.atom " " value
    return (parens (Rank.yield < rank) ("yield" ++ text))
  | .yieldFrom _ value => do
    let text ← sourceAt plain Rank.atom value
    return (parens (Rank.yield < rank) ("yield from " ++ text))
  | .starred _ value => do
    let text ← sourceAt plain Rank.bitOr value
    return ("*" ++ text)
  | .named _ target value => do
    let target ← sourceAt plain Rank.atom target
    let value ← sourceAt plain Rank.atom value
    return (parens (Rank.tuple < rank) (target ++ " := " ++ value))
  | .slice _ lower upper step => do
    let lower ← sourceOfOption plain Rank.test "" lower
    let upper ← sourceOfOption plain Rank.test "" upper
    let step ← sourceOfOption plain Rank.test ":" step
    return (lower ++ ":" ++ upper ++ step)
  | .interpolated _ parts => do
    let parts ← partsOf parts
    if plain then return "f" ++ plainText (parts.flatMap (·.1))
    else return "f" ++ joinParts parts
  | .replacement _ value conversion none => do
    let text ← sourceAt true (Rank.test + 1) value
    let inner ← fieldValue text
    return "f" ++ joinParts [(fieldText inner conversion none, false)]
  | .replacement _ value conversion (some (.interpolated _ spec)) => do
    let text ← sourceAt true (Rank.test + 1) value
    let inner ← fieldValue text
    let spec ← partsOf spec
    return "f" ++ joinParts [(fieldText inner conversion (some spec), false)]
  | .replacement _ _ _ (some _) => throw .foreignPart

def sourceOfList (plain : Bool) (rank : Rank) : List Expr → Except PrintFault (List String)
  | [] => return []
  | e :: rest => do
    let text ← sourceAt plain rank e
    return (text :: (← sourceOfList plain rank rest))

/-- The operands of one operator, each a rank higher than the one before. -/
def sourceRising (plain : Bool) (rank : Rank) : List Expr → Except PrintFault (List String)
  | [] => return []
  | e :: rest => do
    let text ← sourceAt plain (min rank Rank.atom) e
    return (text :: (← sourceRising plain (rank + 1) rest))

def sourceOfOption (plain : Bool) (rank : Rank) (lead : String) :
    Option Expr → Except PrintFault String
  | none => return ""
  | some e => do
    let text ← sourceAt plain rank e
    return (lead ++ text)

def sourceOfKeywords (plain : Bool) : List Keyword → Except PrintFault (List String)
  | [] => return []
  | .mk label value :: rest => do
    let text ← sourceAt plain Rank.test value
    let lead := match label with
      | some id => id ++ "="
      | none => "**"
    return ((lead ++ text) :: (← sourceOfKeywords plain rest))

def sourceOfComparisons (plain : Bool) : List Comparison → Except PrintFault String
  | [] => return ""
  | .mk op right :: rest => do
    let text ← sourceAt plain (Rank.comparison + 1) right
    return (" " ++ compareSign op ++ " " ++ text ++ (← sourceOfComparisons plain rest))

def sourceOfItems (plain : Bool) : List DictItem → Except PrintFault (List String)
  | [] => return []
  | .pair key value :: rest => do
    let key ← sourceAt plain Rank.test key
    let value ← sourceAt plain Rank.test value
    return ((key ++ ": " ++ value) :: (← sourceOfItems plain rest))
  | .spread value :: rest => do
    let text ← sourceAt plain Rank.bitOr value
    return (("**" ++ text) :: (← sourceOfItems plain rest))

def sourceOfClauses (plain : Bool) : List Clause → Except PrintFault String
  | [] => return ""
  | .mk isAsync target source conditions :: rest => do
    let target ← sourceAt plain Rank.tuple target
    let source ← sourceAt plain (Rank.test + 1) source
    let conditions ← sourceOfList plain (Rank.test + 1) conditions
    let rest ← sourceOfClauses plain rest
    return ((if isAsync then " async for " else " for ") ++ target ++ " in " ++ source ++
      String.join (conditions.map (" if " ++ ·)) ++ rest)

def sourceOfParameters (plain : Bool) :
    List Parameter → Except PrintFault (List (ParameterKind × String))
  | [] => return []
  | .mk kind id hint value :: rest => do
    let hint ← sourceOfOption plain Rank.test ": " hint
    let value ← sourceOfOption plain Rank.test "=" value
    return ((kind, id ++ hint ++ value) :: (← sourceOfParameters plain rest))

/-- The parts of an interpolated text, braces doubled, and whether each is text itself. -/
def partsOf : List Expr → Except PrintFault (List (CodeText × Bool))
  | [] => return []
  | .literal _ (.text value _) :: rest => do
    return (doubleBraces value, true) :: (← partsOf rest)
  | .replacement _ value conversion none :: rest => do
    let text ← sourceAt true (Rank.test + 1) value
    let inner ← fieldValue text
    return (fieldText inner conversion none, false) :: (← partsOf rest)
  | .replacement _ value conversion (some (.interpolated _ spec)) :: rest => do
    let text ← sourceAt true (Rank.test + 1) value
    let inner ← fieldValue text
    let spec ← partsOf spec
    return (fieldText inner conversion (some spec), false) :: (← partsOf rest)
  | .interpolated _ parts :: rest => do
    let inner ← partsOf parts
    return (inner.flatMap (·.1), false) :: (← partsOf rest)
  | _ :: _ => throw .foreignPart

end

def source? (e : Expr) : Except PrintFault String := e.sourceAt false Rank.test

end Expr

end HintSchema

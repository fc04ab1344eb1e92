import HintSchema.Text.NameTable
import HintSchema.Text.RangeTable

/-!
Characters by their names. Hangul syllables and unified ideographs are named by rule and in capitals
only; other names are found in any case.
-/

namespace HintSchema.Text

/-! ### Names that are listed -/

/-- The first parts of a name, each up to a space or hyphen that belongs to it. -/
def leadingParts : Nat → List Char → List Char
  | 0, _ | _, [] => []
  | count + 1, c :: rest =>
    c :: leadingParts (if c = ' ' ∨ c = '-' then count else count + 1) rest

/-- The names of a block with their code points, given the one before the first. -/
def namesFrom (n : Nat) (previous : List Char) : List (List Char) → List (List Char × Nat)
  | [] => []
  | [] :: rest => namesFrom (n + 1) previous rest
  | (shared :: own) :: rest =>
    let name := leadingParts ((hexDigit? shared).getD 0) previous ++ own
    (name, n) :: namesFrom (n + 1) name rest

/-- The items of a block of a table, behind the code point of the first; an item may stand on a new
line. -/
def itemsOf (block : String) : Nat × List (List Char) :=
  match splitChars ':' block.toList with
  | [start, items] =>
    (hexNumber start, (splitChars ';' items).map (·.dropWhile fun c => c = '\n' || c = ' '))
  | _ => (0, [])

def namesOfBlock (block : String) : List (List Char × Nat) :=
  let (start, items) := itemsOf block
  namesFrom start [] items

def otherNamesOf (block : String) : List (List Char × Nat) :=
  let (n, names) := itemsOf block
  names.map fun name => (name, n)

def listedName? (name : List Char) : Option Nat :=
  let wanted := name.map Char.toUpper
  let among (names : List (List Char × Nat)) := names.lookup wanted
  (nameBlocks.findSome? (among <| namesOfBlock ·)).orElse fun _ =>
    otherNames.findSome? (among <| otherNamesOf ·)

/-! ### Names that follow a rule -/

def hangulLeads : List String :=
  ["G", "GG", "N", "D", "DD", "R", "M", "B", "BB", "S", "SS", "", "J", "JJ", "C", "K", "T", "P",
    "H"]

def hangulVowels : List String :=
  ["A", "AE", "YA", "YAE", "EO", "E", "YEO", "YE", "O", "WA", "WAE", "OE", "YO", "U", "WEO", "WE",
   "WI", "YU", "EU", "YI", "I"]

def hangulTrails : List String :=
  ["", "G", "GG", "GS", "N", "NJ", "NH", "D", "L", "LG", "LM", "LB", "LS", "LT", "LP", "LH", "M",
   "B", "BS", "S", "SS", "NG", "J", "C", "K", "T", "P", "H"]

/-- The number of the longest of the sounds that `chars` start with, and what comes after it. -/
def longestSound? (sounds : List String) (chars : List Char) : Option (Nat × List Char) :=
  let fitting := sounds.zipIdx.filter fun (sound, _) => sound.toList.isPrefixOf chars
  let longest := fitting.foldl (fun best (sound, index) =>
    match best with
    | some (length, _) => if length < sound.length then some (sound.length, index) else best
    | none => some (sound.length, index)) none
  longest.map fun (length, index) => (index, chars.drop length)

def hangulSyllable? (chars : List Char) : Option Nat := do
  let (lead, rest) ← longestSound? hangulLeads chars
  let (vowel, rest) ← longestSound? hangulVowels rest
  let (trail, rest) ← longestSound? hangulTrails rest
  if rest.isEmpty then some (0xac00 + lead * 588 + vowel * 28 + trail) else none

def unifiedIdeographs : RangeTable :=
  .ofText "3400-4dbf 4e00-9fff 20000-2a6df 2a700-2b738 2b740-2b81d 2b820-2cea1 2ceb0-2ebe0
    30000-3134a"

def ideograph? (digits : List Char) : Option Nat :=
  let written := digits.all fun c => c.isDigit || ('A' ≤ c && c ≤ 'F')
  let n := hexNumber digits
  let counted := digits.length == 4 || digits.length == 5
  if written && counted && unifiedIdeographs.contains n then some n else none

def after? (lead : String) (name : List Char) : Option (List Char) :=
  if lead.toList.isPrefixOf name then some (name.drop lead.length) else none

def characterNamed? (name : List Char) : Option Char :=
  let found :=
    match after? "HANGUL SYLLABLE " name, after? "CJK UNIFIED IDEOGRAPH-" name with
    | some syllable, _ => hangulSyllable? syllable
    | none, some digits => ideograph? digits
    | none, none => listedName? name
  found.map Char.ofNat

end HintSchema.Text

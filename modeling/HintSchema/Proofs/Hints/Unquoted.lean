import HintSchema.Hints.Function
import HintSchema.Proofs.Hints.Unplaced

/-!
Hints in quotes. A function or a class has the same types and the same messages whether its hints
are quoted or not, except for a field whose hint is a subscript of a text.
-/

namespace HintSchema

def Expr.isNone : Expr → Bool
  | .literal _ .none => true
  | _ => false

theorem Expr.eq_of_isNone {e : Expr} (constant : e.isNone) : ∃ pos, e = .literal pos .none := by
  unfold Expr.isNone at constant
  split at constant
  · exact ⟨_, rfl⟩
  · cases constant

def CodeText.Parses (text : CodeText) (inner : Expr) : Prop :=
  ∃ chars, text.chars? = some chars ∧ '\x00' ∉ Text.strip chars ∧
    Parser.expression? (Text.strip chars) = some inner

namespace CodeText.Parses

variable {text : CodeText} {inner : Expr}

theorem quotes (parses : text.Parses inner) : text.Quotes inner := by
  obtain ⟨chars, held, _, parsed⟩ := parses
  exact ⟨chars, held, parsed⟩

theorem ofQuoted? (parses : text.Parses inner) :
    Expr.ofQuoted? text = pure (some inner) := by
  obtain ⟨chars, held, clean, parsed⟩ := parses
  unfold Expr.ofQuoted?
  rw [held]
  dsimp only
  rw [if_neg (by simpa using clean), parsed]

theorem unique {other : Expr} (parses : text.Parses inner) (again : text.Parses other) :
    inner = other := by
  have same := parses.ofQuoted?.symm.trans again.ofQuoted?
  have answer := congrArg (fun question => (runFrom question ({} : CheckState)).1) same
  exact Option.some.inj (Except.ok.inj answer)

theorem none (parses : (CodeText.ofString "None").Parses inner) :
    ∃ pos, inner = .literal pos .none := by
  obtain ⟨chars, held, _, parsed⟩ := parses
  have letters : (CodeText.ofString "None").chars? = some ['N', 'o', 'n', 'e'] := by decide
  obtain rfl := Option.some.inj (letters.symm.trans held)
  have constant : (Parser.expression? (Text.strip ['N', 'o', 'n', 'e'])).any Expr.isNone := by
    decide +kernel
  rw [parsed] at constant
  exact Expr.eq_of_isNone constant

end CodeText.Parses

theorem mapM_congr_forall₂ {ι κ β : Type} {f : ι → CheckM β} {g : κ → CheckM β} {items : List ι}
    {others : List κ} (each : List.Forall₂ (fun i j => f i = g j) items others) :
    items.mapM f = others.mapM g := by
  induction each with
  | nil => rfl
  | cons first _ ih => rw [List.mapM_cons, List.mapM_cons, first, ih]

namespace Program

variable {P : Program} {file : Path} {scope : TypeVariables} {quoted bare hint : Expr}

/-- A hint in quotes and the same hint without them, up to places. It is no text itself, and no
record is written in it. -/
inductive Unquotes (P : Program) (file : Path) : Expr → Expr → Prop
  | text {pos : Position} {text : CodeText} {marked : Bool} {inner bare : Expr}
      (parses : text.Parses inner) (noText : isText inner = false)
      (clean : P.NoInlineRecord file inner) (same : bare.unplaced = inner.unplaced) :
      Unquotes P file (.literal pos (.text text marked)) bare

theorem isText_unplaced (e : Expr) : isText e.unplaced = isText e := by
  cases e with
  | literal pos value => cases value <;> rfl
  | _ => rfl

/-! ### Handles -/

theorem resolve_text {pos : Position} {text : CodeText} {marked : Bool} {inner : Expr}
    (parses : text.Parses inner) :
    P.resolve file scope (some (.literal pos (.text text marked))) =
      P.resolve file scope (some inner) := by
  have shorter := (Expr.literal pos (.text text marked)).textsBelow_weight _ _ _
    (Expr.mem_parts_self _)
  rw [resolve, resolve, resolveAmong, resolveAmong, resolveQuoting, resolveExpr, dif_pos shorter,
    parses.ofQuoted?, pure_bind]
  exact resolveQuoting_limit parses.quotes.textsBelow inner.textsBelow_weight

theorem Unquotes.resolve (unquotes : P.Unquotes file quoted bare) :
    P.resolve file scope (some quoted) = P.resolve file scope (some bare) := by
  cases unquotes with
  | text parses _ clean same => rw [resolve_text parses, resolve_eq_of_unplaced clean same]

theorem peel_text {pos : Position} {text : CodeText} {marked : Bool} {inner : Expr}
    (parses : text.Parses inner) (required : Bool) :
    P.peel file (Expr.literal pos (.text text marked)).weight required
        (.literal pos (.text text marked)) = P.peel file text.length required inner := by
  have shorter := (Expr.literal pos (.text text marked)).textsBelow_weight _ _ _
    (Expr.mem_parts_self _)
  rw [peel, peelExpr, dif_pos shorter, parses.ofQuoted?, pure_bind]
  dsimp only
  rw [bind_map_left]
  exact bind_pure _

theorem Unquotes.fieldHandle {source : RecordSource}
    (unquotes : P.Unquotes source.file quoted bare) :
    P.fieldHandle source scope quoted = P.fieldHandle source scope bare := by
  unfold Program.fieldHandle
  split
  · cases unquotes with
    | text parses _ clean same =>
      have within := parses.quotes.textsBelow
      rw [peel_text parses]
      refine Lockstep.bind_eq ((peel_eq_of_unplaced clean same bare.textsBelow_weight within
        source.total).symm) fun one other ⟨required, resolves⟩ => ?_
      obtain ⟨inner, flag⟩ := one
      obtain ⟨inner', flag'⟩ := other
      cases required
      dsimp only
      rw [resolves scope]
  · exact unquotes.resolve

theorem isIgnoredForm_unplaced (e : Expr) :
    P.isIgnoredForm file e.unplaced = P.isIgnoredForm file e := by
  cases e with
  | name pos id => rfl
  | member pos value attr =>
    have same := find_unplaced P file (.member pos value attr)
    rw [Expr.unplaced] at same ⊢
    rw [isIgnoredForm, isIgnoredForm, same]
  | _ => rfl

theorem isIgnoredField_of_base (noText : isText hint.base = false) :
    P.isIgnoredField file hint = P.isIgnoredForm file hint.base := by
  unfold isIgnoredField
  split
  · rename_i same
    rw [same] at noText
    cases noText
  · rfl

theorem isIgnoredField_text {pos : Position} {text : CodeText} {marked : Bool} {inner : Expr}
    (parses : text.Parses inner) :
    P.isIgnoredField file (.literal pos (.text text marked)) =
      P.isIgnoredForm file inner.base := by
  unfold isIgnoredField
  change (Expr.ofQuoted? text >>= _) = _
  rw [parses.ofQuoted?, pure_bind]

theorem Unquotes.isIgnoredField (unquotes : P.Unquotes file quoted bare)
    (noText : isText bare.base = false) :
    P.isIgnoredField file quoted = P.isIgnoredField file bare := by
  rw [isIgnoredField_of_base noText]
  cases unquotes with
  | text parses _ _ same =>
    rw [isIgnoredField_text parses, ← isIgnoredForm_unplaced, ← Expr.base_unplaced, ← same,
      Expr.base_unplaced, isIgnoredForm_unplaced]

/-- Of the spellings of `None` in quotes, `"None"` alone is the return hint of a function that
returns nothing. -/
theorem Unquotes.resultHandle (unquotes : P.Unquotes file quoted bare)
    (spelled : ∀ pos text marked place, quoted = .literal pos (.text text marked) →
      bare = .literal place .none → text = .ofString "None") :
    P.resultHandle file (some quoted) = P.resultHandle file (some bare) := by
  have resolves : P.resolve file [] (some quoted) = P.resolve file [] (some bare) :=
    unquotes.resolve
  cases unquotes with
  | @text pos text marked inner _ parses noText _ same =>
    by_cases none : text = .ofString "None"
    · subst none
      obtain ⟨place, rfl⟩ := parses.none
      cases bare with
      | literal place' value =>
        cases same
        rfl
      | _ => cases same
    · have quotedHandle : P.resultHandle file (some (.literal pos (.text text marked))) =
          P.resolve file [] (some bare) := by
        rw [← resolves]
        exact if_neg none
      rw [quotedHandle]
      rw [← isText_unplaced, ← same, isText_unplaced] at noText
      cases bare with
      | literal place value =>
        cases value with
        | none => exact absurd (spelled pos text marked place rfl rfl) none
        | text => cases noText
        | _ => rfl
      | _ => rfl

/-! ### Messages -/

open Diagnostic (SayAlike)

theorem Unquotes.checkHint? (unquotes : P.Unquotes file quoted bare) :
    Lockstep SayAlike (P.checkHint? file (some quoted)) (P.checkHint? file (some bare)) := by
  cases unquotes with
  | @text pos text marked inner _ parses _ _ same =>
    have shorter := (Expr.literal pos (.text text marked)).textsBelow_weight _ _ _
      (Expr.mem_parts_self _)
    unfold Program.checkHint?
    dsimp only
    rw [checkHint_eq, checkExpr, checkText, dif_pos shorter, parses.ofQuoted?, pure_bind]
    exact (checkHint_eq_of_unplaced same bare.textsBelow_weight parses.quotes.textsBelow none
      _).symm.mono fun _ _ alike => Eq.symm alike

/-! ### Functions and classes -/

/-- The hints are equal, or the first is the second one in quotes. -/
def Requoted (P : Program) (file : Path) (one other : Expr) : Prop :=
  one = other ∨ P.Unquotes file one other

namespace Requoted

variable {one other : Option Expr}

theorem resolve (requoted : Option.Rel (P.Requoted file) one other) :
    P.resolve file scope one = P.resolve file scope other := by
  rcases requoted with ⟨rfl | unquotes⟩ | _
  · rfl
  · exact unquotes.resolve
  · rfl

theorem checkHint? (requoted : Option.Rel (P.Requoted file) one other) :
    Lockstep SayAlike (P.checkHint? file one) (P.checkHint? file other) := by
  rcases requoted with ⟨rfl | unquotes⟩ | _
  · exact (Lockstep.self _).mono fun _ _ ⟨same, _⟩ => congrArg _ same
  · exact unquotes.checkHint?
  · exact .pure rfl

end Requoted

/-- Parameters that differ in the quotes of their hints only. -/
structure RequotedParameter (P : Program) (file : Path) (p q : Parameter) : Prop where
  kind : p.kind = q.kind
  name : p.name = q.name
  hint : Option.Rel (P.Requoted file) p.hint q.hint
  default : p.default = q.default

/-- Functions that differ in the quotes of their hints only. A quoted `None` after the arrow is
spelled so. -/
structure RequotedFunction (P : Program) (file : Path) (f g : FunctionDef Statement) : Prop where
  isAsync : f.isAsync = g.isAsync
  parameters : List.Forall₂ (P.RequotedParameter file) f.parameters g.parameters
  returns : Option.Rel (P.Requoted file) f.returns g.returns
  spelled : ∀ pos text marked place, f.returns = some (.literal pos (.text text marked)) →
    g.returns = some (.literal place .none) → text = .ofString "None"

/-- Statements of a class that are equal, or declare a field with a hint that is quoted in the first
one. The hint is no subscript of a text. -/
inductive RequotedField (P : Program) (file : Path) : Statement → Statement → Prop
  | same (s : Statement) : RequotedField P file s s
  | declare {target quoted unquoted : Expr} {value : Option Expr} {bare : Bool}
      (unquotes : P.Unquotes file quoted unquoted) (noText : isText unquoted.base = false) :
      RequotedField P file (.declare target quoted value bare) (.declare target unquoted value bare)

/-- Classes that differ in the quotes of the hints of their fields only. -/
structure RequotedClass (P : Program) (file : Path) (C D : ClassDef Statement) : Prop where
  pos : C.pos = D.pos
  bases : C.bases = D.bases
  body : List.Forall₂ (P.RequotedField file) C.body D.body

theorem RequotedParameter.typedParameter {p q : Parameter}
    (requoted : P.RequotedParameter file p q) :
    P.typedParameter file p = P.typedParameter file q := by
  unfold Program.typedParameter
  rw [Requoted.resolve requoted.hint, requoted.kind, requoted.name, requoted.default]

namespace RequotedFunction

variable {f g : FunctionDef Statement}

theorem resultHandle (requoted : P.RequotedFunction file f g) :
    P.resultHandle file f.returns = P.resultHandle file g.returns := by
  obtain ⟨_, _, returns, spelled⟩ := requoted
  generalize f.returns = one at returns spelled ⊢
  generalize g.returns = other at returns spelled ⊢
  rcases returns with ⟨rfl | unquotes⟩ | _
  · rfl
  · exact unquotes.resultHandle fun pos text marked place quoted bare =>
      spelled pos text marked place (congrArg some quoted) (congrArg some bare)
  · rfl

theorem signature (requoted : P.RequotedFunction file f g) :
    P.signature ⟨file, f⟩ = P.signature ⟨file, g⟩ := by
  have parameters : f.parameters.mapM (P.typedParameter file) =
      g.parameters.mapM (P.typedParameter file) :=
    mapM_congr_forall₂ (requoted.parameters.imp fun _ _ pair => pair.typedParameter)
  unfold Program.signature
  dsimp only
  rw [parameters, requoted.resultHandle, requoted.isAsync]

theorem parametersToCheck (requoted : P.RequotedFunction file f g) :
    List.Forall₂ (P.RequotedParameter file) (parametersToCheck f) (parametersToCheck g) := by
  unfold Program.parametersToCheck
  rw [List.partition_eq_filter_filter, List.partition_eq_filter_filter]
  apply List.rel_append
  · exact List.rel_filter (fun _ _ pair => by simp [pair.kind]) requoted.parameters
  · exact List.rel_filter (fun _ _ pair => by simp [pair.kind]) requoted.parameters

theorem checkStatement (requoted : P.RequotedFunction file f g) :
    Lockstep SayAlike (P.checkStatement file (.functionDef f))
      (P.checkStatement file (.functionDef g)) := by
  have parameters : Lockstep (List.Forall₂ SayAlike)
      ((Program.parametersToCheck f).mapM fun p => P.checkHint? file p.hint)
      ((Program.parametersToCheck g).mapM fun p => P.checkHint? file p.hint) :=
    .mapM (requoted.parametersToCheck.imp fun _ _ pair => Requoted.checkHint? pair.hint)
  apply parameters.bind
  intro _ _ found
  apply (Requoted.checkHint? requoted.returns).bind
  intro _ _ last
  exact .pure (.append (.flatten found) last)

end RequotedFunction

namespace RequotedClass

variable {C D : ClassDef Statement}

theorem ownFields {source : RecordSource} {body body' : List Statement} (inherited : Properties)
    (requoted : List.Forall₂ (P.RequotedField source.file) body body') :
    P.ownFields source scope inherited body = P.ownFields source scope inherited body' := by
  unfold Program.ownFields
  induction requoted generalizing inherited with
  | nil => rfl
  | cons first _ ih =>
    rw [List.foldlM_cons, List.foldlM_cons]
    cases first with
    | same s => exact bind_congr fun properties => ih properties
    | @declare target quoted unquoted value bare unquotes noText =>
      cases target with
      | name pos id =>
        dsimp only
        rw [unquotes.isIgnoredField noText, unquotes.fieldHandle]
        exact bind_congr fun properties => ih properties
      | _ => exact bind_congr fun properties => ih properties

theorem propertiesOf {source : RecordSource} (requoted : P.RequotedClass source.file C D)
    (arguments : List Handle) :
    P.propertiesOf { source with fields := .ofClass C } arguments =
      P.propertiesOf { source with fields := .ofClass D } arguments := by
  unfold Program.propertiesOf
  rw [propertiesAmong, propertiesAmong]
  dsimp only
  rw [requoted.pos, requoted.bases]
  split
  · rw [bind_assoc, bind_assoc]
    refine bind_congr fun inherited => ?_
    have own : P.ownFields source (source.typeParameters.zip arguments) inherited.1 C.body =
        P.ownFields source (source.typeParameters.zip arguments) inherited.1 D.body :=
      ownFields inherited.1 requoted.body
    exact congrArg (fun own => (do return (← own, inherited.2)) >>=
      fun (found : Properties × List ClassKey) => pure found.1) own
  · rfl

theorem checkStatement (requoted : P.RequotedClass file C D) :
    Lockstep SayAlike (P.checkStatement file (.classDef C))
      (P.checkStatement file (.classDef D)) := by
  refine Lockstep.bind (.mapM (requoted.body.imp fun s t pair => ?_))
    fun _ _ found => .pure (.flatten found)
  cases pair with
  | same s => exact (Lockstep.self _).mono fun _ _ ⟨same, _⟩ => congrArg _ same
  | declare unquotes _ => exact unquotes.checkHint?

end RequotedClass

def messages (P : Program) (file : Path) (s : Statement) : CheckM (List String) :=
  List.map Diagnostic.message <$> P.checkStatement file s

/-- Quotes around the hints of a function or of the fields of a class change neither its types nor
the messages of its check, if no such field has a subscript of a text for its hint. -/
theorem quotes_change_nothing (P : Program) (file : Path) (f g : FunctionDef Statement)
    (C D : ClassDef Statement) (functions : P.RequotedFunction file f g)
    (classes : P.RequotedClass file C D) :
    P.signature ⟨file, f⟩ = P.signature ⟨file, g⟩ ∧
      P.messages file (.functionDef f) = P.messages file (.functionDef g) ∧
      (∀ (source : RecordSource) arguments, source.file = file →
        P.propertiesOf { source with fields := .ofClass C } arguments =
          P.propertiesOf { source with fields := .ofClass D } arguments) ∧
      P.messages file (.classDef C) = P.messages file (.classDef D) := by
  refine ⟨functions.signature, functions.checkStatement.map_eq, ?_, classes.checkStatement.map_eq⟩
  rintro source arguments rfl
  exact classes.propertiesOf arguments

/-! ### Fixed hints -/

def quotedHint (text : String) : Expr := .literal default (.text (.ofString text) false)

def hintIn (text : String) : Expr := (Parser.expression? (Text.strip text.toList)).getD default

/-- Whether the text holds a hint that is no text and has no record written in it. -/
def isQuotable (text : String) : Bool :=
  match Parser.expression? (Text.strip text.toList) with
  | some inner => !(Text.strip text.toList).contains '\x00' && !isText inner &&
      inner.parts.all fun part => isText part || isPlainPart part
  | none => false

theorem unquotes_of_test {text : String} (passed : isQuotable text) :
    P.Unquotes file (quotedHint text) (hintIn text) := by
  unfold isQuotable at passed
  split at passed
  · rename_i inner parsed
    simp only [Bool.and_eq_true, Bool.not_eq_true', List.all_eq_true] at passed
    obtain ⟨⟨clean, noText⟩, plain⟩ := passed
    have parses : (CodeText.ofString text).Parses inner :=
      ⟨text.toList, CodeText.chars?_ofChars _, by simpa using clean, parsed⟩
    refine .text parses noText ?_ (by rw [hintIn, parsed, Option.getD_some])
    rintro dict ⟨pos, value, index, place, items, rest, member, indices, rfl, _⟩
    have tested := plain _ member
    simp [isText, isPlainPart, indices] at tested
  · cases passed

def qualifiers : Program := .ofLines ⟨.root, ["app", "functions.py"]⟩ [
  "from typing import ClassVar, NotRequired, TypedDict",
  "class Box(TypedDict):",
  "    size: NotRequired[int]"]

def boxWith (hint : Expr) : ClassDef Statement :=
  ⟨⟨2, 0⟩, "Box", [], [], [], [.declare (.name default "size") hint none true]⟩

def boxSource (kind : RecordKind) : RecordSource where
  kind := kind
  file := qualifiers.entry
  fields := .ofClass (boxWith default)

def boxFields (kind : RecordKind) (hint : Expr) : Except Fault (List (String × Identity)) :=
  (runFrom (List.map (fun m => (m.1, m.2.identity)) <$>
    qualifiers.propertiesOf { boxSource kind with fields := .ofClass (boxWith hint) } [])
    (.start qualifiers)).1

def takesBox (parameter result : Expr) : FunctionDef Statement :=
  ⟨false, "f", [.mk .positionalOrKeyword "box" (some parameter) none], some result, [], []⟩

theorem requotedFunction_takesBox {parameter result bare bare' : Expr}
    (first : P.Unquotes file parameter bare) (second : P.Unquotes file result bare')
    (spelled : ∀ pos text marked, result = .literal pos (.text text marked) →
      text = .ofString "None") :
    P.RequotedFunction file (takesBox parameter result) (takesBox bare bare') where
  isAsync := rfl
  parameters := .cons ⟨rfl, rfl, .some (.inr first), rfl⟩ .nil
  returns := .some (.inr second)
  spelled := fun pos text marked _ quoted _ => spelled pos text marked (Option.some.inj quoted)

theorem requotedClass_boxWith (unquotes : P.Unquotes file quoted bare)
    (noText : isText bare.base = false) : P.RequotedClass file (boxWith quoted) (boxWith bare) :=
  ⟨rfl, rfl, .cons (.declare unquotes noText) .nil⟩

theorem quotes_change_nothing_qualifiers :
    qualifiers.RequotedFunction qualifiers.entry (takesBox (quotedHint "Box") (quotedHint "None"))
        (takesBox (hintIn "Box") (hintIn "None")) ∧
      qualifiers.RequotedClass qualifiers.entry (boxWith (quotedHint "NotRequired[int]"))
        (boxWith (hintIn "NotRequired[int]")) ∧
      qualifiers.signature ⟨qualifiers.entry, takesBox (quotedHint "Box") (quotedHint "None")⟩ =
        qualifiers.signature ⟨qualifiers.entry, takesBox (hintIn "Box") (hintIn "None")⟩ ∧
      boxFields .typedDict (quotedHint "NotRequired[int]") =
        boxFields .typedDict (hintIn "NotRequired[int]") ∧
      boxFields .typedDict (hintIn "NotRequired[int]") =
        .ok [("size", .union [.intrinsic .int, .intrinsic .missing])] := by
  have functions : qualifiers.RequotedFunction qualifiers.entry
      (takesBox (quotedHint "Box") (quotedHint "None"))
      (takesBox (hintIn "Box") (hintIn "None")) :=
    requotedFunction_takesBox (unquotes_of_test (by decide +kernel))
      (unquotes_of_test (by decide +kernel)) fun _ _ _ quoted => by cases quoted; rfl
  have classes : qualifiers.RequotedClass qualifiers.entry
      (boxWith (quotedHint "NotRequired[int]")) (boxWith (hintIn "NotRequired[int]")) :=
    requotedClass_boxWith (unquotes_of_test (by decide +kernel)) (by decide +kernel)
  obtain ⟨signatures, _, properties, _⟩ := quotes_change_nothing qualifiers _ _ _ _ _ functions
    classes
  refine ⟨functions, classes, signatures, ?_, by decide +kernel⟩
  unfold boxFields
  rw [properties (boxSource .typedDict) [] rfl]

/-- A qualifier in quotes counts where it stands in a hint, and does not where the hint itself is
quoted. -/
theorem quotes_keep_classVar :
    qualifiers.Unquotes qualifiers.entry (quotedHint "'ClassVar'[int]")
        (hintIn "'ClassVar'[int]") ∧
      boxFields .dataclass (quotedHint "'ClassVar'[int]") =
        .ok [("size", .unsupported "'ClassVar'[int]")] ∧
      boxFields .dataclass (hintIn "'ClassVar'[int]") = .ok [] :=
  ⟨unquotes_of_test (by decide +kernel), by decide +kernel, by decide +kernel⟩

end Program

end HintSchema

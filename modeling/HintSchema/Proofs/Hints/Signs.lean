import HintSchema.Proofs.Hints.Memory
import HintSchema.Proofs.Hints.Shown

/-!
The kind of a class's record. A special form among the bases or a decorator is a sign of it that the
class itself shows; a class without one is a typed dictionary if some base is. Classes that are
being looked at count as no records meanwhile, which hides no more than that some base is a typed
dictionary (`trusty_recordAmong`).
-/

namespace HintSchema

def SpecialForm.kind? (qualname : String) : Option RecordKind :=
  match qualname with
  | "typing.TypedDict" => some .typedDict
  | "typing.NamedTuple" => some .namedTuple
  | _ => none

theorem RecordForm.afterSpecial_eq (form : RecordForm) (qualname : String) :
    form.afterSpecial qualname =
      { form with kind := (SpecialForm.kind? qualname).or form.kind } := by
  unfold afterSpecial
  split
  · rfl
  · rfl
  · have other : SpecialForm.kind? qualname = none := by
      unfold SpecialForm.kind?
      split <;> first | contradiction | rfl
    rw [other]
    rfl

namespace Program

def afterMark (P : Program) (file : Path) (kind : Option RecordKind) (decorator : Expr) :
    Option RecordKind :=
  match (P.lookupExpr file decorator.callee).1 with
  | .ok (.special "dataclasses.dataclass") => some .dataclass
  | _ => kind

def afterSign (P : Program) (file : Path) (kind : Option RecordKind) (base : Expr) :
    Option RecordKind :=
  match (P.lookupExpr file base.base).1 with
  | .ok (.special qualname) => (SpecialForm.kind? qualname).or kind
  | _ => kind

/-- The kind that the decorators of the class and these of its bases name. The last base that names
one decides. -/
def signOver (P : Program) (x : Declared) (bases : List Expr) : Option RecordKind :=
  bases.foldl (P.afterSign x.1) (x.2.decorators.foldl (P.afterMark x.1) none)

/-- The kind that the class itself names. -/
def sign (P : Program) (x : Declared) : Option RecordKind := P.signOver x x.2.bases

/-- The second class is a base of the first one, before which no kind is named: what it is may
decide. -/
def Consults (P : Program) (x y : Declared) : Prop :=
  ∃ before base after, x.2.bases = before ++ base :: after ∧ P.signOver x before = none ∧
    (P.lookupExpr x.1 base.base).1 = .ok (.classDef y.1 y.2)

/-- The class names typed dictionaries as its kind, or no kind and comes from such a class. -/
inductive Typed (P : Program) : Declared → Prop
  | own {x : Declared} (signed : P.sign x = some .typedDict) : Typed P x
  | inherited {x y : Declared} (unsigned : P.sign x = none) (inherits : P.Inherits x y)
      (above : Typed P y) : Typed P x

/-- As `Typed`, by way of bases that do not lead back. -/
inductive Sure (P : Program) : Declared → Prop
  | own {x : Declared} (signed : P.sign x = some .typedDict) : Sure P x
  | inherited {x y : Declared} (unsigned : P.sign x = none) (inherits : P.Inherits x y)
      (apart : ¬ Relation.TransGen P.Consults y x) (above : Sure P y) : Sure P x

/-- What a checker may say of the class: by the kind it names, or else that it is a typed
dictionary, if it comes from one, or no record, if that is not sure. -/
structure Credible (P : Program) (x : Declared) (record : Option RecordSource) : Prop where
  signed : ∀ kind, P.sign x = some kind → record = some (P.recordOfClass kind x)
  unsigned : P.sign x = none →
    record = none ∨ record = some (P.recordOfClass .typedDict x) ∧ P.Typed x
  sure : P.Sure x → record ≠ none

variable {P : Program} {x y : Declared} {looking : List ClassKey} {c d : CheckState}
  {before bases : List Expr}

theorem Consults.inherits (consults : P.Consults x y) : P.Inherits x y := by
  obtain ⟨before, base, after, whole, _, looked⟩ := consults
  exact ⟨base, by simp [whole], looked⟩

theorem signOver_append_singleton (x : Declared) (before : List Expr) (base : Expr) :
    P.signOver x (before ++ [base]) = P.afterSign x.1 (P.signOver x before) base := by
  rw [signOver, List.foldl_concat]
  rfl

theorem signOver_eq_none_of_append {after : List Expr}
    (unsigned : P.signOver x (before ++ after) = none) : P.signOver x before = none := by
  induction after using List.reverseRecOn with
  | nil => rwa [List.append_nil] at unsigned
  | append_singleton early last ih =>
    rw [← List.append_assoc, signOver_append_singleton, afterSign] at unsigned
    split at unsigned
    · exact ih (Option.or_eq_none_iff.mp unsigned).2
    · exact ih unsigned

theorem Inherits.consults (inherits : P.Inherits x y) (unsigned : P.sign x = none) :
    P.Consults x y := by
  obtain ⟨base, member, looked⟩ := inherits
  obtain ⟨before, after, whole⟩ := List.append_of_mem member
  rw [sign, whole] at unsigned
  exact ⟨before, base, after, whole, signOver_eq_none_of_append unsigned, looked⟩

theorem Sure.typed (sure : P.Sure x) : P.Typed x := by
  induction sure with
  | own signed => exact .own signed
  | inherited unsigned inherits _ _ ih => exact .inherited unsigned inherits ih

namespace Credible

variable {record other : Option RecordSource} {source : RecordSource}

theorem typed (credible : P.Credible x (some source)) (kind : source.kind = .typedDict) :
    P.Typed x := by
  cases signed : P.sign x with
  | some other =>
    cases credible.signed other signed
    rw [recordOfClass] at kind
    exact .own (kind ▸ signed)
  | none =>
    rcases credible.unsigned signed with impossible | ⟨_, typed⟩
    · cases impossible
    · exact typed

theorem of_sure (credible : P.Credible x record) (sure : P.Sure x) :
    record = some (P.recordOfClass .typedDict x) := by
  cases sure with
  | own signed => exact credible.signed _ signed
  | inherited unsigned inherits apart above =>
    rcases credible.unsigned unsigned with hidden | ⟨same, _⟩
    · exact absurd hidden (credible.sure (.inherited unsigned inherits apart above))
    · exact same

/-- Two that may be said of a class are the same, unless the class is a typed dictionary, but not
surely. -/
theorem unique (credible : P.Credible x record) (again : P.Credible x other)
    (decided : P.sign x ≠ none ∨ ¬ P.Typed x ∨ P.Sure x) : record = other := by
  cases signed : P.sign x with
  | some kind => rw [credible.signed kind signed, again.signed kind signed]
  | none =>
    rcases decided with named | untyped | sure
    · exact absurd signed named
    · rcases credible.unsigned signed with rfl | ⟨_, typed⟩
      · rcases again.unsigned signed with rfl | ⟨_, typed⟩
        · rfl
        · exact absurd typed untyped
      · exact absurd typed untyped
    · rw [credible.of_sure sure, again.of_sure sure]

end Credible

/-- Classes that are being looked at count as no records, and of the others only what is credible is
remembered. -/
structure Trusty (P : Program) (looking : List ClassKey) (c : CheckState) : Prop where
  provisional : ∀ key ∈ looking, c.records.lookup key = some none
  credible : ∀ y, P.Binds y → y.key ∉ looking → ∀ record,
    c.records.lookup y.key = some record → P.Credible y record

theorem trusty_of_blank (blank : c.records = []) : P.Trusty [] c where
  provisional _ impossible := absurd impossible List.not_mem_nil
  credible _ _ _ record known := by
    rw [blank] at known
    cases known

theorem Trusty.of_records_eq (trusty : P.Trusty looking c) (same : d.records = c.records) :
    P.Trusty looking d :=
  ⟨same ▸ trusty.provisional, same ▸ trusty.credible⟩

theorem Trusty.look (trusty : P.Trusty looking c) (key : ClassKey) :
    P.Trusty (key :: looking) (c.remember key none) where
  provisional other member := by
    rw [CheckState.lookup_remember]
    split
    · rfl
    · rename_i apart
      exact trusty.provisional other ((List.mem_cons.mp member).resolve_left apart)
  credible y bound closed record known := by
    obtain ⟨apart, closed⟩ := not_or.mp (List.mem_cons.not.mp closed)
    rw [CheckState.lookup_remember, if_neg apart] at known
    exact trusty.credible y bound closed record known

theorem Trusty.finish (placed : P.Placed) (bound : P.Binds x) (fresh : x.key ∉ looking)
    (trusty : P.Trusty (x.key :: looking) c) {record : Option RecordSource}
    (credible : P.Credible x record) : P.Trusty looking (c.remember x.key record) where
  provisional key member := by
    have apart : key ≠ x.key := fun same => fresh (same ▸ member)
    rw [CheckState.lookup_remember, if_neg apart]
    exact trusty.provisional key (List.mem_cons_of_mem _ member)
  credible y other closed found known := by
    rw [CheckState.lookup_remember] at known
    split at known
    · rename_i same
      cases known
      rwa [other.eq_of_key placed bound same]
    · rename_i apart
      exact trusty.credible y other (by simp [apart, closed]) found known

end Program

namespace RecordForm

/-- What is known of the class after these of its bases: what the record will be if no more bases
follow. -/
structure Tells (P : Program) (x : Declared) (before : List Expr) (form : RecordForm) : Prop where
  typeParameters : form.typeParameters = before.foldl (P.afterParameters x.1) []
  signed : ∀ kind, P.signOver x before = some kind → form.kind = some kind
  unsigned : P.signOver x before = none →
    form.kind = none ∨ form.kind = some .typedDict ∧ ∃ y, P.Inherits x y ∧ P.Typed y
  sure : ∀ base ∈ before, ∀ y : Declared,
    (P.lookupExpr x.1 base.base).1 = .ok (.classDef y.1 y.2) →
      P.Sure y → ¬ Relation.TransGen P.Consults y x → form.kind ≠ none

namespace Tells

variable {P : Program} {x : Declared} {before : List Expr} {base : Expr} {form result : RecordForm}

theorem finish (tells : form.Tells P x x.2.bases) :
    P.Credible x (form.finish x.1 x.2) := by
  have record (kind : RecordKind) (same : form.kind = some kind) :
      form.finish x.1 x.2 = some (P.recordOfClass kind x) := by
    rw [RecordForm.finish, same, Option.map_some, Program.recordOfClass, Program.parametersOf,
      ← tells.typeParameters]
  refine ⟨fun kind signed => record kind (tells.signed kind signed), fun unsigned => ?_, ?_⟩
  · rcases tells.unsigned unsigned with none | ⟨typed, y, inherits, above⟩
    · exact .inl (by rw [RecordForm.finish, none, Option.map_none])
    · exact .inr ⟨record _ typed, .inherited unsigned inherits above⟩
  · intro sure hidden
    cases sure with
    | own signed =>
      rw [record _ (tells.signed _ signed)] at hidden
      cases hidden
    | inherited unsigned inherits apart above =>
      obtain ⟨base, member, looked⟩ := inherits
      exact tells.sure base member _ looked above apart (Option.map_eq_none_iff.mp hidden)

theorem typeParameters_append (tells : form.Tells P x before) (base : Expr) :
    P.afterParameters x.1 form.typeParameters base =
      (before ++ [base]).foldl (P.afterParameters x.1) [] := by
  rw [List.foldl_concat, tells.typeParameters]

theorem special (tells : form.Tells P x before) {qualname : String}
    (looked : (P.lookupExpr x.1 base.base).1 = .ok (.special qualname)) :
    Tells P x (before ++ [base]) ⟨(SpecialForm.kind? qualname).or form.kind,
      P.afterParameters x.1 form.typeParameters base⟩ := by
  have signs : P.signOver x (before ++ [base]) =
      (SpecialForm.kind? qualname).or (P.signOver x before) := by
    rw [Program.signOver_append_singleton, Program.afterSign, looked]
  refine ⟨tells.typeParameters_append base, fun kind signed => ?_, fun unsigned => ?_, ?_⟩
  · rw [signs] at signed
    cases named : SpecialForm.kind? qualname with
    | some other => rwa [named] at signed
    | none =>
      rw [named] at signed
      exact tells.signed kind signed
  · obtain ⟨unnamed, unsigned⟩ := Option.or_eq_none_iff.mp (signs.symm.trans unsigned)
    rw [unnamed]
    exact tells.unsigned unsigned
  · intro other member y names sure apart hidden
    rcases List.mem_append.mp member with early | last
    · exact tells.sure other early y names sure apart (Option.or_eq_none_iff.mp hidden).2
    · rw [List.mem_singleton.mp last] at names
      cases looked.symm.trans names

theorem same (tells : form.Tells P x before)
    (plain : ∀ qualname, (P.lookupExpr x.1 base.base).1 ≠ .ok (.special qualname))
    (decided : form.kind ≠ none ∨
      ∀ y : Declared, (P.lookupExpr x.1 base.base).1 ≠ .ok (.classDef y.1 y.2)) :
    Tells P x (before ++ [base])
      ⟨form.kind, P.afterParameters x.1 form.typeParameters base⟩ := by
  have signs : P.signOver x (before ++ [base]) = P.signOver x before := by
    rw [Program.signOver_append_singleton, Program.afterSign]
    split
    · rename_i qualname looked
      exact absurd looked (plain qualname)
    · rfl
  refine ⟨tells.typeParameters_append base, ?_, ?_, fun other member y names sure apart => ?_⟩
  · rw [signs]
    exact tells.signed
  · rw [signs]
    exact tells.unsigned
  · rcases List.mem_append.mp member with early | last
    · exact tells.sure other early y names sure apart
    · rw [List.mem_singleton.mp last] at names
      exact decided.resolve_right fun none => none y names

theorem ofBase (tells : form.Tells P x before) (unknown : form.kind = none) {y : Declared}
    (looked : (P.lookupExpr x.1 base.base).1 = .ok (.classDef y.1 y.2))
    (inherits : P.Inherits x y) {kind : Option RecordKind}
    (above : kind = none ∨ kind = some .typedDict ∧ P.Typed y)
    (sure : P.Sure y → ¬ Relation.TransGen P.Consults y x → kind ≠ none) :
    Tells P x (before ++ [base]) ⟨kind, P.afterParameters x.1 form.typeParameters base⟩ := by
  have unsigned : P.signOver x before = none := by
    refine Option.eq_none_iff_forall_ne_some.mpr fun kind signed => ?_
    cases unknown.symm.trans (tells.signed kind signed)
  have signs : P.signOver x (before ++ [base]) = none := by
    rw [Program.signOver_append_singleton, Program.afterSign, looked]
    exact unsigned
  refine ⟨tells.typeParameters_append base, fun kind signed => ?_, fun _ => ?_, ?_⟩
  · cases signs.symm.trans signed
  · exact above.imp_right fun typed => ⟨typed.1, y, inherits, typed.2⟩
  · intro other member z names surely apart
    rcases List.mem_append.mp member with early | last
    · exact absurd unknown (tells.sure other early z names surely apart)
    · rw [List.mem_singleton.mp last] at names
      obtain ⟨home, definition⟩ := Binding.classDef.inj (Except.ok.inj (looked.symm.trans names))
      obtain rfl : y = z := Prod.ext home definition
      exact sure surely apart

end Tells

end RecordForm

namespace Program

variable {P : Program} {x y : Declared} {W : Realm P} {before : List Expr} {base : Expr}
  {form : RecordForm} {looking : List ClassKey} {c d : CheckState}

/-- Whatever is looked up to tell what the class is can be looked up. -/
def Legible (P : Program) (x : Declared) : Prop :=
  ∀ y, Relation.ReflTransGen P.Consults x y →
    (∀ decorator ∈ y.2.decorators, (P.lookupExpr y.1 decorator.callee).1.isOk) ∧
      ∀ base ∈ y.2.bases, (P.lookupExpr y.1 base.base).1.isOk

theorem Legible.of_consults (legible : P.Legible x) (consults : P.Consults x y) : P.Legible y :=
  fun z further => legible z (.head consults further)

/-- What a class counts as while another one is looked at that asks for it: as a typed dictionary
only if it is one, and surely so unless it leads back. -/
structure Counts (P : Program) (x y : Declared) (record : Option RecordSource) : Prop where
  typed : ∀ source, record = some source → source.kind = .typedDict → P.Typed y
  sure : P.Sure y → ¬ Relation.TransGen P.Consults y x →
    ∃ source, record = some source ∧ source.kind = .typedDict

theorem Counts.of_credible {record : Option RecordSource}
    (leads : y.key ∈ looking → Relation.TransGen P.Consults y x)
    (provisional : y.key ∈ looking → record = none)
    (settled : y.key ∉ looking → P.Credible y record) : P.Counts x y record where
  typed source same typed := by
    subst same
    exact (settled fun open' => nomatch provisional open').typed typed
  sure sure apart := ⟨_, (settled (apart ∘ leads)).of_sure sure, rfl⟩

theorem asks_afterParameters (searched : W.Searched)
    (names : ∀ name place, W.reads x.1 (.name place name)) :
    W.Asks (form.afterParameters P x.1 base) fun result =>
      result = ⟨form.kind, P.afterParameters x.1 form.typeParameters base⟩ := by
  cases base with
  | subscript place value index =>
    refine (searched.typeVariables fun name _ place => names name place).bind ?_
    rintro _ rfl
    exact .pure rfl
  | _ => exact .pure rfl

theorem asks_afterBase (searched : W.Searched) (read : W.reads x.1 base.base)
    (names : ∀ name place, W.reads x.1 (.name place name))
    {recur : Path → ClassDef Statement → CheckM (Option RecordSource)} {after : List Expr}
    (whole : x.2.bases = before ++ base :: after) (tells : form.Tells P x before)
    (below : ∀ y, P.Consults x y → W.Asks (recur y.1 y.2) (P.Counts x y)) :
    W.Asks (form.afterBase P recur x.1 base) (RecordForm.Tells P x (before ++ [base])) := by
  unfold RecordForm.afterBase
  refine (searched.find read).bind fun found looked => ?_
  refine (asks_afterParameters searched names).bind ?_
  rintro _ rfl
  split
  · rename_i qualname
    rw [RecordForm.afterSpecial_eq]
    exact .pure (tells.special looked)
  · rename_i home definition
    have plain (qualname : String) :
        (P.lookupExpr x.1 base.base).1 ≠ .ok (.special qualname) := by
      rw [looked]
      nofun
    dsimp only
    split
    · rename_i decided
      exact .pure (tells.same plain (.inl (Option.isSome_iff_ne_none.mp decided)))
    · rename_i undecided
      have unknown := Option.not_isSome_iff_eq_none.mp undecided
      have unsigned : P.signOver x before = none := by
        refine Option.eq_none_iff_forall_ne_some.mpr fun kind signed => ?_
        cases unknown.symm.trans (tells.signed kind signed)
      have consults : P.Consults x (home, definition) :=
        ⟨before, base, after, whole, unsigned, looked⟩
      refine (below (home, definition) consults).bind fun record said => ?_
      have inherits := consults.inherits
      have untyped (other : ∀ source, record = some source → source.kind ≠ .typedDict) :
          RecordForm.Tells P x (before ++ [base])
            ⟨form.kind, P.afterParameters x.1 form.typeParameters base⟩ := by
        refine tells.ofBase unknown looked inherits (.inl unknown) fun sure apart => ?_
        obtain ⟨source, same, typed⟩ := said.sure sure apart
        exact absurd typed (other source same)
      split
      · rename_i source
        split
        · rename_i typed
          refine .pure (tells.ofBase unknown looked inherits (.inr ⟨rfl, ?_⟩) fun _ _ => nofun)
          exact said.typed source rfl typed
        · rename_i other
          refine .pure (untyped ?_)
          rintro _ ⟨⟩
          exact other
      · exact .pure (untyped nofun)
  · rename_i noSpecial noClass
    refine .pure (tells.same (fun qualname named => ?_) (.inr fun y named => ?_))
    · exact noSpecial qualname (Except.ok.inj (looked.symm.trans named))
    · exact noClass y.1 y.2 (Except.ok.inj (looked.symm.trans named))

theorem asks_afterBases (searched : W.Searched) (read : ∀ base ∈ x.2.bases, W.reads x.1 base.base)
    (names : ∀ name place, W.reads x.1 (.name place name))
    {recur : Path → ClassDef Statement → CheckM (Option RecordSource)} {rest : List Expr}
    (whole : x.2.bases = before ++ rest) (tells : form.Tells P x before)
    (below : ∀ y, P.Consults x y → W.Asks (recur y.1 y.2) (P.Counts x y)) :
    W.Asks (rest.foldlM (RecordForm.afterBase P recur x.1) form)
      (RecordForm.Tells P x x.2.bases) := by
  induction rest generalizing before form with
  | nil =>
    rw [List.append_nil] at whole
    exact .pure (whole ▸ tells)
  | cons base rest ih =>
    have member : base ∈ x.2.bases := by simp [whole]
    rw [List.foldlM_cons]
    refine (asks_afterBase searched (read base member) names whole tells below).bind ?_
    intro form tells
    refine ih ?_ tells
    rw [whole, List.append_assoc]
    rfl

theorem asks_afterDecorators (searched : W.Searched)
    (read : ∀ decorator ∈ x.2.decorators, W.reads x.1 decorator.callee) :
    W.Asks (x.2.decorators.foldlM (RecordForm.afterDecorator P x.1) {})
      (RecordForm.Tells P x []) := by
  have along : W.Asks (x.2.decorators.foldlM (RecordForm.afterDecorator P x.1) {}) fun form =>
      form = ⟨P.signOver x [], []⟩ := by
    refine Careful.foldlM_along (P.afterMark x.1) (g := none)
      (R := fun (kind : Option RecordKind) (form : RecordForm) => form = ⟨kind, []⟩) rfl ?_
    rintro decorator member kind _ rfl
    unfold RecordForm.afterDecorator afterMark
    refine (searched.find (read decorator member)).bind fun found looked => ?_
    rw [looked]
    split
    · exact .pure rfl
    · rename_i other
      refine .pure ?_
      split
      · rename_i same
        exact absurd (Except.ok.inj same) other
      · rfl
  refine along.mono ?_
  rintro _ rfl
  refine ⟨rfl, fun _ => id, .inl, ?_⟩
  exact List.forall_mem_nil _

theorem raises_recordAmong_of_unknown {pending : List ClassKey} {fault : Fault}
    (unknown : c.records.lookup x.key = none) (listed : x.key ∈ pending)
    (raised : Raises (P.readForm (P.recordAmong (Pending.without pending x.key)) x)
      (c.remember x.key none) fault d) :
    Raises (P.recordAmong pending x.1 x.2) c fault d := by
  have key : (⟨x.1, x.2.pos⟩ : ClassKey) = x.key := rfl
  rw [recordAmong, raises_bind_iff]
  refine .inr ⟨c, c, (returns_get_iff ..).mpr ⟨rfl, rfl⟩, ?_⟩
  simp only [key, unknown, dif_pos listed, raises_bind_iff, returns_modify_iff]
  refine .inr ⟨(), _, rfl, ?_⟩
  rcases (raises_bind_iff ..).mp raised with decorated | ⟨form, m, decorated, based⟩
  · exact .inl decorated
  · exact .inr ⟨form, m, decorated, .inl based⟩

/-- A class is told by its signs and its bases, whichever classes are being looked at, so long as
all of those lead to it. -/
theorem trusty_recordAmong (placed : P.Placed) (pending : List ClassKey) (bound : P.Binds x)
    (listed : ∀ y, P.Binds y → y.key ∉ looking → y.key ∈ pending)
    (leads : ∀ y, P.Binds y → y.key ∈ looking → Relation.TransGen P.Consults y x) :
    Careful (P.Trusty looking) (fun _ => ¬ P.Legible x) (P.recordAmong pending x.1 x.2)
      fun record =>
        (x.key ∈ looking → record = none) ∧ (x.key ∉ looking → P.Credible x record) := by
  generalize length : pending.length = limit
  induction limit using Nat.strongRecOn generalizing pending looking x with
  | ind limit ih =>
    subst length
    intro c trusty
    cases known : c.records.lookup x.key with
    | some record =>
      refine .inl ⟨record, c, returns_recordAmong_iff.mpr (.inl ⟨known, rfl⟩), ⟨fun open' => ?_,
        fun closed => trusty.credible x bound closed record known⟩, trusty⟩
      exact Option.some.inj (known.symm.trans (trusty.provisional _ open'))
    | none =>
      have fresh : x.key ∉ looking := fun open' => by
        cases known.symm.trans (trusty.provisional _ open')
      have own := listed x bound fresh
      let W : Realm P := {
        state := P.Trusty (x.key :: looking)
        reads := fun file e => ¬ (P.lookupExpr file e).1.isOk → ¬ P.Legible x
        record := fun _ _ => True
        target := fun _ => True
        fault := fun _ => ¬ P.Legible x }
      have searched : W.Searched := {
        opening := fun _ trusty => trusty.of_records_eq rfl
        unresolved := fun read failed => read (by simp [failed, Except.isOk, Except.toBool]) }
      -- All classes that are being looked at lead to what this one asks for, itself among them.
      have leads' (y : Declared) (consults : P.Consults x y) (z : Declared) (other : P.Binds z)
          (member : z.key ∈ x.key :: looking) : Relation.TransGen P.Consults z y := by
        rcases List.mem_cons.mp member with same | open'
        · rw [other.eq_of_key placed bound same]
          exact .single consults
        · exact (leads z other open').tail consults
      have listed' (y : Declared) (other : P.Binds y) (closed : y.key ∉ x.key :: looking) :
          y.key ∈ Pending.without pending x.key := by
        obtain ⟨apart, closed⟩ := not_or.mp (List.mem_cons.not.mp closed)
        exact List.mem_filter.mpr ⟨listed y other closed, by simpa using apart⟩
      have below (y : Declared) (consults : P.Consults x y) :
          W.Asks (P.recordAmong (Pending.without pending x.key) y.1 y.2) (P.Counts x y) := by
        have bound' := consults.inherits.binds
        have asked := ih _ (Pending.length_without_lt own) (Pending.without pending x.key) bound'
          listed' (leads' y consults) rfl
        refine (asked.weaken fun _ illegible legible =>
          illegible (legible.of_consults consults)).mono fun record told => ?_
        obtain ⟨provisional, settled⟩ := told
        refine .of_credible (fun open' => ?_) provisional settled
        rcases List.mem_cons.mp open' with same | open'
        · obtain rfl := bound'.eq_of_key placed bound same
          exact .single consults
        · exact leads y bound' open'
      have form : W.Asks (P.readForm (P.recordAmong (Pending.without pending x.key)) x)
          (RecordForm.Tells P x x.2.bases) := by
        have decorators : ∀ decorator ∈ x.2.decorators, W.reads x.1 decorator.callee :=
          fun decorator member failed legible => failed ((legible x .refl).1 decorator member)
        have bases : ∀ base ∈ x.2.bases, W.reads x.1 base.base :=
          fun base member failed legible => failed ((legible x .refl).2 base member)
        have names (name : String) (place : Position) : W.reads x.1 (.name place name) :=
          fun failed => absurd rfl failed
        refine Careful.bind (asks_afterDecorators searched decorators) fun form tells => ?_
        exact asks_afterBases searched bases names rfl tells below
      rcases form _ (trusty.look x.key) with
        ⟨form, e, read, tells, kept⟩ | ⟨fault, e, raised, illegible⟩
      · refine .inl ⟨_, _, (returns_recordAmong_of_unknown known own).mpr
          ⟨form, e, read, rfl, rfl⟩, ?_, kept.finish placed bound fresh tells.finish⟩
        exact ⟨fun open' => absurd open' fresh, fun _ => tells.finish⟩
      · exact .inr ⟨fault, e, raises_recordAmong_of_unknown known own raised, illegible⟩

end Program

end HintSchema

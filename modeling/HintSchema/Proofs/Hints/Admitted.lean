import HintSchema.Proofs.Hints.Admission
import HintSchema.Proofs.Hints.Present
import HintSchema.Proofs.Hints.Qualifiers

/-!
Handles that admit `None`. A handle that a hint comes to does exactly if the hint does
(`settlesNone_resolve`), and expanding it changes nothing (`settlesNone_apparent`).
-/

namespace HintSchema

namespace Identity

mutual

/-- Handles of the identity admit `None`: a deferred alias does if its value does. -/
def AdmitsNone (P : Program) : Identity → Prop
  | .intrinsic kind => kind = .none
  | .union members => SomeAdmitsNone P members
  | .alias key arguments => ∃ value, P.Grounds (.alias key value) ∧
      P.AdmitsNone P.aliasParameters key.file
        ((P.aliasParameters ⟨key, value⟩).zip (admitted P arguments)) value
  | _ => False

def SomeAdmitsNone (P : Program) : List Identity → Prop
  | [] => False
  | first :: rest => AdmitsNone P first ∨ SomeAdmitsNone P rest

def admitted (P : Program) : List Identity → List Prop
  | [] => []
  | first :: rest => AdmitsNone P first :: admitted P rest

end

variable {P : Program}

theorem someAdmitsNone_iff (identities : List Identity) :
    SomeAdmitsNone P identities ↔ ∃ i ∈ identities, i.AdmitsNone P := by
  induction identities with
  | nil => simp [SomeAdmitsNone]
  | cons first rest ih => simp [SomeAdmitsNone, ih]

theorem admitted_eq_map (identities : List Identity) :
    admitted P identities = identities.map (AdmitsNone P) := by
  induction identities with
  | nil => rfl
  | cons first rest ih => simp [admitted, ih]

end Identity

namespace Handle

/-- `None` is among the values of the handle. -/
def AdmitsNone (P : Program) (h : Handle) : Prop := h.identity.AdmitsNone P

variable {P : Program} {members : List Handle}

@[simp] theorem admitsNone_intrinsic (kind : Intrinsic) :
    (Handle.intrinsic kind).AdmitsNone P ↔ kind = .none :=
  .rfl

@[simp] theorem admitsNone_union :
    (Handle.union members).AdmitsNone P ↔ ∃ h ∈ members, h.AdmitsNone P := by
  change Identity.SomeAdmitsNone P (identities members) ↔ _
  rw [Identity.someAdmitsNone_iff, identities_eq_map]
  simp [AdmitsNone]

@[simp] theorem not_admitsNone_void (text : String) : ¬ (Handle.void text).AdmitsNone P :=
  not_false

@[simp] theorem not_admitsNone_list (name : String) (element : Handle) :
    ¬ (Handle.list name element).AdmitsNone P :=
  not_false

@[simp] theorem not_admitsNone_awaitable (name : String) (arguments : List Handle) :
    ¬ (Handle.awaitable name arguments).AdmitsNone P :=
  not_false

@[simp] theorem not_admitsNone_classObject (symbol : Symbol) (arguments : List Handle) :
    ¬ (Handle.classObject symbol arguments).AdmitsNone P :=
  not_false

@[simp] theorem not_admitsNone_record (symbol : Symbol) (source : RecordSource)
    (arguments : List Handle) (aliasName : Option String) :
    ¬ (Handle.record symbol source arguments aliasName).AdmitsNone P :=
  not_false

@[simp] theorem not_admitsNone_typeParameter (name : String) :
    ¬ (Handle.typeParameter name).AdmitsNone P :=
  not_false

@[simp] theorem not_admitsNone_unsupported (text : String) (symbol : Option Symbol) :
    ¬ (Handle.unsupported text symbol).AdmitsNone P :=
  not_false

theorem admitsNone_deferred_iff {target : AliasRef} {arguments : List Handle}
    (grounds : P.Grounds (.alias target.key target.value)) :
    (Handle.deferred target arguments).AdmitsNone P ↔
      P.AdmitsNone P.aliasParameters target.key.file
        ((P.aliasParameters target).zip (arguments.map (AdmitsNone P))) target.value := by
  rw [AdmitsNone, identity, Identity.AdmitsNone, Identity.admitted_eq_map, identities_eq_map,
    List.map_map]
  constructor
  · rintro ⟨value, again, admits⟩
    obtain rfl : value = target.value := Option.some.inj (again.symm.trans grounds)
    exact admits
  · exact fun admits => ⟨target.value, grounds, admits⟩

theorem exists_alternative_admitsNone_iff (h : Handle) :
    (∃ part ∈ h.alternatives, part.AdmitsNone P) ↔ h.AdmitsNone P := by
  cases h <;> simp [alternatives]

theorem admitsNone_unionOf_iff :
    (unionOf members).AdmitsNone P ↔ ∃ h ∈ members, h.AdmitsNone P := by
  have whole : (unionOf members).AdmitsNone P ↔
      ∃ part ∈ distinctFrom [] (members.flatMap alternatives), part.AdmitsNone P := by
    unfold unionOf
    split
    · rename_i single same
      simp [same]
    · exact admitsNone_union
  rw [whole]
  constructor
  · rintro ⟨part, inside, admits⟩
    obtain ⟨h, member, inside⟩ := List.mem_flatMap.mp (mem_of_mem_distinctFrom inside)
    exact ⟨h, member, (exists_alternative_admitsNone_iff h).mp ⟨part, inside, admits⟩⟩
  · rintro ⟨h, member, admits⟩
    obtain ⟨part, inside, admits⟩ := (exists_alternative_admitsNone_iff h).mpr admits
    obtain ⟨other, kept, same⟩ := exists_mem_distinctFrom
      (List.mem_flatMap.mpr ⟨h, member, inside⟩) (List.not_mem_nil (a := part.identity))
    refine ⟨other, kept, ?_⟩
    unfold AdmitsNone
    rwa [same]

end Handle

/-! ### What hints come to -/

theorem map_eq_of_forall₂_iff {α β : Type} {p : α → Prop} {q : β → Prop} {as : List α}
    {bs : List β} (related : List.Forall₂ (fun a b => q b ↔ p a) as bs) : bs.map q = as.map p := by
  induction related with
  | nil => rfl
  | cons first _ ih => rw [List.map_cons, List.map_cons, ih, propext first]

theorem exists_mem_iff_of_forall₂ {α β : Type} {p : α → Prop} {q : β → Prop} {as : List α}
    {bs : List β} (related : List.Forall₂ (fun a b => q b ↔ p a) as bs) :
    (∃ b ∈ bs, q b) ↔ ∃ a ∈ as, p a := by
  induction related with
  | nil => simp
  | cons first _ ih => simp [first, ih]

namespace Program

variable {P : Program} {file : Path} {scope : TypeVariables} {e : Expr}

/-- For which type variables in scope `None` is among their values. -/
def admittedIn (P : Program) (scope : TypeVariables) : List (String × Prop) :=
  scope.map fun v => (v.1, v.2.AdmitsNone P)

@[simp] theorem keys_admittedIn : Pairs.keys (P.admittedIn scope) = Pairs.keys scope := by
  simp [Pairs.keys, admittedIn]

theorem lookup_admittedIn (name : String) :
    (P.admittedIn scope).lookup name = (scope.lookup name).map (Handle.AdmitsNone P) :=
  Pairs.lookup_map_snd ..

theorem admittedIn_zip (names : List String) (handles : List Handle) :
    P.admittedIn (names.zip handles) = names.zip (handles.map (Handle.AdmitsNone P)) :=
  Pairs.map_snd_zip names (Handle.AdmitsNone P) handles

abbrev HintAdmits (P : Program) (file : Path) (scope : TypeVariables) (e : Expr) : Prop :=
  P.AdmitsNone P.aliasParameters file (P.admittedIn scope) e

abbrev SettlesNone (P : Program) (question : CheckM Handle) (p : Prop) : Prop :=
  Settles P question fun h => h.AdmitsNone P ↔ p

theorem settlesNone_unsupported {p : Prop} (e : Expr) (never : ¬ p) :
    P.SettlesNone (do return .unsupported (← e.source) none) p :=
  (e.settles_source P).bind fun _ _ => .pure (by simp [never])

theorem handleOfSpecial_of_wrapper {qualname : String} (wraps : qualname ∈ SpecialForm.wrappers)
    (arguments : List HintArgument) (e : Expr) :
    handleOfSpecial file qualname arguments e =
      match arguments with
      | first :: _ => first.resolve
      | [] => do return .unsupported (← e.source) none := by
  simp only [SpecialForm.wrappers, List.mem_cons, List.not_mem_nil, or_false] at wraps
  rcases wraps with rfl | rfl | rfl | rfl <;> cases arguments <;> rfl

theorem settlesNone_other {qualname : String} (other : qualname ∉ SpecialForm.choosing)
    (arguments : List HintArgument) (e : Expr)
    (each : ∀ argument ∈ arguments, Settles P argument.resolve fun _ => True) :
    P.SettlesNone (handleOfSpecial file qualname arguments e) False := by
  have all : Settles P (HintArgument.resolveAll arguments) fun _ => True :=
    (Settles.mapM each).mono fun _ _ => trivial
  unfold handleOfSpecial
  dsimp only
  split
  · rename_i kind scalar
    refine .pure (iff_false_intro ?_)
    rintro admits
    obtain rfl := (Handle.admitsNone_intrinsic kind).mp admits
    unfold SpecialForm.scalar? at scalar
    split at scalar <;> cases scalar
  split
  · split
    · exact (each _ List.mem_cons_self).bind fun _ _ => .pure (by simp)
    · exact .pure (by simp)
  split
  · exact all.bind fun _ _ => .pure (by simp)
  split
  · exact .pure (by simp)
  split
  · exact .pure (by simp [Handle.any])
  · split
    · rename_i last isLast
      exact (each last (List.mem_of_getLast? isLast)).bind fun _ _ => .pure (by simp)
    · exact .pure (by simp)
  · simp [SpecialForm.choosing] at other
  · simp [SpecialForm.choosing] at other
  · exact .pure (by simp [inlineRecord])
  · split
    · rename_i wraps
      exact absurd (List.mem_cons_of_mem _ (List.mem_cons_of_mem _
        (List.contains_iff_mem.mp wraps))) other
    · exact settlesNone_unsupported e id
  · exact settlesNone_unsupported e id

theorem settlesNone_special {R : Expr → Prop} (qualname : String) (arguments : List HintArgument)
    (e : Expr)
    (each : ∀ argument ∈ arguments, P.SettlesNone argument.resolve (R argument.expr)) :
    P.SettlesNone (handleOfSpecial file qualname arguments e)
      ((qualname = "typing.Optional" ∧ arguments ≠ []) ∨
        ∃ argument ∈ SpecialForm.alternatives qualname arguments, R argument.expr) := by
  by_cases chosen : qualname ∈ SpecialForm.choosing
  · rcases List.mem_cons.mp chosen with rfl | chosen
    · cases arguments with
      | nil => exact settlesNone_unsupported e (by simp [SpecialForm.alternatives])
      | cons first rest =>
        refine Settles.bind (Settles.mapM_forall₂ each) fun handles settled => .pure ?_
        rw [Handle.admitsNone_unionOf_iff, exists_mem_iff_of_forall₂ settled]
        simp [SpecialForm.alternatives]
    rcases List.mem_cons.mp chosen with rfl | wraps
    · cases arguments with
      | nil => exact settlesNone_unsupported e (by simp [SpecialForm.alternatives])
      | cons first rest =>
        refine (each first List.mem_cons_self).bind fun h _ => .pure ?_
        rw [Handle.admitsNone_unionOf_iff]
        simp [Handle.none]
    · have plain : qualname ≠ "typing.Optional" := by
        rintro rfl
        simp [SpecialForm.wrappers] at wraps
      rw [handleOfSpecial_of_wrapper wraps, SpecialForm.alternatives_of_wrapper wraps]
      cases arguments with
      | nil => exact settlesNone_unsupported e (by simp)
      | cons first rest => exact (each first List.mem_cons_self).mono (by simp [plain])
  · refine (settlesNone_other chosen arguments e fun argument member =>
      (each argument member).mono fun _ _ => trivial).mono fun h never => never.trans ?_
    rw [SpecialForm.alternatives_of_not_mem chosen]
    have plain : qualname ≠ "typing.Optional" := by
      rintro rfl
      simp [SpecialForm.choosing] at chosen
    simp [plain]

theorem settles_spelling (P : Program) (e : Expr) :
    Settles P (variableName e) fun name => e.spelling? = some name := by
  unfold variableName Expr.spelling?
  split
  · rename_i dotted
    exact .pure (by rw [dotted]; rfl)
  · rename_i none
    unfold Expr.source
    rw [none, Option.none_or]
    cases e.source? with
    | ok text => exact .pure rfl
    | error => exact .throw

theorem exists_lookup_admittedIn_iff (name : String) :
    (∃ p, (P.admittedIn scope).lookup name = some p ∧ p) ↔
      ∃ h, scope.lookup name = some h ∧ h.AdmitsNone P := by
  rw [lookup_admittedIn]
  simp only [Option.map_eq_some_iff]
  constructor
  · rintro ⟨_, ⟨h, found, rfl⟩, admits⟩
    exact ⟨h, found, admits⟩
  · rintro ⟨h, found, admits⟩
    exact ⟨_, ⟨h, found, rfl⟩, admits⟩

def ExpandsNone (P : Program) (expand : AliasRef → List Handle → CheckM Handle) : Prop :=
  ∀ key value handles, P.Grounds (.alias key value) → P.SettlesNone (expand ⟨key, value⟩ handles)
    (P.AdmitsNone P.aliasParameters key.file
      ((P.aliasParameters ⟨key, value⟩).zip (handles.map (Handle.AdmitsNone P))) value)

theorem settlesNone_binding {expand : AliasRef → List Handle → CheckM Handle} {found : Binding}
    {arguments : List HintArgument} (stands : P.StandsFor file (Pairs.keys scope) e found)
    (reference : e.refers) (written : arguments.map (·.expr) = e.bracketed)
    (expands : P.ExpandsNone expand)
    (each : ∀ argument ∈ arguments,
      P.SettlesNone argument.resolve (P.HintAdmits file scope argument.expr)) :
    P.SettlesNone (P.handleOfBinding expand file scope found arguments e)
      (P.HintAdmits file scope e) := by
  rw [HintAdmits, admitsNone_iff_of_stands (by rwa [keys_admittedIn]) reference]
  have all : Settles P (HintArgument.resolveAll arguments) _ := Settles.mapM_forall₂ each
  unfold handleOfBinding
  cases found with
  | special qualname =>
    have mapped := SpecialForm.alternatives_map qualname (·.expr) arguments
    refine (settlesNone_special qualname arguments e each).mono fun h admits => admits.trans ?_
    rw [AdmitsBy, ← written, mapped]
    simp
  | classDef home definition =>
    refine (settles_recordOf P _ _).bind fun record _ => ?_
    split <;> exact all.bind fun _ _ => .pure (by simp [AdmitsBy])
  | recordCall => exact .pure (by simp [AdmitsBy])
  | «alias» key value =>
    refine all.bind fun handles settled => ?_
    have same : handles.map (Handle.AdmitsNone P) =
        e.bracketed.map (P.AdmitsNone P.aliasParameters file (P.admittedIn scope)) := by
      rw [← written, List.map_map]
      exact map_eq_of_forall₂_iff settled
    rw [AdmitsBy, ← same]
    exact expands key value handles stands.grounds
  | typeVariable name =>
    refine .pure ?_
    rw [AdmitsBy, exists_lookup_admittedIn_iff]
    cases scope.lookup name <;> simp
  | unresolved message =>
    refine (settles_spelling P e).bind fun name spelled => ?_
    have admitted : P.AdmitsBy P.aliasParameters file (P.admittedIn scope) e (.unresolved message) ↔
        ∃ h, scope.lookup name = some h ∧ h.AdmitsNone P := by
      rw [← exists_lookup_admittedIn_iff]
      simp only [AdmitsBy, spelled]
      simp
    rw [admitted]
    split
    · rename_i h held
      exact .pure (by simp [held])
    · rename_i unheld
      exact settlesNone_unsupported e (by simp [unheld])
  | _ => exact settlesNone_unsupported e (by simp [AdmitsBy])

/-- The reader of texts comes to handles that admit `None` just as what the texts quote does. -/
def ReadsNone (P : Program) (file : Path) (scope : TypeVariables)
    (quoted : CodeText → CheckM Handle) (text : CodeText) : Prop :=
  P.SettlesNone (quoted text) (∃ inner, text.Quotes inner ∧ P.HintAdmits file scope inner)

theorem hintAdmits_literal_iff {pos : Position} {value : Literal} :
    P.HintAdmits file scope (.literal pos value) ↔ value = .none ∨
      ∃ text marked inner, value = .text text marked ∧ text.Quotes inner ∧
        P.HintAdmits file scope inner := by
  constructor
  · intro admits
    rcases admits.cases_on with impossible | ⟨_, same⟩ | ⟨_, _, _, inner, same, held⟩ |
      ⟨_, _, _, same, _⟩
    · cases impossible
    · cases same
      exact .inl rfl
    · cases same
      exact .inr ⟨_, _, inner, rfl, held⟩
    · cases same
  · rintro (rfl | ⟨_, _, _, rfl, quotes, admits⟩)
    · exact .none
    · exact .text quotes admits

theorem hintAdmits_name_iff {pos : Position} {id : String} {h : Handle}
    (held : scope.lookup id = some h) :
    P.HintAdmits file scope (.name pos id) ↔ h.AdmitsNone P := by
  have known : (P.admittedIn scope).lookup id = some (h.AdmitsNone P) := by
    rw [lookup_admittedIn, held]
    rfl
  have inside := Pairs.mem_keys_of_lookup known
  constructor
  · intro admits
    cases admits with
    | typeVariable stands holds =>
      cases stands with
      | name found => rwa [Option.some.inj (known.symm.trans found)]
      | declared stands | unbound _ stands => exact absurd inside (stands.free _ _ rfl)
    | optional stands | part stands | expanded stands => exact absurd inside (stands.free _ _ rfl)
  · exact fun admits => .typeVariable (.name known) admits

theorem hintAdmits_bitOr_iff {pos : Position} {left right : Expr} :
    P.HintAdmits file scope (.binary pos .bitOr left right) ↔
      P.HintAdmits file scope left ∨ P.HintAdmits file scope right := by
  constructor
  · intro admits
    rcases admits.cases_on with impossible | ⟨_, same⟩ | ⟨_, _, _, _, same, _⟩ |
      ⟨_, _, _, same, either⟩
    · cases impossible
    · cases same
    · cases same
    · cases same
      exact either
  · exact fun either => either.elim .left .right

theorem settlesNone_resolveExpr {expand : AliasRef → List Handle → CheckM Handle}
    {quoted : CodeText → CheckM Handle} (expands : P.ExpandsNone expand)
    (read : ∀ pos text marked, .literal pos (.text text marked) ∈ e.parts →
      P.ReadsNone file scope quoted text) :
    P.SettlesNone (P.resolveExpr expand quoted file scope e) (P.HintAdmits file scope e) := by
  generalize bound : sizeOf e = limit
  induction limit using Nat.strongRecOn generalizing e with
  | ind limit ih =>
    subst bound
    cases e with
    | literal pos value =>
      rw [resolveExpr.eq_def, hintAdmits_literal_iff]
      cases value with
      | none => exact .pure (by simp [Handle.none])
      | text text marked =>
        refine (read pos text marked (Expr.mem_parts_self _)).mono fun h admits => ?_
        rw [admits]
        simp
      | _ => exact (PrintFault.settles_lift P _).bind fun _ _ => .pure (by simp)
    | binary pos op left right =>
      rw [resolveExpr.eq_def]
      cases op with
      | bitOr =>
        have first : left.parts ⊆ (Expr.binary pos .bitOr left right).parts :=
          Expr.parts_subset (by simp [Expr.parts])
        have second : right.parts ⊆ (Expr.binary pos .bitOr left right).parts :=
          Expr.parts_subset (by simp [Expr.parts])
        refine (ih (sizeOf left) (by simp +arith)
          (fun pos text marked inside => read pos text marked (first inside)) rfl).bind ?_
        intro one admits
        refine (ih (sizeOf right) (by simp +arith)
          (fun pos text marked inside => read pos text marked (second inside)) rfl).bind ?_
        intro other admits'
        refine .pure ?_
        rw [Handle.admitsNone_unionOf_iff, hintAdmits_bitOr_iff]
        simp [admits, admits']
      | _ =>
        refine settlesNone_unsupported _ fun admits => ?_
        rcases admits.cases_on with impossible | ⟨_, same⟩ | ⟨_, _, _, _, same, _⟩ |
          ⟨_, _, _, same, _⟩
        · cases impossible
        all_goals cases same
    | name pos id =>
      rw [resolveExpr]
      split
      · rename_i h held
        exact .pure (hintAdmits_name_iff held).symm
      · rename_i unheld
        refine (settles_find_looked P _ _).bind fun found looked => ?_
        refine settlesNone_binding ⟨?_, looked⟩ rfl rfl expands (List.forall_mem_nil _)
        rintro _ _ ⟨⟩
        exact Pairs.lookup_eq_none_iff.mp unheld
    | member pos value attr =>
      rw [resolveExpr]
      refine (settles_find_looked P _ _).bind fun found looked => ?_
      exact settlesNone_binding ⟨fun _ _ same => (by cases same), looked⟩ rfl rfl expands
        (List.forall_mem_nil _)
    | subscript pos value index =>
      rw [resolveExpr_subscript]
      refine (settles_find_looked P _ _).bind fun found looked => ?_
      refine settlesNone_binding ⟨fun _ _ same => (by cases same), looked⟩ rfl ?_ expands ?_
      · rw [List.map_map]
        exact List.map_id _
      · refine List.forall_mem_map.mpr fun part member => ?_
        have part_le := Expr.sizeOf_le_of_mem_indices member
        have smaller := Expr.subscript.sizeOf_spec pos value index
        have below : part.parts ⊆ (Expr.subscript pos value index).parts :=
          Expr.parts_of_mem_indices member
        exact ih (sizeOf part) (by omega)
          (fun pos text marked inside => read pos text marked (below inside)) rfl
    | _ =>
      rw [resolveExpr.eq_def]
      refine settlesNone_unsupported _ fun admits => ?_
      rcases admits.cases_on with impossible | ⟨_, same⟩ | ⟨_, _, _, _, same, _⟩ |
        ⟨_, _, _, same, _⟩
      · cases impossible
      all_goals cases same

theorem settlesNone_resolveQuoting {expand : AliasRef → List Handle → CheckM Handle}
    (expands : P.ExpandsNone expand) {limit : Nat} (below : e.TextsBelow limit) :
    P.SettlesNone (P.resolveQuoting expand limit file scope e) (P.HintAdmits file scope e) := by
  induction limit using Nat.strongRecOn generalizing e with
  | ind limit ih =>
    rw [resolveQuoting]
    refine settlesNone_resolveExpr expands fun pos text marked inside => ?_
    have shorter := below pos text marked inside
    unfold ReadsNone
    dsimp only
    rw [dif_pos shorter]
    refine (Expr.settles_ofQuoted?_quotes P text).bind fun found quotes => ?_
    cases found with
    | none => exact .pure (by simp [← quotes])
    | some inner =>
      refine (ih _ shorter ((quotes inner).mp rfl).textsBelow).mono fun h admits => ?_
      simp [admits, ← quotes]

theorem settlesNone_expandAlias {resolveValue : TypeVariables → CheckM Handle}
    {target : AliasRef} {arguments : List Handle} {p : Prop}
    (value : P.SettlesNone (resolveValue ((P.aliasParameters target).zip arguments)) p) :
    P.SettlesNone (P.expandAlias resolveValue target arguments) p := by
  have found : Settles P (P.typeVariables target.key.file target.value []) fun found =>
      found = P.aliasParameters target := fun _ _ _ answered =>
    ⟨(fixed_typeVariables P _ _ _ _ _ _ _ _ _ answered answered).2.trans
        (P.aliasParameters_eq target).symm,
      (settles_typeVariables P _ _ _ _ _ _ answered).2⟩
  unfold expandAlias
  refine found.bind ?_
  rintro _ rfl
  refine value.bind fun h admits => ?_
  split
  · simp only [Handle.not_admitsNone_record, false_iff] at admits
    split
    · refine (Settles.mapM fun h _ => h.settles_display P).bind fun texts _ => .pure ?_
      simpa using admits
    · exact .pure (by simpa using admits)
  · exact .pure admits

theorem settlesNone_resolveAmong (pending : List NameKey) :
    P.SettlesNone (P.resolveAmong pending file scope e) (P.HintAdmits file scope e) := by
  generalize bound : pending.length = limit
  induction limit using Nat.strongRecOn generalizing pending file scope e with
  | ind limit ih =>
    rw [resolveAmong]
    refine settlesNone_resolveQuoting (fun key value handles grounds => ?_) e.textsBelow_weight
    dsimp only
    split
    · rename_i present
      subst bound
      refine settlesNone_expandAlias ?_
      rw [← admittedIn_zip]
      exact ih _ (Pending.length_without_lt present) _ rfl
    · exact .pure (Handle.admitsNone_deferred_iff grounds)

/-- A hint comes to a handle that admits `None` exactly if the hint does. -/
theorem settlesNone_resolve (P : Program) (file : Path) (scope : TypeVariables)
    (hint : Option Expr) : P.SettlesNone (P.resolve file scope hint)
      (∃ e, hint = some e ∧ P.HintAdmits file scope e) := by
  unfold resolve
  split
  · exact (settlesNone_resolveAmong _).mono fun h admits => by simp [admits]
  · exact .pure (by simp [Handle.any])

/-- Expanding a handle does not change whether it admits `None`. -/
theorem settlesNone_apparent {h : Handle}
    (grounded : ∀ target arguments, h = .deferred target arguments →
      P.Grounds (.alias target.key target.value)) :
    P.SettlesNone (P.apparent h) (h.AdmitsNone P) := by
  unfold apparent
  split
  · rename_i target arguments
    rw [Handle.admitsNone_deferred_iff (grounded _ _ rfl)]
    refine settlesNone_expandAlias ?_
    rw [← admittedIn_zip]
    exact settlesNone_resolveAmong _
  · exact .pure .rfl

theorem settlesNone_typedParameter (P : Program) (file : Path) (parameter : Parameter) :
    Settles P (P.typedParameter file parameter) fun p => p.handle.AdmitsNone P ↔
      ∃ e, parameter.hint = some e ∧ P.AdmitsNone P.aliasParameters file [] e := by
  unfold typedParameter
  refine (settlesNone_resolve P file [] parameter.hint).bind fun h admits => .pure ?_
  dsimp only
  split
  · have same : (Handle.unionOf [h, .missing]).AdmitsNone P ↔ h.AdmitsNone P := by
      simp [Handle.admitsNone_unionOf_iff, Handle.missing]
    exact same.trans admits
  · exact admits

end Program

end HintSchema

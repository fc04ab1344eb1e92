import HintSchema.Proofs.Hints.Inherited
import HintSchema.Proofs.Hints.Linearised

/-!
The declarations that the properties of a record come from. Of the classes that the walk over the
bases leaves, the last one that declares a name counts, and in it the last declaration of the name
(`collects_propertiesOf`).
-/

namespace HintSchema

/-- The last item that gives anything gives this. -/
def Last {ι β : Type} (G : ι → β → Prop) (items : List ι) (b : β) : Prop :=
  ∃ before item after, items = before ++ item :: after ∧ G item b ∧
    ∀ other ∈ after, ∀ b, ¬ G other b

namespace Last

variable {ι β : Type} {G : ι → β → Prop} {items before after : List ι} {item : ι} {b : β}

theorem of_single (given : G item b) : Last G [item] b :=
  ⟨[], item, [], rfl, given, List.forall_mem_nil _⟩

theorem append (last : Last G after b) : Last G (before ++ after) b := by
  obtain ⟨early, item, late, rfl, given, silent⟩ := last
  exact ⟨before ++ early, item, late, (List.append_assoc ..).symm, given, silent⟩

theorem append_silent (last : Last G before b) (silent : ∀ item ∈ after, ∀ b, ¬ G item b) :
    Last G (before ++ after) b := by
  obtain ⟨early, item, late, rfl, given, rest⟩ := last
  exact ⟨early, item, late ++ after, by simp, given, List.forall_mem_append.mpr ⟨rest, silent⟩⟩

theorem concat_iff :
    Last G (before ++ [item]) b ↔ G item b ∨ (∀ b, ¬ G item b) ∧ Last G before b := by
  constructor
  · rintro ⟨early, other, late, whole, given, silent⟩
    rcases List.eq_nil_or_concat late with rfl | ⟨late, last, rfl⟩
    · obtain ⟨rfl, rfl⟩ := List.append_singleton_inj.mp whole
      exact .inl given
    · rw [List.concat_eq_append, ← List.cons_append, ← List.append_assoc] at whole
      obtain ⟨rfl, rfl⟩ := List.append_singleton_inj.mp whole
      rw [List.concat_eq_append, List.forall_mem_append] at silent
      exact .inr ⟨silent.2 item List.mem_cons_self, early, other, late, rfl, given, silent.1⟩
  · rintro (given | ⟨silent, last⟩)
    · exact (of_single given).append
    · exact last.append_silent (List.forall_mem_singleton.mpr silent)

theorem unique (single : ∀ item b c, G item b → G item c → b = c) {c : β} (last : Last G items b)
    (again : Last G items c) : b = c := by
  induction items using List.reverseRecOn with
  | nil =>
    obtain ⟨early, _, _, impossible, _⟩ := last
    cases early <;> cases impossible
  | append_singleton early item ih =>
    rcases concat_iff.mp last with given | ⟨silent, last⟩
    · rcases concat_iff.mp again with given' | ⟨silent, _⟩
      · exact single item b c given given'
      · exact absurd given (silent b)
    · rcases concat_iff.mp again with given | ⟨_, again⟩
      · exact absurd given (silent c)
      · exact ih last again

end Last

/-- Under each name there is what goes with the last item that gives something for the name. -/
structure Collects {ι β : Type} (G : String → ι → β → Prop) (Q : β → Handle → Prop)
    (items : List ι) (properties : Properties) : Prop where
  last : ∀ p ∈ properties, ∃ b, Last (G p.1) items b ∧ Q b p.2
  all : ∀ item ∈ items, ∀ name b, G name item b → name ∈ Pairs.keys properties

namespace Collects

variable {ι β : Type} {G : String → ι → β → Prop} {Q : β → Handle → Prop}
  {items before after : List ι} {properties more : Properties}

theorem nil : Collects G Q [] [] := ⟨List.forall_mem_nil _, List.forall_mem_nil _⟩

theorem of_silent {item : ι} (silent : ∀ name b, ¬ G name item b) : Collects G Q [item] [] :=
  ⟨List.forall_mem_nil _, List.forall_mem_singleton.mpr fun name b given =>
    absurd given (silent name b)⟩

theorem single {item : ι} {name : String} {b : β} {h : Handle} (given : G name item b)
    (only : ∀ other c, G other item c → other = name) (right : Q b h) :
    Collects G Q [item] [(name, h)] :=
  ⟨List.forall_mem_singleton.mpr ⟨b, .of_single given, right⟩,
    List.forall_mem_singleton.mpr fun other c given' =>
      only other c given' ▸ List.mem_cons_self⟩

theorem append (first : Collects G Q before properties) (second : Collects G Q after more) :
    Collects G Q (before ++ after) (Pairs.putAll properties more) where
  last p member := by
    rcases Pairs.mem_putAll_cases member with ⟨old, absent⟩ | new
    · obtain ⟨b, last, right⟩ := first.last p old
      exact ⟨b, last.append_silent fun item inside b given =>
        absent (second.all item inside p.1 b given), right⟩
    · obtain ⟨b, last, right⟩ := second.last p new
      exact ⟨b, last.append, right⟩
  all := by
    refine List.forall_mem_append.mpr ⟨fun item inside name b given => ?_,
      fun item inside name b given => ?_⟩
    · exact Pairs.mem_keys_putAll.mpr (.inl (first.all item inside name b given))
    · exact Pairs.mem_keys_putAll.mpr (.inr (second.all item inside name b given))

theorem foldlM {step : Properties → ι → CheckM Properties}
    (each : ∀ properties item c properties' d, Returns (step properties item) c properties' d →
      ∃ more, Collects G Q [item] more ∧ properties' = Pairs.putAll properties more)
    {properties' : Properties} {c d : CheckState} (first : Collects G Q before properties)
    (returned : Returns (items.foldlM step properties) c properties' d) :
    Collects G Q (before ++ items) properties' := by
  induction items generalizing before properties c with
  | nil =>
    obtain ⟨rfl, rfl⟩ := (returns_pure_iff _ _).mp returned
    rwa [List.append_nil]
  | cons item rest ih =>
    rw [List.foldlM_cons, returns_bind_iff] at returned
    obtain ⟨next, m, one, later⟩ := returned
    obtain ⟨more, added, rfl⟩ := each _ _ _ _ _ one
    rw [List.append_cons]
    exact ih (first.append added) later

end Collects

/-- The statement declares a field of the name with the hint, and that is not ignored. -/
inductive Statement.Declares (P : Program) (file : Path) (name : String) :
    Statement → Expr → Prop
  | mk {pos : Position} {hint : Expr} {value : Option Expr} {bare : Bool}
      (kept : ∃ c d, Returns (P.isIgnoredField file hint) c false d) :
      Declares P file name (.declare (.name pos name) hint value bare) hint

/-- The item of a dictionary has the hint under the key. -/
inductive DictItem.Gives (key : CodeText) : DictItem → Expr → Prop
  | mk {place : Position} {marked : Bool} {hint : Expr} :
      Gives key (.pair (.literal place (.text key marked)) hint) hint

theorem DictItem.Gives.unique {key : CodeText} {item : DictItem} {hint other : Expr}
    (gives : item.Gives key hint) (again : item.Gives key other) : hint = other := by
  obtain ⟨_⟩ := gives
  obtain ⟨_⟩ := again
  rfl

/-- The item of a dictionary has the hint under a key that becomes the name. -/
def DictItem.Names (name : String) (item : DictItem) (hint : Expr) : Prop :=
  ∃ key : CodeText, key.toName = name ∧ item.Gives key hint

theorem DictItem.gives_of_last {name : String} {items : List DictItem} {hint : Expr}
    (last : Last (DictItem.Names name) items hint) :
    ∃ key : CodeText, key.toName = name ∧ Last (DictItem.Gives key) items hint := by
  obtain ⟨before, item, after, rfl, ⟨key, named, gives⟩, silent⟩ := last
  exact ⟨key, named, before, item, after, rfl, gives,
    fun other later b given => silent other later b ⟨key, named, given⟩⟩

/-- The last declaration of the name in the class has the hint. -/
def Declared.Gives (P : Program) (name : String) (x : Declared) (b : Declared × Expr) : Prop :=
  b.1 = x ∧ Last (Statement.Declares P x.1 name) x.2.body b.2

theorem Declared.Gives.unique {P : Program} {name : String} {x : Declared} {b c : Declared × Expr}
    (gives : x.Gives P name b) (again : x.Gives P name c) : b = c := by
  refine Prod.ext (gives.1.trans again.1.symm) (gives.2.unique ?_ again.2)
  rintro _ _ _ ⟨_⟩ ⟨_⟩
  rfl

namespace Program

def ownRecord (P : Program) (x : Declared) : RecordSource :=
  P.recordOfClass ((P.sign x).getD .typedDict) x

/-- The classes that the bases name, as far as they are known to be records. -/
def recordParents (P : Program) (z : CheckState) (x : Declared) : List Declared :=
  (P.parents x).filter fun y => (z.records.lookup y.key).join.isSome

variable {P : Program} {z c d : CheckState} {x : Declared} {I : Handle → Prop}
  {source : RecordSource} {scope : TypeVariables} {properties : Properties}

theorem Credible.eq_ownRecord {record : RecordSource} (credible : P.Credible x (some record)) :
    record = P.ownRecord x := by
  unfold ownRecord
  cases signed : P.sign x with
  | some kind => exact Option.some.inj (credible.signed kind signed)
  | none =>
    rcases credible.unsigned signed with impossible | ⟨same, _⟩
    · cases impossible
    · exact Option.some.inj same

/-- What is read of the hints of a record's fields. -/
def Fields (P : Program) (I : Handle → Prop) (source : RecordSource)
    (Q : Expr → Handle → Prop) : Prop :=
  ∀ hint scope c h d, (∀ v ∈ scope, I v.2) → Returns (P.fieldHandle source scope hint) c h d →
    Q hint h

theorem collects_dictFields {Q : Expr → Handle → Prop} (fields : P.Fields I source Q)
    (known : ∀ v ∈ scope, I v.2) {items : List DictItem}
    (returned : Returns (P.dictFields source scope items) c properties d) :
    Collects DictItem.Names Q items properties := by
  rw [← items.nil_append]
  refine Collects.foldlM (fun properties item c properties' d one => ?_) .nil returned
  split at one
  · rename_i place key marked hint
    obtain ⟨h, m, asked, one⟩ := (returns_bind_iff ..).mp one
    obtain ⟨rfl, rfl⟩ := (returns_pure_iff _ _).mp one
    refine ⟨_, .single ⟨key, rfl, .mk⟩ ?_ (fields _ _ _ _ _ known asked), rfl⟩
    rintro _ _ ⟨_, named, ⟨_⟩⟩
    exact named.symm
  · rename_i other
    obtain ⟨rfl, rfl⟩ := (returns_pure_iff _ _).mp one
    refine ⟨[], .of_silent ?_, rfl⟩
    rintro name hint ⟨_, _, ⟨_⟩⟩
    exact other _ _ _ _ rfl

theorem collects_ownFields {Q : Expr → Handle → Prop} (fields : P.Fields I source Q)
    (known : ∀ v ∈ scope, I v.2) {body : List Statement}
    (returned : Returns (P.ownFields source scope [] body) c properties d) :
    Collects (Statement.Declares P source.file) Q body properties := by
  rw [← body.nil_append]
  refine Collects.foldlM (fun properties statement c properties' d one => ?_) .nil returned
  split at one
  · rename_i pos name hint value bare
    obtain ⟨ignored, m, asked, one⟩ := (returns_bind_iff ..).mp one
    cases ignored with
    | true =>
      obtain ⟨rfl, rfl⟩ := (returns_pure_iff _ _).mp one
      refine ⟨[], .of_silent ?_, rfl⟩
      rintro _ _ ⟨e, f, kept⟩
      cases (fixed_isIgnoredField P _ _ _ _ _ _ _ _ asked kept).1
    | false =>
      obtain ⟨h, n, read, one⟩ := (returns_bind_iff ..).mp one
      obtain ⟨rfl, rfl⟩ := (returns_pure_iff _ _).mp one
      refine ⟨_, .single (.mk ⟨_, _, asked⟩) ?_ (fields _ _ _ _ _ known read), rfl⟩
      rintro _ _ ⟨_⟩
      rfl
  · rename_i other
    obtain ⟨rfl, rfl⟩ := (returns_pure_iff _ _).mp one
    refine ⟨[], .of_silent ?_, rfl⟩
    rintro name hint ⟨_⟩
    exact other _ _ _ _ _ rfl

theorem collects_class {Q : Declared × Expr → Handle → Prop}
    (fields : P.Fields I (P.ownRecord x) fun hint => Q (x, hint)) (known : ∀ v ∈ scope, I v.2)
    {above : List Declared} {inherited : Properties}
    (first : Collects (Declared.Gives P) Q above inherited)
    (returned : Returns (P.ownFields (P.ownRecord x) scope inherited x.2.body) c properties d) :
    Collects (Declared.Gives P) Q (above ++ [x]) properties := by
  have whole : P.ownFields (P.ownRecord x) scope inherited x.2.body =
      Pairs.putAll inherited <$> P.ownFields (P.ownRecord x) scope [] x.2.body :=
    ownFields_putAll _ _ inherited [] _
  rw [whole] at returned
  obtain ⟨own, asked, rfl⟩ := (returns_map_iff ..).mp returned
  obtain ⟨last, all⟩ := collects_ownFields fields known asked
  refine first.append ⟨fun p member => ?_, List.forall_mem_singleton.mpr ?_⟩
  · obtain ⟨hint, last, right⟩ := last p member
    exact ⟨(x, hint), .of_single ⟨rfl, last⟩, right⟩
  · rintro name _ ⟨_, before, statement, after, whole, given, _⟩
    exact all statement (by simp [whole]) name _ given

/-! ### The walk over the bases -/

/-- From a class the walk leaves the classes whose last declarations the properties go with. -/
def Climbs (P : Program) (I : Handle → Prop) (Q : Declared × Expr → Handle → Prop)
    (z : CheckState) (pending : List ClassKey)
    (recur : List ClassKey → RecordSource → List Handle → CheckM (Properties × List ClassKey)) :
    Prop :=
  ∀ (x : Declared) (seen : Set Declared) keys arguments c properties keys' d,
    Returns (recur keys (P.ownRecord x) arguments) c (properties, keys') d → d.Grows P z →
    P.Binds x → (∀ h ∈ arguments, I h) → x ∉ seen → P.Marks seen keys →
    (∀ other, P.Binds other → other.key ∉ pending → other ∈ seen) →
    ∃ visited, Hierarchy.Walks (P.recordParents z) seen [x] visited ∧
      P.Marks (seen ∪ {y | y ∈ visited}) keys' ∧ Collects (Declared.Gives P) Q visited properties

variable {Q : Declared × Expr → Handle → Prop} {pending keys keys' : List ClassKey}
  {seen : Set Declared} {properties' : Properties}
  {recur : List ClassKey → RecordSource → List Handle → CheckM (Properties × List ClassKey)}

theorem collects_parents (trusty : P.Trusty [] z) (formation : Formation I)
    (climbs : P.Climbs I Q z pending recur)
    (settled : ∀ keys source arguments, Settles P (recur keys source arguments) fun _ => True)
    (known : ∀ v ∈ scope, I v.2) {bases : List Expr} {before : List Declared}
    (marks : P.Marks seen keys)
    (open' : ∀ other, P.Binds other → other.key ∉ pending → other ∈ seen)
    (collects : Collects (Declared.Gives P) Q before properties)
    (returned : Returns (bases.foldlM (P.afterParent recur x.1 scope) (properties, keys)) c
      (properties', keys') d) (later : d.Grows P z) :
    ∃ above, Hierarchy.Walks (P.recordParents z) seen
        ((bases.filterMap (P.baseClass? x.1)).filter fun y =>
          (z.records.lookup y.key).join.isSome) above ∧
      P.Marks (seen ∪ {y | y ∈ above}) keys' ∧
      Collects (Declared.Gives P) Q (before ++ above) properties' := by
  induction bases generalizing properties keys seen before c with
  | nil =>
    obtain ⟨same, rfl⟩ := (returns_pure_iff _ _).mp returned
    cases same
    exact ⟨[], .done seen, by simpa using marks, by rwa [List.append_nil]⟩
  | cons base rest ih =>
    rw [List.foldlM_cons, returns_bind_iff] at returned
    obtain ⟨⟨next, between⟩, m, first, others⟩ := returned
    have grown : m.Grows P z := by
      refine (Moves.foldlM (fun base state => ?_) _ _ _ _ others).trans later
      exact (settles_afterParent .any (fun _ _ _ _ => (settled _ _ _).mono fun _ _ _ _ => trivial)
        (fun _ _ => trivial) (fun _ _ => trivial) base).moves
    rcases returns_afterParent settled first with
      ⟨rfl, rfl, passed⟩ |
      ⟨y, record, arguments, inherited, n, looked, isRecord, fresh, begun, ⟨e, argued, walked⟩, rfl⟩
    · obtain ⟨above, walks, marks', collects⟩ := ih marks open' collects others
      refine ⟨above, ?_, marks', collects⟩
      cases named : P.baseClass? x.1 base with
      | none => rwa [List.filterMap_cons_none named]
      | some y =>
        rw [List.filterMap_cons_some named, List.filter_cons]
        rcases passed y (baseClass?_eq_some_iff.mp named) with old | none
        · have bound : P.Binds y := grounds_lookupExpr (baseClass?_eq_some_iff.mp named)
          split
          · exact .old ((marks y bound).mpr old) walks
          · exact walks
        · rw [grown.known _ _ none]
          exact walks
    · have bound : P.Binds y := grounds_lookupExpr looked
      have isRecord := grown.known _ _ (begun.known _ _ isRecord)
      obtain rfl := (trusty.credible y bound List.not_mem_nil _ isRecord).eq_ownRecord
      have parts := (settles_baseArguments formation known base _ _ _ argued).1
      obtain ⟨visited, walks, marks, added⟩ := climbs y seen _ _ _ _ _ _ walked grown bound parts
        (fun old => fresh ((marks y bound).mp old)) marks open'
      obtain ⟨above, further, marks, collects⟩ := ih marks
        (fun other bound closed => .inl (open' other bound closed)) (collects.append added) others
      refine ⟨visited ++ above, ?_, ?_, by rwa [← List.append_assoc]⟩
      · rw [List.filterMap_cons_some (baseClass?_eq_some_iff.mpr looked),
          List.filter_cons_of_pos (by rw [isRecord]; rfl)]
        exact walks.append further
      · rwa [← Hierarchy.union_append]

theorem climbs_propertiesAmong (placed : P.Placed) (trusty : P.Trusty [] z)
    (formation : Formation I)
    (fields : ∀ x, P.Fields I (P.ownRecord x) fun hint => Q (x, hint)) (pending : List ClassKey) :
    P.Climbs I Q z pending (P.propertiesAmong pending) := by
  generalize size : pending.length = limit
  induction limit using Nat.strongRecOn generalizing pending with
  | ind limit ih =>
    subst size
    intro x seen keys arguments c properties keys' d returned later bound parts fresh marks open'
    have own : x.key ∈ pending := by
      by_contra closed
      exact fresh (open' x bound closed)
    have below := ih _ (Pending.length_without_lt own) (Pending.without pending x.key) rfl
    have open' (other : Declared) (bound' : P.Binds other)
        (closed : other.key ∉ Pending.without pending x.key) : other ∈ insert x seen := by
      by_cases itself : other = x
      · exact .inl itself
      · refine .inr (open' other bound' fun waiting => closed ?_)
        have apart := mt (bound'.eq_of_key placed bound) itself
        exact List.mem_filter.mpr ⟨waiting, by simpa using apart⟩
    have key : (⟨(P.ownRecord x).file, x.2.pos⟩ : ClassKey) = x.key := rfl
    have known : ∀ v ∈ (P.ownRecord x).typeParameters.zip arguments, I v.2 :=
      fun v member => parts v.2 (List.of_mem_zip member).2
    rw [propertiesAmong] at returned
    dsimp only at returned
    split at returned
    · rename_i impossible
      cases impossible
    · rename_i impossible
      cases impossible
    · rename_i definition read
      obtain rfl := RecordFields.ofClass.inj read
      rw [key, dif_pos own] at returned
      obtain ⟨⟨inherited, visited⟩, m, walked, returned⟩ := (returns_bind_iff _ _ _).mp returned
      obtain ⟨members, n, declared, returned⟩ := (returns_bind_iff _ _ _).mp returned
      obtain ⟨same, rfl⟩ := (returns_pure_iff _ _).mp returned
      cases same
      have moved := (settles_ownFields .any (P.ownRecord x) (fun _ _ => trivial)
        (fun _ _ => trivial) _).moves _ _ _ declared
      obtain ⟨above, walks, marks, collects⟩ := collects_parents trusty formation below
        (fun _ _ _ => (settles_propertiesAmong .any _ _ _ _ fun _ _ => trivial).mono
          fun _ _ => trivial)
        known (marks.insert placed bound) open' .nil walked (moved.trans later)
      refine ⟨above ++ [x], walks.singleton fresh, ?_,
        collects_class (fields x) known collects declared⟩
      rwa [← Hierarchy.insert_union]

/-- The properties of a class's record go with the last declarations of their names in the classes
that the walk over its bases leaves. -/
theorem collects_propertiesOf (placed : P.Placed) (trusty : P.Trusty [] d)
    (formation : Formation I) (fields : ∀ x, P.Fields I (P.ownRecord x) fun hint => Q (x, hint))
    (bound : P.Binds x) {arguments : List Handle} (parts : ∀ h ∈ arguments, I h)
    (returned : Returns (P.propertiesOf (P.ownRecord x) arguments) c properties d) :
    ∃ visited, Hierarchy.Walks (P.recordParents d) ∅ [x] visited ∧
      Collects (Declared.Gives P) Q visited properties := by
  obtain ⟨⟨members, keys⟩, m, walked, returned⟩ := (returns_bind_iff _ _ _).mp returned
  obtain ⟨rfl, rfl⟩ := (returns_pure_iff _ _).mp returned
  obtain ⟨visited, walks, _, collects⟩ := climbs_propertiesAmong placed trusty formation fields
    P.classes x ∅ [] arguments c properties keys d walked (.refl d) bound parts id
    (fun _ _ => by simp) fun other bound closed => absurd bound.key_mem closed
  exact ⟨visited, walks, collects⟩

end Program

end HintSchema

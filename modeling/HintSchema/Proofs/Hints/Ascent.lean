import HintSchema.Proofs.Hints.Declarations
import HintSchema.Proofs.Hints.Lasting
import HintSchema.Proofs.Hints.Termination

/-!
Walks over the bases of classes end, whatever the bases lead to. Asking for the record of a class
ends because a class that is being looked at is known; collecting the properties of a record ends
because the walk keeps the classes that it has seen, and for the same reason it collects the own
fields of no class twice (`Program.walks_end`). Both are stated of the recursion that calls itself
without a limit.
-/

namespace HintSchema

namespace Program

variable {P : Program} {x : Declared} {pending seen : List ClassKey} {c d : CheckState}

/-! ### The record of a class -/

/-- The record that a class declares, given how those of its bases are asked for. A class that is
known is not read again. -/
def recordCall (P : Program) (recur : Path → ClassDef Statement → CheckM (Option RecordSource))
    (file : Path) (definition : ClassDef Statement) : CheckM (Option RecordSource) := do
  let key : ClassKey := ⟨file, definition.pos⟩
  match (← get).records.lookup key with
  | some known => return known
  | none =>
    modify (·.remember key none)
    let form ← P.readForm recur (file, definition)
    let record := form.finish file definition
    modify (·.remember key record)
    return record

/-- Each class of the program is pending or known. -/
def Recalls (P : Program) (pending : List ClassKey) (c : CheckState) : Prop :=
  ∀ key ∈ P.classes, key ∉ pending → c.records.lookup key ≠ none

theorem Recalls.later (recalls : P.Recalls pending c) (grown : c.Grows P d) :
    P.Recalls pending d := by
  intro key own closed unknown
  obtain ⟨record, known⟩ := Option.ne_none_iff_exists'.mp (recalls key own closed)
  cases (grown.known key record known).symm.trans unknown

theorem Recalls.look (recalls : P.Recalls pending c) (key : ClassKey) :
    P.Recalls (Pending.without pending key) (c.remember key none) := by
  intro other own closed unknown
  rw [CheckState.lookup_remember] at unknown
  split at unknown
  · cases unknown
  · rename_i apart
    refine recalls other own (fun inside => closed ?_) unknown
    exact List.mem_filter.mpr ⟨inside, by simpa using apart⟩

variable {recur recur' : Path → ClassDef Statement → CheckM (Option RecordSource)}

theorem runFrom_afterBase_congr {form : RecordForm} {base : Expr} (member : base ∈ x.2.bases)
    (recalls : P.Recalls pending c)
    (below : ∀ y, P.Inherits x y → ∀ c, P.Recalls pending c →
      runFrom (recur y.1 y.2) c = runFrom (recur' y.1 y.2) c) :
    runFrom (form.afterBase P recur x.1 base) c = runFrom (form.afterBase P recur' x.1 base) c := by
  unfold RecordForm.afterBase
  refine runFrom_bind_congr rfl fun found d asked => ?_
  obtain ⟨looked, grown, _⟩ := settles_find_looked P x.1 base.base _ _ _ asked
  refine runFrom_bind_congr rfl fun form e known => ?_
  have recalls := (recalls.later grown).later (RecordForm.grows_of_afterParameters known)
  cases found with
  | classDef home parent =>
    dsimp only
    split
    · rfl
    · exact runFrom_bind_congr (below (home, parent) ⟨base, member, looked⟩ e recalls)
        fun _ _ _ => rfl
  | _ => rfl

theorem runFrom_readForm_congr (recalls : P.Recalls pending c)
    (grows : ∀ file definition c record d,
      Returns (recur' file definition) c record d → c.Grows P d)
    (below : ∀ y, P.Inherits x y → ∀ c, P.Recalls pending c →
      runFrom (recur y.1 y.2) c = runFrom (recur' y.1 y.2) c) :
    runFrom (P.readForm recur x) c = runFrom (P.readForm recur' x) c := by
  unfold readForm
  refine runFrom_bind_congr rfl fun form d decorated => ?_
  have decorated : c.Grows P d := decorated.foldlM_keeps (fun _ e => c.Grows P e)
    (fun _ _ _ _ _ _ grown answered => grown.trans (RecordForm.grows_of_afterDecorator answered))
    (.refl _)
  refine runFrom_foldlM_congr (I := P.Recalls pending) (fun base member form e recalls => ?_)
    (recalls.later decorated)
  exact ⟨runFrom_afterBase_congr member recalls below,
    fun _ _ answered => recalls.later (RecordForm.grows_of_afterBase grows answered)⟩

theorem recordAmong_of_unknown (unknown : c.records.lookup x.key = none)
    (listed : x.key ∈ pending) :
    runFrom (P.recordAmong pending x.1 x.2) c =
      runFrom (P.recordCall (P.recordAmong (Pending.without pending x.key)) x.1 x.2) c := by
  have listed : (⟨x.1, x.2.pos⟩ : ClassKey) ∈ pending := listed
  have unknown : c.records.lookup ⟨x.1, x.2.pos⟩ = none := unknown
  rw [recordAmong, recordCall, runFrom_get_bind, runFrom_get_bind]
  simp only [unknown, dif_pos listed, readForm, bind_assoc]
  rfl

theorem runFrom_recordCall_of_known {record : Option RecordSource}
    (known : c.records.lookup x.key = some record) :
    runFrom (P.recordCall recur x.1 x.2) c = (.ok record, c) := by
  have known : c.records.lookup ⟨x.1, x.2.pos⟩ = some record := known
  rw [recordCall, runFrom_get_bind]
  simp only [known]
  rfl

theorem recordAmong_of_known {record : Option RecordSource}
    (known : c.records.lookup x.key = some record) :
    runFrom (P.recordAmong pending x.1 x.2) c = (.ok record, c) :=
  returns_recordAmong_iff.mpr (.inl ⟨known, rfl⟩)

/-- Beyond as many calls as there are classes that are not known, no record is asked for. -/
theorem runFrom_recordCall (own : ∀ key ∈ pending, key ∈ P.classes) {depth : Nat}
    (enough : pending.length < depth) (recalls : P.Recalls pending c) (bound : P.Binds x) :
    runFrom (P.recordCall^[depth] recur x.1 x.2) c = runFrom (P.recordAmong pending x.1 x.2) c := by
  induction depth generalizing pending x c with
  | zero => cases enough
  | succ depth ih =>
    rw [Function.iterate_succ_apply']
    cases known : c.records.lookup x.key with
    | some record => rw [runFrom_recordCall_of_known known, recordAmong_of_known known]
    | none =>
      have listed : x.key ∈ pending := by
        by_contra closed
        exact recalls x.key bound.key_mem closed known
      have shorter := Pending.length_without_lt listed
      have rest : ∀ key ∈ Pending.without pending x.key, key ∈ P.classes :=
        fun key member => own key (List.mem_of_mem_filter member)
      rw [recordAmong_of_unknown known listed]
      unfold recordCall
      have known : c.records.lookup ⟨x.1, x.2.pos⟩ = none := known
      rw [runFrom_get_bind, runFrom_get_bind]
      simp only [known]
      refine runFrom_bind_congr rfl fun _ f remembered => ?_
      obtain rfl := (returns_modify_iff _ _).mp remembered
      refine runFrom_bind_congr ?_ fun _ _ _ => rfl
      refine runFrom_readForm_congr (recalls.look x.key) ?_ fun y inherits c recalls => ?_
      · exact fun _ _ _ _ _ answered => grows_of_recordAmong rest answered
      · exact ih rest (by omega) recalls inherits.binds

end Program

/-! ### A journal of classes -/

abbrev JournalM := ExceptT Fault (StateM (CheckState × List Declared))

namespace JournalM

variable {α : Type}

def ask (question : CheckM α) : JournalM α := fun s =>
  let (answer, d) := runFrom question s.1
  (answer, (d, s.2))

def note (x : Declared) : JournalM PUnit := modify fun s => (s.1, s.2 ++ [x])

theorem runFrom_ask (question : CheckM α) (c : CheckState) (journal : List Declared) :
    runFrom (ask question) (c, journal) =
      ((runFrom question c).1, ((runFrom question c).2, journal)) := rfl

theorem runFrom_ask_bind_pure {β : Type} (question : CheckM α) (f : α → β) (c : CheckState)
    (journal : List Declared) :
    runFrom (ask question >>= fun a => pure (f a)) (c, journal) =
      ((runFrom (question >>= fun a => pure (f a)) c).1,
        ((runFrom (question >>= fun a => pure (f a)) c).2, journal)) := by
  rw [runFrom_bind, runFrom_ask, runFrom_bind]
  match runFrom question c with
  | (.ok _, _) | (.error _, _) => rfl

end JournalM

/-- Asked with a journal, the question is the same. It notes classes that were not seen before, each
once, and once it is answered they are all seen. -/
def Keeps {α : Type} (seen : List ClassKey) (after : α → List ClassKey) (journaled : JournalM α)
    (question : CheckM α) (c : CheckState) : Prop :=
  ∀ journal, ∃ new, runFrom journaled (c, journal) =
      ((runFrom question c).1, ((runFrom question c).2, journal ++ new)) ∧
    (new.map Declared.key).Nodup ∧ (∀ x ∈ new, x.key ∉ seen) ∧
    ∀ a d, Returns question c a d → seen ⊆ after a ∧ ∀ x ∈ new, x.key ∈ after a

namespace Keeps

variable {α β : Type} {seen : List ClassKey} {after : α → List ClassKey} {c : CheckState}

theorem of_silent {journaled : JournalM α} {question : CheckM α}
    (same : ∀ journal, runFrom journaled (c, journal) =
      ((runFrom question c).1, ((runFrom question c).2, journal)))
    (wider : ∀ a d, Returns question c a d → seen ⊆ after a) :
    Keeps seen after journaled question c := by
  intro journal
  refine ⟨[], ?_, List.nodup_nil, List.forall_mem_nil _, fun a d answered => ?_⟩
  · rw [same, List.append_nil]
  · exact ⟨wider a d answered, List.forall_mem_nil _⟩

theorem ask (question : CheckM α) : Keeps seen (fun _ => seen) (.ask question) question c :=
  of_silent (fun _ => rfl) fun _ _ _ => List.Subset.refl _

theorem pure {a : α} (wider : seen ⊆ after a) : Keeps seen after (pure a) (pure a) c := by
  refine of_silent (fun _ => rfl) fun b d answered => ?_
  obtain ⟨rfl, rfl⟩ := (returns_pure_iff _ _).mp answered
  exact wider

theorem bind {journaled : JournalM α} {question : CheckM α} {next : α → JournalM β}
    {rest : α → CheckM β} {last : β → List ClassKey} (first : Keeps seen after journaled question c)
    (later : ∀ a d, Returns question c a d → seen ⊆ after a →
      Keeps (after a) last (next a) (rest a) d) :
    Keeps seen last (journaled >>= next) (question >>= rest) c := by
  intro journal
  obtain ⟨new, ran, distinct, fresh, seen'⟩ := first journal
  match answered : runFrom question c with
  | (.error fault, d) =>
    have stopped : runFrom (question >>= rest) c = (.error fault, d) := by
      rw [runFrom_bind, answered]
    refine ⟨new, ?_, distinct, fresh, fun b e returned => ?_⟩
    · rw [runFrom_bind, ran, stopped, answered]
    · cases returned.symm.trans stopped
  | (.ok a, d) =>
    obtain ⟨wider, noted⟩ := seen' a d answered
    obtain ⟨more, ran', distinct', fresh', seen''⟩ := later a d answered wider (journal ++ new)
    have went : runFrom (question >>= rest) c = runFrom (rest a) d :=
      runFrom_bind_of_returns answered
    refine ⟨new ++ more, ?_, ?_, ?_, fun b e returned => ?_⟩
    · rw [runFrom_bind, ran, went, answered, ← List.append_assoc]
      exact ran'
    · rw [List.map_append]
      refine distinct.append distinct' fun key early late => ?_
      obtain ⟨x, member, rfl⟩ := List.mem_map.mp early
      obtain ⟨y, later, same⟩ := List.mem_map.mp late
      exact fresh' y later (same ▸ noted x member)
    · refine List.forall_mem_append.mpr ⟨fresh, fun x member old => ?_⟩
      exact fresh' x member (wider old)
    · have returned : Returns (rest a) d b e := went.symm.trans returned
      obtain ⟨widest, later⟩ := seen'' b e returned
      exact ⟨List.Subset.trans wider widest, List.forall_mem_append.mpr
        ⟨fun x member => widest (noted x member), later⟩⟩

theorem node {x : Declared} {journaled : JournalM (α × List ClassKey)}
    {question : CheckM (α × List ClassKey)} (own : α → CheckM β) (fresh : x.key ∉ seen)
    (above : Keeps (x.key :: seen) Prod.snd journaled question c) :
    Keeps seen Prod.snd
      (do
        let (inherited, seen) ← journaled
        JournalM.note x
        return (← JournalM.ask (own inherited), seen))
      (do
        let (inherited, seen) ← question
        return (← own inherited, seen)) c := by
  intro journal
  obtain ⟨new, ran, distinct, old, seen'⟩ := above journal
  have before : ∀ y ∈ new, y.key ∉ seen := fun y member inside =>
    old y member (List.mem_cons_of_mem _ inside)
  match answered : runFrom question c with
  | (.error fault, d) =>
    refine ⟨new, ?_, distinct, before, fun a e returned => ?_⟩
    · rw [runFrom_bind, runFrom_bind, ran, answered]
    · rw [Returns, runFrom_bind, answered] at returned
      cases returned
  | (.ok (inherited, later), d) =>
    obtain ⟨wider, noted⟩ := seen' _ d answered
    have apart : x.key ∉ new.map Declared.key := by
      intro again
      obtain ⟨y, member, same⟩ := List.mem_map.mp again
      exact old y member (same ▸ List.mem_cons_self)
    have went : runFrom (question >>= fun p => do return (← own p.1, p.2)) c =
        runFrom (do return (← own inherited, later)) d :=
      runFrom_bind_of_returns answered
    refine ⟨new ++ [x], ?_, ?_, ?_, fun a e returned => ?_⟩
    · rw [runFrom_bind, ran, answered, went, ← List.append_assoc]
      exact JournalM.runFrom_ask_bind_pure (own inherited) (·, later) d (journal ++ new ++ [x])
    · rw [List.map_append]
      exact distinct.append (List.nodup_singleton _) (by simpa using apart)
    · exact List.forall_mem_append.mpr ⟨before, List.forall_mem_singleton.mpr fresh⟩
    · have returned := went.symm.trans returned
      obtain ⟨members, f, _, returned⟩ := (returns_bind_iff _ _ _).mp returned
      obtain ⟨rfl, rfl⟩ := (returns_pure_iff _ _).mp returned
      refine ⟨fun key member => wider (List.mem_cons_of_mem _ member), ?_⟩
      exact List.forall_mem_append.mpr
        ⟨noted, List.forall_mem_singleton.mpr (wider List.mem_cons_self)⟩

end Keeps

namespace Program

variable {P : Program} {x : Declared} {pending seen : List ClassKey} {c d : CheckState}
  {file : Path} {scope : TypeVariables} {properties : Properties}

/-! ### The properties of a record -/

def collectParent (P : Program)
    (recur : List ClassKey → RecordSource → List Handle → JournalM (Properties × List ClassKey))
    (file : Path) (scope : TypeVariables) (state : Properties × List ClassKey) (base : Expr) :
    JournalM (Properties × List ClassKey) := do
  let (properties, seen) := state
  match ← JournalM.ask (P.find file base.base) with
  | .classDef home definition =>
    let record ← JournalM.ask (P.recordOf home definition)
    match record with
    | none => return state
    | some record =>
      if seen.contains ⟨home, definition.pos⟩ then return state
      let arguments ← JournalM.ask (P.baseArguments file scope base)
      let (inherited, seen) ← recur seen record arguments
      return (Pairs.putAll properties inherited, seen)
  | _ => return state

/-- The properties of a record and the classes seen so far, given how those of its bases are
collected, with a journal. -/
def collectCall (P : Program)
    (recur : List ClassKey → RecordSource → List Handle → JournalM (Properties × List ClassKey))
    (seen : List ClassKey) (source : RecordSource) (arguments : List Handle) :
    JournalM (Properties × List ClassKey) := do
  let scope := source.typeParameters.zip arguments
  match source.fields with
  | .ofDict (.dict _ items) => return (← JournalM.ask (P.dictFields source scope items), seen)
  | .ofDict _ => return ([], seen)
  | .ofClass definition =>
    let (inherited, seen) ← definition.bases.foldlM (P.collectParent recur source.file scope)
      ([], ⟨source.file, definition.pos⟩ :: seen)
    JournalM.note (source.file, definition)
    return (← JournalM.ask (P.ownFields source scope inherited definition.body), seen)

/-- Each class of the program is pending or seen. -/
def Covered (P : Program) (pending seen : List ClassKey) : Prop :=
  ∀ key ∈ P.classes, key ∉ pending → key ∈ seen

/-- The record is read off a class that a name is bound to and that was not seen, if it is read off
a class. -/
def Unseen (P : Program) (seen : List ClassKey) (source : RecordSource) : Prop :=
  ∀ definition, source.fields = .ofClass definition →
    P.Binds (source.file, definition) ∧ Declared.key (source.file, definition) ∉ seen

theorem Credible.of {record : RecordSource} (credible : P.Credible x (some record)) :
    record.Of x := by
  rw [credible.eq_ownRecord]
  exact ⟨rfl, rfl⟩

variable {recur : List ClassKey → RecordSource → List Handle → CheckM (Properties × List ClassKey)}
  {journaled : List ClassKey → RecordSource → List Handle →
    JournalM (Properties × List ClassKey)}

theorem keeps_parent (placed : P.Placed) (trusty : P.Trusty [] c)
    (below : ∀ source arguments c, P.Trusty [] c → P.Unseen seen source →
      Keeps seen Prod.snd (journaled seen source arguments) (recur seen source arguments) c)
    (base : Expr) :
    Keeps seen Prod.snd (P.collectParent journaled file scope (properties, seen) base)
      (P.afterParent recur file scope (properties, seen) base) c := by
  have closed := closed_credibly placed
  have all (h : Handle) : h.In P.credibly := h.in_of_all (fun _ _ => trivial) fun _ => trivial
  have skip {c : CheckState} : Keeps seen (fun state : Properties × List ClassKey => state.2)
      (pure (properties, seen)) (pure (properties, seen)) c := .pure (List.Subset.refl _)
  unfold collectParent afterParent
  refine (Keeps.ask _).bind fun found d asked _ => ?_
  obtain ⟨looked, trusty⟩ := (closed.find trivial).of_returns asked trusty
  cases found with
  | classDef home definition =>
    have bound : P.Binds (home, definition) := grounds_lookupExpr looked
    refine (Keeps.ask _).bind fun record e told _ => ?_
    obtain ⟨credible, trusty⟩ := (careful_recordOf placed bound).of_returns told trusty
    cases record with
    | none => exact skip
    | some record =>
      dsimp only
      split
      · exact skip
      · rename_i fresh
        refine (Keeps.ask _).bind fun arguments f argued _ => ?_
        obtain ⟨_, trusty⟩ := (closed.baseArguments (fun v _ => all v.2)
          fun _ _ _ _ _ _ _ _ => trivial).of_returns argued trusty
        have unseen : P.Unseen seen record := by
          intro definition' fields
          obtain ⟨file, same⟩ := credible.of
          cases fields.symm.trans same
          rw [file]
          exact ⟨bound, fun inside => fresh (List.contains_iff_mem.mpr inside)⟩
        refine (below record arguments f trusty unseen).bind fun result g walked wider => ?_
        exact .pure (List.Subset.refl _)
  | _ => exact skip

theorem keeps_parents (placed : P.Placed)
    (below : ∀ seen source arguments c, P.Covered pending seen → P.Trusty [] c →
      P.Unseen seen source →
      Keeps seen Prod.snd (journaled seen source arguments) (recur seen source arguments) c)
    (moves : ∀ seen source arguments, P.credibly.Asks (recur seen source arguments) fun _ => True)
    (covered : P.Covered pending seen) (trusty : P.Trusty [] c) (bases : List Expr) :
    Keeps seen Prod.snd (bases.foldlM (P.collectParent journaled file scope) (properties, seen))
      (bases.foldlM (P.afterParent recur file scope) (properties, seen)) c := by
  have closed := closed_credibly placed
  have all (h : Handle) : h.In P.credibly := h.in_of_all (fun _ _ => trivial) fun _ => trivial
  induction bases generalizing properties seen c with
  | nil => exact .pure (List.Subset.refl _)
  | cons base rest ih =>
    rw [List.foldlM_cons, List.foldlM_cons]
    have first : Keeps seen Prod.snd (P.collectParent journaled file scope (properties, seen) base)
        (P.afterParent recur file scope (properties, seen) base) c :=
      keeps_parent placed trusty (fun source arguments c => below seen source arguments c covered)
        base
    refine first.bind fun state d walked wider => ?_
    have kept := (closed.afterParent (fun seen _ source arguments _ _ =>
        (moves seen source arguments).mono fun result _ m _ => all m.2)
      (fun v _ => all v.2) (fun m _ => all m.2) trivial fun _ _ _ _ _ _ _ _ => trivial).of_returns
      walked trusty
    exact ih (fun key own pended => wider (covered key own pended)) kept.2

theorem keeps_collect (placed : P.Placed)
    (journaled : List ClassKey → RecordSource → List Handle → JournalM (Properties × List ClassKey))
    {depth : Nat} (enough : pending.length < depth) (covered : P.Covered pending seen)
    (trusty : P.Trusty [] c) {source : RecordSource} (unseen : P.Unseen seen source)
    (arguments : List Handle) :
    Keeps seen Prod.snd (P.collectCall^[depth] journaled seen source arguments)
      (P.propertiesAmong pending seen source arguments) c := by
  induction depth generalizing pending seen source arguments c with
  | zero => cases enough
  | succ depth ih =>
    rw [Function.iterate_succ_apply', collectCall, propertiesAmong]
    cases fields : source.fields with
    | ofDict e =>
      cases e with
      | dict _ items =>
        exact (Keeps.ask _).bind fun members d read _ => .pure (List.Subset.refl _)
      | _ => exact .pure (List.Subset.refl _)
    | ofClass definition =>
      obtain ⟨bound, fresh⟩ := unseen definition fields
      have listed : (⟨source.file, definition.pos⟩ : ClassKey) ∈ pending := by
        by_contra closed
        exact fresh (covered _ bound.key_mem closed)
      have shorter := Pending.length_without_lt listed
      simp only [dif_pos listed]
      have all (h : Handle) : h.In P.credibly := h.in_of_all (fun _ _ => trivial) fun _ => trivial
      have covered : P.Covered (Pending.without pending ⟨source.file, definition.pos⟩)
          (⟨source.file, definition.pos⟩ :: seen) := by
        intro key own closed
        by_cases same : key = ⟨source.file, definition.pos⟩
        · exact same ▸ List.mem_cons_self
        · refine List.mem_cons_of_mem _ (covered key own fun inside => closed ?_)
          exact List.mem_filter.mpr ⟨inside, by simpa using same⟩
      refine Keeps.node (fun inherited => P.ownFields source
        (source.typeParameters.zip arguments) inherited definition.body) fresh ?_
      refine keeps_parents placed (fun seen source arguments c covered trusty unseen => ?_)
        (fun seen source arguments => ?_) covered trusty definition.bases
      · exact ih (by omega) covered trusty unseen arguments
      · have record : P.credibly.record ⟨"", []⟩ source := trivial
        exact ((closed_credibly placed).propertiesAmong _ seen record fun h _ => all h).mono
          fun _ _ => trivial

/-- One call more than the program has classes is enough to ask for any of its classes and to
collect the properties of any of its records, so both end; and of no class the own fields are
collected twice. -/
theorem walks_end (parsed : P.Parsed) (asked : P.Asked c) :
    (∀ x recur, P.Binds x →
      runFrom (P.recordCall^[P.classes.length + 1] recur x.1 x.2) c =
        runFrom (P.recordOf x.1 x.2) c) ∧
    ∀ source arguments recur,
      (∀ definition, source.fields = .ofClass definition → P.Binds (source.file, definition)) →
      ∃ collected, (collected.map Declared.key).Nodup ∧
        runFrom (Prod.fst <$> P.collectCall^[P.classes.length + 1] recur [] source arguments)
            (c, []) =
          ((runFrom (P.propertiesOf source arguments) c).1,
            ((runFrom (P.propertiesOf source arguments) c).2, collected)) := by
  constructor
  · intro x recur bound
    refine runFrom_recordCall (fun _ => id) (Nat.lt_succ_self _) (fun key own closed => ?_) bound
    exact absurd own closed
  · intro source arguments recur own
    have unseen : P.Unseen [] source :=
      fun definition fields => ⟨own definition fields, List.not_mem_nil⟩
    obtain ⟨collected, ran, distinct, _⟩ := keeps_collect parsed.placed recur
      (Nat.lt_succ_self P.classes.length) (fun key own closed => absurd own closed)
      (asked.trusty parsed.placed) unseen arguments []
    refine ⟨collected, distinct, ?_⟩
    rw [map_eq_pure_bind, runFrom_bind, ran, propertiesOf, runFrom_bind]
    match runFrom (P.propertiesAmong P.classes [] source arguments) c with
    | (.ok _, _) | (.error _, _) => rfl

theorem parsed_ofModules {modules : List (String × List String)}
    (named : ∀ m ∈ modules, let path := (⟨.root, ["app"]⟩ : Path) / m.1
      Path.ofString path.toString = path) : (Program.ofModules modules).Parsed := by
  constructor
  · simp only [ofModules, List.map_map]
    exact List.forall_mem_map.mpr named
  · simp only [ofModules, List.map_map]
    refine List.forall_mem_map.mpr fun m _ => ?_
    exact ⟨rfl, fun _ parsed => ⟨_, _, parsed⟩⟩

def keysFor (P : Program) (x : Declared) : CheckM (List String) := do
  match ← P.recordOf x.1 x.2 with
  | some source => return Pairs.keys (← P.propertiesOf source [])
  | none => return []

theorem returns_keysFor {keys : List String} (nonempty : keys ≠ [])
    (returned : Returns (P.keysFor x) c keys d) : ∃ source m properties,
      Returns (P.recordOf x.1 x.2) c (some source) m ∧
      Returns (P.propertiesOf source []) m properties d ∧ Pairs.keys properties = keys := by
  obtain ⟨record, m, told, returned⟩ := (returns_bind_iff _ _ _).mp returned
  cases record with
  | none => exact absurd ((returns_pure_iff _ _).mp returned).1 nonempty
  | some source =>
    obtain ⟨properties, n, read, returned⟩ := (returns_bind_iff _ _ _).mp returned
    obtain ⟨rfl, rfl⟩ := (returns_pure_iff _ _).mp returned
    exact ⟨source, m, properties, told, read, rfl⟩

/-- Classes that are bases of each other in two modules, one that is a base of itself, two that
share a base, and one that is declared again by its own name. -/
def tangle : Program := .ofModules [
  ("functions.py", [
    "from typing import TypedDict",
    "from models import Outer",
    "class Loop(Loop, TypedDict):",
    "    a: int",
    "class Base(TypedDict):",
    "    b: int",
    "class Left(Base):",
    "    c: int",
    "class Right(Base):",
    "    d: int",
    "class Inner(Outer, Base):",
    "    e: int",
    "class Twice(Left):",
    "    f: int",
    "class Twice(Twice, Left, Right, Inner, Loop):",
    "    g: int"]),
  ("models.py", [
    "from typing import TypedDict",
    "from functions import Inner",
    "class Outer(Inner, TypedDict):",
    "    h: int"])]

theorem walks_end_tangle :
    ∃ x source c properties d, tangle.Parsed ∧ tangle.Asked c ∧ tangle.Binds x ∧ source.Of x ∧
      (∀ recur, runFrom (tangle.recordCall^[tangle.classes.length + 1] recur x.1 x.2)
        (.start tangle) = (.ok (some source), c)) ∧
      Pairs.keys properties = ["b", "c", "d", "h", "e", "a", "g"] ∧
      ∀ recur, ∃ collected, (collected.map Declared.key).Nodup ∧
        runFrom (Prod.fst <$> tangle.collectCall^[tangle.classes.length + 1] recur [] source [])
          (c, []) = (.ok properties, (d, collected)) := by
  have parsed : tangle.Parsed := parsed_ofModules (by decide +kernel)
  have shown : (tangle.classNamed? "Twice").map
      (fun x => (runFrom (tangle.keysFor x) (.start tangle)).1) =
        some (.ok ["b", "c", "d", "h", "e", "a", "g"]) := by
    decide +kernel
  obtain ⟨x, named, answered⟩ := Option.map_eq_some_iff.mp shown
  have bound : tangle.Binds x := binds_of_classNamed? named
  obtain ⟨d, returned⟩ : ∃ d, Returns (tangle.keysFor x) (.start tangle) _ d :=
    ⟨_, returns_of_ok answered⟩
  obtain ⟨source, c, properties, told, read, keys⟩ :=
    returns_keysFor (List.cons_ne_nil _ _) returned
  have start : tangle.Asked (.start tangle) := .start rfl
  have asked : tangle.Asked c := start.next (.recordOf bound) told
  have of : source.Of x :=
    ((careful_recordOf parsed.placed bound).of_returns told (start.trusty parsed.placed)).1.of
  have own : ∀ definition, source.fields = .ofClass definition →
      tangle.Binds (source.file, definition) := by
    intro definition fields
    cases of.fields.symm.trans fields
    rw [of.file]
    exact bound
  refine ⟨x, source, c, properties, d, parsed, asked, bound, of, fun recur => ?_, keys,
    fun recur => ?_⟩
  · exact ((walks_end parsed start).1 x recur bound).trans told
  · obtain ⟨collected, distinct, ran⟩ := (walks_end parsed asked).2 source [] recur own
    exact ⟨collected, distinct, by rw [ran, read]⟩

end Program

end HintSchema

import Mathlib.Data.List.Forall2
import HintSchema.Hints.Checking
import HintSchema.Proofs.Returns

/-!
Questions that are settled once they are answered. What is known of a class stays, so the same
question has the same answer at any later time.
-/

namespace HintSchema

theorem forall_mem_of_forall₂ {α β : Type} {Q : β → Prop} {as : List α} {bs : List β}
    (related : List.Forall₂ (fun _ b => Q b) as bs) : ∀ b ∈ bs, Q b := by
  induction related with
  | nil => exact List.forall_mem_nil _
  | cons first _ ih => exact List.forall_mem_cons.mpr ⟨first, ih⟩

namespace CheckState

/-- The later state knows of each class what the earlier one knows, and no more than that of a class
which is not the program's. -/
structure Grows (P : Program) (c d : CheckState) : Prop where
  known : ∀ key record, c.records.lookup key = some record → d.records.lookup key = some record
  foreign : ∀ key, key ∉ P.classes → d.records.lookup key = c.records.lookup key

namespace Grows

variable {P : Program} {c d e : CheckState}

theorem of_records_eq (same : d.records = c.records) : c.Grows P d :=
  ⟨fun _ _ => by rw [same]; exact id, fun _ _ => by rw [same]⟩

theorem refl (c : CheckState) : c.Grows P c := of_records_eq rfl

theorem trans (first : c.Grows P d) (second : d.Grows P e) : c.Grows P e :=
  ⟨fun key record found => second.known key record (first.known key record found),
    fun key foreign => (second.foreign key foreign).trans (first.foreign key foreign)⟩

theorem of_records_eq_right (grown : c.Grows P d) (same : e.records = d.records) : c.Grows P e :=
  grown.trans (of_records_eq same)

end Grows

theorem openAll_cons (c : CheckState) (path : Path) (rest : List Path) :
    c.openAll (path :: rest) = (c.openAll [path]).openAll rest := rfl

theorem opened_openAll_singleton (c : CheckState) (path : Path) :
    (c.openAll [path]).opened =
      if c.opened.contains path then c.opened else c.opened ++ [path] := rfl

theorem mem_openAll {c : CheckState} {paths : List Path} {path : Path} :
    path ∈ (c.openAll paths).opened ↔ path ∈ c.opened ∨ path ∈ paths := by
  induction paths generalizing c with
  | nil => simp [openAll]
  | cons first rest ih =>
    have one : path ∈ (c.openAll [first]).opened ↔ path ∈ c.opened ∨ path = first := by
      rw [opened_openAll_singleton]
      split
      · rename_i known
        have inside := List.contains_iff_mem.mp known
        constructor
        · exact .inl
        · rintro (old | rfl)
          · exact old
          · exact inside
      · rw [List.mem_append, List.mem_singleton]
    rw [openAll_cons, ih, one, List.mem_cons, or_assoc]

end CheckState

/-- Each answer to the question satisfies `R`, and asked again later the question has the same
answer and teaches nothing new. -/
def Settles {α : Type} (P : Program) (question : CheckM α) (R : α → Prop) : Prop :=
  ∀ c a d, Returns question c a d → R a ∧ c.Grows P d ∧
    ∀ e, d.Grows P e → ∃ f, Returns question e a f ∧ f.records = e.records

namespace Settles

variable {P : Program} {α β : Type}

theorem of_steady {question : CheckM α} {R : α → Prop}
    (steady : ∀ c a d, Returns question c a d → R a ∧ d.records = c.records ∧
      ∀ e, ∃ f, Returns question e a f ∧ f.records = e.records) : Settles P question R := by
  intro c a d answered
  obtain ⟨right, same, again⟩ := steady c a d answered
  exact ⟨right, .of_records_eq same, fun e _ => again e⟩

theorem pure {a : α} {R : α → Prop} (right : R a) : Settles P (pure a) R := by
  apply of_steady
  intro c b d answered
  obtain ⟨rfl, rfl⟩ := (returns_pure_iff _ _).mp answered
  exact ⟨right, rfl, fun e => ⟨e, (returns_pure_iff _ _).mpr ⟨rfl, rfl⟩, rfl⟩⟩

theorem throw {fault : Fault} {R : α → Prop} : Settles P (throw fault : CheckM α) R := by
  intro c a d answered
  cases (returns_throw_iff _ _).mp answered

theorem bind {question : CheckM α} {next : α → CheckM β} {Q : α → Prop} {R : β → Prop}
    (first : Settles P question Q) (second : ∀ a, Q a → Settles P (next a) R) :
    Settles P (question >>= next) R := by
  intro c b d answered
  obtain ⟨a, m, asked, later⟩ := (returns_bind_iff _ _ _).mp answered
  obtain ⟨right, begun, askedAgain⟩ := first c a m asked
  obtain ⟨result, ended, laterAgain⟩ := second a right m b d later
  refine ⟨result, begun.trans ended, ?_⟩
  intro e grown
  obtain ⟨f, asked, same⟩ := askedAgain e (ended.trans grown)
  obtain ⟨g, later, still⟩ := laterAgain f (grown.of_records_eq_right same)
  exact ⟨g, (returns_bind_iff _ _ _).mpr ⟨a, f, asked, later⟩, still.trans same⟩

theorem mono {question : CheckM α} {R S : α → Prop} (settled : Settles P question R)
    (weaker : ∀ a, R a → S a) : Settles P question S := by
  intro c a d answered
  obtain ⟨right, rest⟩ := settled c a d answered
  exact ⟨weaker a right, rest⟩

theorem and {question : CheckM α} {Q R : α → Prop} (first : Settles P question Q)
    (second : Settles P question R) : Settles P question fun a => Q a ∧ R a := by
  intro c a d answered
  obtain ⟨right, rest⟩ := first c a d answered
  exact ⟨⟨right, (second c a d answered).1⟩, rest⟩

theorem map {question : CheckM α} {f : α → β} {R : β → Prop}
    (asked : Settles P question fun a => R (f a)) : Settles P (f <$> question) R := by
  rw [map_eq_pure_bind]
  exact asked.bind fun a right => .pure right

theorem mapM {f : α → CheckM β} {items : List α} {R : β → Prop}
    (each : ∀ item ∈ items, Settles P (f item) R) :
    Settles P (items.mapM f) fun results => ∀ b ∈ results, R b := by
  induction items with
  | nil => exact .pure (List.forall_mem_nil _)
  | cons item rest ih =>
    rw [List.mapM_cons]
    apply (each item List.mem_cons_self).bind
    intro b first
    apply (ih fun item member => each item (List.mem_cons_of_mem _ member)).bind
    intro results others
    exact .pure (List.forall_mem_cons.mpr ⟨first, others⟩)

theorem mapM_forall₂ {f : α → CheckM β} {items : List α} {R : α → β → Prop}
    (each : ∀ item ∈ items, Settles P (f item) (R item)) :
    Settles P (items.mapM f) (List.Forall₂ R items) := by
  induction items with
  | nil => exact .pure .nil
  | cons item rest ih =>
    rw [List.mapM_cons]
    apply (each item List.mem_cons_self).bind
    intro b first
    apply (ih fun item member => each item (List.mem_cons_of_mem _ member)).bind
    intro results others
    exact .pure (.cons first others)

theorem foldlM {f : β → α → CheckM β} {items : List α} {R : β → Prop} {b : β} (start : R b)
    (each : ∀ item ∈ items, ∀ b, R b → Settles P (f b item) R) :
    Settles P (items.foldlM f b) R := by
  induction items generalizing b with
  | nil => exact .pure start
  | cons item rest ih =>
    rw [List.foldlM_cons]
    apply (each item List.mem_cons_self b start).bind
    intro b next
    exact ih next fun item member => each item (List.mem_cons_of_mem _ member)

end Settles

/-- The question has the answer in this state and ever after, and teaches nothing new. -/
def Stands {α : Type} (P : Program) (z : CheckState) (question : CheckM α) (a : α) : Prop :=
  ∀ e, z.Grows P e → ∃ f, Returns question e a f ∧ f.records = e.records

namespace Stands

variable {P : Program} {z d : CheckState} {α β : Type} {question : CheckM α} {a : α}

theorem of_settles {R : α → Prop} {c : CheckState} (settles : Settles P question R)
    (answered : Returns question c a d) : Stands P d question a :=
  (settles c a d answered).2.2

theorem mono (stands : Stands P z question a) (later : z.Grows P d) : Stands P d question a :=
  fun e further => stands e (later.trans further)

theorem pure : Stands P z (pure a : CheckM α) a :=
  fun e _ => ⟨e, (returns_pure_iff ..).mpr ⟨rfl, rfl⟩, rfl⟩

theorem bind {next : α → CheckM β} {b : β} (first : Stands P z question a)
    (second : Stands P z (next a) b) : Stands P z (question >>= next) b := by
  intro e later
  obtain ⟨f, asked, same⟩ := first e later
  obtain ⟨g, answered, still⟩ := second f (later.of_records_eq_right same)
  exact ⟨g, (returns_bind_iff ..).mpr ⟨a, f, asked, answered⟩, still.trans same⟩

theorem map {f : α → β} (stands : Stands P z question a) : Stands P z (f <$> question) (f a) := by
  rw [map_eq_pure_bind]
  exact stands.bind .pure

end Stands

theorem PrintFault.settles_lift (P : Program) {α : Type} (written : Except PrintFault α) :
    Settles P (lift written) fun _ => True := by
  cases written with
  | ok => exact .pure trivial
  | error => exact .throw

namespace Program

theorem settles_openAll (P : Program) (paths : List Path) :
    Settles P (modify (·.openAll paths) : CheckM PUnit) fun _ => True := by
  apply Settles.of_steady
  intro c a d answered
  obtain rfl := (returns_modify_iff _ _).mp answered
  exact ⟨trivial, rfl, fun e => ⟨_, (returns_modify_iff _ _).mpr rfl, rfl⟩⟩

theorem settles_find (P : Program) (file : Path) (expr : Expr) :
    Settles P (P.find file expr) fun _ => True := by
  unfold find
  exact (settles_openAll P _).bind fun _ _ => PrintFault.settles_lift P _

theorem settles_findName (P : Program) (file : Path) (name : String) :
    Settles P (P.findName file name) fun _ => True := by
  unfold findName
  exact (settles_openAll P _).bind fun _ _ => .pure trivial

theorem settles_typeVariables (P : Program) (file : Path) (expr : Expr) (known : List String) :
    Settles P (P.typeVariables file expr known) fun _ => True := by
  unfold typeVariables
  apply Settles.foldlM trivial
  intro name _ known _
  split
  · exact .pure trivial
  · apply (settles_findName P file name).bind
    intro found _
    split <;> exact .pure trivial

end Program

theorem Handle.settles_display (P : Program) (h : Handle) : Settles P h.display fun _ => True :=
  PrintFault.settles_lift P _

namespace Expr

theorem settles_source (P : Program) (e : Expr) : Settles P e.source fun _ => True :=
  PrintFault.settles_lift P _

theorem settles_ofQuoted? (P : Program) (text : CodeText) :
    Settles P (Expr.ofQuoted? text) fun _ => True := by
  unfold Expr.ofQuoted?
  split
  · exact .throw
  · dsimp only
    split
    · exact .throw
    · exact .pure trivial

end Expr

end HintSchema

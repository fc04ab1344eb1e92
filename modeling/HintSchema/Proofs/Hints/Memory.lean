import HintSchema.Proofs.Hints.Inheritance
import HintSchema.Proofs.Hints.Realm

/-!
Reading the record of a class off its decorators and its bases. The record that is remembered has the
type variables of the bases for its parameters; what else is held of it only depends on its kind, and
is held of all records that are read if that is so for each way of coming to a kind
(`Realm.Remembers.recordAmong`).
-/

namespace HintSchema

namespace Program

def afterParameters (P : Program) (file : Path) (known : List String) : Expr → List String
  | .subscript _ _ index => P.variablesOf file index known
  | _ => known

def parametersOf (P : Program) (x : Declared) : List String :=
  x.2.bases.foldl (P.afterParameters x.1) []

/-- The record of the kind that the class declares. -/
def recordOfClass (P : Program) (kind : RecordKind) (x : Declared) : RecordSource where
  kind := kind
  file := x.1
  fields := .ofClass x.2
  name := some x.2.name
  typeParameters := P.parametersOf x
  total := Keyword.total x.2.keywords

end Program

namespace RecordForm

/-- What is known of the class after some of its bases: the type variables so far, and what is held
of its record if the kind so far is the last word. -/
structure ReadSoFar (P : Program) (held : RecordSource → Prop) (x : Declared) (known : List String)
    (form : RecordForm) : Prop where
  typeParameters : form.typeParameters = known
  held : ∀ kind, form.kind = some kind → held (P.recordOfClass kind x)

variable {P : Program} {held : RecordSource → Prop} {x : Declared} {known : List String}
  {form : RecordForm}

theorem ReadSoFar.of_kind (read : form.ReadSoFar P held x known) {kind : RecordKind}
    (right : held (P.recordOfClass kind x)) :
    ReadSoFar P held x known { form with kind := some kind } :=
  ⟨read.typeParameters, fun _ same => Option.some.inj same ▸ right⟩

theorem ReadSoFar.finish (read : form.ReadSoFar P held x (P.parametersOf x))
    {record : RecordSource} (finished : form.finish x.1 x.2 = some record) : held record := by
  obtain ⟨kind, same, rfl⟩ := Option.map_eq_some_iff.mp finished
  have right := read.held kind same
  rw [Program.recordOfClass, ← read.typeParameters] at right
  exact right

end RecordForm

namespace Realm

/-- Of the records of the classes that are met the realm remembers what is held of them. -/
structure Remembers {P : Program} (W : Realm P) (met : Declared → Prop)
    (held : Declared → RecordSource → Prop) : Prop extends W.Searched where
  mentions : ∀ {x e}, met x → (Bound.classDef x.2).Mentions P x.1 e → W.reads x.1 e
  inherits : ∀ {x y}, met x → P.Inherits x y → met y
  remember : ∀ {c x record}, W.state c → met x → (∀ source, record = some source → held x source) →
    W.state (c.remember x.key record)
  known : ∀ {c x record}, W.state c → met x → c.records.lookup x.key = some (some record) →
    held x record
  plain : ∀ {x kind}, met x → ¬ kind.isTypedDict → held x (P.recordOfClass kind x)
  own : ∀ {x base}, met x → base ∈ x.2.bases →
    (P.lookupExpr x.1 base.base).1 = .ok (.special "typing.TypedDict") →
    held x (P.recordOfClass .typedDict x)
  inherited : ∀ {x y record}, met x → P.Inherits x y → held y record → record.kind = .typedDict →
    held x (P.recordOfClass .typedDict x)

namespace Remembers

variable {P : Program} {W : Realm P} {met : Declared → Prop} {held : Declared → RecordSource → Prop}
  {x : Declared} {known : List String} {form : RecordForm}

theorem afterDecorator (remembers : W.Remembers met held) (here : met x) {decorator : Expr}
    (member : decorator ∈ x.2.decorators) (read : form.ReadSoFar P (held x) x known) :
    W.Asks (form.afterDecorator P x.1 decorator) (RecordForm.ReadSoFar P (held x) x known) := by
  unfold RecordForm.afterDecorator
  apply (remembers.find (remembers.mentions here (.decorator member))).bind
  intro found _
  split
  · exact .pure (read.of_kind (remembers.plain here nofun))
  · exact .pure read

theorem afterParameters (remembers : W.Remembers met held) (here : met x) {base : Expr}
    (member : base ∈ x.2.bases) (read : form.ReadSoFar P (held x) x known) :
    W.Asks (form.afterParameters P x.1 base)
      (RecordForm.ReadSoFar P (held x) x (P.afterParameters x.1 known base)) := by
  unfold RecordForm.afterParameters
  split
  · rename_i pos value index
    apply (remembers.typeVariables fun name named place =>
      remembers.mentions here (.parameter member named)).bind
    rintro _ rfl
    exact .pure ⟨by rw [read.typeParameters]; rfl, read.held⟩
  · rename_i plain
    unfold Program.afterParameters
    split
    · exact absurd rfl (plain _ _ _)
    · exact .pure read

theorem afterBase (remembers : W.Remembers met held) (here : met x)
    {recur : Path → ClassDef Statement → CheckM (Option RecordSource)} {base : Expr}
    (below : ∀ y, met y → W.Asks (recur y.1 y.2) fun record =>
      ∀ source, record = some source → held y source)
    (member : base ∈ x.2.bases) (read : form.ReadSoFar P (held x) x known) :
    W.Asks (form.afterBase P recur x.1 base)
      (RecordForm.ReadSoFar P (held x) x (P.afterParameters x.1 known base)) := by
  unfold RecordForm.afterBase
  apply (remembers.find (remembers.mentions here (.record (.base member)))).bind
  intro found looked
  apply (remembers.afterParameters here member read).bind
  intro form read
  split
  · rename_i qualname
    unfold RecordForm.afterSpecial
    split
    · exact .pure (read.of_kind (remembers.own here member looked))
    · exact .pure (read.of_kind (remembers.plain here nofun))
    · exact .pure read
  · rename_i home parent
    have inherits : P.Inherits x (home, parent) := ⟨base, member, looked⟩
    split
    · exact .pure read
    · apply (below (home, parent) (remembers.inherits here inherits)).bind
      intro record above
      split
      · rename_i source
        split
        · rename_i typed
          exact .pure (read.of_kind (remembers.inherited here inherits (above source rfl) typed))
        · exact .pure read
      · exact .pure read
  · exact .pure read

/-- Asking for a class comes to a record of which is held what is remembered, if to any. -/
theorem recordAmong (remembers : W.Remembers met held) (pending : List ClassKey) (here : met x) :
    W.Asks (P.recordAmong pending x.1 x.2) fun record =>
      ∀ source, record = some source → held x source := by
  generalize length : pending.length = limit
  induction limit using Nat.strongRecOn generalizing pending x with
  | ind limit ih =>
    subst length
    rw [Program.recordAmong]
    refine Careful.bind Careful.get fun c inside => ?_
    split
    · rename_i record known
      refine .pure fun source same => remembers.known inside here ?_
      rw [← same]
      exact known
    · split
      · rename_i present
        have looking : ∀ source, none = some source → held x source :=
          fun _ impossible => by cases impossible
        refine Careful.bind (.modify fun c inside => remembers.remember inside here looking) ?_
        intro _ _
        refine Careful.bind (.foldlM (R := RecordForm.ReadSoFar P (held x) x [])
          ⟨rfl, fun _ impossible => by cases impossible⟩
          fun decorator member form => remembers.afterDecorator here member) fun form read => ?_
        refine Careful.bind (.foldlM_along _ read fun base member known form =>
          remembers.afterBase here (fun y there =>
            ih _ (Pending.length_without_lt present) _ there rfl) member) fun form read => ?_
        have finished : ∀ source, form.finish x.1 x.2 = some source → held x source :=
          fun source finished => read.finish finished
        refine Careful.bind (.modify fun c inside => remembers.remember inside here finished) ?_
        exact fun _ _ => .pure finished
      · exact .pure fun _ impossible => by cases impossible

theorem recordOf (remembers : W.Remembers met held) (here : met x) :
    W.Asks (P.recordOf x.1 x.2) fun record =>
      ∀ source, record = some source → held x source :=
  remembers.recordAmong P.classes here

end Remembers

end Realm

end HintSchema

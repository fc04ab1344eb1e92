import HintSchema.Proofs.Hints.Memory

/-!
What is remembered of classes is what the classes declare: a record that is remembered for a place is
the record of a class there, and it only counts as a typed dictionary if the class comes from one.
-/

namespace HintSchema

namespace Program

/-- The class comes from the base of all typed dictionaries. -/
inductive Dictionary (P : Program) : Declared → Prop
  | own {x : Declared} {base : Expr} (member : base ∈ x.2.bases)
      (found : (P.lookupExpr x.1 base.base).1 = .ok (.special "typing.TypedDict")) :
      Dictionary P x
  | inherited {x y : Declared} (inherits : P.Inherits x y) (above : Dictionary P y) :
      Dictionary P x

def Declares (P : Program) (x : Declared) (record : RecordSource) : Prop :=
  ∃ kind, record = P.recordOfClass kind x ∧ (kind.isTypedDict → P.Dictionary x)

variable {P : Program} {x : Declared} {record : RecordSource}

theorem Declares.dictionary (declares : P.Declares x record)
    (typed : record.kind.isTypedDict) :
    P.Dictionary x := by
  obtain ⟨kind, rfl, dictionary⟩ := declares
  exact dictionary typed

end Program

namespace CheckState

variable {P : Program} {c : CheckState} {x : Declared}

/-- Each record that is remembered for a place is what a class there declares. -/
def Faithful (P : Program) (c : CheckState) : Prop :=
  ∀ key record, c.records.lookup key = some (some record) →
    ∃ x, P.Binds x ∧ x.key = key ∧ P.Declares x record

theorem faithful_of_blank (blank : c.records = []) : c.Faithful P := by
  intro key record found
  rw [blank] at found
  cases found

theorem Faithful.remember (faithful : c.Faithful P) (bound : P.Binds x)
    {record : Option RecordSource}
    (declared : ∀ source, record = some source → P.Declares x source) :
    (c.remember x.key record).Faithful P := by
  intro other source found
  rw [lookup_remember] at found
  split at found
  · rename_i same
    exact ⟨x, bound, same.symm, declared source (Option.some.inj found)⟩
  · exact faithful other source found

theorem Faithful.declares (faithful : c.Faithful P) (placed : P.Placed) (bound : P.Binds x)
    {record : RecordSource} (known : c.records.lookup x.key = some (some record)) :
    P.Declares x record := by
  obtain ⟨y, other, same, declares⟩ := faithful _ _ known
  cases other.eq_of_key placed bound same
  exact declares

end CheckState

end HintSchema

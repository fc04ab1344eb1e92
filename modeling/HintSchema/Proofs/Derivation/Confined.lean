import HintSchema.Proofs.Derivation.Step
import HintSchema.Proofs.Hints.Confined

/-!
Conditions that handles keep in the course of a derivation. Derivations stay within any set of files
that no look-up for a name leaves, as far as the handles they start from are within it. What they
remember of classes is genuine.
-/

namespace HintSchema

theorem Handle.Within.of_record? {P : Program} {F : Path → Prop} {h : Handle}
    {source : RecordSource} {arguments : List Handle} (within : h.Within P F)
    (record : h.record? = some (source, arguments)) :
    source.Within P F ∧ ∀ part ∈ arguments, part.Within P F := by
  cases within with
  | record own parts =>
    cases record
    exact ⟨own, parts⟩
  | _ => cases record

namespace Derivation

variable {P : Program} {F : Path → Prop} {C : Calls} {path : TypePath} {handle : Handle}
  {s t : DerivationState} {o : Outcome}

theorem within_of_asking {α : Type} {question : CheckM α} {R : α → Prop} {a : α}
    (confined : Confined P F question R) (asked : Returns (asking question) s a t)
    (within : s.check.Within P F) : R a ∧ t.check.Within P F := by
  obtain ⟨c, answered, rfl⟩ := (returns_asking_iff ..).mp asked
  exact confined _ _ _ answered within

/-- A condition on handles in states, and how the states go on. The questions of a derivation lead
from handles that meet the condition to others that meet it, and what meets it meets it later. -/
structure Course (P : Program) (Met : CheckState → Handle → Prop)
    (Leads : CheckState → CheckState → Prop) : Prop where
  refl {c : CheckState} {h : Handle} : Met c h → Leads c c
  trans {c d e : CheckState} : Leads c d → Leads d e → Leads c e
  later {c d : CheckState} {h : Handle} : Leads c d → Met c h → Met d h
  element {c : CheckState} {name : String} {h : Handle} : Met c (.list name h) → Met c h
  member {c : CheckState} {members : List Handle} {h : Handle} :
    Met c (.union members) → h ∈ members → Met c h
  apparent {c d : CheckState} {h shown : Handle} :
    Met c h → Returns (P.apparent h) c shown d → Leads c d ∧ Met d shown
  properties {c d : CheckState} {h : Handle} {source : RecordSource} {arguments : List Handle}
    {members : Properties} : Met c h → h.record? = some (source, arguments) →
      Returns (P.propertiesOf source arguments) c members d →
      Leads c d ∧ ∀ m ∈ members, Met d m.2

namespace Course

variable {Met : CheckState → Handle → Prop} {Leads : CheckState → CheckState → Prop}

theorem walk (course : Course P Met Leads)
    (each : ∀ path handle s o t, C path handle s o t → Met s.check handle →
      Leads s.check t.check) {name : String} {members : Properties}
    {found whole : PropertyOutcomes} (walked : Walk C path name members found s whole t)
    (here : Leads s.check s.check) (met : ∀ m ∈ members, Met s.check m.2) :
    Leads s.check t.check := by
  induction walked with
  | done => exact here
  | next derived _ ih =>
    obtain ⟨first, others⟩ := List.forall_mem_cons.mp met
    have begun := each _ _ _ _ _ derived first
    exact course.trans begun (ih (course.refl (course.later begun first))
      fun m member => course.later begun (others m member))

theorem step (course : Course P Met Leads)
    (each : ∀ path handle s o t, C path handle s o t → Met s.check handle →
      Leads s.check t.check) (step : Step P C path handle s o t) (met : Met s.check handle) :
    Leads s.check t.check := by
  cases step with
  | unsupported | scalar | outside | known | conflict => exact course.refl met
  | list derived | listFailed derived => exact each _ _ _ _ _ derived (course.element met)
  | nullable split derived | nullableFailed split derived =>
    exact each _ _ _ _ _ derived (course.member met (Handle.mem_of_nullable? split))
  | registered record _ _ asked walked | evicted record _ _ asked walked =>
    obtain ⟨_, answered, rfl⟩ := (returns_asking_iff ..).mp asked
    obtain ⟨begun, members⟩ := course.properties met record answered
    have ended := course.walk each walked (course.refl (course.later begun met)) members
    exact course.trans begun ended

theorem of_returns (course : Course P Met Leads) {depth : Int}
    (returned : Returns (deriveType P depth path handle) s o t) (met : Met s.check handle) :
    Leads s.check t.check := by
  refine deriveType_induct (M := fun _ _ handle s _ t => Met s.check handle →
    Leads s.check t.check) ?_ returned met
  intro _ _ _ _ _ _ _ _ _ seen step met
  obtain ⟨_, answered, rfl⟩ := (returns_asking_iff ..).mp seen
  obtain ⟨begun, shown⟩ := course.apparent met answered
  exact course.trans begun (course.step (fun _ _ _ _ _ derived => derived.2) step shown)

end Course

theorem course_within (closed : P.ClosedFiles F) :
    Course P (fun c h => h.Within P F ∧ c.Within P F) fun _ d => d.Within P F where
  refl met := met.2
  trans _ later := later
  later leads met := ⟨met.1, leads⟩
  element := by
    rintro c name h ⟨within, opened⟩
    cases within with
    | list inner => exact ⟨inner, opened⟩
  member := by
    rintro c members h ⟨within, opened⟩ member
    cases within with
    | union parts => exact ⟨parts h member, opened⟩
  apparent met answered := by
    obtain ⟨shown, after⟩ := P.confined_apparent closed met.1 _ _ _ answered met.2
    exact ⟨after, shown, after⟩
  properties met record answered := by
    obtain ⟨source, parts⟩ := met.1.of_record? record
    obtain ⟨members, after⟩ := P.confined_propertiesOf closed source parts _ _ _ answered met.2
    exact ⟨after, fun m member => ⟨members m member, after⟩⟩

theorem within_of_returns (closed : P.ClosedFiles F) {depth : Int}
    (returned : Returns (deriveType P depth path handle) s o t) (own : handle.Within P F)
    (within : s.check.Within P F) : t.check.Within P F :=
  (course_within closed).of_returns returned ⟨own, within⟩

theorem genuine_of_returns {depth : Int}
    (returned : Returns (deriveType P depth path handle) s o t) (genuine : s.check.Genuine P) :
    t.check.Genuine P :=
  have all : Path → True := fun _ => trivial
  (within_of_returns (Program.closedFiles_of_all all) returned (handle.within_of_all all)
    genuine.within).genuine

end Derivation

end HintSchema

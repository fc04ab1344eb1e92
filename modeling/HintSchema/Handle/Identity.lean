import HintSchema.Handle.Display

/-!
When two handles denote the same type, and unions, in which no type comes twice.
-/

namespace HintSchema

/-- A key that handles of the same type share. Declared types are told apart by where they are
declared, so classes of one name stay distinct. -/
inductive Identity where
  | declared (name : Option String) (places : List Declaration) (arguments : List Identity)
  | list (element : Identity)
  | union (members : List Identity)
  | awaitable (name : String) (arguments : List Identity)
  | alias (key : NameKey) (arguments : List Identity)
  | intrinsic (kind : Intrinsic)
  | void (text : String)
  | typeParameter (name : String)
  | unsupported (text : String)

namespace Identity

mutual

def same : Identity → Identity → Bool
  | .declared n p a, .declared m q b => n == m && p == q && sameAll a b
  | .list a, .list b => same a b
  | .union a, .union b => sameAll a b
  | .awaitable n a, .awaitable m b => n == m && sameAll a b
  | .alias k a, .alias l b => k == l && sameAll a b
  | .intrinsic k, .intrinsic l => k == l
  | .void s, .void t => s == t
  | .typeParameter s, .typeParameter t => s == t
  | .unsupported s, .unsupported t => s == t
  | _, _ => false

def sameAll : List Identity → List Identity → Bool
  | [], [] => true
  | a :: as, b :: bs => same a b && sameAll as bs
  | _, _ => false

end

instance : BEq Identity := ⟨same⟩

mutual

theorem eq_of_same : ∀ a b : Identity, same a b = true → a = b
  | .declared n p a, b => by
    cases b <;> simp_all [same]
    rintro rfl rfl h
    exact eq_of_sameAll a _ h
  | .list a, b => by
    cases b <;> simp_all [same]
    exact eq_of_same a _
  | .union a, b => by
    cases b <;> simp_all [same]
    exact eq_of_sameAll a _
  | .awaitable n a, b => by
    cases b <;> simp_all [same]
    rintro rfl h
    exact eq_of_sameAll a _ h
  | .alias k a, b => by
    cases b <;> simp_all [same]
    rintro rfl h
    exact eq_of_sameAll a _ h
  | .intrinsic k, b => by cases b <;> simp_all [same]
  | .void s, b => by cases b <;> simp_all [same]
  | .typeParameter s, b => by cases b <;> simp_all [same]
  | .unsupported s, b => by cases b <;> simp_all [same]

theorem eq_of_sameAll : ∀ a b : List Identity, sameAll a b = true → a = b
  | [], b => by cases b <;> simp_all [sameAll]
  | a :: as, b => by
    cases b with
    | nil => simp [sameAll]
    | cons b bs =>
      simp only [sameAll, Bool.and_eq_true]
      rintro ⟨h, hs⟩
      rw [eq_of_same a b h, eq_of_sameAll as bs hs]

end

mutual

theorem same_refl : ∀ a : Identity, same a a = true
  | .declared n p a => by simp [same, sameAll_refl a]
  | .list a => by simp [same, same_refl a]
  | .union a => by simp [same, sameAll_refl a]
  | .awaitable n a => by simp [same, sameAll_refl a]
  | .alias k a => by simp [same, sameAll_refl a]
  | .intrinsic k => by simp [same]
  | .void s => by simp [same]
  | .typeParameter s => by simp [same]
  | .unsupported s => by simp [same]

theorem sameAll_refl : ∀ a : List Identity, sameAll a a = true
  | [] => by simp [sameAll]
  | a :: as => by simp [sameAll, same_refl a, sameAll_refl as]

end

instance : LawfulBEq Identity where
  eq_of_beq {a b} h := eq_of_same a b h
  rfl {a} := same_refl a

instance : DecidableEq Identity := fun a b =>
  if h : (a == b) = true then isTrue (eq_of_beq h) else isFalse fun e => h (e ▸ beq_self_eq_true a)

end Identity

namespace Handle

mutual

/-- A type that is declared nowhere is known by its name. -/
def identity : Handle → Identity
  | .intrinsic kind => .intrinsic kind
  | .void text => .void text
  | .union members => .union (identities members)
  | .list _ element => .list (identity element)
  | .awaitable name arguments => .awaitable name (identities arguments)
  | .classObject symbol arguments | .record symbol _ arguments _ =>
    let name := if symbol.declarations.isEmpty then some symbol.name else .none
    .declared name symbol.declarations (identities arguments)
  | .typeParameter name => .typeParameter name
  | .unsupported text _ => .unsupported text
  | .deferred target arguments => .alias target.key (identities arguments)

def identities : List Handle → List Identity
  | [] => []
  | h :: rest => identity h :: identities rest

end

/-- The handles whose identity is not among `seen` or earlier in the list. -/
def distinctFrom (seen : List Identity) : List Handle → List Handle
  | [] => []
  | h :: rest =>
    if seen.contains h.identity then distinctFrom seen rest
    else h :: distinctFrom (h.identity :: seen) rest

/-- The union of some types: nested unions are flattened, the first of equal types stays, and a
single type stands for itself. -/
def unionOf (members : List Handle) : Handle :=
  match distinctFrom [] (members.flatMap alternatives) with
  | [single] => single
  | distinct => .union distinct

end Handle

end HintSchema

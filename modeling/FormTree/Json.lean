import Std.Data.ExtTreeMap

set_option autoImplicit false

/-!
# JSON values

JSON values whose numbers are integers, as they appear in attribute updates, in the encoded
form data and in the records handed to an analytics backend.

An object keeps its members sorted by name, with no name twice, so two objects are equal
exactly when they have the same members.

## Main definitions

* `FormTree.Json` — a JSON value.
* `FormTree.Json.object` — the object with the given members, a later member winning over an
  earlier one of the same name.
* `FormTree.Json.member?` — the value stored under a name.

## Main results

* `FormTree.Json.eq_of_beq` — the structural equality test finds only equal values; with its
  converse it gives `DecidableEq Json`.
-/

namespace FormTree

/-- A JSON value; every number is an integer. -/
inductive Json where
  | null
  | bool (value : Bool)
  | int (value : Int)
  | str (value : String)
  | arr (items : List Json)
  | obj (members : List (String × Json))
  deriving Inhabited

namespace Json

/-! ## Building and reading objects -/

/-- The object with the given members: sorted by name, the last member of a name kept. -/
def object (members : List (String × Json)) : Json :=
  .obj (Std.ExtTreeMap.ofList members compare).toList

/-- An optional text, absent as `null`. -/
def ofText? : Option String → Json
  | none => .null
  | some s => .str s

/-- The value stored under `name`, if this is an object that has such a member. -/
def member? (name : String) : Json → Option Json
  | .obj members => members.lookup name
  | _ => none

/-! ## Equality -/

mutual

/-- Structural equality test. -/
def beq : Json → Json → Bool
  | .null, .null => true
  | .bool a, .bool b => a == b
  | .int a, .int b => a == b
  | .str a, .str b => a == b
  | .arr a, .arr b => beqItems a b
  | .obj a, .obj b => beqMembers a b
  | _, _ => false
termination_by structural a => a

/-- Structural equality test of the items of two arrays. -/
def beqItems : List Json → List Json → Bool
  | [], [] => true
  | a :: as, b :: bs => a.beq b && beqItems as bs
  | _, _ => false
termination_by structural a => a

/-- Structural equality test of the members of two objects. -/
def beqMembers : List (String × Json) → List (String × Json) → Bool
  | [], [] => true
  | a :: as, b :: bs => beqMember a b && beqMembers as bs
  | _, _ => false
termination_by structural a => a

/-- Structural equality test of two object members. -/
def beqMember : String × Json → String × Json → Bool
  | (k, a), (l, b) => k == l && a.beq b
termination_by structural a => a

end

mutual

/-- The equality test finds only equal values. -/
theorem eq_of_beq : ∀ a b : Json, a.beq b = true → a = b
  | .null, b, h => by cases b <;> simp_all [beq]
  | .bool a, b, h => by cases b <;> simp_all [beq]
  | .int a, b, h => by cases b <;> simp_all [beq]
  | .str a, b, h => by cases b <;> simp_all [beq]
  | .arr a, b, h => by
    cases b <;> simp only [beq, Bool.false_eq_true] at h
    rw [eq_of_beqItems _ _ h]
  | .obj a, b, h => by
    cases b <;> simp only [beq, Bool.false_eq_true] at h
    rw [eq_of_beqMembers _ _ h]

/-- The equality test of arrays finds only equal item lists. -/
theorem eq_of_beqItems : ∀ a b : List Json, beqItems a b = true → a = b
  | [], b, h => by cases b <;> simp_all [beqItems]
  | a :: as, b, h => by
    cases b with
    | nil => simp [beqItems] at h
    | cons b bs =>
      simp only [beqItems, Bool.and_eq_true] at h
      rw [eq_of_beq a b h.1, eq_of_beqItems as bs h.2]

/-- The equality test of objects finds only equal member lists. -/
theorem eq_of_beqMembers : ∀ a b : List (String × Json), beqMembers a b = true → a = b
  | [], b, h => by cases b <;> simp_all [beqMembers]
  | a :: as, b, h => by
    cases b with
    | nil => simp [beqMembers] at h
    | cons b bs =>
      simp only [beqMembers, Bool.and_eq_true] at h
      rw [eq_of_beqMember a b h.1, eq_of_beqMembers as bs h.2]

/-- The equality test of members finds only equal members. -/
theorem eq_of_beqMember : ∀ a b : String × Json, beqMember a b = true → a = b
  | (k, a), (l, b), h => by
    simp only [beqMember, Bool.and_eq_true, beq_iff_eq] at h
    rw [h.1, eq_of_beq a b h.2]

end

mutual

/-- A value passes the equality test with itself. -/
theorem beq_self : ∀ a : Json, a.beq a = true
  | .null => by simp [beq]
  | .bool a => by simp [beq]
  | .int a => by simp [beq]
  | .str a => by simp [beq]
  | .arr a => by rw [beq]; exact beqItems_self a
  | .obj a => by rw [beq]; exact beqMembers_self a

/-- An item list passes the equality test with itself. -/
theorem beqItems_self : ∀ a : List Json, beqItems a a = true
  | [] => by simp [beqItems]
  | a :: as => by rw [beqItems, beq_self a, beqItems_self as]; rfl

/-- A member list passes the equality test with itself. -/
theorem beqMembers_self : ∀ a : List (String × Json), beqMembers a a = true
  | [] => by simp [beqMembers]
  | a :: as => by rw [beqMembers, beqMember_self a, beqMembers_self as]; rfl

/-- A member passes the equality test with itself. -/
theorem beqMember_self : ∀ a : String × Json, beqMember a a = true
  | (k, a) => by rw [beqMember, beq_self a]; simp

end

instance : DecidableEq Json := fun a b =>
  decidable_of_iff (a.beq b = true) ⟨eq_of_beq a b, fun h => h ▸ beq_self a⟩

end Json

end FormTree

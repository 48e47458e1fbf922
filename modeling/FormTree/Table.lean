import Std.Data.ExtTreeMap

set_option autoImplicit false

/-!
# Tables

A value for every number, of which finitely many were set and all others are the default.

## Main definitions

* `FormTree.Table` — the table.
* `FormTree.Table.get`, `FormTree.Table.set` — reading and writing a place.

## Main results

* `FormTree.Table.get_set`, `FormTree.Table.get_modify` — what a write or a change does to every
  place.
-/

namespace FormTree

/-- A value for every number, the default where none was set. -/
structure Table (α : Type) where
  /-- The values that were set. -/
  entries : Std.ExtTreeMap Nat α compare := ∅
  deriving Inhabited

namespace Table

variable {α : Type} [Inhabited α]

/-- The value at a place. -/
def get (table : Table α) (place : Nat) : α := table.entries.getD place default

/-- Write a place. -/
def set (table : Table α) (place : Nat) (value : α) : Table α :=
  ⟨table.entries.insert place value⟩

/-- Change the value at a place. -/
def modify (table : Table α) (place : Nat) (change : α → α) : Table α :=
  table.set place (change (table.get place))

theorem get_set (table : Table α) (i j : Nat) (value : α) :
    (table.set i value).get j = if i = j then value else table.get j := by
  simp [get, set, Std.ExtTreeMap.getD_insert]

@[simp] theorem get_set_self (table : Table α) (i : Nat) (value : α) :
    (table.set i value).get i = value := by
  simp [get_set]

theorem get_set_of_ne (table : Table α) {i j : Nat} (h : i ≠ j) (value : α) :
    (table.set i value).get j = table.get j := by
  simp [get_set, h]

/-- A change in a place reaches that place and no other. -/
theorem get_modify (table : Table α) (i j : Nat) (change : α → α) :
    (table.modify i change).get j = if i = j then change (table.get i) else table.get j :=
  table.get_set i j _

end Table

end FormTree

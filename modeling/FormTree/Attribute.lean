import FormTree.Json
import Std.Data.ExtTreeMap

set_option autoImplicit false

/-!
# Attributes

The attribute updates that a submitted form hands to its owner. An update is addressed to a
channel attribute, a contact attribute, or both.

## Main definitions

* `FormTree.AttributeName` — where an update goes, ordered by channel and then by contact.
* `FormTree.Attributes` — updates keyed by name, in the order of the names.
* `FormTree.AttributeName.ofJson?` — reading a name from JSON.
-/

namespace FormTree

/-- Target of an attribute update; either name, both or neither may be given. -/
structure AttributeName where
  /-- Name of a channel attribute. -/
  channel : Option String := none
  /-- Name of a contact attribute. -/
  contact : Option String := none
  deriving DecidableEq, Inhabited

namespace AttributeName

/-- Channel first, then contact; an absent name comes before every text. -/
instance : Ord AttributeName where
  compare := compareLex (compareOn channel) (compareOn contact)

theorem compare_def (a b : AttributeName) :
    compare a b = (compare a.channel b.channel).then (compare a.contact b.contact) := rfl

instance : Std.TransOrd AttributeName :=
  inferInstanceAs (Std.TransCmp (compareLex (compareOn channel) (compareOn contact)))

instance : Std.LawfulEqOrd AttributeName where
  eq_of_compare {a b} h := by
    rw [compare_def, Ordering.then_eq_eq] at h
    cases a; cases b
    simp_all

/-- The name as JSON, an absent part left out. -/
def toJson (name : AttributeName) : Json :=
  .object ((name.channel.map fun s => ("channel", Json.str s)).toList ++
    (name.contact.map fun s => ("contact", Json.str s)).toList)

/-- One part of a name in JSON: absent, `null` or a text. -/
def part? : Option Json → Option (Option String)
  | none | some .null => some none
  | some (.str s) => some (some s)
  | some _ => none

/-- Read a name from JSON: an object whose other members are ignored, or the list of its parts. -/
def ofJson? : Json → Option AttributeName
  | .obj members => do
    let channel ← part? ((Json.obj members).member? "channel")
    let contact ← part? ((Json.obj members).member? "contact")
    return { channel, contact }
  | .arr [] => some {}
  | .arr [channel] => do
    let channel ← part? (some channel)
    return { channel }
  | .arr [channel, contact] => do
    let channel ← part? (some channel)
    let contact ← part? (some contact)
    return { channel, contact }
  | _ => none

end AttributeName

/-- Attribute updates keyed by their target. -/
abbrev Attributes := Std.ExtTreeMap AttributeName Json compare

/-- The updates as JSON: a list of names and values in the order of the names. -/
def Attributes.toJson (attributes : Attributes) : Json :=
  .arr (attributes.toList.map fun (name, value) =>
    .object [("name", name.toJson), ("value", value)])

end FormTree

import FormTree.Event

set_option autoImplicit false

/-!
# Reports

What a layout tells the outside: analytics reports, and the attribute updates of submitted forms.

## Main definitions

* `FormTree.ReportedEvent` — what is reported.
* `FormTree.Report` — an event with its context and the node it came from.
* `FormTree.Record` — an event as it is sent, with an identifier and a time.
* `FormTree.Record.toJson` — the sent form.
* `FormTree.AttributeUpdate` — the attribute updates that a submitted form asks for.
-/

namespace FormTree

/-- An event that is reported. -/
inductive ReportedEvent where
  /-- A form had at least one input on screen for the first time. -/
  | formDisplay
  /-- A form was submitted. -/
  | formResult (entry : Entry) (attributes : Attributes)
  /-- The layout was dismissed by a button. -/
  | dismiss (button : Option String) (isCancel : Bool)
  deriving DecidableEq, Inhabited

namespace ReportedEvent

/-- The kind of the reported event. -/
def kind : ReportedEvent → EventKind
  | .formDisplay => .formDisplay
  | .formResult _ _ => .formResult
  | .dismiss _ _ => .dismiss

/-- The members that the event adds to its sent form. -/
def members : ReportedEvent → List (String × Json)
  | .formDisplay => []
  | .formResult entry attributes =>
    [("forms", entry.toJson), ("attributes", attributes.toJson)]
  | .dismiss button isCancel =>
    [("button_identifier", .ofText? button), ("cancel", .bool isCancel)]

end ReportedEvent

/-- A report of a layout. -/
structure Report where
  /-- The node whose event was reported. -/
  origin : NodeId
  /-- What happened. -/
  event : ReportedEvent
  /-- Where it happened. -/
  context : LayoutContext
  deriving DecidableEq, Inhabited

namespace Report

/-- The members of the sent form that do not depend on identifier and time. -/
def members (event : ReportedEvent) (context : LayoutContext) : List (String × Json) :=
  [("kind", .str event.kind.name), ("context", context.toJson)] ++ event.members

/-- The report without identifier and time. -/
def toJson (report : Report) : Json := .object (members report.event report.context)

end Report

/-! ## Sent records -/

/-- A reported event as it is sent. -/
structure Record where
  /-- Identifier of the record; the upper half of the 128-bit number is zero. -/
  id : UInt64
  /-- What happened. -/
  event : ReportedEvent
  /-- Where it happened. -/
  context : LayoutContext
  /-- Microseconds since 1970-01-01T00:00:00Z. -/
  micros : Int
  deriving DecidableEq, Inhabited

namespace Record

/-- The `count` lowest hexadecimal digits of `n`, most significant first. -/
def hexDigits : Nat → Nat → List Char
  | 0, _ => []
  | count + 1, n => hexDigits count (n / 16) ++ [Nat.digitChar (n % 16)]

/-- The identifier in groups of 8, 4, 4, 4 and 12 hexadecimal digits. -/
def idText (record : Record) : String :=
  let n := record.id.toNat
  "00000000-0000-0000-" ++ String.ofList (hexDigits 4 (n / Nat.pow 16 12)) ++ "-" ++
    String.ofList (hexDigits 12 n)

/-- Whole milliseconds since 1970-01-01T00:00:00Z, zero for an earlier time. -/
def millis (record : Record) : Nat := record.micros.toNat / 1000

/-- The sent form of the record. -/
def toJson (record : Record) : Json :=
  .object ([("id", .str record.idText), ("timestamp_ms", .int record.millis)] ++
    Report.members record.event record.context)

end Record

/-- The records of one kind, in the order in which they came. -/
def Record.ofKind (kind : EventKind) (records : List Record) : List Record :=
  records.filter (·.event.kind = kind)

/-- The number of records of one kind. -/
def Record.count (kind : EventKind) (records : List Record) : Nat :=
  records.countP (·.event.kind = kind)

/-- The attribute updates that a submitted form asks for. -/
structure AttributeUpdate where
  /-- The submitted form. -/
  origin : NodeId
  /-- Its updates. -/
  attributes : Attributes
  deriving DecidableEq, Inhabited

end FormTree

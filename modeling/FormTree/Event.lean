import FormTree.Behavior
import FormTree.Form
import FormTree.ViewType

set_option autoImplicit false

/-!
# Events

The events that nodes exchange.

An event travels in one of two ways. *Bubbling* takes it from a node to its ancestors, up to the
first one that consumes it; an ancestor may change the event before it moves on. *Trickling*
takes it from a node to every descendant, parents before children, and nothing stops it.

## Main definitions

* `FormTree.NodeId` — the handle of a node.
* `FormTree.Event`, `FormTree.EventKind` — the events and their kinds.
* `FormTree.Event.ofClick?` — the event that an effect of a button raises.
* `FormTree.Propagation` — what an ancestor does with a bubbling event.
-/

namespace FormTree

/-- Handle of a node: its index in the layout, which may name no node at all. -/
abbrev NodeId := Nat

/-- The kind of an event. -/
inductive EventKind where
  | formInit
  | inputInit
  | inputWithdrawn
  | dataChange
  | validationUpdate
  | viewAttached
  | buttonSubmit
  | layoutSubmit
  | formDisplay
  | formResult
  | pagerNext
  | pagerPrevious
  | pagerUpdate
  | dismiss
  deriving DecidableEq, Inhabited

/-- Name of the kind in reports. -/
def EventKind.name : EventKind → String
  | .formInit => "form_init"
  | .inputInit => "input_init"
  | .inputWithdrawn => "input_withdrawn"
  | .dataChange => "data_change"
  | .validationUpdate => "validation_update"
  | .viewAttached => "view_attached"
  | .buttonSubmit => "button_submit"
  | .layoutSubmit => "layout_submit"
  | .formDisplay => "form_display"
  | .formResult => "form_result"
  | .pagerNext => "pager_next"
  | .pagerPrevious => "pager_previous"
  | .pagerUpdate => "pager_update"
  | .dismiss => "dismiss"

/-- An event. -/
inductive Event where
  /-- A nested form announced itself to the form around it. -/
  | formInit (id : String) (isValid : Bool)
  /-- An input announced itself to its form. -/
  | inputInit (id : String) (viewType : ViewType) (isValid : Bool)
  /-- An input left the layout. -/
  | inputWithdrawn (id : String)
  /-- An input or a nested form has new data. -/
  | dataChange (entry : Entry)
  /-- The flags of `form`, for its descendants. -/
  | validationUpdate (form : NodeId) (status : FormStatus)
  /-- An input or a nested form went on or off screen. -/
  | viewAttached (id : String) (isDisplayed : Bool)
  /-- A button that submits was tapped; `followUp` happens once submission is done. -/
  | buttonSubmit (button : NodeId) (id : String) (followUp : List ClickBehavior)
  /-- Submission, for every form of the layout; `button` is the button that asked for it. -/
  | layoutSubmit (button : Option String)
  /-- A form had an input on screen for the first time. -/
  | formDisplay (context : LayoutContext)
  /-- A form was submitted. -/
  | formResult (entry : Entry) (attributes : Attributes) (context : LayoutContext)
  /-- A button asks for the next page. -/
  | pagerNext (button : String)
  /-- A button asks for the previous page. -/
  | pagerPrevious (button : String)
  /-- The position of `pager`, for its pages. -/
  | pagerUpdate (pager : NodeId) (state : PagerState)
  /-- A button dismisses the layout, or cancels it. -/
  | dismiss (button : Option String) (isCancel : Bool) (context : LayoutContext)
  deriving DecidableEq, Inhabited

namespace Event

/-- The kind of the event. -/
def kind : Event → EventKind
  | .formInit .. => .formInit
  | .inputInit .. => .inputInit
  | .inputWithdrawn .. => .inputWithdrawn
  | .dataChange .. => .dataChange
  | .validationUpdate .. => .validationUpdate
  | .viewAttached .. => .viewAttached
  | .buttonSubmit .. => .buttonSubmit
  | .layoutSubmit .. => .layoutSubmit
  | .formDisplay .. => .formDisplay
  | .formResult .. => .formResult
  | .pagerNext .. => .pagerNext
  | .pagerPrevious .. => .pagerPrevious
  | .pagerUpdate .. => .pagerUpdate
  | .dismiss .. => .dismiss

/-- The reporting context; only the events that end up in a report carry one. -/
def context? : Event → Option LayoutContext
  | .formDisplay context => some context
  | .formResult _ _ context => some context
  | .dismiss _ _ context => some context
  | _ => none

/-- The event with its reporting context, if it has one, changed by `change`. -/
def mapContext (change : LayoutContext → LayoutContext) : Event → Event
  | .formDisplay context => .formDisplay (change context)
  | .formResult entry attributes context => .formResult entry attributes (change context)
  | .dismiss button isCancel context => .dismiss button isCancel (change context)
  | event => event

/-- The event raised by an effect of the button `button`, other than submission. -/
def ofClick? (behavior : ClickBehavior) (button : String) : Option Event :=
  match behavior with
  | .formSubmit => none
  | .pagerNext => some (.pagerNext button)
  | .pagerPrevious => some (.pagerPrevious button)
  | .dismiss => some (.dismiss (some button) false (({} : LayoutContext).withButton (some button)))
  | .cancel => some (.dismiss (some button) true (({} : LayoutContext).withButton (some button)))

end Event

/-- What an ancestor does with a bubbling event. -/
inductive Propagation where
  /-- Consume it; no further ancestor sees it. -/
  | stop
  /-- Let it bubble on, possibly changed. -/
  | next (event : Event)
  deriving DecidableEq, Inhabited

end FormTree

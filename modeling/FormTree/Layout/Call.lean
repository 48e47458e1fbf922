import FormTree.Layout.Activation

set_option autoImplicit false

/-!
# Calls

The calls by which a renderer drives a layout. A call raises its event, routes it, and routes all
that follows before control goes back to the renderer.

## Main definitions

* `FormTree.Call` — the calls.
* `FormTree.Layout.perform` — a layout after a call, or the reason why the call is refused.
-/

namespace FormTree

/-- A call of the renderer, or an event raised from outside. -/
inductive Call where
  /-- The view of a node was attached. -/
  | attach (node : NodeId)
  /-- The view of a node was detached. -/
  | detach (node : NodeId)
  /-- An input went on or off screen; for other nodes this means nothing. -/
  | setDisplayed (node : NodeId) (isDisplayed : Bool)
  /-- The user changed the answer of an input. -/
  | setAnswer (node : NodeId) (answer : Answer)
  /-- An input is gone for good. -/
  | withdraw (node : NodeId)
  /-- The user tapped a button. -/
  | click (node : NodeId)
  /-- The user swiped a pager to a page. -/
  | scrollTo (node : NodeId) (position : UInt64)
  /-- An event from outside is raised at a node. -/
  | dispatch (origin : NodeId) (event : Event) (direction : Direction)
  deriving DecidableEq, Inhabited

namespace Layout

/-- An input went on or off screen. -/
def setDisplayed (layout : Layout) (id : NodeId) (isDisplayed : Bool) :
    Except LayoutError Layout := do
  match (← layout.node id).view with
  | .input spec => return (layout.bubble id (.viewAttached spec.id isDisplayed)).settle
  | _ => return layout

/-- The view of a node was attached or detached. -/
def setAttached (layout : Layout) (id : NodeId) (isAttached : Bool) :
    Except LayoutError Layout := do
  let _ ← layout.node id
  (layout.modifyState id ({ · with isAttached })).setDisplayed id isAttached

/-- The user changed the answer of an input. -/
def setAnswer (layout : Layout) (id : NodeId) (answer : Answer) : Except LayoutError Layout := do
  let spec ← layout.inputSpec id
  let input ← (⟨spec, layout.answers.get id⟩ : InputNode).setAnswer answer
  let layout := { layout with answers := layout.answers.set id input.answer }
  return (layout.bubble id (.dataChange input.entry)).settle

/-- An input is gone for good; its form no longer depends on it. -/
def withdraw (layout : Layout) (id : NodeId) : Except LayoutError Layout := do
  let spec ← layout.inputSpec id
  let layout := layout.modifyState id ({ · with isAttached := false })
  return (layout.bubble id (.inputWithdrawn spec.id)).settle

/-- The user tapped a button; taps on a disabled button are ignored. Where the button submits,
its other effects follow once submission is done. -/
def click (layout : Layout) (id : NodeId) : Except LayoutError Layout := do
  let spec ← layout.buttonSpec id
  if !layout.isEnabled id then return layout
  else if spec.submits then
    let effects := spec.effects.filter (· ≠ .formSubmit)
    return (layout.bubble id (.buttonSubmit id spec.id effects)).settle
  else return (layout.pushAll (followUps id spec.id spec.effects)).settle

/-- The user swiped a pager to a page. -/
def scrollTo (layout : Layout) (id : NodeId) (position : UInt64) : Except LayoutError Layout := do
  let _ ← layout.pagerSpec id
  return (layout.changePager id (.scroll position)).settle

/-- An event from outside is raised at a node. -/
def dispatch (layout : Layout) (origin : NodeId) (event : Event) (direction : Direction) :
    Except LayoutError Layout := do
  let _ ← layout.node origin
  match direction with
  | .bubble => return (layout.bubble origin event).settle
  | .trickle => return (layout.trickle origin event).settle

/-- A layout after a call, or the reason why the call is refused. -/
def perform (layout : Layout) : Call → Except LayoutError Layout
  | .attach id => layout.setAttached id true
  | .detach id => layout.setAttached id false
  | .setDisplayed id isDisplayed => layout.setDisplayed id isDisplayed
  | .setAnswer id answer => layout.setAnswer id answer
  | .withdraw id => layout.withdraw id
  | .click id => layout.click id
  | .scrollTo id position => layout.scrollTo id position
  | .dispatch origin event direction => layout.dispatch origin event direction

end Layout

end FormTree

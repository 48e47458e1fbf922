import FormTree.Layout.Call

set_option autoImplicit false

/-!
# Calls in place

A renderer does not get a new layout from a call: the call changes the one that it has. Here each
call is written out as a sequence of checks and writes, in the order in which they are made. A check
that fails breaks the call off, and what was written until then stays written.

## Main definitions

* `FormTree.Edit` — something done to a layout in place.
* `FormTree.Call.carryOut` — a call, check by check and write by write.
* `FormTree.Layout.undergo` — what comes back from a call, and the layout that it leaves behind.
-/

namespace FormTree

/-- Something done to a layout in place. It may break off, and what was written until then stays. -/
abbrev Edit : Type → Type := ExceptT LayoutError (StateM Layout)

namespace Edit

/-- Make a check on the layout as it is. -/
def check {α : Type} (make : Layout → Except LayoutError α) : Edit α := do
  MonadExcept.ofExcept (make (← get))

/-- An input went on or off screen. -/
def setDisplayed (id : NodeId) (isDisplayed : Bool) : Edit Unit := do
  match (← check (·.node id)).view with
  | .input spec =>
    modify (·.bubble id (.viewAttached spec.id isDisplayed))
    modify (·.settle)
  | _ => return ()

/-- The view of a node was attached or detached. This is noted before the node is looked at as an
input. -/
def setAttached (id : NodeId) (isAttached : Bool) : Edit Unit := do
  let _ ← check (·.node id)
  modify (·.modifyState id ({ · with isAttached }))
  setDisplayed id isAttached

/-- The user changed the answer of an input. -/
def setAnswer (id : NodeId) (answer : Answer) : Edit Unit := do
  let spec ← check (·.inputSpec id)
  let input ← check fun layout => (⟨spec, layout.answers.get id⟩ : InputNode).setAnswer answer
  modify fun layout => { layout with answers := layout.answers.set id input.answer }
  modify (·.bubble id (.dataChange input.entry))
  modify (·.settle)

/-- An input is gone for good. -/
def withdraw (id : NodeId) : Edit Unit := do
  let spec ← check (·.inputSpec id)
  modify (·.modifyState id ({ · with isAttached := false }))
  modify (·.bubble id (.inputWithdrawn spec.id))
  modify (·.settle)

/-- The user tapped a button. -/
def click (id : NodeId) : Edit Unit := do
  let spec ← check (·.buttonSpec id)
  if !(← get).isEnabled id then return ()
  else
    if spec.submits then
      let effects := spec.effects.filter (· ≠ .formSubmit)
      modify (·.bubble id (.buttonSubmit id spec.id effects))
    else modify (·.pushAll (Layout.followUps id spec.id spec.effects))
    modify (·.settle)

/-- The user swiped a pager to a page. -/
def scrollTo (id : NodeId) (position : UInt64) : Edit Unit := do
  let _ ← check (·.pagerSpec id)
  modify (·.changePager id (.scroll position))
  modify (·.settle)

/-- An event from outside is raised at a node. -/
def dispatch (origin : NodeId) (event : Event) (direction : Direction) : Edit Unit := do
  let _ ← check (·.node origin)
  match direction with
  | .bubble => modify (·.bubble origin event)
  | .trickle => modify (·.trickle origin event)
  modify (·.settle)

end Edit

/-- A call, check by check and write by write. -/
def Call.carryOut : Call → Edit Unit
  | .attach id => Edit.setAttached id true
  | .detach id => Edit.setAttached id false
  | .setDisplayed id isDisplayed => Edit.setDisplayed id isDisplayed
  | .setAnswer id answer => Edit.setAnswer id answer
  | .withdraw id => Edit.withdraw id
  | .click id => Edit.click id
  | .scrollTo id position => Edit.scrollTo id position
  | .dispatch origin event direction => Edit.dispatch origin event direction

namespace Layout

/-- What comes back from a call that is carried out in place, and the layout that it leaves
behind. -/
def undergo (layout : Layout) (call : Call) : Except LayoutError Unit × Layout :=
  call.carryOut.run.run layout

end Layout

end FormTree

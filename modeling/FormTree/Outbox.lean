import FormTree.Event

set_option autoImplicit false

/-!
# The outbox

Events raised while another one is being delivered wait in the outbox of the layout, first in,
first out, and are routed once the delivery is over.

## Main definitions

* `FormTree.Dispatch` — an event to be routed, with the way it travels.
* `FormTree.Outbox` — the waiting dispatches, oldest first.
-/

namespace FormTree

/-- The way a dispatch asked for from outside travels. -/
inductive Direction where
  | bubble
  | trickle
  deriving DecidableEq, Inhabited

/-- An event to be routed. -/
inductive Dispatch where
  /-- To the ancestors of `origin`. -/
  | bubble (origin : NodeId) (event : Event)
  /-- To the descendants of `origin`. -/
  | trickle (origin : NodeId) (event : Event)
  /-- To the root and then to every other node. -/
  | broadcast (event : Event)
  deriving DecidableEq, Inhabited

/-- The waiting dispatches, oldest first. -/
structure Outbox where
  /-- The dispatches in the order in which they were pushed. -/
  queue : List Dispatch := []
  deriving DecidableEq, Inhabited

namespace Outbox

/-- Add a dispatch behind all others. -/
def push (outbox : Outbox) (dispatch : Dispatch) : Outbox := ⟨outbox.queue ++ [dispatch]⟩

/-- The oldest dispatch, and the outbox without it. -/
def pop? (outbox : Outbox) : Option (Dispatch × Outbox) :=
  match outbox.queue with
  | [] => none
  | dispatch :: rest => some (dispatch, ⟨rest⟩)

/-- The number of waiting dispatches. -/
def size (outbox : Outbox) : Nat := outbox.queue.length

/-- Nothing waits. -/
def isEmpty (outbox : Outbox) : Bool := outbox.queue.isEmpty

@[simp] theorem queue_push (outbox : Outbox) (dispatch : Dispatch) :
    (outbox.push dispatch).queue = outbox.queue ++ [dispatch] := rfl

end Outbox

end FormTree

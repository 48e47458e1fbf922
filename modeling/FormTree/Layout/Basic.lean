import FormTree.Observable.Delivery
import FormTree.Outbox
import FormTree.Report
import FormTree.Table
import FormTree.Tree

set_option autoImplicit false

/-!
# Active layouts

An active layout: the nodes of its tree, which never change, and what changes about them.

Every form and every pager keeps its state in a container. The observers of these containers tie
the layout together; each of them is described by a `FormTree.FormReaction` or a
`FormTree.PagerReaction`, and what they do is defined in `FormTree.Layout.Cascade`.

## Main definitions

* `FormTree.Environment` — settings, and whether reports are kept.
* `FormTree.Layout` — an active layout.
* `FormTree.Layout.formSpec`, `FormTree.Layout.pagerSpec`, … — a node as one of a given kind, or
  the error that there is no such node.
-/

namespace FormTree

/-- What a layout is activated with. The outbox that comes with it is taken to be empty until then,
as a fresh one is: what someone may have put into it before activation is left out. -/
structure Environment where
  /-- The settings. -/
  config : Config := {}
  /-- Reports and attribute updates are kept; otherwise they only go to the log. -/
  isRecording : Bool := true
  deriving DecidableEq, Inhabited

/-! ## Observers -/

/-- What an observer of a form's state does. -/
inductive FormReaction where
  /-- The form `child` takes over submission and disablement. -/
  | inherit (child : NodeId)
  /-- The form `form` reports its display, once. -/
  | reportDisplay (form : NodeId)
  /-- The form `form` evaluates its enable rules. -/
  | refresh (form : NodeId)
  /-- The form `form` announces its flags to its descendants if they changed. -/
  | announce (form : NodeId)
  /-- An observer that does not belong to the layout; it leaves the layout alone. -/
  | guest
  deriving DecidableEq, Inhabited

/-- What an observer of a pager's state does. -/
inductive PagerReaction where
  /-- The pager `pager` announces its position to its pages. -/
  | announce (pager : NodeId)
  /-- The form `form` evaluates its enable rules. -/
  | refresh (form : NodeId)
  /-- An observer that does not belong to the layout; it leaves the layout alone. -/
  | guest
  deriving DecidableEq, Inhabited

/-- The layout's hold on an observer that it registered: the observed node, and the number of the
observer there. -/
inductive Watch where
  | form (node : NodeId) (observer : Nat)
  | pager (node : NodeId) (observer : Nat)
  deriving DecidableEq, Inhabited

/-! ## Layouts -/

/-- What changes about a node of any kind. -/
structure NodeState where
  /-- The node accepts input; for a form its own state decides. -/
  isEnabled : Bool := true
  /-- The renderer has attached the node's view. -/
  isAttached : Bool := false
  /-- The last flags announced by the form around the node. -/
  status : Option FormStatus := none
  /-- The last position announced by the pager around the node. -/
  position : Option PagerState := none
  deriving DecidableEq, Inhabited

/-- How a layout was dismissed. -/
structure Dismissal where
  /-- The button. -/
  button : Option String
  /-- It was cancelled. -/
  isCancel : Bool
  deriving DecidableEq, Inhabited

/-- An active layout. -/
structure Layout where
  /-- The nodes. -/
  tree : Tree
  /-- The settings. -/
  environment : Environment := {}
  /-- The states of the nodes. -/
  states : Table NodeState := {}
  /-- The answers of the inputs. -/
  answers : Table Answer := {}
  /-- The states of the forms. -/
  forms : Table (Observable FormState FormReaction) := {}
  /-- The flags that each form announced to its descendants so far, oldest first. -/
  announced : Table (List FormStatus) := {}
  /-- The states of the pagers. -/
  pagers : Table (Observable PagerState PagerReaction) := {}
  /-- The observers that the layout registered. -/
  watches : List Watch := []
  /-- The dispatches waiting to be routed. -/
  outbox : Outbox := {}
  /-- How the layout was dismissed, once it was. -/
  dismissal : Option Dismissal := none
  /-- The reports, oldest first. -/
  reports : List Report := []
  /-- The attribute updates handed out, oldest first. -/
  updates : List AttributeUpdate := []
  /-- The dispatches at which routing broke off because they name no node as their origin. -/
  strays : List Dispatch := []
  /-- The dispatches that were dropped because the limit of a pass was reached. -/
  dropped : List Dispatch := []
  deriving Inhabited

namespace Layout

/-! ## Reading -/

/-- The container of the form `id`. -/
def form (layout : Layout) (id : NodeId) : Observable FormState FormReaction := layout.forms.get id

/-- The container of the pager `id`. -/
def pager (layout : Layout) (id : NodeId) : Observable PagerState PagerReaction :=
  layout.pagers.get id

/-- The node with the given number. -/
def node (layout : Layout) (id : NodeId) : Except LayoutError Node :=
  match layout.tree.node? id with
  | some node => .ok node
  | none => .error (.unknownNode id)

/-- The node as an input. -/
def inputSpec (layout : Layout) (id : NodeId) : Except LayoutError InputSpec := do
  match (← layout.node id).view with
  | .input spec => return spec
  | _ => throw (.wrongNodeKind id .input)

/-- The node as a button. -/
def buttonSpec (layout : Layout) (id : NodeId) : Except LayoutError ButtonSpec := do
  match (← layout.node id).view with
  | .button spec => return spec
  | _ => throw (.wrongNodeKind id .button)

/-- The node as a form. -/
def formSpec (layout : Layout) (id : NodeId) : Except LayoutError FormSpec := do
  match (← layout.node id).view with
  | .form spec => return spec
  | _ => throw (.wrongNodeKind id .form)

/-- The node as a pager. -/
def pagerSpec (layout : Layout) (id : NodeId) : Except LayoutError PagerSpec := do
  match (← layout.node id).view with
  | .pager spec => return spec
  | _ => throw (.wrongNodeKind id .pager)

/-- The form and the pager around a node. -/
def scope (layout : Layout) (id : NodeId) : Scope :=
  match layout.tree.node? id with
  | some node => node.scope
  | none => {}

/-- The node accepts input. -/
def isEnabled (layout : Layout) (id : NodeId) : Bool :=
  match layout.tree.view? id with
  | some (.form _) => (layout.form id).value.isEnabled
  | _ => (layout.states.get id).isEnabled

/-- The renderer has attached the node's view. -/
def isAttached (layout : Layout) (id : NodeId) : Bool := (layout.states.get id).isAttached

/-! ## Writing -/

/-- The place of the form `id`. -/
def formPlace (id : NodeId) : Place Layout FormState FormReaction where
  get layout := layout.form id
  set layout state := { layout with forms := layout.forms.set id state }

/-- The place of the pager `id`. -/
def pagerPlace (id : NodeId) : Place Layout PagerState PagerReaction where
  get layout := layout.pager id
  set layout state := { layout with pagers := layout.pagers.set id state }

/-- No observer of a form owns the handle of another one. -/
instance (id : NodeId) : (formPlace id).IsPlain := ⟨fun _ _ => rfl, fun _ _ _ => rfl, fun _ => rfl⟩

/-- No observer of a pager owns the handle of another one. -/
instance (id : NodeId) : (pagerPlace id).IsPlain :=
  ⟨fun _ _ => rfl, fun _ _ _ => rfl, fun _ => rfl⟩

/-- Change what is known about a node. -/
def modifyState (layout : Layout) (id : NodeId) (change : NodeState → NodeState) : Layout :=
  { layout with states := layout.states.modify id change }

/-- Let a dispatch wait in the outbox. -/
def push (layout : Layout) (dispatch : Dispatch) : Layout :=
  { layout with outbox := layout.outbox.push dispatch }

/-- Let several dispatches wait in the outbox. -/
def pushAll (layout : Layout) (dispatches : List Dispatch) : Layout :=
  dispatches.foldl push layout

/-- Report an event, unless reporting is turned off. -/
def report (layout : Layout) (report : Report) : Layout :=
  if layout.environment.config.reporting.isEnabled ∧ layout.environment.isRecording then
    { layout with reports := layout.reports ++ [report] }
  else layout

/-- Hand out attribute updates. -/
def applyUpdate (layout : Layout) (update : AttributeUpdate) : Layout :=
  if layout.environment.isRecording then { layout with updates := layout.updates ++ [update] }
  else layout

/-- Register an observer of a form on behalf of the layout. -/
def watchForm (layout : Layout) (id : NodeId) (reaction : FormReaction) : Layout :=
  let state := layout.form id
  { layout with
    forms := layout.forms.set id (state.watch reaction)
    watches := layout.watches ++ [Watch.form id state.nextObserver] }

/-- Register an observer of a pager on behalf of the layout. -/
def watchPager (layout : Layout) (id : NodeId) (reaction : PagerReaction) : Layout :=
  let state := layout.pager id
  { layout with
    pagers := layout.pagers.set id (state.watch reaction)
    watches := layout.watches ++ [Watch.pager id state.nextObserver] }

/-- Remove an observer that the layout registered. -/
def unwatch (layout : Layout) : Watch → Layout
  | .form id observer => (formPlace id).modify layout (·.unwatch observer)
  | .pager id observer => (pagerPlace id).modify layout (·.unwatch observer)

/-- Take the layout down: remove every observer that it registered and drop what waits in the
outbox. -/
def teardown (layout : Layout) : Layout :=
  let layout := layout.watches.foldl unwatch layout
  { layout with watches := [], outbox := {} }

end Layout

end FormTree

import FormTree.Layout.Cascade

set_option autoImplicit false

/-!
# Routing

How the events of a layout travel. A bubbling event is offered to one ancestor after the other
until one of them consumes it; an event that nobody consumes reaches the root, where it may be
reported. A trickling event is delivered to every descendant.

## Main definitions

* `FormTree.Layout.offer` — what a node does with an event that bubbles by.
* `FormTree.Layout.receive` — what a node does with an event that trickles down.
* `FormTree.Layout.atRoot` — what happens to an event that nobody consumed.
* `FormTree.Layout.bubble`, `FormTree.Layout.trickle`, `FormTree.Layout.broadcast`,
  `FormTree.Layout.route` — routing one event.
* `FormTree.Layout.drain`, `FormTree.Layout.settle` — routing what waits in the outbox.
-/

namespace FormTree

/-- The change that an event asks of the form that it reaches. -/
def Event.formIntent? : Event → Option FormIntent
  | .formInit id isValid => some (.track id isValid)
  | .inputInit id _ isValid => some (.track id isValid)
  | .dataChange entry => some (.input entry)
  | .inputWithdrawn id => some (.withdraw id)
  | .viewAttached id isDisplayed => some (.display id isDisplayed)
  | _ => none

/-- What a nested form in this state tells the form around it after a change. -/
def FormSpec.forward (spec : FormSpec) (state : FormState) : FormIntent → Event
  | .display _ _ => .viewAttached spec.id (!state.displayed.isEmpty)
  | _ => .dataChange (spec.entry state)

namespace Layout

/-! ## Bubbling -/

/-- What a form does with an event that bubbles by: it takes over what concerns its inputs, and
tells the form around it if it is a nested one and something changed. -/
def offerForm (layout : Layout) (id : NodeId) (spec : FormSpec) (event : Event) :
    Layout × Propagation :=
  match event with
  | .dismiss button isCancel context =>
    (layout, .next (.dismiss button isCancel (context.fillForm (layout.form id).value.context)))
  | event =>
    match event.formIntent? with
    | none => (layout, .next event)
    | some intent =>
      let before := layout.form id
      let after := layout.changeForm id intent
      if spec.isChild ∧ (after.form id).version ≠ before.version then
        (after, .next (spec.forward (before.value.reduce intent) intent))
      else (after, .stop)

/-- What a pager does with an event that bubbles by: it turns pages, and fills in contexts. -/
def offerPager (layout : Layout) (id : NodeId) (event : Event) : Layout × Propagation :=
  match event with
  | .pagerNext _ => (layout.changePager id .next, .stop)
  | .pagerPrevious _ => (layout.changePager id .previous, .stop)
  | event => (layout, .next (event.mapContext (·.fillPager (layout.pager id).value.context)))

/-- What a node does with an event that bubbles by. -/
def offer (layout : Layout) (id : NodeId) (event : Event) : Layout × Propagation :=
  match layout.tree.view? id with
  | some (.form spec) => layout.offerForm id spec event
  | some (.pager _) => layout.offerPager id event
  | _ => (layout, .next event)

/-! ## Trickling -/

/-- A node other than a form works out its enabled flag from what was announced to it. -/
def refreshNode (layout : Layout) (id : NodeId) (node : Node) : Layout :=
  match node.view with
  | .form _ => layout
  | _ =>
    layout.modifyState id fun state =>
      { state with
        isEnabled :=
          node.enable.evaluate (state.status.all (·.isEnabled))
            (state.status.map fun status => (status.isValid, status.isSubmitted))
            state.position true }

/-- A form that submits by itself is submitted, unless it was before. -/
def submitForm (layout : Layout) (id : NodeId) (spec : FormSpec) (button : Option String) :
    Layout :=
  let before := (layout.form id).value
  if spec.isChild ∨ before.isSubmitted then layout
  else
    let submitted := before.reduce .submit
    let layout := layout.changeForm id .submit
    let layout := layout.push (.bubble id (.formResult (spec.entry submitted) submitted.attributes
      ((LayoutContext.ofForm before.context).withButton button)))
    if submitted.attributes.isEmpty then layout
    else layout.applyUpdate ⟨id, submitted.attributes⟩

/-- What a node does with an event that trickles down. -/
def receive (event : Event) (layout : Layout) (id : NodeId) : Layout :=
  match layout.tree.node? id with
  | none => layout
  | some node =>
    match event with
    | .validationUpdate form status =>
      if node.scope.form = some form then
        (layout.modifyState id ({ · with status := some status })).refreshNode id node
      else layout
    | .pagerUpdate pager state =>
      if node.scope.pager = some pager then
        (layout.modifyState id ({ · with position := some state })).refreshNode id node
      else layout
    | .layoutSubmit button =>
      match node.view with
      | .form spec => layout.submitForm id spec button
      | _ => layout
    | _ => layout

/-- Deliver an event to every descendant of `origin`. -/
def trickle (layout : Layout) (origin : NodeId) (event : Event) : Layout :=
  (layout.tree.descendants origin).foldl (receive event) layout

/-- Deliver an event to the root and to every other node. -/
def broadcast (layout : Layout) (event : Event) : Layout :=
  (layout.receive event 0).trickle 0 event

/-! ## The root -/

/-- The events that follow once the submission asked for by a button is done. -/
def followUps (button : NodeId) (id : String) (effects : List ClickBehavior) : List Dispatch :=
  effects.filterMap fun effect => (Event.ofClick? effect id).map (.bubble button)

/-- What happens to an event from `origin` that nobody consumed. -/
def atRoot (layout : Layout) (origin : NodeId) (event : Event) : Layout :=
  match event with
  | .formDisplay context => layout.report ⟨origin, .formDisplay, context⟩
  | .formResult entry attributes context =>
    layout.report ⟨origin, .formResult entry attributes, context⟩
  | .dismiss button isCancel context =>
    if layout.dismissal.isSome then layout
    else
      { layout with dismissal := some ⟨button, isCancel⟩ }.report
        ⟨origin, .dismiss button isCancel, context⟩
  | .buttonSubmit button id effects =>
    (layout.broadcast (.layoutSubmit (some id))).pushAll (followUps button id effects)
  | _ => layout

/-- Offer an event from `origin` to the given nodes in turn, and then to the root. -/
def bubbleTo (origin : NodeId) : List NodeId → Event → Layout → Layout
  | [], event, layout => layout.atRoot origin event
  | id :: rest, event, layout =>
    match layout.offer id event with
    | (layout, .stop) => layout
    | (layout, .next event) => bubbleTo origin rest event layout

/-- Offer an event to the ancestors of `origin`, and then to the root. -/
def bubble (layout : Layout) (origin : NodeId) (event : Event) : Layout :=
  bubbleTo origin (layout.tree.ancestors origin) event layout

/-! ## Dispatches -/

/-- The dispatch names no node of the layout as its origin, so there is no way for it to take. -/
def isStray (layout : Layout) : Dispatch → Bool
  | .bubble origin _ | .trickle origin _ => (layout.tree.node? origin).isNone
  | .broadcast _ => false

/-- Route one dispatch. -/
def route (layout : Layout) : Dispatch → Layout
  | .bubble origin event => layout.bubble origin event
  | .trickle origin event => layout.trickle origin event
  | .broadcast event => layout.broadcast event

/-- Route what waits in the outbox, and what is added meanwhile, at most `limit` dispatches; what
is left then is dropped. A stray dispatch breaks this off, and the rest keeps waiting. -/
def drain : Nat → Layout → Layout
  | 0, layout => { layout with outbox := {}, dropped := layout.dropped ++ layout.outbox.queue }
  | limit + 1, layout =>
    match layout.outbox.pop? with
    | none => layout
    | some (dispatch, outbox) =>
      if layout.isStray dispatch then
        { layout with outbox, strays := layout.strays ++ [dispatch] }
      else drain limit ({ layout with outbox }.route dispatch)

/-- Route what waits in the outbox, up to the limit of the settings. -/
def settle (layout : Layout) : Layout :=
  layout.drain layout.environment.config.bus.maxDispatchesPerPass

end Layout

end FormTree

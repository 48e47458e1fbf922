import FormTree.Proofs.Layout.Interventions

set_option autoImplicit false

/-!
# What comes past the root

An event that no node on its way up consumes comes past the root. Which events do so, and in which
order, is up to the course of routing: what is routed may put further dispatches into the outbox,
and these are routed in turn.

## Main definitions

* `FormTree.Layout.ascend` — the way up of an event, as far as to the root.
* `FormTree.Layout.passing?` — the event that comes past the root when a dispatch is routed.
* `FormTree.Layout.passingSettle` — those that do so while the outbox is routed.
* `FormTree.Opening`, `FormTree.Layout.opening` — what a call does before the outbox is routed.
* `FormTree.Layout.passed` — the events that come past the root in the course of interventions.

## Main results

* `FormTree.Layout.bubbleTo_eq_ascend` — an event that comes past the root is met there.
* `FormTree.Layout.perform_eq_opening` — a call does so, and then the outbox is routed.
* `FormTree.Layout.begins_opening` — what it may do before.
-/

namespace FormTree

namespace Layout

/-! ## One dispatch -/

/-- Offer an event to the given nodes in turn; what is left of it if none of them consumes it. -/
def ascend : List NodeId → Event → Layout → Layout × Option Event
  | [], event, layout => (layout, some event)
  | id :: rest, event, layout =>
    match layout.offer id event with
    | (layout, .stop) => (layout, none)
    | (layout, .next event) => ascend rest event layout

/-- **What is left of an event comes to the root.** -/
theorem bubbleTo_eq_ascend (origin : NodeId) (path : List NodeId) (event : Event)
    (layout : Layout) : bubbleTo origin path event layout =
      match ascend path event layout with
      | (layout, none) => layout
      | (layout, some event) => layout.atRoot origin event := by
  induction path generalizing event layout with
  | nil => rfl
  | cons id path ih =>
    rw [bubbleTo, ascend]
    generalize layout.offer id event = offered
    obtain ⟨layout', propagation⟩ := offered
    cases propagation with
    | stop => rfl
    | next event' => exact ih event' layout'

/-- The event that comes past the root when a dispatch is routed. -/
def passing? (layout : Layout) : Dispatch → Option Event
  | .bubble origin event => (ascend (layout.tree.ancestors origin) event layout).2
  | _ => none

/-! ## The outbox -/

/-- The events that come past the root while what waits is routed, at most `limit` dispatches. -/
def passingDrain : Nat → Layout → List Event
  | 0, _ => []
  | limit + 1, layout =>
    match layout.outbox.pop? with
    | none => []
    | some (dispatch, outbox) =>
      if layout.isStray dispatch then []
      else
        let layout := { layout with outbox }
        (layout.passing? dispatch).toList ++ passingDrain limit (layout.route dispatch)

/-- The events that come past the root while what waits is routed. -/
def passingSettle (layout : Layout) : List Event :=
  passingDrain layout.environment.config.bus.maxDispatchesPerPass layout

end Layout

/-! ## Calls -/

/-- What a call does before what waits is routed. -/
inductive Opening where
  /-- It changes the layout, and nothing is routed. -/
  | rest (layout : Layout)
  /-- It changes the layout, and what waits is routed. -/
  | settle (layout : Layout)
  /-- It changes the layout, a dispatch is routed at once, and then what waits. -/
  | route (layout : Layout) (dispatch : Dispatch)

namespace Opening

/-- The layout before anything is routed. -/
def start : Opening → Layout
  | .rest layout | .settle layout | .route layout _ => layout

/-- The layout in the end. -/
def close : Opening → Layout
  | .rest layout => layout
  | .settle layout => layout.settle
  | .route layout dispatch => (layout.route dispatch).settle

/-- The events that come past the root meanwhile. -/
def passed : Opening → List Event
  | .rest _ => []
  | .settle layout => layout.passingSettle
  | .route layout dispatch =>
    (layout.passing? dispatch).toList ++ (layout.route dispatch).passingSettle

end Opening

namespace Layout

/-- An input goes on or off screen. -/
def openingDisplay (layout : Layout) (id : NodeId) (isDisplayed : Bool) :
    Except LayoutError Opening := do
  match (← layout.node id).view with
  | .input spec => return .route layout (.bubble id (.viewAttached spec.id isDisplayed))
  | _ => return .rest layout

/-- What a call does before what waits is routed, or the reason why it is refused. -/
def opening (layout : Layout) : Call → Except LayoutError Opening
  | .attach id => do
    let _ ← layout.node id
    (layout.modifyState id ({ · with isAttached := true })).openingDisplay id true
  | .detach id => do
    let _ ← layout.node id
    (layout.modifyState id ({ · with isAttached := false })).openingDisplay id false
  | .setDisplayed id isDisplayed => layout.openingDisplay id isDisplayed
  | .setAnswer id answer => do
    let spec ← layout.inputSpec id
    let input ← (⟨spec, layout.answers.get id⟩ : InputNode).setAnswer answer
    return .route { layout with answers := layout.answers.set id input.answer }
      (.bubble id (.dataChange input.entry))
  | .withdraw id => do
    let spec ← layout.inputSpec id
    return .route (layout.modifyState id ({ · with isAttached := false }))
      (.bubble id (.inputWithdrawn spec.id))
  | .click id => do
    let spec ← layout.buttonSpec id
    if !layout.isEnabled id then return .rest layout
    else if spec.submits then
      return .route layout
        (.bubble id (.buttonSubmit id spec.id (spec.effects.filter (· ≠ .formSubmit))))
    else return .settle (layout.pushAll (followUps id spec.id spec.effects))
  | .scrollTo id position => do
    let _ ← layout.pagerSpec id
    return .settle (layout.changePager id (.scroll position))
  | .dispatch origin event direction => do
    let _ ← layout.node origin
    match direction with
    | .bubble => return .route layout (.bubble origin event)
    | .trickle => return .route layout (.trickle origin event)

lemma setDisplayed_eq_opening (layout : Layout) (id : NodeId) (isDisplayed : Bool) :
    layout.setDisplayed id isDisplayed =
      (layout.openingDisplay id isDisplayed).map Opening.close := by
  unfold setDisplayed openingDisplay
  cases layout.node id with
  | error error => rfl
  | ok node => cases hview : node.view <;> simp [bind, Except.bind, hview] <;> rfl

/-- **A call does what it does at first, and then what waits is routed.** -/
theorem perform_eq_opening (layout : Layout) (call : Call) :
    layout.perform call = (layout.opening call).map Opening.close := by
  cases call with
  | attach id =>
    rw [perform, setAttached, opening]
    cases layout.node id with
    | error error => rfl
    | ok node => exact setDisplayed_eq_opening _ id true
  | detach id =>
    rw [perform, setAttached, opening]
    cases layout.node id with
    | error error => rfl
    | ok node => exact setDisplayed_eq_opening _ id false
  | setDisplayed id isDisplayed => exact setDisplayed_eq_opening layout id isDisplayed
  | setAnswer id answer =>
    rw [perform, setAnswer, opening]
    cases layout.inputSpec id with
    | error error => rfl
    | ok spec =>
      dsimp only [bind, Except.bind]
      cases (⟨spec, layout.answers.get id⟩ : InputNode).setAnswer answer <;> rfl
  | withdraw id =>
    rw [perform, withdraw, opening]
    cases layout.inputSpec id <;> rfl
  | click id =>
    rw [perform, click, opening]
    cases layout.buttonSpec id with
    | error error => rfl
    | ok spec =>
      dsimp only [bind, Except.bind]
      cases layout.isEnabled id <;> cases spec.submits <;> rfl
  | scrollTo id position =>
    rw [perform, scrollTo, opening]
    cases layout.pagerSpec id <;> rfl
  | dispatch origin event direction =>
    cases direction with
    | bubble =>
      rw [perform, dispatch, opening]
      cases layout.node origin <;> rfl
    | trickle =>
      rw [perform, dispatch, opening]
      cases layout.node origin <;> rfl

/-- What a call may do to a layout before anything is routed. -/
inductive Begins (layout : Layout) : Layout → Prop
  /-- Nothing. -/
  | same : Begins layout layout
  /-- The view of a node is attached or detached. -/
  | note (id : NodeId) (change : NodeState → NodeState) :
    Begins layout (layout.modifyState id change)
  /-- An input is answered. -/
  | answer (answers : Table Answer) : Begins layout { layout with answers }
  /-- What a button asks for is put into the outbox. -/
  | follow (dispatches : List Dispatch) : Begins layout (layout.pushAll dispatches)
  /-- A pager turns pages. -/
  | page (id : NodeId) (intent : PagerIntent) : Begins layout (layout.changePager id intent)

lemma start_openingDisplay {layout : Layout} {id : NodeId} {isDisplayed : Bool}
    {opening : Opening} (h : layout.openingDisplay id isDisplayed = .ok opening) :
    opening.start = layout := by
  unfold openingDisplay at h
  cases hnode : layout.node id with
  | error error =>
    rw [hnode] at h
    cases h
  | ok node =>
    rw [hnode] at h
    dsimp only [bind, Except.bind] at h
    split at h <;> cases h <;> rfl

/-- **A call does little before anything is routed.** -/
theorem begins_opening {layout : Layout} {call : Call} {opening : Opening}
    (h : layout.opening call = .ok opening) : Begins layout opening.start := by
  cases call with
  | attach id =>
    rw [Layout.opening] at h
    cases hnode : layout.node id <;> rw [hnode] at h
    · cases h
    · rw [start_openingDisplay h]
      exact .note id _
  | detach id =>
    rw [Layout.opening] at h
    cases hnode : layout.node id <;> rw [hnode] at h
    · cases h
    · rw [start_openingDisplay h]
      exact .note id _
  | setDisplayed id isDisplayed =>
    rw [start_openingDisplay h]
    exact .same
  | setAnswer id answer =>
    rw [Layout.opening] at h
    cases hspec : layout.inputSpec id <;> rw [hspec] at h
    · cases h
    · dsimp only [bind, Except.bind] at h
      split at h <;> cases h
      exact .answer _
  | withdraw id =>
    rw [Layout.opening] at h
    cases hspec : layout.inputSpec id <;> rw [hspec] at h <;> cases h
    exact .note id _
  | click id =>
    rw [Layout.opening] at h
    cases hspec : layout.buttonSpec id <;> rw [hspec] at h
    · cases h
    · dsimp only [bind, Except.bind] at h
      split at h
      · cases h
        exact .same
      · split at h <;> cases h
        · exact .same
        · exact .follow _
  | scrollTo id position =>
    rw [Layout.opening] at h
    cases hspec : layout.pagerSpec id <;> rw [hspec] at h <;> cases h
    exact .page id _
  | dispatch origin event direction =>
    cases direction with
    | bubble =>
      rw [Layout.opening] at h
      cases hnode : layout.node origin <;> rw [hnode] at h <;> cases h
      exact .same
    | trickle =>
      rw [Layout.opening] at h
      cases hnode : layout.node origin <;> rw [hnode] at h <;> cases h
      exact .same

/-! ## Interventions -/

/-- The events that come past the root in the course of one intervention. -/
def passedBy (layout : Layout) : Intervention → List Event
  | .call call =>
    match layout.opening call with
    | .ok opening => opening.passed
    | .error _ => []
  | _ => []

/-- The events that come past the root in the course of several interventions, in that order. -/
def passed (layout : Layout) : List Intervention → List Event
  | [] => []
  | intervention :: rest =>
    match layout.intervene intervention with
    | .ok (_, layout') => layout.passedBy intervention ++ layout'.passed rest
    | .error _ => layout.passed rest

end Layout

end FormTree

import FormTree.Proofs.Layout.Keeping
import FormTree.Proofs.Layout.Notices

set_option autoImplicit false

/-!
# What routing leaves alone

A property that no change of a form or of a pager breaks, and that does not look at what nodes note,
at the dismissal, and at what is told, lasts while an event is routed. So the rest of a layout stays
as it is: its tree, its settings, its answers, its hold on observers, and what routing put aside.

## Main definitions

* `FormTree.Layout.IsSteady` — such a property.
* `FormTree.Layout.ground` — what routing an event leaves alone.
* `FormTree.Layout.fixtures` — what routing all that waits leaves alone.

## Main results

* `FormTree.Layout.IsSteady.steps`, `FormTree.Layout.IsSteady.route` — a steady property lasts while
  an event is routed.
* `FormTree.Layout.ground_route` — and the ground stays as it is.
* `FormTree.Layout.fixtures_settle` — the fixtures stay as they are while all that waits is routed.
-/

namespace FormTree.Layout

variable {allow : Allowance} {layout layout' : Layout} {P : Layout → Prop}

/-! ## Steady properties -/

theorem IsKept.pushAll (kept : IsKept P) (h : P layout) (dispatches : List Dispatch) :
    P (layout.pushAll dispatches) := by
  unfold Layout.pushAll
  induction dispatches generalizing layout with
  | nil => exact h
  | cons dispatch dispatches ih => exact ih (kept.push _ dispatch h)

/-- No change of a form or of a pager breaks the property, and it does not look at what nodes note,
at the dismissal, and at what is told. -/
structure IsSteady (P : Layout → Prop) : Prop extends IsKept P where
  aside : ∀ (world : Layout) (states : Table NodeState) (dismissal : Option Dismissal)
    (reports : List Report) (updates : List AttributeUpdate), P world →
    P { world with states, dismissal, reports, updates }

namespace IsSteady

variable (steady : IsSteady P)
include steady

theorem report (h : P layout) (report : Report) : P (layout.report report) := by
  unfold Layout.report
  split
  · exact steady.aside layout _ _ _ _ h
  · exact h

theorem submitForm (h : P layout) (id : NodeId) (spec : FormSpec) (button : Option String) :
    P (layout.submitForm id spec button) := by
  have hchange : P (layout.changeForm id .submit) := steady.updateForm _ id .submit layout h
  unfold Layout.submitForm
  dsimp only
  split
  · exact h
  · have hpushed := fun result => steady.push _ (.bubble id result) hchange
    split
    · exact hpushed _
    · unfold applyUpdate
      split
      · exact steady.aside _ _ _ _ _ (hpushed _)
      · exact hpushed _

/-- **A steady property lasts whatever a node does.** -/
theorem step (h : P layout) (step : Step allow layout layout') : P layout' := by
  cases step with
  | change _ _ => exact steady.updateForm _ _ _ _ h
  | @page id intent _ => exact steady.updatePager h id (·.reduce intent)
  | note _ _ => exact steady.aside layout _ _ _ _ h
  | submit button _ _ => exact steady.submitForm h _ _ button
  | follow _ _ => exact steady.push _ _ h
  | dismiss _ => exact steady.aside layout _ _ _ _ h
  | reportDismissal _ _ _ _ => exact steady.report h _

theorem steps (h : P layout) (steps : Steps allow layout layout') : P layout' := by
  induction steps with
  | refl => exact h
  | tail _ step ih => exact steady.step ih step

/-- **A steady property lasts whatever is routed.** -/
theorem route (h : P layout) (dispatch : Dispatch) : P (layout.route dispatch) := by
  cases hreport : dispatch.isReport with
  | true =>
    obtain ⟨reports, hroute⟩ := route_report layout hreport
    rw [hroute]
    exact steady.aside layout _ _ _ _ h
  | false => exact steady.steps h (steps_route layout hreport dispatch.event.isWithin_all)

end IsSteady

/-! ## The ground -/

/-- A layout without what routing an event reaches. -/
def ground (layout : Layout) : Layout :=
  { layout.frame with states := {}, dismissal := none, reports := [], updates := [] }

theorem isSteady_ground (layout : Layout) :
    IsSteady fun world => world.ground = layout.ground where
  commitForm _ _ _ h := h
  markForm _ _ _ _ h := h
  leave _ _ _ _ _ _ _ h := h
  announce _ _ _ h := h
  push _ _ h := h
  commitPager _ _ _ h := h
  markPager _ _ _ _ h := h
  aside _ _ _ _ _ h := h

theorem ground_steps (steps : Steps allow layout layout') : layout'.ground = layout.ground :=
  (isSteady_ground layout).steps rfl steps

/-- **Routing an event leaves the ground alone.** -/
theorem ground_route (layout : Layout) (dispatch : Dispatch) :
    (layout.route dispatch).ground = layout.ground :=
  (isSteady_ground layout).route rfl dispatch

/-! ## Fixtures -/

/-- The tree, the settings, the answers, and the layout's hold on observers. -/
def fixtures (layout : Layout) : Layout where
  tree := layout.tree
  environment := layout.environment
  answers := layout.answers
  watches := layout.watches

/-- What changes leave alone contains the fixtures. -/
lemma fixtures_of_frame (h : layout'.frame = layout.frame) : layout'.fixtures = layout.fixtures :=
  (congrArg fixtures h :)

/-- **Routing a dispatch leaves the fixtures alone.** -/
theorem fixtures_route (layout : Layout) (dispatch : Dispatch) :
    (layout.route dispatch).fixtures = layout.fixtures :=
  (congrArg fixtures (ground_route layout dispatch) :)

/-- **Routing what waits leaves the fixtures alone.** -/
theorem fixtures_settle (layout : Layout) : layout.settle.fixtures = layout.fixtures :=
  drain_induction (P := fun world => world.fixtures = layout.fixtures)
    (Q := fun world => world.fixtures = layout.fixtures)
    (fun world dispatch rest h _ _ =>
      (fixtures_route { world with outbox := ⟨rest⟩ } dispatch).trans h)
    (fun _ h _ => h) (fun _ h => h) (fun _ _ _ h _ _ => h) _ layout rfl

theorem fixtures_settle_bubble (layout : Layout) (origin : NodeId) (event : Event) :
    (layout.bubble origin event).settle.fixtures = layout.fixtures :=
  (fixtures_settle _).trans (fixtures_route layout (.bubble origin event))

end FormTree.Layout

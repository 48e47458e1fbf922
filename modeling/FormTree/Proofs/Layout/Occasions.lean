import FormTree.Proofs.Layout.Passing
import FormTree.Proofs.Layout.Settling
import FormTree.Proofs.Layout.Travel

set_option autoImplicit false

/-!
# The occasions of reports

A report is made when a dispatch is routed, and what it says about its surroundings is how they are
then. The occasions of a run are the dispatches that are routed in its course, in that order, each
with the layout as it is at that moment.

## Main definitions

* `FormTree.Layout.made` — the reports that are made when a dispatch is routed.
* `FormTree.Layout.occasionsSettle` — the occasions while what waits is routed.
* `FormTree.Layout.occasions` — the occasions of an activation and the calls after it.
* `FormTree.LayoutContext.Keeps` — a context has all the parts that another one has.

## Main results

* `FormTree.Layout.offer_of_context` — a node that is offered an event that ends up in a report lets
  it go on, and fills in nothing that is there.
* `FormTree.Layout.reports_bubble`, `FormTree.Layout.reports_trickle`,
  `FormTree.Layout.reports_broadcast` — routing other events reports nothing.
-/

namespace FormTree

/-! ## Contexts on the way -/

/-- The second context has all the parts that the first one has. -/
structure LayoutContext.Keeps (context context' : LayoutContext) : Prop where
  form : ∀ form, context.form = some form → context'.form = some form
  pager : ∀ pager, context.pager = some pager → context'.pager = some pager
  button : context'.button = context.button

namespace LayoutContext.Keeps

variable (context : LayoutContext)

lemma refl : context.Keeps context := ⟨fun _ h => h, fun _ h => h, rfl⟩

lemma fillForm (form : FormContext) : context.Keeps (context.fillForm form) :=
  ⟨fun _ h => by rw [LayoutContext.fillForm, h]; rfl, fun _ h => h, rfl⟩

lemma fillPager (pager : PagerContext) : context.Keeps (context.fillPager pager) :=
  ⟨fun _ h => h, fun _ h => by rw [LayoutContext.fillPager, h]; rfl, rfl⟩

end LayoutContext.Keeps

/-- A form tells the form around it nothing that ends up in a report. -/
lemma FormSpec.context?_forward (spec : FormSpec) (state : FormState) (intent : FormIntent) :
    (spec.forward state intent).context? = none := by
  cases intent <;> rfl

namespace Layout

variable {layout layout' : Layout} {origin id : NodeId} {event : Event}

/-- **No node stops an event that ends up in a report, and none replaces a part of its context.** -/
theorem offer_of_context {context : LayoutContext} (h : event.context? = some context)
    (layout : Layout) (id : NodeId) :
    ∃ event' context', layout.offer id event = (layout, .next event') ∧
      event'.kind = event.kind ∧ event'.context? = some context' ∧ context.Keeps context' := by
  unfold offer
  split
  · -- a form fills in its part where a dismissal comes by
    cases event with
    | dismiss button isCancel given =>
      cases h
      exact ⟨_, _, rfl, rfl, rfl, .fillForm _ _⟩
    | formDisplay given =>
      cases h
      exact ⟨_, _, rfl, rfl, rfl, .refl _⟩
    | formResult entry attributes given =>
      cases h
      exact ⟨_, _, rfl, rfl, rfl, .refl _⟩
    | _ => cases h
  · -- a pager fills in its part whatever comes by
    cases event with
    | dismiss button isCancel given =>
      cases h
      exact ⟨_, _, rfl, rfl, rfl, .fillPager _ _⟩
    | formDisplay given =>
      cases h
      exact ⟨_, _, rfl, rfl, rfl, .fillPager _ _⟩
    | formResult entry attributes given =>
      cases h
      exact ⟨_, _, rfl, rfl, rfl, .fillPager _ _⟩
    | _ => cases h
  · exact ⟨event, context, rfl, rfl, h, .refl _⟩

/-! ## What reports nothing -/

lemma reports_of_frame (h : layout'.frame = layout.frame) : layout'.reports = layout.reports :=
  (congrArg Layout.reports h :)

lemma reports_pushAll (layout : Layout) (dispatches : List Dispatch) :
    (layout.pushAll dispatches).reports = layout.reports := by
  rw [pushAll_eq]

/-- A node that is offered an event reports nothing, and what it lets go on ends up in a report only
if the event does. -/
lemma reports_offer (layout : Layout) (id : NodeId) (h : event.context? = none) :
    (layout.offer id event).1.reports = layout.reports ∧
      ∀ event', (layout.offer id event).2 = .next event' → event'.context? = none := by
  have hsame : ∀ event', Propagation.next event = .next event' → event'.context? = none := by
    rintro _ ⟨⟩
    exact h
  have hstop : ∀ event', Propagation.stop = .next event' → event'.context? = none := nofun
  unfold offer
  split
  · unfold offerForm
    split
    · cases h
    · split
      · exact ⟨rfl, hsame⟩
      · have hreports := reports_of_frame (frame_changeForm layout id ‹FormIntent›)
        dsimp only
        split
        · refine ⟨hreports, ?_⟩
          rintro _ ⟨⟩
          exact FormSpec.context?_forward _ _ _
        · exact ⟨hreports, hstop⟩
  · unfold offerPager
    split
    · exact ⟨reports_of_frame (frame_changePager layout id .next), hstop⟩
    · exact ⟨reports_of_frame (frame_changePager layout id .previous), hstop⟩
    · refine ⟨rfl, ?_⟩
      rintro _ ⟨⟩
      cases event <;> first | rfl | cases h
  · exact ⟨rfl, hsame⟩

lemma reports_refreshNode (layout : Layout) (id : NodeId) (node : Node) :
    (layout.refreshNode id node).reports = layout.reports := by
  unfold refreshNode
  split <;> rfl

/-- The submission of a form is reported later, when its dispatch is routed. -/
lemma reports_submitForm (layout : Layout) (id : NodeId) (spec : FormSpec)
    (button : Option String) : (layout.submitForm id spec button).reports = layout.reports := by
  have hchange := reports_of_frame (frame_changeForm layout id .submit)
  unfold submitForm
  dsimp only
  split
  · rfl
  · split
    · exact hchange
    · unfold applyUpdate
      split <;> exact hchange

lemma reports_receive (event : Event) (layout : Layout) (id : NodeId) :
    (layout.receive event id).reports = layout.reports := by
  unfold receive
  split
  · rfl
  · cases event with
    | validationUpdate form status =>
      dsimp only
      split
      · exact reports_refreshNode _ _ _
      · rfl
    | pagerUpdate pager state =>
      dsimp only
      split
      · exact reports_refreshNode _ _ _
      · rfl
    | layoutSubmit button =>
      dsimp only
      split
      · exact reports_submitForm layout id _ button
      · rfl
    | _ => rfl

/-- **What trickles down reports nothing.** -/
theorem reports_trickle (layout : Layout) (origin : NodeId) (event : Event) :
    (layout.trickle origin event).reports = layout.reports := by
  unfold trickle
  generalize layout.tree.descendants origin = list
  induction list generalizing layout with
  | nil => rfl
  | cons first rest ih => exact (ih _).trans (reports_receive event layout first)

theorem reports_broadcast (layout : Layout) (event : Event) :
    (layout.broadcast event).reports = layout.reports :=
  (reports_trickle _ 0 event).trans (reports_receive event layout 0)

lemma reports_atRoot (layout : Layout) (origin : NodeId) (h : event.context? = none) :
    (layout.atRoot origin event).reports = layout.reports := by
  cases event with
  | buttonSubmit button identifier effects =>
    exact (reports_pushAll _ _).trans (reports_broadcast layout _)
  | formDisplay _ => cases h
  | formResult _ _ _ => cases h
  | dismiss _ _ _ => cases h
  | _ => rfl

/-- **Routing an event that carries no context reports nothing.** -/
theorem reports_bubble (layout : Layout) (origin : NodeId) (h : event.context? = none) :
    (layout.bubble origin event).reports = layout.reports := by
  unfold bubble
  generalize layout.tree.ancestors origin = list
  induction list generalizing layout event with
  | nil => exact reports_atRoot layout origin h
  | cons up rest ih =>
    obtain ⟨hreports, hnext⟩ := reports_offer layout up h
    rw [bubbleTo]
    generalize layout.offer up event = offered at hreports hnext
    obtain ⟨layout', propagation⟩ := offered
    cases propagation with
    | stop => exact hreports
    | next event' => exact (ih layout' (hnext event' rfl)).trans hreports

/-! ## Occasions -/

/-- The reports that are made when a dispatch is routed. -/
def made (layout : Layout) (dispatch : Dispatch) : List Report :=
  (layout.route dispatch).reports.drop layout.reports.length

/-- The dispatches that are routed while what waits is routed, at most `limit` of them, each with
the layout at that moment. -/
def occasionsDrain : Nat → Layout → List (Layout × Dispatch)
  | 0, _ => []
  | limit + 1, layout =>
    match layout.outbox.pop? with
    | none => []
    | some (dispatch, outbox) =>
      if layout.isStray dispatch then []
      else
        let layout := { layout with outbox }
        (layout, dispatch) :: occasionsDrain limit (layout.route dispatch)

/-- The occasions while what waits is routed. -/
def occasionsSettle (layout : Layout) : List (Layout × Dispatch) :=
  occasionsDrain layout.environment.config.bus.maxDispatchesPerPass layout

end Layout

/-- The occasions of a call: a dispatch that it routes at once, and then what waits. -/
def Opening.occasions : Opening → List (Layout × Dispatch)
  | .rest _ => []
  | .settle layout => layout.occasionsSettle
  | .route layout dispatch => (layout, dispatch) :: (layout.route dispatch).occasionsSettle

namespace Layout

/-- The occasions of several calls, one after the other. -/
def occasionsRun (layout : Layout) : List Call → List (Layout × Dispatch)
  | [] => []
  | call :: rest =>
    match layout.opening call with
    | .ok opening => opening.occasions ++ opening.close.occasionsRun rest
    | .error _ => layout.occasionsRun rest

/-- The occasions of an activation and of the calls after it. -/
def occasions (environment : Environment) (spec : Spec) (calls : List Call) :
    List (Layout × Dispatch) :=
  let built := build environment (Tree.ofSpec spec)
  built.occasionsSettle ++ built.settle.occasionsRun calls

end Layout

end FormTree

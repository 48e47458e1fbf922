import FormTree.Proofs.Layout.Passing
import FormTree.Proofs.Layout.Run

set_option autoImplicit false

/-!
# The first dismissal wins

A layout is dismissed by the first event that comes past the root and asks for it, and this is
reported once. Later ones change nothing, from wherever they come: from the tap on a button, from
what follows a submission, or from outside.

## Main definitions

* `FormTree.Event.dismissal?`, `FormTree.Report.dismissal?` — the dismissal that an event asks for,
  and the one that a report tells of.
* `FormTree.Layout.Heeds` — a layout took notice of the events that came past the root.

## Main results

* `FormTree.Layout.heeds_atRoot` — what an event does at the root.
* `FormTree.Layout.heeds_settle`, `FormTree.Layout.heeds_play` — all else brings events there, and
  neither dismisses the layout nor reports a dismissal.
* `FormTree.Layout.first_dismissal_wins` — how a layout was dismissed, whatever happened to it.
-/

namespace FormTree

/-- The dismissal that an event asks for. -/
def Event.dismissal? : Event → Option Dismissal
  | .dismiss button isCancel _ => some ⟨button, isCancel⟩
  | _ => none

/-- The dismissal that a report tells of. -/
def Report.dismissal? (report : Report) : Option Dismissal :=
  match report.event with
  | .dismiss button isCancel => some ⟨button, isCancel⟩
  | _ => none

namespace Layout

variable {layout layout' layout'' : Layout} {events events' : List Event}

/-- Reports are asked for, and they are kept. -/
def IsReporting (layout : Layout) : Prop :=
  layout.environment.config.reporting.isEnabled = true ∧ layout.environment.isRecording = true

/-- The dismissals that were reported, oldest first. -/
def reportedDismissals (layout : Layout) : List Dismissal :=
  layout.reports.filterMap (·.dismissal?)

/-- **The layout took notice of the events that came past the root.** -/
structure Heeds (events : List Event) (layout layout' : Layout) : Prop where
  environment : layout'.environment = layout.environment
  /-- It stays dismissed as it was, or is dismissed as the first of them asks for. -/
  dismissal : layout'.dismissal = layout.dismissal.or (events.findSome? (·.dismissal?))
  /-- Its dismissal stays the one that is reported. -/
  reported : layout.IsReporting → layout.reportedDismissals = layout.dismissal.toList →
    layout'.reportedDismissals = layout'.dismissal.toList

namespace Heeds

/-- What leaves the dismissal and the reports alone. -/
theorem of_same (henvironment : layout'.environment = layout.environment)
    (hdismissal : layout'.dismissal = layout.dismissal)
    (hreports : layout'.reports = layout.reports) : Heeds [] layout layout' where
  environment := henvironment
  dismissal := by simp [hdismissal]
  reported _ h := by rw [reportedDismissals, hreports, hdismissal]; exact h

theorem refl (layout : Layout) : Heeds [] layout layout := of_same rfl rfl rfl

/-- Dismissal and reports belong to the frame. -/
theorem of_frame (h : layout'.frame = layout.frame) : Heeds [] layout layout' :=
  of_same (congrArg Layout.environment h :) (congrArg Layout.dismissal h :)
    (congrArg Layout.reports h :)

/-- One after the other. -/
theorem trans (h : Heeds events layout layout') (h' : Heeds events' layout' layout'') :
    Heeds (events ++ events') layout layout'' where
  environment := h'.environment.trans h.environment
  dismissal := by rw [h'.dismissal, h.dismissal, List.findSome?_append, Option.or_assoc]
  reported hreporting hreported := by
    refine h'.reported ?_ (h.reported hreporting hreported)
    rw [IsReporting, h.environment]
    exact hreporting

/-- What comes past the root after what brings nothing there. -/
theorem after (h : Heeds [] layout layout') (h' : Heeds events layout' layout'') :
    Heeds events layout layout'' := h.trans h'

end Heeds

/-! ## Changes -/

theorem heeds_changeForm (layout : Layout) (id : NodeId) (intent : FormIntent) :
    Heeds [] layout (layout.changeForm id intent) := .of_frame (frame_changeForm layout id intent)

theorem heeds_changePager (layout : Layout) (id : NodeId) (intent : PagerIntent) :
    Heeds [] layout (layout.changePager id intent) :=
  .of_frame (frame_changePager layout id intent)

/-- What is put into the outbox does not come past the root yet. -/
theorem heeds_pushAll (layout : Layout) (dispatches : List Dispatch) :
    Heeds [] layout (layout.pushAll dispatches) := by
  unfold pushAll
  induction dispatches generalizing layout with
  | nil => exact .refl layout
  | cons dispatch dispatches ih =>
    have hpush : Heeds [] layout (layout.push dispatch) := .of_same rfl rfl rfl
    exact hpush.after (ih _)

/-- A report of something else. -/
theorem heeds_report (layout : Layout) {report : Report} (h : report.dismissal? = none) :
    Heeds [] layout (layout.report report) := by
  unfold Layout.report
  split
  · refine ⟨rfl, by simp, fun _ hreported => ?_⟩
    simpa [reportedDismissals, h] using hreported
  · exact .refl layout

theorem heeds_modifyState (layout : Layout) (id : NodeId) (change : NodeState → NodeState) :
    Heeds [] layout (layout.modifyState id change) := .of_same rfl rfl rfl

theorem heeds_applyUpdate (layout : Layout) (update : AttributeUpdate) :
    Heeds [] layout (layout.applyUpdate update) := by
  unfold applyUpdate
  split
  · exact .of_same rfl rfl rfl
  · exact .refl layout

/-! ## On the way up -/

/-- A node that consumes an event, or lets it pass, does not dismiss the layout. -/
theorem heeds_offer (layout : Layout) (id : NodeId) (event : Event) :
    Heeds [] layout (layout.offer id event).1 := by
  unfold offer
  split
  · unfold offerForm
    split
    · exact .refl layout
    · split
      · exact .refl layout
      · dsimp only
        split <;> exact heeds_changeForm layout id _
  · unfold offerPager
    split
    · exact heeds_changePager layout id .next
    · exact heeds_changePager layout id .previous
    · exact .refl layout
  · exact .refl layout

/-- Nor does the way up. -/
theorem heeds_ascend (path : List NodeId) (event : Event) (layout : Layout) :
    Heeds [] layout (ascend path event layout).1 := by
  induction path generalizing event layout with
  | nil => exact .refl layout
  | cons id path ih =>
    have hoffer := heeds_offer layout id event
    rw [ascend]
    generalize layout.offer id event = offered at hoffer ⊢
    obtain ⟨layout', propagation⟩ := offered
    cases propagation with
    | stop => exact hoffer
    | next event' => exact hoffer.after (ih event' layout')

/-! ## On the way down -/

theorem heeds_submitForm (layout : Layout) (id : NodeId) (spec : FormSpec)
    (button : Option String) : Heeds [] layout (layout.submitForm id spec button) := by
  unfold submitForm
  dsimp only
  split
  · exact .refl layout
  · have hpush := (heeds_changeForm layout id .submit).after (heeds_pushAll _
      [.bubble id (.formResult (spec.entry ((layout.form id).value.reduce .submit))
        ((layout.form id).value.reduce .submit).attributes
        ((LayoutContext.ofForm (layout.form id).value.context).withButton button))])
    split
    · exact hpush
    · exact hpush.after (heeds_applyUpdate _ _)

/-- A node that receives an event does not dismiss the layout. -/
theorem heeds_receive (event : Event) (layout : Layout) (id : NodeId) :
    Heeds [] layout (layout.receive event id) := by
  have hrefresh : ∀ (node : Node) (world : Layout), Heeds [] world (world.refreshNode id node) := by
    intro node world
    unfold refreshNode
    split
    · exact .refl world
    · exact heeds_modifyState world id _
  unfold receive
  split
  · exact .refl layout
  · split
    · split
      · exact (heeds_modifyState layout id _).after (hrefresh _ _)
      · exact .refl layout
    · split
      · exact (heeds_modifyState layout id _).after (hrefresh _ _)
      · exact .refl layout
    · split
      · exact heeds_submitForm layout id _ _
      · exact .refl layout
    · exact .refl layout

theorem heeds_trickle (layout : Layout) (origin : NodeId) (event : Event) :
    Heeds [] layout (layout.trickle origin event) := by
  unfold trickle
  generalize layout.tree.descendants origin = nodes
  induction nodes generalizing layout with
  | nil => exact .refl layout
  | cons id nodes ih => exact (heeds_receive event layout id).after (ih _)

theorem heeds_broadcast (layout : Layout) (event : Event) :
    Heeds [] layout (layout.broadcast event) :=
  (heeds_receive event layout 0).after (heeds_trickle _ 0 event)

/-! ## At the root -/

/-- **The first event that asks for it dismisses the layout, and is reported**; all other events
that come past the root leave the dismissal alone. -/
theorem heeds_atRoot (layout : Layout) (origin : NodeId) (event : Event) :
    Heeds [event] layout (layout.atRoot origin event) := by
  have hnone : ∀ {layout'}, event.dismissal? = none → Heeds [] layout layout' →
      Heeds [event] layout layout' := fun hevent h =>
    ⟨h.environment, by simpa [hevent] using h.dismissal, h.reported⟩
  cases event with
  | formDisplay context => exact hnone rfl (heeds_report layout rfl)
  | formResult entry attributes context => exact hnone rfl (heeds_report layout rfl)
  | buttonSubmit button identifier effects =>
    exact hnone rfl ((heeds_broadcast layout _).after (heeds_pushAll _ _))
  | dismiss button isCancel context =>
    unfold atRoot
    dsimp only
    cases hdismissal : layout.dismissal with
    | some dismissal => exact ⟨rfl, by simp [hdismissal], fun _ h => h⟩
    | none =>
      rw [if_neg (by simp)]
      unfold Layout.report
      split
      · refine ⟨rfl, by simp [hdismissal, Event.dismissal?], fun _ hreported => ?_⟩
        rw [hdismissal] at hreported
        simpa [reportedDismissals, Report.dismissal?] using hreported
      · next hoff =>
        exact ⟨rfl, by simp [hdismissal, Event.dismissal?], fun hon => absurd hon hoff⟩
  | _ => exact hnone rfl (.refl layout)

/-! ## Routing -/

/-- A dispatch that is routed brings to the root what nobody consumes on the way up. -/
theorem heeds_route (layout : Layout) (dispatch : Dispatch) :
    Heeds (layout.passing? dispatch).toList layout (layout.route dispatch) := by
  cases dispatch with
  | bubble origin event =>
    have hascend := heeds_ascend (layout.tree.ancestors origin) event layout
    rw [route, bubble, bubbleTo_eq_ascend, passing?]
    generalize ascend (layout.tree.ancestors origin) event layout = ascended at hascend ⊢
    obtain ⟨layout', rest⟩ := ascended
    cases rest with
    | none => exact hascend
    | some event' => exact hascend.after (heeds_atRoot layout' origin event')
  | trickle origin event => exact heeds_trickle layout origin event
  | broadcast event => exact heeds_broadcast layout event

theorem heeds_drain (limit : Nat) (layout : Layout) :
    Heeds (passingDrain limit layout) layout (layout.drain limit) := by
  induction limit generalizing layout with
  | zero => exact .of_same rfl rfl rfl
  | succ limit ih =>
    rw [drain, passingDrain]
    cases layout.outbox.pop? with
    | none => exact .refl layout
    | some oldest =>
      obtain ⟨dispatch, outbox⟩ := oldest
      dsimp only
      split
      · exact .of_same rfl rfl rfl
      · have hpopped : Heeds [] layout { layout with outbox } := .of_same rfl rfl rfl
        exact (hpopped.after (heeds_route _ dispatch)).trans (ih _)

/-- **Routing what waits**, and all that is added meanwhile. -/
theorem heeds_settle (layout : Layout) : Heeds layout.passingSettle layout layout.settle :=
  heeds_drain _ layout

/-! ## Interventions -/

/-- What a call does before anything is routed does not dismiss the layout. -/
theorem Begins.heeds (h : Begins layout layout') : Heeds [] layout layout' := by
  cases h with
  | same => exact .refl layout
  | note id change => exact heeds_modifyState layout id change
  | answer answers => exact .of_same rfl rfl rfl
  | follow dispatches => exact heeds_pushAll layout dispatches
  | page id intent => exact heeds_changePager layout id intent

theorem heeds_close (opening : Opening) : Heeds opening.passed opening.start opening.close := by
  cases opening with
  | rest layout => exact .refl layout
  | settle layout => exact heeds_settle layout
  | route layout dispatch => exact (heeds_route layout dispatch).trans (heeds_settle _)

/-- **Whatever is done to a layout**, it takes notice of the events that come past the root. -/
theorem heeds_intervene {intervention : Intervention} {reply : Reply}
    (h : layout.intervene intervention = .ok (reply, layout')) :
    Heeds (layout.passedBy intervention) layout layout' := by
  cases intervention with
  | call call =>
    rw [intervene, perform_eq_opening] at h
    rw [passedBy]
    cases hopening : layout.opening call with
    | error error =>
      rw [hopening] at h
      cases h
    | ok opening =>
      rw [hopening] at h
      cases h
      exact (begins_opening hopening).heeds.after (heeds_close opening)
  | reviseForm id change =>
    rw [intervene] at h
    cases hspec : layout.formSpec id <;> rw [hspec] at h <;> cases h
    exact .of_frame (frame_reviseForm layout id change)
  | updatePager id change =>
    rw [intervene] at h
    cases hspec : layout.pagerSpec id <;> rw [hspec] at h <;> cases h
    exact .of_frame (frame_updatePager layout id change)
  | push dispatch =>
    cases h
    exact .of_same rfl rfl rfl

/-- One intervention after the other; those that are refused change nothing. -/
theorem heeds_play (layout : Layout) (interventions : List Intervention) :
    Heeds (layout.passed interventions) layout (layout.play interventions).2 := by
  induction interventions generalizing layout with
  | nil => exact .refl layout
  | cons intervention rest ih =>
    rw [passed, play]
    cases hresult : layout.intervene intervention with
    | error error => exact ih layout
    | ok result =>
      obtain ⟨reply, layout'⟩ := result
      exact (heeds_intervene hresult).trans (ih layout')

/-- A layout that was dismissed stays dismissed as it was. -/
theorem Heeds.dismissal_of_isSome (h : Heeds events layout layout')
    (hsome : layout.dismissal.isSome) : layout'.dismissal = layout.dismissal := by
  obtain ⟨dismissal, hdismissal⟩ := Option.isSome_iff_exists.mp hsome
  rw [h.dismissal, hdismissal, Option.some_or]

/-- Before its nodes are set up a layout is not dismissed, and setting them up does not do so. -/
theorem dismissal_build (environment : Environment) {tree : Tree} (wf : tree.WellFormed) :
    (build environment tree).dismissal = none ∧ (build environment tree).reports = [] ∧
      (build environment tree).environment = environment := by
  have hcore := (assembled_build environment wf).core
  exact ⟨(congrArg Layout.dismissal hcore :), (congrArg Layout.reports hcore :),
    (congrArg Layout.environment hcore :)⟩

/-- **The first dismissal wins, and it is reported once.** Let a layout be activated with reporting
enabled and reports kept, and let anything be done to it after that: calls, events of any kind
raised at its nodes, changes through the handles of its forms and pagers, and dispatches put into
the outbox. Then

* the layout is dismissed if and only if an event that came past the root asked for it, with the
  button and the cancel flag of the first one that did;
* a dismissal is reported once if the layout is dismissed, with this button and this flag, and
  never if it is not;
* once the layout is dismissed, nothing that is done later changes how it was.

**Proof sketch.** The dismissal and the reports of one are written in one place only, where an event
has come past the root; and there both are written, provided that the layout was not dismissed
before. What happens elsewhere, in whatever order, only brings events there. -/
theorem first_dismissal_wins {environment : Environment} {root : Spec}
    (h : activate environment root = .ok layout)
    (hreporting : environment.config.reporting.isEnabled = true)
    (hrecording : environment.isRecording = true) (interventions : List Intervention) :
    let events := (build environment (Tree.ofSpec root)).passingSettle ++
      layout.passed interventions
    let final := (layout.play interventions).2
    final.dismissal = events.findSome? (·.dismissal?) ∧
    final.reports.filterMap (·.dismissal?) = final.dismissal.toList ∧
    (final.dismissal.isSome → ∀ more : List Intervention,
      (final.play more).2.dismissal = final.dismissal ∧
      (final.play more).2.reports.filterMap (·.dismissal?) =
        final.reports.filterMap (·.dismissal?)) := by
  intro events final
  obtain ⟨hviolation, rfl⟩ := activate_eq_ok.mp h
  have wf := Tree.wellFormed_of_violation? (Tree.linked_ofSpec root) hviolation
  obtain ⟨hdismissal, hreports, henvironment⟩ := dismissal_build environment wf
  have hstart : (build environment (Tree.ofSpec root)).IsReporting := by
    rw [IsReporting, henvironment]
    exact ⟨hreporting, hrecording⟩
  have hnone : (build environment (Tree.ofSpec root)).reportedDismissals =
      (build environment (Tree.ofSpec root)).dismissal.toList := by
    rw [reportedDismissals, hreports, hdismissal]
    rfl
  have hall : Heeds events (build environment (Tree.ofSpec root)) final :=
    (heeds_settle _).trans (heeds_play _ interventions)
  have hreported := hall.reported hstart hnone
  refine ⟨by rw [hall.dismissal, hdismissal, Option.none_or], hreported, fun hsome more => ?_⟩
  have hmore := hall.trans (heeds_play final more)
  have hkept := (heeds_play final more).dismissal_of_isSome hsome
  refine ⟨hkept, (hmore.reported hstart hnone).trans ?_⟩
  rw [hkept]
  exact hreported.symm

/-- A form with a button that submits, cancels and dismisses, and with one that dismisses. -/
def notice : Spec :=
  ⟨.form { id := "notice" }, [], [
    ⟨.button { id := "agree", behaviors := [.formSubmit, .dismiss, .cancel] }, [], []⟩,
    ⟨.button { id := "close", behaviors := [.dismiss] }, [], []⟩]⟩

/-- A dismissal from outside waits while the first button is tapped. -/
def noticeInterventions : List Intervention :=
  [.call (.attach 0), .push (.bubble 2 (.dismiss none true {})), .call (.click 1),
    .call (.dispatch 2 (.dismiss (some "late") true {}) .bubble)]

/-- The dismissal from outside comes first, and the second button changes nothing any more. -/
theorem first_dismissal_wins_notice :
    ∃ layout final : Layout, activate {} notice = .ok layout ∧
      final = (layout.play noticeInterventions).2 ∧
      layout.passed noticeInterventions ≠ [] ∧
      final.dismissal = some ⟨none, true⟩ ∧
      final.reports.filterMap (·.dismissal?) = [⟨none, true⟩] ∧
      (final.play [.call (.click 2)]).2.dismissal = some ⟨none, true⟩ := by
  have hactive : activate {} notice = .ok (build {} (Tree.ofSpec notice)).settle :=
    activate_eq_ok.mpr ⟨by decide, rfl⟩
  obtain ⟨-, hreported, hkept⟩ := first_dismissal_wins hactive rfl rfl noticeInterventions
  have hdismissal : ((build {} (Tree.ofSpec notice)).settle.play noticeInterventions).2.dismissal =
      some ⟨none, true⟩ := by decide +kernel
  refine ⟨_, _, hactive, rfl, by decide +kernel, hdismissal, by rw [hreported, hdismissal]; rfl, ?_⟩
  rw [(hkept (by rw [hdismissal]; rfl) _).1, hdismissal]

end Layout

end FormTree

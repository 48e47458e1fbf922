import FormTree.Layout.Call
import FormTree.Proofs.Layout.Sound
import Mathlib.Logic.Relation

set_option autoImplicit false

/-!
# Routing, step by step

Whatever is routed, nodes do one of a few things: a form takes over what concerns its inputs, a
pager turns pages, a node notes what was announced to it, a form is submitted, follow-ups of a
button are put into the outbox, and the layout is dismissed. The exceptions are the two reports of
forms, which no node consumes: these reach the root as they are, but for what pagers fill in.

## Main definitions

* `FormTree.Allowance` — what the events that come by may bring about.
* `FormTree.Event.IsWithin` — an event keeps to an allowance.
* `FormTree.Event.isReport` — the two reports of forms.
* `FormTree.Layout.Step`, `FormTree.Layout.Steps` — one such step, and any number of them.

## Main results

* `FormTree.Layout.steps_route` — what routing does.
* `FormTree.Layout.route_formDisplay`, `FormTree.Layout.route_formResult` — reports reach the root.
* `FormTree.Layout.drain_cons`, `FormTree.Layout.drain_stray` — the oldest dispatch is routed first.
* `FormTree.Layout.drain_induction` — what holds once the outbox has been routed.
-/

namespace FormTree

/-- What the events that come by may bring about. -/
structure Allowance where
  /-- Changes of what forms know about their inputs. -/
  inputs : Prop
  /-- Changes of what is on screen. -/
  displays : Prop
  /-- Submissions. -/
  submits : Prop
  /-- The follow-ups of these buttons. -/
  buttons : NodeId → Prop

/-- Anything may come about. -/
def Allowance.all : Allowance := ⟨True, True, True, fun _ => True⟩

/-- Anything may come about but the follow-ups of buttons. -/
def Allowance.unprompted : Allowance := ⟨True, True, True, fun _ => False⟩

/-- The change is one that events may ask of a form. -/
def Allowance.takes (allow : Allowance) : FormIntent → Prop
  | .track _ _ | .input _ | .withdraw _ => allow.inputs
  | .display _ _ => allow.displays
  | _ => False

theorem Allowance.not_takes {allow : Allowance} (hinputs : ¬ allow.inputs)
    (hdisplays : ¬ allow.displays) (intent : FormIntent) : ¬ allow.takes intent := by
  cases intent <;> first | exact hinputs | exact hdisplays | exact id

namespace Event

/-- The reports of a form: its display, and its submission. -/
def isReport : Event → Bool
  | .formDisplay _ | .formResult _ _ _ => true
  | _ => false

/-- The button whose follow-ups the event brings about. -/
def button? : Event → Option NodeId
  | .buttonSubmit button _ _ => some button
  | _ => none

/-- The event asks for submission. -/
def isSubmission : Event → Bool
  | .buttonSubmit _ _ _ | .layoutSubmit _ => true
  | _ => false

/-- The event is one that buttons raise after a submission. -/
def isFollowUp : Event → Bool
  | .pagerNext _ | .pagerPrevious _ | .dismiss _ _ _ => true
  | _ => false

/-- What the event brings about is allowed. -/
structure IsWithin (event : Event) (allow : Allowance) : Prop where
  takes : ∀ intent, event.formIntent? = some intent → allow.takes intent
  submits : event.isSubmission = true → allow.submits
  buttons : ∀ button, event.button? = some button → allow.buttons button

theorem isWithin_all (event : Event) : event.IsWithin .all := by
  refine ⟨fun intent h => ?_, fun _ => trivial, fun _ _ => trivial⟩
  cases event <;> cases h <;> trivial

/-- Only a button that submits brings follow-ups about. -/
theorem isWithin_unprompted {event : Event} (h : event.button? = none) :
    event.IsWithin .unprompted :=
  ⟨event.isWithin_all.takes, fun _ => trivial, fun button hbutton => by
    rw [h] at hbutton
    cases hbutton⟩

/-- Filling in a context does not change what an event brings about. -/
theorem IsWithin.mapContext {event : Event} {allow : Allowance} (h : event.IsWithin allow)
    (fill : LayoutContext → LayoutContext) : (event.mapContext fill).IsWithin allow := by
  obtain ⟨htakes, hsubmits, hbuttons⟩ := h
  cases event <;> exact ⟨htakes, hsubmits, hbuttons⟩

@[simp] theorem isReport_mapContext (event : Event) (fill : LayoutContext → LayoutContext) :
    (event.mapContext fill).isReport = event.isReport := by
  cases event <;> rfl

end Event

@[simp] theorem FormSpec.isReport_forward (spec : FormSpec) (state : FormState)
    (intent : FormIntent) : (spec.forward state intent).isReport = false := by
  cases intent <;> rfl

/-- What a nested form tells the form around it is allowed with what it was told itself. -/
theorem FormSpec.isWithin_forward {allow : Allowance} {intent : FormIntent}
    (h : allow.takes intent) (spec : FormSpec) (state : FormState) :
    (spec.forward state intent).IsWithin allow := by
  refine ⟨fun intent' hintent' => ?_, ?_, ?_⟩
  · cases intent <;> cases hintent' <;> first | exact h | cases h
  · cases intent <;> nofun
  · cases intent <;> nofun

namespace Layout

/-! ## Steps -/

/-- What a node does when an event comes by. -/
inductive Step (allow : Allowance) (layout : Layout) : Layout → Prop
  /-- A form takes over what concerns its inputs. -/
  | change {id : NodeId} {intent : FormIntent} :
    allow.takes intent → (layout.tree.form? id).isSome →
    Step allow layout (layout.changeForm id intent)
  /-- A pager turns pages. -/
  | page {id : NodeId} {intent : PagerIntent} :
    layout.tree.isPager id = true → Step allow layout (layout.changePager id intent)
  /-- A node notes what was announced to it. -/
  | note (id : NodeId) (change : NodeState → NodeState) :
    Step allow layout (layout.modifyState id change)
  /-- A form is submitted. -/
  | submit {id : NodeId} {node : Node} {spec : FormSpec} (button : Option String) :
    allow.submits → layout.tree.form? id = some (node, spec) →
    Step allow layout (layout.submitForm id spec button)
  /-- A follow-up of a button is put into the outbox. -/
  | follow {button : NodeId} {event : Event} : allow.buttons button → event.isFollowUp = true →
    Step allow layout (layout.push (.bubble button event))
  /-- The layout is dismissed. -/
  | dismiss (dismissal : Dismissal) :
    Step allow layout { layout with dismissal := some dismissal }
  /-- The dismissal is reported. -/
  | reportDismissal (origin : NodeId) (button : Option String) (isCancel : Bool)
      (context : LayoutContext) :
    Step allow layout (layout.report ⟨origin, .dismiss button isCancel, context⟩)

/-- Any number of steps. -/
abbrev Steps (allow : Allowance) : Layout → Layout → Prop :=
  Relation.ReflTransGen (Step allow)

variable {allow : Allowance} {layout layout' : Layout}

/-! ## Trickling -/

/-- A node that receives an event takes steps. -/
theorem steps_receive {event : Event} (hsubmits : event.isSubmission = true → allow.submits)
    (layout : Layout) (id : NodeId) : Steps allow layout (layout.receive event id) := by
  unfold receive
  cases hnode : layout.tree.node? id with
  | none => exact .refl
  | some node =>
    have hrefresh : ∀ layout : Layout, Steps allow layout (layout.refreshNode id node) := by
      intro layout
      unfold refreshNode
      split
      · exact .refl
      · exact .single (.note _ _)
    dsimp only
    split
    · split
      · exact (Relation.ReflTransGen.single (.note _ _)).trans (hrefresh _)
      · exact .refl
    · split
      · exact (Relation.ReflTransGen.single (.note _ _)).trans (hrefresh _)
      · exact .refl
    · split
      · next spec hview =>
        exact .single (.submit _ (hsubmits rfl) (Tree.form?_eq_some.mpr ⟨hnode, hview⟩))
      · exact .refl
    · exact .refl

/-- Trickling is done in steps. -/
theorem steps_trickle (layout : Layout) (origin : NodeId) {event : Event}
    (hsubmits : event.isSubmission = true → allow.submits) :
    Steps allow layout (layout.trickle origin event) := by
  unfold trickle
  generalize layout.tree.descendants origin = list
  induction list generalizing layout with
  | nil => exact .refl
  | cons id list ih => exact (steps_receive hsubmits layout id).trans (ih _)

/-- Broadcasting is done in steps. -/
theorem steps_broadcast (layout : Layout) {event : Event}
    (hsubmits : event.isSubmission = true → allow.submits) :
    Steps allow layout (layout.broadcast event) :=
  (steps_receive hsubmits layout 0).trans (steps_trickle _ 0 hsubmits)

/-! ## The root -/

/-- Follow-ups are events that buttons raise after a submission. -/
theorem isFollowUp_of_ofClick? {effect : ClickBehavior} {id : String} {event : Event}
    (h : Event.ofClick? effect id = some event) : event.isFollowUp = true := by
  cases effect <;> cases h <;> rfl

/-- Follow-ups are put into the outbox in steps. -/
theorem steps_followUps (layout : Layout) {button : NodeId} (hbutton : allow.buttons button)
    (id : String) (effects : List ClickBehavior) :
    Steps allow layout (layout.pushAll (followUps button id effects)) := by
  unfold followUps
  induction effects generalizing layout with
  | nil => exact .refl
  | cons effect effects ih =>
    cases hevent : Event.ofClick? effect id with
    | none =>
      rw [List.filterMap_cons_none (by rw [hevent]; rfl)]
      exact ih layout
    | some event =>
      rw [List.filterMap_cons_some (by rw [hevent]; rfl)]
      exact (Relation.ReflTransGen.single
        (.follow hbutton (isFollowUp_of_ofClick? hevent))).trans (ih _)

/-- What happens at the root is done in steps, but for the reports of forms. -/
theorem steps_atRoot (layout : Layout) (origin : NodeId) {event : Event}
    (hreport : event.isReport = false) (hwithin : event.IsWithin allow) :
    Steps allow layout (layout.atRoot origin event) := by
  unfold atRoot
  split
  · cases hreport
  · cases hreport
  · split
    · exact .refl
    · exact (Relation.ReflTransGen.single (.dismiss _)).trans
        (.single (.reportDismissal _ _ _ _))
  · exact (steps_broadcast _ fun _ => hwithin.submits rfl).trans
      (steps_followUps _ (hwithin.buttons _ rfl) _ _)
  · exact .refl

/-! ## Bubbling -/

/-- A node to which an event is offered takes steps, and if it lets the event bubble on, then as one
that is no report and keeps to what is allowed. -/
theorem steps_offer (layout : Layout) (id : NodeId) {event : Event}
    (hreport : event.isReport = false) (hwithin : event.IsWithin allow) :
    Steps allow layout (layout.offer id event).1 ∧
      ∀ event', (layout.offer id event).2 = .next event' →
        event'.isReport = false ∧ event'.IsWithin allow := by
  unfold offer
  split
  · next spec hview =>
    obtain ⟨node, hnode, hform⟩ := Option.map_eq_some_iff.mp hview
    have hsome := Tree.isSome_form? hnode hform
    unfold offerForm
    split
    · refine ⟨.refl, ?_⟩
      rintro _ ⟨⟩
      exact ⟨rfl, nofun, nofun, nofun⟩
    · split
      · refine ⟨.refl, ?_⟩
        rintro _ ⟨⟩
        exact ⟨hreport, hwithin⟩
      · next intent hintent =>
        have htakes := hwithin.takes intent hintent
        have hstep : Steps allow layout (layout.changeForm id intent) :=
          .single (.change htakes hsome)
        dsimp only
        split
        · refine ⟨hstep, ?_⟩
          rintro _ ⟨⟩
          exact ⟨FormSpec.isReport_forward _ _ _, FormSpec.isWithin_forward htakes _ _⟩
        · exact ⟨hstep, by rintro _ ⟨⟩⟩
  · next spec hview =>
    have hpager : layout.tree.isPager id = true := by
      simp [Tree.isPager, hview, View.kind]
    unfold offerPager
    split
    · exact ⟨.single (.page hpager), by rintro _ ⟨⟩⟩
    · exact ⟨.single (.page hpager), by rintro _ ⟨⟩⟩
    · refine ⟨.refl, ?_⟩
      rintro _ ⟨⟩
      exact ⟨by simpa using hreport, hwithin.mapContext _⟩
  · refine ⟨.refl, ?_⟩
    rintro _ ⟨⟩
    exact ⟨hreport, hwithin⟩

/-- Bubbling is done in steps, but for the reports of forms. -/
theorem steps_bubbleTo (origin : NodeId) : ∀ (list : List NodeId) (layout : Layout) {event : Event},
    event.isReport = false → event.IsWithin allow →
    Steps allow layout (bubbleTo origin list event layout)
  | [], layout, event, hreport, hwithin => steps_atRoot layout origin hreport hwithin
  | id :: list, layout, event, hreport, hwithin => by
    obtain ⟨hsteps, hnext⟩ := steps_offer layout id hreport hwithin
    rw [bubbleTo]
    generalize layout.offer id event = offered at hsteps hnext
    obtain ⟨layout', propagation⟩ := offered
    cases propagation with
    | stop => exact hsteps
    | next event' =>
      obtain ⟨hreport', hwithin'⟩ := hnext event' rfl
      exact hsteps.trans (steps_bubbleTo origin list layout' hreport' hwithin')

/-- Bubbling is done in steps, but for the reports of forms. -/
theorem steps_bubble (layout : Layout) (origin : NodeId) {event : Event}
    (hreport : event.isReport = false) (hwithin : event.IsWithin allow) :
    Steps allow layout (layout.bubble origin event) :=
  steps_bubbleTo origin _ layout hreport hwithin

/-- What pagers on the way fill in. -/
structure IsFilling (fill : LayoutContext → LayoutContext) : Prop where
  /-- The form part stays. -/
  form : ∀ context, (fill context).form = context.form
  /-- The button part stays. -/
  button : ∀ context, (fill context).button = context.button

/-- No node consumes the report of a form. -/
theorem offer_report (layout : Layout) (id : NodeId) {event : Event}
    (hreport : event.isReport = true) :
    ∃ fill, IsFilling fill ∧ layout.offer id event = (layout, .next (event.mapContext fill)) := by
  have hsame : event.mapContext (fun context => context) = event := by cases event <;> rfl
  unfold offer
  split
  · refine ⟨fun context => context, ⟨fun _ => rfl, fun _ => rfl⟩, ?_⟩
    rw [hsame]
    cases event <;> first | rfl | cases hreport
  · refine ⟨(·.fillPager (layout.pager id).value.context), ⟨fun _ => rfl, fun _ => rfl⟩, ?_⟩
    cases event <;> first | rfl | cases hreport
  · exact ⟨fun context => context, ⟨fun _ => rfl, fun _ => rfl⟩, by rw [hsame]⟩

/-- The report of a form reaches the root. -/
theorem bubbleTo_report (origin : NodeId) (layout : Layout) :
    ∀ (list : List NodeId) (event : Event), event.isReport = true →
    ∃ fill, IsFilling fill ∧
      bubbleTo origin list event layout = layout.atRoot origin (event.mapContext fill)
  | [], event, _ => ⟨fun context => context, ⟨fun _ => rfl, fun _ => rfl⟩, by
      rw [bubbleTo]
      congr 1
      cases event <;> rfl⟩
  | id :: list, event, hreport => by
    obtain ⟨fill, hfill, hoffer⟩ := offer_report layout id hreport
    obtain ⟨fill', hfill', hbubble⟩ := bubbleTo_report origin layout list
      (event.mapContext fill) (by rw [Event.isReport_mapContext, hreport])
    refine ⟨fun context => fill' (fill context), ⟨fun context => ?_, fun context => ?_⟩, ?_⟩
    · rw [hfill'.form, hfill.form]
    · rw [hfill'.button, hfill.button]
    · rw [bubbleTo, hoffer]
      dsimp only
      rw [hbubble]
      congr 1
      cases event <;> rfl

/-! ## Dispatches -/

end Layout

/-- The node that a dispatch names as its origin. -/
def Dispatch.origin? : Dispatch → Option NodeId
  | .bubble origin _ | .trickle origin _ => some origin
  | .broadcast _ => none

/-- The event of a dispatch. -/
def Dispatch.event : Dispatch → Event
  | .bubble _ event | .trickle _ event | .broadcast event => event

/-- The dispatch is the report of a form, on its way up. -/
def Dispatch.isReport : Dispatch → Bool
  | .bubble _ event => event.isReport
  | _ => false

/-- A dispatch is stray if it names an origin that is no node. -/
theorem Layout.isStray_eq_false {layout : Layout} {dispatch : Dispatch} :
    layout.isStray dispatch = false ↔
      ∀ origin, dispatch.origin? = some origin → (layout.tree.node? origin).isSome := by
  cases dispatch <;> simp [Layout.isStray, Dispatch.origin?, Option.isSome_iff_ne_none]

namespace Layout

variable {allow : Allowance} {layout layout' : Layout} {oldest : Dispatch} {rest : List Dispatch}

/-- **Routing is done in steps**, but for the reports of forms. -/
theorem steps_route (layout : Layout) {dispatch : Dispatch} (hreport : dispatch.isReport = false)
    (hwithin : dispatch.event.IsWithin allow) :
    Steps allow layout (layout.route dispatch) := by
  cases dispatch with
  | bubble origin event => exact steps_bubble layout origin hreport hwithin
  | trickle origin event => exact steps_trickle layout origin hwithin.submits
  | broadcast event => exact steps_broadcast layout hwithin.submits

/-- **Reports reach the root**: a form's display is reported with the form's part of the context. -/
theorem route_formDisplay (layout : Layout) (origin : NodeId) (context : LayoutContext) :
    ∃ context', context'.form = context.form ∧
      layout.route (.bubble origin (.formDisplay context)) =
        layout.report ⟨origin, .formDisplay, context'⟩ := by
  obtain ⟨fill, hfill, hbubble⟩ := bubbleTo_report origin layout (layout.tree.ancestors origin)
    (.formDisplay context) rfl
  exact ⟨fill context, hfill.form context, hbubble⟩

/-- **Reports reach the root**: the submission of a form is reported with its data and with the
form's part of the context. -/
theorem route_formResult (layout : Layout) (origin : NodeId) (entry : Entry)
    (attributes : Attributes) (context : LayoutContext) :
    ∃ context', context'.form = context.form ∧
      layout.route (.bubble origin (.formResult entry attributes context)) =
        layout.report ⟨origin, .formResult entry attributes, context'⟩ := by
  obtain ⟨fill, hfill, hbubble⟩ := bubbleTo_report origin layout (layout.tree.ancestors origin)
    (.formResult entry attributes context) rfl
  exact ⟨fill context, hfill.form context, hbubble⟩

/-- The oldest dispatch is routed first. -/
theorem drain_cons (hqueue : layout.outbox.queue = oldest :: rest)
    (hstray : layout.isStray oldest = false) (limit : Nat) :
    layout.drain (limit + 1) = ({ layout with outbox := ⟨rest⟩ }.route oldest).drain limit := by
  have hpop : layout.outbox.pop? = some (oldest, ⟨rest⟩) := by rw [Outbox.pop?, hqueue]
  rw [drain, hpop]
  dsimp only
  rw [hstray]
  rfl

/-- A stray breaks routing off. -/
theorem drain_stray (hqueue : layout.outbox.queue = oldest :: rest)
    (hstray : layout.isStray oldest = true) (limit : Nat) :
    layout.drain (limit + 1) =
      { layout with outbox := ⟨rest⟩, strays := layout.strays ++ [oldest] } := by
  have hpop : layout.outbox.pop? = some (oldest, ⟨rest⟩) := by rw [Outbox.pop?, hqueue]
  rw [drain, hpop]
  dsimp only
  rw [if_pos hstray]

/-- **What holds once the outbox has been routed.** Let a property be kept by routing the oldest
dispatch. Then what follows from it where nothing waits, where all dispatches are dropped at the
limit, and where a stray one is put aside, holds once the outbox has been routed. -/
theorem drain_induction {P Q : Layout → Prop}
    (hroute : ∀ (layout : Layout) (dispatch : Dispatch) (rest : List Dispatch), P layout →
      layout.outbox.queue = dispatch :: rest → layout.isStray dispatch = false →
      P ({ layout with outbox := ⟨rest⟩ }.route dispatch))
    (hidle : ∀ layout : Layout, P layout → layout.outbox.queue = [] → Q layout)
    (hdrop : ∀ layout : Layout, P layout → Q
      { layout with outbox := {}, dropped := layout.dropped ++ layout.outbox.queue })
    (hstray : ∀ (layout : Layout) (dispatch : Dispatch) (rest : List Dispatch), P layout →
      layout.outbox.queue = dispatch :: rest → layout.isStray dispatch = true →
      Q { layout with outbox := ⟨rest⟩, strays := layout.strays ++ [dispatch] }) :
    ∀ (limit : Nat) (layout : Layout), P layout → Q (layout.drain limit) := by
  intro limit
  induction limit with
  | zero => exact fun layout h => hdrop layout h
  | succ limit ih =>
    intro layout h
    cases hqueue : layout.outbox.queue with
    | nil =>
      have hpop : layout.outbox.pop? = none := by rw [Outbox.pop?, hqueue]
      rw [drain, hpop]
      exact hidle layout h hqueue
    | cons dispatch rest =>
      cases hs : layout.isStray dispatch with
      | true =>
        rw [drain_stray hqueue hs]
        exact hstray layout dispatch rest h hqueue hs
      | false =>
        rw [drain_cons hqueue hs]
        exact ih _ (hroute layout dispatch rest h hqueue hs)

end Layout

end FormTree

import FormTree.Proofs.Layout.Notices

set_option autoImplicit false

/-!
# What calls come to

A call first does what it says, and then all that waits is routed. A call that concerns an input
raises one event at the input; other calls of the renderer take steps that do not concern inputs.

## Main definitions

* `FormTree.InputAct` — what calls do to inputs.
* `FormTree.Call.IsOrdinary` — the calls of the renderer, and submission asked for from outside.
* `FormTree.Layout.Raises` — what a call comes to before what follows is routed.

## Main results

* `FormTree.Layout.exists_raises` — a call comes to that, with what follows.
-/

namespace FormTree

/-- The node `id` as an input, with its declaration. -/
def Tree.input? (tree : Tree) (id : NodeId) : Option InputSpec :=
  match tree.view? id with
  | some (.input spec) => some spec
  | _ => none

theorem Tree.input?_eq_some {tree : Tree} {id : NodeId} {spec : InputSpec} :
    tree.input? id = some spec ↔ tree.view? id = some (.input spec) := by
  unfold Tree.input?
  split
  · next other hview => simp [hview]
  · next hother =>
    constructor
    · intro h
      cases h
    · intro hview
      exact absurd hview (hother spec)

/-- A nested form is no input. -/
theorem Tree.input?_of_isChild {tree : Tree} {id : NodeId} (h : tree.isChild id = true) :
    tree.input? id = none := by
  obtain ⟨⟨node, spec⟩, hform⟩ := Option.isSome_iff_exists.mp (Tree.isSome_form?_of_isChild h)
  obtain ⟨hnode, hview⟩ := Tree.form?_eq_some.mp hform
  simp [Tree.input?, Tree.view?, hnode, hview]

/-- What calls do to an input. -/
inductive InputAct where
  /-- It goes on or off screen. -/
  | display (isDisplayed : Bool)
  /-- It gets another answer. -/
  | fill (answer : Answer)
  /-- It is gone for good. -/
  | withdraw

namespace InputAct

/-- The event that is raised at the input. -/
def event (spec : InputSpec) : InputAct → Event
  | .display isDisplayed => .viewAttached spec.id isDisplayed
  | .fill answer => .dataChange (spec.entry answer)
  | .withdraw => .inputWithdrawn spec.id

/-- The answers once it is done to the input `id`. -/
def answers (id : NodeId) (table : Table Answer) : InputAct → Table Answer
  | .fill answer => table.set id answer
  | _ => table

/-- An input refuses answers of another kind than its own. -/
def isTaken (spec : InputSpec) : InputAct → Bool
  | .fill answer => spec.accepts answer
  | _ => true

end InputAct

namespace Call

/-- What a call does to an input, if the node that it names is one. -/
def inputAct? : Call → Option (NodeId × InputAct)
  | .attach id => some (id, .display true)
  | .detach id => some (id, .display false)
  | .setDisplayed id isDisplayed => some (id, .display isDisplayed)
  | .setAnswer id answer => some (id, .fill answer)
  | .withdraw id => some (id, .withdraw)
  | _ => none

/-- The call is one of the renderer, or it asks for submission from outside; a button that it names
is a node. -/
def IsOrdinary (tree : Tree) : Call → Prop
  | .dispatch _ (.buttonSubmit button _ _) _ => (tree.node? button).isSome
  | .dispatch _ (.layoutSubmit _) _ => True
  | .dispatch _ _ _ => False
  | _ => True

end Call

namespace Layout

/-- What calls may bring about that do not concern inputs: submissions, and the follow-ups of the
buttons of the layout. -/
def clicks (layout : Layout) : Allowance :=
  ⟨False, False, True, fun button => (layout.tree.node? button).isSome⟩

/-- What a call comes to before what follows is routed. -/
inductive Raises (layout : Layout) (call : Call) : Layout → Prop
  /-- It raises an event at an input. -/
  | input {id : NodeId} {spec : InputSpec} {act : InputAct} (states : Table NodeState) :
    call.inputAct? = some (id, act) → layout.tree.input? id = some spec →
    act.isTaken spec = true →
    Raises layout call ({ layout with states, answers := act.answers id layout.answers }.bubble id
      (act.event spec))
  /-- It does not concern an input. -/
  | steps {raised : Layout} :
    (∀ id act spec, call.inputAct? = some (id, act) → layout.tree.input? id = some spec →
      act.isTaken spec = false) →
    Steps layout.clicks layout raised → Raises layout call raised

variable {layout layout' : Layout} {id : NodeId} {call : Call}

/-- Where nothing waits, nothing is routed. -/
theorem drain_of_queue (layout : Layout) (h : layout.outbox.queue = []) (limit : Nat) :
    layout.drain limit = layout := by
  have hpop : layout.outbox.pop? = none := by rw [Outbox.pop?, h]
  cases limit with
  | zero =>
    obtain ⟨tree, environment, states, answers, forms, announced, pagers, watches, ⟨queue⟩,
      dismissal, reports, updates, strays, dropped⟩ := layout
    obtain rfl : queue = [] := h
    simp [drain]
  | succ limit => rw [drain, hpop]

theorem settle_of_queue (layout : Layout) (h : layout.outbox.queue = []) :
    layout.settle = layout := drain_of_queue layout h _

/-- A view goes on or off screen. -/
theorem raises_setDisplayed (hqueue : layout.outbox.queue = []) {isDisplayed : Bool}
    (hact : call.inputAct? = some (id, .display isDisplayed)) (states : Table NodeState)
    (h : { layout with states }.setDisplayed id isDisplayed = .ok layout')
    (hstates : Steps layout.clicks layout { layout with states }) :
    ∃ raised, Raises layout call raised ∧ layout' = raised.settle := by
  obtain ⟨view, hview, rfl⟩ := setDisplayed_eq_ok.mp h
  split
  · next spec => exact ⟨_, .input states hact (Tree.input?_eq_some.mpr hview) rfl, rfl⟩
  · next hother =>
    refine ⟨_, .steps (fun node act spec hsome hinput => ?_) hstates,
      (settle_of_queue { layout with states } hqueue).symm⟩
    rw [hact] at hsome
    cases hsome
    exact absurd (Option.some.inj (hview.symm.trans (Tree.input?_eq_some.mp hinput)))
      (hother spec)

/-- A node is tapped. -/
theorem raises_click (hqueue : layout.outbox.queue = []) (hact : call.inputAct? = none)
    (h : layout.click id = .ok layout') :
    ∃ raised, Raises layout call raised ∧ layout' = raised.settle := by
  have hnot : ∀ id act spec, call.inputAct? = some (id, act) → layout.tree.input? id = some spec →
      act.isTaken spec = false := by simp [hact]
  obtain ⟨spec, hspec, rfl⟩ := click_eq_ok.mp h
  have hbutton : (layout.tree.node? id).isSome := by
    obtain ⟨node, hnode, -⟩ := Option.map_eq_some_iff.mp hspec
    rw [hnode]
    rfl
  split
  · exact ⟨_, .steps hnot .refl, (settle_of_queue _ hqueue).symm⟩
  · split
    · refine ⟨_, .steps hnot (steps_bubble _ id rfl ⟨?_, fun _ => trivial, ?_⟩), rfl⟩
      · rintro _ ⟨⟩
      · rintro _ ⟨⟩
        exact hbutton
    · exact ⟨_, .steps hnot (steps_followUps layout hbutton _ _), rfl⟩

/-- An ordinary event from outside neither reports, nor asks for more than to submit. -/
theorem isWithin_of_isOrdinary {origin : NodeId} {event : Event} {direction : Direction}
    (h : (Call.dispatch origin event direction).IsOrdinary layout.tree) :
    event.isReport = false ∧ event.IsWithin layout.clicks := by
  cases event with
  | buttonSubmit button id effects =>
    refine ⟨rfl, nofun, fun _ => trivial, ?_⟩
    rintro _ ⟨⟩
    exact h
  | layoutSubmit button => exact ⟨rfl, nofun, fun _ => trivial, nofun⟩
  | _ => cases h

/-- **What calls come to**: where nothing waits, a call that is not refused does what `Raises` says,
and all that follows is routed. -/
theorem raises_of_perform (hqueue : layout.outbox.queue = []) (hcall : call.IsOrdinary layout.tree)
    (h : layout.perform call = .ok layout') :
    ∃ raised, Raises layout call raised ∧ layout' = raised.settle := by
  cases call with
  | attach id =>
    exact raises_setDisplayed hqueue rfl _ (setAttached_eq_ok.mp h) (.single (.note id _))
  | detach id =>
    exact raises_setDisplayed hqueue rfl _ (setAttached_eq_ok.mp h) (.single (.note id _))
  | setDisplayed id isDisplayed => exact raises_setDisplayed hqueue rfl layout.states h .refl
  | setAnswer id answer =>
    obtain ⟨spec, hspec, haccepts, rfl⟩ := setAnswer_eq_ok.mp h
    exact ⟨_, .input layout.states rfl (Tree.input?_eq_some.mpr hspec) haccepts, rfl⟩
  | withdraw id =>
    obtain ⟨spec, hspec, rfl⟩ := withdraw_eq_ok.mp h
    exact ⟨_, .input _ rfl (Tree.input?_eq_some.mpr hspec) rfl, rfl⟩
  | click id => exact raises_click hqueue rfl h
  | scrollTo id position =>
    obtain ⟨spec, hspec, rfl⟩ := scrollTo_eq_ok.mp h
    have hpager := isPager_of_pagerSpec (pagerSpec_eq_ok.mpr hspec)
    exact ⟨_, .steps (fun _ _ _ hact => nomatch hact) (.single (.page hpager)), rfl⟩
  | dispatch origin event direction =>
    obtain ⟨hreport, hwithin⟩ := isWithin_of_isOrdinary hcall
    obtain ⟨node, -, rfl⟩ := dispatch_eq_ok.mp h
    cases direction with
    | bubble =>
      have hsteps := steps_bubble layout origin hreport hwithin
      exact ⟨_, .steps (fun _ _ _ hact => nomatch hact) hsteps, rfl⟩
    | trickle =>
      have hsteps := steps_trickle layout origin hwithin.submits
      exact ⟨_, .steps (fun _ _ _ hact => nomatch hact) hsteps, rfl⟩

/-- What is done to an input is not refused, unless the input does not take the answer. -/
theorem isOk_perform {act : InputAct} {spec : InputSpec} (hact : call.inputAct? = some (id, act))
    (hinput : layout.tree.input? id = some spec) (htaken : act.isTaken spec = true) :
    ∃ layout', layout.perform call = .ok layout' := by
  have hview := Tree.input?_eq_some.mp hinput
  cases call with
  | attach node =>
    cases hact
    exact ⟨_, setAttached_eq_ok.mpr (setDisplayed_eq_ok.mpr ⟨_, hview, rfl⟩)⟩
  | detach node =>
    cases hact
    exact ⟨_, setAttached_eq_ok.mpr (setDisplayed_eq_ok.mpr ⟨_, hview, rfl⟩)⟩
  | setDisplayed node isDisplayed =>
    cases hact
    exact ⟨_, setDisplayed_eq_ok.mpr ⟨_, hview, rfl⟩⟩
  | setAnswer node answer =>
    cases hact
    exact ⟨_, setAnswer_eq_ok.mpr ⟨spec, hview, htaken, rfl⟩⟩
  | withdraw node =>
    cases hact
    exact ⟨_, withdraw_eq_ok.mpr ⟨spec, hview, rfl⟩⟩
  | _ => cases hact

/-- **What calls come to**, refused or not. -/
theorem exists_raises (hqueue : layout.outbox.queue = []) (hcall : call.IsOrdinary layout.tree) :
    ∃ raised, Raises layout call raised ∧ layout.after call = raised.settle := by
  unfold after
  cases h : layout.perform call with
  | ok layout' => exact raises_of_perform hqueue hcall h
  | error error =>
    refine ⟨layout, .steps (fun id act spec hact hinput => ?_) .refl,
      (settle_of_queue _ hqueue).symm⟩
    cases htaken : act.isTaken spec with
    | false => rfl
    | true =>
      obtain ⟨layout', hok⟩ := isOk_perform hact hinput htaken
      rw [hok] at h
      cases h

/-! ## Between calls -/

/-- Control is with the caller: no change is under way, and nothing waits. -/
structure Idle (layout : Layout) : Prop where
  sound : layout.Sound
  queue : layout.outbox.queue = []

theorem Idle.tidy (h : layout.Idle) (allow : Allowance) : Tidy allow layout :=
  ⟨h.sound, by simp [h.queue]⟩

/-- What calls do to inputs keeps to the inputs. -/
theorem InputAct.isWithin_event (act : InputAct) (spec : InputSpec) :
    (act.event spec).isReport = false ∧ (act.event spec).IsWithin .data := by
  refine ⟨?_, fun intent hintent => ?_, ?_, ?_⟩
  · cases act <;> rfl
  · cases act <;> cases hintent <;> trivial
  · cases act <;> nofun
  · cases act <;> nofun

/-- What a call comes to before what follows is routed, is tidy. -/
theorem Idle.tidy_raised (h : layout.Idle) {raised : Layout} (hraises : Raises layout call raised) :
    Tidy .none raised ∧ raised.tree = layout.tree ∧ raised.environment = layout.environment ∧
      raised.dropped = layout.dropped := by
  cases hraises with
  | @input id spec act states _ _ _ =>
    obtain ⟨hreport, hwithin⟩ := InputAct.isWithin_event act spec
    have hstart : Idle { layout with states, answers := act.answers id layout.answers } :=
      ⟨h.sound.congr rfl (fun _ => rfl) fun _ => rfl, h.queue⟩
    have hsteps := steps_bubble { layout with states, answers := act.answers id layout.answers } id
      hreport hwithin
    have hadvance := advance_steps hstart.sound (by rintro _ ⟨⟩) hsteps
    exact ⟨(hstart.tidy _).advance (keeps_steps hsteps hstart.sound).1 hadvance, hadvance.tree,
      hadvance.environment, hadvance.dropped⟩
  | steps _ hsteps =>
    have hadvance := advance_steps h.sound (fun _ hb => hb) hsteps
    exact ⟨(h.tidy _).advance (keeps_steps hsteps h.sound).1 hadvance, hadvance.tree,
      hadvance.environment, hadvance.dropped⟩

/-- Once what waits is routed, control is with the caller. -/
theorem Tidy.idle_settle {allow : Allowance} (h : Tidy allow layout)
    (hbuttons : ∀ button, ¬ allow.buttons button) : Idle layout.settle := by
  obtain ⟨htidy, -, hqueue⟩ := h.settle_induction (P := fun _ => True) hbuttons
    (fun _ _ _ _ _ => trivial) (fun _ _ _ _ _ _ => trivial) (fun _ _ _ _ _ _ => trivial)
    (fun _ _ => trivial) trivial
  exact ⟨htidy.sound, hqueue⟩

/-- Routing leaves the settings alone. -/
theorem Tidy.environment_settle {allow : Allowance} (h : Tidy allow layout)
    (hbuttons : ∀ button, ¬ allow.buttons button) :
    layout.settle.environment = layout.environment := by
  refine (h.settle_induction (P := fun world => world.environment = layout.environment) hbuttons
    (fun world world' hworld henvironment step => ?_) (fun _ _ _ henvironment _ _ => henvironment)
    (fun world dispatch rest henvironment _ hreport => ?_) (fun _ henvironment => henvironment)
    rfl).2.1
  · have hadvance := advance_step hworld.sound (fun button hb => (hbuttons button hb).elim) step
    exact hadvance.environment.trans henvironment
  · obtain ⟨reports, hroute⟩ := route_report { world with outbox := ⟨rest⟩ } hreport
    rw [hroute]
    exact henvironment

/-- After a call control is with the caller. -/
theorem Idle.after (h : layout.Idle) (hcall : call.IsOrdinary layout.tree) :
    (layout.after call).Idle := by
  obtain ⟨raised, hraises, hafter⟩ := exists_raises h.queue hcall
  rw [hafter]
  exact (h.tidy_raised hraises).1.idle_settle fun _ hb => hb

/-- **What holds after a run**: what is kept by each call. -/
theorem Idle.run_induction {tree : Tree} {P : Layout → Prop}
    (hafter : ∀ (layout : Layout) (call : Call), layout.Idle → layout.tree = tree → P layout →
      call.IsOrdinary tree → P (layout.after call)) :
    ∀ (calls : List Call) (layout : Layout), layout.Idle → layout.tree = tree → P layout →
      (∀ call ∈ calls, call.IsOrdinary tree) → (layout.run calls).Idle ∧ P (layout.run calls) := by
  intro calls
  induction calls with
  | nil => exact fun layout hidle _ hlayout _ => ⟨hidle, hlayout⟩
  | cons call calls ih =>
    intro layout hidle htree hlayout hcalls
    have hcall := hcalls call (by simp)
    refine ih _ (hidle.after (htree ▸ hcall)) ?_ (hafter layout call hidle htree hlayout hcall)
      fun other hother => hcalls other (by simp [hother])
    exact (keeps_after layout call hidle.sound).2.1.trans htree

/-- A run leaves the settings alone. -/
theorem Idle.environment_run (h : layout.Idle) {calls : List Call}
    (hcalls : ∀ call ∈ calls, call.IsOrdinary layout.tree) :
    (layout.run calls).Idle ∧ (layout.run calls).environment = layout.environment := by
  refine Idle.run_induction (P := fun world => world.environment = layout.environment)
    (fun world call hidle htree henvironment hcall => ?_) calls layout h rfl rfl hcalls
  obtain ⟨raised, hraises, hafter⟩ := exists_raises hidle.queue (htree ▸ hcall)
  obtain ⟨htidy, -, hraised, -⟩ := hidle.tidy_raised hraises
  rw [hafter, htidy.environment_settle fun _ hb => hb, hraised, henvironment]

/-! ## Activation -/

/-- The announcements of a node can be routed. -/
theorem isTidy_of_mem_entrances {tree : Tree} {dispatch : Dispatch} (hlt : id < tree.size)
    (h : dispatch ∈ tree.entrances id) : dispatch.IsTidy tree .entrances := by
  obtain ⟨node, hnode⟩ := Tree.exists_node hlt
  have horigin : ∀ origin, some id = some origin → (tree.node? origin).isSome := by
    rintro _ ⟨⟩
    rw [hnode]
    rfl
  unfold Tree.entrances at h
  split at h
  · rcases List.mem_cons.mp h with rfl | h
    · exact ⟨horigin, by rintro _ ⟨⟩; trivial, nofun, nofun⟩
    · obtain rfl := List.mem_singleton.mp h
      exact ⟨horigin, by rintro _ ⟨⟩; trivial, nofun, nofun⟩
  · split at h
    · obtain rfl := List.mem_singleton.mp h
      exact ⟨horigin, by rintro _ ⟨⟩; trivial, nofun, nofun⟩
    · simp at h
  · simp at h

/-- What waits once all nodes are set up, can be routed. -/
theorem Assembled.tidy {environment : Environment} {tree : Tree}
    (h : Assembled environment tree tree.size layout) (wf : tree.WellFormed) :
    Tidy .entrances layout where
  sound := h.sound wf
  queue dispatch hd := by
    rw [h.tree_eq]
    cases hentrance : dispatch.isEntrance with
    | false =>
      have htidy := (h.announcements dispatch hd hentrance).isTidy
      exact ⟨htidy.origin, htidy.within.mono _⟩
    | true =>
      have hmem : dispatch ∈ layout.outbox.queue.filter (·.isEntrance) :=
        List.mem_filter.mpr ⟨hd, hentrance⟩
      rw [h.entrances] at hmem
      obtain ⟨node, hnode, hmem⟩ := List.mem_flatMap.mp hmem
      exact isTidy_of_mem_entrances (List.mem_range.mp hnode) hmem

/-- Nothing is told while nodes are set up. -/
theorem Assembled.notices {environment : Environment} {tree : Tree}
    (h : Assembled environment tree tree.size layout) : layout.notices = [] := by
  have hreports : layout.reports = [] := (congrArg Layout.reports h.core :)
  have hdropped : layout.dropped = [] := (congrArg Layout.dropped h.core :)
  have hqueue : layout.outbox.queue.filterMap (·.notice?) = [] := by
    rw [List.filterMap_eq_nil_iff]
    intro dispatch hd
    cases hentrance : dispatch.isEntrance with
    | false => exact (h.announcements dispatch hd hentrance).notice?
    | true =>
      refine Dispatch.notice?_of_isReport ?_
      cases dispatch with
      | bubble origin event => cases event <;> first | cases hentrance; done | rfl
      | _ => cases hentrance
  rw [Layout.notices, hreports, hdropped, hqueue]
  rfl

/-- **After activation control is with the caller.** -/
theorem idle_of_activate {environment : Environment} {spec : Spec}
    (h : activate environment spec = .ok layout) : layout.Idle := by
  obtain ⟨hviolation, rfl⟩ := activate_eq_ok.mp h
  have wf := Tree.wellFormed_of_violation? (Tree.linked_ofSpec spec) hviolation
  exact ((assembled_build environment wf).tidy wf).idle_settle fun _ hb => hb

/-- A layout keeps the settings with which it was activated. -/
theorem environment_of_activate {environment : Environment} {spec : Spec}
    (h : activate environment spec = .ok layout) : layout.environment = environment := by
  obtain ⟨hviolation, rfl⟩ := activate_eq_ok.mp h
  have wf := Tree.wellFormed_of_violation? (Tree.linked_ofSpec spec) hviolation
  have hbuild := assembled_build environment wf
  rw [(hbuild.tidy wf).environment_settle fun _ hb => hb]
  exact (congrArg Layout.environment hbuild.core :)

end Layout

end FormTree

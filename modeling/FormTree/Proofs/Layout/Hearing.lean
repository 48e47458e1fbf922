import FormTree.Proofs.Layout.Keeping
import FormTree.Proofs.Layout.Telling
import FormTree.Proofs.Tree.Descent

set_option autoImplicit false

/-!
# What nodes hear

A node knows of the form around it and of the pager around it what has trickled down to it. What was
announced and is not yet known waits in the outbox, in the order in which it was announced; so
nothing is lost on the way, and nothing is heard out of order. A node that is no form works out its
enabled flag whenever it hears something.

## Main definitions

* `FormTree.Lags` — what is known of a log while some of it is still to come.
* `FormTree.Node.hear` — what a node makes of an announcement.
* `FormTree.Layout.InStep` — nodes know what was announced, but for what waits in the outbox.

## Main results

* `FormTree.Layout.trickle_update` — an announcement is heard by the nodes below its origin.
* `FormTree.Layout.InStep.route` — routing a dispatch keeps nodes in step.
* `FormTree.Layout.inStep_settle` — so does routing all that waits, if nothing is dropped.
-/

namespace FormTree

/-! ## Logs that are read in order -/

/-- The log has been read in order, but for what waits; what is known is what was read last. -/
def Lags {α : Type} (log waiting : List α) (known : Option α) : Prop :=
  ∃ read, log = read ++ waiting ∧ known = read.getLast?

namespace Lags

variable {α : Type} {log waiting : List α} {known : Option α}

/-- Before anything is read all of the log waits. -/
theorem start (log : List α) : Lags log log none := ⟨[], rfl, rfl⟩

/-- What is added to the log waits behind all else. -/
theorem append (h : Lags log waiting known) (more : List α) :
    Lags (log ++ more) (waiting ++ more) known := by
  obtain ⟨read, rfl, hknown⟩ := h
  exact ⟨read, List.append_assoc .., hknown⟩

/-- What waits first is read next. -/
theorem read {next : α} (h : Lags log (next :: waiting) known) : Lags log waiting (some next) := by
  obtain ⟨read, rfl, -⟩ := h
  exact ⟨read ++ [next], by simp, by simp⟩

/-- Once nothing waits, the end of the log is known. -/
theorem eq_getLast? (h : Lags log [] known) : known = log.getLast? := by
  obtain ⟨read, rfl, hknown⟩ := h
  rw [hknown, List.append_nil]

end Lags

/-! ## Nodes -/

/-- Flags come from their form. -/
theorem Dispatch.IsSent.origin?_of_status? {dispatch : Dispatch} (h : dispatch.IsSent)
    {form : NodeId} {status : FormStatus} (hcarries : dispatch.status? form = some status) :
    dispatch.origin? = some form := by
  unfold Dispatch.status? at hcarries
  split at hcarries
  · next origin id _ =>
    obtain ⟨rfl, -⟩ := Option.ite_none_right_eq_some.mp hcarries
    exact congrArg some h
  · cases hcarries

/-- Positions come from their pager. -/
theorem Dispatch.IsSent.origin?_of_position? {dispatch : Dispatch} (h : dispatch.IsSent)
    {pager : NodeId} {position : PagerState}
    (hcarries : dispatch.position? pager = some position) : dispatch.origin? = some pager := by
  unfold Dispatch.position? at hcarries
  split at hcarries
  · next origin id _ =>
    obtain ⟨rfl, -⟩ := Option.ite_none_right_eq_some.mp hcarries
    exact congrArg some h
  · cases hcarries

namespace Node

/-- The node with its enabled flag worked out, unless it is a form. -/
def refreshed (node : Node) (state : NodeState) : NodeState :=
  match node.view with
  | .form _ => state
  | _ =>
    { state with
      isEnabled :=
        node.enable.evaluate (state.status.all (·.isEnabled))
          (state.status.map fun status => (status.isValid, status.isSubmitted))
          state.position true }

/-- What the node makes of an announcement. -/
def hear (node : Node) (event : Event) (state : NodeState) : NodeState :=
  match event with
  | .validationUpdate form status =>
    if node.scope.form = some form then node.refreshed { state with status := some status }
    else state
  | .pagerUpdate pager position =>
    if node.scope.pager = some pager then node.refreshed { state with position := some position }
    else state
  | _ => state

/-- The node carries what its rules come to for what it knows, unless it is a form. -/
def Obeys (node : Node) (state : NodeState) : Prop :=
  node.view.kind ≠ .form → state.isEnabled =
    node.enable.evaluate (state.status.all (·.isEnabled))
      (state.status.map fun status => (status.isValid, status.isSubmitted)) state.position true

variable (node : Node) (event : Event) (state : NodeState)

@[simp] theorem status_refreshed : (node.refreshed state).status = state.status := by
  unfold refreshed
  split <;> rfl

@[simp] theorem position_refreshed : (node.refreshed state).position = state.position := by
  unfold refreshed
  split <;> rfl

theorem obeys_refreshed : node.Obeys (node.refreshed state) := by
  intro hkind
  unfold refreshed
  split
  · next hview =>
    rw [hview] at hkind
    exact absurd rfl hkind
  · rfl

/-- A node that carries what its rules come to does so whatever it hears. -/
theorem Obeys.hear {node : Node} {state : NodeState} (h : node.Obeys state) (event : Event) :
    node.Obeys (node.hear event state) := by
  unfold Node.hear
  split
  · split
    · exact node.obeys_refreshed _
    · exact h
  · split
    · exact node.obeys_refreshed _
    · exact h
  · exact h

/-- A node takes over the flags of the form around it, and nothing else. -/
theorem status_hear (origin : NodeId) : (node.hear event state).status =
    (node.scope.form.bind fun form => (Dispatch.trickle origin event).status? form).or
      state.status := by
  unfold hear Dispatch.status?
  cases event with
  | validationUpdate form status =>
    cases hform : node.scope.form with
    | none => simp
    | some around =>
      by_cases heq : form = around
      · simp [heq]
      · simp [heq, Ne.symm heq]
  | pagerUpdate pager position =>
    dsimp only
    split <;> simp
  | _ => simp

/-- A node takes over the position of the pager around it, and nothing else. -/
theorem position_hear (origin : NodeId) : (node.hear event state).position =
    (node.scope.pager.bind fun pager => (Dispatch.trickle origin event).position? pager).or
      state.position := by
  unfold hear Dispatch.position?
  cases event with
  | pagerUpdate pager position =>
    cases hpager : node.scope.pager with
    | none => simp
    | some around =>
      by_cases heq : pager = around
      · simp [heq]
      · simp [heq, Ne.symm heq]
  | validationUpdate form status =>
    dsimp only
    split <;> simp
  | _ => simp

end Node

/-- The event carries flags or a position. -/
def Event.isUpdate : Event → Bool
  | .validationUpdate _ _ | .pagerUpdate _ _ => true
  | _ => false

namespace Layout

variable {layout layout' : Layout} {id : NodeId}

/-! ## Trickling -/

/-- What the node `id` makes of an announcement, if there is such a node. -/
def heard (layout : Layout) (event : Event) (id : NodeId) : NodeState :=
  match layout.tree.node? id with
  | some node => node.hear event (layout.states.get id)
  | none => layout.states.get id

/-- An announcement changes nothing but the state of the node that receives it. -/
theorem receive_update {event : Event} (h : event.isUpdate = true) (layout : Layout) (id : NodeId) :
    ∃ states, layout.receive event id = { layout with states } ∧
      ∀ other, states.get other =
        if other = id then layout.heard event id else layout.states.get other := by
  have hsame : ∃ states, layout = { layout with states } ∧ ∀ other, states.get other =
      if other = id then layout.states.get id else layout.states.get other := by
    refine ⟨layout.states, rfl, fun other => ?_⟩
    split
    · next heq => rw [heq]
    · rfl
  have hrefresh : ∀ (node : Node) (change : NodeState → NodeState),
      ∃ states, (layout.modifyState id change).refreshNode id node = { layout with states } ∧
        ∀ other, states.get other =
          if other = id then node.refreshed (change (layout.states.get id))
          else layout.states.get other := by
    intro node change
    cases hview : node.view with
    | form spec =>
      refine ⟨layout.states.modify id change, by simp only [refreshNode, hview]; rfl,
        fun other => ?_⟩
      simp only [Node.refreshed, hview, Table.get_modify, eq_comm]
    | _ =>
      have hrefreshed : (layout.modifyState id change).refreshNode id node =
          (layout.modifyState id change).modifyState id node.refreshed := by
        simp only [refreshNode, hview]
        exact congrArg _ (funext fun state => by simp only [Node.refreshed, hview])
      refine ⟨(layout.states.modify id change).modify id node.refreshed, hrefreshed,
        fun other => ?_⟩
      simp only [Table.get_modify, if_true, eq_comm]
      split <;> rfl
  unfold receive heard
  cases hnode : layout.tree.node? id with
  | none => exact hsame
  | some node =>
    cases event with
    | validationUpdate form status =>
      dsimp only [Node.hear]
      split
      · exact hrefresh node _
      · exact hsame
    | pagerUpdate pager position =>
      dsimp only [Node.hear]
      split
      · exact hrefresh node _
      · exact hsame
    | _ => cases h

/-- **An announcement is heard by the nodes below its origin**, and changes nothing else. -/
theorem trickle_update {event : Event} (h : event.isUpdate = true) (layout : Layout)
    (origin : NodeId) :
    ∃ states, layout.trickle origin event = { layout with states } ∧
      ∀ id, states.get id =
        if id ∈ layout.tree.descendants origin then layout.heard event id
        else layout.states.get id := by
  have hnodup : (layout.tree.descendants origin).Nodup := by
    unfold Tree.descendants
    split
    · exact List.nodup_range'
    · exact List.nodup_nil
  unfold trickle
  generalize layout.tree.descendants origin = list at hnodup
  induction list generalizing layout with
  | nil => exact ⟨layout.states, rfl, by simp⟩
  | cons first rest ih =>
    rw [List.nodup_cons] at hnodup
    obtain ⟨middle, hreceive, hmiddle⟩ := receive_update h layout first
    obtain ⟨states, htrickle, hstates⟩ := ih { layout with states := middle } hnodup.2
    refine ⟨states, ?_, fun id => ?_⟩
    · rw [List.foldl_cons, hreceive, htrickle]
    · rw [hstates]
      have hother : id ≠ first →
          ({ layout with states := middle } : Layout).heard event id = layout.heard event id := by
        intro hne
        unfold heard
        dsimp only
        rw [hmiddle, if_neg hne]
      by_cases hfirst : id = first
      · subst hfirst
        rw [if_neg hnodup.1, if_pos (by simp)]
        dsimp only
        rw [hmiddle, if_pos rfl]
      · rw [hother hfirst]
        dsimp only
        rw [hmiddle, if_neg hfirst]
        simp [hfirst]

/-- **What trickles down from the form or the pager that it is about, is heard by all nodes**: those
that it does not reach are not concerned. -/
theorem trickle_sent (htrickles : layout.tree.Trickles) {origin : NodeId} {event : Event}
    (hsent : (Dispatch.trickle origin event).IsSent) :
    ∃ states, layout.trickle origin event = { layout with states } ∧
      ∀ id, states.get id = layout.heard event id := by
  have hupdate : event.isUpdate = true := by
    cases event <;> first | rfl | cases hsent
  obtain ⟨states, htrickle, hstates⟩ := trickle_update hupdate layout origin
  refine ⟨states, htrickle, fun id => ?_⟩
  rw [hstates]
  split
  · rfl
  · next hout =>
    unfold heard
    cases hnode : layout.tree.node? id with
    | none => rfl
    | some node =>
      cases event with
      | validationUpdate form status =>
        refine (if_neg fun hform => hout ?_).symm
        rw [show origin = form from hsent]
        exact htrickles.form id form (by simp [Tree.formAround, hnode, hform])
      | pagerUpdate pager position =>
        refine (if_neg fun hpager => hout ?_).symm
        rw [show origin = pager from hsent]
        exact htrickles.pager id pager (by simp [Tree.pagerAround, hnode, hpager])
      | _ => cases hupdate

/-- A node takes over the flags of the form around it, and nothing else. -/
theorem status_heard (layout : Layout) (event : Event) (id origin : NodeId) :
    (layout.heard event id).status =
      ((layout.tree.formAround id).bind fun form =>
        (Dispatch.trickle origin event).status? form).or (layout.states.get id).status := by
  unfold heard Tree.formAround
  cases layout.tree.node? id with
  | none => rfl
  | some node => exact node.status_hear event _ origin

/-- A node takes over the position of the pager around it, and nothing else. -/
theorem position_heard (layout : Layout) (event : Event) (id origin : NodeId) :
    (layout.heard event id).position =
      ((layout.tree.pagerAround id).bind fun pager =>
        (Dispatch.trickle origin event).position? pager).or (layout.states.get id).position := by
  unfold heard Tree.pagerAround
  cases layout.tree.node? id with
  | none => rfl
  | some node => exact node.position_hear event _ origin

/-! ## What is no announcement -/

theorem states_changeForm (layout : Layout) (id : NodeId) (intent : FormIntent) :
    (layout.changeForm id intent).states = layout.states :=
  (congrArg Layout.states (frame_changeForm layout id intent) :)

theorem states_changePager (layout : Layout) (id : NodeId) (intent : PagerIntent) :
    (layout.changePager id intent).states = layout.states :=
  (congrArg Layout.states (frame_changePager layout id intent) :)

theorem states_report (layout : Layout) (report : Report) :
    (layout.report report).states = layout.states := by
  unfold Layout.report
  split <;> rfl

theorem states_submitForm (layout : Layout) (id : NodeId) (spec : FormSpec)
    (button : Option String) : (layout.submitForm id spec button).states = layout.states := by
  have hchange := states_changeForm layout id .submit
  unfold submitForm applyUpdate
  dsimp only
  split
  · rfl
  · split
    · exact hchange
    · split <;> exact hchange

/-- Several dispatches come behind all that waits. -/
theorem pushAll_eq (layout : Layout) (dispatches : List Dispatch) : layout.pushAll dispatches =
    { layout with outbox := ⟨layout.outbox.queue ++ dispatches⟩ } := by
  unfold pushAll
  induction dispatches generalizing layout with
  | nil => rw [List.foldl_nil, List.append_nil]
  | cons dispatch rest ih =>
    rw [List.foldl_cons, ih, List.append_cons]
    rfl

theorem states_pushAll (layout : Layout) (dispatches : List Dispatch) :
    (layout.pushAll dispatches).states = layout.states := by
  rw [pushAll_eq]

/-- From what is no announcement nodes take nothing. -/
theorem states_receive {event : Event} (h : event.isUpdate = false) (layout : Layout)
    (id : NodeId) : (layout.receive event id).states = layout.states := by
  unfold receive
  cases layout.tree.node? id with
  | none => rfl
  | some node =>
    cases event with
    | layoutSubmit button =>
      dsimp only
      split
      · exact states_submitForm _ _ _ _
      · rfl
    | validationUpdate _ _ => cases h
    | pagerUpdate _ _ => cases h
    | _ => rfl

theorem states_trickle {event : Event} (h : event.isUpdate = false) (layout : Layout)
    (origin : NodeId) : (layout.trickle origin event).states = layout.states := by
  unfold trickle
  generalize layout.tree.descendants origin = list
  induction list generalizing layout with
  | nil => rfl
  | cons id rest ih =>
    rw [List.foldl_cons, ih, states_receive h]

theorem states_atRoot (layout : Layout) (origin : NodeId) (event : Event) :
    (layout.atRoot origin event).states = layout.states := by
  unfold atRoot
  split
  · exact states_report _ _
  · exact states_report _ _
  · split
    · rfl
    · exact states_report _ _
  · rw [states_pushAll, broadcast, states_trickle rfl, states_receive rfl]
  · rfl

theorem states_offer (layout : Layout) (id : NodeId) (event : Event) :
    (layout.offer id event).1.states = layout.states := by
  unfold offer
  split
  · unfold offerForm
    split
    · rfl
    · split
      · rfl
      · dsimp only
        split <;> exact states_changeForm _ _ _
  · unfold offerPager
    split
    · exact states_changePager _ _ _
    · exact states_changePager _ _ _
    · rfl
  · rfl

/-- **What bubbles leaves the states of nodes alone.** -/
theorem states_bubbleTo (origin : NodeId) : ∀ (list : List NodeId) (event : Event)
    (layout : Layout), (bubbleTo origin list event layout).states = layout.states
  | [], event, layout => states_atRoot layout origin event
  | id :: rest, event, layout => by
    have hoffer := states_offer layout id event
    rw [bubbleTo]
    generalize layout.offer id event = offered at hoffer
    obtain ⟨layout', propagation⟩ := offered
    cases propagation with
    | stop => exact hoffer
    | next event' => exact (states_bubbleTo origin rest event' layout').trans hoffer

/-! ## Nodes in step -/

/-- Nodes know what was announced, but for what waits in the outbox, and carry what their rules come
to for what they know. -/
structure InStep (layout : Layout) : Prop where
  told : layout.Told
  sent : ∀ dispatch ∈ layout.outbox.queue, dispatch.IsSent
  status : ∀ id form, layout.tree.formAround id = some form →
    Lags (layout.announced.get form) (layout.outbox.queue.filterMap (·.status? form))
      (layout.states.get id).status
  /-- The positions of a pager are the one at which it started and those that it committed. -/
  position : ∀ pager, layout.tree.isPager pager = true → ∃ first,
    (first :: (layout.pager pager).history).getLast? = some (layout.pager pager).value ∧
    ∀ id, layout.tree.pagerAround id = some pager →
      Lags (first :: (layout.pager pager).history)
        (layout.outbox.queue.filterMap (·.position? pager)) (layout.states.get id).position
  noForm : ∀ id, layout.tree.formAround id = none → (layout.states.get id).status = none
  noPager : ∀ id, layout.tree.pagerAround id = none → (layout.states.get id).position = none
  obeys : ∀ id node, layout.tree.node? id = some node → node.Obeys (layout.states.get id)

namespace InStep

/-- What is announced waits behind all else, so that nodes stay in step. -/
theorem of_informs (h : layout.InStep) (hinforms : Informs layout layout')
    (hstates : ∀ id, (layout'.states.get id).status = (layout.states.get id).status ∧
      (layout'.states.get id).position = (layout.states.get id).position ∧
      (layout'.states.get id).isEnabled = (layout.states.get id).isEnabled) : layout'.InStep := by
  have htells := hinforms.tells
  obtain ⟨more, hqueue, hsent, hannounced, hhistory⟩ := htells.queue
  refine ⟨hinforms.told h.told, fun dispatch hd => ?_, fun id form haround => ?_,
    fun pager hpager => ?_, fun id haround => ?_, fun id haround => ?_,
    fun id node hnode hkind => ?_⟩
  · rw [hqueue] at hd
    rcases List.mem_append.mp hd with hd | hd
    · exact h.sent dispatch hd
    · exact hsent dispatch hd
  · rw [htells.tree] at haround
    rw [hqueue, hannounced, List.filterMap_append, (hstates id).1]
    exact (h.status id form haround).append _
  · rw [htells.tree] at hpager
    obtain ⟨first, hvalue, hlags⟩ := h.position pager hpager
    refine ⟨first, htells.value pager first hvalue, fun id haround => ?_⟩
    rw [htells.tree] at haround
    rw [hqueue, hhistory, List.filterMap_append, (hstates id).2.1, ← List.cons_append]
    exact (hlags id haround).append _
  · rw [htells.tree] at haround
    rw [(hstates id).1, h.noForm id haround]
  · rw [htells.tree] at haround
    rw [(hstates id).2.1, h.noPager id haround]
  · rw [htells.tree] at hnode
    rw [(hstates id).1, (hstates id).2.1, (hstates id).2.2]
    exact h.obeys id node hnode hkind

/-- When the oldest dispatch is taken out of the outbox, nodes stay in step if they know what it
carries for them. -/
theorem take (h : layout.InStep) {dispatch : Dispatch} {rest : List Dispatch}
    (hqueue : layout.outbox.queue = dispatch :: rest) {states : Table NodeState}
    (hstatus : ∀ id, (states.get id).status =
      ((layout.tree.formAround id).bind fun form => dispatch.status? form).or
        (layout.states.get id).status)
    (hposition : ∀ id, (states.get id).position =
      ((layout.tree.pagerAround id).bind fun pager => dispatch.position? pager).or
        (layout.states.get id).position)
    (hobeys : ∀ id node, layout.tree.node? id = some node → node.Obeys (states.get id)) :
    InStep { layout with outbox := ⟨rest⟩, states } where
  told := h.told.congr rfl (fun _ => rfl) rfl
  sent other hother := h.sent other (by rw [hqueue]; exact List.mem_cons_of_mem _ hother)
  status id form haround := by
    have hlags := h.status id form haround
    rw [hqueue] at hlags
    dsimp only
    rw [hstatus, show layout.tree.formAround id = some form from haround, Option.bind_some]
    cases hcarries : dispatch.status? form with
    | none => rwa [List.filterMap_cons_none hcarries] at hlags
    | some status =>
      rw [List.filterMap_cons_some hcarries] at hlags
      exact hlags.read
  position pager hpager := by
    obtain ⟨first, hvalue, hlags⟩ := h.position pager hpager
    refine ⟨first, hvalue, fun id haround => ?_⟩
    have hlags := hlags id haround
    rw [hqueue] at hlags
    dsimp only
    rw [hposition, show layout.tree.pagerAround id = some pager from haround, Option.bind_some]
    cases hcarries : dispatch.position? pager with
    | none => rwa [List.filterMap_cons_none hcarries] at hlags
    | some position =>
      rw [List.filterMap_cons_some hcarries] at hlags
      exact hlags.read
  noForm id haround := by
    dsimp only
    rw [hstatus, show layout.tree.formAround id = none from haround]
    exact h.noForm id haround
  noPager id haround := by
    dsimp only
    rw [hposition, show layout.tree.pagerAround id = none from haround]
    exact h.noPager id haround
  obeys := hobeys

/-- A dispatch that carries nothing for anyone is taken out of the outbox. -/
theorem pop (h : layout.InStep) {dispatch : Dispatch} {rest : List Dispatch}
    (hqueue : layout.outbox.queue = dispatch :: rest)
    (hstatus : ∀ id form, layout.tree.formAround id = some form → dispatch.status? form = none)
    (hposition : ∀ id pager, layout.tree.pagerAround id = some pager →
      dispatch.position? pager = none) : InStep { layout with outbox := ⟨rest⟩ } := by
  refine h.take hqueue (fun id => ?_) (fun id => ?_) h.obeys
  · cases haround : layout.tree.formAround id with
    | none => rfl
    | some form => rw [Option.bind_some, hstatus id form haround, Option.none_or]
  · cases haround : layout.tree.pagerAround id with
    | none => rfl
    | some pager => rw [Option.bind_some, hposition id pager haround, Option.none_or]

/-- **An announcement is heard by those whom it concerns**: these are below the form or the pager
that it comes from. -/
theorem hear (h : layout.InStep) (htrickles : layout.tree.Trickles) {origin : NodeId}
    {event : Event} {rest : List Dispatch}
    (hqueue : layout.outbox.queue = .trickle origin event :: rest) :
    InStep ({ layout with outbox := ⟨rest⟩ }.trickle origin event) := by
  have hsent := h.sent (.trickle origin event) (by simp [hqueue])
  obtain ⟨states, htrickle, hstates⟩ :=
    ({ layout with outbox := ⟨rest⟩ } : Layout).trickle_sent htrickles hsent
  rw [htrickle]
  refine h.take hqueue (fun id => ?_) (fun id => ?_) fun id node hnode => ?_
  · rw [hstates]
    exact status_heard _ event id origin
  · rw [hstates]
    exact position_heard _ event id origin
  · have hheard : states.get id = node.hear event (layout.states.get id) := by
      rw [hstates]
      simp only [heard, hnode]
    rw [hheard]
    exact (h.obeys id node hnode).hear event

/-- **Routing a dispatch keeps nodes in step.** -/
theorem route (h : layout.InStep) (hsound : layout.Sound) (htrickles : layout.tree.Trickles)
    {dispatch : Dispatch} {rest : List Dispatch}
    (hqueue : layout.outbox.queue = dispatch :: rest) :
    InStep ({ layout with outbox := ⟨rest⟩ }.route dispatch) := by
  have hsent := h.sent dispatch (by simp [hqueue])
  cases dispatch with
  | bubble origin event =>
    have hpopped : InStep { layout with outbox := ⟨rest⟩ } :=
      h.pop hqueue (fun _ _ _ => rfl) fun _ _ _ => rfl
    have hsound' : Sound { layout with outbox := ⟨rest⟩ } :=
      hsound.congr rfl (fun _ => rfl) fun _ => rfl
    have hstates : ({ layout with outbox := ⟨rest⟩ }.route (.bubble origin event)).states =
        layout.states := states_bubbleTo origin _ event _
    refine hpopped.of_informs (hsound'.informs_route (.bubble origin event)) fun id => ?_
    rw [hstates]
    exact ⟨rfl, rfl, rfl⟩
  | trickle origin event => exact h.hear htrickles hqueue
  | broadcast event => cases hsent

end InStep

/-- **Routing all that waits keeps nodes in step**, if nothing is dropped.

**Proof sketch.** Each dispatch is routed in turn. A stray one has an origin that is no node, and so
it carries nothing for anyone. -/
theorem inStep_settle (hsound : layout.Sound) (htrickles : layout.tree.Trickles)
    (h : layout.dropped = [] → layout.InStep) (hdropped : layout.settle.dropped = []) :
    layout.settle.InStep := by
  refine drain_induction
    (P := fun world => world.Sound ∧ world.tree.Trickles ∧ (world.dropped = [] → world.InStep))
    (Q := fun world => world.dropped = [] → world.InStep)
    (fun world dispatch rest hworld hqueue _ => ?_) (fun world hworld _ => hworld.2.2)
    (fun world hworld hdropped => ?_) (fun world dispatch rest hworld hqueue hstray hdropped => ?_)
    _ layout ⟨hsound, htrickles, h⟩ hdropped
  all_goals obtain ⟨hsound, htrickles, h⟩ := hworld
  · have hsound' : Sound { world with outbox := ⟨rest⟩ } :=
      hsound.congr rfl (fun _ => rfl) fun _ => rfl
    obtain ⟨hrouted, htree, -⟩ := keeps_route { world with outbox := ⟨rest⟩ } dispatch hsound'
    refine ⟨hrouted, by rw [htree]; exact htrickles, fun hdropped => ?_⟩
    rw [(hsound'.informs_route dispatch).tells.dropped] at hdropped
    exact (h hdropped).route hsound htrickles hqueue
  · obtain ⟨hdropped, hqueue⟩ := List.append_eq_nil_iff.mp hdropped
    have houtbox : world.outbox = {} := by
      cases houtbox : world.outbox
      rw [houtbox] at hqueue
      exact congrArg Outbox.mk hqueue
    have hworld := h hdropped
    exact ⟨hworld.told, by simp, fun id form haround => hqueue ▸ hworld.status id form haround,
      fun pager hpager => hqueue ▸ hworld.position pager hpager, hworld.noForm, hworld.noPager,
      hworld.obeys⟩
  · have hpopped : InStep { world with outbox := ⟨rest⟩ } := by
      have hsent := (h hdropped).sent dispatch (by simp [hqueue])
      have hnode : ∀ origin, dispatch.origin? = some origin → world.tree.node? origin = none := by
        intro origin horigin
        cases dispatch with
        | broadcast event => cases horigin
        | _ => cases horigin; exact Option.isNone_iff_eq_none.mp hstray
      refine (h hdropped).pop hqueue (fun id form haround => ?_) fun id pager haround => ?_
      · cases hcarries : dispatch.status? form with
        | none => rfl
        | some status =>
          have := (hsound.wf.linked.formAround_spec haround).2
          simp [Tree.form?, hnode form (hsent.origin?_of_status? hcarries)] at this
      · cases hcarries : dispatch.position? pager with
        | none => rfl
        | some position =>
          have := (hsound.wf.linked.pagerAround_spec haround).2
          simp [Tree.isPager, Tree.view?, hnode pager (hsent.origin?_of_position? hcarries)] at this
    exact ⟨hpopped.told, hpopped.sent, hpopped.status, hpopped.position, hpopped.noForm,
      hpopped.noPager, hpopped.obeys⟩

end Layout

end FormTree

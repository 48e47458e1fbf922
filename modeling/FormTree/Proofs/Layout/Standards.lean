import FormTree.Proofs.Layout.Hearing
import FormTree.Proofs.Layout.Run
import FormTree.Proofs.Layout.Steps

set_option autoImplicit false

/-!
# Standards

Forms change in answer to what inputs and nested forms tell them, and what they tell in turn is made
of their states; pagers change in answer to moves. So if changes keep a property of states, provided
that the data that comes in has a property as well, and if the data that is made of such states has
it, then all states that a layout ever has, and all the data that travels through it, keep to this
standard from the start.

## Main definitions

* `FormTree.Observable.Always` — all snapshots that a container ever held have a property.
* `FormTree.Standard` — properties of the states of forms and pagers, and of data.
* `FormTree.Standard.IsClosed` — changes keep the standard.
* `FormTree.Standard.Starts` — declared nodes start with it.
* `FormTree.Layout.Upholds` — a layout keeps to the standard.

## Main results

* `FormTree.Layout.Upholds.route`, `FormTree.Layout.Upholds.settle` — whatever is routed, the
  standard is upheld.
* `FormTree.Layout.Upholds.perform` — so it is by calls.
* `FormTree.Layout.upholds_build`, `FormTree.Layout.upholds_run` — and by an active layout, whatever
  the renderer does.
-/

namespace FormTree

/-! ## Containers -/

namespace Observable

variable {σ κ : Type} {P : σ → Prop} {state state' : Observable σ κ}

/-- All snapshots that the container ever held since its log begins have the property. -/
structure Always (P : σ → Prop) (state : Observable σ κ) : Prop where
  value : P state.value
  history : ∀ snapshot ∈ state.history, P snapshot

namespace Always

lemma of_same (h : state.Always P) (hvalue : state'.value = state.value)
    (hhistory : state'.history = state.history) : state'.Always P where
  value := hvalue ▸ h.value
  history := hhistory ▸ h.history

lemma commit [DecidableEq σ] (h : state.Always P) {next : σ} (hnext : P next) :
    (state.commit next).Always P where
  value := by rwa [value_commit]
  history := by
    rw [history_commit]
    intro snapshot hmem
    rcases List.mem_append.mp hmem with hmem | hmem
    · exact h.history snapshot hmem
    · unfold added at hmem
      split at hmem
      · cases hmem
      · rwa [List.mem_singleton.mp hmem]

end Always

end Observable

/-! ## Standards -/

/-- The data that an event carries. -/
def Event.entry? : Event → Option Entry
  | .dataChange entry | .formResult entry _ _ => some entry
  | _ => none

/-- The data that is reported. -/
def ReportedEvent.entry? : ReportedEvent → Option Entry
  | .formResult entry _ => some entry
  | _ => none

/-- What the states of forms and of each pager are to be like, and the data of inputs and forms. -/
structure Standard where
  form : FormState → Prop
  pager : NodeId → PagerState → Prop
  entry : Entry → Prop

namespace Standard

/-- The event carries no other data. -/
def Admits (standard : Standard) (event : Event) : Prop :=
  ∀ entry, event.entry? = some entry → standard.entry entry

/-- Changes keep the standard, if what comes in does: no pager is told another number of pages. -/
structure IsClosed (standard : Standard) : Prop where
  /-- A form to which nothing contributes meets the standard. -/
  form_empty : ∀ state : FormState, state.inputs = ∅ → standard.form state
  form_reduce : ∀ (state : FormState) (intent : FormIntent), standard.form state →
    (∀ entry, intent = .input entry → standard.entry entry) → standard.form (state.reduce intent)
  entry_form : ∀ (spec : FormSpec) (state : FormState), standard.form state →
    standard.entry (spec.entry state)
  entry_input : ∀ (spec : InputSpec) (answer : Answer), spec.accepts answer = true →
    standard.entry (spec.entry answer)
  pager_reduce : ∀ (id : NodeId) (state : PagerState) (intent : PagerIntent),
    standard.pager id state → (∀ count, intent ≠ .setPageCount count) →
    standard.pager id (state.reduce intent)

/-- The pagers of the tree start with the standard. -/
def Starts (standard : Standard) (tree : Tree) : Prop :=
  ∀ id node spec, tree.node? id = some node → node.view = .pager spec →
    standard.pager id (.start spec.id (UInt64.ofNat node.children.length))

variable {standard : Standard} {event : Event}

lemma admits_of_none (h : event.entry? = none) : standard.Admits event := fun entry hentry => by
  rw [h] at hentry
  cases hentry

lemma Admits.mapContext (h : standard.Admits event) (change : LayoutContext → LayoutContext) :
    standard.Admits (event.mapContext change) := fun entry hentry =>
  h entry (by cases event <;> exact hentry)

/-- What a form is told comes from the event that tells it. -/
lemma Admits.intent (h : standard.Admits event) {intent : FormIntent}
    (hintent : event.formIntent? = some intent) :
    ∀ entry, intent = .input entry → standard.entry entry := by
  rintro entry rfl
  refine h entry ?_
  cases event <;> cases hintent
  rfl

/-- A nested form tells what meets the standard. -/
lemma IsClosed.admits_forward (hclosed : standard.IsClosed) {state : FormState}
    (h : standard.form state) (spec : FormSpec) (intent : FormIntent) :
    standard.Admits (spec.forward state intent) := by
  intro entry hentry
  cases intent <;> cases hentry
  all_goals exact hclosed.entry_form spec state h

end Standard

namespace Layout

variable {standard : Standard} {tree : Tree} {bound : NodeId} {layout layout' : Layout}
  {id : NodeId} {event : Event}

/-- The layout has the given tree, all states of forms, and of the pagers before the bound, keep to
the standard, and so does all the data that waits in the outbox and that was reported. -/
structure Upholds (standard : Standard) (tree : Tree) (bound : NodeId) (layout : Layout) :
    Prop where
  tree_eq : layout.tree = tree
  forms : ∀ id, (layout.form id).Always standard.form
  pagers : ∀ id < bound, tree.isPager id = true → (layout.pager id).Always (standard.pager id)
  queue : ∀ dispatch ∈ layout.outbox.queue, standard.Admits dispatch.event
  reports : ∀ report ∈ layout.reports, ∀ entry, report.event.entry? = some entry →
    standard.entry entry

namespace Upholds

/-- What leaves the containers and the reports alone, and puts nothing else into the outbox. -/
lemma congr (h : layout.Upholds standard tree bound) (htree : layout'.tree = layout.tree)
    (hforms : layout'.forms = layout.forms) (hpagers : layout'.pagers = layout.pagers)
    (hreports : layout'.reports = layout.reports)
    (hqueue : ∀ dispatch ∈ layout'.outbox.queue, dispatch ∈ layout.outbox.queue ∨
      standard.Admits dispatch.event) : layout'.Upholds standard tree bound where
  tree_eq := htree.trans h.tree_eq
  forms id := by
    rw [form, hforms]
    exact h.forms id
  pagers id hlt hpager := by
    rw [pager, hpagers]
    exact h.pagers id hlt hpager
  queue dispatch hmem := (hqueue dispatch hmem).elim (h.queue dispatch) fun hadmits => hadmits
  reports := hreports ▸ h.reports

lemma push (h : layout.Upholds standard tree bound) {dispatch : Dispatch}
    (hdispatch : standard.Admits dispatch.event) :
    (layout.push dispatch).Upholds standard tree bound :=
  h.congr rfl rfl rfl rfl fun other hmem => (List.mem_append.mp hmem).imp_right fun hlast => by
    rwa [List.mem_singleton.mp hlast]

lemma pushAll (h : layout.Upholds standard tree bound) {dispatches : List Dispatch}
    (hdispatches : ∀ dispatch ∈ dispatches, standard.Admits dispatch.event) :
    (layout.pushAll dispatches).Upholds standard tree bound := by
  rw [pushAll_eq]
  exact h.congr rfl rfl rfl rfl fun dispatch hmem =>
    (List.mem_append.mp hmem).imp_right (hdispatches dispatch)

lemma modifyState (h : layout.Upholds standard tree bound) (id : NodeId)
    (change : NodeState → NodeState) :
    (layout.modifyState id change).Upholds standard tree bound :=
  h.congr rfl rfl rfl rfl fun _ => .inl

lemma report (h : layout.Upholds standard tree bound) {report : Report}
    (hreport : ∀ entry, report.event.entry? = some entry → standard.entry entry) :
    (layout.report report).Upholds standard tree bound := by
  unfold Layout.report
  split
  · refine ⟨h.tree_eq, h.forms, h.pagers, h.queue, fun other hmem => ?_⟩
    rcases List.mem_append.mp hmem with hmem | hmem
    · exact h.reports other hmem
    · rwa [List.mem_singleton.mp hmem]
  · exact h

/-! ## Changes -/

/-- The container of a form is changed to one that keeps to the standard. -/
lemma modifyForm (h : layout.Upholds standard tree bound) (id : NodeId)
    {change : Observable FormState FormReaction → Observable FormState FormReaction}
    (hchange : (change (layout.form id)).Always standard.form) :
    ((formPlace id).modify layout change).Upholds standard tree bound where
  tree_eq := h.tree_eq
  forms other := by
    rw [form_modify]
    split
    · exact hchange
    · exact h.forms other
  pagers := h.pagers
  queue := h.queue
  reports := h.reports

lemma modifyPager (h : layout.Upholds standard tree bound) (id : NodeId)
    {change : Observable PagerState PagerReaction → Observable PagerState PagerReaction}
    (hchange : (layout.pager id).Always (standard.pager id) →
      (change (layout.pager id)).Always (standard.pager id)) :
    ((pagerPlace id).modify layout change).Upholds standard tree bound where
  tree_eq := h.tree_eq
  forms := h.forms
  pagers other hlt hpager := by
    rw [pager_modify]
    split
    · next heq =>
      subst heq
      exact hchange (h.pagers id hlt hpager)
    · exact h.pagers other hlt hpager
  queue := h.queue
  reports := h.reports

lemma announce (h : layout.Upholds standard tree bound) (id : NodeId) (status : FormStatus) :
    (layout.announce id status).Upholds standard tree bound :=
  (h.congr rfl rfl rfl rfl fun _ => .inl :
    Upholds standard tree bound { layout with
      announced := layout.announced.modify id (· ++ [status]) }).push (Standard.admits_of_none rfl)

section Closed

variable (hclosed : standard.IsClosed)
include hclosed

/-- **A change of a form, with all that follows, upholds the standard.** -/
theorem updateForm (depth : Nat) : ∀ {layout : Layout} (id : NodeId) {intent : FormIntent},
    layout.Upholds standard tree bound →
    (∀ entry, intent = .input entry → standard.entry entry) →
    (updateForm depth id intent layout).Upholds standard tree bound := by
  induction depth with
  | zero => exact fun _ _ h _ => h
  | succ depth ih =>
    intro layout id intent h hintent
    refine (formPlace id).flush_induction (reactForm (Layout.updateForm depth))
      (P := Upholds standard tree bound) (fun observer snapshot world hworld => ?_)
      (fun world change hkeeps hworld => ?_) ?_
    · -- observers change forms, but give them no data
      unfold reactForm
      split
      · exact ih _ hworld nofun
      · split
        · exact hworld
        · split
          · exact hworld
          · exact ih _ (hworld.push (Standard.admits_of_none rfl)) nofun
      · exact ih _ hworld nofun
      · split
        · exact hworld
        · exact hworld.announce _ _
      · exact hworld
    · exact hworld.modifyForm id
        ((hworld.forms id).of_same (hkeeps _).1 (hkeeps _).2)
    · exact h.modifyForm id
        ((h.forms id).commit (hclosed.form_reduce _ intent (h.forms id).value hintent))

lemma changeForm (h : layout.Upholds standard tree bound) (id : NodeId) {intent : FormIntent}
    (hintent : ∀ entry, intent = .input entry → standard.entry entry) :
    (layout.changeForm id intent).Upholds standard tree bound :=
  updateForm hclosed _ id h hintent

/-- **A move of a pager, with all that follows, upholds the standard.** -/
theorem changePager (h : layout.Upholds standard tree bound) (id : NodeId) {intent : PagerIntent}
    (hintent : ∀ count, intent ≠ .setPageCount count) :
    (layout.changePager id intent).Upholds standard tree bound := by
  refine (pagerPlace id).flush_induction (reactPager (Layout.updateForm layout.depth))
    (P := Upholds standard tree bound) (fun observer snapshot world hworld => ?_)
    (fun world change hkeeps hworld => ?_) ?_
  · unfold reactPager
    split
    · exact hworld.push (Standard.admits_of_none rfl)
    · exact updateForm hclosed _ _ hworld nofun
    · exact hworld
  · exact hworld.modifyPager id fun hpager => hpager.of_same (hkeeps _).1 (hkeeps _).2
  · exact h.modifyPager id fun hpager =>
      hpager.commit (hclosed.pager_reduce id _ intent hpager.value hintent)

/-! ## Routing -/

/-- A node that is offered an event upholds the standard, and lets go on only what meets it. -/
lemma offer (h : layout.Upholds standard tree bound) (id : NodeId)
    (hevent : standard.Admits event) :
    (layout.offer id event).1.Upholds standard tree bound ∧
      ∀ event', (layout.offer id event).2 = .next event' → standard.Admits event' := by
  have hsame : ∀ event', Propagation.next event = .next event' → standard.Admits event' := by
    rintro _ ⟨⟩
    exact hevent
  have hstop : ∀ event', Propagation.stop = .next event' → standard.Admits event' := by
    rintro _ ⟨⟩
  unfold Layout.offer
  split
  · unfold offerForm
    split
    · refine ⟨h, ?_⟩
      rintro _ ⟨⟩
      exact Standard.admits_of_none rfl
    · split
      · exact ⟨h, hsame⟩
      · next intent hintent =>
        have hentries := hevent.intent hintent
        have hafter := h.changeForm hclosed id hentries
        dsimp only
        split
        · refine ⟨hafter, ?_⟩
          rintro _ ⟨⟩
          exact hclosed.admits_forward
            (hclosed.form_reduce _ intent (h.forms id).value hentries) _ intent
        · exact ⟨hafter, hstop⟩
  · unfold offerPager
    split
    · exact ⟨h.changePager hclosed id nofun, hstop⟩
    · exact ⟨h.changePager hclosed id nofun, hstop⟩
    · refine ⟨h, ?_⟩
      rintro _ ⟨⟩
      exact hevent.mapContext _
  · exact ⟨h, hsame⟩

lemma submitForm (h : layout.Upholds standard tree bound) (id : NodeId) (spec : FormSpec)
    (button : Option String) :
    (layout.submitForm id spec button).Upholds standard tree bound := by
  have hsubmitted := hclosed.form_reduce _ .submit (h.forms id).value nofun
  have hchange : (layout.changeForm id .submit).Upholds standard tree bound :=
    h.changeForm hclosed id nofun
  unfold Layout.submitForm
  dsimp only
  split
  · exact h
  · have hresult : standard.Admits (Dispatch.bubble id (.formResult
        (spec.entry ((layout.form id).value.reduce .submit))
        ((layout.form id).value.reduce .submit).attributes
        ((LayoutContext.ofForm (layout.form id).value.context).withButton button))).event := by
      rintro _ ⟨⟩
      exact hclosed.entry_form _ _ hsubmitted
    have hpushed := hchange.push hresult
    split
    · exact hpushed
    · unfold applyUpdate
      split
      · exact hpushed.congr rfl rfl rfl rfl fun _ => .inl
      · exact hpushed

omit hclosed in
lemma refreshNode (h : layout.Upholds standard tree bound) (id : NodeId) (node : Node) :
    (layout.refreshNode id node).Upholds standard tree bound := by
  unfold Layout.refreshNode
  split
  · exact h
  · exact h.modifyState id _

lemma receive (event : Event) (h : layout.Upholds standard tree bound) (id : NodeId) :
    (layout.receive event id).Upholds standard tree bound := by
  unfold Layout.receive
  split
  · exact h
  · split
    · split
      · exact (h.modifyState id _).refreshNode id _
      · exact h
    · split
      · exact (h.modifyState id _).refreshNode id _
      · exact h
    · split
      · exact h.submitForm hclosed id _ _
      · exact h
    · exact h

lemma trickle (event : Event) (h : layout.Upholds standard tree bound) (origin : NodeId) :
    (layout.trickle origin event).Upholds standard tree bound :=
  List.foldlRecOn _ _ h fun _ hworld id _ => receive hclosed event hworld id

lemma broadcast (event : Event) (h : layout.Upholds standard tree bound) :
    (layout.broadcast event).Upholds standard tree bound :=
  trickle hclosed event (receive hclosed event h 0) 0

omit hclosed in
/-- The events that buttons raise carry no data. -/
lemma admits_followUps {button : NodeId} {identifier : String} {effects : List ClickBehavior}
    {dispatch : Dispatch} (h : dispatch ∈ followUps button identifier effects) :
    standard.Admits dispatch.event := by
  obtain ⟨effect, -, heffect⟩ := List.mem_filterMap.mp h
  obtain ⟨event, hevent, rfl⟩ := Option.map_eq_some_iff.mp heffect
  cases effect <;> cases hevent <;> exact Standard.admits_of_none rfl

lemma atRoot (h : layout.Upholds standard tree bound) (origin : NodeId)
    (hevent : standard.Admits event) :
    (layout.atRoot origin event).Upholds standard tree bound := by
  unfold Layout.atRoot
  split
  · exact h.report (by nofun)
  · exact h.report (by rintro _ ⟨⟩; exact hevent _ rfl)
  · split
    · exact h
    · next button isCancel _ _ =>
      have hdismissed : Upholds standard tree bound
          { layout with dismissal := some ⟨button, isCancel⟩ } :=
        h.congr rfl rfl rfl rfl fun _ => .inl
      exact hdismissed.report (by nofun)
  · exact (broadcast hclosed _ h).pushAll fun _ hmem => admits_followUps hmem
  · exact h

lemma bubbleTo (origin : NodeId) (path : List NodeId) :
    ∀ {layout : Layout} {event : Event}, layout.Upholds standard tree bound →
      standard.Admits event →
      (bubbleTo origin path event layout).Upholds standard tree bound := by
  induction path with
  | nil => exact fun h hevent => h.atRoot hclosed origin hevent
  | cons id path ih =>
    intro layout event h hevent
    obtain ⟨hoffered, hnext⟩ := h.offer hclosed id hevent
    rw [Layout.bubbleTo]
    generalize layout.offer id event = offered at hoffered hnext
    obtain ⟨layout', propagation⟩ := offered
    cases propagation with
    | stop => exact hoffered
    | next event' => exact ih hoffered (hnext event' rfl)

/-- **Whatever is routed, the standard is upheld**, if what is routed meets it. -/
theorem route (h : layout.Upholds standard tree bound) {dispatch : Dispatch}
    (hdispatch : standard.Admits dispatch.event) :
    (layout.route dispatch).Upholds standard tree bound := by
  cases dispatch with
  | bubble origin event => exact bubbleTo hclosed origin _ h hdispatch
  | trickle origin event => exact trickle hclosed event h origin
  | broadcast event => exact broadcast hclosed event h

/-- **All that waits is routed, and the standard is upheld.** -/
theorem settle (h : layout.Upholds standard tree bound) :
    layout.settle.Upholds standard tree bound := by
  refine drain_induction (P := Upholds standard tree bound) (Q := Upholds standard tree bound)
    (fun world dispatch rest hworld hqueue _ => ?_) (fun _ hworld _ => hworld)
    (fun world hworld => hworld.congr rfl rfl rfl rfl fun _ hmem => absurd hmem List.not_mem_nil)
    (fun world dispatch rest hworld hqueue _ => ?_) _ layout h
  · have hdispatch := hworld.queue dispatch (by rw [hqueue]; exact List.mem_cons_self)
    have hpopped : Upholds standard tree bound { world with outbox := ⟨rest⟩ } :=
      hworld.congr rfl rfl rfl rfl fun other hmem =>
        .inl (by rw [hqueue]; exact List.mem_cons_of_mem _ hmem)
    exact hpopped.route hclosed hdispatch
  · exact hworld.congr rfl rfl rfl rfl fun other hmem =>
      .inl (by rw [hqueue]; exact List.mem_cons_of_mem _ hmem)

/-! ## Calls -/

lemma setDisplayed (h : layout.Upholds standard tree bound) {isDisplayed : Bool}
    (hcall : layout.setDisplayed id isDisplayed = .ok layout') :
    layout'.Upholds standard tree bound := by
  obtain ⟨view, -, rfl⟩ := setDisplayed_eq_ok.mp hcall
  split
  · exact (bubbleTo hclosed id _ h (Standard.admits_of_none rfl)).settle hclosed
  · exact h

/-- **Calls uphold the standard**; an event from outside has to meet it. -/
theorem perform (h : layout.Upholds standard tree bound) {call : Call}
    (hevent : ∀ origin event direction, call = .dispatch origin event direction →
      standard.Admits event) (hcall : layout.perform call = .ok layout') :
    layout'.Upholds standard tree bound := by
  cases call with
  | attach id => exact (h.modifyState id _).setDisplayed hclosed (setAttached_eq_ok.mp hcall)
  | detach id => exact (h.modifyState id _).setDisplayed hclosed (setAttached_eq_ok.mp hcall)
  | setDisplayed id isDisplayed => exact h.setDisplayed hclosed hcall
  | setAnswer id answer =>
    obtain ⟨spec, -, haccepts, rfl⟩ := setAnswer_eq_ok.mp hcall
    have hanswered : Upholds standard tree bound
        { layout with answers := layout.answers.set id answer } :=
      h.congr rfl rfl rfl rfl fun _ => .inl
    refine (bubbleTo hclosed id _ hanswered ?_).settle hclosed
    rintro _ ⟨⟩
    exact hclosed.entry_input spec answer haccepts
  | withdraw id =>
    obtain ⟨spec, -, rfl⟩ := withdraw_eq_ok.mp hcall
    exact (bubbleTo hclosed id _ (h.modifyState id _) (Standard.admits_of_none rfl)).settle hclosed
  | click id =>
    obtain ⟨spec, -, rfl⟩ := click_eq_ok.mp hcall
    split
    · exact h
    · split
      · exact (bubbleTo hclosed id _ h (Standard.admits_of_none rfl)).settle hclosed
      · exact (h.pushAll fun _ hmem => admits_followUps hmem).settle hclosed
  | scrollTo id position =>
    obtain ⟨spec, -, rfl⟩ := scrollTo_eq_ok.mp hcall
    exact (h.changePager hclosed id (by nofun)).settle hclosed
  | dispatch origin event direction =>
    obtain ⟨node, -, rfl⟩ := dispatch_eq_ok.mp hcall
    cases direction with
    | bubble =>
      exact (bubbleTo hclosed origin _ h (hevent origin event .bubble rfl)).settle hclosed
    | trickle => exact (trickle hclosed event h origin).settle hclosed

/-- **Several calls uphold the standard.** -/
theorem run {calls : List Call} (hcalls : ∀ origin event direction,
      Call.dispatch origin event direction ∈ calls → standard.Admits event)
    (h : layout.Upholds standard tree bound) :
    (layout.run calls).Upholds standard tree bound := by
  induction calls generalizing layout with
  | nil => exact h
  | cons call calls ih =>
    rw [Layout.run, List.foldl_cons]
    refine ih (fun origin event direction hmem =>
      hcalls origin event direction (List.mem_cons_of_mem _ hmem)) ?_
    unfold after
    cases hcall : layout.perform call with
    | error error => exact h
    | ok layout' =>
      refine h.perform hclosed ?_ hcall
      rintro origin event direction rfl
      exact hcalls origin event direction List.mem_cons_self

/-! ## Setting up -/

omit hclosed in
lemma watchForm (h : layout.Upholds standard tree bound) (id : NodeId) (reaction : FormReaction) :
    (layout.watchForm id reaction).Upholds standard tree bound := by
  have hwatched : ((formPlace id).modify layout (·.watch reaction)).Upholds standard tree bound :=
    h.modifyForm id ((h.forms id).of_same rfl rfl)
  exact hwatched.congr rfl rfl rfl rfl fun _ => .inl

omit hclosed in
lemma watchPager (h : layout.Upholds standard tree bound) (id : NodeId)
    (reaction : PagerReaction) : (layout.watchPager id reaction).Upholds standard tree bound := by
  have hwatched : ((pagerPlace id).modify layout (·.watch reaction)).Upholds standard tree bound :=
    h.modifyPager id fun hpager => hpager.of_same rfl rfl
  exact hwatched.congr rfl rfl rfl rfl fun _ => .inl

lemma setUpInheritance (h : layout.Upholds standard tree bound) (id : NodeId) (spec : FormSpec)
    (scope : Scope) : (layout.setUpInheritance id spec scope).Upholds standard tree bound := by
  unfold Layout.setUpInheritance
  split
  · exact (h.changeForm hclosed id (by nofun)).watchForm _ _
  · exact h.watchForm _ _

lemma setUpRules (h : layout.Upholds standard tree bound) (id : NodeId) (rules : EnableRules)
    (scope : Scope) : (layout.setUpRules id rules scope).Upholds standard tree bound := by
  unfold Layout.setUpRules
  split
  · exact h
  · have hown : (if rules.hasForm then layout.watchForm id (.refresh id)
        else layout).Upholds standard tree bound := by
      split
      · exact h.watchForm _ _
      · exact h
    dsimp only
    generalize (if rules.hasForm then layout.watchForm id (.refresh id) else layout) = world
      at hown
    have hturned : ∀ pager, (if rules.hasPager then world.watchPager pager (.refresh id)
        else world).Upholds standard tree bound := by
      intro pager
      split
      · exact hown.watchPager _ _
      · exact hown
    refine updateForm hclosed _ id ?_ (by nofun)
    cases scope.pager with
    | none =>
      cases scope.form with
      | none => exact hown
      | some parent => exact hown.watchForm _ _
    | some pager =>
      cases scope.form with
      | none => exact hturned pager
      | some parent => exact (hturned pager).watchForm _ _

lemma setUpForm (h : layout.Upholds standard tree bound) (id : NodeId) (node : Node)
    (spec : FormSpec) : (layout.setUpForm id node spec).Upholds standard tree bound := by
  have hempty : ({ value := FormState.start spec.id spec.formType spec.responseType } :
      Observable FormState FormReaction).Always standard.form :=
    ⟨hclosed.form_empty _ rfl, fun _ hmem => absurd hmem List.not_mem_nil⟩
  have hplaced : ((formPlace id).modify layout fun _ => _).Upholds standard tree bound :=
    h.modifyForm id hempty
  have hruled := (setUpInheritance hclosed hplaced id spec node.scope).setUpRules hclosed id
    (node.formRules spec) node.scope
  unfold Layout.setUpForm
  dsimp only
  split
  · exact ((hruled.announce id _).watchForm id _).push (Standard.admits_of_none rfl)
  · exact (hruled.announce id _).watchForm id _

/-- **Setting up the next node upholds the standard.** -/
theorem setUp (hstarts : standard.Starts tree) (h : layout.Upholds standard tree id) :
    (layout.setUp id).Upholds standard tree (id + 1) := by
  -- a node that is no pager leaves the pagers as they are
  have hnext : ∀ {world : Layout}, tree.isPager id = false → world.Upholds standard tree id →
      world.Upholds standard tree (id + 1) := fun hother hworld =>
    ⟨hworld.tree_eq, hworld.forms, fun pager hlt hpager => hworld.pagers pager
      (lt_of_lt_succ hlt (by rintro rfl; rw [hother] at hpager; cases hpager)) hpager,
      hworld.queue, hworld.reports⟩
  unfold Layout.setUp
  rw [h.tree_eq]
  cases hnode : tree.node? id with
  | none => exact hnext (by simp [Tree.isPager, Tree.view?, hnode]) h
  | some node =>
    have hkind : node.view.kind ≠ .pager → tree.isPager id = false := fun hne => by
      simp [Tree.isPager, Tree.view?, hnode, hne]
    dsimp only
    cases hview : node.view with
    | input spec =>
      refine hnext (hkind (by simp [hview, View.kind])) ?_
      have hanswered : Upholds standard tree id
          { layout with answers := layout.answers.set id spec.kind.emptyAnswer } :=
        h.congr rfl rfl rfl rfl fun _ => .inl
      refine hanswered.pushAll fun dispatch hmem => ?_
      obtain rfl | hmem := List.mem_cons.mp hmem
      · exact Standard.admits_of_none rfl
      · obtain rfl := List.mem_singleton.mp hmem
        rintro _ ⟨⟩
        exact hclosed.entry_input spec _ (by simp [InputSpec.accepts])
    | form spec =>
      exact hnext (hkind (by simp [hview, View.kind])) (h.setUpForm hclosed id node spec)
    | pager spec =>
      have hplaced : Upholds standard tree (id + 1) { layout with
          pagers := layout.pagers.set id
            { value := .start spec.id (UInt64.ofNat node.children.length) } } := by
        refine ⟨h.tree_eq, h.forms, fun pager hlt hpager => ?_, h.queue, h.reports⟩
        rw [Layout.pager, Table.get_set]
        split
        · next heq =>
          subst heq
          exact ⟨hstarts id node spec hnode hview, fun _ hmem => absurd hmem List.not_mem_nil⟩
        · next hne => exact h.pagers pager (lt_of_lt_succ hlt (Ne.symm hne)) hpager
      exact (hplaced.push (Standard.admits_of_none rfl)).watchPager id (.announce id)
    | _ => exact hnext (hkind (by simp [hview, View.kind])) h

end Closed

end Upholds

/-- **A layout that has just been set up upholds the standard.** -/
theorem upholds_build (hclosed : standard.IsClosed) (hstarts : standard.Starts tree)
    (environment : Environment) :
    (build environment tree).Upholds standard tree tree.size := by
  unfold build Tree.ids
  induction tree.size with
  | zero =>
    exact ⟨rfl, fun id => ⟨hclosed.form_empty _ rfl, fun _ hmem => absurd hmem List.not_mem_nil⟩,
      fun _ hlt => absurd hlt (Nat.not_lt_zero _), fun _ hmem => absurd hmem List.not_mem_nil,
      fun _ hmem => absurd hmem List.not_mem_nil⟩
  | succ bound ih =>
    rw [List.range_succ, List.foldl_append]
    exact ih.setUp hclosed hstarts

/-- **An active layout upholds the standard, whatever the renderer does.** Events that are raised
from outside have to meet it. -/
theorem upholds_run {environment : Environment} {spec : Spec}
    (h : activate environment spec = .ok layout) (hclosed : standard.IsClosed)
    (hstarts : standard.Starts (Tree.ofSpec spec)) (calls : List Call)
    (hcalls : ∀ origin event direction,
      Call.dispatch origin event direction ∈ calls → standard.Admits event) :
    (layout.run calls).Upholds standard (Tree.ofSpec spec) (Tree.ofSpec spec).size := by
  obtain ⟨-, rfl⟩ := activate_eq_ok.mp h
  exact ((upholds_build hclosed hstarts environment).settle hclosed).run hclosed hcalls

end Layout

end FormTree

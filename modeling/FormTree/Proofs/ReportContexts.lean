import FormTree.Proofs.Layout.Steady
import FormTree.Proofs.Layout.Naming
import FormTree.Proofs.Layout.Occasions

set_option autoImplicit false

/-!
# The contexts of reports

Every report says where in the tree it comes from: the form that tells something, or the button that
dismisses the layout with the form around it, and the pager around them, as these are at the moment
at which the report is made.

## Main definitions

* `FormTree.Tree.nearestForm`, `FormTree.Tree.nearestPager` — the first form and the first pager on
  the way from a node to the root.
* `FormTree.Layout.IsPlaced` — a report carries the context of its place.
* `FormTree.Dispatch.IsTruthful`, `FormTree.Layout.Truthful` — what waits is true of the node that
  it comes from.
* `FormTree.Layout.Accounts` — all that is reported meanwhile is reported on the given occasions,
  with its place.

## Main results

* `FormTree.Layout.Truthful.route`, `FormTree.Layout.Truthful.exists_reports` — a truthful layout
  stays so when something is routed, and what is reported is placed.
* `FormTree.Layout.Accounts.settle`, `FormTree.Layout.Accounts.run` — all that is reported in the
  course of a call, and of several calls, is placed.
* `FormTree.Layout.reports_are_placed` — reports carry the context of their place in the tree.
-/

namespace FormTree

namespace Tree

/-- The first form on the way from a node to the root. -/
def nearestForm (tree : Tree) (id : NodeId) : Option NodeId :=
  (tree.ancestors id).find? fun up => (tree.form? up).isSome

/-- The first pager on the way from a node to the root. -/
def nearestPager (tree : Tree) (id : NodeId) : Option NodeId :=
  (tree.ancestors id).find? tree.isPager

/-- The node is a form, and the context names it as it is declared. -/
def IsNamedBy (tree : Tree) (id : NodeId) (context : LayoutContext) : Prop :=
  ∃ node spec form, tree.form? id = some (node, spec) ∧ context.form = some form ∧ spec.Names form

end Tree

/-- What a dispatch says about the node that it comes from is true: a report of a form names it, and
a dismissal, like a submission, names the button. Other parts of a context are still missing. -/
def Dispatch.IsTruthful (tree : Tree) : Dispatch → Prop
  | .bubble origin (.formDisplay context) | .bubble origin (.formResult _ _ context) =>
    tree.IsNamedBy origin context ∧ context.pager = none
  | .bubble origin (.dismiss button _ context) => ∃ spec, tree.view? origin = some (.button spec) ∧
    button = some spec.id ∧ context = ({} : LayoutContext).withButton (some spec.id)
  | .bubble _ (.buttonSubmit button identifier _) =>
    ∃ spec, tree.view? button = some (.button spec) ∧ identifier = spec.id
  | _ => True

/-- Announcements say nothing about where they come from. -/
lemma Dispatch.IsAnnouncement.isTruthful {tree : Tree} {dispatch : Dispatch}
    (h : dispatch.IsAnnouncement tree) : dispatch.IsTruthful tree := by
  cases dispatch with
  | trickle _ _ => trivial
  | bubble _ _ => cases h
  | broadcast _ => cases h

/-- Neither do inputs and nested forms that announce themselves. -/
lemma Dispatch.isTruthful_of_isEntrance {tree : Tree} {dispatch : Dispatch}
    (h : dispatch.isEntrance = true) : dispatch.IsTruthful tree := by
  cases dispatch with
  | bubble _ event => cases event <;> trivial
  | trickle _ _ => trivial
  | broadcast _ => trivial

/-- What a button asks for names the button. -/
lemma isTruthful_of_mem_followUps {tree : Tree} {button : NodeId} {spec : ButtonSpec}
    (hview : tree.view? button = some (.button spec)) {effects : List ClickBehavior}
    {dispatch : Dispatch} (h : dispatch ∈ Layout.followUps button spec.id effects) :
    dispatch.IsTruthful tree := by
  obtain ⟨effect, -, heffect⟩ := List.mem_filterMap.mp h
  obtain ⟨event, hevent, rfl⟩ := Option.map_eq_some_iff.mp heffect
  cases effect <;> cases hevent <;> first | trivial | exact ⟨spec, hview, rfl, rfl⟩

/-- The call is one of the renderer, not an event raised from outside. -/
def Call.isRendererCall : Call → Bool
  | .dispatch _ _ _ => false
  | _ => true

namespace Layout

variable {layout layout' : Layout} {id : NodeId} {allow : Allowance} {dispatch : Dispatch}

/-- **The report carries the context of its place**, as it is in the given layout: the state of the
nearest pager; and for what a form tells the names of the form, for a dismissal the state of the
nearest form and the button. -/
def IsPlaced (layout : Layout) (report : Report) : Prop :=
  report.context.pager = (layout.tree.nearestPager report.origin).map
      (fun pager => (layout.pager pager).value.context) ∧
    match report.event with
    | .formDisplay | .formResult _ _ => layout.tree.IsNamedBy report.origin report.context
    | .dismiss button _ => ∃ spec, layout.tree.view? report.origin = some (.button spec) ∧
      button = some spec.id ∧ report.context.button = some ⟨spec.id⟩ ∧
      report.context.form = (layout.tree.nearestForm report.origin).map
        (fun form => (layout.form form).value.context)

/-! ## Truthful layouts -/

/-- No change is under way, forms and pagers are named as they are declared, and what waits is
truthful. -/
structure Truthful (layout : Layout) : Prop where
  sound : layout.Sound
  names : layout.NamesAll
  queue : ∀ dispatch ∈ layout.outbox.queue, dispatch.IsTruthful layout.tree

namespace Truthful

/-- What leaves the tree and the containers alone, and puts nothing untrue into the outbox. -/
lemma congr (h : layout.Truthful) (htree : layout'.tree = layout.tree)
    (hforms : layout'.forms = layout.forms) (hpagers : layout'.pagers = layout.pagers)
    (hqueue : ∀ dispatch ∈ layout'.outbox.queue, dispatch ∈ layout.outbox.queue ∨
      dispatch.IsTruthful layout.tree) : layout'.Truthful where
  sound := h.sound.congr htree (fun id => congrArg (·.get id) hforms)
    fun id => congrArg (·.get id) hpagers
  names := h.names.congr htree hforms hpagers
  queue dispatch hmem := by
    rw [htree]
    exact (hqueue dispatch hmem).elim (h.queue dispatch) fun htruthful => htruthful

lemma modifyState (h : layout.Truthful) (id : NodeId) (change : NodeState → NodeState) :
    (layout.modifyState id change).Truthful :=
  h.congr rfl rfl rfl fun _ => .inl

lemma pushAll (h : layout.Truthful) {dispatches : List Dispatch}
    (hdispatches : ∀ dispatch ∈ dispatches, dispatch.IsTruthful layout.tree) :
    (layout.pushAll dispatches).Truthful := by
  rw [pushAll_eq]
  exact h.congr rfl rfl rfl fun dispatch hmem =>
    (List.mem_append.mp hmem).imp_right (hdispatches dispatch)

/-- A form that is displayed for the first time says who it is. -/
lemma changeForm (h : layout.Truthful) (hsome : (layout.tree.form? id).isSome)
    (intent : FormIntent) : (layout.changeForm id intent).Truthful where
  sound := h.sound.changeForm hsome intent
  names := h.names.changeForm h.sound hsome intent
  queue dispatch hmem := by
    obtain ⟨⟨node, spec⟩, hform⟩ := Option.isSome_iff_exists.mp hsome
    obtain ⟨announcements, hannouncements, hqueue⟩ := h.sound.queue_changeForm hsome intent
    rw [(h.sound.change hsome intent).tree_eq]
    rw [hqueue] at hmem
    rcases List.mem_append.mp hmem with hmem | hmem
    · exact h.queue dispatch hmem
    rcases List.mem_append.mp hmem with hmem | hmem
    · unfold displayNotice at hmem
      split at hmem
      · obtain rfl := List.mem_singleton.mp hmem
        refine ⟨⟨node, spec, _, hform, rfl, ?_⟩, rfl⟩
        rw [form_commitForm, if_pos rfl, Observable.value_commit]
        exact (h.names.forms id node spec hform).reduce intent
      · cases hmem
    · exact (hannouncements dispatch hmem).isTruthful

lemma changePager (h : layout.Truthful) (hpager : layout.tree.isPager id = true)
    (intent : PagerIntent) : (layout.changePager id intent).Truthful where
  sound := h.sound.updatePager hpager (·.reduce intent)
  names := h.names.changePager h.sound hpager intent
  queue dispatch hmem := by
    have hafter := h.sound.aftermath_changePager hpager intent
    obtain ⟨announcements, hannouncements, hqueue⟩ := hafter.outbox
    rw [hafter.tree_eq]
    rw [hqueue] at hmem
    rcases List.mem_append.mp hmem with hmem | hmem
    · exact h.queue dispatch hmem
    · exact (hannouncements dispatch hmem).isTruthful

/-- A form that is submitted says who it is. -/
lemma submitForm (h : layout.Truthful) {node : Node} {spec : FormSpec}
    (hform : layout.tree.form? id = some (node, spec)) (button : Option String) :
    (layout.submitForm id spec button).Truthful := by
  have hsome : (layout.tree.form? id).isSome := by rw [hform]; rfl
  have hchange := h.changeForm hsome .submit
  have htree := (h.sound.change hsome .submit).tree_eq
  have hpushed : ∀ (entry : Entry) (attributes : Attributes),
      ((layout.changeForm id .submit).push (.bubble id (.formResult entry attributes
        ((LayoutContext.ofForm (layout.form id).value.context).withButton button)))).Truthful :=
    fun entry attributes => hchange.congr rfl rfl rfl fun dispatch hmem =>
      (List.mem_append.mp hmem).imp_right fun hlast => by
        obtain rfl := List.mem_singleton.mp hlast
        exact ⟨⟨node, spec, _, htree ▸ hform, rfl, h.names.forms id node spec hform⟩, rfl⟩
  unfold Layout.submitForm
  dsimp only
  split
  · exact h
  · split
    · exact hpushed _ _
    · unfold applyUpdate
      split
      · exact (hpushed _ _).congr rfl rfl rfl fun _ => .inl
      · exact hpushed _ _

/-- What nodes do keeps a layout truthful, as long as no button asks for anything. -/
lemma step (h : layout.Truthful) (hbuttons : ∀ button, ¬ allow.buttons button)
    (step : Step allow layout layout') : layout'.Truthful := by
  cases step with
  | change _ hsome => exact h.changeForm hsome _
  | page hpager => exact h.changePager hpager _
  | note _ _ => exact h.modifyState _ _
  | submit button _ hform => exact h.submitForm hform button
  | follow hbutton _ => exact (hbuttons _ hbutton).elim
  | dismiss _ => exact h.congr rfl rfl rfl fun _ => .inl
  | reportDismissal _ _ _ _ =>
    unfold Layout.report
    split
    · exact h.congr rfl rfl rfl fun _ => .inl
    · exact h

lemma steps (h : layout.Truthful) (hbuttons : ∀ button, ¬ allow.buttons button)
    (steps : Steps allow layout layout') : layout'.Truthful := by
  induction steps with
  | refl => exact h
  | tail _ step ih => exact ih.step hbuttons step

end Truthful

/-! ## Routing -/

/-- What `IsPlaced` asks for is what is picked up on the way to the root. -/
lemma map_nearestPager (linked : layout.tree.Linked) (id : NodeId) :
    (layout.tree.nearestPager id).map (fun pager => (layout.pager pager).value.context) =
      layout.pagerContext id := by
  rw [pagerContext, linked.pagerAround_eq_find?]
  rfl

lemma map_nearestForm (linked : layout.tree.Linked) (id : NodeId) :
    (layout.tree.nearestForm id).map (fun form => (layout.form form).value.context) =
      layout.formContext id := by
  rw [formContext, linked.formAround_eq_find?]
  rfl

/-- What is reported is placed, if reports are kept. -/
lemma exists_reports_report {report : Report} (h : layout.IsPlaced report)
    (hsame : layout'.reports = layout.reports) :
    ∃ reports, (layout'.report report).reports = layout.reports ++ reports ∧
      ∀ other ∈ reports, layout.IsPlaced other := by
  unfold Layout.report
  split
  · refine ⟨[report], congrArg (· ++ [report]) hsame, fun other hmem => ?_⟩
    obtain rfl := List.mem_singleton.mp hmem
    exact h
  · exact ⟨[], by rw [hsame, List.append_nil], by simp⟩

/-- **What is routed in a truthful layout is reported with its place.** -/
theorem Truthful.exists_reports (h : layout.Truthful)
    (htruthful : dispatch.IsTruthful layout.tree) :
    ∃ reports, (layout.route dispatch).reports = layout.reports ++ reports ∧
      ∀ report ∈ reports, layout.IsPlaced report := by
  have linked := h.sound.wf.linked
  have hnone : (layout.route dispatch).reports = layout.reports →
      ∃ reports, (layout.route dispatch).reports = layout.reports ++ reports ∧
        ∀ report ∈ reports, layout.IsPlaced report :=
    fun hsame => ⟨[], by rw [hsame, List.append_nil], by simp⟩
  cases dispatch with
  | trickle origin event => exact hnone (reports_trickle layout origin event)
  | broadcast event => exact hnone (reports_broadcast layout event)
  | bubble origin event =>
    cases event with
    | formDisplay context =>
      obtain ⟨hnamed, hpager⟩ := htruthful
      rw [Layout.route, bubble_formDisplay linked origin hpager]
      refine exists_reports_report ?_ rfl
      exact ⟨(map_nearestPager linked origin).symm, hnamed⟩
    | formResult entry attributes context =>
      obtain ⟨hnamed, hpager⟩ := htruthful
      rw [Layout.route, bubble_formResult linked origin entry attributes hpager]
      refine exists_reports_report ?_ rfl
      exact ⟨(map_nearestPager linked origin).symm, hnamed⟩
    | dismiss button isCancel context =>
      obtain ⟨spec, hview, hbutton, rfl⟩ := htruthful
      rw [Layout.route, bubble_dismiss linked origin button isCancel rfl rfl, atRoot]
      split
      · exact ⟨[], by simp, by simp⟩
      · refine exists_reports_report ?_ rfl
        exact ⟨(map_nearestPager linked origin).symm, spec, hview, hbutton, rfl,
          (map_nearestForm linked origin).symm⟩
    | _ => exact hnone (reports_bubble layout origin rfl)

/-- **Routing what is true keeps a layout truthful.** -/
theorem Truthful.route (h : layout.Truthful) (htruthful : dispatch.IsTruthful layout.tree) :
    (layout.route dispatch).Truthful := by
  have hsteps : Steps .unprompted layout (layout.route dispatch) →
      (layout.route dispatch).Truthful := h.steps fun _ hb => hb
  cases dispatch with
  | trickle origin event => exact hsteps (steps_trickle layout origin fun _ => trivial)
  | broadcast event => exact hsteps (steps_broadcast layout fun _ => trivial)
  | bubble origin event =>
    cases hbutton : event.button? with
    | none =>
      cases hreport : event.isReport with
      | true =>
        have hdispatch : (Dispatch.bubble origin event).isReport = true := hreport
        obtain ⟨reports, hroute⟩ := route_report layout hdispatch
        rw [hroute]
        exact h.congr rfl rfl rfl fun _ => .inl
      | false =>
        exact hsteps (steps_bubble layout origin hreport (Event.isWithin_unprompted hbutton))
    | some button =>
      cases event with
      | buttonSubmit button identifier effects =>
        obtain ⟨spec, hview, rfl⟩ := htruthful
        have hbroadcast : Steps .unprompted layout
            (layout.broadcast (.layoutSubmit (some spec.id))) :=
          steps_broadcast layout fun _ => trivial
        have htree := (keeps_steps hbroadcast h.sound).2.1
        rw [Layout.route, bubble_buttonSubmit]
        exact (h.steps (fun _ hb => hb) hbroadcast).pushAll fun dispatch hmem =>
          isTruthful_of_mem_followUps (htree ▸ hview) hmem
      | _ => cases hbutton

/-! ## Accounts -/

/-- The layout has become another one, and all that was reported meanwhile was reported on the given
occasions, with its place on each of them. -/
structure Accounts (occasions : List (Layout × Dispatch)) (layout layout' : Layout) : Prop where
  truthful : layout'.Truthful
  tree : layout'.tree = layout.tree
  reports : layout'.reports =
    layout.reports ++ occasions.flatMap fun occasion => occasion.1.made occasion.2
  placed : ∀ occasion ∈ occasions, occasion.1.tree = layout.tree ∧ occasion.1.NamesAll ∧
    ∀ report ∈ occasion.1.made occasion.2, occasion.1.IsPlaced report

namespace Accounts

variable {layout'' : Layout} {occasions occasions' : List (Layout × Dispatch)}

/-- Nothing is routed, and nothing is reported. -/
lemma of_same (h : layout'.Truthful) (htree : layout'.tree = layout.tree)
    (hreports : layout'.reports = layout.reports) : Accounts [] layout layout' where
  truthful := h
  tree := htree
  reports := by rw [hreports, List.flatMap_nil, List.append_nil]
  placed := by simp

/-- What was reported before, and on what tree, is all that matters of the layout at the start. -/
lemma of_start (h : Accounts occasions layout' layout'') (htree : layout'.tree = layout.tree)
    (hreports : layout'.reports = layout.reports) : Accounts occasions layout layout'' where
  truthful := h.truthful
  tree := h.tree.trans htree
  reports := hreports ▸ h.reports
  placed := htree ▸ h.placed

lemma trans (h : Accounts occasions layout layout') (h' : Accounts occasions' layout' layout'') :
    Accounts (occasions ++ occasions') layout layout'' where
  truthful := h'.truthful
  tree := h'.tree.trans h.tree
  reports := by rw [h'.reports, h.reports, List.flatMap_append, List.append_assoc]
  placed occasion hmem := (List.mem_append.mp hmem).elim (h.placed occasion)
    (h.tree ▸ h'.placed occasion)

/-- **One occasion.** -/
lemma route (h : layout.Truthful) (htruthful : dispatch.IsTruthful layout.tree) :
    Accounts [(layout, dispatch)] layout (layout.route dispatch) := by
  obtain ⟨reports, hreports, hplaced⟩ := h.exists_reports htruthful
  have hmade : layout.made dispatch = reports := by
    rw [made, hreports, List.drop_left]
  have htree := congrArg Layout.tree (fixtures_route layout dispatch)
  refine ⟨h.route htruthful, htree, ?_, fun occasion hmem => ?_⟩
  · rw [List.flatMap_singleton, hmade, hreports]
  · obtain rfl := List.mem_singleton.mp hmem
    rw [hmade]
    exact ⟨rfl, h.names, hplaced⟩

/-- Routing what waits, one dispatch after the other. -/
lemma drain (limit : Nat) : ∀ layout : Layout, layout.Truthful →
    Accounts (layout.occasionsDrain limit) layout (layout.drain limit) := by
  induction limit with
  | zero =>
    intro layout h
    have hnone : ∀ dispatch, dispatch ∉ ([] : List Dispatch) := fun _ => List.not_mem_nil
    exact of_same (h.congr rfl rfl rfl fun dispatch hmem => absurd hmem (hnone dispatch)) rfl rfl
  | succ limit ih =>
    intro layout h
    cases hqueue : layout.outbox.queue with
    | nil =>
      have hpop : layout.outbox.pop? = none := by rw [Outbox.pop?, hqueue]
      rw [Layout.drain, occasionsDrain, hpop]
      exact of_same h rfl rfl
    | cons dispatch rest =>
      have hpop : layout.outbox.pop? = some (dispatch, ⟨rest⟩) := by rw [Outbox.pop?, hqueue]
      have htruthful : dispatch.IsTruthful layout.tree :=
        h.queue dispatch (by rw [hqueue]; exact List.mem_cons_self)
      have hrest : ∀ other ∈ rest, other ∈ layout.outbox.queue := fun other hmem => by
        rw [hqueue]
        exact List.mem_cons_of_mem _ hmem
      have hpopped : Truthful { layout with outbox := ⟨rest⟩ } :=
        h.congr rfl rfl rfl fun other hmem => .inl (hrest other hmem)
      rw [Layout.drain, occasionsDrain, hpop]
      dsimp only
      split
      · exact of_same (h.congr rfl rfl rfl fun other hmem => .inl (hrest other hmem)) rfl rfl
      · have hfirst := route hpopped htruthful
        have hall := hfirst.trans (ih _ hfirst.truthful)
        exact hall.of_start rfl rfl

lemma settle (h : layout.Truthful) : Accounts layout.occasionsSettle layout layout.settle :=
  drain _ layout h

end Accounts

/-! ## Calls -/

/-- What a call does at first leaves the tree alone, and reports nothing. -/
lemma Begins.reports (h : Begins layout layout') :
    layout'.tree = layout.tree ∧ layout'.reports = layout.reports := by
  cases h with
  | follow dispatches => exact ⟨by rw [pushAll_eq], reports_pushAll layout dispatches⟩
  | page id intent =>
    have hframe := frame_changePager layout id intent
    exact ⟨(congrArg Layout.tree hframe :), reports_of_frame hframe⟩
  | _ => exact ⟨rfl, rfl⟩

/-- What a call does at first keeps a layout truthful, and what it routes at once is truthful. -/
structure Opens (opening : Opening) : Prop where
  start : opening.start.Truthful
  routed : ∀ world dispatch, opening = .route world dispatch → dispatch.IsTruthful world.tree

namespace Opens

variable {opening : Opening}

lemma rest (h : layout.Truthful) : Opens (.rest layout) where
  start := h
  routed _ _ heq := Opening.noConfusion heq

lemma settle (h : layout.Truthful) : Opens (.settle layout) where
  start := h
  routed _ _ heq := Opening.noConfusion heq

lemma route (h : layout.Truthful) (htruthful : dispatch.IsTruthful layout.tree) :
    Opens (.route layout dispatch) where
  start := h
  routed := by
    rintro _ _ ⟨⟩
    exact htruthful

lemma display {isDisplayed : Bool} (h : layout.Truthful)
    (hopening : layout.openingDisplay id isDisplayed = .ok opening) : Opens opening := by
  obtain ⟨node, -, hopening⟩ := bind_eq_ok.mp hopening
  split at hopening <;> cases hopening
  · exact .route h trivial
  · exact .rest h

/-- **A call of the renderer tells nothing untrue.** -/
theorem of_call (h : layout.Truthful) {call : Call} (hcall : call.isRendererCall = true)
    (hopening : layout.opening call = .ok opening) : Opens opening := by
  cases call with
  | attach id =>
    obtain ⟨_, -, hopening⟩ := bind_eq_ok.mp hopening
    exact display (h.modifyState id _) hopening
  | detach id =>
    obtain ⟨_, -, hopening⟩ := bind_eq_ok.mp hopening
    exact display (h.modifyState id _) hopening
  | setDisplayed id isDisplayed => exact display h hopening
  | setAnswer id answer =>
    obtain ⟨spec, -, hopening⟩ := bind_eq_ok.mp hopening
    obtain ⟨input, -, hopening⟩ := bind_eq_ok.mp hopening
    cases hopening
    exact .route (h.congr rfl rfl rfl fun _ => .inl) trivial
  | withdraw id =>
    obtain ⟨spec, -, hopening⟩ := bind_eq_ok.mp hopening
    cases hopening
    exact .route (h.modifyState id _) trivial
  | click id =>
    obtain ⟨spec, hspec, hopening⟩ := bind_eq_ok.mp hopening
    have hview := buttonSpec_eq_ok.mp hspec
    split at hopening
    · cases hopening
      exact .rest h
    · split at hopening <;> cases hopening
      · exact .route h ⟨spec, hview, rfl⟩
      · exact .settle (h.pushAll fun dispatch hmem => isTruthful_of_mem_followUps hview hmem)
  | scrollTo id position =>
    obtain ⟨spec, hspec, hopening⟩ := bind_eq_ok.mp hopening
    cases hopening
    exact .settle (h.changePager (isPager_of_pagerSpec hspec) _)
  | dispatch origin event direction => cases hcall

/-- All that is reported in the course of a call is placed. -/
lemma accounts (h : Opens opening) :
    Accounts opening.occasions opening.start opening.close := by
  cases opening with
  | rest world => exact .of_same h.start rfl rfl
  | settle world => exact .settle h.start
  | route world dispatch =>
    have hrouted := Accounts.route h.start (h.routed world dispatch rfl)
    exact hrouted.trans (.settle hrouted.truthful)

end Opens

/-- **All that is reported in the course of several calls is placed.** -/
theorem Accounts.run {calls : List Call} (hcalls : ∀ call ∈ calls, call.isRendererCall = true)
    (h : layout.Truthful) : Accounts (layout.occasionsRun calls) layout (layout.run calls) := by
  induction calls generalizing layout with
  | nil => exact .of_same h rfl rfl
  | cons call rest ih =>
    obtain ⟨hcall, hrest⟩ := List.forall_mem_cons.mp hcalls
    rw [Layout.run, List.foldl_cons, occasionsRun, after, perform_eq_opening]
    cases hopening : layout.opening call with
    | error error => exact ih hrest h
    | ok opening =>
      obtain ⟨htree, hreports⟩ := (begins_opening hopening).reports
      have hfirst := (Opens.of_call h hcall hopening).accounts.of_start htree hreports
      exact hfirst.trans (ih hrest hfirst.truthful)

/-! ## Activation -/

/-- **A layout that has just been set up is truthful.** -/
theorem truthful_build (environment : Environment) {tree : Tree} (wf : tree.WellFormed) :
    (build environment tree).Truthful where
  sound := (assembled_build environment wf).sound wf
  names := namesAll_build environment wf
  queue dispatch hmem := by
    have hbuild := assembled_build environment wf
    rw [hbuild.tree_eq]
    cases hentrance : dispatch.isEntrance with
    | true => exact Dispatch.isTruthful_of_isEntrance hentrance
    | false => exact (hbuild.announcements dispatch hmem hentrance).isTruthful

/-- **Reports carry the context of their place in the tree.** Let a layout be activated, and let any
calls of the renderer follow. Then the reports are those that are made on the occasions of this run,
which are the dispatches that are routed in its course, in that order. Whenever one is made, the
layout of that moment has the declared tree, with forms and pagers named as they are declared. A
report of what a form tells names that form with its type and its response type; a report of a
dismissal names the button, and has the state of the nearest form around it at that moment, if there
is one; and each report has the state of the nearest pager around the form or the button at that
moment, if there is one. On the way no form and no pager ever replaces a part that is filled in.

**Proof sketch.** What waits is true of the node that it comes from: a form puts its own names into
what it tells, a button its identifier, and forms and pagers keep their names. On its way to the
root a report comes by all nodes around the one that it comes from, and the first one that has
something to say about a part fills it in. Since no node stops it, and none changes anything, this
is how the layout is at that moment. All else that is routed carries no context and reports
nothing. -/
theorem reports_are_placed {environment : Environment} {spec : Spec}
    (h : activate environment spec = .ok layout) {calls : List Call}
    (hcalls : ∀ call ∈ calls, call.isRendererCall = true) :
    (layout.run calls).reports =
        (occasions environment spec calls).flatMap (fun occasion => occasion.1.made occasion.2) ∧
      (∀ occasion ∈ occasions environment spec calls,
        occasion.1.tree = Tree.ofSpec spec ∧ occasion.1.NamesAll ∧
        ∀ report ∈ occasion.1.made occasion.2, occasion.1.IsPlaced report) ∧
      ∀ (world : Layout) (id : NodeId) (event : Event) (context : LayoutContext),
        event.context? = some context → ∃ event' context',
          world.offer id event = (world, .next event') ∧ event'.kind = event.kind ∧
          event'.context? = some context' ∧ context.Keeps context' := by
  obtain ⟨hviolation, rfl⟩ := activate_eq_ok.mp h
  have wf := Tree.wellFormed_of_violation? (Tree.linked_ofSpec spec) hviolation
  have hbuild := assembled_build environment wf
  have hreports : (build environment (Tree.ofSpec spec)).reports = [] :=
    (congrArg Layout.reports hbuild.core :)
  have hsettle := Accounts.settle (truthful_build environment wf)
  have hall := hsettle.trans (.run hcalls hsettle.truthful)
  refine ⟨?_, ?_, fun world id event context hcontext => offer_of_context hcontext world id⟩
  · rw [hall.reports, hreports, List.nil_append]
    rfl
  · have hplaced := hall.placed
    rw [hbuild.tree_eq] at hplaced
    exact hplaced

/-- A form on the page of a pager; within the form there is another pager, and the button that
submits is on a page of that one. -/
def tour : Spec :=
  ⟨.pager ⟨"chapters"⟩, [], [
    ⟨.form { id := "tour", responseType := some "nps" }, [], [
      ⟨.input { id := "rating", kind := .score }, [], []⟩,
      ⟨.pager ⟨"steps"⟩, [], [
        ⟨.container, [], []⟩,
        ⟨.button { id := "finish", behaviors := [.formSubmit, .dismiss] }, [], []⟩]⟩]⟩]⟩

/-- The rating is shown and given, the inner pager turned, and the button tapped. -/
def tourCalls : List Call :=
  [.attach 2, .setAnswer 2 (.score (some 9)), .scrollTo 3 1, .click 5]

/-- What the form tells has the outer pager, and the dismissal has the form and the inner pager. -/
theorem reports_are_placed_tour :
    ∃ layout : Layout, activate {} tour = .ok layout ∧
      (∀ call ∈ tourCalls, call.isRendererCall = true) ∧
      (layout.run tourCalls).reports.map (fun report => (report.event.kind, report.context)) =
        [(.formDisplay, ⟨some ⟨"tour", "form", some "nps", false⟩, some ⟨"chapters", 0, 1⟩, none⟩),
          (.formResult, ⟨some ⟨"tour", "form", some "nps", false⟩, some ⟨"chapters", 0, 1⟩,
            some ⟨"finish"⟩⟩),
          (.dismiss, ⟨some ⟨"tour", "form", some "nps", true⟩, some ⟨"steps", 1, 2⟩,
            some ⟨"finish"⟩⟩)] ∧
      (layout.run tourCalls).reports =
        (occasions {} tour tourCalls).flatMap (fun occasion => occasion.1.made occasion.2) ∧
      ∀ occasion ∈ occasions {} tour tourCalls,
        ∀ report ∈ occasion.1.made occasion.2, occasion.1.IsPlaced report := by
  have hactive : activate {} tour = .ok (build {} (Tree.ofSpec tour)).settle :=
    activate_eq_ok.mpr ⟨by decide, rfl⟩
  have hcalls : ∀ call ∈ tourCalls, call.isRendererCall = true := by decide
  obtain ⟨hreports, hplaced, -⟩ := reports_are_placed hactive hcalls
  exact ⟨_, hactive, hcalls, by decide +kernel, hreports,
    fun occasion hmem => (hplaced occasion hmem).2.2⟩

end Layout

end FormTree

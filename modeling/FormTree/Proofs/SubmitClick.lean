import FormTree.Proofs.Display
import FormTree.Proofs.Layout.Settling
import FormTree.Proofs.Submission

set_option autoImplicit false

/-!
# Tapping a button that submits

A button that submits makes every form of the layout submit that submits by itself, wherever it is,
and its other effects follow once all of them have. So the reports of the forms come first, in tree
order, with the pagers where they were; then the button turns its pages, and dismisses the layout.

## Main definitions

* `FormTree.Layout.submissionReport?` — what is reported of a form, if it is to submit.
* `FormTree.Layout.Submitting` — a layout in which some nodes have heard of the submission.
* `FormTree.Layout.dismissalReport` — what is reported of the dismissal, if there is one.

## Main results

* `FormTree.Layout.Submitting.broadcast` — all forms submit, in tree order.
* `FormTree.Layout.Submitting.followUps` — what the effects behind the submissions come to.
* `FormTree.Layout.submission_reported_before_followUps` — what a tap reports.
-/

namespace FormTree

/-! ## Effects -/

namespace ButtonSpec

/-- The effects of the button that turn pages. -/
def turns (spec : ButtonSpec) : List ClickBehavior :=
  [.pagerNext, .pagerPrevious].filter spec.behaviors.contains

/-- The effects of the button that dismiss the layout. -/
def dismissals (spec : ButtonSpec) : List ClickBehavior :=
  [.dismiss, .cancel].filter spec.behaviors.contains

variable {spec : ButtonSpec} {effect : ClickBehavior}

theorem isSome_turn?_of_mem_turns (h : effect ∈ spec.turns) : effect.turn?.isSome = true := by
  have hmem := (List.mem_filter.mp h).1
  simp only [List.mem_cons, List.not_mem_nil, or_false] at hmem
  rcases hmem with rfl | rfl <;> rfl

theorem isDismissal_of_mem_dismissals (h : effect ∈ spec.dismissals) :
    effect.isDismissal = true := by
  have hmem := (List.mem_filter.mp h).1
  simp only [List.mem_cons, List.not_mem_nil, or_false] at hmem
  rcases hmem with rfl | rfl <;> rfl

/-- **What turns pages comes before what dismisses.** -/
theorem effects_eq (spec : ButtonSpec) :
    spec.effects.filter (· ≠ .formSubmit) = spec.turns ++ spec.dismissals := by
  unfold effects turns dismissals ClickBehavior.ordered ClickBehavior.all
  simp only [List.filter_cons, List.filter_nil]
  split <;> split <;> split <;> split <;> split <;> rfl

/-- A button submits if it is declared to. -/
theorem submits_iff : spec.submits = true ↔ .formSubmit ∈ spec.behaviors := by
  unfold submits effects ClickBehavior.ordered ClickBehavior.all
  simp

theorem filterMap_turn?_turns (spec : ButtonSpec) :
    spec.turns.filterMap (·.turn?) = spec.effects.filterMap (·.turn?) := by
  unfold effects turns ClickBehavior.ordered ClickBehavior.all
  simp only [List.filter_cons, List.filter_nil]
  split <;> split <;> split <;> split <;> split <;> rfl

end ButtonSpec

namespace Layout

/-- What is reported of the node `id` when the button with the given identifier makes forms submit:
something if it is a form that submits by itself and is not submitted. -/
def submissionReport? (layout : Layout) (identifier : String) (id : NodeId) : Option Report :=
  let state := (layout.form id).value
  match layout.tree.form? id with
  | some (_, spec) =>
    if spec.isChild ∨ state.isSubmitted then none
    else
      some ⟨id, .formResult (spec.entry state) state.attributes,
        { form := some state.context
          pager := layout.pagerContext id
          button := some ⟨identifier⟩ }⟩
  | none => none

variable {start layout final : Layout} {id : NodeId} {node : Node} {spec : FormSpec}
  {identifier : String} {heard : List NodeId}

/-! ## One form -/

/-- The submission of the form `id`, declared as `spec`, in the given state, on its way up. -/
def submissionOf (id : NodeId) (spec : FormSpec) (state : FormState) (button : Option String) :
    Dispatch :=
  .bubble id (.formResult (spec.entry (state.reduce .submit)) (state.reduce .submit).attributes
    ((LayoutContext.ofForm state.context).withButton button))

/-- A form that submits changes, its submission is put into the outbox, and its attributes are
handed out. -/
theorem submitForm_eq (hchild : spec.isChild = false)
    (hopen : (layout.form id).value.isSubmitted = false) (button : Option String) :
    ∃ updates, layout.submitForm id spec button =
      { (layout.changeForm id .submit).push
          (submissionOf id spec (layout.form id).value button) with updates } := by
  have hnot : ¬(spec.isChild = true ∨ (layout.form id).value.isSubmitted = true) := by
    simp [hchild, hopen]
  unfold Layout.submitForm
  dsimp only
  rw [if_neg hnot, ← submissionOf]
  split
  · exact ⟨_, rfl⟩
  · unfold applyUpdate
    split
    · exact ⟨_, rfl⟩
    · exact ⟨_, rfl⟩

/-- **The submission comes behind all that waits**, with what is announced of it in front. -/
theorem Sound.queue_submitForm (h : layout.Sound) (hsome : (layout.tree.form? id).isSome)
    (hchild : spec.isChild = false) (hopen : (layout.form id).value.isSubmitted = false)
    (button : Option String) : ∃ announcements : List Dispatch,
      (∀ dispatch ∈ announcements, dispatch.IsAnnouncement layout.tree) ∧
        (layout.submitForm id spec button).outbox.queue = layout.outbox.queue ++ announcements ++
          [submissionOf id spec (layout.form id).value button] := by
  obtain ⟨updates, hsubmit⟩ := submitForm_eq hchild hopen button
  have howes : (layout.commitForm id .submit).owesDisplay id = false := by
    rw [owesDisplay_commitForm]
    exact (h.rests id hsome).owesDisplay
  obtain ⟨announcements, hannouncements, hqueue⟩ := h.queue_changeForm hsome .submit
  rw [displayNotice, howes, if_neg Bool.false_ne_true, List.nil_append] at hqueue
  refine ⟨announcements, hannouncements, ?_⟩
  rw [hsubmit, ← hqueue]
  rfl

/-! ## Submitting -/

/-- The nodes `heard` have heard that the button with the given identifier was tapped in the layout
`start`. -/
structure Submitting (identifier : String) (start : Layout) (heard : List NodeId)
    (layout : Layout) : Prop where
  sound : layout.Sound
  /-- Forms submit, and their attributes are handed out; all else stays. -/
  rest : ∃ updates, layout.rest = { start.rest with updates }
  gist : ∀ id, (layout.form id).value.gist = (start.form id).value.gist
  /-- Forms that have not heard it are not submitted. -/
  isSubmitted : ∀ id, id ∉ heard → start.tree.isChild id = false →
    (layout.form id).value.isSubmitted = (start.form id).value.isSubmitted
  /-- The submissions wait, with announcements between them. -/
  queue : ∃ more, layout.outbox.queue = start.outbox.queue ++ more ∧
    (∀ dispatch ∈ more, dispatch.IsAnnouncement start.tree ∨ dispatch.IsResult start.tree) ∧
    more.filterMap start.resultReport? = heard.filterMap (start.submissionReport? identifier)

namespace Submitting

theorem refl (h : start.Sound) (identifier : String) : Submitting identifier start [] start where
  sound := h
  rest := ⟨start.updates, rfl⟩
  gist _ := rfl
  isSubmitted _ _ _ := rfl
  queue := ⟨[], by simp, by simp, rfl⟩

theorem tree_eq (h : Submitting identifier start heard layout) : layout.tree = start.tree := by
  obtain ⟨updates, hrest⟩ := h.rest
  exact (congrArg Layout.tree hrest :)

/-- A node that has nothing to do with submission. -/
theorem skip (h : Submitting identifier start heard layout)
    (hnone : start.submissionReport? identifier id = none) :
    Submitting identifier start (heard ++ [id]) layout where
  sound := h.sound
  rest := h.rest
  gist := h.gist
  isSubmitted other hother := h.isSubmitted other fun hmem => hother (List.mem_append_left _ hmem)
  queue := by
    have hheard : (heard ++ [id]).filterMap (start.submissionReport? identifier) =
        heard.filterMap (start.submissionReport? identifier) := by
      simp [List.filterMap_append, hnone]
    rw [hheard]
    exact h.queue

/-- The state of a form that has not heard of the submission, but for its enabled flag. -/
theorem value_eq (h : Submitting identifier start heard layout) (hnew : id ∉ heard)
    (hchild : start.tree.isChild id = false) : (layout.form id).value =
      { (start.form id).value with isEnabled := (layout.form id).value.isEnabled } := by
  calc (layout.form id).value
      = { (layout.form id).value.gist with
          isEnabled := (layout.form id).value.isEnabled
          isSubmitted := (layout.form id).value.isSubmitted } := rfl
    _ = { (start.form id).value.gist with
          isEnabled := (layout.form id).value.isEnabled
          isSubmitted := (start.form id).value.isSubmitted } := by
      rw [h.gist, h.isSubmitted id hnew hchild]
    _ = { (start.form id).value with isEnabled := (layout.form id).value.isEnabled } := rfl

/-- A form that is still to submit. -/
theorem submits (h : Submitting identifier start heard layout) (hnew : id ∉ heard)
    (hform : start.tree.form? id = some (node, spec)) (hchild : spec.isChild = false)
    (hopen : (layout.form id).value.isSubmitted = false) :
    Submitting identifier start (heard ++ [id])
      (layout.submitForm id spec (some identifier)) := by
  have htree := h.tree_eq
  have hsome : (layout.tree.form? id).isSome := by rw [htree, hform]; rfl
  have hown : start.tree.isChild id = false := (Tree.isChild_of_form? hform).trans hchild
  have hstart : (start.form id).value.isSubmitted = false := by
    rw [← h.isSubmitted id hnew hown, hopen]
  obtain ⟨updates, hsubmit⟩ := submitForm_eq hchild hopen (some identifier)
  refine ⟨(keeps_submitForm hsome spec _ h.sound).1, ?_, fun other => ?_,
    fun other hother hchild' => ?_, ?_⟩
  · obtain ⟨updates', hrest⟩ := h.rest
    have hchanged := (h.sound.change hsome .submit).rest
    refine ⟨updates, ?_⟩
    rw [hsubmit]
    show { (layout.changeForm id .submit).rest with updates } = _
    rw [hchanged, hrest]
  · rw [h.sound.gist_submitForm hsome, h.gist]
  · have hne : id ≠ other := by
      rintro rfl
      exact hother (by simp)
    have hkept := (h.sound.unsubmitted_submitForm hsome hne spec (some identifier)).isSubmitted
      (htree ▸ hchild')
    rw [hkept, h.isSubmitted other (fun hmem => hother (List.mem_append_left _ hmem)) hchild']
  · obtain ⟨more, hmore, hkinds, hreports⟩ := h.queue
    obtain ⟨announcements, hannouncements, hqueue⟩ :=
      h.sound.queue_submitForm hsome hchild hopen (some identifier)
    have hnone : announcements.filterMap start.resultReport? = [] :=
      List.filterMap_eq_nil_iff.mpr fun dispatch hmem =>
        resultReport?_of_isAnnouncement start (hannouncements dispatch hmem)
    have hreport : start.resultReport?
        (submissionOf id spec (layout.form id).value (some identifier)) =
          start.submissionReport? identifier id := by
      unfold submissionReport?
      rw [h.value_eq hnew hown, hform]
      dsimp only
      rw [if_neg (by simp [hchild, hstart])]
      rfl
    refine ⟨more ++ announcements ++
      [submissionOf id spec (layout.form id).value (some identifier)], ?_, fun dispatch hmem => ?_,
      ?_⟩
    · rw [hqueue, hmore]
      simp only [List.append_assoc]
    · rcases List.mem_append.mp hmem with hmem | hmem
      · rcases List.mem_append.mp hmem with hmem | hmem
        · exact hkinds dispatch hmem
        · exact .inl (htree ▸ hannouncements dispatch hmem)
      · obtain rfl := List.mem_singleton.mp hmem
        exact .inr ⟨by rw [hform]; rfl, rfl⟩
    · rw [List.filterMap_append, List.filterMap_append, List.filterMap_append, hreports, hnone,
        List.append_nil]
      simp only [List.filterMap_cons, List.filterMap_nil, hreport]

/-- **A form hears of the submission**: if it submits by itself and is not submitted, its submission
comes behind all that waits, with what is announced of it in front. -/
theorem submitForm (h : Submitting identifier start heard layout) (hnew : id ∉ heard)
    (hform : start.tree.form? id = some (node, spec)) :
    Submitting identifier start (heard ++ [id])
      (layout.submitForm id spec (some identifier)) := by
  have hisChild : start.tree.isChild id = spec.isChild := Tree.isChild_of_form? hform
  by_cases hdone : spec.isChild = true ∨ (layout.form id).value.isSubmitted = true
  · have hsame : layout.submitForm id spec (some identifier) = layout := if_pos hdone
    have hnone : start.submissionReport? identifier id = none := by
      unfold submissionReport?
      rw [hform]
      refine if_pos ?_
      cases hchild : spec.isChild with
      | true => exact .inl rfl
      | false =>
        rw [← h.isSubmitted id hnew (hisChild.trans hchild)]
        exact .inr (by simpa [hchild] using hdone)
    rw [hsame]
    exact h.skip hnone
  · obtain ⟨hchild, hopen⟩ : spec.isChild = false ∧ (layout.form id).value.isSubmitted = false := by
      simpa using hdone
    exact h.submits hnew hform hchild hopen

/-- A node hears of the submission. -/
theorem receive (h : Submitting identifier start heard layout) (hnew : id ∉ heard) :
    Submitting identifier start (heard ++ [id])
      (layout.receive (.layoutSubmit (some identifier)) id) := by
  have hother : start.tree.form? id = none → Submitting identifier start (heard ++ [id]) layout :=
    fun hnone => h.skip (by simp [submissionReport?, hnone])
  unfold Layout.receive
  rw [h.tree_eq]
  cases hnode : start.tree.node? id with
  | none => exact hother (by rw [Tree.form?, hnode])
  | some node =>
    dsimp only
    cases hview : node.view with
    | form spec => exact h.submitForm hnew (Tree.form?_eq_some.mpr ⟨hnode, hview⟩)
    | _ => exact hother (by rw [Tree.form?, hnode]; dsimp only; rw [hview])

/-- **All forms submit, in tree order**, when all nodes hear of the submission. -/
theorem broadcast (h : start.Sound) (hids : start.tree.ids = 0 :: start.tree.descendants 0)
    (identifier : String) : Submitting identifier start start.tree.ids
      (start.broadcast (.layoutSubmit (some identifier))) := by
  have hfold : ∀ (list heard : List NodeId) (layout : Layout), (heard ++ list).Nodup →
      Submitting identifier start heard layout → Submitting identifier start (heard ++ list)
        (list.foldl (Layout.receive (.layoutSubmit (some identifier))) layout) := by
    intro list
    induction list with
    | nil =>
      intro heard layout _ hlayout
      rwa [List.append_nil]
    | cons id list ih =>
      intro heard layout hnodup hlayout
      have hnew : id ∉ heard := fun hmem => (List.nodup_append.mp hnodup).2.2 id hmem id
        List.mem_cons_self rfl
      have hnext := ih (heard ++ [id]) (layout.receive (.layoutSubmit (some identifier)) id)
        (by simpa using hnodup) (hlayout.receive hnew)
      rwa [List.append_assoc] at hnext
  have hall := hfold start.tree.ids [] start List.nodup_range (.refl h identifier)
  have htree := ((Submitting.refl h identifier).receive (List.not_mem_nil (a := 0))).tree_eq
  rw [hids, List.foldl_cons, ← hids] at hall
  rw [Layout.broadcast, trickle, htree]
  exact hall

end Submitting

/-! ## Taps -/

/-- The report of the dismissal by a tap on the button `button`, declared as `spec`, in `layout`, if
there is one; the tap leads to `final`. -/
def dismissalReport (layout final : Layout) (button : NodeId) (spec : ButtonSpec) : List Report :=
  if layout.dismissal = none ∧ (.dismiss ∈ spec.behaviors ∨ .cancel ∈ spec.behaviors) then
    [⟨button, .dismiss (some spec.id) (.dismiss ∉ spec.behaviors),
      { form := final.formContext button
        pager := (layout.tree.pagerAround button).map fun pager =>
          ((spec.effects.filterMap (·.turn?)).foldl PagerState.reduce
            (layout.pager pager).value).context
        button := some ⟨spec.id⟩ }⟩]
  else []

/-- What is reported of the effects of a button that dismiss the layout. -/
theorem dismissalReports_dismissals (layout : Layout) (button : NodeId) (spec : ButtonSpec) :
    layout.dismissalReports button spec.id spec.dismissals =
      if layout.dismissal = none ∧ (.dismiss ∈ spec.behaviors ∨ .cancel ∈ spec.behaviors) then
        [⟨button, .dismiss (some spec.id) (.dismiss ∉ spec.behaviors),
          { form := layout.formContext button
            pager := layout.pagerContext button
            button := some ⟨spec.id⟩ }⟩]
      else [] := by
  unfold dismissalReports ButtonSpec.dismissals
  cases layout.dismissal with
  | some dismissal => simp
  | none =>
    by_cases hdismiss : .dismiss ∈ spec.behaviors
    · simp [hdismiss]
    · by_cases hcancel : .cancel ∈ spec.behaviors
      · simp [hdismiss, hcancel]
      · simp [hdismiss, hcancel]

/-- **Effects behind the submissions**: where all of them are routed, and nothing waited before, the
forms that submit are reported before the layout is dismissed. -/
theorem Submitting.followUps {told : Layout} {button : NodeId}
    {turns dismissals : List ClickBehavior}
    (h : Submitting identifier start heard told) (hqueue : start.outbox.queue = [])
    (hreporting : start.environment.config.reporting.isEnabled = true)
    (hrecording : start.environment.isRecording = true)
    (hbutton : (start.tree.node? button).isSome)
    (hturns : ∀ effect ∈ turns, effect.turn?.isSome)
    (hdismissals : ∀ effect ∈ dismissals, effect.isDismissal = true)
    (hfinal : final =
      (told.pushAll (Layout.followUps button identifier (turns ++ dismissals))).settle)
    (hdropped : final.dropped = start.dropped) :
    final.tree = start.tree ∧
      final.reports = start.reports ++
        heard.filterMap (start.submissionReport? identifier) ++
        { final with dismissal := start.dismissal }.dismissalReports button identifier
          dismissals ∧
      ∀ pager, start.tree.pagerAround button = some pager → (final.pager pager).value =
        (turns.filterMap (·.turn?)).foldl PagerState.reduce (start.pager pager).value := by
  obtain ⟨more, hmore, hkinds, hreports⟩ := h.queue
  rw [hqueue, List.nil_append] at hmore
  rw [pushAll_eq, hmore] at hfinal
  -- forms submitted, and no pages were turned meanwhile
  obtain ⟨updates, hrest⟩ := h.rest
  have htree : told.tree = start.tree := h.tree_eq
  have henvironment : told.environment = start.environment :=
    (congrArg Layout.environment hrest :)
  have hpagers : told.pagers = start.pagers := (congrArg Layout.pagers hrest :)
  have hdismissal : told.dismissal = start.dismissal := (congrArg Layout.dismissal hrest :)
  have hbefore : told.reports = start.reports := (congrArg Layout.reports hrest :)
  have hlost : told.dropped = start.dropped := (congrArg Layout.dropped hrest :)
  have hresults : told.resultReport? = start.resultReport? := by
    funext dispatch
    unfold resultReport? pagerContext pager
    rw [htree, hpagers]
  rw [← henvironment] at hreporting hrecording
  have hsettles : SettlesTo { told with
      outbox := ⟨more ++ Layout.followUps button identifier (turns ++ dismissals)⟩ } final :=
    ⟨_, hfinal, hdropped.trans hlost.symm⟩
  obtain ⟨hkept, hall, hturned⟩ := hsettles.followUps
    (h.sound.congr rfl (fun _ => rfl) fun _ => rfl) hreporting hrecording (by rwa [htree]) hturns
    hdismissals rfl (by rwa [htree])
  refine ⟨hkept.trans htree, ?_, fun pager haround => ?_⟩
  · calc final.reports
        = told.reports ++ more.filterMap told.resultReport? ++
            { final with dismissal := told.dismissal }.dismissalReports button identifier
              dismissals := hall
      _ = _ := by rw [hbefore, hresults, hreports, hdismissal]
  · rw [hturned pager (htree ▸ haround)]
    unfold Layout.pager
    rw [hpagers]

/-- What a tap reports where control is with the caller. -/
theorem Idle.reports_click (h : layout.Idle)
    (hids : layout.tree.ids = 0 :: layout.tree.descendants 0)
    (hreporting : layout.environment.config.reporting.isEnabled = true)
    (hrecording : layout.environment.isRecording = true) {button : NodeId} {spec : ButtonSpec}
    (hbutton : layout.tree.view? button = some (.button spec))
    (hsubmits : spec.submits = true) (henabled : layout.isEnabled button = true)
    (hfinal : final = layout.after (.click button)) (hdropped : final.dropped = layout.dropped) :
    final.reports = layout.reports ++
      layout.tree.ids.filterMap (layout.submissionReport? spec.id) ++
      layout.dismissalReport final button spec ∧
    ∀ pager, layout.tree.pagerAround button = some pager → (final.pager pager).value =
      (spec.effects.filterMap (·.turn?)).foldl PagerState.reduce (layout.pager pager).value := by
  have hnode : (layout.tree.node? button).isSome := by
    obtain ⟨node, hnode, -⟩ := Option.map_eq_some_iff.mp hbutton
    rw [hnode]
    rfl
  -- all forms submit, and then the other effects of the button are put into the outbox
  have hclick : final = ((layout.broadcast (.layoutSubmit (some spec.id))).pushAll
      (followUps button spec.id (spec.turns ++ spec.dismissals))).settle := by
    have hok := click_eq_ok.mpr ⟨spec, hbutton, rfl⟩
    rw [henabled, hsubmits, if_neg Bool.noConfusion, if_pos rfl, bubble_buttonSubmit,
      spec.effects_eq] at hok
    rw [hfinal, Layout.after, Layout.perform, hok]
  obtain ⟨htree, hreports, hturned⟩ := (Submitting.broadcast h.sound hids spec.id).followUps
    h.queue hreporting hrecording hnode (fun _ => ButtonSpec.isSome_turn?_of_mem_turns)
    (fun _ => ButtonSpec.isDismissal_of_mem_dismissals) hclick hdropped
  rw [spec.filterMap_turn?_turns] at hturned
  have hpager : final.pagerContext button = (layout.tree.pagerAround button).map fun pager =>
      ((spec.effects.filterMap (·.turn?)).foldl PagerState.reduce
        (layout.pager pager).value).context := by
    rw [pagerContext, htree]
    refine Option.map_congr fun pager haround => ?_
    rw [hturned pager haround]
  have hlast : { final with dismissal := layout.dismissal }.dismissalReports button spec.id
      spec.dismissals = layout.dismissalReport final button spec := by
    rw [dismissalReports_dismissals, dismissalReport, ← hpager]
    rfl
  exact ⟨hlast ▸ hreports, hturned⟩

/-- **What a tap on a button that submits reports.** Let a layout be activated with reporting
enabled and reports kept, and let calls of the renderer and submissions asked for from outside
follow. Let then an enabled button be tapped that submits, and let the limit of a pass not be
reached. Reported are

* every form that submits by itself and is not submitted, wherever it is, in tree order, with the
  button and with the position of the nearest pager from before the tap;
* and then the dismissal of the layout, if the button dismisses or cancels and the layout was not
  dismissed before; it counts as cancelled only if the button does not dismiss, and comes with the
  position of the nearest pager after the button has turned its pages.

**Proof sketch.** The submissions are put into the outbox in tree order, with announcements between
them, before the other effects of the button are. No announcement turns pages or reports anything.
So all submissions have been reported when the button turns its pages, and what is announced of that
comes behind its other effects. -/
theorem submission_reported_before_followUps {environment : Environment} {root : Spec}
    {active layout : Layout} {calls : List Call} {button : NodeId} {spec : ButtonSpec}
    (h : activate environment root = .ok active)
    (hreporting : environment.config.reporting.isEnabled = true)
    (hrecording : environment.isRecording = true)
    (hcalls : ∀ call ∈ calls, call.IsOrdinary (Tree.ofSpec root))
    (hlayout : layout = active.run calls)
    (hbutton : (Tree.ofSpec root).view? button = some (.button spec))
    (hsubmits : .formSubmit ∈ spec.behaviors) (henabled : layout.isEnabled button = true)
    (hfinal : final = layout.after (.click button)) (hdropped : final.dropped = layout.dropped) :
    final.reports = layout.reports ++
      layout.tree.ids.filterMap (layout.submissionReport? spec.id) ++
      layout.dismissalReport final button spec ∧
    ∀ pager, layout.tree.pagerAround button = some pager → (final.pager pager).value =
      (spec.effects.filterMap (·.turn?)).foldl PagerState.reduce (layout.pager pager).value := by
  have htree₀ := (sound_of_activate h).2.1
  obtain ⟨hidle, henvironment⟩ := (idle_of_activate h).environment_run (htree₀ ▸ hcalls)
  rw [environment_of_activate h, ← hlayout] at henvironment
  rw [← hlayout] at hidle
  have htree : layout.tree = Tree.ofSpec root := by
    rw [hlayout, (keeps_run active calls (idle_of_activate h).sound).2.1, htree₀]
  exact hidle.reports_click (htree ▸ Tree.ids_ofSpec root) (henvironment ▸ hreporting)
    (henvironment ▸ hrecording) (htree ▸ hbutton) (ButtonSpec.submits_iff.mpr hsubmits) henabled
    hfinal hdropped

/-- A pager with two forms and a button on its first page, which turns the page and dismisses. -/
def checkout : Spec :=
  ⟨.pager { id := "steps" }, [], [
    ⟨.container, [], [
      ⟨.form { id := "order" }, [], []⟩,
      ⟨.form { id := "address" }, [], []⟩,
      ⟨.button { id := "pay", behaviors := [.dismiss, .pagerNext, .formSubmit] }, [], []⟩]⟩,
    ⟨.label "Thank you", [], []⟩]⟩

/-- Who reports something when the button is tapped, and on which page. -/
theorem submission_reported_before_followUps_checkout :
    ∃ layout final : Layout, activate {} checkout = .ok layout ∧
      final = layout.after (.click 4) ∧ final.dropped = layout.dropped ∧
      final.reports.map (fun report => (report.origin, report.context.pager.map (·.pageIndex))) =
        [(2, some 0), (3, some 0), (4, some 1)] := by
  have hactive : activate {} checkout = .ok (build {} (Tree.ofSpec checkout)).settle :=
    activate_eq_ok.mpr ⟨by decide, rfl⟩
  have hbutton : (Tree.ofSpec checkout).view? 4 =
      some (.button { id := "pay", behaviors := [.dismiss, .pagerNext, .formSubmit] }) := by
    decide
  have henabled : (build {} (Tree.ofSpec checkout)).settle.isEnabled 4 = true := by
    decide +kernel
  have hdropped : ((build {} (Tree.ofSpec checkout)).settle.after (.click 4)).dropped =
      (build {} (Tree.ofSpec checkout)).settle.dropped := by decide +kernel
  have hcalls : ∀ call ∈ ([] : List Call), call.IsOrdinary (Tree.ofSpec checkout) := nofun
  have hlayout : (build {} (Tree.ofSpec checkout)).settle =
      (build {} (Tree.ofSpec checkout)).settle.run [] := rfl
  obtain ⟨hreports, -⟩ := submission_reported_before_followUps hactive rfl rfl hcalls hlayout
    hbutton (by decide) henabled rfl hdropped
  refine ⟨_, _, hactive, rfl, hdropped, ?_⟩
  rw [hreports]
  decide +kernel

end Layout

end FormTree

import FormTree.Proofs.Layout.Run

set_option autoImplicit false

/-!
# What forms tell

A form tells the outside of its display and of its submission. Such a *notice* waits in the outbox
first, and it is a report once it has been routed; at the limit of a pass it may be dropped. Routing
and dropping neither add notices nor lose any.

While a layout is *tidy* all that waits in its outbox can be routed, so routing does not break off,
and asks for nothing but what is allowed.

## Main definitions

* `FormTree.Notice`, `FormTree.Layout.notices` — what forms told so far.
* `FormTree.Layout.noticesOf` — what one form told of one kind.
* `FormTree.Layout.Advance` — what steps leave alone, and what they add.
* `FormTree.Layout.Tidy` — all that waits can be routed and is allowed.
* `FormTree.Layout.Alike` — layouts in which forms know and told the same.

## Main results

* `FormTree.Layout.advance_steps` — steps only add to the outbox, and no reports of forms.
* `FormTree.Layout.notices_route`, `FormTree.Layout.notices_drop` — notices are not lost.
* `FormTree.Layout.Tidy.settle_induction` — what holds once a tidy layout is routed; then nothing
  waits any more.
-/

namespace FormTree

/-! ## Notices -/

/-- What a form tells the outside. -/
structure Notice where
  /-- The form. -/
  origin : NodeId
  /-- What it tells. -/
  event : ReportedEvent
  /-- The form's part of the context. -/
  form : Option FormContext
  deriving DecidableEq

/-- The notice that a dispatch brings to the root. -/
def Dispatch.notice? : Dispatch → Option Notice
  | .bubble origin (.formDisplay context) => some ⟨origin, .formDisplay, context.form⟩
  | .bubble origin (.formResult entry attributes context) =>
    some ⟨origin, .formResult entry attributes, context.form⟩
  | _ => none

/-- What a report tells, and of which form. -/
def Report.notice (report : Report) : Notice := ⟨report.origin, report.event, report.context.form⟩

/-- The notice that was reported; the dismissal of the layout is told by no form. -/
def Report.notice? (report : Report) : Option Notice :=
  if report.event.kind = .dismiss then none else some report.notice

theorem Report.notice?_eq {report : Report} (h : report.event.kind ≠ .dismiss) :
    report.notice? = some report.notice := if_neg h

/-- The notice is one of the form `id`, of the given kind. -/
def Notice.isOf (kind : EventKind) (id : NodeId) (notice : Notice) : Bool :=
  notice.origin = id && notice.event.kind = kind

theorem Dispatch.notice?_of_isReport {dispatch : Dispatch} (h : dispatch.isReport = false) :
    dispatch.notice? = none := by
  cases dispatch with
  | bubble origin event => cases event <;> first | rfl | cases h
  | _ => rfl

theorem Dispatch.IsAnnouncement.notice? {tree : Tree} {dispatch : Dispatch}
    (h : dispatch.IsAnnouncement tree) : dispatch.notice? = none := by
  cases dispatch <;> first | rfl | cases h

namespace Layout

/-- What forms told so far: what is reported, what was dropped, and what waits in the outbox. -/
def notices (layout : Layout) : List Notice :=
  layout.reports.filterMap (·.notice?) ++ layout.dropped.filterMap (·.notice?) ++
    layout.outbox.queue.filterMap (·.notice?)

/-- What the form `id` told of one kind. -/
def noticesOf (layout : Layout) (kind : EventKind) (id : NodeId) : List Notice :=
  layout.notices.filter (·.isOf kind id)

/-- What the form `id` told of one kind and what was dropped. -/
def droppedOf (layout : Layout) (kind : EventKind) (id : NodeId) : List Notice :=
  (layout.dropped.filterMap (·.notice?)).filter (·.isOf kind id)

/-- The reports of one kind from the node `id`. -/
def reportsOf (layout : Layout) (kind : EventKind) (id : NodeId) : List Report :=
  layout.reports.filter fun report => report.origin = id && report.event.kind = kind

/-- **Dropping loses no notice.** -/
theorem notices_drop (layout : Layout) :
    { layout with outbox := {}, dropped := layout.dropped ++ layout.outbox.queue }.notices =
      layout.notices := by
  simp [notices]

/-- Taking out what is no notice loses none. -/
theorem notices_pop {layout : Layout} {dispatch : Dispatch} {rest : List Dispatch}
    (hqueue : layout.outbox.queue = dispatch :: rest) (hreport : dispatch.isReport = false) :
    { layout with outbox := ⟨rest⟩ }.notices = layout.notices := by
  simp [notices, hqueue, Dispatch.notice?_of_isReport hreport]

/-- What is put into the outbox is told. -/
theorem noticesOf_push (layout : Layout) (dispatch : Dispatch) (kind : EventKind) (id : NodeId) :
    (layout.push dispatch).noticesOf kind id = layout.noticesOf kind id ++
      dispatch.notice?.toList.filter (·.isOf kind id) := by
  have hqueue : (layout.push dispatch).notices = layout.notices ++ dispatch.notice?.toList := by
    cases hnotice : dispatch.notice? <;> simp [notices, push, hnotice]
  rw [noticesOf, hqueue, List.filter_append, noticesOf]

/-- **Routing loses no notice**, if reports are kept. -/
theorem notices_route {layout : Layout} {dispatch : Dispatch} {rest : List Dispatch}
    (hreporting : layout.environment.config.reporting.isEnabled = true)
    (hrecording : layout.environment.isRecording = true)
    (hqueue : layout.outbox.queue = dispatch :: rest) (hreport : dispatch.isReport = true) :
    ({ layout with outbox := ⟨rest⟩ }.route dispatch).notices.Perm layout.notices := by
  have hkept : ∀ report : Report, ({ layout with outbox := ⟨rest⟩ } : Layout).report report =
      { layout with outbox := ⟨rest⟩, reports := layout.reports ++ [report] } := by
    intro report
    rw [Layout.report, if_pos ⟨hreporting, hrecording⟩]
  have hmoves : ∀ report : Report, report.event.kind ≠ .dismiss →
      dispatch.notice? = some report.notice →
      (({ layout with outbox := ⟨rest⟩ } : Layout).report report).notices.Perm layout.notices := by
    intro report hkind hd
    rw [hkept]
    simp only [notices, hqueue, List.filterMap_append, List.filterMap_cons_some hd,
      List.filterMap_cons_some (Report.notice?_eq hkind), List.filterMap_nil, List.append_assoc,
      List.singleton_append]
    exact List.Perm.append_left _ List.perm_middle.symm
  cases dispatch with
  | bubble origin event =>
    cases event with
    | formDisplay context =>
      obtain ⟨context', hform, hroute⟩ := route_formDisplay { layout with outbox := ⟨rest⟩ } origin
        context
      rw [hroute]
      exact hmoves _ nofun (by rw [Dispatch.notice?, ← hform]; rfl)
    | formResult entry attributes context =>
      obtain ⟨context', hform, hroute⟩ := route_formResult { layout with outbox := ⟨rest⟩ } origin
        entry attributes context
      rw [hroute]
      exact hmoves _ nofun (by rw [Dispatch.notice?, ← hform]; rfl)
    | _ => cases hreport
  | _ => cases hreport

/-- Routing a notice puts it among the reports, and changes nothing else. -/
theorem route_report (layout : Layout) {dispatch : Dispatch} (hreport : dispatch.isReport = true) :
    ∃ reports, layout.route dispatch = { layout with reports } := by
  have hreported : ∀ report : Report, ∃ reports, layout.report report = { layout with reports } :=
    fun report => by
      unfold Layout.report
      split
      · exact ⟨_, rfl⟩
      · exact ⟨_, rfl⟩
  cases dispatch with
  | bubble origin event =>
    cases event with
    | formDisplay context =>
      obtain ⟨context', -, hroute⟩ := route_formDisplay layout origin context
      rw [hroute]
      exact hreported _
    | formResult entry attributes context =>
      obtain ⟨context', -, hroute⟩ := route_formResult layout origin entry attributes context
      rw [hroute]
      exact hreported _
    | _ => cases hreport
  | _ => cases hreport

/-- The reports of a form are notices of it. -/
theorem map_notice_reportsOf (layout : Layout) {kind : EventKind} (hkind : kind ≠ .dismiss)
    (id : NodeId) : (layout.reportsOf kind id).map (·.notice) =
      (layout.reports.filterMap (·.notice?)).filter (·.isOf kind id) := by
  unfold reportsOf
  induction layout.reports with
  | nil => rfl
  | cons report reports ih =>
    by_cases hdismiss : report.event.kind = .dismiss
    · have hne : ¬ EventKind.dismiss = kind := fun heq => hkind heq.symm
      have hnone : report.notice? = none := if_pos hdismiss
      rw [List.filter_cons_of_neg (by simp [hdismiss, hne]), ih, List.filterMap_cons_none hnone]
    · rw [List.filterMap_cons_some (Report.notice?_eq hdismiss)]
      have hof : report.notice.isOf kind id =
        (decide (report.origin = id) && decide (report.event.kind = kind)) := rfl
      cases htest : report.notice.isOf kind id with
      | true =>
        rw [List.filter_cons_of_pos (hof ▸ htest), List.map_cons, ih,
          List.filter_cons_of_pos htest]
      | false =>
        rw [List.filter_cons_of_neg (by rw [← hof, htest]; exact Bool.false_ne_true), ih,
          List.filter_cons_of_neg (by rw [htest]; exact Bool.false_ne_true)]

/-- **Once nothing waits, all notices are reported**, but for those that were dropped. -/
theorem noticesOf_of_queue {layout : Layout} {kind : EventKind} (hkind : kind ≠ .dismiss)
    (id : NodeId) (hqueue : layout.outbox.queue = []) : layout.noticesOf kind id =
      (layout.reportsOf kind id).map (·.notice) ++ layout.droppedOf kind id := by
  simp [noticesOf, notices, droppedOf, hqueue, map_notice_reportsOf layout hkind]

/-! ## What steps add -/

end Layout

/-- Nothing is asked of forms, and there are no follow-ups. -/
def Allowance.none : Allowance := ⟨False, False, False, fun _ => False⟩

/-- Forms take over what inputs and nested forms announce. -/
def Allowance.entrances : Allowance := ⟨True, False, False, fun _ => False⟩

/-- Forms take over all that inputs and nested forms tell. -/
def Allowance.data : Allowance := ⟨True, True, False, fun _ => False⟩

/-- The dispatch can be routed, and it asks for nothing but what is allowed. -/
structure Dispatch.IsTidy (tree : Tree) (allow : Allowance) (dispatch : Dispatch) : Prop where
  origin : ∀ origin, dispatch.origin? = some origin → (tree.node? origin).isSome
  within : dispatch.event.IsWithin allow

theorem Event.IsWithin.mono {event : Event} (h : event.IsWithin .none) (allow : Allowance) :
    event.IsWithin allow :=
  ⟨fun intent hintent => (Allowance.not_takes id id intent (h.takes intent hintent)).elim,
    fun hs => (h.submits hs).elim, fun _ hb => (h.buttons _ hb).elim⟩

/-- Announcements ask for nothing. -/
theorem Dispatch.IsAnnouncement.isTidy {tree : Tree} {dispatch : Dispatch}
    (h : dispatch.IsAnnouncement tree) : dispatch.IsTidy tree .none := by
  cases dispatch with
  | trickle origin event =>
    cases event with
    | validationUpdate form status =>
      obtain ⟨rfl, hsome⟩ := h
      obtain ⟨⟨node, spec⟩, hform⟩ := Option.isSome_iff_exists.mp hsome
      refine ⟨?_, nofun, nofun, nofun⟩
      rintro _ ⟨⟩
      simp [(Tree.form?_eq_some.mp hform).1]
    | pagerUpdate pager state =>
      obtain ⟨rfl, hpager⟩ := h
      refine ⟨?_, nofun, nofun, nofun⟩
      rintro _ ⟨⟩
      cases hnode : tree.node? origin with
      | some node => rfl
      | none => simp [Tree.isPager, Tree.view?, hnode] at hpager
    | _ => cases h
  | _ => cases h

namespace Layout

/-- What steps leave alone, and what they add. -/
structure Advance (layout layout' : Layout) : Prop where
  tree : layout'.tree = layout.tree
  environment : layout'.environment = layout.environment
  answers : layout'.answers = layout.answers
  dropped : layout'.dropped = layout.dropped
  /-- What is put into the outbox asks for nothing. -/
  queue : ∃ more, layout'.outbox.queue = layout.outbox.queue ++ more ∧
    ∀ dispatch ∈ more, dispatch.IsTidy layout.tree .none
  /-- No form reports. -/
  reports : ∃ more, layout'.reports = layout.reports ++ more ∧
    ∀ report ∈ more, report.notice? = .none

section Advances

variable {allow : Allowance} {layout layout' layout'' : Layout} {id : NodeId}

theorem Advance.refl (layout : Layout) : Advance layout layout :=
  ⟨rfl, rfl, rfl, rfl, ⟨[], by simp⟩, ⟨[], by simp⟩⟩

theorem Advance.trans (h : Advance layout layout') (h' : Advance layout' layout'') :
    Advance layout layout'' where
  tree := h'.tree.trans h.tree
  environment := h'.environment.trans h.environment
  answers := h'.answers.trans h.answers
  dropped := h'.dropped.trans h.dropped
  queue := by
    obtain ⟨more, hmore, hm⟩ := h.queue
    obtain ⟨more', hmore', hm'⟩ := h'.queue
    refine ⟨more ++ more', by rw [hmore', hmore, List.append_assoc], fun dispatch hd => ?_⟩
    rcases List.mem_append.mp hd with hd | hd
    · exact hm dispatch hd
    · exact h.tree ▸ hm' dispatch hd
  reports := by
    obtain ⟨more, hmore, hm⟩ := h.reports
    obtain ⟨more', hmore', hm'⟩ := h'.reports
    refine ⟨more ++ more', by rw [hmore', hmore, List.append_assoc], fun report hr => ?_⟩
    rcases List.mem_append.mp hr with hr | hr
    · exact hm report hr
    · exact hm' report hr

/-- What leaves the core alone and only adds to the outbox is an advance. -/
theorem Advance.of_core (hcore : layout'.core = layout.core) {more : List Dispatch}
    (hqueue : layout'.outbox.queue = layout.outbox.queue ++ more)
    (hmore : ∀ dispatch ∈ more, dispatch.IsTidy layout.tree .none) : Advance layout layout' where
  tree := tree_of_core hcore
  environment := (congrArg Layout.environment hcore :)
  answers := (congrArg Layout.answers hcore :)
  dropped := (congrArg Layout.dropped hcore :)
  queue := ⟨more, hqueue, hmore⟩
  reports := ⟨[], by rw [List.append_nil]; exact (congrArg Layout.reports hcore :), by simp⟩

/-- What forms told after an advance. -/
theorem Advance.noticesOf_eq (h : Advance layout layout') {more : List Dispatch}
    (hqueue : layout'.outbox.queue = layout.outbox.queue ++ more) (kind : EventKind)
    (id : NodeId) : (layout'.noticesOf kind id).Perm
      (layout.noticesOf kind id ++ (more.filterMap (·.notice?)).filter (·.isOf kind id)) := by
  obtain ⟨reports, hreports, hnone⟩ := h.reports
  have hnil : reports.filterMap (·.notice?) = [] := List.filterMap_eq_nil_iff.mpr hnone
  simp [noticesOf, notices, hreports, hnil, h.dropped, hqueue]

/-- What is put into the outbox tells nothing of the kind. -/
theorem Advance.noticesOf_same (h : Advance layout layout') {more : List Dispatch}
    (hqueue : layout'.outbox.queue = layout.outbox.queue ++ more) {kind : EventKind} {id : NodeId}
    (hmore : ∀ dispatch ∈ more, ∀ notice, dispatch.notice? = some notice →
      notice.isOf kind id = false) :
    (layout'.noticesOf kind id).Perm (layout.noticesOf kind id) := by
  have hnil : (more.filterMap (·.notice?)).filter (·.isOf kind id) = [] := by
    rw [List.filter_eq_nil_iff]
    intro notice hnotice
    obtain ⟨dispatch, hd, hn⟩ := List.mem_filterMap.mp hnotice
    simp [hmore dispatch hd notice hn]
  have := h.noticesOf_eq hqueue kind id
  rwa [hnil, List.append_nil] at this

/-- The display of a form. -/
theorem isTidy_displayNotice (layout : Layout) {id : NodeId}
    (hsome : (layout.tree.form? id).isSome) :
    ∀ dispatch ∈ layout.displayNotice id, dispatch.IsTidy layout.tree .none := by
  intro dispatch hd
  unfold displayNotice at hd
  split at hd
  · obtain rfl := List.mem_singleton.mp hd
    obtain ⟨⟨node, spec⟩, hform⟩ := Option.isSome_iff_exists.mp hsome
    refine ⟨?_, nofun, nofun, nofun⟩
    rintro _ ⟨⟩
    simp [(Tree.form?_eq_some.mp hform).1]
  · simp at hd

/-- **A change of a form** puts into the outbox the notice of its display, if that is due, and
announcements. -/
theorem Sound.queue_changeForm (h : layout.Sound) (hsome : (layout.tree.form? id).isSome)
    (intent : FormIntent) :
    ∃ announcements, (∀ dispatch ∈ announcements, dispatch.IsAnnouncement layout.tree) ∧
      (layout.changeForm id intent).outbox.queue = layout.outbox.queue ++
        ((layout.commitForm id intent).displayNotice id ++ announcements) :=
  (h.change hsome intent).turn.outbox

theorem Sound.advance_changeForm (h : layout.Sound) (hsome : (layout.tree.form? id).isSome)
    (intent : FormIntent) : Advance layout (layout.changeForm id intent) := by
  obtain ⟨announcements, hannouncements, hqueue⟩ := h.queue_changeForm hsome intent
  refine .of_core (core_of_rest (h.change hsome intent).rest) hqueue fun dispatch hd => ?_
  rcases List.mem_append.mp hd with hd | hd
  · exact isTidy_displayNotice (layout.commitForm id intent) hsome dispatch hd
  · exact (hannouncements dispatch hd).isTidy

theorem Sound.aftermath_changePager (h : layout.Sound) (hpager : layout.tree.isPager id = true)
    (intent : PagerIntent) : Aftermath layout (layout.changePager id intent) :=
  (h.pagerChange hpager (·.reduce intent)).aftermath

theorem Sound.advance_changePager (h : layout.Sound) (hpager : layout.tree.isPager id = true)
    (intent : PagerIntent) : Advance layout (layout.changePager id intent) := by
  have hafter := h.aftermath_changePager hpager intent
  obtain ⟨announcements, hannouncements, hqueue⟩ := hafter.outbox
  exact .of_core hafter.core hqueue fun dispatch hd => (hannouncements dispatch hd).isTidy

/-- The move of a pager tells nothing of forms. -/
theorem Sound.noticesOf_changePager (h : layout.Sound) (hpager : layout.tree.isPager id = true)
    (intent : PagerIntent) (kind : EventKind) (form : NodeId) :
    ((layout.changePager id intent).noticesOf kind form).Perm (layout.noticesOf kind form) := by
  obtain ⟨announcements, hannouncements, hqueue⟩ := (h.aftermath_changePager hpager intent).outbox
  refine (h.advance_changePager hpager intent).noticesOf_same hqueue fun dispatch hd notice hn => ?_
  rw [(hannouncements dispatch hd).notice?] at hn
  cases hn

theorem Advance.push {dispatch : Dispatch} (h : dispatch.IsTidy layout.tree .none) :
    Advance layout (layout.push dispatch) where
  tree := rfl
  environment := rfl
  answers := rfl
  dropped := rfl
  queue := ⟨[dispatch], rfl, by simpa using h⟩
  reports := ⟨[], by simp [Layout.push], by simp⟩

/-- What leaves all but the states of nodes, the dismissal and the updates alone is an advance. -/
theorem Advance.of_outbox (htree : layout'.tree = layout.tree)
    (henvironment : layout'.environment = layout.environment)
    (hanswers : layout'.answers = layout.answers) (hdropped : layout'.dropped = layout.dropped)
    (houtbox : layout'.outbox = layout.outbox) (hreports : layout'.reports = layout.reports) :
    Advance layout layout' :=
  ⟨htree, henvironment, hanswers, hdropped, ⟨[], by simp [houtbox]⟩, ⟨[], by simp [hreports]⟩⟩

theorem advance_applyUpdate (layout : Layout) (update : AttributeUpdate) :
    Advance layout (layout.applyUpdate update) := by
  unfold applyUpdate
  split
  · exact .of_outbox rfl rfl rfl rfl rfl rfl
  · exact .refl _

theorem Sound.advance_submitForm (h : layout.Sound) (hsome : (layout.tree.form? id).isSome)
    (spec : FormSpec) (button : Option String) :
    Advance layout (layout.submitForm id spec button) := by
  unfold submitForm
  dsimp only
  split
  · exact .refl _
  · have hchange := h.advance_changeForm hsome .submit
    have hresult : ∀ entry attributes context, Advance layout ((layout.changeForm id .submit).push
        (.bubble id (.formResult entry attributes context))) := by
      intro entry attributes context
      refine hchange.trans (.push ⟨?_, nofun, nofun, nofun⟩)
      rintro _ ⟨⟩
      obtain ⟨⟨node, form⟩, hform⟩ := Option.isSome_iff_exists.mp hsome
      simp [hchange.tree, (Tree.form?_eq_some.mp hform).1]
    split
    · exact hresult _ _ _
    · exact (hresult _ _ _).trans (advance_applyUpdate _ _)

/-- **A step only adds to the outbox**, and no form reports. -/
theorem advance_step (h : layout.Sound)
    (hbuttons : ∀ button, allow.buttons button → (layout.tree.node? button).isSome)
    (step : Step allow layout layout') : Advance layout layout' := by
  cases step with
  | change _ hsome => exact h.advance_changeForm hsome _
  | page hpager => exact h.advance_changePager hpager _
  | note id change => exact .of_outbox rfl rfl rfl rfl rfl rfl
  | submit button _ hform => exact h.advance_submitForm (by rw [hform]; rfl) _ button
  | @follow button event hbutton hevent =>
    refine .push ⟨?_, ?_⟩
    · rintro _ ⟨⟩
      exact hbuttons button hbutton
    · cases event <;> first | cases hevent; done | exact ⟨nofun, nofun, nofun⟩
  | dismiss dismissal => exact .of_outbox rfl rfl rfl rfl rfl rfl
  | reportDismissal origin button isCancel context =>
    unfold Layout.report
    split
    · exact ⟨rfl, rfl, rfl, rfl, ⟨[], by simp⟩,
        ⟨[_], rfl, by simp [Report.notice?, ReportedEvent.kind]⟩⟩
    · exact .refl _

/-- What keeps soundness and is kept by steps from sound layouts is kept by any number of them. -/
theorem steps_induction {P : Layout → Prop}
    (hstep : ∀ layout layout' : Layout, layout.Sound → P layout → Step allow layout layout' →
      P layout')
    (h : layout.Sound) (hlayout : P layout) (steps : Steps allow layout layout') : P layout' := by
  have hboth : layout'.Sound ∧ P layout' := by
    induction steps with
    | refl => exact ⟨h, hlayout⟩
    | tail _ step ih => exact ⟨(keeps_step step ih.1).1, hstep _ _ ih.1 ih.2 step⟩
  exact hboth.2

/-- **Steps only add to the outbox**, and no form reports. -/
theorem advance_steps (h : layout.Sound)
    (hbuttons : ∀ button, allow.buttons button → (layout.tree.node? button).isSome)
    (steps : Steps allow layout layout') : Advance layout layout' :=
  steps_induction (P := Advance layout) (fun _ _ hsound hworld step => hworld.trans
    (advance_step hsound (fun button hb => hworld.tree ▸ hbuttons button hb) step))
    h (.refl layout) steps

/-- The layouts differ at most in the states of nodes other than forms, in what waits, and in
whether what forms told is reported. -/
structure Alike (layout layout' : Layout) : Prop where
  tree : layout'.tree = layout.tree
  forms : layout'.forms = layout.forms
  updates : layout'.updates = layout.updates
  notices : layout'.notices.Perm layout.notices

/-! ## Tidy layouts -/

/-- No change is under way, and all that waits can be routed and asks for nothing but what is
allowed. -/
structure Tidy (allow : Allowance) (layout : Layout) : Prop where
  sound : layout.Sound
  queue : ∀ dispatch ∈ layout.outbox.queue, dispatch.IsTidy layout.tree allow

namespace Tidy

theorem advance (h : Tidy allow layout) (hsound : layout'.Sound)
    (hadvance : Advance layout layout') : Tidy allow layout' where
  sound := hsound
  queue dispatch hd := by
    obtain ⟨more, hqueue, hmore⟩ := hadvance.queue
    rw [hqueue] at hd
    rw [hadvance.tree]
    rcases List.mem_append.mp hd with hd | hd
    · exact h.queue dispatch hd
    · exact ⟨(hmore dispatch hd).origin, (hmore dispatch hd).within.mono allow⟩

theorem step (h : Tidy allow layout)
    (hbuttons : ∀ button, allow.buttons button → (layout.tree.node? button).isSome)
    (step : Step allow layout layout') : Tidy allow layout' :=
  h.advance (keeps_step step h.sound).1 (advance_step h.sound hbuttons step)

theorem pop (h : Tidy allow layout) {dispatch : Dispatch} {rest : List Dispatch}
    (hqueue : layout.outbox.queue = dispatch :: rest) :
    Tidy allow { layout with outbox := ⟨rest⟩ } where
  sound := h.sound.congr rfl (fun _ => rfl) fun _ => rfl
  queue other hother := h.queue other (by simp [hqueue, show other ∈ rest from hother])

/-- Nothing that waits is stray. -/
theorem isStray (h : Tidy allow layout) {dispatch : Dispatch} {rest : List Dispatch}
    (hqueue : layout.outbox.queue = dispatch :: rest) : layout.isStray dispatch = false :=
  isStray_eq_false.mpr (h.queue dispatch (by simp [hqueue])).origin

/-- **What holds once a tidy layout has been routed**: what is kept by steps that are allowed, by
taking a dispatch out of the outbox, by reporting, and by dropping. Nothing waits then. -/
theorem settle_induction {P : Layout → Prop}
    (hbuttons : ∀ button, ¬ allow.buttons button)
    (hstep : ∀ layout layout' : Layout, Tidy allow layout → P layout → Step allow layout layout' →
      P layout')
    (hpop : ∀ (layout : Layout) (dispatch : Dispatch) (rest : List Dispatch), P layout →
      layout.outbox.queue = dispatch :: rest → dispatch.isReport = false →
      P { layout with outbox := ⟨rest⟩ })
    (hreport : ∀ (layout : Layout) (dispatch : Dispatch) (rest : List Dispatch), P layout →
      layout.outbox.queue = dispatch :: rest → dispatch.isReport = true →
      P ({ layout with outbox := ⟨rest⟩ }.route dispatch))
    (hdrop : ∀ layout : Layout, P layout → P
      { layout with outbox := {}, dropped := layout.dropped ++ layout.outbox.queue })
    (h : Tidy allow layout) (hlayout : P layout) :
    Tidy allow layout.settle ∧ P layout.settle ∧ layout.settle.outbox.queue = [] := by
  refine drain_induction (P := fun world => Tidy allow world ∧ P world)
    (Q := fun world => Tidy allow world ∧ P world ∧ world.outbox.queue = [])
    (fun world dispatch rest hworld hqueue _ => ?_) (fun world hworld hqueue => ?_)
    (fun world hworld => ?_) (fun world dispatch rest hworld hqueue hstray => ?_) _ layout
    ⟨h, hlayout⟩
  · obtain ⟨htidy, hp⟩ := hworld
    have hpopped := htidy.pop hqueue
    cases hkind : dispatch.isReport with
    | true =>
      obtain ⟨reports, hroute⟩ := route_report { world with outbox := ⟨rest⟩ } hkind
      refine ⟨?_, hreport world dispatch rest hp hqueue hkind⟩
      rw [hroute]
      exact ⟨hpopped.sound.congr rfl (fun _ => rfl) fun _ => rfl, hpopped.queue⟩
    | false =>
      have hwithin := (htidy.queue dispatch (by simp [hqueue])).within
      have hsteps := steps_route { world with outbox := ⟨rest⟩ } hkind hwithin
      generalize { world with outbox := ⟨rest⟩ }.route dispatch = routed at hsteps
      induction hsteps with
      | refl => exact ⟨hpopped, hpop world dispatch rest hp hqueue hkind⟩
      | tail _ step ih =>
        exact ⟨ih.1.step (fun button hb => (hbuttons button hb).elim) step,
          hstep _ _ ih.1 ih.2 step⟩
  · exact ⟨hworld.1, hworld.2, hqueue⟩
  · obtain ⟨htidy, hp⟩ := hworld
    exact ⟨⟨htidy.sound.congr rfl (fun _ => rfl) fun _ => rfl, by simp⟩, hdrop world hp, rfl⟩
  · rw [hworld.1.isStray hqueue] at hstray
    cases hstray

/-- **What holds once a tidy layout has been routed**, if reports are kept: what is kept by steps
that are allowed, and shared by layouts that are alike. -/
theorem settle_alike {P : Layout → Prop} (h : Tidy allow layout)
    (hreporting : layout.environment.config.reporting.isEnabled = true)
    (hrecording : layout.environment.isRecording = true)
    (hbuttons : ∀ button, ¬ allow.buttons button)
    (hstep : ∀ layout layout' : Layout, Tidy allow layout → P layout → Step allow layout layout' →
      P layout')
    (halike : ∀ layout layout' : Layout, Alike layout layout' → P layout → P layout')
    (hlayout : P layout) : P layout.settle ∧ layout.settle.environment = layout.environment := by
  refine (h.settle_induction (P := fun world => P world ∧ world.environment = layout.environment)
    hbuttons (fun world world' hworld hp step => ?_)
    (fun world dispatch rest hp hqueue hreport => ?_)
    (fun world dispatch rest hp hqueue hreport => ?_) (fun world hp => ?_) ⟨hlayout, rfl⟩).2.1
  all_goals obtain ⟨hp, henvironment⟩ := hp
  · have hadvance := advance_step hworld.sound (fun button hb => (hbuttons button hb).elim) step
    exact ⟨hstep world world' hworld hp step, hadvance.environment.trans henvironment⟩
  · refine ⟨halike world _ ⟨rfl, rfl, rfl, ?_⟩ hp, henvironment⟩
    rw [notices_pop hqueue hreport]
  · have hnotices := notices_route (henvironment ▸ hreporting) (henvironment ▸ hrecording) hqueue
      hreport
    obtain ⟨reports, hroute⟩ := route_report { world with outbox := ⟨rest⟩ } hreport
    rw [hroute] at hnotices ⊢
    exact ⟨halike world _ ⟨rfl, rfl, rfl, hnotices⟩ hp, henvironment⟩
  · refine ⟨halike world _ ⟨rfl, rfl, rfl, ?_⟩ hp, henvironment⟩
    rw [notices_drop]

end Tidy

end Advances

end Layout

end FormTree

import FormTree.Proofs.Layout.Calls
import FormTree.Proofs.Layout.Hearing
import FormTree.Proofs.Layout.Travel

set_option autoImplicit false

/-!
# Routing within the limit

Where the limit of a pass is not reached, all that waits in the outbox is routed in the order in
which it waits, and what is put into the outbox meanwhile comes behind it. So what a queue comes to
can be worked out piece by piece, from its front on.

## Main definitions

* `FormTree.Layout.SettlesTo` — all that waits is routed, and nothing is dropped.
* `FormTree.Layout.resultReport?` — the report that comes of the submission of a form.
* `FormTree.Layout.dismissalReports` — the report that comes of the effects of a button that
  dismiss the layout.

## Main results

* `FormTree.Layout.SettlesTo.results` — announcements and submissions of forms at the front.
* `FormTree.Layout.SettlesTo.turns`, `FormTree.Layout.SettlesTo.dismissals` — effects of a button
  at the front.
* `FormTree.Layout.SettlesTo.followUps` — submissions, and the effects of a button behind them.
-/

namespace FormTree

/-! ## Queues -/

/-- The dispatch is the submission of a form on its way up, which has come by no pager so far. -/
def Dispatch.IsResult (tree : Tree) : Dispatch → Prop
  | .bubble origin (.formResult _ _ context) =>
    (tree.form? origin).isSome ∧ context.pager = none
  | _ => False

/-- How an effect of a button turns pages. -/
def ClickBehavior.turn? : ClickBehavior → Option PagerIntent
  | .pagerNext => some .next
  | .pagerPrevious => some .previous
  | _ => none

/-- The effect dismisses the layout. -/
def ClickBehavior.isDismissal : ClickBehavior → Bool
  | .dismiss | .cancel => true
  | _ => false

namespace Layout

/-- All that waits in `layout` is routed, and nothing is dropped: then the layout is `final`. -/
def SettlesTo (layout final : Layout) : Prop :=
  ∃ limit, final = layout.drain limit ∧ final.dropped = layout.dropped

/-- The report that comes of the submission of a form, where pagers are as they are in `layout`. -/
def resultReport? (layout : Layout) : Dispatch → Option Report
  | .bubble origin (.formResult entry attributes context) =>
    some ⟨origin, .formResult entry attributes,
      { context with pager := layout.pagerContext origin }⟩
  | _ => none

/-- The report that comes of the given effects of the button `button`, which dismiss the layout:
only the first one counts, and only if the layout is not dismissed yet. -/
def dismissalReports (layout : Layout) (button : NodeId) (identifier : String)
    (effects : List ClickBehavior) : List Report :=
  if layout.dismissal.isSome then []
  else
    (effects.head?.map fun effect =>
      (⟨button, .dismiss (some identifier) (effect = .cancel),
        { form := layout.formContext button
          pager := layout.pagerContext button
          button := some ⟨identifier⟩ }⟩ : Report)).toList

variable {layout final : Layout} {dispatch : Dispatch} {front back rest : List Dispatch}
  {button : NodeId} {identifier : String} {effects : List ClickBehavior}

/-! ## From the front on -/

/-- Where nothing waits, the layout has settled. -/
theorem SettlesTo.eq (h : SettlesTo layout final) (hqueue : layout.outbox.queue = []) :
    final = layout := by
  obtain ⟨limit, rfl, -⟩ := h
  exact drain_of_queue layout hqueue limit

/-- **The oldest dispatch is routed first.** -/
theorem SettlesTo.route (h : SettlesTo layout final)
    (hqueue : layout.outbox.queue = dispatch :: rest) (hstray : layout.isStray dispatch = false)
    (hdropped : ({ layout with outbox := ⟨rest⟩ }.route dispatch).dropped = layout.dropped) :
    SettlesTo ({ layout with outbox := ⟨rest⟩ }.route dispatch) final := by
  obtain ⟨limit, rfl, hkept⟩ := h
  cases limit with
  | zero =>
    have hnone : layout.outbox.queue = [] := by
      rw [drain] at hkept
      exact List.self_eq_append_right.mp hkept.symm
    rw [hqueue] at hnone
    cases hnone
  | succ limit =>
    rw [drain_cons hqueue hstray] at hkept ⊢
    exact ⟨limit, rfl, hkept.trans hdropped.symm⟩

/-! ## Announcements and submissions of forms -/

theorem report_of_recording (hreporting : layout.environment.config.reporting.isEnabled = true)
    (hrecording : layout.environment.isRecording = true) (report : Report) :
    layout.report report = { layout with reports := layout.reports ++ [report] } :=
  if_pos ⟨hreporting, hrecording⟩

/-- Announcements are not reported. -/
theorem resultReport?_of_isAnnouncement {tree : Tree} (layout : Layout)
    (h : dispatch.IsAnnouncement tree) : layout.resultReport? dispatch = none := by
  unfold Dispatch.IsAnnouncement at h
  split at h
  · rfl
  · rfl
  · exact h.elim

/-- Announcements and submissions change nothing but what nodes know of what is around them, and
the reports. -/
theorem route_announcement_or_result (layout : Layout) (linked : layout.tree.Linked)
    (hreporting : layout.environment.config.reporting.isEnabled = true)
    (hrecording : layout.environment.isRecording = true)
    (h : dispatch.IsAnnouncement layout.tree ∨ dispatch.IsResult layout.tree) :
    layout.isStray dispatch = false ∧ ∃ states, layout.route dispatch = { layout with
      states, reports := layout.reports ++ (layout.resultReport? dispatch).toList } := by
  rcases h with hannouncement | hresult
  · refine ⟨isStray_eq_false.mpr hannouncement.isTidy.origin, ?_⟩
    have hupdate : ∀ origin event, event.isUpdate = true → dispatch = .trickle origin event →
        ∃ states, layout.route dispatch = { layout with states } := by
      rintro origin event hevent rfl
      obtain ⟨states, htrickle, -⟩ := trickle_update hevent layout origin
      exact ⟨states, htrickle⟩
    rw [resultReport?_of_isAnnouncement layout hannouncement, Option.toList_none, List.append_nil]
    unfold Dispatch.IsAnnouncement at hannouncement
    split at hannouncement
    · exact hupdate _ _ rfl rfl
    · exact hupdate _ _ rfl rfl
    · exact hannouncement.elim
  · unfold Dispatch.IsResult at hresult
    split at hresult
    · next origin entry attributes context =>
      obtain ⟨hform, hpager⟩ := hresult
      refine ⟨isStray_eq_false.mpr ?_, layout.states, ?_⟩
      · rintro _ ⟨⟩
        obtain ⟨node, hnode⟩ := Tree.exists_node (Tree.lt_size_of_form? hform)
        rw [hnode]
        rfl
      · rw [Layout.route, bubble_formResult linked origin entry attributes hpager,
          report_of_recording hreporting hrecording]
        rfl
    · exact hresult.elim

/-- **Announcements and submissions of forms at the front** of the queue: the submissions are
reported, in their order, with the positions that the pagers have now. -/
theorem SettlesTo.results (h : SettlesTo layout final) (linked : layout.tree.Linked)
    (hreporting : layout.environment.config.reporting.isEnabled = true)
    (hrecording : layout.environment.isRecording = true)
    (hqueue : layout.outbox.queue = front ++ back)
    (hfront : ∀ dispatch ∈ front,
      dispatch.IsAnnouncement layout.tree ∨ dispatch.IsResult layout.tree) :
    ∃ states, SettlesTo { layout with
      states, outbox := ⟨back⟩
      reports := layout.reports ++ front.filterMap layout.resultReport? } final := by
  induction front generalizing layout with
  | nil =>
    have hback : layout.outbox.queue = back := hqueue
    subst hback
    refine ⟨layout.states, ?_⟩
    rw [List.filterMap_nil, List.append_nil]
    exact h
  | cons dispatch front ih =>
    have hqueue' : layout.outbox.queue = dispatch :: (front ++ back) := hqueue
    obtain ⟨hstray, states, hroute⟩ :=
      route_announcement_or_result { layout with outbox := ⟨front ++ back⟩ } linked
        hreporting hrecording (hfront dispatch List.mem_cons_self)
    have hnext := h.route hqueue' hstray (by rw [hroute])
    rw [hroute] at hnext
    obtain ⟨states', hrest⟩ := ih hnext linked hreporting hrecording rfl fun other hmem =>
      hfront other (List.mem_cons_of_mem _ hmem)
    refine ⟨states', ?_⟩
    have hreports : (dispatch :: front).filterMap layout.resultReport? =
        (layout.resultReport? dispatch).toList ++ front.filterMap layout.resultReport? := by
      rw [List.filterMap_cons]
      cases layout.resultReport? dispatch <;> rfl
    rw [hreports, ← List.append_assoc]
    exact hrest

/-! ## Effects of a button -/

/-- What an event that turns pages comes to. -/
theorem Sound.bubble_turn (h : layout.Sound) (origin : NodeId) {event : Event}
    {intent : PagerIntent} (hturn : event.turn? = some intent) :
    (layout.bubble origin event).Sound ∧ (layout.bubble origin event).core = layout.core ∧
      (∃ more, (layout.bubble origin event).outbox.queue = layout.outbox.queue ++ more ∧
        ∀ dispatch ∈ more, dispatch.IsAnnouncement layout.tree) ∧
      ∀ pager, layout.tree.pagerAround origin = some pager →
        ((layout.bubble origin event).pager pager).value =
          (layout.pager pager).value.reduce intent := by
  rw [Layout.bubble_turn h.wf.linked origin hturn]
  cases haround : layout.tree.pagerAround origin with
  | none => exact ⟨h, rfl, ⟨[], by simp, by simp⟩, nofun⟩
  | some pager =>
    have hpager := (h.wf.linked.pagerAround_spec haround).2
    have hchange := h.pagerChange hpager (·.reduce intent)
    obtain ⟨announcements, hannouncements, hqueue⟩ := hchange.aftermath.outbox
    refine ⟨hchange.sound, hchange.aftermath.core, ⟨announcements, hqueue, hannouncements⟩, ?_⟩
    rintro _ ⟨⟩
    exact value_updatePager layout pager (·.reduce intent)

/-- The effect of a button at the front of the queue goes up from the button. -/
theorem SettlesTo.followUp (h : SettlesTo layout final)
    (hbutton : (layout.tree.node? button).isSome) {effect : ClickBehavior} {event : Event}
    (hevent : Event.ofClick? effect identifier = some event)
    (hqueue : layout.outbox.queue = followUps button identifier (effect :: effects) ++ back)
    (hdropped : ({ layout with
      outbox := ⟨followUps button identifier effects ++ back⟩ }.bubble button event).dropped =
        layout.dropped) :
    SettlesTo ({ layout with
      outbox := ⟨followUps button identifier effects ++ back⟩ }.bubble button event) final := by
  have hqueue' : layout.outbox.queue =
      .bubble button event :: (followUps button identifier effects ++ back) := by
    rw [hqueue, followUps, List.filterMap_cons_some (by rw [hevent]; rfl)]
    rfl
  have hstray : layout.isStray (.bubble button event) = false := by
    refine isStray_eq_false.mpr ?_
    rintro _ ⟨⟩
    exact hbutton
  exact h.route hqueue' hstray hdropped

/-- **Effects that turn pages at the front** of the queue: the nearest pager turns its pages, and
what is announced of that comes behind all else. -/
theorem SettlesTo.turns (h : SettlesTo layout final) (hsound : layout.Sound)
    (hbutton : (layout.tree.node? button).isSome)
    (hturns : ∀ effect ∈ effects, effect.turn?.isSome)
    (hqueue : layout.outbox.queue = followUps button identifier effects ++ back) :
    ∃ (layout' : Layout) (more : List Dispatch), SettlesTo layout' final ∧ layout'.Sound ∧
      layout'.core = layout.core ∧ layout'.outbox.queue = back ++ more ∧
      (∀ dispatch ∈ more, dispatch.IsAnnouncement layout.tree) ∧
      ∀ pager, layout.tree.pagerAround button = some pager → (layout'.pager pager).value =
        (effects.filterMap (·.turn?)).foldl PagerState.reduce (layout.pager pager).value := by
  induction effects generalizing layout back with
  | nil => exact ⟨layout, [], h, hsound, rfl, by rw [hqueue]; simp [followUps], by simp, by simp⟩
  | cons effect effects ih =>
    obtain ⟨intent, hintent⟩ := Option.isSome_iff_exists.mp (hturns effect List.mem_cons_self)
    obtain ⟨event, hevent, hturn⟩ : ∃ event, Event.ofClick? effect identifier = some event ∧
        event.turn? = some intent := by
      cases effect <;> cases hintent <;> exact ⟨_, rfl, rfl⟩
    have hpopped : Sound { layout with outbox := ⟨followUps button identifier effects ++ back⟩ } :=
      hsound.congr rfl (fun _ => rfl) fun _ => rfl
    obtain ⟨hsound', hcore, ⟨more, hmore, hannouncements⟩, hpagers⟩ :=
      hpopped.bubble_turn button hturn
    have hnext := h.followUp hbutton hevent hqueue (congrArg Layout.dropped hcore :)
    generalize { layout with outbox := ⟨followUps button identifier effects ++ back⟩ }.bubble
      button event = routed at *
    have htree : routed.tree = layout.tree := (congrArg Layout.tree hcore :)
    obtain ⟨layout', more', hfinal, hsound'', hcore', hqueue'', hmore', hpagers'⟩ :=
      ih hnext hsound' (by rwa [htree])
        (fun other hmem => hturns other (List.mem_cons_of_mem _ hmem))
        (by rw [hmore, List.append_assoc])
    refine ⟨layout', more ++ more', hfinal, hsound'', hcore'.trans hcore,
      by rw [hqueue'', List.append_assoc], fun dispatch hmem => ?_, fun pager haround => ?_⟩
    · rcases List.mem_append.mp hmem with hmem | hmem
      · exact hannouncements dispatch hmem
      · exact htree ▸ hmore' dispatch hmem
    · rw [hpagers' pager (htree ▸ haround), hpagers pager haround,
        List.filterMap_cons_some hintent, List.foldl_cons]
      rfl

/-- A layout that is dismissed reports no dismissal any more. -/
theorem dismissalReports_of_isSome (h : layout.dismissal.isSome = true) (button : NodeId)
    (identifier : String) (effects : List ClickBehavior) :
    layout.dismissalReports button identifier effects = [] := if_pos h

/-- What an event that dismisses the layout comes to, if reports are kept. -/
theorem bubble_dismiss_eq (linked : layout.tree.Linked)
    (hreporting : layout.environment.config.reporting.isEnabled = true)
    (hrecording : layout.environment.isRecording = true) (button : NodeId) (identifier : String)
    (effect : ClickBehavior) (effects : List ClickBehavior) :
    ∃ dismissal, dismissal.isSome = true ∧
      layout.bubble button (.dismiss (some identifier) (effect = .cancel)
        (({} : LayoutContext).withButton (some identifier))) = { layout with
          dismissal
          reports := layout.reports ++
            layout.dismissalReports button identifier (effect :: effects) } := by
  rw [bubble_dismiss linked button _ _ rfl rfl, atRoot]
  cases hdismissed : layout.dismissal.isSome with
  | true =>
    refine ⟨layout.dismissal, hdismissed, ?_⟩
    rw [dismissalReports_of_isSome hdismissed, List.append_nil]
    rfl
  | false =>
    refine ⟨some ⟨some identifier, effect = .cancel⟩, rfl, ?_⟩
    have hreport := @report_of_recording
      { layout with dismissal := some ⟨some identifier, effect = .cancel⟩ } hreporting hrecording
    rw [if_neg Bool.false_ne_true, hreport, dismissalReports, hdismissed]
    rfl

/-- **Effects that dismiss the layout at the front** of the queue: the first of them does so and is
reported, unless the layout is dismissed already. -/
theorem SettlesTo.dismissals (h : SettlesTo layout final) (linked : layout.tree.Linked)
    (hreporting : layout.environment.config.reporting.isEnabled = true)
    (hrecording : layout.environment.isRecording = true)
    (hbutton : (layout.tree.node? button).isSome)
    (heffects : ∀ effect ∈ effects, effect.isDismissal = true)
    (hqueue : layout.outbox.queue = followUps button identifier effects ++ back) :
    ∃ dismissal, SettlesTo { layout with
      outbox := ⟨back⟩, dismissal
      reports := layout.reports ++ layout.dismissalReports button identifier effects } final := by
  induction effects generalizing layout with
  | nil =>
    have hback : layout.outbox.queue = back := hqueue
    have hnone : layout.dismissalReports button identifier [] = [] := by
      simp [dismissalReports]
    subst hback
    refine ⟨layout.dismissal, ?_⟩
    rw [hnone, List.append_nil]
    exact h
  | cons effect effects ih =>
    obtain ⟨event, hevent⟩ : ∃ event, event = Event.dismiss (some identifier) (effect = .cancel)
        (({} : LayoutContext).withButton (some identifier)) := ⟨_, rfl⟩
    have hclick : Event.ofClick? effect identifier = some event := by
      have hdismisses := heffects effect List.mem_cons_self
      rw [hevent]
      cases effect <;> cases hdismisses <;> rfl
    have hlinked : ({ layout with
        outbox := ⟨followUps button identifier effects ++ back⟩ } : Layout).tree.Linked := linked
    obtain ⟨dismissal, hdismissed, hbubble⟩ :=
      bubble_dismiss_eq hlinked hreporting hrecording button identifier effect effects
    rw [← hevent] at hbubble
    change _ = { layout with
      outbox := ⟨followUps button identifier effects ++ back⟩, dismissal
      reports := layout.reports ++
        layout.dismissalReports button identifier (effect :: effects) } at hbubble
    generalize layout.reports ++ layout.dismissalReports button identifier (effect :: effects) =
      reports at hbubble ⊢
    have hnext := h.followUp hbutton hclick hqueue (by rw [hbubble])
    rw [hbubble] at hnext
    obtain ⟨dismissal', hfinal⟩ := ih hnext linked hreporting hrecording hbutton
      (fun other hmem => heffects other (List.mem_cons_of_mem _ hmem)) rfl
    rw [dismissalReports, if_pos hdismissed, List.append_nil] at hfinal
    exact ⟨dismissal', hfinal⟩

/-! ## Effects behind submissions -/

theorem followUps_append (button : NodeId) (identifier : String)
    (effects effects' : List ClickBehavior) : followUps button identifier (effects ++ effects') =
      followUps button identifier effects ++ followUps button identifier effects' :=
  List.filterMap_append

/-- **Submissions of forms, and the effects of a button behind them**: the submissions are reported
first, with the positions of the pagers before the pages are turned, and then the dismissal, with
the positions after that. -/
theorem SettlesTo.followUps {turns dismissals : List ClickBehavior} (h : SettlesTo layout final)
    (hsound : layout.Sound) (hreporting : layout.environment.config.reporting.isEnabled = true)
    (hrecording : layout.environment.isRecording = true)
    (hbutton : (layout.tree.node? button).isSome)
    (hturns : ∀ effect ∈ turns, effect.turn?.isSome)
    (hdismissals : ∀ effect ∈ dismissals, effect.isDismissal = true)
    (hqueue : layout.outbox.queue =
      front ++ Layout.followUps button identifier (turns ++ dismissals))
    (hfront : ∀ dispatch ∈ front,
      dispatch.IsAnnouncement layout.tree ∨ dispatch.IsResult layout.tree) :
    final.tree = layout.tree ∧
      final.reports = layout.reports ++ front.filterMap layout.resultReport? ++
        { final with dismissal := layout.dismissal }.dismissalReports button identifier
          dismissals ∧
      ∀ pager, layout.tree.pagerAround button = some pager → (final.pager pager).value =
        (turns.filterMap (·.turn?)).foldl PagerState.reduce (layout.pager pager).value := by
  -- what stands in front is routed, and then the pages are turned
  obtain ⟨states, hrouted⟩ := h.results hsound.wf.linked hreporting hrecording hqueue hfront
  obtain ⟨turned, announcements, hturned, hsound', hcore, hqueue', hannouncements, hpagers⟩ :=
    hrouted.turns (hsound.congr rfl (fun _ => rfl) fun _ => rfl) hbutton hturns
      (followUps_append _ _ _ _)
  have htree : turned.tree = layout.tree := (congrArg Layout.tree hcore :)
  have henvironment : turned.environment = layout.environment :=
    (congrArg Layout.environment hcore :)
  have hdismissal : turned.dismissal = layout.dismissal := (congrArg Layout.dismissal hcore :)
  have hreports : turned.reports = layout.reports ++ front.filterMap layout.resultReport? :=
    (congrArg Layout.reports hcore :)
  -- the layout is dismissed, and what was announced of the pages stands behind that
  rw [← henvironment] at hreporting hrecording
  obtain ⟨dismissal, hdismissed⟩ := hturned.dismissals hsound'.wf.linked hreporting hrecording
    (by rwa [htree]) hdismissals hqueue'
  obtain ⟨states', hsettled⟩ := hdismissed.results hsound'.wf.linked hreporting hrecording
    (List.append_nil announcements).symm fun dispatch hmem =>
      .inl (htree ▸ hannouncements dispatch hmem)
  have hfinal := hsettled.eq rfl
  have hnone : announcements.filterMap turned.resultReport? = [] :=
    List.filterMap_eq_nil_iff.mpr fun dispatch hmem =>
      resultReport?_of_isAnnouncement turned (hannouncements dispatch hmem)
  have hlast : turned.dismissalReports button identifier dismissals =
      { final with dismissal := layout.dismissal }.dismissalReports button identifier
        dismissals := by
    rw [← hdismissal, hfinal]
    rfl
  refine ⟨by rw [hfinal]; exact htree, ?_, fun pager haround => ?_⟩
  · calc final.reports
        = turned.reports ++ turned.dismissalReports button identifier dismissals ++
            announcements.filterMap turned.resultReport? := by rw [hfinal]; rfl
      _ = _ := by rw [hnone, List.append_nil, hreports, hlast]
  · have hpager := hpagers pager haround
    rw [hfinal]
    exact hpager

end Layout

end FormTree

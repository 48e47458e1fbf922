import FormTree.Proofs.Layout.Calls
import FormTree.Proofs.Layout.Hearing
import FormTree.Proofs.Layout.Steady
import FormTree.Proofs.Layout.Travel

set_option autoImplicit false

/-!
# Strays

Routing breaks off at a dispatch that names no node of the layout as its origin. All that nodes put
into the outbox comes from nodes, and an event from outside is raised at a node only. But the event
may carry the number of a button in whose name submission is asked for, and the follow-ups of the
submission come from that button, whether or not it is a node.

## Main definitions

* `FormTree.Tree.allowance` — what events may bring about in a tree.
* `FormTree.Layout.LeadsAstray` — what breaks routing off.

## Main results

* `FormTree.Layout.strays_route` — routing a dispatch leaves no stray.
* `FormTree.Layout.drain_front` — what comes of a stray that waits behind other dispatches.
* `FormTree.Layout.Tidy.act` — all else that may happen leaves no stray, and nothing in the outbox
  that could become one.
* `FormTree.Layout.strays_eq_nil_iff` — when routing breaks off, whatever happens to a layout.
* `FormTree.Layout.astray_after_submission` — an event from outside that breaks routing off.
-/

namespace FormTree

/-- What events may bring about in a tree: anything but the follow-ups of buttons that are no
nodes. -/
def Tree.allowance (tree : Tree) : Allowance :=
  ⟨True, True, True, fun button => (tree.node? button).isSome⟩

/-- An event that names no other buttons keeps to the tree. -/
theorem Event.isWithin_allowance {tree : Tree} {event : Event}
    (h : ∀ button, event.button? = some button → (tree.node? button).isSome) :
    event.IsWithin tree.allowance :=
  ⟨event.isWithin_all.takes, fun _ => trivial, h⟩

namespace Layout

variable {allow : Allowance} {layout layout' : Layout} {oldest : Dispatch} {rest : List Dispatch}

/-! ## What leaves no stray -/

theorem strays_updateForm (depth : Nat) (id : NodeId) (intent : FormIntent) (layout : Layout) :
    (updateForm depth id intent layout).strays = layout.strays :=
  (congrArg Layout.strays (frame_updateForm depth id intent layout) :)

theorem strays_updatePager (layout : Layout) (id : NodeId) (change : PagerState → PagerState) :
    (layout.updatePager id change).strays = layout.strays :=
  (congrArg Layout.strays (frame_updatePager layout id change) :)

theorem strays_steps (steps : Steps allow layout layout') : layout'.strays = layout.strays :=
  (congrArg strays (ground_steps steps) :)

/-- **Routing a dispatch leaves no stray.** -/
theorem strays_route (layout : Layout) (dispatch : Dispatch) :
    (layout.route dispatch).strays = layout.strays :=
  (congrArg strays (ground_route layout dispatch) :)

theorem strays_bubble (layout : Layout) (origin : NodeId) (event : Event) :
    (layout.bubble origin event).strays = layout.strays :=
  strays_route layout (.bubble origin event)

/-! ## One dispatch after the other -/

/-- Strays stay noted. -/
theorem strays_settle (layout : Layout) : layout.strays <+: layout.settle.strays := by
  refine drain_induction (P := fun world => layout.strays <+: world.strays)
    (Q := fun world => layout.strays <+: world.strays) (fun world dispatch rest h _ _ => ?_)
    (fun world h _ => h) (fun world h => h) (fun world dispatch rest h _ _ => ?_) _ layout
    List.prefix_rfl
  · rw [strays_route]
    exact h
  · exact h.trans (List.prefix_append _ _)

/-- Where a dispatch is routed that names no button but those of the tree, only dispatches that ask
for nothing are put into the outbox, and nothing is dropped. -/
theorem Sound.route (h : layout.Sound) {dispatch : Dispatch}
    (hwithin : dispatch.event.IsWithin layout.tree.allowance) :
    (layout.route dispatch).Sound ∧ (layout.route dispatch).tree = layout.tree ∧
      (layout.route dispatch).dropped = layout.dropped ∧
      ∃ more, (layout.route dispatch).outbox.queue = layout.outbox.queue ++ more ∧
        ∀ other ∈ more, other.IsTidy layout.tree .none := by
  cases hreport : dispatch.isReport with
  | true =>
    obtain ⟨reports, hroute⟩ := route_report layout hreport
    rw [hroute]
    exact ⟨h.congr rfl (fun _ => rfl) fun _ => rfl, rfl, rfl, [], by simp⟩
  | false =>
    have hsteps := steps_route layout hreport hwithin
    have hadvance := advance_steps h (fun _ hbutton => hbutton) hsteps
    exact ⟨(keeps_steps hsteps h).1, hadvance.tree, hadvance.dropped, hadvance.queue⟩

/-- **A stray behind other dispatches** breaks routing off when these have been routed, unless the
limit is reached before that; then it is dropped.

**Proof sketch.** By induction on what waits in front: what is put into the outbox while it is
routed comes behind the stray. -/
theorem drain_front {stray : Dispatch} : ∀ (front back : List Dispatch) (limit : Nat)
    {layout : Layout}, layout.Sound → layout.outbox.queue = front ++ stray :: back →
    (∀ other ∈ front, other.IsTidy layout.tree .none) → layout.isStray stray = true →
    if front.length < limit then (layout.drain limit).strays = layout.strays ++ [stray]
    else Tidy .none (layout.drain limit) ∧ (layout.drain limit).strays = layout.strays
  | front, back, 0, layout, h, _, _, _ => by
    rw [if_neg (Nat.not_lt_zero _)]
    exact ⟨⟨h.congr rfl (fun _ => rfl) fun _ => rfl, by simp [drain]⟩, rfl⟩
  | [], back, limit + 1, layout, _, hqueue, _, hstray => by
    have hlt : ([] : List Dispatch).length < limit + 1 := Nat.succ_pos limit
    rw [if_pos hlt, drain_stray hqueue hstray]
  | first :: front, back, limit + 1, layout, h, hqueue, hfront, hstray => by
    have hfirst := hfront first List.mem_cons_self
    have hpopped : ({ layout with outbox := ⟨front ++ stray :: back⟩ } : Layout).Sound :=
      h.congr rfl (fun _ => rfl) fun _ => rfl
    rw [drain_cons hqueue (isStray_eq_false.mpr hfirst.origin)]
    obtain ⟨hsound, htree, -, more, hmore, -⟩ := hpopped.route (hfirst.within.mono _)
    have hstrays := strays_route { layout with outbox := ⟨front ++ stray :: back⟩ } first
    generalize { layout with outbox := ⟨front ++ stray :: back⟩ }.route first = routed
      at hsound htree hmore hstrays ⊢
    have hstray' : routed.isStray stray = true := by
      rw [← hstray]
      cases stray <;> simp only [Layout.isStray, htree]
    have hfront' : ∀ other ∈ front, other.IsTidy routed.tree .none := fun other hother => by
      rw [htree]
      exact hfront other (List.mem_cons_of_mem _ hother)
    have hnext := drain_front front (back ++ more) limit hsound (by simp [hmore]) hfront' hstray'
    rw [hstrays] at hnext
    simpa using hnext

/-! ## What leads astray -/

/-- Submission is asked for from outside in the name of a button that is no node, and the first of
the effects that are to follow comes up before the limit of the pass is reached. -/
def LeadsAstray (layout : Layout) (action : Action) : Prop :=
  ∃ origin button identifier effects,
    action = .call (.dispatch origin (.buttonSubmit button identifier effects) .bubble) ∧
    (layout.tree.node? origin).isSome ∧ layout.tree.node? button = none ∧
    followUps button identifier effects ≠ [] ∧
    (layout.broadcast (.layoutSubmit (some identifier))).outbox.size <
      layout.environment.config.bus.maxDispatchesPerPass

namespace Tidy

/-- What keeps to the tree keeps the layout tidy. -/
theorem steps (h : Tidy .none layout) (steps : Steps layout.tree.allowance layout layout') :
    Tidy .none layout' :=
  h.advance (keeps_steps steps h.sound).1 (advance_steps h.sound (fun _ hb => hb) steps)

theorem bubble (h : Tidy .none layout) (origin : NodeId) {event : Event}
    (hbutton : ∀ button, event.button? = some button → (layout.tree.node? button).isSome) :
    Tidy .none (layout.bubble origin event) := by
  cases hreport : event.isReport with
  | true =>
    have hdispatch : (Dispatch.bubble origin event).isReport = true := hreport
    obtain ⟨reports, hroute⟩ := route_report layout hdispatch
    change Tidy .none (layout.route (.bubble origin event))
    rw [hroute]
    exact ⟨h.sound.congr rfl (fun _ => rfl) fun _ => rfl, h.queue⟩
  | false => exact h.steps (steps_bubble layout origin hreport (Event.isWithin_allowance hbutton))

/-- **Routing what waits in a tidy layout leaves no stray.** -/
theorem settle (h : Tidy allow layout) (hbuttons : ∀ button, ¬ allow.buttons button) :
    Tidy allow layout.settle ∧ layout.settle.strays = layout.strays := by
  obtain ⟨htidy, hstrays, -⟩ := h.settle_induction
    (P := fun world => world.strays = layout.strays) hbuttons
    (fun _ _ _ hworld step => (strays_steps (.single step)).trans hworld)
    (fun _ _ _ hworld _ _ => hworld)
    (fun _ _ _ hworld _ _ => (strays_route _ _).trans hworld) (fun _ hworld => hworld) rfl
  exact ⟨htidy, hstrays⟩

/-- What nodes do that keeps to the tree, and what follows, leaves no stray. -/
theorem settle_steps (h : Tidy .none layout)
    (steps : Steps layout.tree.allowance layout layout') :
    Tidy .none layout'.settle ∧ layout'.settle.strays = layout.strays := by
  obtain ⟨htidy, hstrays⟩ := (h.steps steps).settle fun _ hb => hb
  exact ⟨htidy, hstrays.trans (strays_steps steps)⟩

/-- An event that names no other buttons than those of the tree is raised and routed. -/
theorem settle_bubble (h : Tidy .none layout) (origin : NodeId) {event : Event}
    (hbutton : ∀ button, event.button? = some button → (layout.tree.node? button).isSome) :
    Tidy .none (layout.bubble origin event).settle ∧
      (layout.bubble origin event).settle.strays = layout.strays := by
  obtain ⟨htidy, hstrays⟩ := (h.bubble origin hbutton).settle fun _ hb => hb
  exact ⟨htidy, hstrays.trans (strays_bubble layout origin event)⟩

/-- **Submission in the name of a button that is no node**: routing breaks off at the first of the
effects that follow, if there is one and it comes up before the limit is reached. -/
theorem settle_submission (h : Tidy .none layout) (origin : NodeId) {button : NodeId}
    (hgone : layout.tree.node? button = none) (identifier : String)
    (effects : List ClickBehavior) :
    let settled := (layout.bubble origin (.buttonSubmit button identifier effects)).settle
    if followUps button identifier effects ≠ [] ∧
        (layout.broadcast (.layoutSubmit (some identifier))).outbox.size <
          layout.environment.config.bus.maxDispatchesPerPass then
      settled.strays = layout.strays ++ (followUps button identifier effects).take 1
    else Tidy .none settled ∧ settled.strays = layout.strays := by
  intro settled
  have hsteps : Steps layout.tree.allowance layout
      (layout.broadcast (.layoutSubmit (some identifier))) :=
    steps_broadcast layout fun _ => trivial
  have htold := h.steps hsteps
  have hadvance := advance_steps h.sound (fun _ hb => hb) hsteps
  have hstrays := strays_steps hsteps
  have hsettled : settled = ((layout.broadcast (.layoutSubmit (some identifier))).pushAll
      (followUps button identifier effects)).settle := by
    rw [← bubble_buttonSubmit layout origin]
  generalize layout.broadcast (.layoutSubmit (some identifier)) = told
    at htold hadvance hstrays hsettled ⊢
  rw [hsettled, ← hstrays, ← hadvance.environment]
  cases hfollow : followUps button identifier effects with
  | nil =>
    rw [if_neg (by simp)]
    exact htold.settle fun _ hb => hb
  | cons first others =>
    have hstray : told.isStray first = true := by
      have hmem : first ∈ followUps button identifier effects := hfollow ▸ List.mem_cons_self
      obtain ⟨effect, -, heffect⟩ := List.mem_filterMap.mp hmem
      obtain ⟨event, -, rfl⟩ := Option.map_eq_some_iff.mp heffect
      simp [Layout.isStray, hadvance.tree, hgone]
    have hpushed : ({ told with
        outbox := ⟨told.outbox.queue ++ first :: others⟩ } : Layout).Sound :=
      htold.sound.congr rfl (fun _ => rfl) fun _ => rfl
    have hdrain := drain_front told.outbox.queue others
      told.environment.config.bus.maxDispatchesPerPass hpushed rfl htold.queue hstray
    rw [pushAll_eq]
    simp only [ne_eq, reduceCtorEq, not_false_eq_true, true_and, List.take_succ_cons,
      List.take_zero]
    exact hdrain

/-- What waits goes on waiting when views and answers are noted. -/
theorem of_same (h : Tidy .none layout) (htree : layout'.tree = layout.tree)
    (hforms : ∀ id, layout'.form id = layout.form id)
    (hpagers : ∀ id, layout'.pager id = layout.pager id)
    (houtbox : layout'.outbox = layout.outbox) : Tidy .none layout' :=
  ⟨h.sound.congr htree hforms hpagers, by rw [houtbox, htree]; exact h.queue⟩

/-- A view that goes on or off screen leaves no stray. -/
theorem setDisplayed (h : Tidy .none layout) {id : NodeId} {isDisplayed : Bool}
    (hcall : layout.setDisplayed id isDisplayed = .ok layout') :
    Tidy .none layout' ∧ layout'.strays = layout.strays := by
  obtain ⟨view, -, rfl⟩ := setDisplayed_eq_ok.mp hcall
  split
  · exact h.settle_bubble id nofun
  · exact ⟨h, rfl⟩

/-- A tap leaves no stray. -/
theorem click (h : Tidy .none layout) {id : NodeId} (hcall : layout.click id = .ok layout') :
    Tidy .none layout' ∧ layout'.strays = layout.strays := by
  obtain ⟨spec, hview, rfl⟩ := click_eq_ok.mp hcall
  have hbutton : (layout.tree.node? id).isSome := by
    obtain ⟨node, hnode, -⟩ := Option.map_eq_some_iff.mp hview
    rw [hnode]
    rfl
  split
  · exact ⟨h, rfl⟩
  · split
    · refine h.settle_bubble id ?_
      rintro _ ⟨⟩
      exact hbutton
    · exact h.settle_steps (steps_followUps layout hbutton _ _)

/-- **An event from outside leaves no stray**, unless it leads astray. -/
theorem dispatch (h : Tidy .none layout) {origin : NodeId} {event : Event} {direction : Direction}
    (hnot : ¬ layout.LeadsAstray (.call (.dispatch origin event direction)))
    (hcall : layout.dispatch origin event direction = .ok layout') :
    Tidy .none layout' ∧ layout'.strays = layout.strays := by
  obtain ⟨node, hnode, rfl⟩ := dispatch_eq_ok.mp hcall
  cases direction with
  | trickle => exact h.settle_steps (steps_trickle layout origin fun _ => trivial)
  | bubble =>
    by_cases hgone : ∃ button, event.button? = some button ∧ layout.tree.node? button = none
    · obtain ⟨button, hbutton, hgone⟩ := hgone
      cases event with
      | buttonSubmit named identifier effects =>
        obtain rfl : named = button := Option.some.inj hbutton
        have hsettled := h.settle_submission origin hgone identifier effects
        rwa [if_neg] at hsettled
        rintro ⟨hfollow, hlimit⟩
        exact hnot ⟨origin, named, identifier, effects, rfl, by rw [hnode]; rfl, hgone, hfollow,
          hlimit⟩
      | _ => cases hbutton
    · refine h.settle_bubble origin fun button hbutton => ?_
      by_contra hnone
      exact hgone ⟨button, hbutton, by simpa using hnone⟩

/-- A call leaves no stray, unless it leads astray. -/
theorem perform (h : Tidy .none layout) {call : Call} (hnot : ¬ layout.LeadsAstray (.call call))
    (hcall : layout.perform call = .ok layout') :
    Tidy .none layout' ∧ layout'.strays = layout.strays := by
  have hmodify : ∀ id change, Tidy .none (layout.modifyState id change) := fun _ _ =>
    h.of_same rfl (fun _ => rfl) (fun _ => rfl) rfl
  cases call with
  | attach id => exact (hmodify id _).setDisplayed (setAttached_eq_ok.mp hcall)
  | detach id => exact (hmodify id _).setDisplayed (setAttached_eq_ok.mp hcall)
  | setDisplayed id isDisplayed => exact h.setDisplayed hcall
  | setAnswer id answer =>
    obtain ⟨spec, -, -, rfl⟩ := setAnswer_eq_ok.mp hcall
    have hanswered : Tidy .none { layout with answers := layout.answers.set id answer } :=
      h.of_same rfl (fun _ => rfl) (fun _ => rfl) rfl
    exact hanswered.settle_bubble id nofun
  | withdraw id =>
    obtain ⟨spec, -, rfl⟩ := withdraw_eq_ok.mp hcall
    exact (hmodify id _).settle_bubble id nofun
  | click id => exact h.click hcall
  | scrollTo id position =>
    obtain ⟨spec, hspec, rfl⟩ := scrollTo_eq_ok.mp hcall
    exact h.settle_steps (.single (.page (isPager_of_pagerSpec (pagerSpec_eq_ok.mpr hspec))))
  | dispatch origin event direction => exact h.dispatch hnot hcall

/-- **Whatever happens to a layout leaves no stray, unless it leads astray.** -/
theorem act (h : Tidy .none layout) {action : Action} (hnot : ¬ layout.LeadsAstray action) :
    Tidy .none (layout.act action) ∧ (layout.act action).strays = layout.strays := by
  cases action with
  | call call =>
    change Tidy .none (layout.after call) ∧ (layout.after call).strays = layout.strays
    unfold after
    split
    · next hcall => exact h.perform hnot hcall
    · exact ⟨h, rfl⟩
  | changeForm id intent =>
    unfold Layout.act
    dsimp only
    split
    · next hspec =>
      have hsome := isSome_form?_of_formSpec hspec
      exact ⟨h.advance (h.sound.changeForm hsome intent) (h.sound.advance_changeForm hsome intent),
        strays_updateForm _ _ _ _⟩
    · exact ⟨h, rfl⟩
  | updatePager id change =>
    unfold Layout.act
    dsimp only
    split
    · next hspec =>
      have hchange := h.sound.pagerChange (isPager_of_pagerSpec hspec) change
      obtain ⟨announcements, hannouncements, hqueue⟩ := hchange.aftermath.outbox
      exact ⟨h.advance hchange.sound (.of_core hchange.aftermath.core hqueue fun dispatch hd =>
        (hannouncements dispatch hd).isTidy), strays_updatePager layout id change⟩
    · exact ⟨h, rfl⟩

end Tidy

/-- What leads astray, does. -/
theorem Tidy.strays_act_of_leadsAstray (h : Tidy .none layout) {action : Action}
    (hastray : layout.LeadsAstray action) : (layout.act action).strays ≠ [] := by
  obtain ⟨origin, button, identifier, effects, rfl, horigin, hgone, hfollow, hlimit⟩ := hastray
  obtain ⟨node, hnode⟩ := Option.isSome_iff_exists.mp horigin
  have hsettled := h.settle_submission origin hgone identifier effects
  have hcall : layout.dispatch origin (.buttonSubmit button identifier effects) .bubble =
      .ok (layout.bubble origin (.buttonSubmit button identifier effects)).settle :=
    dispatch_eq_ok.mpr ⟨node, hnode, rfl⟩
  have hafter : layout.act (.call (.dispatch origin (.buttonSubmit button identifier effects)
      .bubble)) = (layout.bubble origin (.buttonSubmit button identifier effects)).settle := by
    change layout.after _ = _
    rw [after, Layout.perform, hcall]
  rw [if_pos ⟨hfollow, hlimit⟩] at hsettled
  rw [hafter, hsettled]
  cases hfirst : followUps button identifier effects with
  | nil => exact absurd hfirst hfollow
  | cons first others => simp

theorem strays_settle_bubble (layout : Layout) (origin : NodeId) (event : Event) :
    layout.strays <+: (layout.bubble origin event).settle.strays :=
  strays_bubble layout origin event ▸ strays_settle _

theorem strays_settle_steps (steps : Steps allow layout layout') :
    layout.strays <+: layout'.settle.strays :=
  strays_steps steps ▸ strays_settle layout'

theorem strays_setDisplayed (layout : Layout) {id : NodeId} {isDisplayed : Bool}
    (h : layout.setDisplayed id isDisplayed = .ok layout') :
    layout.strays <+: layout'.strays := by
  obtain ⟨view, -, rfl⟩ := setDisplayed_eq_ok.mp h
  split
  · exact strays_settle_bubble layout id _
  · exact List.prefix_rfl

/-- Strays stay noted through any call. -/
theorem strays_perform {call : Call} (h : layout.perform call = .ok layout') :
    layout.strays <+: layout'.strays := by
  cases call with
  | attach id =>
    exact strays_setDisplayed (layout.modifyState id ({ · with isAttached := true }))
      (setAttached_eq_ok.mp h)
  | detach id =>
    exact strays_setDisplayed (layout.modifyState id ({ · with isAttached := false }))
      (setAttached_eq_ok.mp h)
  | setDisplayed id isDisplayed => exact strays_setDisplayed layout h
  | setAnswer id answer =>
    obtain ⟨spec, -, -, rfl⟩ := setAnswer_eq_ok.mp h
    exact strays_settle_bubble { layout with answers := layout.answers.set id answer } id _
  | withdraw id =>
    obtain ⟨spec, -, rfl⟩ := withdraw_eq_ok.mp h
    exact strays_settle_bubble (layout.modifyState id ({ · with isAttached := false })) id _
  | click id =>
    obtain ⟨spec, -, rfl⟩ := click_eq_ok.mp h
    split
    · exact List.prefix_rfl
    · split
      · exact strays_settle_bubble layout id _
      · have hsteps : Steps .all layout (layout.pushAll (followUps id spec.id spec.effects)) :=
          steps_followUps layout trivial _ _
        exact strays_settle_steps hsteps
  | scrollTo id position =>
    obtain ⟨spec, -, rfl⟩ := scrollTo_eq_ok.mp h
    exact strays_updatePager layout id (·.reduce (.scroll position)) ▸ strays_settle _
  | dispatch origin event direction =>
    obtain ⟨node, -, rfl⟩ := dispatch_eq_ok.mp h
    cases direction with
    | bubble => exact strays_settle_bubble layout origin event
    | trickle =>
      exact strays_settle_steps (steps_trickle layout origin event.isWithin_all.submits)

/-- Strays stay noted, whatever happens. -/
theorem strays_act (layout : Layout) (action : Action) :
    layout.strays <+: (layout.act action).strays := by
  cases action with
  | call call =>
    change layout.strays <+: (layout.after call).strays
    unfold after
    split
    · next hcall => exact strays_perform hcall
    · exact List.prefix_rfl
  | changeForm id intent =>
    unfold Layout.act
    dsimp only
    split
    · exact strays_updateForm layout.depth id intent layout ▸ List.prefix_rfl
    · exact List.prefix_rfl
  | updatePager id change =>
    unfold Layout.act
    dsimp only
    split
    · exact strays_updatePager layout id change ▸ List.prefix_rfl
    · exact List.prefix_rfl

theorem strays_acts (actions : List Action) :
    ∀ layout : Layout, layout.strays <+: (layout.acts actions).strays := by
  induction actions with
  | nil => exact fun _ => List.prefix_rfl
  | cons action actions ih => exact fun layout => (strays_act layout action).trans (ih _)

/-! ## Runs -/

/-- **Routing breaks off if and only if something leads astray**, from a tidy layout on.

**Proof sketch.** By induction on what happens. Something that does not lead astray leaves the
layout tidy; and a stray stays noted. -/
theorem Tidy.acts (actions : List Action) : ∀ {layout : Layout}, Tidy .none layout →
    layout.strays = [] →
    ((layout.acts actions).strays = [] ↔ ∀ before action after,
      actions = before ++ action :: after → ¬ (layout.acts before).LeadsAstray action) ∧
    ((layout.acts actions).strays = [] → Tidy .none (layout.acts actions)) := by
  induction actions with
  | nil =>
    intro layout h hnone
    refine ⟨⟨fun _ before action after heq => ?_, fun _ => hnone⟩, fun _ => h⟩
    simp at heq
  | cons first rest ih =>
    intro layout h hnone
    by_cases hastray : layout.LeadsAstray first
    · have hsome : (layout.acts (first :: rest)).strays ≠ [] := fun hnil =>
        h.strays_act_of_leadsAstray hastray
          (List.prefix_nil.mp (hnil ▸ strays_acts rest (layout.act first)))
      exact ⟨iff_of_false hsome fun hall => hall [] first rest rfl hastray,
        fun hnil => absurd hnil hsome⟩
    · obtain ⟨htidy, hstrays⟩ := h.act hastray
      obtain ⟨hrest, htidy'⟩ := ih htidy (hstrays.trans hnone)
      refine ⟨hrest.trans ⟨fun hall before action after heq => ?_,
        fun hall before action after heq => ?_⟩, htidy'⟩
      · cases before with
        | nil =>
          obtain ⟨rfl, -⟩ := List.cons_eq_cons.mp heq
          exact hastray
        | cons other before =>
          obtain ⟨rfl, htail⟩ := List.cons_eq_cons.mp heq
          exact hall before action after htail
      · exact hall (first :: before) action after (congrArg (first :: ·) heq)

/-- Activation leaves no stray. -/
theorem strays_of_activate {environment : Environment} {spec : Spec}
    (h : activate environment spec = .ok layout) : layout.strays = [] := by
  obtain ⟨hviolation, rfl⟩ := activate_eq_ok.mp h
  have wf := Tree.wellFormed_of_violation? (Tree.linked_ofSpec spec) hviolation
  have hbuild := assembled_build environment wf
  have hstrays : (build environment (Tree.ofSpec spec)).strays = [] :=
    (congrArg Layout.strays hbuild.core :)
  exact ((hbuild.tidy wf).settle fun _ hb => hb).2.trans hstrays

/-- **When routing breaks off.** Whatever happens to an active layout — calls, events of any kind
raised at its nodes, and changes of its forms and pagers through their handles —

* routing never comes to a dispatch whose origin is no node, if and only if nothing of it leads
  astray: no event that asks for submission in the name of a button that is no node, with effects
  that are to follow, the first of which comes up before the limit of the pass is reached;
* and if it never does, all that waits in the outbox names nodes of the layout as its origin.

Other numbers of nodes that an event carries do no harm, whether or not there are such nodes.

**Proof sketch.** All that nodes put into the outbox comes from nodes, and so does what follows a
submission in the name of a button that is one. Otherwise what follows waits behind all that the
submission brings about; this is routed first, unless the limit is reached before. -/
theorem strays_eq_nil_iff {environment : Environment} {spec : Spec}
    (h : activate environment spec = .ok layout) (actions : List Action) :
    ((layout.acts actions).strays = [] ↔ ∀ before action after,
      actions = before ++ action :: after → ¬ (layout.acts before).LeadsAstray action) ∧
    ((layout.acts actions).strays = [] →
      ∀ dispatch ∈ (layout.acts actions).outbox.queue, ∀ origin,
        dispatch.origin? = some origin → ((layout.acts actions).tree.node? origin).isSome) := by
  obtain ⟨hstrays, htidy⟩ :=
    ((idle_of_activate h).tidy .none).acts actions (strays_of_activate h)
  exact ⟨hstrays, fun hnil dispatch hd => ((htidy hnil).queue dispatch hd).origin⟩

/-- A form with a button that closes it. -/
def leaflet : Spec :=
  ⟨.form { id := "leaflet" }, [], [
    ⟨.button { id := "close", behaviors := [.formSubmit, .dismiss] }, [], []⟩]⟩

/-- Flags of a form that is missing are announced, and submission is asked for in the name of a
button that is there. -/
theorem strays_eq_nil_iff_leaflet :
    ∃ layout : Layout, activate {} leaflet = .ok layout ∧
      (layout.acts [.call (.dispatch 0 (.validationUpdate 9 ⟨true, true, false⟩) .trickle),
        .call (.dispatch 0 (.buttonSubmit 1 "close" [.dismiss]) .bubble)]).strays = [] := by
  refine ⟨_, activate_eq_ok.mpr ⟨by decide, rfl⟩, ?_⟩
  refine (strays_eq_nil_iff (activate_eq_ok.mpr ⟨by decide, rfl⟩) _).1.mpr
    fun before action after heq => ?_
  rintro ⟨origin, button, identifier, effects, rfl, -, hgone, -⟩
  rcases before with _ | ⟨first, _ | ⟨second, before⟩⟩
  · cases heq
  · cases heq
    exact absurd hgone (by decide +kernel)
  · simp at heq

/-- **An event from outside that breaks routing off**: submission is asked for in the name of a
button that is missing, and the dismissal that is to follow would come from there. -/
theorem astray_after_submission :
    ∃ layout : Layout, activate {} leaflet = .ok layout ∧ (layout.tree.node? 1).isSome ∧
      layout.tree.node? 9 = none ∧
      ((layout.run [.dispatch 1 (.buttonSubmit 9 "close" [.dismiss]) .bubble]).strays.map
        (·.origin?)) = [some 9] := by
  refine ⟨_, activate_eq_ok.mpr ⟨by decide, rfl⟩, by decide +kernel, by decide +kernel, ?_⟩
  decide +kernel

end Layout

end FormTree

import FormTree.Proofs.Layout.Perform
import FormTree.Proofs.Layout.Steps

set_option autoImplicit false

/-!
# What calls do to forms and pagers

Whatever is asked of a layout, its forms and pagers change in the steps of routing, and otherwise
only by the changes of pagers through their handles. What else happens — reports are written, the
outbox is emptied, views and answers are noted — leaves them alone. So what is to hold of forms and
pagers after any calls has to be shown for these moves only.

## Main definitions

* `FormTree.Layout.Move`, `FormTree.Layout.Moves` — one move, and any number of them.

## Main results

* `FormTree.Layout.moves_route`, `FormTree.Layout.moves_settle` — routing goes in moves.
* `FormTree.Layout.moves_perform` — so do calls.
-/

namespace FormTree.Layout

/-- What may happen to the forms and pagers of a layout. -/
inductive Move (layout : Layout) : Layout → Prop
  /-- A node does something when an event comes by. -/
  | step {layout' : Layout} : Step .all layout layout' → Move layout layout'
  /-- A pager is changed through its handle. -/
  | updatePager {id : NodeId} (change : PagerState → PagerState) :
    layout.tree.isPager id = true → Move layout (layout.updatePager id change)
  /-- Something happens that does not concern forms and pagers. -/
  | aside {layout' : Layout} : layout'.tree = layout.tree → layout'.forms = layout.forms →
    layout'.pagers = layout.pagers → Move layout layout'

/-- Any number of moves. -/
abbrev Moves : Layout → Layout → Prop := Relation.ReflTransGen Move

variable {layout layout' : Layout}

/-- What does not concern forms and pagers. -/
theorem moves_aside (htree : layout'.tree = layout.tree) (hforms : layout'.forms = layout.forms)
    (hpagers : layout'.pagers = layout.pagers) : Moves layout layout' :=
  .single (.aside htree hforms hpagers)

theorem moves_steps (steps : Steps .all layout layout') : Moves layout layout' := by
  induction steps with
  | refl => exact .refl
  | tail _ step ih => exact ih.tail (.step step)

theorem moves_report (layout : Layout) (report : Report) :
    Moves layout (layout.report report) := by
  unfold Layout.report
  split
  · exact moves_aside rfl rfl rfl
  · exact .refl

/-! ## Routing -/

/-- An event that bubbles does so in steps; the reports of forms do not concern forms. -/
theorem moves_bubble (layout : Layout) (origin : NodeId) (event : Event) :
    Moves layout (layout.bubble origin event) := by
  cases hreport : event.isReport with
  | false => exact moves_steps (steps_bubble layout origin hreport event.isWithin_all)
  | true =>
    obtain ⟨fill, -, hbubble⟩ := bubbleTo_report origin layout (layout.tree.ancestors origin) event
      hreport
    rw [bubble, hbubble]
    cases event with
    | formDisplay context => exact moves_report _ _
    | formResult entry attributes context => exact moves_report _ _
    | _ => cases hreport

theorem moves_trickle (layout : Layout) (origin : NodeId) (event : Event) :
    Moves layout (layout.trickle origin event) :=
  moves_steps (steps_trickle layout origin event.isWithin_all.submits)

/-- **Routing a dispatch goes in moves.** -/
theorem moves_route (layout : Layout) (dispatch : Dispatch) :
    Moves layout (layout.route dispatch) := by
  cases dispatch with
  | bubble origin event => exact moves_bubble layout origin event
  | trickle origin event => exact moves_trickle layout origin event
  | broadcast event => exact moves_steps (steps_broadcast layout event.isWithin_all.submits)

/-- **Routing all that waits goes in moves**, whether or not the limit is reached. -/
theorem moves_settle (layout : Layout) : Moves layout layout.settle := by
  refine drain_induction (P := Moves layout) (Q := Moves layout)
    (fun world dispatch rest h _ _ => ?_) (fun world h _ => h) (fun world h => ?_)
    (fun world dispatch rest h _ _ => ?_) _ layout .refl
  · have popped : Moves world { world with outbox := ⟨rest⟩ } := moves_aside rfl rfl rfl
    exact (h.trans popped).trans (moves_route _ dispatch)
  · exact h.trans (moves_aside rfl rfl rfl)
  · exact h.trans (moves_aside rfl rfl rfl)

/-! ## Calls -/

theorem moves_setDisplayed {id : NodeId} {isDisplayed : Bool}
    (h : layout.setDisplayed id isDisplayed = .ok layout') : Moves layout layout' := by
  obtain ⟨view, -, rfl⟩ := setDisplayed_eq_ok.mp h
  split
  · exact (moves_bubble _ _ _).trans (moves_settle _)
  · exact .refl

theorem moves_setAttached {id : NodeId} {isAttached : Bool}
    (h : layout.setAttached id isAttached = .ok layout') : Moves layout layout' := by
  have attached : Moves layout (layout.modifyState id ({ · with isAttached })) :=
    moves_aside rfl rfl rfl
  exact attached.trans (moves_setDisplayed (setAttached_eq_ok.mp h))

theorem moves_click {id : NodeId} (h : layout.click id = .ok layout') : Moves layout layout' := by
  obtain ⟨spec, -, rfl⟩ := click_eq_ok.mp h
  split
  · exact .refl
  · split
    · exact (moves_bubble _ _ _).trans (moves_settle _)
    · exact (moves_steps (steps_followUps layout trivial _ _)).trans (moves_settle _)

/-- **Every call of the renderer and every event from outside goes in moves.** -/
theorem moves_perform {call : Call} (h : layout.perform call = .ok layout') :
    Moves layout layout' := by
  cases call with
  | attach id => exact moves_setAttached h
  | detach id => exact moves_setAttached h
  | setDisplayed id isDisplayed => exact moves_setDisplayed h
  | setAnswer id answer =>
    obtain ⟨spec, -, -, rfl⟩ := setAnswer_eq_ok.mp h
    have answered : Moves layout { layout with answers := layout.answers.set id answer } :=
      moves_aside rfl rfl rfl
    exact (answered.trans (moves_bubble _ _ _)).trans (moves_settle _)
  | withdraw id =>
    obtain ⟨spec, -, rfl⟩ := withdraw_eq_ok.mp h
    have detached : Moves layout (layout.modifyState id ({ · with isAttached := false })) :=
      moves_aside rfl rfl rfl
    exact (detached.trans (moves_bubble _ _ _)).trans (moves_settle _)
  | click id => exact moves_click h
  | scrollTo id position =>
    obtain ⟨spec, hview, rfl⟩ := scrollTo_eq_ok.mp h
    have hpager : layout.tree.isPager id = true := by simp [Tree.isPager, hview, View.kind]
    exact .head (.step (.page hpager)) (moves_settle _)
  | dispatch origin event direction =>
    obtain ⟨node, -, rfl⟩ := dispatch_eq_ok.mp h
    cases direction with
    | bubble => exact (moves_bubble _ _ _).trans (moves_settle _)
    | trickle => exact (moves_trickle _ _ _).trans (moves_settle _)

end FormTree.Layout

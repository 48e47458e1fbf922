import FormTree.Proofs.Layout.Sound

set_option autoImplicit false

/-!
# What changes keep

A change of a form or of a pager, with all that follows, is made of few things: containers commit
and note how far their delivery got, forms announce their flags and that they are displayed, and
observers of forms leave. An observer that leaves is never a guest. What all of these keep is kept
by the change, whatever function of the snapshot it is.

## Main definitions

* `FormTree.Layout.IsKept` — a property that nothing of this breaks.
* `FormTree.Layout.frame` — what changes do not reach.

## Main results

* `FormTree.Layout.IsKept.updateForm`, `FormTree.Layout.IsKept.updatePager` — no change with all
  that follows breaks such a property.
* `FormTree.Layout.frame_updateForm`, `FormTree.Layout.frame_updatePager` — changes leave the frame
  alone.
-/

namespace FormTree.Layout

/-- Nothing that a change of a form or of a pager is made of breaks the property. -/
structure IsKept (P : Layout → Prop) : Prop where
  commitForm : ∀ (world : Layout) (id : NodeId) (next : FormState),
    P world → P ((formPlace id).modify world (·.commit next))
  /-- What is noted about a delivery may change. -/
  markForm : ∀ (world : Layout) (id : NodeId)
    (change : Observable FormState FormReaction → Observable FormState FormReaction),
    (∀ state, (change state).observers = state.observers ∧
      (change state).nextObserver = state.nextObserver) →
    P world → P ((formPlace id).modify world change)
  /-- An observer that was there before, and that belongs to the layout, leaves. -/
  leave : ∀ (before world : Layout) (id : NodeId) (observer : Observer FormReaction),
    P before → observer ∈ (before.form id).observers → observer.reaction ≠ .guest →
    P world → P ((formPlace id).modify world (·.unwatch observer.id))
  announce : ∀ (world : Layout) (id : NodeId) (status : FormStatus),
    P world → P (world.announce id status)
  push : ∀ (world : Layout) (dispatch : Dispatch), P world → P (world.push dispatch)
  commitPager : ∀ (world : Layout) (id : NodeId) (next : PagerState),
    P world → P ((pagerPlace id).modify world (·.commit next))
  /-- What is noted about a delivery may change. -/
  markPager : ∀ (world : Layout) (id : NodeId)
    (change : Observable PagerState PagerReaction → Observable PagerState PagerReaction),
    (∀ state, (change state).observers = state.observers ∧
      (change state).nextObserver = state.nextObserver) →
    P world → P ((pagerPlace id).modify world change)

/-- An observer of a form that leaves belongs to the layout. -/
lemma reaction_ne_guest_of_leave {update : FormUpdate} {observer : Observer FormReaction}
    {snapshot : FormState} {layout : Layout}
    (h : (reactForm update observer snapshot layout).2 = .leave) : observer.reaction ≠ .guest := by
  intro hguest
  rw [reactForm, hguest] at h
  cases h

/-- An observer of a pager never leaves. -/
lemma reactPager_ne_leave (update : FormUpdate) (observer : Observer PagerReaction)
    (snapshot : PagerState) (layout : Layout) :
    (reactPager update observer snapshot layout).2 ≠ .leave := by
  unfold reactPager
  cases observer.reaction <;> exact nofun

namespace IsKept

variable {P : Layout → Prop} (kept : IsKept P)
include kept

/-- What the changes that an observer asks for keep, its reaction keeps. -/
theorem reactForm {update : FormUpdate}
    (hupdate : ∀ id intent layout, P layout → P (update id intent layout))
    (observer : Observer FormReaction) (snapshot : FormState) {layout : Layout} (h : P layout) :
    P (reactForm update observer snapshot layout).1 := by
  unfold Layout.reactForm
  split
  · exact hupdate _ _ _ h
  · split
    · exact h
    · split
      · exact h
      · exact hupdate _ _ _ (kept.push _ _ h)
  · exact hupdate _ _ _ h
  · split
    · exact h
    · exact kept.announce _ _ _ h
  · exact h

/-- A delivery to the observers of a form keeps what the changes that they ask for keep. -/
theorem flushForm {update : FormUpdate}
    (hupdate : ∀ id intent layout, P layout → P (update id intent layout)) (id : NodeId)
    (rounds : Nat) {layout : Layout} (h : P layout) :
    P ((formPlace id).flush (Layout.reactForm update) rounds layout).1 :=
  (formPlace id).flush_leaving (Layout.reactForm update)
    (fun _ _ observer _ snapshot _ hworld => kept.reactForm hupdate observer snapshot hworld)
    (fun before hbefore observer hmem snapshot _ hworld hleave =>
      kept.leave before _ id observer hbefore hmem (reaction_ne_guest_of_leave hleave)
        (kept.reactForm hupdate observer snapshot hworld))
    (fun world => kept.markForm world id _ fun _ => ⟨rfl, rfl⟩)
    (fun world _ => kept.markForm world id _ fun _ => ⟨rfl, rfl⟩)
    (fun world => kept.markForm world id _ fun _ => ⟨rfl, rfl⟩) h

/-- **A change of a form as an observer asks for it.** -/
theorem updateForm (depth : Nat) : ∀ (id : NodeId) (intent : FormIntent) (layout : Layout),
    P layout → P (updateForm depth id intent layout) := by
  induction depth with
  | zero => exact fun _ _ _ h => h
  | succ depth ih =>
    intro id intent layout h
    exact kept.flushForm ih id formRounds (kept.commitForm layout id _ h)

/-- **A change of a pager as its handle asks for it.** -/
theorem updatePager {layout : Layout} (h : P layout) (id : NodeId)
    (change : PagerState → PagerState) : P (layout.updatePager id change) := by
  refine (pagerPlace id).flush_leaving (reactPager (Layout.updateForm layout.depth))
    (fun _ _ observer _ snapshot world hworld => ?_)
    (fun _ _ observer _ snapshot world _ hleave =>
      absurd hleave (reactPager_ne_leave _ observer snapshot world))
    (fun world => kept.markPager world id _ fun _ => ⟨rfl, rfl⟩)
    (fun world _ => kept.markPager world id _ fun _ => ⟨rfl, rfl⟩)
    (fun world => kept.markPager world id _ fun _ => ⟨rfl, rfl⟩)
    (kept.commitPager layout id _ h)
  unfold reactPager
  split
  · exact kept.push _ _ hworld
  · exact kept.updateForm _ _ _ _ hworld
  · exact hworld

end IsKept

/-! ## What changes do not reach -/

/-- A layout without what changes of forms and pagers reach: the containers, the announcements and
the outbox. -/
def frame (layout : Layout) : Layout :=
  { layout with forms := {}, announced := {}, pagers := {}, outbox := {} }

theorem isKept_frame (layout : Layout) : IsKept fun world => world.frame = layout.frame where
  commitForm _ _ _ h := h
  markForm _ _ _ _ h := h
  leave _ _ _ _ _ _ _ h := h
  announce _ _ _ h := h
  push _ _ h := h
  commitPager _ _ _ h := h
  markPager _ _ _ _ h := h

/-- **A change of a form leaves the frame alone.** -/
theorem frame_updateForm (depth : Nat) (id : NodeId) (intent : FormIntent) (layout : Layout) :
    (updateForm depth id intent layout).frame = layout.frame :=
  (isKept_frame layout).updateForm depth id intent layout rfl

theorem frame_changeForm (layout : Layout) (id : NodeId) (intent : FormIntent) :
    (layout.changeForm id intent).frame = layout.frame := frame_updateForm _ id intent layout

/-- **A change of a pager leaves the frame alone.** -/
theorem frame_updatePager (layout : Layout) (id : NodeId) (change : PagerState → PagerState) :
    (layout.updatePager id change).frame = layout.frame :=
  (isKept_frame layout).updatePager rfl id change

theorem frame_changePager (layout : Layout) (id : NodeId) (intent : PagerIntent) :
    (layout.changePager id intent).frame = layout.frame :=
  frame_updatePager layout id (·.reduce intent)

end FormTree.Layout

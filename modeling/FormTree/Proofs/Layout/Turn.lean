import FormTree.Proofs.Layout.Wiring

set_option autoImplicit false

/-!
# What observers do to a layout

The observers of a form do three things: they change the form itself, they change the forms that
it encloses, and they put dispatches into the outbox. This module says how far that reaches. A
*turn* at a form is what any number of its observers do: forms that it does not enclose stay as
they are, forms that it encloses only follow — they may be enabled or disabled, and a nested form
may be submitted — and the form itself may be enabled or disabled and has its display reported.

## Main definitions

* `FormTree.Dispatch.IsAnnouncement` — flags of a form or the position of a pager, on their way.
* `FormTree.Follows` — how a form changes in the wake of another one.
* `FormTree.Layout.displayNotice` — the report of a form's display, if it is due.
* `FormTree.Layout.Turn` — a turn at a form.

## Main results

* `FormTree.Layout.Turn.trans` — turns at one form can be taken together.
* `FormTree.Layout.Turn.verdict_eq` — a turn at a form leaves the verdict of its rules alone.
* `FormTree.Layout.Turn.owesDisplay` — after a turn no display is due.
-/

namespace FormTree

/-! ## Announcements -/

/-- The dispatch carries the flags of a form, or the position of a pager, to what is below. -/
def Dispatch.IsAnnouncement (tree : Tree) : Dispatch → Prop
  | .trickle origin (.validationUpdate form _) => origin = form ∧ (tree.form? form).isSome
  | .trickle origin (.pagerUpdate pager _) => origin = pager ∧ tree.isPager pager
  | _ => False

/-! ## Following -/

/-- How a form changes in the wake of another one: it may be enabled or disabled, and if it is a
nested form it may be submitted. What is committed is added to the log. -/
structure Follows (isChild : Bool) (before after : Observable FormState FormReaction) : Prop where
  /-- Nothing but the two flags changes. -/
  value : after.value = { before.value with
    isEnabled := after.value.isEnabled, isSubmitted := after.value.isSubmitted }
  /-- A submitted form stays so. -/
  isSubmitted : before.value.isSubmitted = true → after.value.isSubmitted = true
  /-- A form that submits by itself is not submitted in the wake of another one. -/
  kept : isChild = false → after.value.isSubmitted = before.value.isSubmitted
  /-- The log grows. -/
  history : ∃ more, after.history = before.history ++ more ∧
    (isChild = false → ∀ state ∈ more, state.isSubmitted = before.value.isSubmitted)

namespace Follows

variable {isChild : Bool} {first second third : Observable FormState FormReaction}

/-- A form that does not change follows. -/
theorem refl (isChild : Bool) (state : Observable FormState FormReaction) :
    Follows isChild state state where
  value := rfl
  isSubmitted h := h
  kept _ := rfl
  history := ⟨[], by simp, by simp⟩

/-- Following twice is following. -/
theorem trans (h : Follows isChild first second) (h' : Follows isChild second third) :
    Follows isChild first third where
  value := by rw [h'.value, h.value]
  isSubmitted hs := h'.isSubmitted (h.isSubmitted hs)
  kept hc := (h'.kept hc).trans (h.kept hc)
  history := by
    obtain ⟨more, hmore, hm⟩ := h.history
    obtain ⟨more', hmore', hm'⟩ := h'.history
    refine ⟨more ++ more', by rw [hmore', hmore, List.append_assoc], fun hc state hs => ?_⟩
    rcases List.mem_append.mp hs with hs | hs
    · exact hm hc state hs
    · rw [hm' hc state hs, h.kept hc]

end Follows

namespace Layout

/-! ## Displays -/

/-- The display of the form `id` is to be reported: it submits by itself, something of it is on
screen, and it has not been reported before. -/
def owesDisplay (layout : Layout) (id : NodeId) : Bool :=
  !layout.tree.isChild id && !(layout.form id).value.isDisplayReported &&
    !(layout.form id).value.displayed.isEmpty

/-- The report of the display of the form `id`, on its way up, if it is due. -/
def displayNotice (layout : Layout) (id : NodeId) : List Dispatch :=
  if layout.owesDisplay id then
    [.bubble id (.formDisplay (.ofForm (layout.form id).value.context))]
  else []

/-- A form that rests owes no display. -/
theorem RestsWith.owesDisplay {layout : Layout} {id : NodeId} {wiring : Wiring}
    (h : layout.RestsWith id wiring) : layout.owesDisplay id = false := by
  have := h.displayed
  unfold Layout.owesDisplay
  cases hc : layout.tree.isChild id <;>
    cases hr : (layout.form id).value.isDisplayReported <;> simp_all

/-! ## Turns -/

/-- A turn at the form `id`: what any number of its observers do to a layout. -/
structure Turn (id : NodeId) (layout layout' : Layout) : Prop where
  /-- Only forms, announcements and the outbox change. -/
  rest : layout'.rest = layout.rest
  /-- Forms that the form does not enclose stay as they are. -/
  outside : ∀ other, ¬ layout.tree.Encloses id other → layout'.form other = layout.form other
  /-- Forms that it encloses follow. -/
  follows : ∀ other, other ≠ id →
    Follows (layout.tree.isChild other) (layout.form other) (layout'.form other)
  /-- The form itself is enabled or disabled, and its display is reported if it is due. -/
  value : (layout'.form id).value = { (layout.form id).value with
    isEnabled := (layout'.form id).value.isEnabled
    isDisplayReported := (layout.form id).value.isDisplayReported || layout.owesDisplay id }
  /-- Its log grows. -/
  history : ∃ more, (layout'.form id).history = (layout.form id).history ++ more ∧
    ∀ state ∈ more, state.isSubmitted = (layout.form id).value.isSubmitted
  /-- The report of a display that is due goes into the outbox, and then announcements. -/
  outbox : ∃ announcements, (∀ dispatch ∈ announcements, dispatch.IsAnnouncement layout.tree) ∧
    layout'.outbox.queue = layout.outbox.queue ++ (layout.displayNotice id ++ announcements)
  /-- Forms that carry the verdict of their rules keep doing so, those right inside the form
  excepted. -/
  ruled : ∀ other, layout.tree.formAround other ≠ some id → layout.Ruled other →
    layout'.Ruled other

namespace Turn

variable {id : NodeId} {layout layout' layout'' : Layout}

/-- A turn keeps the tree. -/
theorem tree_eq (h : Turn id layout layout') : layout'.tree = layout.tree := tree_of_rest h.rest

/-- A turn keeps the pagers. -/
theorem pager_eq (h : Turn id layout layout') (pager : NodeId) :
    layout'.pager pager = layout.pager pager := pager_of_rest h.rest pager

/-- If no display is due, doing nothing is a turn. -/
theorem refl (h : layout.owesDisplay id = false) : Turn id layout layout where
  rest := rfl
  outside _ _ := rfl
  follows other _ := .refl _ _
  value := by rw [h, Bool.or_false]
  history := ⟨[], by simp, by simp⟩
  outbox := ⟨[], by simp, by simp [displayNotice, h]⟩
  ruled _ _ h := h

/-- **After a turn no display is due.** -/
theorem owesDisplay (h : Turn id layout layout') : layout'.owesDisplay id = false := by
  have hd : (layout'.form id).value.displayed = (layout.form id).value.displayed := by
    rw [h.value]
  have hr : (layout'.form id).value.isDisplayReported =
      ((layout.form id).value.isDisplayReported || layout.owesDisplay id) := by rw [h.value]
  rw [Layout.owesDisplay, hd, hr, h.tree_eq]
  cases ho : layout.owesDisplay id with
  | true => simp
  | false =>
    rw [Bool.or_false]
    exact ho

/-- **Turns at one form can be taken together.** -/
theorem trans (h : Turn id layout layout') (h' : Turn id layout' layout'') :
    Turn id layout layout'' where
  rest := h'.rest.trans h.rest
  outside other hout := by
    rw [h'.outside other (by rw [h.tree_eq]; exact hout), h.outside other hout]
  follows other hne := by
    have := h'.follows other hne
    rw [h.tree_eq] at this
    exact (h.follows other hne).trans this
  value := by
    have hvalue := h'.value
    rw [h.owesDisplay, Bool.or_false] at hvalue
    rw [hvalue, h.value]
  history := by
    obtain ⟨more, hmore, hm⟩ := h.history
    obtain ⟨more', hmore', hm'⟩ := h'.history
    refine ⟨more ++ more', by rw [hmore', hmore, List.append_assoc], fun state hs => ?_⟩
    rcases List.mem_append.mp hs with hs | hs
    · exact hm state hs
    · rw [hm' state hs, h.value]
  outbox := by
    obtain ⟨list, hlist, hq⟩ := h.outbox
    obtain ⟨list', hlist', hq'⟩ := h'.outbox
    have hnone : layout'.displayNotice id = [] := by simp [displayNotice, h.owesDisplay]
    refine ⟨list ++ list', fun dispatch hd => ?_, ?_⟩
    · rcases List.mem_append.mp hd with hd | hd
      · exact hlist dispatch hd
      · exact h.tree_eq ▸ hlist' dispatch hd
    · rw [hq', hq, hnone]
      simp
  ruled other hne hr := h'.ruled other (by rw [h.tree_eq]; exact hne) (h.ruled other hne hr)

/-- **A turn at a form leaves the verdict of its rules alone.** -/
theorem verdict_eq (wf : layout.tree.WellFormed) (h : Turn id layout layout') :
    layout'.verdict id = layout.verdict id := by
  refine verdict_congr h.tree_eq (fun around haround => ?_) (by rw [h.value]) (by rw [h.value])
    fun _ pager _ => by rw [h.pager_eq]
  rw [h.outside around (wf.linked.not_encloses_around haround)]

end Turn

/-- Whether a form carries its verdict is up to the form itself, the form around it and the pager
around it. -/
theorem Ruled.congr {layout layout' : Layout} {id : NodeId} (h : layout.Ruled id)
    (hrest : layout'.rest = layout.rest) (hform : layout'.form id = layout.form id)
    (haround : ∀ around, layout.tree.formAround id = some around →
      layout'.form around = layout.form around) : layout'.Ruled id :=
  h.of_values (tree_of_rest hrest) (by rw [hform]) (fun around ha => by rw [haround around ha])
    fun _ => by rw [pager_of_rest hrest]

end Layout

end FormTree

import FormTree.Proofs.Layout.Turn

set_option autoImplicit false

/-!
# Changes in the wake of others

Two relations between layouts that stand beside the turns at a form. A *quiet* change of a form
concerns only how far its container is delivered and who observes it. A change *in the wake* of
another one is what the form around a form, or the pager around it, brings about when it is
served: the form follows, and so do the forms that it encloses.

## Main definitions

* `FormTree.Layout.Quiet` — quiet changes of a form.
* `FormTree.FormIntent.IsFollowing` — the changes that are made in the wake of others.
* `FormTree.Layout.Wake` — what such a change comes to.

## Main results

* `FormTree.Layout.Turn.before`, `FormTree.Layout.Turn.after` — quiet changes before and after a
  turn belong to it.
* `FormTree.Layout.Turn.own` — what a form changes about itself is a turn.
* `FormTree.Layout.Wake.turn` — a change in the wake of a form is a turn at that form.
-/

namespace FormTree

namespace Layout

/-! ## Quiet changes -/

/-- A change of the container of the form `id` that its value and its log do not show. -/
structure Quiet (id : NodeId) (layout layout' : Layout) : Prop where
  /-- Only forms change. -/
  rest : layout'.rest = layout.rest
  /-- Nothing is put into the outbox. -/
  outbox : layout'.outbox = layout.outbox
  /-- Other forms stay as they are. -/
  others : ∀ other, other ≠ id → layout'.form other = layout.form other
  /-- The form keeps its value. -/
  value : (layout'.form id).value = (layout.form id).value
  /-- The form keeps its log. -/
  history : (layout'.form id).history = (layout.form id).history

/-- Changing a container without changing its value and its log is quiet. -/
theorem quiet_modify (layout : Layout) (id : NodeId)
    {change : Observable FormState FormReaction → Observable FormState FormReaction}
    (hvalue : ∀ state, (change state).value = state.value)
    (hhistory : ∀ state, (change state).history = state.history) :
    Quiet id layout ((formPlace id).modify layout change) where
  rest := rfl
  outbox := rfl
  others other hne := by rw [form_modify, if_neg (Ne.symm hne)]
  value := by rw [form_modify, if_pos rfl, hvalue]
  history := by rw [form_modify, if_pos rfl, hhistory]

namespace Quiet

variable {id : NodeId} {layout layout' layout'' : Layout} (quiet : Quiet id layout layout')
include quiet

/-- A quiet change keeps the tree. -/
theorem tree_eq : layout'.tree = layout.tree := tree_of_rest quiet.rest

/-- A quiet change keeps the value of every form. -/
theorem value_eq (other : NodeId) : (layout'.form other).value = (layout.form other).value := by
  by_cases hne : other = id
  · rw [hne, quiet.value]
  · rw [quiet.others other hne]

/-- A quiet change keeps every verdict. -/
theorem verdict_eq (other : NodeId) : layout'.verdict other = layout.verdict other :=
  verdict_congr quiet.tree_eq (fun _ _ => by rw [quiet.value_eq]) (by rw [quiet.value_eq])
    (by rw [quiet.value_eq]) fun _ _ _ => by rw [pager_of_rest quiet.rest]

/-- After a quiet change every form that carried its verdict still does. -/
theorem ruled {other : NodeId} (h : layout.Ruled other) : layout'.Ruled other :=
  h.of_values quiet.tree_eq (quiet.value_eq _) (fun _ _ => quiet.value_eq _) fun _ => by
    rw [pager_of_rest quiet.rest]

/-- A quiet change does not change whether a display is due. -/
theorem owesDisplay_eq (other : NodeId) :
    layout'.owesDisplay other = layout.owesDisplay other := by
  unfold owesDisplay
  rw [quiet.tree_eq, quiet.value_eq]

/-- A quiet change does not change the report that is due. -/
theorem displayNotice_eq (other : NodeId) :
    layout'.displayNotice other = layout.displayNotice other := by
  unfold displayNotice
  rw [quiet.owesDisplay_eq, quiet.value_eq]

end Quiet

namespace Turn

variable {id : NodeId} {layout layout' layout'' : Layout}

/-- A quiet change before a turn belongs to it. -/
theorem before (quiet : Quiet id layout layout') (h : Turn id layout' layout'') :
    Turn id layout layout'' where
  rest := h.rest.trans quiet.rest
  outside other hout := by
    have hne : other ≠ id := by
      rintro rfl
      exact hout .self
    rw [h.outside other (by rwa [quiet.tree_eq]), quiet.others other hne]
  follows other hne := by
    have := h.follows other hne
    rwa [quiet.tree_eq, quiet.others other hne] at this
  value := by
    have := h.value
    rwa [quiet.value, quiet.owesDisplay_eq] at this
  history := by
    obtain ⟨more, hmore, hm⟩ := h.history
    exact ⟨more, by rw [hmore, quiet.history], by rwa [quiet.value] at hm⟩
  outbox := by
    obtain ⟨list, hlist, hq⟩ := h.outbox
    exact ⟨list, by rwa [quiet.tree_eq] at hlist,
      by rw [hq, quiet.outbox, quiet.displayNotice_eq]⟩
  ruled other hne hr := h.ruled other (by rwa [quiet.tree_eq]) (quiet.ruled hr)

/-- A quiet change after a turn belongs to it. -/
theorem after (h : Turn id layout layout') (quiet : Quiet id layout' layout'') :
    Turn id layout layout'' where
  rest := quiet.rest.trans h.rest
  outside other hout := by
    have hne : other ≠ id := by
      rintro rfl
      exact hout .self
    rw [quiet.others other hne, h.outside other hout]
  follows other hne := by
    rw [quiet.others other hne]
    exact h.follows other hne
  value := by
    rw [quiet.value]
    exact h.value
  history := by
    rw [quiet.history]
    exact h.history
  outbox := by
    rw [quiet.outbox]
    exact h.outbox
  ruled other hne hr := quiet.ruled (h.ruled other hne hr)

/-- **What a form changes about itself is a turn**, if it enables or disables itself, reports its
display if it is due, puts announcements into the outbox and keeps carrying its verdict. -/
theorem own (rest : layout'.rest = layout.rest)
    (others : ∀ other, other ≠ id → layout'.form other = layout.form other)
    (value : (layout'.form id).value = { (layout.form id).value with
      isEnabled := (layout'.form id).value.isEnabled
      isDisplayReported := (layout.form id).value.isDisplayReported || layout.owesDisplay id })
    (history : ∃ more, (layout'.form id).history = (layout.form id).history ++ more ∧
      ∀ state ∈ more, state.isSubmitted = (layout.form id).value.isSubmitted)
    (outbox : ∃ announcements,
      (∀ dispatch ∈ announcements, dispatch.IsAnnouncement layout.tree) ∧
      layout'.outbox.queue = layout.outbox.queue ++ (layout.displayNotice id ++ announcements))
    (ruled : layout.Ruled id → layout'.Ruled id) : Turn id layout layout' where
  rest := rest
  outside other hout := by
    refine others other ?_
    rintro rfl
    exact hout .self
  follows other hne := by
    rw [others other hne]
    exact .refl _ _
  value := value
  history := history
  outbox := outbox
  ruled other hne hr := by
    by_cases heq : other = id
    · subst heq
      exact ruled hr
    · refine hr.congr rest (others other heq) fun around haround => others around ?_
      rintro rfl
      exact hne haround

end Turn

end Layout

/-! ## Wakes -/

/-- The changes that are made in the wake of others: a form is enabled or disabled, and a nested
form takes over submission and disablement. -/
def FormIntent.IsFollowing (isChild : Bool) : FormIntent → Prop
  | .setEnabled _ => True
  | .inherit _ _ => isChild = true
  | _ => False

namespace Layout

/-- What a change of the form `id` in the wake of another one comes to. -/
structure Wake (id : NodeId) (layout layout' : Layout) : Prop where
  /-- Only forms, announcements and the outbox change. -/
  rest : layout'.rest = layout.rest
  /-- Forms that the form does not enclose stay as they are. -/
  outside : ∀ other, ¬ layout.tree.Encloses id other → layout'.form other = layout.form other
  /-- The form itself and the forms that it encloses follow. -/
  follows : ∀ other,
    Follows (layout.tree.isChild other) (layout.form other) (layout'.form other)
  /-- Announcements go into the outbox. -/
  outbox : ∃ announcements, (∀ dispatch ∈ announcements, dispatch.IsAnnouncement layout.tree) ∧
    layout'.outbox.queue = layout.outbox.queue ++ announcements
  /-- Other forms that carry the verdict of their rules keep doing so. -/
  ruled : ∀ other, other ≠ id → layout.Ruled other → layout'.Ruled other
  /-- Forms that rest do so again. -/
  rests : ∀ other, (layout.tree.form? other).isSome → layout.Rests other → layout'.Rests other

namespace Wake

variable {id inner top : NodeId} {layout layout' : Layout}

/-- A change in the wake of another one keeps the tree. -/
theorem tree_eq (h : Wake id layout layout') : layout'.tree = layout.tree := tree_of_rest h.rest

/-- All that a form encloses rests again. -/
theorem restsBelow (h : Wake id layout layout') (hrests : layout.RestsBelow top) :
    layout'.RestsBelow top := by
  intro other hin hsome
  rw [h.tree_eq] at hin hsome
  exact h.rests other hsome (hrests other hin hsome)

/-- The form around is not concerned. -/
theorem form_around (linked : layout.tree.Linked) (h : Wake inner layout layout')
    (haround : layout.tree.formAround inner = some id) : layout'.form id = layout.form id :=
  h.outside id (linked.not_encloses_around haround)

/-- **A change in the wake of a form is a turn at that form**, if no display is due there. -/
theorem turn (linked : layout.tree.Linked) (h : Wake inner layout layout')
    (haround : layout.tree.formAround inner = some id) (howes : layout.owesDisplay id = false) :
    Turn id layout layout' where
  rest := h.rest
  outside other hout := h.outside other fun hin =>
    hout (Tree.Encloses.trans (.inside haround .self) hin)
  follows other _ := h.follows other
  value := by
    rw [h.form_around linked haround, howes, Bool.or_false]
  history := ⟨[], by rw [h.form_around linked haround, List.append_nil], by simp⟩
  outbox := by
    obtain ⟨list, hlist, hq⟩ := h.outbox
    exact ⟨list, hlist, by simp [hq, displayNotice, howes]⟩
  ruled other hne hr := by
    refine h.ruled other ?_ hr
    rintro rfl
    exact hne haround

end Wake

end Layout

end FormTree

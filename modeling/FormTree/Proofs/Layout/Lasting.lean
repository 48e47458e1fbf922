import FormTree.Proofs.Layout.Passing
import FormTree.Proofs.Layout.Run
import FormTree.Proofs.Layout.Steady

set_option autoImplicit false

/-!
# What lasts

A property that no change of a form or of a pager breaks, and that does not look at what waits in
the outbox, at what was told, and at what is known about nodes other than forms and pagers, lasts
whatever nodes do, whatever is routed, and whatever is done to the layout from outside.

## Main definitions

* `FormTree.Layout.standing` — what such a property looks at.
* `FormTree.Layout.IsLasting` — such a property.

## Main results

* `FormTree.Layout.IsLasting.isSteady`, `FormTree.Layout.IsLasting.settle` — it lasts while events
  are routed.
* `FormTree.Layout.IsLasting.intervene` — and whatever is done from outside.
-/

namespace FormTree.Layout

/-- The tree, the settings, the containers with the layout's hold on their observers, and what forms
announced. -/
def standing (layout : Layout) : Layout where
  tree := layout.tree
  environment := layout.environment
  forms := layout.forms
  announced := layout.announced
  pagers := layout.pagers
  watches := layout.watches

/-- No change of a form or of a pager breaks the property, and it looks at nothing else. -/
structure IsLasting (P : Layout → Prop) : Prop extends IsKept P where
  aside : ∀ world world' : Layout, P world → world'.standing = world.standing → P world'

namespace IsLasting

variable {P : Layout → Prop} {layout layout' : Layout} (lasting : IsLasting P)
include lasting

/-! ## Routing -/

theorem isSteady : IsSteady P where
  toIsKept := lasting.toIsKept
  aside world _ _ _ _ h := lasting.aside world _ h rfl

theorem settle (h : P layout) : P layout.settle :=
  drain_induction
    (fun world dispatch rest hworld _ _ =>
      lasting.isSteady.route (lasting.aside world { world with outbox := ⟨rest⟩ } hworld rfl)
        dispatch)
    (fun _ hworld _ => hworld) (fun _ hworld => lasting.aside _ _ hworld rfl)
    (fun _ _ _ hworld _ _ => lasting.aside _ _ hworld rfl) _ layout h

/-! ## Interventions -/

theorem begins (h : P layout) (hbegins : Begins layout layout') : P layout' := by
  cases hbegins with
  | same => exact h
  | note id change => exact lasting.aside _ _ h rfl
  | answer answers => exact lasting.aside _ _ h rfl
  | follow dispatches => exact lasting.pushAll h dispatches
  | page id intent => exact lasting.updatePager h id (·.reduce intent)

theorem close {opening : Opening} (h : P opening.start) : P opening.close := by
  cases opening with
  | rest layout => exact h
  | settle layout => exact lasting.settle h
  | route layout dispatch => exact lasting.settle (lasting.isSteady.route h dispatch)

/-- **It lasts whatever is done to the layout.** -/
theorem intervene {intervention : Intervention} {reply : Reply} (h : P layout)
    (hresult : layout.intervene intervention = .ok (reply, layout')) : P layout' := by
  cases intervention with
  | call call =>
    rw [Layout.intervene, perform_eq_opening] at hresult
    cases hopening : layout.opening call <;> rw [hopening] at hresult <;> cases hresult
    exact lasting.close (lasting.begins h (begins_opening hopening))
  | reviseForm id change =>
    rw [Layout.intervene] at hresult
    cases hspec : layout.formSpec id <;> rw [hspec] at hresult <;> cases hresult
    exact lasting.reviseForm h id change
  | updatePager id change =>
    rw [Layout.intervene] at hresult
    cases hspec : layout.pagerSpec id <;> rw [hspec] at hresult <;> cases hresult
    exact lasting.updatePager h id change
  | push dispatch =>
    cases hresult
    exact lasting.push _ dispatch h

end IsLasting

end FormTree.Layout

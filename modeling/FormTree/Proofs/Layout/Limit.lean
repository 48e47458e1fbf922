import FormTree.Proofs.Layout.Alteration

set_option autoImplicit false

/-!
# The limit of a pass

How many dispatches are routed before control goes back to the caller is a setting. Nothing that
happens while a dispatch is routed looks at it; so what another limit changes is only where routing
breaks off.

## Main definitions

* `FormTree.Layout.withLimit` — a layout with another limit.

## Main results

* `FormTree.Layout.settle_withLimit` — routing what waits, up to another limit.
-/

namespace FormTree.Layout

/-- The layout with another limit. -/
def withLimit (layout : Layout) (limit : Nat) : Layout :=
  { layout with
    environment.config.bus.maxDispatchesPerPass := limit }

/-- Another limit goes unnoticed while dispatches are routed. -/
lemma isUnnoticed_limit (limit : Nat) : Alteration.IsUnnoticed
    { environment := fun environment =>
        { environment with config.bus.maxDispatchesPerPass := limit } } where
  alike := Tree.Alike.refl
  isRecording _ := rfl
  report layout report := by
    unfold Layout.report alter
    dsimp only [id]
    split <;> rfl

/-- **Routing what waits, up to another limit.** -/
theorem settle_withLimit (layout : Layout) (limit : Nat) :
    (layout.withLimit limit).settle = (layout.drain limit).withLimit limit :=
  settle_alter layout (isUnnoticed_limit limit)

end FormTree.Layout

import FormTree.Proofs.Layout.Interventions
import FormTree.Proofs.Layout.Strays

set_option autoImplicit false

/-!
# What a call leaves waiting

Whatever waits in the outbox, because forms or pagers were changed through their handles or because
dispatches were put there, the next call routes it before control goes back — unless the call means
nothing to the node that it names. Such a call is accepted and passed over, and what waits goes on
waiting.

## Main definitions

* `FormTree.Layout.passesOver` — a call means nothing to the node that it names.

## Main results

* `FormTree.Layout.queue_settle` — routing that does not break off leaves nothing waiting.
* `FormTree.Layout.passesOver_or_settles` — a call is passed over, or it ends in routing.
* `FormTree.Layout.queue_eq_nil_iff` — when nothing waits after a call.
* `FormTree.Layout.waiting_after_attach` — a call that leaves an announcement waiting.
-/

namespace FormTree

namespace Layout

variable {layout layout' : Layout} {call : Call}

/-- The call means nothing to the node that it names: only inputs go on and off screen, and taps on
a disabled button are ignored. -/
def passesOver (layout : Layout) : Call → Bool
  | .attach id | .detach id | .setDisplayed id _ => (layout.tree.input? id).isNone
  | .click id => !layout.isEnabled id
  | _ => false

/-! ## Routing -/

/-- **Where routing does not break off, nothing waits afterwards**, whether or not the limit of the
pass is reached. -/
theorem queue_settle (h : layout.settle.strays = layout.strays) :
    layout.settle.outbox.queue = [] := by
  refine drain_induction (P := fun world => world.strays = layout.strays)
    (Q := fun world => world.strays = layout.strays → world.outbox.queue = [])
    (fun world dispatch rest hworld _ _ => ?_) (fun world _ hqueue _ => hqueue)
    (fun world _ _ => rfl) (fun world dispatch rest hworld _ _ hsame => ?_) _ layout rfl h
  · exact (strays_route { world with outbox := ⟨rest⟩ } dispatch).trans hworld
  · -- a stray that was put aside is noted
    have hnoted : layout.strays ++ [dispatch] = layout.strays := hworld ▸ hsame
    simp at hnoted

/-! ## Calls -/

/-- The call is passed over, or it ends in routing. -/
lemma passesOver_or_settles_setDisplayed {layout : Layout} {id : NodeId} {isDisplayed : Bool}
    (h : layout.setDisplayed id isDisplayed = .ok layout') :
    (layout.tree.input? id).isNone = true ∧ layout' = layout ∨
      (layout.tree.input? id).isNone = false ∧
        ∃ routed : Layout, layout' = routed.settle ∧ routed.strays = layout.strays := by
  obtain ⟨view, hview, hlayout⟩ := setDisplayed_eq_ok.mp h
  cases hinput : layout.tree.input? id with
  | some spec =>
    obtain rfl := Option.some.inj (hview.symm.trans (Tree.input?_eq_some.mp hinput))
    exact .inr ⟨rfl, _, hlayout, strays_bubble layout id _⟩
  | none =>
    refine .inl ⟨rfl, ?_⟩
    cases view with
    | input spec =>
      rw [Tree.input?_eq_some.mpr hview] at hinput
      cases hinput
    | _ => exact hlayout

/-- **A call is passed over, or it ends in routing.** -/
theorem passesOver_or_settles (h : layout.perform call = .ok layout') :
    (layout.passesOver call = true ∧ ∃ states, layout' = { layout with states }) ∨
      (layout.passesOver call = false ∧
        ∃ routed : Layout, layout' = routed.settle ∧ routed.strays = layout.strays) := by
  have hattached : ∀ (id : NodeId) (isAttached : Bool),
      layout.setAttached id isAttached = .ok layout' →
      ((layout.tree.input? id).isNone = true ∧ ∃ states, layout' = { layout with states }) ∨
        ((layout.tree.input? id).isNone = false ∧
          ∃ routed : Layout, layout' = routed.settle ∧ routed.strays = layout.strays) := by
    intro id isAttached hok
    rcases passesOver_or_settles_setDisplayed (setAttached_eq_ok.mp hok) with
      ⟨hnone, rfl⟩ | hsettles
    · exact .inl ⟨hnone, _, rfl⟩
    · exact .inr hsettles
  cases call with
  | attach id => exact hattached id true h
  | detach id => exact hattached id false h
  | setDisplayed id isDisplayed =>
    rcases passesOver_or_settles_setDisplayed h with ⟨hnone, rfl⟩ | hsettles
    · exact .inl ⟨hnone, _, rfl⟩
    · exact .inr hsettles
  | setAnswer id answer =>
    obtain ⟨spec, -, -, rfl⟩ := setAnswer_eq_ok.mp h
    exact .inr ⟨rfl, _, rfl, strays_bubble _ id _⟩
  | withdraw id =>
    obtain ⟨spec, -, rfl⟩ := withdraw_eq_ok.mp h
    exact .inr ⟨rfl, _, rfl, strays_bubble _ id _⟩
  | click id =>
    obtain ⟨spec, -, rfl⟩ := click_eq_ok.mp h
    cases henabled : layout.isEnabled id with
    | false => exact .inl ⟨by rw [passesOver, henabled]; rfl, _, rfl⟩
    | true =>
      refine .inr ⟨by rw [passesOver, henabled]; rfl, ?_⟩
      rw [if_neg nofun]
      split
      · exact ⟨_, rfl, strays_bubble layout id _⟩
      · have hsteps : Steps .all layout (layout.pushAll (followUps id spec.id spec.effects)) :=
          steps_followUps layout trivial _ _
        exact ⟨_, rfl, strays_steps hsteps⟩
  | scrollTo id position =>
    obtain ⟨spec, -, rfl⟩ := scrollTo_eq_ok.mp h
    exact .inr ⟨rfl, _, rfl, strays_updatePager layout id (·.reduce (.scroll position))⟩
  | dispatch origin event direction =>
    obtain ⟨node, -, rfl⟩ := dispatch_eq_ok.mp h
    cases direction with
    | bubble => exact .inr ⟨rfl, _, rfl, strays_bubble layout origin event⟩
    | trickle => exact .inr ⟨rfl, _, rfl, strays_route layout (.trickle origin event)⟩

/-- **When nothing waits after a call.** Let a layout be in any state — in particular forms and
pagers may have been changed through their handles, and dispatches may have been put into the outbox
— and let a call not be refused and routing not break off. Then

* nothing waits afterwards if and only if nothing waited before, or the call is not passed over;
* a call that is passed over changes nothing but whether a view is attached, so all that waited
  before goes on waiting.

**Proof sketch.** A call that is not passed over ends in routing, whatever it does before. Routing
ends when nothing waits any more, or when it drops what is left at the limit of the pass. -/
theorem queue_eq_nil_iff (h : layout.perform call = .ok layout')
    (hstrays : layout'.strays = layout.strays) :
    (layout'.outbox.queue = [] ↔ layout.passesOver call = false ∨ layout.outbox.queue = []) ∧
      (layout.passesOver call = true → ∃ states, layout' = { layout with states }) := by
  rcases passesOver_or_settles h with ⟨hpasses, states, rfl⟩ | ⟨hpasses, routed, rfl, hrouted⟩
  · refine ⟨?_, fun _ => ⟨states, rfl⟩⟩
    rw [hpasses]
    simp
  · refine ⟨iff_of_true (queue_settle (hstrays.trans hrouted.symm)) (.inl hpasses), fun hnot => ?_⟩
    rw [hpasses] at hnot
    cases hnot

/-- A form with an input, and with a button that submits. -/
def ballot : Spec :=
  ⟨.form { id := "ballot" }, [], [
    ⟨.input { id := "vote", kind := .textInput }, [], []⟩,
    ⟨.button { id := "cast", behaviors := [.formSubmit] }, [], []⟩]⟩

/-- The form is closed through its handle. -/
def ballotClosed : List Intervention := [.reviseForm 0 (·.reduce (.setEnabled false))]

/-- The ballot once its form has been closed through its handle. -/
def closedBallot : Layout := ((build {} (Tree.ofSpec ballot)).settle.play ballotClosed).2

/-- What was announced of the form is routed when the vote is given. -/
theorem queue_eq_nil_iff_ballot :
    ∃ layout layout' : Layout, activate {} ballot = .ok layout ∧
      (layout.play ballotClosed).2.outbox.queue ≠ [] ∧
      (layout.play ballotClosed).2.perform (.setAnswer 1 (.textInput (some "yes"))) = .ok layout' ∧
      layout'.outbox.queue = [] := by
  have hvote : closedBallot.tree.input? 1 = some { id := "vote", kind := .textInput } := by
    decide +kernel
  have hcall : closedBallot.perform (.setAnswer 1 (.textInput (some "yes"))) = .ok _ :=
    setAnswer_eq_ok.mpr ⟨_, Tree.input?_eq_some.mp hvote, by decide, rfl⟩
  refine ⟨_, _, activate_eq_ok.mpr ⟨by decide, rfl⟩, by decide +kernel, hcall, ?_⟩
  exact (queue_eq_nil_iff hcall (by decide +kernel)).1.mpr (.inl rfl)

/-- **A call that leaves an announcement waiting**: the form is closed through its handle, and then
the view of the button is attached. The button does not hear of it, and goes on accepting taps. -/
theorem waiting_after_attach :
    ∃ layout layout' : Layout, activate {} ballot = .ok layout ∧
      (layout.play ballotClosed).2.perform (.attach 2) = .ok layout' ∧
      layout'.strays = (layout.play ballotClosed).2.strays ∧
      layout'.outbox.queue = [.trickle 0 (.validationUpdate 0 ⟨true, false, false⟩)] ∧
      (layout'.form 0).value.isEnabled = false ∧ layout'.isEnabled 2 = true := by
  have hcast : closedBallot.tree.view? 2 =
      some (.button { id := "cast", behaviors := [.formSubmit] }) := by decide +kernel
  have hcall : closedBallot.perform (.attach 2) = .ok _ :=
    setAttached_eq_ok.mpr (setDisplayed_eq_ok.mpr ⟨_, hcast, rfl⟩)
  exact ⟨_, _, activate_eq_ok.mpr ⟨by decide, rfl⟩, hcall, by decide +kernel, by decide +kernel,
    by decide +kernel, by decide +kernel⟩

end Layout

end FormTree

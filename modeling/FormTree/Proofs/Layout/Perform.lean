import FormTree.Layout.Call

set_option autoImplicit false

/-!
# Calls that are not refused

When each call of the renderer, and each event from outside, is accepted, and what the layout is
then.

## Main results

* `FormTree.bind_eq_ok` — what is done in steps succeeds if every step does.
* `FormTree.Layout.inputSpec_eq_ok` and its siblings — a node as what it is.
* `FormTree.Layout.setAnswer_eq_ok` and its siblings — one call each.
-/

namespace FormTree

/-- What is done in steps succeeds if every step does. -/
theorem bind_eq_ok {ε α β : Type} {first : Except ε α} {rest : α → Except ε β} {result : β} :
    first >>= rest = .ok result ↔ ∃ value, first = .ok value ∧ rest value = .ok result := by
  cases first <;> simp [bind, Except.bind]

namespace Layout

variable {layout layout' : Layout} {id origin : NodeId}

/-! ## Nodes -/

theorem node_eq_ok {node : Node} :
    layout.node id = .ok node ↔ layout.tree.node? id = some node := by
  unfold Layout.node
  split
  · next other hnode => simp [hnode]
  · next hnode => simp [hnode]

/-- A node is taken for what its view is. -/
theorem spec_eq_ok {α : Type} {take : Node → Except LayoutError α} {view : α → View} {spec : α}
    (htake : ∀ node : Node, take node = .ok spec ↔ node.view = view spec) :
    layout.node id >>= take = .ok spec ↔ layout.tree.view? id = some (view spec) := by
  rw [bind_eq_ok, Tree.view?, Option.map_eq_some_iff]
  exact exists_congr fun node => and_congr node_eq_ok (htake node)

theorem inputSpec_eq_ok {spec : InputSpec} :
    layout.inputSpec id = .ok spec ↔ layout.tree.view? id = some (.input spec) := by
  refine spec_eq_ok fun node => ?_
  cases node.view <;> simp [pure, Except.pure, throw, throwThe, MonadExceptOf.throw]

theorem buttonSpec_eq_ok {spec : ButtonSpec} :
    layout.buttonSpec id = .ok spec ↔ layout.tree.view? id = some (.button spec) := by
  refine spec_eq_ok fun node => ?_
  cases node.view <;> simp [pure, Except.pure, throw, throwThe, MonadExceptOf.throw]

theorem formSpec_eq_ok {spec : FormSpec} :
    layout.formSpec id = .ok spec ↔ layout.tree.view? id = some (.form spec) := by
  refine spec_eq_ok fun node => ?_
  cases node.view <;> simp [pure, Except.pure, throw, throwThe, MonadExceptOf.throw]

theorem pagerSpec_eq_ok {spec : PagerSpec} :
    layout.pagerSpec id = .ok spec ↔ layout.tree.view? id = some (.pager spec) := by
  refine spec_eq_ok fun node => ?_
  cases node.view <;> simp [pure, Except.pure, throw, throwThe, MonadExceptOf.throw]

/-! ## Calls -/

/-- A view goes on or off screen: an input tells so, and other nodes do nothing. -/
theorem setDisplayed_eq_ok {isDisplayed : Bool} : layout.setDisplayed id isDisplayed = .ok layout' ↔
    ∃ view, layout.tree.view? id = some view ∧
      layout' =
        match view with
        | .input spec => (layout.bubble id (.viewAttached spec.id isDisplayed)).settle
        | _ => layout := by
  unfold setDisplayed
  simp only [bind_eq_ok, node_eq_ok, Tree.view?, Option.map_eq_some_iff]
  constructor
  · rintro ⟨node, hnode, h⟩
    refine ⟨node.view, ⟨node, hnode, rfl⟩, ?_⟩
    cases hview : node.view <;> rw [hview] at h <;> exact (Except.ok.inj h).symm
  · rintro ⟨view, ⟨node, hnode, rfl⟩, rfl⟩
    refine ⟨node, hnode, ?_⟩
    cases node.view <;> rfl

/-- A view is attached or detached. -/
theorem setAttached_eq_ok {isAttached : Bool} : layout.setAttached id isAttached = .ok layout' ↔
    (layout.modifyState id ({ · with isAttached })).setDisplayed id isAttached = .ok layout' := by
  unfold setAttached
  rw [bind_eq_ok]
  constructor
  · rintro ⟨_, _, h⟩
    exact h
  · intro h
    obtain ⟨view, hview, -⟩ := setDisplayed_eq_ok.mp h
    obtain ⟨node, hnode, -⟩ := Option.map_eq_some_iff.mp hview
    exact ⟨node, node_eq_ok.mpr hnode, h⟩

/-- The answer of an input changes, if it is of the kind of the input. -/
theorem setAnswer_eq_ok {answer : Answer} : layout.setAnswer id answer = .ok layout' ↔
    ∃ spec, layout.tree.view? id = some (.input spec) ∧ spec.accepts answer = true ∧
      layout' = ({ layout with answers := layout.answers.set id answer }.bubble id
        (.dataChange (spec.entry answer))).settle := by
  unfold setAnswer
  simp only [bind_eq_ok, inputSpec_eq_ok]
  refine exists_congr fun spec => and_congr_right fun _ => ?_
  unfold InputNode.setAnswer
  constructor
  · rintro ⟨input, hinput, h⟩
    split at hinput
    · next haccepts =>
      cases hinput
      exact ⟨haccepts, (Except.ok.inj h).symm⟩
    · cases hinput
  · rintro ⟨haccepts, rfl⟩
    exact ⟨_, if_pos haccepts, rfl⟩

/-- An input is gone for good. -/
theorem withdraw_eq_ok : layout.withdraw id = .ok layout' ↔
    ∃ spec, layout.tree.view? id = some (.input spec) ∧
      layout' = ((layout.modifyState id ({ · with isAttached := false })).bubble id
        (.inputWithdrawn spec.id)).settle := by
  unfold withdraw
  simp only [bind_eq_ok, inputSpec_eq_ok]
  refine exists_congr fun spec => and_congr_right fun _ => ?_
  exact ⟨fun h => (Except.ok.inj h).symm, fun h => congrArg Except.ok h.symm⟩

/-- A button is tapped: it submits first if it is to, and else puts its effects into the outbox. -/
theorem click_eq_ok : layout.click id = .ok layout' ↔
    ∃ spec, layout.tree.view? id = some (.button spec) ∧
      layout' =
        if layout.isEnabled id = false then layout
        else if spec.submits = true then
          (layout.bubble id (.buttonSubmit id spec.id
            (spec.effects.filter (· ≠ .formSubmit)))).settle
        else (layout.pushAll (followUps id spec.id spec.effects)).settle := by
  unfold click
  simp only [bind_eq_ok, buttonSpec_eq_ok]
  refine exists_congr fun spec => and_congr_right fun _ => ?_
  cases layout.isEnabled id <;> cases spec.submits <;>
    exact ⟨fun h => (Except.ok.inj h).symm, fun h => congrArg Except.ok h.symm⟩

/-- A pager is swiped. -/
theorem scrollTo_eq_ok {position : UInt64} : layout.scrollTo id position = .ok layout' ↔
    ∃ spec, layout.tree.view? id = some (.pager spec) ∧
      layout' = (layout.changePager id (.scroll position)).settle := by
  unfold scrollTo
  simp only [bind_eq_ok, pagerSpec_eq_ok]
  refine exists_congr fun spec => and_congr_right fun _ => ?_
  exact ⟨fun h => (Except.ok.inj h).symm, fun h => congrArg Except.ok h.symm⟩

/-- An event from outside is raised at a node. -/
theorem dispatch_eq_ok {event : Event} {direction : Direction} :
    layout.dispatch origin event direction = .ok layout' ↔
      ∃ node, layout.tree.node? origin = some node ∧
        layout' =
          match direction with
          | .bubble => (layout.bubble origin event).settle
          | .trickle => (layout.trickle origin event).settle := by
  unfold dispatch
  simp only [bind_eq_ok, node_eq_ok]
  refine exists_congr fun node => and_congr_right fun _ => ?_
  cases direction <;>
    exact ⟨fun h => (Except.ok.inj h).symm, fun h => congrArg Except.ok h.symm⟩

end Layout

end FormTree

import FormTree.Proofs.Layout.Calls
import FormTree.Proofs.Layout.Introducing

set_option autoImplicit false

/-!
# Nodes follow their form and their pager

A node that is no form carries what its rules come to for the form and the pager around it, as these
are now, whenever control is with the caller and no dispatch was dropped. Forms and pagers announce
every change, and what is announced is heard in order: so what a node has heard last is how its form
and its pager are.

## Main definitions

* `FormTree.Layout.Attentive` — nodes are in step, unless something was dropped.

## Main results

* `FormTree.Layout.attentive_of_activate` — after activation nodes are in step.
* `FormTree.Layout.Attentive.after` — calls keep them in step.
* `FormTree.Layout.isEnabled_eq_evaluate` — nodes carry what their rules come to for the form and
  the pager around them.
-/

namespace FormTree

namespace Layout

variable {layout layout' : Layout} {id : NodeId}

/-! ## Calls -/

/-- No change is under way, what trickles down reaches whom it concerns, and nodes are in step
unless something was dropped. -/
structure Attentive (layout : Layout) : Prop where
  sound : layout.Sound
  trickles : layout.tree.Trickles
  inStep : layout.dropped = [] → layout.InStep

namespace Attentive

/-- What announces all that changes, and leaves what nodes know alone, keeps nodes in step. -/
theorem of_informs (h : layout.Attentive) (hkeeps : Keeps layout layout')
    (hinforms : Informs layout layout')
    (hstates : ∀ id, (layout'.states.get id).status = (layout.states.get id).status ∧
      (layout'.states.get id).position = (layout.states.get id).position ∧
      (layout'.states.get id).isEnabled = (layout.states.get id).isEnabled) :
    layout'.Attentive := by
  obtain ⟨hsound, htree, -⟩ := hkeeps h.sound
  refine ⟨hsound, by rw [htree]; exact h.trickles, fun hdropped => ?_⟩
  have hinStep := h.inStep (hinforms.tells.dropped ▸ hdropped)
  exact hinStep.of_informs hinforms hstates

/-- The same, for what leaves the states of nodes alone altogether. -/
theorem of_states (h : layout.Attentive) (hkeeps : Keeps layout layout')
    (hinforms : Informs layout layout') (hstates : layout'.states = layout.states) :
    layout'.Attentive :=
  h.of_informs hkeeps hinforms fun id => by rw [hstates]; exact ⟨rfl, rfl, rfl⟩

theorem settle (h : layout.Attentive) : layout.settle.Attentive := by
  obtain ⟨hsound, htree, -⟩ := keeps_settle layout h.sound
  exact ⟨hsound, by rw [htree]; exact h.trickles, inStep_settle h.sound h.trickles h.inStep⟩

theorem bubble (h : layout.Attentive) (origin : NodeId) (event : Event) :
    (layout.bubble origin event).Attentive :=
  h.of_states (keeps_bubble layout origin event) (h.sound.informs_route (.bubble origin event))
    (states_bubbleTo origin _ event layout)

/-- A view is attached or detached. -/
theorem setIsAttached (h : layout.Attentive) (id : NodeId) (isAttached : Bool) :
    (layout.modifyState id ({ · with isAttached })).Attentive := by
  refine h.of_informs (keeps_modifyState layout id _)
    (.of_same rfl rfl rfl (fun _ => rfl) rfl fun _ => rfl) fun other => ?_
  simp only [modifyState, Table.get_modify]
  split
  · next heq => simp [heq]
  · simp

theorem setDisplayed (h : layout.Attentive) {isDisplayed : Bool}
    (hperform : layout.setDisplayed id isDisplayed = .ok layout') : layout'.Attentive := by
  obtain ⟨view, -, rfl⟩ := setDisplayed_eq_ok.mp hperform
  split
  · exact (h.bubble _ _).settle
  · exact h

theorem click (h : layout.Attentive) (hperform : layout.click id = .ok layout') :
    layout'.Attentive := by
  obtain ⟨spec, -, rfl⟩ := click_eq_ok.mp hperform
  split
  · exact h
  · split
    · exact (h.bubble _ _).settle
    · have hsteps : Steps .all layout (layout.pushAll (followUps id spec.id spec.effects)) :=
        steps_followUps layout trivial _ _
      exact (h.of_states (keeps_steps hsteps) (h.sound.informs_steps hsteps)
        (states_pushAll _ _)).settle

/-- An event from outside that asks for submission. -/
theorem dispatch (h : layout.Attentive) {origin : NodeId} {event : Event} {direction : Direction}
    (hordinary : (Call.dispatch origin event direction).IsOrdinary layout.tree)
    (hperform : layout.dispatch origin event direction = .ok layout') : layout'.Attentive := by
  obtain ⟨node, -, rfl⟩ := dispatch_eq_ok.mp hperform
  cases direction with
  | bubble => exact (h.bubble origin event).settle
  | trickle =>
    have hupdate : event.isUpdate = false := by
      cases event <;> first | rfl | cases hordinary
    exact (h.of_states (keeps_route layout (.trickle origin event))
      (h.sound.informs_route (.trickle origin event)) (states_trickle hupdate layout origin)).settle

/-- **Calls keep nodes in step**, as long as nothing is dropped. -/
theorem after (h : layout.Attentive) {call : Call} (hcall : call.IsOrdinary layout.tree) :
    (layout.after call).Attentive := by
  unfold Layout.after
  cases hperform : layout.perform call with
  | error error => exact h
  | ok layout' =>
    cases call with
    | attach id => exact (h.setIsAttached id true).setDisplayed (setAttached_eq_ok.mp hperform)
    | detach id => exact (h.setIsAttached id false).setDisplayed (setAttached_eq_ok.mp hperform)
    | setDisplayed id isDisplayed => exact h.setDisplayed hperform
    | setAnswer id answer =>
      obtain ⟨spec, -, -, rfl⟩ := setAnswer_eq_ok.mp hperform
      have hanswered : Attentive { layout with answers := layout.answers.set id answer } :=
        h.of_states (keeps_of_states rfl (fun _ => rfl) fun _ => rfl)
          (.of_same rfl rfl rfl (fun _ => rfl) rfl fun _ => rfl) rfl
      exact (hanswered.bubble _ _).settle
    | withdraw id =>
      obtain ⟨spec, -, rfl⟩ := withdraw_eq_ok.mp hperform
      exact ((h.setIsAttached id false).bubble _ _).settle
    | click id => exact h.click hperform
    | scrollTo id position =>
      obtain ⟨spec, hspec, rfl⟩ := scrollTo_eq_ok.mp hperform
      have hpager := isPager_of_pagerSpec (pagerSpec_eq_ok.mpr hspec)
      exact (h.of_states (keeps_updatePager hpager (·.reduce (.scroll position)))
        (h.sound.informs_updatePager hpager (·.reduce (.scroll position)))
        (states_changePager layout id (.scroll position))).settle
    | dispatch origin event direction => exact h.dispatch hcall hperform

end Attentive

/-- **After activation nodes are in step**, unless something was dropped. -/
theorem attentive_of_activate {environment : Environment} {root : Spec}
    (h : activate environment root = .ok layout) : layout.Attentive := by
  obtain ⟨hviolation, rfl⟩ := activate_eq_ok.mp h
  have wf := Tree.wellFormed_of_violation? (Tree.linked_ofSpec root) hviolation
  have hbuild := assembled_build environment wf
  have hattentive : (build environment (Tree.ofSpec root)).Attentive :=
    ⟨hbuild.sound wf, by rw [hbuild.tree_eq]; exact Tree.trickles_ofSpec root,
      fun _ => (introduced_build environment wf).inStep hbuild wf⟩
  exact hattentive.settle

/-! ## Between calls -/

/-- Where nothing waits, a node knows how the form and the pager around it are now. -/
theorem InStep.current (h : layout.InStep) (linked : layout.tree.Linked)
    (hqueue : layout.outbox.queue = []) {node : Node} (hnode : layout.tree.node? id = some node) :
    (layout.states.get id).status =
        node.scope.form.map (fun form => (layout.form form).value.status) ∧
      (layout.states.get id).position =
        node.scope.pager.map fun pager => (layout.pager pager).value := by
  have hform : layout.tree.formAround id = node.scope.form := by simp [Tree.formAround, hnode]
  have hpager : layout.tree.pagerAround id = node.scope.pager := by simp [Tree.pagerAround, hnode]
  constructor
  · cases haround : node.scope.form with
    | none => exact h.noForm id (hform.trans haround)
    | some form =>
      have hlags := h.status id form (hform.trans haround)
      rw [hqueue] at hlags
      rw [hlags.eq_getLast?, h.told form (linked.formAround_spec (hform.trans haround)).2]
      rfl
  · cases haround : node.scope.pager with
    | none => exact h.noPager id (hpager.trans haround)
    | some pager =>
      obtain ⟨first, hvalue, hlags⟩ :=
        h.position pager (linked.pagerAround_spec (hpager.trans haround)).2
      have hlags := hlags id (hpager.trans haround)
      rw [hqueue] at hlags
      rw [hlags.eq_getLast?, hvalue]
      rfl

/-- **Nodes follow their form and their pager.** Let a layout be activated, let calls of the
renderer and submissions asked for from outside follow, some of which may be refused, and let no
dispatch be dropped. Then what a node that is no form has heard last of the form and of the pager
around it, the first ones on the way up, is how these are now; and it is enabled as its rules come
to for them, with the flag of the form as the gate. Where there is no form, or no pager, rules on it
do not apply.

**Proof sketch.** The announcer of a form compares each snapshot with what was announced last, so
that once nothing is under way the last announcement holds the flags of the form, however changes
were nested. Announcements wait in the outbox in the order in which they were made. They trickle
down to all nodes below, and so to those around which the form is the nearest one. A node works out
its flag whenever it hears something. -/
theorem isEnabled_eq_evaluate {environment : Environment} {root : Spec} {node : Node}
    (h : activate environment root = .ok layout) {calls : List Call}
    (hcalls : ∀ call ∈ calls, call.IsOrdinary (Tree.ofSpec root))
    (hdropped : (layout.run calls).dropped = [])
    (hnode : (Tree.ofSpec root).node? id = some node) (hkind : node.view.kind ≠ .form) :
    let final := layout.run calls
    let form := (node.ancestors.find? fun up => ((Tree.ofSpec root).form? up).isSome).map
      fun form => (final.form form).value
    let pager := (node.ancestors.find? (Tree.ofSpec root).isPager).map
      fun pager => (final.pager pager).value
    (final.states.get id).status = form.map (·.status) ∧
      (final.states.get id).position = pager ∧
      final.isEnabled id = node.enable.evaluate (form.all (·.isEnabled))
        (form.map fun state => (state.isValid, state.isSubmitted)) pager true := by
  have linked := Tree.linked_ofSpec root
  rw [← linked.form_eq_find? hnode, ← linked.pager_eq_find? hnode]
  intro final form pager
  have htree := (sound_of_activate h).2.1
  obtain ⟨hidle, hattentive⟩ := Idle.run_induction (P := Attentive)
    (fun layout call _ ht hlayout hcall => hlayout.after (ht ▸ hcall)) calls layout
    (idle_of_activate h) htree (attentive_of_activate h) hcalls
  have hfinal : final.tree = Tree.ofSpec root :=
    (keeps_run layout calls (idle_of_activate h).sound).2.1.trans htree
  rw [← hfinal] at hnode
  have hinStep := hattentive.inStep hdropped
  obtain ⟨hstatus, hposition⟩ := hinStep.current hidle.sound.wf.linked hidle.queue hnode
  have hstatus' : (final.states.get id).status = form.map (·.status) := by
    rw [hstatus, Option.map_map]
    rfl
  have hposition' : (final.states.get id).position = pager := hposition
  have hflag : final.isEnabled id = (final.states.get id).isEnabled := by
    unfold isEnabled
    split
    · next spec hview =>
      have hform : node.view = .form spec := by simpa [Tree.view?, hnode] using hview
      rw [hform] at hkind
      exact absurd rfl hkind
    · rfl
  have hobeys := hinStep.obeys id node hnode hkind
  clear_value form pager
  refine ⟨hstatus', hposition', ?_⟩
  calc final.isEnabled id
      = node.enable.evaluate ((final.states.get id).status.all (·.isEnabled))
          ((final.states.get id).status.map fun status => (status.isValid, status.isSubmitted))
          (final.states.get id).position true := hflag.trans hobeys
    _ = node.enable.evaluate (form.all (·.isEnabled))
          (form.map fun state => (state.isValid, state.isSubmitted)) pager true := by
        rw [hstatus', hposition', Option.all_map, Option.map_map]
        rfl

/-- A pager whose first page is a form with an input and a button that has rules. -/
def booklet : Spec :=
  ⟨.pager ⟨"pages"⟩, [], [
    ⟨.form { id := "survey" }, [], [
      ⟨.input { id := "name", kind := .textInput, isRequired := true }, [], []⟩,
      ⟨.button { id := "next" }, [.formValidation, .pagerNext], []⟩]⟩,
    ⟨.container, [], []⟩]⟩

/-- The input is answered, the pager is scrolled to its last page, and a node that is missing is
tapped. -/
theorem isEnabled_eq_evaluate_booklet :
    ∃ layout final : Layout, activate {} booklet = .ok layout ∧
      final = layout.run [.setAnswer 2 (.textInput (some "Ada")), .scrollTo 0 1, .click 9] ∧
      final.dropped = [] ∧ final.isEnabled 3 = ((final.form 1).value.isEnabled &&
        (final.form 1).value.isValid && (final.pager 0).value.hasNext) := by
  have hactive : activate {} booklet = .ok (build {} (Tree.ofSpec booklet)).settle :=
    activate_eq_ok.mpr ⟨by decide, rfl⟩
  have hnode : (Tree.ofSpec booklet).node? 3 = some
      { view := .button { id := "next" }, enable := [.formValidation, .pagerNext]
        ancestors := [1, 0], children := [], size := 1, scope := ⟨some 1, some 0⟩ } := by decide
  have hcalls : ∀ call ∈ ([.setAnswer 2 (.textInput (some "Ada")), .scrollTo 0 1, .click 9] :
      List Call), call.IsOrdinary (Tree.ofSpec booklet) := by
    intro call hcall
    simp only [List.mem_cons, List.not_mem_nil, or_false] at hcall
    rcases hcall with rfl | rfl | rfl <;> trivial
  have hdropped : ((build {} (Tree.ofSpec booklet)).settle.run
      [.setAnswer 2 (.textInput (some "Ada")), .scrollTo 0 1, .click 9]).dropped = [] := by
    decide +kernel
  have hform : [1, 0].find? (fun up => ((Tree.ofSpec booklet).form? up).isSome) = some 1 := by
    decide
  have hpager : [1, 0].find? (Tree.ofSpec booklet).isPager = some 0 := by decide
  refine ⟨_, _, hactive, rfl, hdropped, ?_⟩
  refine (isEnabled_eq_evaluate hactive hcalls hdropped hnode nofun).2.2.trans ?_
  simp [hform, hpager, EnableRules.evaluate, EnableRules.formRule, EnableRules.pagerRule,
    EnableRules.hasForm, EnableRules.hasPager, EnableBehavior.isForm, EnableBehavior.isPager]

end Layout

end FormTree

import FormTree.Proofs.Layout.Assembly
import FormTree.Proofs.Layout.Moves

set_option autoImplicit false

/-!
# Runs

What can happen to an active layout from outside: calls of the renderer, events dispatched to it,
and changes made through the handles of its forms and pagers.

## Main definitions

* `FormTree.Layout.after`, `FormTree.Layout.run` — a layout after a call, and after several.
* `FormTree.Action`, `FormTree.Layout.act`, `FormTree.Layout.acts` — calls and changes through
  handles.
* `FormTree.Layout.Keeps` — soundness and the verdicts of forms are kept.

## Main results

* `FormTree.Layout.keeps_after` — calls keep soundness and verdicts.
* `FormTree.Layout.sound_acts` — whatever happens keeps soundness.
* `FormTree.Layout.sound_of_activate` — an active layout is sound.
-/

namespace FormTree

namespace Layout

/-- The layout after a call; a call that is refused changes nothing. -/
def after (layout : Layout) (call : Call) : Layout :=
  match layout.perform call with
  | .ok layout => layout
  | .error _ => layout

/-- The layout after several calls. -/
def run (layout : Layout) (calls : List Call) : Layout := calls.foldl after layout

end Layout

/-- What can happen to a layout from outside. -/
inductive Action where
  /-- A call of the renderer, or an event raised from outside. -/
  | call (call : Call)
  /-- A change of a form through its handle. -/
  | changeForm (node : NodeId) (intent : FormIntent)
  /-- A change of a pager through its handle. -/
  | updatePager (node : NodeId) (change : PagerState → PagerState)

namespace Layout

/-- The layout after something happened to it; there are handles of forms and pagers only. -/
def act (layout : Layout) : Action → Layout
  | .call call => layout.after call
  | .changeForm id intent =>
    match layout.formSpec id with
    | .ok _ => layout.changeForm id intent
    | .error _ => layout
  | .updatePager id change =>
    match layout.pagerSpec id with
    | .ok _ => layout.updatePager id change
    | .error _ => layout

/-- The layout after several things happened to it. -/
def acts (layout : Layout) (actions : List Action) : Layout := actions.foldl act layout

/-! ## Nodes as forms and pagers -/

variable {layout layout' layout'' : Layout} {id : NodeId}

/-- A node with a form's handle is a form. -/
theorem isSome_form?_of_formSpec {spec : FormSpec} (h : layout.formSpec id = .ok spec) :
    (layout.tree.form? id).isSome := by
  obtain ⟨node, hnode, hview⟩ := Option.map_eq_some_iff.mp (formSpec_eq_ok.mp h)
  exact Tree.isSome_form? hnode hview

/-- A node with a pager's handle is a pager. -/
theorem isPager_of_pagerSpec {spec : PagerSpec} (h : layout.pagerSpec id = .ok spec) :
    layout.tree.isPager id = true := by
  rw [Tree.isPager, pagerSpec_eq_ok.mp h]
  rfl

/-! ## What is kept -/

/-- If the first layout is sound then so is the second, of the same tree, and forms that carried
their verdicts still do. -/
def Keeps (layout layout' : Layout) : Prop :=
  layout.Sound → layout'.Sound ∧ layout'.tree = layout.tree ∧
    ∀ id, layout.Ruled id → layout'.Ruled id

theorem Keeps.refl (layout : Layout) : Keeps layout layout := fun h => ⟨h, rfl, fun _ hr => hr⟩

theorem Keeps.trans (h : Keeps layout layout') (h' : Keeps layout' layout'') :
    Keeps layout layout'' := by
  intro hsound
  obtain ⟨hs, ht, hr⟩ := h hsound
  obtain ⟨hs', ht', hr'⟩ := h' hs
  exact ⟨hs', ht'.trans ht, fun id hruled => hr' id (hr id hruled)⟩

/-- What leaves the tree, the forms and the pagers alone keeps everything. -/
theorem keeps_of_states (htree : layout'.tree = layout.tree)
    (hforms : ∀ id, layout'.form id = layout.form id)
    (hpagers : ∀ id, layout'.pager id = layout.pager id) : Keeps layout layout' := fun h =>
  ⟨h.congr htree hforms hpagers, htree, fun id hr => hr.of_values htree (by rw [hforms])
    (fun _ _ => by rw [hforms]) fun _ => by rw [hpagers]⟩

theorem keeps_report (layout : Layout) (report : Report) : Keeps layout (layout.report report) := by
  unfold Layout.report
  split
  · exact keeps_of_states rfl (fun _ => rfl) fun _ => rfl
  · exact .refl _

theorem keeps_applyUpdate (layout : Layout) (update : AttributeUpdate) :
    Keeps layout (layout.applyUpdate update) := by
  unfold applyUpdate
  split
  · exact keeps_of_states rfl (fun _ => rfl) fun _ => rfl
  · exact .refl _

/-- A change of a form that does not set its flag keeps everything. -/
theorem keeps_changeForm (hsome : (layout.tree.form? id).isSome) {intent : FormIntent}
    (hkeeps : intent.setsEnabled = false) : Keeps layout (layout.changeForm id intent) := fun h =>
  ⟨h.changeForm hsome intent, (h.change hsome intent).tree_eq,
    fun _ hr => h.ruled_changeForm hsome hr fun _ => hkeeps⟩

theorem keeps_updatePager (hpager : layout.tree.isPager id = true)
    (change : PagerState → PagerState) : Keeps layout (layout.updatePager id change) := fun h =>
  have hchange := h.pagerChange hpager change
  ⟨hchange.sound, hchange.aftermath.tree_eq, hchange.ruled⟩

/-- Submission keeps everything. -/
theorem keeps_submitForm (hsome : (layout.tree.form? id).isSome) (spec : FormSpec)
    (button : Option String) : Keeps layout (layout.submitForm id spec button) := by
  unfold submitForm
  dsimp only
  split
  · exact .refl _
  · have hsubmit : Keeps layout (layout.changeForm id .submit) := keeps_changeForm hsome rfl
    refine hsubmit.trans ?_
    have hpush : ∀ (world : Layout) (dispatch : Dispatch), Keeps world (world.push dispatch) :=
      fun _ _ => keeps_of_states rfl (fun _ => rfl) fun _ => rfl
    split
    · exact hpush _ _
    · exact (hpush _ _).trans (keeps_applyUpdate _ _)

/-- **Every step of routing keeps soundness and verdicts.** -/
theorem keeps_step {allow : Allowance} (step : Step allow layout layout') :
    Keeps layout layout' := by
  cases step with
  | @change id intent htakes hsome =>
    exact keeps_changeForm hsome (by cases intent <;> first | rfl | cases htakes)
  | @page id intent hpager => exact keeps_updatePager hpager (·.reduce intent)
  | note id change => exact keeps_of_states rfl (fun _ => rfl) fun _ => rfl
  | submit button _ hform => exact keeps_submitForm (by rw [hform]; rfl) _ button
  | follow _ _ => exact keeps_of_states rfl (fun _ => rfl) fun _ => rfl
  | dismiss dismissal => exact keeps_of_states rfl (fun _ => rfl) fun _ => rfl
  | reportDismissal _ _ _ _ => exact keeps_report _ _

theorem keeps_steps {allow : Allowance} (steps : Steps allow layout layout') :
    Keeps layout layout' := by
  induction steps with
  | refl => exact .refl _
  | tail _ step ih => exact ih.trans (keeps_step step)

/-- **Whatever may happen to forms and pagers keeps soundness and verdicts.** -/
theorem keeps_moves (moves : Moves layout layout') : Keeps layout layout' := by
  induction moves with
  | refl => exact .refl _
  | tail _ move ih =>
    refine ih.trans ?_
    cases move with
    | step step => exact keeps_step step
    | updatePager change hpager => exact keeps_updatePager hpager change
    | aside htree hforms hpagers =>
      exact keeps_of_states htree (fun id => congrArg (·.get id) hforms)
        fun id => congrArg (·.get id) hpagers

theorem keeps_bubble (layout : Layout) (origin : NodeId) (event : Event) :
    Keeps layout (layout.bubble origin event) :=
  keeps_moves (moves_bubble layout origin event)

theorem keeps_route (layout : Layout) (dispatch : Dispatch) :
    Keeps layout (layout.route dispatch) :=
  keeps_moves (moves_route layout dispatch)

/-- Routing all that waits keeps soundness and verdicts, whether or not the limit is reached. -/
theorem keeps_settle (layout : Layout) : Keeps layout layout.settle :=
  keeps_moves (moves_settle layout)

theorem keeps_modifyState (layout : Layout) (id : NodeId) (change : NodeState → NodeState) :
    Keeps layout (layout.modifyState id change) :=
  keeps_of_states rfl (fun _ => rfl) fun _ => rfl

/-! ## Calls -/

theorem moves_after (layout : Layout) (call : Call) : Moves layout (layout.after call) := by
  unfold after
  cases h : layout.perform call with
  | ok layout' => exact moves_perform h
  | error error => exact .refl

theorem moves_run (layout : Layout) (calls : List Call) : Moves layout (layout.run calls) := by
  induction calls generalizing layout with
  | nil => exact .refl
  | cons call calls ih => exact (moves_after layout call).trans (ih _)

/-- **Every call of the renderer and every event from outside keeps soundness and verdicts.** -/
theorem keeps_after (layout : Layout) (call : Call) : Keeps layout (layout.after call) :=
  keeps_moves (moves_after layout call)

theorem keeps_run (layout : Layout) (calls : List Call) : Keeps layout (layout.run calls) :=
  keeps_moves (moves_run layout calls)

/-! ## Actions -/

/-- Whatever happens to a sound layout leaves it sound, and keeps the tree. -/
theorem sound_act (h : layout.Sound) (action : Action) :
    (layout.act action).Sound ∧ (layout.act action).tree = layout.tree := by
  cases action with
  | call call =>
    obtain ⟨hs, ht, -⟩ := keeps_after layout call h
    exact ⟨hs, ht⟩
  | changeForm form intent =>
    rw [act]
    cases hspec : layout.formSpec form with
    | error error => exact ⟨h, rfl⟩
    | ok spec =>
      have hsome := isSome_form?_of_formSpec hspec
      exact ⟨h.changeForm hsome intent, (h.change hsome intent).tree_eq⟩
  | updatePager pager change =>
    rw [act]
    cases hspec : layout.pagerSpec pager with
    | error error => exact ⟨h, rfl⟩
    | ok spec =>
      obtain ⟨hs, ht, -⟩ := keeps_updatePager (isPager_of_pagerSpec hspec) change h
      exact ⟨hs, ht⟩

theorem sound_acts (h : layout.Sound) (actions : List Action) :
    (layout.acts actions).Sound ∧ (layout.acts actions).tree = layout.tree := by
  induction actions generalizing layout with
  | nil => exact ⟨h, rfl⟩
  | cons action actions ih =>
    obtain ⟨hs, ht⟩ := sound_act h action
    obtain ⟨hs', ht'⟩ := ih hs
    exact ⟨hs', ht'.trans ht⟩

/-! ## Activation -/

/-- Activation checks the tree, sets the nodes up and routes their announcements. -/
theorem activate_eq_ok {environment : Environment} {spec : Spec} :
    activate environment spec = .ok layout ↔ (Tree.ofSpec spec).violation? = none ∧
      layout = (build environment (Tree.ofSpec spec)).settle := by
  unfold activate
  dsimp only
  split
  · next error herror => simp [herror]
  · next hnone => simp [hnone, eq_comm]

/-- **An active layout is sound**, and its forms carry the verdicts of their rules. -/
theorem sound_of_activate {environment : Environment} {spec : Spec}
    (h : activate environment spec = .ok layout) :
    layout.Sound ∧ layout.tree = Tree.ofSpec spec ∧ ∀ id, layout.Ruled id := by
  obtain ⟨hviolation, rfl⟩ := activate_eq_ok.mp h
  have wf := Tree.wellFormed_of_violation? (Tree.linked_ofSpec spec) hviolation
  have hbuild := assembled_build environment wf
  obtain ⟨hsound, htree, hruled⟩ := keeps_settle _ (hbuild.sound wf)
  refine ⟨hsound, htree.trans hbuild.tree_eq, fun id => hruled id ?_⟩
  by_cases hlt : id < (Tree.ofSpec spec).size
  · exact hbuild.ruled id hlt
  · intro hne
    rw [hbuild.tree_eq] at hne
    exact absurd (Tree.lt_size_of_form? (Tree.isSome_form?_of_rules hne)) hlt

end Layout

end FormTree

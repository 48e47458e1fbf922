import FormTree.Proofs.Layout.Reaching
import FormTree.Proofs.Layout.Starting

set_option autoImplicit false

/-!
# What forms announce over time

A form announces its flags when it is set up, and from then on each time that they change. Snapshots
are delivered late, and out of step with the form: while one of them is taken to the observers, the
form, and forms further down, may be changed again, by rules, by the forms and pagers around them,
or by observers from outside, which may do whatever can be done through handles. But each snapshot
that is committed is taken to the announcer, in the order of the commits. So what the form announces
are the flags in its log, with repetitions left out.

## Main definitions

* `FormTree.Layout.AnnouncesChanges` — what a form has announced are its changes of flags.
* `FormTree.Layout.Queues` — what a form announces is put into the outbox.

## Main results

* `FormTree.Layout.queues_reviseForm`, `FormTree.Layout.queues_updatePager`,
  `FormTree.Layout.queues_route` — whatever is changed and routed, announcements are put into the
  outbox.
* `FormTree.Layout.forms_announce_changes` — every form announces exactly its changes of flags.
-/

namespace FormTree.Layout

variable {layout layout' layout'' : Layout} {tree : Tree} {id : NodeId} {number : Nat}
  {created : Observable FormState FormReaction}

/-! ## Changes of flags -/

/-- **What the form `id` has announced are its changes of flags**, where it was set up as
`created`. -/
structure AnnouncesChanges (id : NodeId) (created : Observable FormState FormReaction)
    (layout : Layout) : Prop where
  /-- These are the flags with which it was set up, and those of what it committed since, with
  repetitions left out. -/
  log : ∃ since, (layout.form id).history = created.history ++ since ∧
    layout.announced.get id = (created.value.status :: since.map (·.status)).destutter (· ≠ ·)
  /-- No flags are announced twice in a row. -/
  chain : (layout.announced.get id).IsChain (· ≠ ·)
  /-- The flags that were announced last are those that the form has. -/
  last : (layout.announced.get id).getLast? = some (layout.form id).value.status

/-- Where the form is not being delivered, everything that it committed has been told. -/
theorem Echoes.announcesChanges (h : Echoes tree id number created none layout) :
    AnnouncesChanges id created layout := by
  obtain ⟨since, hhistory, hvalue, hannounced⟩ := h.tracks.log
  rw [h.tracks.pending rfl, Option.getD_none, List.append_nil, List.append_nil] at hhistory hvalue
  refine ⟨⟨since, hhistory, hannounced⟩, ?_, ?_⟩
  · rw [hannounced]
    exact List.isChain_destutter _ _
  · rw [hannounced, List.getLast?_destutter, ← List.map_cons, List.getLast?_map, hvalue,
      Option.map_some]

/-! ## Announcements in the outbox -/

/-- **What the form `id` announces is put into the outbox**, behind what waits there, and no other
flags of its are. -/
def Queues (id : NodeId) (layout layout' : Layout) : Prop :=
  ∃ more, layout'.outbox.queue = layout.outbox.queue ++ more ∧
    layout'.announced.get id = layout.announced.get id ++ more.filterMap (·.status? id)

namespace Queues

theorem refl (layout : Layout) : Queues id layout layout := ⟨[], by simp, by simp⟩

theorem trans (h : Queues id layout layout') (h' : Queues id layout' layout'') :
    Queues id layout layout'' := by
  obtain ⟨more, hqueue, hannounced⟩ := h
  obtain ⟨more', hqueue', hannounced'⟩ := h'
  refine ⟨more ++ more', by rw [hqueue', hqueue, List.append_assoc], ?_⟩
  rw [hannounced', hannounced, List.filterMap_append, List.append_assoc]

theorem of_tells (h : Tells layout layout') : Queues id layout layout' := by
  obtain ⟨more, hqueue, -, hannounced, -⟩ := h.queue
  exact ⟨more, hqueue, hannounced id⟩

end Queues

/-- Whatever a form is changed to through its handle, announcements are put into the outbox. -/
theorem queues_reviseForm (layout : Layout) (form : NodeId) (change : FormState → FormState) :
    Queues id layout (layout.reviseForm form change) := by
  refine (formPlace form).flush_induction (reactForm (updateForm layout.tree.size))
    (P := Queues id layout) (fun observer snapshot world hworld => ?_)
    (fun _ _ _ hworld => hworld) (.refl layout)
  have hupdate : ∀ target intent world,
      Queues id world (updateForm layout.tree.size target intent world) :=
    fun target intent world => .of_tells (tells_updateForm _ target intent world)
  unfold reactForm
  split
  · exact hworld.trans (hupdate _ _ _)
  · split
    · exact hworld
    · split
      · exact hworld
      · exact (hworld.trans (.of_tells (.bubble _ _ _))).trans (hupdate _ _ _)
  · exact hworld.trans (hupdate _ _ _)
  · split
    · exact hworld
    · exact hworld.trans (.of_tells (.announce _ _ _))
  · exact hworld

/-- Whatever a pager is changed to through its handle, announcements are put into the outbox. -/
theorem queues_updatePager (layout : Layout) (pager : NodeId) (change : PagerState → PagerState) :
    Queues id layout (layout.updatePager pager change) := by
  refine (pagerPlace pager).flush_induction (reactPager (updateForm layout.depth))
    (P := Queues id layout) (fun observer snapshot world hworld => ?_)
    (fun _ _ _ hworld => hworld) (.refl layout)
  unfold reactPager
  split
  · next position _ =>
    have hposition : Queues id world (world.announcePosition position snapshot) :=
      ⟨[.trickle position (.pagerUpdate position snapshot)], rfl,
        by simp [Dispatch.status?, announcePosition, push]⟩
    exact hworld.trans hposition
  · exact hworld.trans (.of_tells (tells_updateForm _ _ _ _))
  · exact hworld

/-- Whatever a node does when an event comes by, announcements are put into the outbox. -/
lemma queues_step {allow : Allowance} (step : Step allow layout layout') :
    Queues id layout layout' := by
  cases step with
  | @change form intent _ _ => exact queues_reviseForm layout form (·.reduce intent)
  | @page pager intent _ => exact queues_updatePager layout pager (·.reduce intent)
  | note node change => exact .of_tells (.of_same rfl rfl rfl rfl fun _ => ⟨rfl, rfl⟩)
  | @submit form node spec button _ _ =>
    have hchange : Queues id layout (layout.changeForm form .submit) :=
      queues_reviseForm layout form (·.reduce .submit)
    have hresult := fun result => hchange.trans (.of_tells (.bubble _ form result))
    unfold submitForm
    dsimp only
    split
    · exact .refl layout
    · split
      · exact hresult _
      · exact (hresult _).trans (.of_tells (informs_applyUpdate _ _).tells)
  | follow _ _ => exact .of_tells (.bubble _ _ _)
  | dismiss _ => exact .of_tells (.of_same rfl rfl rfl rfl fun _ => ⟨rfl, rfl⟩)
  | reportDismissal _ _ _ _ => exact .of_tells (informs_report _ _).tells

/-- **Whatever is routed**, announcements are put into the outbox. -/
theorem queues_route (layout : Layout) (dispatch : Dispatch) :
    Queues id layout (layout.route dispatch) := by
  cases hreport : dispatch.isReport with
  | true =>
    obtain ⟨reports, hroute⟩ := route_report layout hreport
    rw [hroute]
    exact ⟨[], by simp, by simp⟩
  | false =>
    have steps := steps_route layout hreport dispatch.event.isWithin_all
    generalize layout.route dispatch = last at steps ⊢
    induction steps with
    | refl => exact .refl layout
    | tail _ step ih => exact ih.trans (queues_step step)

/-! ## Every form -/

/-- **Every form announces exactly its changes of flags.** Let a layout be activated, and let `id`
be one of its forms, set up as `created`. Then what the form has announced are the flags that it was
set up with and those of the snapshots that it committed since, in the order of the commits, with
repetitions left out; so no flags are announced twice in a row, none are left out on the way, and
the last ones are those that the form has. This holds

* after any visits: calls of the renderer, events from outside, and changes through handles, which
  may be any functions of the snapshot, with observers that come and go;
* and whatever the layout undergoes if observers from outside answer snapshots with whatever can be
  done through handles, so that commits are nested in any way, with no bound on depth and rounds.

And what is announced is what is put into the outbox: while the nodes are set up, whatever is
routed, and whatever is changed through a handle.

**Proof sketch.** When all nodes are set up, each form has announced its flags once. After that, a
snapshot is announced, in delivery with the announcer still to come, or pending, in the order of the
commits, whatever the layout undergoes; and visits are among that, since their bounds suffice. Once
control is back with the caller, nothing is in delivery or pending. -/
theorem forms_announce_changes {environment : Environment} {spec : Spec}
    (h : activate environment spec = .ok layout)
    (hsome : ((Tree.ofSpec spec).form? id).isSome) :
    let created := (setUpTo environment (Tree.ofSpec spec) (id + 1)).form id
    (∀ visits : List Visit,
      AnnouncesChanges id created (Visited.visits { layout } visits).layout) ∧
    (∀ layout', Undergoes layout layout' → AnnouncesChanges id created layout') ∧
    Queues id { tree := Tree.ofSpec spec, environment } (build environment (Tree.ofSpec spec)) ∧
    ∀ before, (∀ dispatch, Queues id before (before.route dispatch)) ∧
      (∀ form change, Queues id before (before.reviseForm form change)) ∧
      ∀ pager change, Queues id before (before.updatePager pager change) := by
  intro created
  obtain ⟨hviolation, hlayout⟩ := activate_eq_ok.mp h
  have wf := Tree.wellFormed_of_violation? (Tree.linked_ofSpec spec) hviolation
  have hplacid := ((assembled_build environment wf).sound wf).placid
  have hactive : Reached (build environment (Tree.ofSpec spec)) layout := by
    rw [hlayout]
    exact (Reached.refl hplacid).settle
  obtain ⟨number, hbuild⟩ := echoes_build environment wf hsome
  have hundergoes : ∀ layout', Undergoes layout layout' → AnnouncesChanges id created layout' :=
    fun layout' hmore => (hbuild.undergoes hsome (hactive.undergoes.trans hmore)).announcesChanges
  refine ⟨fun visits => hundergoes _ ?_, hundergoes, ⟨_, rfl, ?_⟩,
    fun before => ⟨queues_route before, queues_reviseForm before, queues_updatePager before⟩⟩
  · have hstart : Reached layout (⟨layout, []⟩ : Visited).layout := .refl hactive.placid
    exact (hstart.visits (accounted_of_activate h) visits).undergoes
  · exact (introduced_build environment wf).announced id

/-- A form that accepts input only while all that it tracks is valid. -/
def petition : Spec :=
  ⟨.form { id := "petition", formEnabled := [.formValidation] }, [], [
    ⟨.input { id := "name", kind := .textInput, isRequired := true }, [], []⟩,
    ⟨.button { id := "sign", behaviors := [.formSubmit] }, [], []⟩]⟩

/-- The form is observed from outside, the input is answered, the form is disabled through its
handle, the input is answered again, and the form is submitted. -/
def petitionVisits : List Visit :=
  [.watchForm 0, .act (.call (.setAnswer 1 (.textInput (some "Ada")))),
    .act (.reviseForm 0 ({ · with isEnabled := false })),
    .act (.call (.setAnswer 1 (.textInput (some "Ada L.")))), .act (.call (.click 2))]

/-- The form is set up disabled. The first answer makes it valid, and then its rules enable it; they
enable it again after it is disabled. The second answer changes no flags. -/
theorem forms_announce_changes_petition :
    ∃ layout final : Layout, activate {} petition = .ok layout ∧
      final = (Visited.visits { layout } petitionVisits).layout ∧
      AnnouncesChanges 0 ((setUpTo {} (Tree.ofSpec petition) 1).form 0) final ∧
      (final.form 0).version = 8 ∧
      final.announced.get 0 = [⟨false, false, false⟩, ⟨true, false, false⟩, ⟨true, true, false⟩,
        ⟨true, false, false⟩, ⟨true, true, false⟩, ⟨true, true, true⟩] := by
  have hactive : activate {} petition = .ok (build {} (Tree.ofSpec petition)).settle :=
    activate_eq_ok.mpr ⟨by decide, rfl⟩
  have hsome : ((Tree.ofSpec petition).form? 0).isSome := by decide
  refine ⟨_, _, hactive, rfl, (forms_announce_changes hactive hsome).1 petitionVisits, ?_, ?_⟩
  · decide +kernel
  · decide +kernel

end FormTree.Layout

import FormTree.Proofs.Layout.Hearing

set_option autoImplicit false

/-!
# Setting up what is heard

While the nodes of a layout are set up, its forms and pagers announce how they start. Nothing
trickles down yet: when all nodes are set up, everything that was announced waits for them in the
outbox, and they are in step with what they have not heard.

## Main definitions

* `FormTree.Layout.Introduced` — a layout whose nodes are set up as far as a number, and to which
  nothing has trickled down.

## Main results

* `FormTree.Layout.setUpTies_induction` — what is kept while a form is tied to what is around it.
* `FormTree.Layout.introduced_build` — after setting up, what was announced waits for the nodes.
* `FormTree.Layout.Introduced.inStep` — nodes that have not heard anything are in step.
-/

namespace FormTree

/-- A reaction that serves some forms serves all those among them. -/
theorem FormReaction.Serves.mono {live live' : NodeId → Prop} {reaction : FormReaction}
    (h : reaction.Serves live) (hlive : ∀ id, live id → live' id) : reaction.Serves live' := by
  cases reaction with
  | announce form => exact h
  | guest => exact h
  | _ => exact hlive _ h

namespace Layout

variable {layout layout' : Layout} {id : NodeId}

/-! ## Setting up -/

/-- What observers of the form `id` and its changes keep, is kept while the form is tied to what is
around it. -/
theorem setUpTies_induction {P : Layout → Prop} {id : NodeId} {node : Node} {spec : FormSpec}
    (hwatch : ∀ (world : Layout) (form : NodeId) (reaction : FormReaction),
      reaction.Serves (· = id) → P world → P (world.watchForm form reaction))
    (hlook : ∀ (world : Layout) (pager : NodeId), P world →
      P (world.watchPager pager (.refresh id)))
    (hchange : ∀ (world : Layout) (intent : FormIntent), P world → P (world.changeForm id intent))
    (h : P layout) : P ((layout.setUpInheritance id spec node.scope).setUpRules id
      (node.formRules spec) node.scope) := by
  have htied : P (layout.setUpInheritance id spec node.scope) := by
    unfold setUpInheritance
    split
    · exact hwatch _ _ _ rfl (hchange _ _ h)
    · exact hwatch _ _ _ rfl h
  unfold setUpRules
  split
  · exact htied
  · -- its own changes, those of the pager, and those of the form around it
    have hown : P (if (node.formRules spec).hasForm = true then
        (layout.setUpInheritance id spec node.scope).watchForm id (.refresh id)
        else layout.setUpInheritance id spec node.scope) := by
      split
      · exact hwatch _ _ _ rfl htied
      · exact htied
    have hpager : ∀ pager world, P world → P (if (node.formRules spec).hasPager = true then
        world.watchPager pager (.refresh id) else world) := by
      intro pager world hworld
      split
      · exact hlook _ _ hworld
      · exact hworld
    refine hchange _ (.setEnabled _) ?_
    cases node.scope.form with
    | none =>
      cases node.scope.pager with
      | none => exact hown
      | some pager => exact hpager pager _ hown
    | some parent =>
      refine hwatch _ _ _ rfl ?_
      cases node.scope.pager with
      | none => exact hown
      | some pager => exact hpager pager _ hown

/-- A form that starts anew has nothing to announce so far, and its announcer may get any number. -/
theorem Announces.raise {live : NodeId → Prop} {number : NodeId → Nat}
    {quiet : NodeId → List FormStatus} (h : Announces live number quiet (fun _ => none) layout)
    (id : NodeId) (spec : FormSpec) (next : Nat) :
    Announces live (Function.update number id next) quiet (fun _ => none)
      (layout.raise id spec) where
  isDelivering := by simp
  aims other hlive := by
    rw [form_raise]
    split
    · simp
    · next hne =>
      rw [Function.update_of_ne (Ne.symm hne)]
      exact h.aims other hlive
  last other hlive := by
    rw [form_raise]
    split
    · simp
    · exact h.last other hlive
  quiet := h.quiet

/-- A form announces its flags, and from then on its announcer does. -/
theorem Announces.watchAnnouncer {live : NodeId → Prop} {number : NodeId → Nat}
    {quiet : NodeId → List FormStatus} (h : Announces live number quiet (fun _ => none) layout)
    (hlive : live id) (hpending : (layout.form id).pending = [])
    (hnumber : number id = (layout.form id).nextObserver) :
    Announces live number quiet (fun _ => none)
      ((layout.announce id (layout.form id).value.status).watchForm id (.announce id)) := by
  have hannounced := fun other => layout.announced_announce id other (layout.form id).value.status
  refine ⟨by simp, fun other hother => ?_, fun other hother => ?_, fun other hother => ?_⟩
  · rw [form_watchForm]
    split
    · next heq =>
      subst heq
      intro observer hobserver
      rcases List.mem_append.mp hobserver with hobserver | hobserver
      · exact h.aims id hlive observer hobserver
      · obtain rfl := List.mem_singleton.mp hobserver
        exact .inr ⟨rfl, hnumber.symm⟩
    · exact h.aims other hother
  · rw [form_watchForm]
    split
    · next heq =>
      subst heq
      intro _
      show ((layout.announce id (layout.form id).value.status).announced.get id ++
        (layout.form id).pending.map (·.status)).getLast? = some (layout.form id).value.status
      rw [hannounced, if_pos rfl, hpending]
      simp
    · next hne =>
      have hsame := hannounced other
      rw [if_neg hne, List.append_nil] at hsame
      intro hannouncer
      show ((layout.announce id (layout.form id).value.status).announced.get other ++
        (layout.form other).pending.map (·.status)).getLast? = some (layout.form other).value.status
      rw [hsame]
      exact h.last other hother hannouncer
  · show (layout.announce id (layout.form id).value.status).announced.get other = _
    rw [hannounced, if_neg (by rintro rfl; exact hother hlive), List.append_nil]
    exact h.quiet other hother

/-- What was announced waits in the outbox, and nothing has trickled down so far; the pagers before
`bound` are where they started. -/
structure Introduced (tree : Tree) (bound : NodeId) (layout : Layout) : Prop where
  states : layout.states = {}
  announced : ∀ form,
    layout.announced.get form = layout.outbox.queue.filterMap (·.status? form)
  announces : ∃ number, Announces (fun form => (tree.form? form).isSome) number (fun _ => [])
    (fun _ => none) layout
  started : ∀ pager, pager < bound → tree.isPager pager = true →
    (layout.pager pager).history = [] ∧
    layout.outbox.queue.filterMap (·.position? pager) = [(layout.pager pager).value]
  ahead : ∀ pager, bound ≤ pager → layout.outbox.queue.filterMap (·.position? pager) = []

section Introduced

variable {environment : Environment} {tree : Tree}

/-- Before any node is set up. -/
theorem introduced_zero (environment : Environment) (tree : Tree) :
    Introduced tree 0 { tree, environment } where
  states := rfl
  announced _ := rfl
  announces := by
    have hblank : ∀ id, (({ tree, environment } : Layout).form id).observers = [] := fun _ => rfl
    exact ⟨fun _ => 0, by simp, by simp [hblank], by simp [hblank], fun _ _ => rfl⟩
  started _ h := absurd h (Nat.not_lt_zero _)
  ahead _ _ := rfl

/-- **Setting up a node that is no pager** leaves the pagers where they are. -/
theorem Introduced.of_tells (h : Introduced tree id layout) (hpager : tree.isPager id = false)
    (htells : Tells layout layout') (hstates : layout'.states = layout.states)
    (hpagers : ∀ pager, (layout'.pager pager).value = (layout.pager pager).value ∧
      (layout'.pager pager).history = (layout.pager pager).history)
    (hannounces : ∃ number, Announces (fun form => (tree.form? form).isSome) number (fun _ => [])
      (fun _ => none) layout') : Introduced tree (id + 1) layout' := by
  obtain ⟨more, hqueue, -, hannounced, hhistory⟩ := htells.queue
  have hnone : ∀ pager, more.filterMap (·.position? pager) = [] := fun pager =>
    List.append_right_eq_self.mp ((hhistory pager).symm.trans (hpagers pager).2)
  refine ⟨hstates.trans h.states, fun form => ?_, hannounces, fun pager hlt hp => ?_,
    fun pager hle => ?_⟩
  · rw [hannounced, h.announced, hqueue, List.filterMap_append]
  · have hne : pager ≠ id := by
      rintro rfl
      simp [hpager] at hp
    rw [(hpagers pager).1, (hpagers pager).2, hqueue, List.filterMap_append, hnone,
      List.append_nil]
    exact h.started pager (lt_of_lt_succ hlt hne) hp
  · rw [hqueue, List.filterMap_append, hnone, List.append_nil]
    exact h.ahead pager (Nat.le_of_succ_le hle)

/-- **Setting up a pager**: it starts at its first page, and announces its position. -/
theorem Introduced.pager (h : Introduced tree id layout) (spec : PagerSpec) (pages : Nat) :
    Introduced tree (id + 1) (layout.setUpPager id spec pages) := by
  have hpagers : ∀ other, (layout.setUpPager id spec pages).pager other =
      if id = other then
        ({ value := PagerState.start spec.id (UInt64.ofNat pages) } :
          Observable PagerState PagerReaction).watch (.announce id)
      else layout.pager other := pager_setUpPager layout id spec pages
  have hqueue : (layout.setUpPager id spec pages).outbox.queue = layout.outbox.queue ++
      [.trickle id (.pagerUpdate id (PagerState.start spec.id (UInt64.ofNat pages)))] := rfl
  obtain ⟨number, hannounces⟩ := h.announces
  refine ⟨h.states, fun form => ?_, ⟨number, hannounces.congr (fun _ => rfl) rfl⟩,
    fun pager hlt hp => ?_, fun pager hle => ?_⟩
  · rw [hqueue, List.filterMap_append]
    show layout.announced.get form = _
    rw [h.announced]
    simp [Dispatch.status?]
  · rw [hpagers, hqueue, List.filterMap_append]
    by_cases heq : id = pager
    · subst heq
      rw [if_pos rfl, h.ahead id (Nat.le_refl _)]
      exact ⟨rfl, by simp [Dispatch.position?, Observable.watch]⟩
    · rw [if_neg heq]
      simpa [Dispatch.position?, heq] using
        h.started pager (lt_of_lt_succ hlt (Ne.symm heq)) hp
  · have hne : id ≠ pager := Nat.ne_of_lt hle
    rw [hqueue, List.filterMap_append, h.ahead pager (Nat.le_of_succ_le hle)]
    simp [Dispatch.position?, hne]

/-- A form is tied to what is around it, announces its flags, and gets its announcer; a nested form
announces itself. -/
theorem setUpForm_eq {tied : Layout} {node : Node} {spec : FormSpec}
    (h : ((layout.raise id spec).setUpInheritance id spec node.scope).setUpRules id
      (node.formRules spec) node.scope = tied) : layout.setUpForm id node spec =
    if spec.isChild then
      ((tied.announce id (tied.form id).value.status).watchForm id (.announce id)).push
        (.bubble id (.formInit spec.id (((tied.announce id (tied.form id).value.status).watchForm id
          (.announce id)).form id).value.isValid))
    else (tied.announce id (tied.form id).value.status).watchForm id (.announce id) := by
  rw [← h]
  rfl

/-- While a form is set up, what it announces is put into the outbox. -/
theorem tells_setUpForm (layout : Layout) (id : NodeId) (node : Node) (spec : FormSpec) :
    Tells layout (layout.setUpForm id node spec) ∧
      (layout.setUpForm id node spec).states = layout.states := by
  obtain ⟨tied, htied⟩ : ∃ tied, ((layout.raise id spec).setUpInheritance id spec
    node.scope).setUpRules id (node.formRules spec) node.scope = tied := ⟨_, rfl⟩
  have hties : Tells layout tied ∧ tied.states = layout.states := by
    rw [← htied]
    refine setUpTies_induction (P := fun world => Tells layout world ∧ world.states = layout.states)
      (fun world form reaction _ hworld => ?_) (fun world pager hworld => ?_)
      (fun world intent hworld => ?_) ?_
    · exact ⟨hworld.1.trans (.of_same rfl rfl rfl rfl fun _ => ⟨rfl, rfl⟩), hworld.2⟩
    · refine ⟨hworld.1.trans (.of_same rfl rfl rfl rfl fun other => ?_), hworld.2⟩
      rw [pager_watchPager]
      split
      · next heq => rw [heq]; exact ⟨rfl, rfl⟩
      · exact ⟨rfl, rfl⟩
    · exact ⟨hworld.1.trans (tells_changeForm world id intent),
        (states_changeForm world id intent).trans hworld.2⟩
    · exact ⟨.of_same rfl rfl rfl rfl fun _ => ⟨rfl, rfl⟩, rfl⟩
  have hannounced : Tells layout
      ((tied.announce id (tied.form id).value.status).watchForm id (.announce id)) :=
    (hties.1.trans (.announce tied id _)).trans (.of_same rfl rfl rfl rfl fun _ => ⟨rfl, rfl⟩)
  rw [setUpForm_eq htied]
  split
  · exact ⟨hannounced.trans (.bubble _ _ _), hties.2⟩
  · exact ⟨hannounced, hties.2⟩

/-- Once a form is set up, it announces what is to come. -/
theorem Announces.setUpForm {number : NodeId → Nat} {node : Node} {spec : FormSpec}
    (h : Announces (fun form => (layout.tree.form? form).isSome) number (fun _ => [])
      (fun _ => none) layout) (wf : layout.tree.WellFormed)
    (hform : layout.tree.form? id = some (node, spec))
    (hunsubmitted : ∀ parent, layout.tree.formAround id = some parent →
      (layout.form parent).value.isSubmitted = false) :
    ∃ number, Announces (fun form => (layout.tree.form? form).isSome) number (fun _ => [])
      (fun _ => none) (layout.setUpForm id node spec) := by
  have hlive : (layout.tree.form? id).isSome := by simp [hform]
  have hraising := ((raising_inheritance wf hform hunsubmitted).rules wf hform).1
  generalize htied : ((layout.raise id spec).setUpInheritance id spec node.scope).setUpRules id
    (node.formRules spec) node.scope = tied at hraising
  -- the announcer is the observer that comes next
  have hties : Announces (fun form => (layout.tree.form? form).isSome)
      (Function.update number id (tied.form id).nextObserver) (fun _ => []) (fun _ => none)
      tied := by
    rw [← htied]
    refine setUpTies_induction (P := Announces (fun form => (layout.tree.form? form).isSome) _
        (fun _ => []) (fun _ => none)) (fun world form reaction hserves hworld => ?_)
      (fun world pager hworld => ?_) (fun world intent hworld => ?_) (h.raise id spec _)
    · exact hworld.watchForm fun _ => hserves.mono fun _ heq => heq ▸ hlive
    · exact hworld.congr (fun _ => rfl) rfl
    · exact hworld.updateForm _ _ id intent world hlive
  have hannounced := hties.watchAnnouncer hlive hraising.rests.pending (Function.update_self ..)
  refine ⟨Function.update number id (tied.form id).nextObserver, ?_⟩
  rw [setUpForm_eq htied]
  split
  · exact hannounced.congr (fun _ => rfl) rfl
  · exact hannounced

/-- **Setting up the next node.** -/
theorem Introduced.setUp (h : Introduced tree id layout)
    (hassembled : Assembled environment tree id layout) (wf : tree.WellFormed)
    (hlt : id < tree.size) : Introduced tree (id + 1) (layout.setUp id) := by
  have htree := hassembled.tree_eq
  obtain ⟨node, hnode⟩ := Tree.exists_node hlt
  have hpager : ∀ view, node.view = view → view.kind ≠ .pager → tree.isPager id = false := by
    rintro view rfl hkind
    simpa [Tree.isPager, Tree.view?, hnode] using hkind
  unfold Layout.setUp
  rw [htree, hnode]
  dsimp only
  cases hview : node.view with
  | pager spec => exact h.pager spec _
  | form spec =>
    have hform : layout.tree.form? id = some (node, spec) :=
      htree ▸ Tree.form?_eq_some.mpr ⟨hnode, hview⟩
    have hunsubmitted : ∀ parent, layout.tree.formAround id = some parent →
        (layout.form parent).value.isSubmitted = false := fun parent haround =>
      hassembled.unsubmitted_around wf.linked (htree ▸ haround)
    obtain ⟨htells, hstates⟩ := tells_setUpForm layout id node spec
    obtain ⟨number, hannounces⟩ := h.announces
    rw [← htree] at hannounces
    have hsetUp := hassembled.formSetUp wf (htree ▸ hform)
    refine h.of_tells (hpager _ hview (by simp [View.kind])) htells hstates (fun pager => ?_)
      (htree ▸ hannounces.setUpForm (htree ▸ wf) hform hunsubmitted)
    rw [hsetUp.pager, Observable.value_watchAll, Observable.history_watchAll]
    exact ⟨rfl, rfl⟩
  | input spec =>
    obtain ⟨number, hannounces⟩ := h.announces
    refine h.of_tells (hpager _ hview (by simp [View.kind])) ?_ rfl (fun _ => ⟨rfl, rfl⟩)
      ⟨number, hannounces.congr (fun _ => rfl) rfl⟩
    have hanswered : Tells layout
        { layout with answers := layout.answers.set id spec.kind.emptyAnswer } :=
      .of_same rfl rfl rfl rfl fun _ => ⟨rfl, rfl⟩
    exact (hanswered.trans (.bubble _ _ _)).trans (.bubble _ _ _)
  | _ =>
    have hnone : tree.isPager id = false := hpager _ hview (by simp [View.kind])
    exact h.of_tells hnone (.refl layout) rfl (fun _ => ⟨rfl, rfl⟩) h.announces

/-- **After setting up, what was announced waits for the nodes.** -/
theorem introduced_build (environment : Environment) (wf : tree.WellFormed) :
    Introduced tree tree.size (build environment tree) := by
  have hprefix : ∀ bound : Nat, bound ≤ tree.size →
      Introduced tree bound ((List.range bound).foldl Layout.setUp { tree, environment }) := by
    intro bound
    induction bound with
    | zero => exact fun _ => introduced_zero environment tree
    | succ bound ih =>
      intro hle
      rw [List.range_succ, List.foldl_append]
      have hbefore := Nat.le_of_succ_le hle
      exact (ih hbefore).setUp (assembled_upTo environment wf hbefore) wf hle
  exact hprefix tree.size (Nat.le_refl _)

/-- Nodes that have not heard anything, while what was announced waits for them, are in step. -/
theorem Introduced.inStep (h : Introduced tree tree.size layout)
    (hassembled : Assembled environment tree tree.size layout) (wf : tree.WellFormed) :
    layout.InStep := by
  have htree := hassembled.tree_eq
  obtain ⟨number, hannounces⟩ := h.announces
  rw [← htree] at hannounces
  have hblank : ∀ id, layout.states.get id = {} := fun id => by rw [h.states]; rfl
  refine ⟨hannounces.told (hassembled.sound wf), fun dispatch hdispatch => ?_,
    fun id form _ => ?_, fun pager hpager => ?_, fun id _ => by rw [hblank],
    fun id _ => by rw [hblank], fun id node _ _ => by rw [hblank]; rfl⟩
  · cases hentrance : dispatch.isEntrance with
    | true =>
      cases dispatch with
      | bubble origin event => trivial
      | _ => cases hentrance
    | false =>
      have := hassembled.announcements dispatch hdispatch hentrance
      cases dispatch with
      | trickle origin event => cases event <;> first | exact this.1 | cases this
      | _ => cases this
  · rw [hblank, h.announced]
    exact .start _
  · rw [htree] at hpager
    have hlt : pager < tree.size := by
      cases hnode : tree.node? pager with
      | some node => exact Tree.lt_size hnode
      | none => simp [Tree.isPager, Tree.view?, hnode] at hpager
    obtain ⟨hhistory, hqueue⟩ := h.started pager hlt hpager
    refine ⟨(layout.pager pager).value, by rw [hhistory]; rfl, fun id _ => ?_⟩
    rw [hhistory, hqueue, hblank]
    exact .start _

end Introduced

end Layout

end FormTree

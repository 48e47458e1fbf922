import FormTree.Proofs.Layout.Announcing
import FormTree.Proofs.Layout.Notices

set_option autoImplicit false

/-!
# What is on its way

What forms and pagers announce is put into the outbox: whatever a layout does, what it adds to the
outbox carries, in this order, the flags that it announces and the positions that it commits.

## Main definitions

* `FormTree.Dispatch.status?`, `FormTree.Dispatch.position?` — the flags and the position that a
  dispatch carries.
* `FormTree.Dispatch.IsSent` — flags and positions come from the nodes that they are about.
* `FormTree.Layout.Tells` — what is announced is put into the outbox.
* `FormTree.Layout.Informs` — and afterwards every form has announced its flags.

## Main results

* `FormTree.Layout.tells_updateForm`, `FormTree.Layout.Sound.tells_updatePager` — changes with all
  that follows tell what they announce.
* `FormTree.Layout.Sound.informs_steps`, `FormTree.Layout.Sound.informs_route` — so does everything
  that nodes do, and whatever is routed.
-/

namespace FormTree

/-! ## Dispatches -/

namespace Dispatch

/-- The flags of the form `form` that the dispatch carries. -/
def status? (form : NodeId) : Dispatch → Option FormStatus
  | .trickle _ (.validationUpdate id status) => if id = form then some status else none
  | _ => none

/-- The position of the pager `pager` that the dispatch carries. -/
def position? (pager : NodeId) : Dispatch → Option PagerState
  | .trickle _ (.pagerUpdate id state) => if id = pager then some state else none
  | _ => none

/-- The dispatch bubbles, or carries flags or a position from the node that they are about. -/
def IsSent : Dispatch → Prop
  | .bubble _ _ => True
  | .trickle origin (.validationUpdate form _) => origin = form
  | .trickle origin (.pagerUpdate pager _) => origin = pager
  | _ => False

end Dispatch

namespace Layout

/-- **What is announced is put into the outbox.** -/
structure Tells (layout layout' : Layout) : Prop where
  tree : layout'.tree = layout.tree
  dropped : layout'.dropped = layout.dropped
  queue : ∃ more, layout'.outbox.queue = layout.outbox.queue ++ more ∧
    (∀ dispatch ∈ more, dispatch.IsSent) ∧
    (∀ form, layout'.announced.get form =
      layout.announced.get form ++ more.filterMap (·.status? form)) ∧
    ∀ pager, (layout'.pager pager).history =
      (layout.pager pager).history ++ more.filterMap (·.position? pager)
  /-- A pager goes on holding what it committed last. -/
  value : ∀ pager first,
    (first :: (layout.pager pager).history).getLast? = some (layout.pager pager).value →
    (first :: (layout'.pager pager).history).getLast? = some (layout'.pager pager).value

namespace Tells

variable {layout layout' layout'' : Layout}

/-- What leaves announcements, pagers and the outbox alone tells nothing. -/
theorem of_same (htree : layout'.tree = layout.tree) (hdropped : layout'.dropped = layout.dropped)
    (houtbox : layout'.outbox = layout.outbox) (hannounced : layout'.announced = layout.announced)
    (hpagers : ∀ pager, (layout'.pager pager).value = (layout.pager pager).value ∧
      (layout'.pager pager).history = (layout.pager pager).history) : Tells layout layout' where
  tree := htree
  dropped := hdropped
  queue := ⟨[], by simp [houtbox], by simp, by simp [hannounced], by simp [hpagers]⟩
  value pager first h := by rwa [(hpagers pager).1, (hpagers pager).2]

theorem refl (layout : Layout) : Tells layout layout := of_same rfl rfl rfl rfl fun _ => ⟨rfl, rfl⟩

theorem trans (h : Tells layout layout') (h' : Tells layout' layout'') : Tells layout layout'' where
  tree := h'.tree.trans h.tree
  dropped := h'.dropped.trans h.dropped
  queue := by
    obtain ⟨more, hqueue, hsent, hannounced, hhistory⟩ := h.queue
    obtain ⟨more', hqueue', hsent', hannounced', hhistory'⟩ := h'.queue
    refine ⟨more ++ more', by rw [hqueue', hqueue, List.append_assoc], fun dispatch hd => ?_,
      fun form => ?_, fun pager => ?_⟩
    · rcases List.mem_append.mp hd with hd | hd
      · exact hsent dispatch hd
      · exact hsent' dispatch hd
    · rw [hannounced', hannounced, List.filterMap_append, List.append_assoc]
    · rw [hhistory', hhistory, List.filterMap_append, List.append_assoc]
  value pager first hvalue := h'.value pager first (h.value pager first hvalue)

/-- An event that bubbles tells nothing. -/
theorem bubble (layout : Layout) (origin : NodeId) (event : Event) :
    Tells layout (layout.push (.bubble origin event)) where
  tree := rfl
  dropped := rfl
  queue := ⟨[.bubble origin event], rfl, by simp [Dispatch.IsSent],
    by simp [Dispatch.status?, push], by simp [Dispatch.position?, push, Layout.pager]⟩
  value _ _ h := h

/-- Flags that are announced are put into the outbox. -/
theorem announce (layout : Layout) (id : NodeId) (status : FormStatus) :
    Tells layout (layout.announce id status) where
  tree := rfl
  dropped := rfl
  queue := by
    refine ⟨[.trickle id (.validationUpdate id status)], rfl, by simp [Dispatch.IsSent],
      fun form => ?_, fun pager => ?_⟩
    · rw [announced_announce]
      by_cases heq : id = form
      · simp [Dispatch.status?, heq]
      · simp [Dispatch.status?, heq]
    · simp [Dispatch.position?, Layout.announce, push, Layout.pager]
  value _ _ h := h

end Tells

/-! ## Changes -/

/-- **What a change of a form brings about**, with all that follows: forms commit, what is noted
about a delivery changes, forms announce their flags, and that they are displayed is put into the
outbox. What all of this keeps is kept by the change. -/
theorem updateForm_induction {P : Layout → Prop}
    (hcommit : ∀ (world : Layout) (id : NodeId) (intent : FormIntent),
      P world → P (world.commitForm id intent))
    (hmodify : ∀ (world : Layout) (id : NodeId)
      (change : Observable FormState FormReaction → Observable FormState FormReaction),
      (∀ state, (change state).value = state.value ∧ (change state).history = state.history) →
      P world → P ((formPlace id).modify world change))
    (hannounce : ∀ (world : Layout) (id : NodeId) (status : FormStatus),
      P world → P (world.announce id status))
    (hpush : ∀ (world : Layout) (id : NodeId) (event : Event),
      P world → P (world.push (.bubble id event))) :
    ∀ (depth : Nat) (id : NodeId) (intent : FormIntent) (layout : Layout), P layout →
      P (updateForm depth id intent layout) := by
  intro depth
  induction depth with
  | zero => exact fun _ _ _ h => h
  | succ depth ih =>
    intro id intent layout h
    rw [updateForm]
    refine (formPlace id).flush_induction (reactForm (updateForm depth))
      (fun observer snapshot world hworld => ?_) (fun world change => hmodify world id change)
      (hcommit layout id intent h)
    unfold reactForm
    split
    · exact ih _ _ _ hworld
    · split
      · exact hworld
      · split
        · exact hworld
        · exact ih _ _ _ (hpush _ _ _ hworld)
    · exact ih _ _ _ hworld
    · split
      · exact hworld
      · exact hannounce _ _ _ hworld
    · exact hworld

/-- **A change of a form with all that follows** puts what is announced into the outbox. -/
theorem tells_updateForm (depth : Nat) (id : NodeId) (intent : FormIntent) (layout : Layout) :
    Tells layout (updateForm depth id intent layout) :=
  updateForm_induction
    (fun _ _ _ hworld => hworld.trans (.of_same rfl rfl rfl rfl fun _ => ⟨rfl, rfl⟩))
    (fun _ _ _ _ hworld => hworld.trans (.of_same rfl rfl rfl rfl fun _ => ⟨rfl, rfl⟩))
    (fun _ _ _ hworld => hworld.trans (.announce _ _ _))
    (fun _ _ _ hworld => hworld.trans (.bubble _ _ _)) depth id intent layout (.refl layout)

variable {allow : Allowance} {layout layout' : Layout} {id : NodeId}

/-- The change of a form leaves the pagers alone. -/
theorem pagers_updateForm (depth : Nat) (id : NodeId) (intent : FormIntent) (layout : Layout) :
    (updateForm depth id intent layout).pagers = layout.pagers :=
  updateForm_induction (P := fun world => world.pagers = layout.pagers) (fun _ _ _ hworld => hworld)
    (fun _ _ _ _ hworld => hworld) (fun _ _ _ hworld => hworld) (fun _ _ _ hworld => hworld)
    depth id intent layout rfl

/-- **A pager takes over what it is changed to**, whatever else follows. -/
theorem value_updatePager (layout : Layout) (id : NodeId) (change : PagerState → PagerState) :
    ((layout.updatePager id change).pager id).value = change (layout.pager id).value := by
  refine (pagerPlace id).flush_induction (reactPager (updateForm layout.depth))
    (P := fun world => (world.pager id).value = change (layout.pager id).value)
    (fun observer snapshot world hworld => ?_) (fun world other hkeeps hworld => ?_) ?_
  · unfold reactPager
    split
    · exact hworld
    · rw [refresh, Layout.pager, pagers_updateForm]
      exact hworld
    · exact hworld
  · rw [pager_modify, if_pos rfl, (hkeeps _).1]
    exact hworld
  · rw [pager_modify, if_pos rfl, Observable.value_commit]

theorem tells_changeForm (layout : Layout) (id : NodeId) (intent : FormIntent) :
    Tells layout (layout.changeForm id intent) := tells_updateForm _ id intent layout

/-- The new position of a pager is committed, and it is put into the outbox. -/
theorem tells_holdPager {state : PagerState} (hchanged : state ≠ (layout.pager id).value) :
    Tells layout ((layout.holdPager id state).announcePosition id state) := by
  have hpager : ∀ other, ((layout.holdPager id state).announcePosition id state).pager other =
      (layout.holdPager id state).pager other := fun _ => rfl
  have hhistory : ((layout.pager id).commit state).history =
      (layout.pager id).history ++ [state] := by
    rw [Observable.history_commit, Observable.added, if_neg hchanged]
  refine ⟨rfl, rfl, ⟨[.trickle id (.pagerUpdate id state)], rfl, by simp [Dispatch.IsSent],
    by simp [Dispatch.status?, announcePosition, holdPager, push, Place.modify, pagerPlace,
      Place.pop, Place.start], fun other => ?_⟩, fun other first hvalue => ?_⟩
  all_goals rw [hpager, pager_holdPager]
  · by_cases heq : id = other
    · subst heq
      rw [if_pos rfl]
      show ((layout.pager id).commit state).history = _
      simp [hhistory, Dispatch.position?]
    · simp [heq, Dispatch.position?]
  · by_cases heq : id = other
    · rw [if_pos heq]
      show (first :: ((layout.pager id).commit state).history).getLast? =
        some ((layout.pager id).commit state).value
      rw [hhistory, Observable.value_commit, ← List.cons_append, List.getLast?_concat]
    · rwa [if_neg heq]

/-- **A change of a pager with all that follows** puts what is announced into the outbox. -/
theorem Sound.tells_updatePager (h : layout.Sound) (hpager : layout.tree.isPager id = true)
    (change : PagerState → PagerState) : Tells layout (layout.updatePager id change) := by
  by_cases hsame : change (layout.pager id).value = (layout.pager id).value
  · obtain ⟨hupdate, hpagers⟩ := updatePager_of_same (h.pagers id hpager) hsame
    refine .of_same ?_ ?_ ?_ ?_ fun pager => by rw [hpagers]; exact ⟨rfl, rfl⟩
    all_goals rw [hupdate]; rfl
  · refine h.updatePager_induction hpager hsame (tells_holdPager hsame)
      (fun form _ world _ hworld => hworld.trans (tells_updateForm _ form _ world))
      fun world change hkeeps hworld => hworld.trans (.of_same rfl rfl rfl rfl fun pager => ?_)
    rw [pager_modify]
    split
    · next heq =>
      subst heq
      exact hkeeps _
    · exact ⟨rfl, rfl⟩

/-! ## Steps -/

/-- What leaves forms and their announcements alone keeps that they are told. -/
theorem Told.congr (h : layout.Told) (htree : layout'.tree = layout.tree)
    (hforms : ∀ id, layout'.form id = layout.form id)
    (hannounced : layout'.announced = layout.announced) : layout'.Told := by
  intro id hsome
  rw [htree] at hsome
  rw [hforms, hannounced]
  exact h id hsome

/-- What is announced is put into the outbox, and afterwards every form has announced its flags. -/
structure Informs (layout layout' : Layout) : Prop where
  tells : Tells layout layout'
  told : layout.Told → layout'.Told

namespace Informs

/-- What leaves forms, pagers and the outbox alone. -/
theorem of_same (htree : layout'.tree = layout.tree) (hdropped : layout'.dropped = layout.dropped)
    (houtbox : layout'.outbox = layout.outbox)
    (hforms : ∀ form, layout'.form form = layout.form form)
    (hannounced : layout'.announced = layout.announced)
    (hpagers : ∀ pager, layout'.pager pager = layout.pager pager) : Informs layout layout' :=
  ⟨.of_same htree hdropped houtbox hannounced fun pager => by rw [hpagers]; exact ⟨rfl, rfl⟩,
    fun htold => htold.congr htree hforms hannounced⟩

theorem refl (layout : Layout) : Informs layout layout := ⟨.refl layout, fun htold => htold⟩

theorem trans {layout'' : Layout} (h : Informs layout layout') (h' : Informs layout' layout'') :
    Informs layout layout'' :=
  ⟨h.tells.trans h'.tells, fun htold => h'.told (h.told htold)⟩

/-- An event that bubbles tells nothing. -/
theorem bubble (layout : Layout) (origin : NodeId) (event : Event) :
    Informs layout (layout.push (.bubble origin event)) :=
  ⟨.bubble layout origin event, fun htold => htold.congr rfl (fun _ => rfl) rfl⟩

end Informs

theorem Sound.informs_changeForm (h : layout.Sound) (hsome : (layout.tree.form? id).isSome)
    (intent : FormIntent) : Informs layout (layout.changeForm id intent) :=
  ⟨tells_changeForm layout id intent, h.told_changeForm hsome intent⟩

theorem Sound.informs_updatePager (h : layout.Sound) (hpager : layout.tree.isPager id = true)
    (change : PagerState → PagerState) : Informs layout (layout.updatePager id change) :=
  ⟨h.tells_updatePager hpager change, h.told_updatePager hpager change⟩

theorem informs_report (layout : Layout) (report : Report) :
    Informs layout (layout.report report) := by
  unfold Layout.report
  split
  · exact .of_same rfl rfl rfl (fun _ => rfl) rfl fun _ => rfl
  · exact .refl layout

theorem informs_applyUpdate (layout : Layout) (update : AttributeUpdate) :
    Informs layout (layout.applyUpdate update) := by
  unfold applyUpdate
  split
  · exact .of_same rfl rfl rfl (fun _ => rfl) rfl fun _ => rfl
  · exact .refl layout

/-- Submission puts what is announced into the outbox, and then the result. -/
theorem Sound.informs_submitForm (h : layout.Sound) (hsome : (layout.tree.form? id).isSome)
    (spec : FormSpec) (button : Option String) :
    Informs layout (layout.submitForm id spec button) := by
  unfold submitForm
  dsimp only
  split
  · exact .refl layout
  · have hchange := h.informs_changeForm hsome .submit
    split
    · exact hchange.trans (.bubble _ _ _)
    · exact (hchange.trans (.bubble _ _ _)).trans (informs_applyUpdate _ _)

/-- **Whatever a node does**, what is announced is put into the outbox, and afterwards the forms
have announced their flags. -/
theorem Sound.informs_step (h : layout.Sound) (step : Step allow layout layout') :
    Informs layout layout' := by
  cases step with
  | @change id intent _ hsome => exact h.informs_changeForm hsome intent
  | @page _ intent hpager => exact h.informs_updatePager hpager (·.reduce intent)
  | note id change => exact .of_same rfl rfl rfl (fun _ => rfl) rfl fun _ => rfl
  | submit button _ hform => exact h.informs_submitForm (by rw [hform]; rfl) _ button
  | follow _ _ => exact .bubble _ _ _
  | dismiss dismissal => exact .of_same rfl rfl rfl (fun _ => rfl) rfl fun _ => rfl
  | reportDismissal origin button isCancel context => exact informs_report _ _

/-- **Whatever nodes do**, what is announced is put into the outbox, and afterwards the forms have
announced their flags. -/
theorem Sound.informs_steps (h : layout.Sound) (steps : Steps allow layout layout') :
    Informs layout layout' := by
  induction steps with
  | refl => exact .refl layout
  | tail steps step ih => exact ih.trans ((keeps_steps steps h).1.informs_step step)

/-- **Whatever is routed**, what is announced is put into the outbox, and afterwards the forms have
announced their flags. -/
theorem Sound.informs_route (h : layout.Sound) (dispatch : Dispatch) :
    Informs layout (layout.route dispatch) := by
  cases hreport : dispatch.isReport with
  | false => exact h.informs_steps (steps_route layout hreport (Event.isWithin_all _))
  | true =>
    obtain ⟨reports, hroute⟩ := route_report layout hreport
    rw [hroute]
    exact .of_same rfl rfl rfl (fun _ => rfl) rfl fun _ => rfl

end Layout

end FormTree

import FormTree.Proofs.Layout.Ending
import FormTree.Proofs.Layout.Limit
import FormTree.Proofs.Layout.Strays
import Mathlib.Logic.Hydra

set_option autoImplicit false

/-!
# Routing comes to rest

Routing a dispatch changes forms and pagers, each of these changes comes to an end, and what is put
into the outbox meanwhile is of a lower rank than the dispatch: a button that submits brings about
submissions and the events that it raises afterwards; any other event brings about the reports of
forms and announcements; and these bring about nothing. So the outbox is a multiset of ranks from
which one is taken in each turn, in exchange for lower ones, and this cannot go on forever.

## Main definitions

* `FormTree.Dispatch.NamesNodes` — the nodes that a dispatch names are there.
* `FormTree.Dispatch.rank` — how much may follow from a dispatch.
* `FormTree.Layout.Proceeds` — something happens and comes to an end.
* `FormTree.Layout.Empties` — the outbox is emptied, with the number of dispatches routed.

## Main results

* `FormTree.Layout.Sound.proceeds_route` — routing a dispatch comes to an end.
* `FormTree.Layout.Sound.descends_route` — what it puts into the outbox is of a lower rank.
* `FormTree.Layout.Sound.exists_empties` — the outbox is emptied.
* `FormTree.Layout.routing_comes_to_rest` — so it is in any layout that can be reached.
-/

namespace FormTree

namespace Dispatch

/-- The nodes that a dispatch names are nodes of the tree: its origin, and the button in whose name
it asks for submission. -/
structure NamesNodes (tree : Tree) (dispatch : Dispatch) : Prop where
  origin : ∀ origin, dispatch.origin? = some origin → (tree.node? origin).isSome
  button : ∀ button, dispatch.event.button? = some button → (tree.node? button).isSome

/-- A dispatch that asks for nothing names no button. -/
theorem IsTidy.namesNodes {tree : Tree} {dispatch : Dispatch} (h : dispatch.IsTidy tree .none) :
    dispatch.NamesNodes tree :=
  ⟨h.origin, fun button hbutton => (h.within.buttons button hbutton).elim⟩

/-- How much may follow from a dispatch: nothing from the reports of forms and from announcements;
these from all other events; and from a button that submits, such events as well. -/
def rank : Dispatch → Nat
  | .bubble _ (.buttonSubmit _ _ _) => 2
  | .bubble _ event => if event.isReport then 0 else 1
  | .trickle _ event => if event.isUpdate then 0 else 1
  | .broadcast _ => 1

/-- Nothing follows from announcements. -/
theorem IsAnnouncement.rank_eq {tree : Tree} {dispatch : Dispatch}
    (h : dispatch.IsAnnouncement tree) : dispatch.rank = 0 := by
  cases dispatch with
  | trickle origin event =>
    cases event with
    | validationUpdate form status => rfl
    | pagerUpdate pager state => rfl
    | _ => cases h
  | _ => cases h

/-- An event that bubbles up and asks for no submission. -/
theorem rank_bubble {event : Event} (hbutton : event.button? = none) (origin : NodeId) :
    (Dispatch.bubble origin event).rank = if event.isReport then 0 else 1 := by
  cases event <;> first | rfl | cases hbutton

end Dispatch

namespace Layout

variable {allow : Allowance} {layout layout' layout'' : Layout} {id : NodeId}

/-! ## Everything comes to an end -/

/-- Something happens, and comes to an end with all that follows. -/
inductive Proceeds (layout : Layout) : Layout → Prop
  /-- A form is changed. -/
  | form {id : NodeId} {intent : FormIntent} {layout' : Layout} :
    (layout.tree.form? id).isSome → FormChangeEnds id intent layout layout' →
    Proceeds layout layout'
  /-- A pager is changed. -/
  | pager {id : NodeId} {change : PagerState → PagerState} {layout' : Layout} :
    layout.tree.isPager id = true → PagerChangeEnds id change layout layout' →
    Proceeds layout layout'
  /-- Something happens that does not concern forms and pagers. -/
  | aside {layout' : Layout} : layout'.tree = layout.tree → layout'.forms = layout.forms →
    layout'.pagers = layout.pagers → Proceeds layout layout'

/-- Submission comes to an end. -/
theorem Sound.proceeds_submitForm (h : layout.Sound) (hsome : (layout.tree.form? id).isSome)
    (spec : FormSpec) (button : Option String) :
    Relation.ReflTransGen Proceeds layout (layout.submitForm id spec button) := by
  unfold submitForm
  dsimp only
  split
  · exact .refl
  · have hsubmit : Proceeds layout (layout.changeForm id .submit) :=
      .form hsome (h.formChangeEnds hsome .submit)
    refine .head hsubmit (.single ?_)
    split
    · exact .aside rfl rfl rfl
    · unfold applyUpdate
      split <;> exact .aside rfl rfl rfl

/-- What a node does when an event comes by comes to an end. -/
theorem Sound.proceeds_step (h : layout.Sound) (step : Step allow layout layout') :
    Relation.ReflTransGen Proceeds layout layout' := by
  cases step with
  | change _ hsome => exact .single (.form hsome (h.formChangeEnds hsome _))
  | @page _ intent hpager =>
    exact .single (.pager hpager (h.pagerChangeEnds hpager (·.reduce intent)))
  | note _ _ => exact .single (.aside rfl rfl rfl)
  | submit button _ hform => exact h.proceeds_submitForm (by rw [hform]; rfl) _ button
  | follow _ _ => exact .single (.aside rfl rfl rfl)
  | dismiss _ => exact .single (.aside rfl rfl rfl)
  | reportDismissal _ _ _ _ =>
    unfold Layout.report
    split
    · exact .single (.aside rfl rfl rfl)
    · exact .refl

/-- Whatever happens to the forms and pagers of a sound layout comes to an end. -/
theorem Sound.proceeds_moves (h : layout.Sound) (moves : Moves layout layout') :
    Relation.ReflTransGen Proceeds layout layout' := by
  induction moves with
  | refl => exact .refl
  | tail before move ih =>
    refine ih.trans ?_
    have hsound := (keeps_moves before h).1
    cases move with
    | step step => exact hsound.proceeds_step step
    | updatePager change hpager => exact .single (.pager hpager (hsound.pagerChangeEnds hpager _))
    | aside htree hforms hpagers => exact .single (.aside htree hforms hpagers)

/-- **Routing a dispatch comes to an end** in a sound layout. -/
theorem Sound.proceeds_route (h : layout.Sound) (dispatch : Dispatch) :
    Relation.ReflTransGen Proceeds layout (layout.route dispatch) :=
  h.proceeds_moves (moves_route layout dispatch)

/-! ## What follows is of a lower rank -/

/-- Dispatches that are put into the outbox are of ranks below the bound. -/
def Descends (bound : Nat) (layout layout' : Layout) : Prop :=
  ∃ more, layout'.outbox.queue = layout.outbox.queue ++ more ∧
    ∀ dispatch ∈ more, dispatch.rank < bound

theorem Descends.of_outbox (bound : Nat) (h : layout'.outbox = layout.outbox) :
    Descends bound layout layout' :=
  ⟨[], by rw [h, List.append_nil], by simp⟩

theorem Descends.trans {bound : Nat} (h : Descends bound layout layout')
    (h' : Descends bound layout' layout'') : Descends bound layout layout'' := by
  obtain ⟨more, hqueue, hmore⟩ := h
  obtain ⟨more', hqueue', hmore'⟩ := h'
  refine ⟨more ++ more', by rw [hqueue', hqueue, List.append_assoc], fun dispatch hd => ?_⟩
  rcases List.mem_append.mp hd with hd | hd
  · exact hmore dispatch hd
  · exact hmore' dispatch hd

theorem Descends.mono {bound bound' : Nat} (h : Descends bound layout layout')
    (hle : bound ≤ bound') : Descends bound' layout layout' := by
  obtain ⟨more, hqueue, hmore⟩ := h
  exact ⟨more, hqueue, fun dispatch hd => Nat.lt_of_lt_of_le (hmore dispatch hd) hle⟩

/-- The report of a form is put into the outbox. -/
theorem Descends.push {dispatch : Dispatch} (h : dispatch.rank = 0) :
    Descends 1 layout (layout.push dispatch) := by
  refine ⟨[dispatch], rfl, fun other hother => ?_⟩
  rw [List.mem_singleton.mp hother, h]
  exact Nat.one_pos

theorem outbox_applyUpdate (layout : Layout) (update : AttributeUpdate) :
    (layout.applyUpdate update).outbox = layout.outbox := by
  unfold applyUpdate
  split <;> rfl

/-- From the change of a form follow its report, if that is due, and announcements. -/
theorem Sound.descends_changeForm (h : layout.Sound) (hsome : (layout.tree.form? id).isSome)
    (intent : FormIntent) : Descends 1 layout (layout.changeForm id intent) := by
  obtain ⟨announcements, hannouncements, hqueue⟩ := h.queue_changeForm hsome intent
  refine ⟨_, hqueue, fun dispatch hd => ?_⟩
  rcases List.mem_append.mp hd with hd | hd
  · unfold displayNotice at hd
    split at hd
    · obtain rfl := List.mem_singleton.mp hd
      exact Nat.one_pos
    · cases hd
  · rw [(hannouncements dispatch hd).rank_eq]
    exact Nat.one_pos

/-- From the move of a pager follow announcements. -/
theorem Sound.descends_changePager (h : layout.Sound) (hpager : layout.tree.isPager id = true)
    (intent : PagerIntent) : Descends 1 layout (layout.changePager id intent) := by
  obtain ⟨announcements, hannouncements, hqueue⟩ := (h.aftermath_changePager hpager intent).outbox
  refine ⟨announcements, hqueue, fun dispatch hd => ?_⟩
  rw [(hannouncements dispatch hd).rank_eq]
  exact Nat.one_pos

/-- From submission follow the reports of the form and announcements. -/
theorem Sound.descends_submitForm (h : layout.Sound) (hsome : (layout.tree.form? id).isSome)
    (spec : FormSpec) (button : Option String) :
    Descends 1 layout (layout.submitForm id spec button) := by
  unfold submitForm
  dsimp only
  split
  · exact .of_outbox 1 rfl
  · have hsubmit := h.descends_changeForm hsome .submit
    split
    · exact hsubmit.trans (.push rfl)
    · exact (hsubmit.trans (.push rfl)).trans (.of_outbox 1 (outbox_applyUpdate _ _))

/-- What nodes do without the follow-ups of a button puts only reports of forms and announcements
into the outbox. -/
theorem Sound.descends_steps (h : layout.Sound) (steps : Steps .unprompted layout layout') :
    Descends 1 layout layout' := by
  refine steps_induction (P := Descends 1 layout) (fun world world' hsound hworld step => ?_) h
    (.of_outbox 1 rfl) steps
  refine hworld.trans ?_
  cases step with
  | change _ hsome => exact hsound.descends_changeForm hsome _
  | page hpager => exact hsound.descends_changePager hpager _
  | note _ _ => exact .of_outbox 1 rfl
  | submit button _ hform => exact hsound.descends_submitForm (by rw [hform]; rfl) _ button
  | follow hbutton _ => exact hbutton.elim
  | dismiss _ => exact .of_outbox 1 rfl
  | reportDismissal _ _ _ _ =>
    unfold Layout.report
    split <;> exact .of_outbox 1 rfl

/-- What a button raises after a submission asks for no submission. -/
theorem rank_of_mem_followUps {button : NodeId} {identifier : String}
    {effects : List ClickBehavior} {dispatch : Dispatch}
    (h : dispatch ∈ followUps button identifier effects) : dispatch.rank = 1 := by
  obtain ⟨effect, -, heffect⟩ := List.mem_filterMap.mp h
  obtain ⟨event, hevent, rfl⟩ := Option.map_eq_some_iff.mp heffect
  cases effect <;> cases hevent <;> rfl

/-- **What follows from a dispatch is of a lower rank.** -/
theorem Sound.descends_route (h : layout.Sound) (dispatch : Dispatch) :
    Descends dispatch.rank layout (layout.route dispatch) := by
  cases dispatch with
  | bubble origin event =>
    cases hbutton : event.button? with
    | some button =>
      -- all forms are submitted, and then the button raises its other events
      cases event with
      | buttonSubmit button identifier effects =>
        have hsubmitted : Descends 2 layout (layout.broadcast (.layoutSubmit (some identifier))) :=
          (h.descends_steps (steps_broadcast layout fun _ => trivial)).mono (by decide)
        show Descends 2 layout (layout.bubble origin (.buttonSubmit button identifier effects))
        rw [bubble_buttonSubmit, pushAll_eq]
        refine hsubmitted.trans ⟨_, rfl, fun dispatch hd => ?_⟩
        rw [rank_of_mem_followUps hd]
        decide
      | _ => cases hbutton
    | none =>
      rw [Dispatch.rank_bubble hbutton]
      cases hreport : event.isReport with
      | true =>
        have hdispatch : (Dispatch.bubble origin event).isReport = true := hreport
        obtain ⟨reports, hroute⟩ := route_report layout hdispatch
        rw [hroute]
        exact .of_outbox _ rfl
      | false =>
        exact h.descends_steps (steps_bubble layout origin hreport
          (Event.isWithin_unprompted hbutton))
  | trickle origin event =>
    show Descends (if event.isUpdate then 0 else 1) layout (layout.trickle origin event)
    cases hupdate : event.isUpdate with
    | true =>
      obtain ⟨states, htrickle, -⟩ := trickle_update hupdate layout origin
      rw [htrickle]
      exact .of_outbox _ rfl
    | false => exact h.descends_steps (steps_trickle layout origin fun _ => trivial)
  | broadcast event => exact h.descends_steps (steps_broadcast layout fun _ => trivial)

/-! ## The outbox is emptied -/

/-- The outbox is emptied by routing so many dispatches, the oldest one first. None of them is
stray, and each comes to an end. -/
inductive Empties : Nat → Layout → Layout → Prop
  /-- Nothing waits. -/
  | done {layout : Layout} : layout.outbox.queue = [] → Empties 0 layout layout
  /-- The oldest dispatch is routed. -/
  | route {count : Nat} {layout final : Layout} {oldest : Dispatch} {rest : List Dispatch} :
    layout.outbox.queue = oldest :: rest → layout.isStray oldest = false →
    Relation.ReflTransGen Proceeds { layout with outbox := ⟨rest⟩ }
      ({ layout with outbox := ⟨rest⟩ }.route oldest) →
    Empties count ({ layout with outbox := ⟨rest⟩ }.route oldest) final →
    Empties (count + 1) layout final

/-- Once the outbox is emptied nothing waits. -/
theorem Empties.queue_eq {count : Nat} {final : Layout} (h : Empties count layout final) :
    final.outbox.queue = [] := by
  induction h with
  | done hqueue => exact hqueue
  | route _ _ _ _ ih => exact ih

/-- **A limit that is not below the number of dispatches is never reached.** -/
theorem Empties.drain_eq {count : Nat} {final : Layout} (h : Empties count layout final) :
    ∀ {limit : Nat}, count ≤ limit → layout.drain limit = final := by
  induction h with
  | done hqueue => exact fun _ => drain_of_queue _ hqueue _
  | route hqueue hstray _ _ ih =>
    intro limit hle
    obtain ⟨limit, rfl⟩ : ∃ n, limit = n + 1 := ⟨limit - 1, by omega⟩
    rw [drain_cons hqueue hstray]
    exact ih (Nat.le_of_succ_le_succ hle)

/-- The ranks of what waits. -/
def ranks (layout : Layout) : Multiset Nat := layout.outbox.queue.map (·.rank)

/-- One rank is taken, in exchange for lower ones. -/
theorem cutExpand_ranks {oldest : Dispatch} {rest : List Dispatch}
    (hqueue : layout.outbox.queue = oldest :: rest)
    (h : Descends oldest.rank { layout with outbox := ⟨rest⟩ } layout') :
    Relation.CutExpand (· < ·) layout'.ranks layout.ranks := by
  obtain ⟨more, hmore, hlower⟩ := h
  refine ⟨(more.map (·.rank) : List Nat), oldest.rank, fun rank hrank => ?_, ?_⟩
  · obtain ⟨dispatch, hd, rfl⟩ := List.mem_map.mp (Multiset.mem_coe.mp hrank)
    exact hlower dispatch hd
  · rw [ranks, ranks, hmore, hqueue, List.map_append, List.map_cons, ← Multiset.coe_add,
      ← Multiset.cons_coe, ← Multiset.singleton_add, add_comm, ← add_assoc]

/-- **The outbox of a sound layout is emptied**, if the nodes that its dispatches name are there.

**Proof sketch.** By induction on the multiset of ranks of what waits: the oldest dispatch is taken
out of it, and what follows from it is of a lower rank, and names nodes again. -/
theorem Sound.exists_empties (h : layout.Sound)
    (hnames : ∀ dispatch ∈ layout.outbox.queue, dispatch.NamesNodes layout.tree) :
    ∃ count final, Empties count layout final ∧ final.dropped = layout.dropped ∧
      final.strays = layout.strays := by
  have hwf : WellFounded (Relation.CutExpand ((· < ·) : Nat → Nat → Prop)) :=
    (wellFounded_lt : WellFounded ((· < ·) : Nat → Nat → Prop)).cutExpand
  induction hranks : layout.ranks using hwf.induction generalizing layout with
  | h ranks ih =>
    subst hranks
    cases hqueue : layout.outbox.queue with
    | nil => exact ⟨0, layout, .done hqueue, rfl, rfl⟩
    | cons oldest rest =>
      have holdest := hnames oldest (hqueue ▸ List.mem_cons_self)
      have hpopped : ({ layout with outbox := ⟨rest⟩ } : Layout).Sound :=
        h.congr rfl (fun _ => rfl) fun _ => rfl
      obtain ⟨hsound, htree, hdropped, more, hmore, htidy⟩ :=
        hpopped.route (Event.isWithin_allowance holdest.button)
      have hstrays := strays_route { layout with outbox := ⟨rest⟩ } oldest
      have hends := hpopped.proceeds_route oldest
      have hlower := cutExpand_ranks hqueue (hpopped.descends_route oldest)
      obtain ⟨count, final, hempties, hdropped', hstrays'⟩ :=
        ih _ hlower hsound (fun dispatch hd => by
          rw [hmore] at hd
          rw [htree]
          rcases List.mem_append.mp hd with hd | hd
          · exact hnames dispatch (hqueue ▸ List.mem_cons_of_mem _ hd)
          · exact (htidy dispatch hd).namesNodes) rfl
      exact ⟨count + 1, final, .route hqueue (isStray_eq_false.mpr holdest.origin) hends hempties,
        hdropped'.trans hdropped, hstrays'.trans hstrays⟩

/-! ## Layouts that can be reached -/

/-- **Routing comes to rest by itself.** Let a layout be activated, let anything happen to it, and
let any dispatches wait whose origins and buttons are nodes. Then, without any limit,

* the outbox is emptied after a finite number of dispatches. Each of them comes to an end: one after
  the other, forms and pagers are changed, and each of these changes ends, with all the changes that
  observers make in answer to it;
* nothing is dropped, and routing does not break off.

So nothing is dropped by a pass that may route this number of dispatches, or more.

**Proof sketch.** The layout is sound, and routing keeps it so. In a sound layout every change ends,
and what follows from a dispatch is of a lower rank than the dispatch itself. -/
theorem routing_comes_to_rest {environment : Environment} {spec : Spec}
    (h : activate environment spec = .ok layout) (actions : List Action) {queue : List Dispatch}
    (hnames : ∀ dispatch ∈ queue, dispatch.NamesNodes (Tree.ofSpec spec)) :
    let waiting := { layout.acts actions with outbox := ⟨queue⟩ }
    ∃ count final, Empties count waiting final ∧ final.outbox.queue = [] ∧
      final.dropped = waiting.dropped ∧ final.strays = waiting.strays ∧
      ∀ limit, count ≤ limit → (waiting.withLimit limit).settle = final.withLimit limit := by
  obtain ⟨hactive, htree, -⟩ := sound_of_activate h
  obtain ⟨hsound, htree'⟩ := sound_acts hactive actions
  have hwaiting : ({ layout.acts actions with outbox := ⟨queue⟩ } : Layout).Sound :=
    hsound.congr rfl (fun _ => rfl) fun _ => rfl
  obtain ⟨count, final, hempties, hdropped, hstrays⟩ := hwaiting.exists_empties
    fun dispatch hd => by
      show dispatch.NamesNodes (layout.acts actions).tree
      rw [htree', htree]
      exact hnames dispatch hd
  refine ⟨count, final, hempties, hempties.queue_eq, hdropped, hstrays, fun limit hle => ?_⟩
  rw [settle_withLimit, hempties.drain_eq hle]

/-- A button that submits is tapped, and submission is asked for from outside as well. -/
theorem routing_comes_to_rest_leaflet :
    ∃ layout waiting : Layout, activate {} leaflet = .ok layout ∧
      waiting = { layout.acts [.changeForm 0 (.track "name" true)] with
        outbox := ⟨[.bubble 1 (.buttonSubmit 1 "close" [.dismiss]),
          .broadcast (.layoutSubmit none)]⟩ } ∧
      ∃ count, ∀ limit, count ≤ limit →
        (waiting.withLimit limit).settle.outbox.queue = [] ∧
        (waiting.withLimit limit).settle.dropped = [] := by
  have hactive : activate {} leaflet = .ok (build {} (Tree.ofSpec leaflet)).settle :=
    activate_eq_ok.mpr ⟨by decide, rfl⟩
  have hbutton : ((Tree.ofSpec leaflet).node? 1).isSome := by decide
  have hnames : ∀ dispatch ∈ [Dispatch.bubble 1 (.buttonSubmit 1 "close" [.dismiss]),
      .broadcast (.layoutSubmit none)], dispatch.NamesNodes (Tree.ofSpec leaflet) := by
    intro dispatch hd
    rcases List.mem_pair.mp hd with rfl | rfl
    · constructor
      · rintro _ ⟨⟩
        exact hbutton
      · rintro _ ⟨⟩
        exact hbutton
    · exact ⟨nofun, nofun⟩
  obtain ⟨count, final, -, hqueue, hdropped, -, hsettle⟩ :=
    routing_comes_to_rest hactive [.changeForm 0 (.track "name" true)] hnames
  refine ⟨_, _, hactive, rfl, count, fun limit hle => ?_⟩
  rw [hsettle limit hle]
  refine ⟨hqueue, hdropped.trans ?_⟩
  decide +kernel

end Layout

end FormTree

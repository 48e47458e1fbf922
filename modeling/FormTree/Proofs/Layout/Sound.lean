import FormTree.Proofs.Layout.Cascade

set_option autoImplicit false

/-!
# Sound layouts

A layout is *sound* while no change is under way: every form and every pager is fully wired and
rests. Changes of forms and of pagers, with all that follows, lead from sound layouts to sound
layouts, and a form that carries the verdict of its rules goes on doing so, unless its flag is set
from outside.

## Main definitions

* `FormTree.Tree.lookers` — the forms that look at a pager.
* `FormTree.Layout.Sound` — the layouts between two changes.
* `FormTree.Layout.updatePager` — any change of a pager, with all that follows.
* `FormTree.Layout.Aftermath` — what changes of pagers come to.

## Main results

* `FormTree.Layout.Sound.changeForm`, `FormTree.Layout.Sound.updatePager` — changes lead from sound
  layouts to sound layouts.
* `FormTree.Layout.Sound.ruled_changeForm`, `FormTree.Layout.Sound.pagerChange` — forms go on
  carrying the verdicts of their rules.
-/

namespace FormTree

/-- The forms whose rules look at the pager `id`, in tree order. -/
def Tree.lookers (tree : Tree) (id : NodeId) : List NodeId :=
  tree.ids.filter fun form => (tree.rules form).hasPager && tree.pagerAround form = some id

/-- The forms that look at a pager are those with rules on pagers around which it is the nearest
one. -/
theorem Tree.mem_lookers {tree : Tree} {id form : NodeId} :
    form ∈ tree.lookers id ↔
      (tree.rules form).hasPager = true ∧ tree.pagerAround form = some id := by
  simp only [lookers, ids, List.mem_filter, List.mem_range, Bool.and_eq_true, decide_eq_true_eq]
  refine ⟨fun h => h.2, fun h => ⟨lt_size_of_form? (isSome_form?_of_rules ?_), h⟩⟩
  intro hnil
  rw [hnil] at h
  exact absurd h.1 (by simp [EnableRules.hasPager])

namespace Layout

/-! ## Places of pagers -/

/-- A change in the place of the pager `place` reaches that pager and no other. -/
@[simp] theorem pager_modify (layout : Layout) (place id : NodeId)
    (change : Observable PagerState PagerReaction → Observable PagerState PagerReaction) :
    ((pagerPlace place).modify layout change).pager id =
      if place = id then change (layout.pager place) else layout.pager id := by
  simp only [Place.modify, pagerPlace, pager, Table.get_set]

/-- A layout without the states of its nodes, its hold on observers and its outbox. -/
def core (layout : Layout) : Layout :=
  { layout with
    states := {}, forms := {}, announced := {}, pagers := {}, watches := [], outbox := {} }

/-- What leaves all but the forms and the outbox alone leaves the core alone. -/
theorem core_of_rest {layout layout' : Layout} (h : layout'.rest = layout.rest) :
    layout'.core = layout.core :=
  (congrArg (fun layout : Layout => layout.core) h :)

/-- The tree belongs to the core. -/
theorem tree_of_core {layout layout' : Layout} (h : layout'.core = layout.core) :
    layout'.tree = layout.tree := (congrArg Layout.tree h :)

/-! ## Sound layouts -/

/-- The pager `id` is fully wired, and nothing about it is under way. -/
structure PagerRests (layout : Layout) (id : NodeId) : Prop where
  /-- Everything committed is delivered. -/
  pending : (layout.pager id).pending = []
  /-- No delivery is in progress. -/
  isDelivering : (layout.pager id).isDelivering = false
  /-- It announces its position, and then the forms that look at it evaluate their rules. -/
  reactions : (layout.pager id).observers.map (·.reaction) =
    .announce id :: (layout.tree.lookers id).map .refresh

/-- No change is under way. -/
structure Sound (layout : Layout) : Prop where
  /-- The tree passed the checks. -/
  wf : layout.tree.WellFormed
  /-- Every form rests. -/
  rests : ∀ id, (layout.tree.form? id).isSome → layout.Rests id
  /-- Every pager rests. -/
  pagers : ∀ id, layout.tree.isPager id = true → layout.PagerRests id

namespace Sound

variable {layout layout' : Layout} {id other : NodeId} {intent : FormIntent}

/-- Soundness is up to the containers of the forms and pagers. -/
theorem congr (h : layout.Sound) (htree : layout'.tree = layout.tree)
    (hforms : ∀ id, layout'.form id = layout.form id)
    (hpagers : ∀ id, layout'.pager id = layout.pager id) : layout'.Sound where
  wf := htree ▸ h.wf
  rests id hsome := by
    rw [Rests, htree]
    exact (h.rests id (htree ▸ hsome)).congr htree (hforms id)
  pagers id hpager := by
    obtain ⟨hp, hd, hr⟩ := h.pagers id (htree ▸ hpager)
    exact ⟨by rw [hpagers, hp], by rw [hpagers, hd], by rw [hpagers, hr, htree]⟩

/-- Every form is ready to be changed. -/
theorem ready (h : layout.Sound) (hsome : (layout.tree.form? id).isSome) :
    Ready layout.depth id (layout.tree.wiring id) layout where
  wf := h.wf
  isSome := hsome
  depth := Nat.le_add_right _ _
  fits := layout.tree.fits_wiring id
  rests := h.rests id hsome
  below _ _ other _ hother := h.rests other hother

/-- A change of a form does what it should. -/
theorem change (h : layout.Sound) (hsome : (layout.tree.form? id).isSome) (intent : FormIntent) :
    Change id intent (layout.tree.wiring id) layout (layout.changeForm id intent) :=
  change_of_ready layout.depth intent (h.ready hsome)

/-- **A change of a form leads from a sound layout to a sound layout.** -/
theorem changeForm (h : layout.Sound) (hsome : (layout.tree.form? id).isSome)
    (intent : FormIntent) : (layout.changeForm id intent).Sound where
  wf := (h.change hsome intent).tree_eq ▸ h.wf
  rests other hother := by
    have hchange := h.change hsome intent
    rw [hchange.tree_eq] at hother
    exact hchange.rests_other h.wf hother (h.rests other hother)
  pagers pager hpager := by
    have hchange := h.change hsome intent
    obtain ⟨hp, hd, hr⟩ := h.pagers pager (hchange.tree_eq ▸ hpager)
    have heq := pager_of_rest hchange.rest pager
    exact ⟨by rw [heq, hp], by rw [heq, hd], by rw [heq, hr, hchange.tree_eq]⟩

end Sound

end Layout

/-! ## Verdicts -/

/-- The change sets the enabled flag of the form. -/
def FormIntent.setsEnabled : FormIntent → Bool
  | .setEnabled _ | .inherit _ _ => true
  | _ => false

/-- Other changes keep the enabled flag. -/
theorem FormState.isEnabled_reduce {intent : FormIntent} (h : intent.setsEnabled = false)
    (state : FormState) : (state.reduce intent).isEnabled = state.isEnabled := by
  cases intent with
  | setEnabled _ => cases h
  | inherit _ _ => cases h
  | _ => rfl

namespace Layout

variable {layout layout' : Layout} {id other : NodeId} {intent : FormIntent}

/-- Without rules on forms the verdict of a form is not concerned by what the form itself commits,
and if its flag is kept it goes on carrying it. -/
theorem Ruled.commitForm_self (linked : layout.tree.Linked) (h : layout.Ruled id)
    (hform : (layout.tree.rules id).hasForm = false) (hkeeps : intent.setsEnabled = false) :
    (layout.commitForm id intent).Ruled id := by
  obtain ⟨hs, hv⟩ := (layout.tree.rules id).contains_of_hasForm_eq_false hform
  intro hne
  have hvalue : ((layout.commitForm id intent).form id).value =
      (layout.form id).value.reduce intent := by
    rw [form_commitForm, if_pos rfl, Observable.value_commit]
  have haround : ∀ around, layout.tree.formAround id = some around →
      (layout.commitForm id intent).form around = layout.form around := by
    intro around ha
    rw [form_commitForm, if_neg (Nat.ne_of_gt (linked.formAround_lt ha))]
  have hverdict : (layout.commitForm id intent).verdict id = layout.verdict id := by
    unfold verdict
    rw [show (layout.commitForm id intent).tree = layout.tree from rfl]
    dsimp only
    rw [hs, hv]
    cases hf : layout.tree.formAround id with
    | none => rfl
    | some around => rw [Option.all_some, Option.all_some, haround around hf]; rfl
  rw [hvalue, FormState.isEnabled_reduce hkeeps, hverdict]
  exact h hne

/-- **Changes of forms keep verdicts**: a form that carries the verdict of its rules goes on doing
so, unless the change sets its own flag. -/
theorem Sound.ruled_changeForm (h : layout.Sound) (hsome : (layout.tree.form? id).isSome)
    (hruled : layout.Ruled other) (hkeeps : other = id → intent.setsEnabled = false) :
    (layout.changeForm id intent).Ruled other := by
  have hchange := h.change hsome intent
  by_cases hne : other = id
  · subst hne
    by_cases hsame : (layout.form other).value.reduce intent = (layout.form other).value
    · obtain ⟨hforms, -⟩ := hchange.same hsame
      exact hruled.congr hchange.rest (hforms other) fun around _ => hforms around
    · cases hform : (layout.tree.rules other).hasForm with
      | true => exact hchange.ruled hform hsame
      | false =>
        refine hchange.turn.ruled other (fun haround => ?_)
          (hruled.commitForm_self h.wf.linked hform (hkeeps rfl))
        have := h.wf.linked.formAround_lt haround
        omega
  · exact hchange.ruled_other hne hruled

/-! ## Changes of pagers -/

/-- Change the pager `id` as its handle asks for, with all that follows. -/
def updatePager (layout : Layout) (id : NodeId) (change : PagerState → PagerState) : Layout :=
  ((pagerPlace id).flush (reactPager (updateForm layout.depth)) pagerRounds
    ((pagerPlace id).modify layout fun state => state.commit (change state.value))).1

/-- What comes after the change of a pager: the forms follow, and announcements go into the
outbox. -/
structure Aftermath (layout layout' : Layout) : Prop where
  /-- Only states and the outbox change. -/
  core : layout'.core = layout.core
  /-- All forms follow. -/
  follows : ∀ id, Follows (layout.tree.isChild id) (layout.form id) (layout'.form id)
  /-- Announcements go into the outbox. -/
  outbox : ∃ announcements, (∀ dispatch ∈ announcements, dispatch.IsAnnouncement layout.tree) ∧
    layout'.outbox.queue = layout.outbox.queue ++ announcements

namespace Aftermath

variable {layout'' : Layout}

/-- Only states and the outbox change. -/
theorem tree_eq (h : Aftermath layout layout') : layout'.tree = layout.tree := tree_of_core h.core

/-- Nothing happens. -/
theorem of_forms (hcore : layout'.core = layout.core)
    (hforms : ∀ id, layout'.form id = layout.form id) (houtbox : layout'.outbox = layout.outbox) :
    Aftermath layout layout' where
  core := hcore
  follows id := by
    rw [hforms id]
    exact .refl _ _
  outbox := ⟨[], by simp, by rw [houtbox, List.append_nil]⟩

/-- One aftermath after the other. -/
theorem trans (h : Aftermath layout layout') (h' : Aftermath layout' layout'') :
    Aftermath layout layout'' where
  core := h'.core.trans h.core
  follows id := by
    have := h'.follows id
    rw [h.tree_eq] at this
    exact (h.follows id).trans this
  outbox := by
    obtain ⟨list, hlist, hq⟩ := h.outbox
    obtain ⟨list', hlist', hq'⟩ := h'.outbox
    refine ⟨list ++ list', fun dispatch hd => ?_, by rw [hq', hq, List.append_assoc]⟩
    rcases List.mem_append.mp hd with hd | hd
    · exact hlist dispatch hd
    · exact h.tree_eq ▸ hlist' dispatch hd

/-- A change in the wake of a pager belongs to what comes after it. -/
theorem of_wake (h : Wake id layout layout') : Aftermath layout layout' where
  core := core_of_rest h.rest
  follows := h.follows
  outbox := h.outbox

end Aftermath

/-- The forms that look at a pager are served, one after the other, and come to their verdicts. -/
theorem lookers_phase (pager : NodeId) (snapshot : PagerState) (depth : Nat) :
    ∀ (list : List NodeId) (layout : Layout), layout.tree.WellFormed →
    layout.tree.size + 1 ≤ depth →
    (∀ form, (layout.tree.form? form).isSome → layout.Rests form) →
    (∀ form ∈ list, layout.tree.rules form ≠ []) →
    ∀ (observers : List (Observer PagerReaction)),
      (∀ observer ∈ observers, observer ∈ (layout.pager pager).observers) →
      observers.map (·.reaction) = list.map .refresh →
    ∃ layout', (pagerPlace pager).deliver (reactPager (updateForm depth)) snapshot observers
        layout = (layout', true) ∧
      layout'.rest = layout.rest ∧ Aftermath layout layout' ∧
      (∀ form, (layout.tree.form? form).isSome → layout'.Rests form) ∧
      ∀ form, form ∈ list ∨ layout.Ruled form → layout'.Ruled form := by
  intro list
  induction list with
  | nil =>
    intro layout _ _ hrests _ observers _ hreactions
    obtain rfl : observers = [] := by simpa using hreactions
    exact ⟨layout, rfl, rfl, .of_forms rfl (fun _ => rfl) rfl, hrests, by simp⟩
  | cons form list ih =>
    intro layout wf hdepth hrests hlist observers hobservers hreactions
    obtain ⟨observer, rest, rfl, hreaction, hrest⟩ := List.map_eq_cons_iff.mp hreactions
    have hactive : ((pagerPlace pager).get layout).isActive observer.id = true :=
      Observable.isActive_of_mem (hobservers observer (by simp))
    have hne := hlist form (by simp)
    have hsome := Tree.isSome_form?_of_rules hne
    have hbelow : layout.RestsBelow form := fun other _ hother => hrests other hother
    have hchange := change_of_ready depth (.setEnabled (layout.verdict form))
      ⟨wf, hsome, Nat.le_trans hdepth (Nat.le_add_right _ _), layout.tree.fits_wiring form,
        hrests form hsome, fun _ h => hbelow.inside h⟩
    have hwake := hchange.wake wf hsome trivial hbelow
    have htree := hwake.tree_eq
    have hruled :
        (updateForm depth form (.setEnabled (layout.verdict form)) layout).Ruled form := by
      refine hchange.turn.ruled form (fun haround => ?_) (ruled_setEnabled wf.linked)
      have := wf.linked.formAround_lt haround
      omega
    obtain ⟨layout', hdeliver, hrest', hafter, hrests', hruled'⟩ := ih _ (htree ▸ wf)
      (htree ▸ hdepth) (fun other hother => hwake.rests other (htree ▸ hother)
        (hrests other (htree ▸ hother)))
      (fun other hother => htree ▸ hlist other (by simp [hother])) rest (fun observer h => by
        rw [pager_of_rest hwake.rest]
        exact hobservers observer (by simp [h])) hrest
    refine ⟨layout', ?_, hrest'.trans hwake.rest, (Aftermath.of_wake hwake).trans hafter,
      fun other hother => hrests' other (htree ▸ hother), fun other hother => ?_⟩
    · rw [(pagerPlace pager).deliver_stay _ hactive (by
        simp only [reactPager, hreaction, refresh, rulesHold_eq_verdict wf hne]
        rfl), hdeliver]
    · by_cases heq : other = form
      · exact hruled' other (.inr (heq ▸ hruled))
      · rcases hother with hother | hother
        · exact hruled' other (.inl ((List.mem_cons.mp hother).resolve_left heq))
        · exact hruled' other (.inr (hwake.ruled other heq hother))

/-- The layout once the pager `id` holds a state, which is being delivered. -/
def holdPager (layout : Layout) (id : NodeId) (state : PagerState) : Layout :=
  (pagerPlace id).pop ((pagerPlace id).start
    ((pagerPlace id).modify layout fun container => container.commit state)) []

/-- While its state is delivered, the pager holds it and other pagers are as they were. -/
theorem pager_holdPager (layout : Layout) (id other : NodeId) (state : PagerState) :
    (layout.holdPager id state).pager other =
      if id = other then
        { (layout.pager id).commit state with isDelivering := true, pending := [] }
      else layout.pager other := by
  simp only [holdPager, Place.pop, Place.start, pager_modify, if_true]
  split <;> rfl

/-- A form that does not look at the pager carries its verdict whatever the pager holds. -/
theorem Ruled.holdPager {form : NodeId} {state : PagerState} (h : layout.Ruled form)
    (hlooks : form ∉ layout.tree.lookers id) : (layout.holdPager id state).Ruled form := by
  intro hne
  have hverdict : (layout.holdPager id state).verdict form = layout.verdict form := by
    refine verdict_congr rfl (fun _ _ => rfl) rfl rfl fun hrules pager hpager => ?_
    rw [pager_holdPager, if_neg]
    rintro rfl
    exact hlooks (Tree.mem_lookers.mpr ⟨hrules, hpager⟩)
  rw [hverdict]
  exact h hne

/-- An announcement leaves verdicts alone. -/
theorem Ruled.announcePosition {form : NodeId} (h : layout.Ruled form) (id : NodeId)
    (state : PagerState) : (layout.announcePosition id state).Ruled form :=
  h.congr rfl rfl fun _ _ => rfl

/-- Once a pager holds a new state, the forms follow: its position is announced, and the forms that
look at it come to their verdicts. -/
theorem deliver_holdPager (h : layout.Sound) (hpager : layout.tree.isPager id = true)
    (state : PagerState) :
    ∃ layout', (pagerPlace id).deliver (reactPager (updateForm layout.depth)) state
        (layout.pager id).observers (layout.holdPager id state) = (layout', true) ∧
      layout'.rest = (layout.holdPager id state).rest ∧ Aftermath layout layout' ∧
      (∀ form, (layout.tree.form? form).isSome → layout'.Rests form) ∧
      ∀ form, layout.Ruled form → layout'.Ruled form := by
  obtain ⟨observer, rest, hobservers, hreaction, hrest⟩ :=
    List.map_eq_cons_iff.mp (h.pagers id hpager).reactions
  have hheld : ((layout.holdPager id state).pager id).observers = observer :: rest := by
    rw [pager_holdPager, if_pos rfl, ← hobservers]
    exact Observable.observers_commit _ _
  have hactive : ((pagerPlace id).get (layout.holdPager id state)).isActive observer.id =
      true := Observable.isActive_of_mem (by
    show observer ∈ ((layout.holdPager id state).pager id).observers
    simp [hheld])
  have hannounced : Aftermath layout ((layout.holdPager id state).announcePosition id state) :=
    { core := rfl
      follows := fun _ => .refl _ _
      outbox := ⟨[.trickle id (.pagerUpdate id state)],
        by simpa [Dispatch.IsAnnouncement] using hpager, rfl⟩ }
  obtain ⟨layout', hdeliver, hrest', hafter, hrests, hruled⟩ :=
    lookers_phase id state layout.depth (layout.tree.lookers id)
      ((layout.holdPager id state).announcePosition id state) h.wf (Nat.le_refl _)
      (fun form hsome => (h.rests form hsome).congr rfl rfl)
      (fun form hform hnil => by
        have := (Tree.mem_lookers.mp hform).1
        rw [show layout.tree.rules form = [] from hnil] at this
        simp [EnableRules.hasPager] at this)
      rest (fun other hother => by
        show other ∈ ((layout.holdPager id state).pager id).observers
        simp [hheld, hother]) hrest
  refine ⟨layout', ?_, hrest', hannounced.trans hafter, hrests, fun form hform => ?_⟩
  · rw [hobservers, (pagerPlace id).deliver_stay _ hactive (by
        simp only [reactPager, hreaction]
        rfl), hdeliver]
  · by_cases hlooks : form ∈ layout.tree.lookers id
    · exact hruled form (.inl hlooks)
    · exact hruled form (.inr ((hform.holdPager hlooks).announcePosition id state))

/-- What a change of a pager comes to. -/
structure PagerChange (id : NodeId) (layout layout' : Layout) : Prop where
  /-- The forms follow. -/
  aftermath : Aftermath layout layout'
  /-- The layout is sound again. -/
  sound : layout'.Sound
  /-- Forms that carried their verdicts still do. -/
  ruled : ∀ form, layout.Ruled form → layout'.Ruled form

/-- The end of a delivery leaves all but the pager alone. -/
theorem pager_rest (layout : Layout) (id other : NodeId) :
    ((pagerPlace id).rest layout).pager other =
      if id = other then { layout.pager id with isDelivering := false }
      else layout.pager other := by
  rw [Place.rest, pager_modify]

/-- A pager that keeps its state is not delivered. -/
theorem updatePager_of_same (h : layout.PagerRests id) {change : PagerState → PagerState}
    (hsame : change (layout.pager id).value = (layout.pager id).value) :
    layout.updatePager id change =
        (pagerPlace id).rest ((pagerPlace id).start ((pagerPlace id).modify layout fun state =>
          state.commit (change state.value))) ∧
      ∀ other, (layout.updatePager id change).pager other = layout.pager other := by
  have hcommit : (layout.pager id).commit (change (layout.pager id).value) = layout.pager id := by
    rw [hsame, Observable.commit_value]
  have hpending : ((pagerPlace id).get ((pagerPlace id).start ((pagerPlace id).modify layout
      fun state => state.commit (change state.value)))).pending = [] := by
    show (((pagerPlace id).start _).pager id).pending = []
    rw [Place.start, pager_modify, if_pos rfl, pager_modify, if_pos rfl, hcommit]
    exact h.pending
  have hresting : ((pagerPlace id).get ((pagerPlace id).modify layout
      fun state => state.commit (change state.value))).isDelivering = false := by
    show (((pagerPlace id).modify layout _).pager id).isDelivering = false
    rw [pager_modify, if_pos rfl, hcommit]
    exact h.isDelivering
  have hupdate : layout.updatePager id change =
      (pagerPlace id).rest ((pagerPlace id).start ((pagerPlace id).modify layout fun state =>
        state.commit (change state.value))) := by
    rw [updatePager, (pagerPlace id).flush_of_resting _ hresting, pagerRounds,
      (pagerPlace id).drain_rest _ hpending]
  refine ⟨hupdate, fun other => ?_⟩
  rw [hupdate, pager_rest, Place.start, pager_modify, if_pos rfl, pager_modify, if_pos rfl, hcommit,
    pager_modify, pager_modify]
  split
  · next heq =>
    subst heq
    have := h.isDelivering
    cases hstate : layout.pager id
    simp_all
  · next hne => rw [pager_modify, if_neg hne]

/-- A pager that gets a new state is delivered in one round. -/
theorem updatePager_of_changed (h : layout.PagerRests id) {change : PagerState → PagerState}
    (hchanged : change (layout.pager id).value ≠ (layout.pager id).value) {layout' : Layout}
    (hdeliver : (pagerPlace id).deliver (reactPager (updateForm layout.depth))
      (change (layout.pager id).value) (layout.pager id).observers
      (layout.holdPager id (change (layout.pager id).value)) = (layout', true))
    (hpending : (layout'.pager id).pending = []) :
    layout.updatePager id change = (pagerPlace id).rest layout' := by
  have hmodify : ((pagerPlace id).modify layout fun state => state.commit (change state.value)) =
      (pagerPlace id).modify layout fun state => state.commit (change (layout.pager id).value) :=
    rfl
  have hresting : ((pagerPlace id).get ((pagerPlace id).modify layout
      fun state => state.commit (change (layout.pager id).value))).isDelivering = false := by
    show (((pagerPlace id).modify layout _).pager id).isDelivering = false
    rw [pager_modify, if_pos rfl, Observable.isDelivering_commit]
    exact h.isDelivering
  have hsnapshot : ((pagerPlace id).get ((pagerPlace id).start ((pagerPlace id).modify layout
      fun state => state.commit (change (layout.pager id).value)))).pending =
      [change (layout.pager id).value] := by
    show (((pagerPlace id).start _).pager id).pending = _
    rw [Place.start, pager_modify, if_pos rfl, pager_modify, if_pos rfl]
    show ((layout.pager id).commit _).pending = _
    rw [Observable.pending_commit, h.pending, Observable.added, if_neg hchanged]
    rfl
  have hheld : ((pagerPlace id).get
      (layout.holdPager id (change (layout.pager id).value))).observers =
      (layout.pager id).observers := by
    show ((layout.holdPager id _).pager id).observers = _
    rw [pager_holdPager, if_pos rfl]
    exact Observable.observers_commit _ _
  have hround : (pagerPlace id).deliver (reactPager (updateForm layout.depth))
      (change (layout.pager id).value)
      ((pagerPlace id).get (layout.holdPager id (change (layout.pager id).value))).observers
      (layout.holdPager id (change (layout.pager id).value)) = (layout', true) := by
    rw [hheld]
    exact hdeliver
  rw [updatePager, hmodify, (pagerPlace id).flush_of_resting _ hresting, pagerRounds,
    (pagerPlace id).drain_round (reactPager (updateForm layout.depth)) hsnapshot hround,
    (pagerPlace id).drain_rest _ hpending]

/-- **What a change of a pager with all that follows comes to.**

**Proof sketch.** If the pager keeps its state, nothing is delivered. Otherwise one round is run:
it announces the position and then serves the forms that look at the pager. No form changes the
pager, so the second round finds nothing left. -/
theorem Sound.pagerChange (h : layout.Sound) (hpager : layout.tree.isPager id = true)
    (change : PagerState → PagerState) : PagerChange id layout (layout.updatePager id change) := by
  have hrests := h.pagers id hpager
  by_cases hsame : change (layout.pager id).value = (layout.pager id).value
  · obtain ⟨hupdate, hpagers⟩ := updatePager_of_same hrests hsame
    rw [hupdate] at hpagers ⊢
    exact ⟨.of_forms rfl (fun _ => rfl) rfl, h.congr rfl (fun _ => rfl) hpagers,
      fun form hform => hform.of_values rfl rfl (fun _ _ => rfl) fun pager => by rw [hpagers]⟩
  · obtain ⟨layout', hdeliver, hrest, hafter, hforms, hruled⟩ :=
      deliver_holdPager h hpager (change (layout.pager id).value)
    have htree := hafter.tree_eq
    have hheld : ∀ other, layout'.pager other =
        (layout.holdPager id (change (layout.pager id).value)).pager other := pager_of_rest hrest
    have hpending : (layout'.pager id).pending = [] := by
      rw [hheld, pager_holdPager, if_pos rfl]
    rw [updatePager_of_changed hrests hsame hdeliver hpending]
    have hend : Aftermath layout' ((pagerPlace id).rest layout') :=
      .of_forms rfl (fun _ => rfl) rfl
    refine ⟨hafter.trans hend, ⟨htree ▸ h.wf, fun form hsome => ?_, fun pager hp => ?_⟩,
      fun form hform => (hruled form hform).of_values rfl rfl (fun _ _ => rfl) fun pager => ?_⟩
    · exact (hforms form (htree ▸ hsome)).congr rfl rfl
    · obtain ⟨hp', hd, hr⟩ := h.pagers pager (htree ▸ hp)
      refine ⟨?_, ?_, ?_⟩ <;> rw [pager_rest]
      · split
        · exact hpending
        · next hne => rw [hheld, pager_holdPager, if_neg hne, hp']
      · split
        · rfl
        · next hne => rw [hheld, pager_holdPager, if_neg hne, hd]
      · show _ = PagerReaction.announce pager :: (layout'.tree.lookers pager).map .refresh
        rw [htree, ← hr, hheld, hheld, pager_holdPager, pager_holdPager]
        split
        · next heq =>
          subst heq
          rw [if_pos rfl]
          show ((layout.pager id).commit _).observers.map _ = _
          rw [Observable.observers_commit]
        · rfl
    · rw [pager_rest]
      split
      · next heq => rw [heq]
      · rfl

/-- **A change of a pager leads from a sound layout to a sound layout.** -/
theorem Sound.updatePager (h : layout.Sound) (hpager : layout.tree.isPager id = true)
    (change : PagerState → PagerState) : (layout.updatePager id change).Sound :=
  (h.pagerChange hpager change).sound

end Layout

end FormTree

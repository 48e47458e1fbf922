import FormTree.Proofs.Layout.Interventions
import FormTree.Proofs.Layout.Outsiders

set_option autoImplicit false

/-!
# Bounds that suffice

A change is made with a bound on the rounds of its delivery and on the depth of the changes nested
in it. These bounds are never reached, whatever forms and pagers are changed to through their
handles: so a change with its bounds is one that comes to an end without any.

The depth suffices since observers change the form that they observe, which is being delivered then,
or a form further down. The rounds suffice since a form changes itself at most twice in answer to a
change: it notes that its display has been reported, which it does not take back, and it comes to
what its rules say, which does not change their verdict.

## Main definitions

* `FormTree.Layout.Poised` — the forms from a number on rest, and observers change forms further
  down.
* `FormTree.Layout.unrest` — how many rounds of the delivery of a form are still to come.
* `FormTree.Layout.Concluded` — what a change of a form comes to.
* `FormTree.Layout.Placid` — all forms and pagers rest.

## Main results

* `FormTree.Layout.Poised.concluded_updateForm`, `FormTree.Layout.Poised.concluded_reviseForm` —
  the changes of forms come to an end.
* `FormTree.Layout.Placid.updatePager` — so do those of pagers.
-/

namespace FormTree

/-- What an observer of the form `id` may do: it changes a form that comes later, or the form itself
notes that its display has been reported, or comes to what its rules say. -/
def FormReaction.Suits (tree : Tree) (id : NodeId) : FormReaction → Prop
  | .inherit child => (tree.form? child).isSome ∧ id < child
  | .reportDisplay target => (tree.form? target).isSome ∧ id ≤ target
  | .refresh target => tree.rules target ≠ [] ∧ id ≤ target
  | .announce _ | .guest => True

/-- A commit adds one snapshot at most. -/
lemma Observable.length_added_le {σ κ : Type} [DecidableEq σ] (state : Observable σ κ) (next : σ) :
    (state.added next).length ≤ 1 := by
  unfold added
  split <;> simp

namespace Layout

variable {layout layout' old world world' : Layout} {id bound : NodeId} {depth : Nat}

/-! ## Forms at rest -/

/-- The forms from `bound` on rest, and observers may change forms as they do in a layout. -/
structure Poised (bound : NodeId) (layout : Layout) : Prop where
  wf : layout.tree.WellFormed
  forms {id : NodeId} : (layout.tree.form? id).isSome → ∀ observer ∈ (layout.form id).observers,
    observer.reaction.Suits layout.tree id
  pagers {id : NodeId} : layout.tree.isPager id = true →
    ∀ observer ∈ (layout.pager id).observers,
      observer.reaction.Within fun target => (layout.tree.form? target).isSome
  idle {id : NodeId} : (layout.tree.form? id).isSome → bound ≤ id →
    (layout.form id).isDelivering = false ∧ (layout.form id).pending = []

namespace Poised

lemma mono {bound' : NodeId} (h : layout.Poised bound) (hle : bound ≤ bound') :
    layout.Poised bound' :=
  ⟨h.wf, h.forms, h.pagers, fun hsome hid => h.idle hsome (Nat.le_trans hle hid)⟩

/-- Where no observers are added, the forms have to rest. -/
lemma congr {bound' : NodeId} (h : layout.Poised bound) (htree : layout'.tree = layout.tree)
    (hforms : ∀ form, (layout'.form form).observers ⊆ (layout.form form).observers)
    (hpagers : ∀ pager, (layout'.pager pager).observers ⊆ (layout.pager pager).observers)
    (hidle : ∀ form, (layout.tree.form? form).isSome → bound' ≤ form →
      (layout'.form form).isDelivering = false ∧ (layout'.form form).pending = []) :
    layout'.Poised bound' where
  wf := htree ▸ h.wf
  forms hsome observer hobserver := by
    rw [htree] at hsome ⊢
    exact h.forms hsome observer (hforms _ hobserver)
  pagers hpager observer hobserver := by
    rw [htree] at hpager ⊢
    exact h.pagers hpager observer (hpagers _ hobserver)
  idle hsome hle := hidle _ (htree ▸ hsome) hle

/-- A form that gets no new observers, and rests if it has to. -/
lemma modify {bound' : NodeId} (h : layout.Poised bound) (id : NodeId)
    (change : Observable FormState FormReaction → Observable FormState FormReaction)
    (hobservers : (change (layout.form id)).observers ⊆ (layout.form id).observers)
    (hidle : (layout.tree.form? id).isSome → bound' ≤ id →
      (change (layout.form id)).isDelivering = false ∧ (change (layout.form id)).pending = [])
    (hothers : ∀ form, form ≠ id → bound' ≤ form → bound ≤ form) :
    ((formPlace id).modify layout change).Poised bound' := by
  refine h.congr rfl (fun form => ?_) (fun _ => List.Subset.refl _) fun form hsome hle => ?_
  · rw [form_modify]
    split
    · next heq => exact heq ▸ hobservers
    · exact List.Subset.refl _
  · rw [form_modify]
    split
    · next heq =>
      subst heq
      exact hidle hsome hle
    · next hne => exact h.idle hsome (hothers form (Ne.symm hne) hle)

/-- A pager that gets no new observers. -/
lemma modifyPager (h : layout.Poised bound) (id : NodeId)
    (change : Observable PagerState PagerReaction → Observable PagerState PagerReaction)
    (hobservers : ∀ state, (change state).observers ⊆ state.observers) :
    ((pagerPlace id).modify layout change).Poised bound := by
  refine h.congr rfl (fun _ => List.Subset.refl _) (fun pager => ?_) fun form => h.idle
  rw [pager_modify]
  split
  · next heq => exact heq ▸ hobservers _
  · exact List.Subset.refl _

end Poised

/-! ## How many rounds are still to come -/

/-- The rounds of the delivery of a form that are still to come: one for each pending snapshot, one
if the form may still note that its display has been reported, and one if it may still come to what
its rules say. -/
def unrest (layout : Layout) (id : NodeId) : Nat :=
  (layout.form id).pending.length + (!(layout.form id).value.isDisplayReported).toNat +
    ((layout.form id).value.isEnabled != layout.verdict id).toNat

/-- What is noted about a form leaves its value and its verdict alone. -/
lemma unrest_modify
    (change : Observable FormState FormReaction → Observable FormState FormReaction)
    (hvalue : ∀ state, (change state).value = state.value) :
    ((formPlace id).modify layout change).unrest id =
      (change (layout.form id)).pending.length +
        (!(layout.form id).value.isDisplayReported).toNat +
        ((layout.form id).value.isEnabled != layout.verdict id).toNat := by
  have hvalues : ∀ form, (((formPlace id).modify layout change).form form).value =
      (layout.form form).value := fun form => by
    rw [form_modify]
    split
    · next heq => rw [hvalue, heq]
    · rfl
  have hverdict : ((formPlace id).modify layout change).verdict id = layout.verdict id :=
    verdict_congr rfl (fun around _ => by rw [hvalues]) (by rw [hvalues]) (by rw [hvalues])
      fun _ _ _ => rfl
  rw [unrest, hverdict, hvalues, form_modify, if_pos rfl]

/-- Noting that the display has been reported leaves as many rounds to come, or fewer. -/
lemma unrest_displayReported (linked : layout.tree.Linked) :
    (layout.commitForm id .displayReported).unrest id ≤ layout.unrest id := by
  have hform := form_commitForm layout id id .displayReported
  rw [if_pos rfl, FormState.reduce] at hform
  have hverdict : (layout.commitForm id .displayReported).verdict id = layout.verdict id := by
    refine verdict_congr rfl (fun around haround => ?_) ?_ ?_ fun _ pager _ => rfl
    · rw [form_commitForm, if_neg (Nat.ne_of_gt (linked.formAround_lt haround))]
    · rw [hform, Observable.value_commit]
    · rw [hform, Observable.value_commit]
  have hadded := (layout.form id).length_added_le
    { (layout.form id).value with isDisplayReported := true }
  unfold unrest
  rw [hverdict, hform]
  cases hreported : (layout.form id).value.isDisplayReported with
  | true =>
    have hsame : { (layout.form id).value with isDisplayReported := true } =
        (layout.form id).value := by rw [← hreported]
    rw [hsame, Observable.commit_value, hreported]
  | false =>
    rw [Observable.pending_commit, Observable.value_commit, List.length_append]
    simp only [Bool.not_true, Bool.not_false, Bool.toNat_false, Bool.toNat_true] at hadded ⊢
    omega

/-- Coming to what the rules say leaves as many rounds to come, or fewer. -/
lemma unrest_setEnabled (linked : layout.tree.Linked) :
    (layout.commitForm id (.setEnabled (layout.verdict id))).unrest id ≤ layout.unrest id := by
  have hform := form_commitForm layout id id (.setEnabled (layout.verdict id))
  rw [if_pos rfl, FormState.reduce] at hform
  have hadded := (layout.form id).length_added_le
    { (layout.form id).value with isEnabled := layout.verdict id }
  unfold unrest
  rw [verdict_setEnabled linked, hform]
  by_cases heq : (layout.form id).value.isEnabled = layout.verdict id
  · have hsame : { (layout.form id).value with isEnabled := layout.verdict id } =
        (layout.form id).value := by rw [← heq]
    rw [hsame, Observable.commit_value]
  · rw [Observable.pending_commit, Observable.value_commit, List.length_append,
      bne_self_eq_false, bne_iff_ne.mpr heq]
    simp only [Bool.toNat_false, Bool.toNat_true] at hadded ⊢
    omega

/-! ## Changes that come to an end -/

/-- The change of a form has come to an end: later forms rest, and earlier ones and the pagers are
as before. -/
structure Concluded (depth : Nat) (id : NodeId) (change : FormState → FormState)
    (layout layout' : Layout) : Prop where
  ends : ErrandEnds depth (.reviseForm id change) layout layout'
  tree : layout'.tree = layout.tree
  poised : layout'.Poised id
  before : ∀ form, form < id → layout'.form form = layout.form form
  pagers : layout'.pagers = layout.pagers

/-- A layout in which everything from a form on rested rests from there on again. -/
lemma Concluded.poised_again {change : FormState → FormState}
    (h : Concluded depth id change layout layout') (hpoised : layout.Poised bound) :
    layout'.Poised bound where
  wf := h.poised.wf
  forms := h.poised.forms
  pagers := h.poised.pagers
  idle {form} hsome hbound := by
    rcases Nat.lt_or_ge form id with hlt | hge
    · rw [h.before form hlt]
      exact hpoised.idle (h.tree ▸ hsome) hbound
    · exact h.poised.idle hsome hge

/-- The delivery of the form `id` is under way, which started in the layout `old`: later forms
rest, and earlier ones and the pagers are as they were. -/
structure Midway (id : NodeId) (old layout : Layout) : Prop where
  tree : layout.tree = old.tree
  poised : layout.Poised (id + 1)
  isDelivering : (layout.form id).isDelivering = true
  before : ∀ form, form < id → layout.form form = old.form form
  pagers : layout.pagers = old.pagers

namespace Midway

/-- A later form is changed. -/
lemma later {target : NodeId} {change : FormState → FormState} (h : Midway id old world)
    (hlt : id < target) (hchange : Concluded depth target change world world') :
    Midway id old world' ∧ world'.unrest id = world.unrest id := by
  have hself : world'.form id = world.form id := hchange.before id hlt
  refine ⟨⟨hchange.tree.trans h.tree, hchange.poised_again h.poised,
    hself ▸ h.isDelivering, fun form hform => ?_, hchange.pagers.trans h.pagers⟩, ?_⟩
  · rw [hchange.before form (Nat.lt_trans hform hlt), h.before form hform]
  · have hverdict : world'.verdict id = world.verdict id := by
      refine verdict_congr hchange.tree (fun around haround => ?_) ?_ ?_ fun _ pager _ => ?_
      · rw [hchange.before around (Nat.lt_trans (h.poised.wf.linked.formAround_lt haround) hlt)]
      · rw [hself]
      · rw [hself]
      · rw [Layout.pager, hchange.pagers]
        rfl
    unfold unrest
    rw [hself, hverdict]

/-- Something is noted about the form, which gets no new observers. -/
lemma modify (h : Midway id old world)
    (change : Observable FormState FormReaction → Observable FormState FormReaction)
    (hobservers : (change (world.form id)).observers ⊆ (world.form id).observers)
    (hdelivering : (change (world.form id)).isDelivering = (world.form id).isDelivering) :
    Midway id old ((formPlace id).modify world change) where
  tree := h.tree
  poised := h.poised.modify id change hobservers (fun _ hlt => absurd hlt (Nat.not_succ_le_self _))
    fun _ _ hle => hle
  isDelivering := by rw [form_modify, if_pos rfl, hdelivering, h.isDelivering]
  before form hlt := by rw [form_modify, if_neg (Nat.ne_of_gt hlt), h.before form hlt]
  pagers := h.pagers

/-- The form itself is changed, which is left to its delivery. -/
lemma self (h : Midway id old world) (depth : Nat) (intent : FormIntent) :
    updateForm (depth + 1) id intent world = world.commitForm id intent ∧
      Midway id old (world.commitForm id intent) ∧
      ErrandEnds (depth + 1) (.reviseForm id (·.reduce intent)) world
        (world.commitForm id intent) := by
  refine ⟨updateForm_of_delivering depth h.isDelivering,
    h.modify (fun state => state.commit (state.value.reduce intent)) ?_ ?_, .busy ?_⟩
  · rw [Observable.observers_commit]
    exact List.Subset.refl _
  · rw [Observable.isDelivering_commit]
  · show ((world.commitForm id intent).form id).isDelivering = true
    rw [form_commitForm, if_pos rfl, Observable.isDelivering_commit, h.isDelivering]

/-- Dispatches and announcements are of no concern. -/
lemma congr (h : Midway id old world) (world' : Layout) (htree : world'.tree = world.tree)
    (hforms : world'.forms = world.forms) (hpagers : world'.pagers = world.pagers) :
    Midway id old world' ∧ world'.unrest id = world.unrest id := by
  have hform : ∀ form, world'.form form = world.form form :=
    fun form => congrArg (·.get form) hforms
  have hpager : ∀ pager, world'.pager pager = world.pager pager :=
    fun pager => congrArg (·.get pager) hpagers
  refine ⟨⟨htree.trans h.tree, ?_, hform id ▸ h.isDelivering, fun form hlt => ?_,
    hpagers.trans h.pagers⟩, ?_⟩
  · refine h.poised.congr htree (fun form => ?_) (fun pager => ?_) fun form hsome hle => ?_
    · rw [hform]
      exact List.Subset.refl _
    · rw [hpager]
      exact List.Subset.refl _
    · rw [hform]
      exact h.poised.idle hsome hle
  · rw [hform, h.before form hlt]
  · have hverdict : world'.verdict id = world.verdict id :=
      verdict_congr htree (fun around _ => by rw [hform]) (by rw [hform]) (by rw [hform])
        fun _ pager _ => by rw [hpager]
    unfold unrest
    rw [hform, hverdict]

section Delivery

variable (hdepth : 0 < depth)
  (hlater : ∀ {target : NodeId} (intent : FormIntent) {world : Layout},
    (old.tree.form? target).isSome → id < target → world.tree = old.tree → world.Poised target →
    Concluded depth target (·.reduce intent) world (updateForm depth target intent world))
include hdepth hlater

/-- **An observer makes a change** of a later form, or one of the form itself that leaves as many
rounds to come. -/
lemma change (h : Midway id old world) {target : NodeId} (intent : FormIntent)
    (hsome : (old.tree.form? target).isSome) (hle : id ≤ target)
    (hself : id = target →
      (world.commitForm id intent).unrest id ≤ world.unrest id) :
    Midway id old (updateForm depth target intent world) ∧
      (updateForm depth target intent world).unrest id ≤ world.unrest id ∧
      ErrandEnds depth (.reviseForm target (·.reduce intent)) world
        (updateForm depth target intent world) := by
  rcases Nat.eq_or_lt_of_le hle with rfl | hlt
  · obtain ⟨depth, rfl⟩ : ∃ n, depth = n + 1 := ⟨depth - 1, by omega⟩
    obtain ⟨hupdate, hmidway, hends⟩ := h.self depth intent
    rw [hupdate]
    exact ⟨hmidway, hself rfl, hends⟩
  · have hchange := hlater intent hsome hlt h.tree (h.poised.mono hlt)
    obtain ⟨hmidway, hunrest⟩ := h.later hlt hchange
    exact ⟨hmidway, hunrest.le, hchange.ends⟩

/-- **The observers of the form settle.** -/
lemma settles {rounds : Nat} {observer : Observer FormReaction}
    (hsuits : observer.reaction.Suits old.tree id) (snapshot : FormState)
    (h : Midway id old world ∧ world.unrest id ≤ rounds) :
    Place.Settles (FormAnswers (ErrandEnds depth))
      (fun world => Midway id old world ∧ world.unrest id ≤ rounds) (fun _ => ()) observer snapshot
      world (reactForm (updateForm depth) observer snapshot world) := by
  obtain ⟨hworld, hrounds⟩ := h
  have hlinked := hworld.poised.wf.linked
  unfold reactForm
  split
  · next child hreaction =>
    rw [hreaction] at hsuits
    obtain ⟨hmidway, hunrest, hends⟩ := hworld.change hdepth hlater
      (.inherit snapshot.isSubmitted snapshot.isEnabled) hsuits.1 (Nat.le_of_lt hsuits.2)
      fun heq => absurd heq (Nat.ne_of_lt hsuits.2)
    exact ⟨⟨hmidway, hunrest.trans hrounds⟩, le_refl _, nofun,
      fun _ => .own (.inherit hreaction hends)⟩
  · next target hreaction =>
    rw [hreaction] at hsuits
    split
    · next hreported =>
      exact ⟨⟨hworld, hrounds⟩, le_refl _, nofun, fun _ => .own (.reported hreaction hreported)⟩
    · next hreported =>
      rw [Bool.not_eq_true] at hreported
      split
      · next hempty =>
        exact ⟨⟨hworld, hrounds⟩, le_refl _, nofun,
          fun _ => .own (.unseen hreaction hreported hempty)⟩
      · next hempty =>
        rw [Bool.not_eq_true] at hempty
        obtain ⟨hpushed, hsame⟩ := hworld.congr
          (world.push (.bubble target (.formDisplay (.ofForm snapshot.context)))) rfl rfl rfl
        obtain ⟨hmidway, hunrest, hends⟩ := hpushed.change hdepth hlater .displayReported
          hsuits.1 hsuits.2 fun _ => unrest_displayReported hlinked
        exact ⟨⟨hmidway, hunrest.trans (hsame.le.trans hrounds)⟩, le_refl _, nofun,
          fun _ => .own (.display hreaction hreported hempty hends)⟩
  · next target hreaction =>
    rw [hreaction] at hsuits
    have hverdict : world.rulesHold target = world.verdict target :=
      rulesHold_eq_verdict hworld.poised.wf (hworld.tree ▸ hsuits.1)
    obtain ⟨hmidway, hunrest, hends⟩ := hworld.change hdepth hlater
      (.setEnabled (world.rulesHold target)) (Tree.isSome_form?_of_rules hsuits.1)
      hsuits.2 fun heq => by
        subst heq
        rw [hverdict]
        exact unrest_setEnabled hlinked
    exact ⟨⟨hmidway, hunrest.trans hrounds⟩, le_refl _, nofun,
      fun _ => .own (.refresh hreaction hends)⟩
  · next target hreaction =>
    split
    · next hsame =>
      exact ⟨⟨hworld, hrounds⟩, le_refl _, nofun, fun _ => .own (.unchanged hreaction hsame)⟩
    · next hnew =>
      obtain ⟨hannounced, hunrest⟩ := hworld.congr (world.announce target snapshot.status)
        rfl rfl rfl
      exact ⟨⟨hannounced, hunrest.le.trans hrounds⟩, le_refl _, nofun,
        fun _ => .own (.announce hreaction hnew)⟩
  · next hreaction =>
    exact ⟨⟨hworld, hrounds⟩, le_refl _, nofun, fun _ => .own (.guest hreaction)⟩

/-- **A round takes one snapshot away**, and leaves fewer rounds to come. -/
lemma round (hsome : (old.tree.form? id).isSome) (h : Midway id old world)
    {snapshot : FormState} {pending : List FormState}
    (hpending : ((formPlace id).get world).pending = snapshot :: pending) :
    ∃ next, (formPlace id).deliver (reactForm (updateForm depth)) snapshot
        ((formPlace id).get ((formPlace id).pop world pending)).observers
        ((formPlace id).pop world pending) = (next, true) ∧
      (formPlace id).RoundEnds (FormAnswers (ErrandEnds depth)) snapshot
        ((formPlace id).get ((formPlace id).pop world pending)).observers
        ((formPlace id).pop world pending) next ∧
      Midway id old next ∧ next.unrest id < world.unrest id := by
  have hpopped : Midway id old ((formPlace id).pop world pending) :=
    h.modify (fun state => { state with pending }) (List.Subset.refl _) rfl
  have hfewer : ((formPlace id).pop world pending).unrest id + 1 = world.unrest id := by
    replace hpending : (world.form id).pending = snapshot :: pending := hpending
    rw [Place.pop, unrest_modify (fun state => { state with pending }) fun _ => rfl, unrest,
      hpending, List.length_cons]
    dsimp only
    omega
  have hsettles : ∀ observer ∈ ((formPlace id).get ((formPlace id).pop world pending)).observers,
      ∀ world', Midway id old world' ∧
          world'.unrest id ≤ ((formPlace id).pop world pending).unrest id →
        Place.Settles (FormAnswers (ErrandEnds depth))
          (fun world' => Midway id old world' ∧
            world'.unrest id ≤ ((formPlace id).pop world pending).unrest id)
          (fun _ => ()) observer snapshot world'
          (reactForm (updateForm depth) observer snapshot world') := by
    intro observer hobserver world' hworld'
    have hsuits := hpopped.poised.forms (hpopped.tree ▸ hsome) observer hobserver
    rw [hpopped.tree] at hsuits
    exact settles hdepth hlater hsuits snapshot hworld'
  have hunwatch : ∀ world' number, Place.Unmarked
      (fun world' => Midway id old world' ∧
        world'.unrest id ≤ ((formPlace id).pop world pending).unrest id)
      (fun _ => ()) world' ((formPlace id).modify world' (·.unwatch number)) := by
    refine fun world' number hworld' => ⟨⟨?_, ?_⟩, rfl⟩
    · exact hworld'.1.modify (·.unwatch number) (fun _ hmem => (List.mem_filter.mp hmem).1) rfl
    · rw [unrest_modify (·.unwatch number) fun _ => rfl]
      exact hworld'.2
  obtain ⟨next, hdeliver, ⟨hnext, hrounds⟩, -, hends⟩ :=
    (formPlace id).deliver_ends hsettles hunwatch ⟨hpopped, le_refl _⟩
  exact ⟨next, hdeliver, hends (le_refl _), hnext, by omega⟩

end Delivery

end Midway

/-- **A form that rests is changed**, where the changes of later forms come to an end. Whatever it
is changed to, the rounds suffice: at most three are to come when the delivery starts. -/
lemma Poised.concluded_flush (h : layout.Poised id) (hsome : (layout.tree.form? id).isSome)
    (hdepth : 0 < depth)
    (hlater : ∀ {target : NodeId} (intent : FormIntent) {world : Layout},
      (layout.tree.form? target).isSome → id < target → world.tree = layout.tree →
      world.Poised target →
      Concluded depth target (·.reduce intent) world (updateForm depth target intent world))
    (change : FormState → FormState) :
    Concluded (depth + 1) id change layout
      ((formPlace id).flush (reactForm (updateForm depth)) formRounds
        ((formPlace id).modify layout fun state => state.commit (change state.value))).1 := by
  obtain ⟨hidle, hpending⟩ := h.idle hsome (Nat.le_refl id)
  have hcommitted : ((formPlace id).modify layout fun state =>
      state.commit (change state.value)).form id =
        (layout.form id).commit (change (layout.form id).value) := by
    rw [form_modify, if_pos rfl]
  generalize hcommit : (formPlace id).modify layout (fun state =>
    state.commit (change state.value)) = committed at hcommitted ⊢
  have hresting : ((formPlace id).get committed).isDelivering = false := by
    show (committed.form id).isDelivering = false
    rw [hcommitted, Observable.isDelivering_commit, hidle]
  have hmidway : Midway id layout ((formPlace id).start committed) := by
    subst hcommit
    refine ⟨rfl, ?_, ?_, fun form hlt => ?_, rfl⟩
    · have hpoised : ((formPlace id).modify layout fun state =>
          state.commit (change state.value)).Poised (id + 1) := by
        refine h.modify id _ ?_ (fun _ hlt => absurd hlt (Nat.not_succ_le_self id))
          fun _ _ hle => Nat.le_of_succ_le hle
        rw [Observable.observers_commit]
        exact List.Subset.refl _
      exact hpoised.modify id _ (List.Subset.refl _)
        (fun _ hlt => absurd hlt (Nat.not_succ_le_self id)) fun _ _ hle => hle
    · rw [Place.start, form_modify, if_pos rfl]
    · rw [Place.start, form_modify, if_neg (Nat.ne_of_gt hlt), form_modify,
        if_neg (Nat.ne_of_gt hlt)]
  have hthree : ((formPlace id).start committed).unrest id < formRounds := by
    have hadded := (layout.form id).length_added_le (change (layout.form id).value)
    have hreported := Bool.toNat_le (!(committed.form id).value.isDisplayReported)
    have henabled := Bool.toNat_le ((committed.form id).value.isEnabled != committed.verdict id)
    have hone : (committed.form id).pending.length ≤ 1 := by
      rw [hcommitted, Observable.pending_commit, hpending]
      exact hadded
    rw [Place.start, unrest_modify (fun state => { state with isDelivering := true }) fun _ => rfl,
      formRounds]
    dsimp only
    omega
  obtain ⟨last, hdrain, hrounds, hlast, hnone⟩ := (formPlace id).drain_ends_of_measure
    (Midway id layout) (·.unrest id)
    (fun world snapshot pending hworld => hworld.round hdepth hlater hsome) formRounds _ hmidway
    hthree
  rw [(formPlace id).flush_of_resting _ hresting, hdrain]
  refine ⟨?_, hlast.tree, ?_, fun form hlt => ?_, hlast.pagers⟩
  · subst hcommit
    exact .idle hresting hrounds
  · refine hlast.poised.modify id (fun state => { state with isDelivering := false })
      (List.Subset.refl _) (fun _ _ => ⟨rfl, hnone⟩) fun form hne hle => ?_
    exact Nat.lt_of_le_of_ne hle (Ne.symm hne)
  · rw [Place.rest, form_modify, if_neg (Nat.ne_of_gt hlt), hlast.before form hlt]

/-- **A change of a form that rests comes to an end**, if the bound on the depth exceeds the number
of forms that may still follow.

**Proof sketch.** Induction on the depth. Observers change the form itself, which is being delivered
now, or a form with a larger number, for which one level of depth less suffices. -/
theorem Poised.concluded_updateForm : ∀ (depth : Nat) {id : NodeId} (intent : FormIntent)
    {layout : Layout}, (layout.tree.form? id).isSome → layout.tree.size < depth + id →
    layout.Poised id →
    Concluded depth id (·.reduce intent) layout (updateForm depth id intent layout) := by
  intro depth
  induction depth with
  | zero =>
    intro id intent layout hsome hdepth _
    have := Tree.lt_size_of_form? hsome
    unfold NodeId at *
    omega
  | succ depth ih =>
    intro id intent layout hsome hdepth h
    have hlt := Tree.lt_size_of_form? hsome
    refine h.concluded_flush hsome ?_ (fun intent world htarget hafter htree hworld => ?_) _
    · unfold NodeId at *
      omega
    · refine ih intent (htree ▸ htarget) ?_ hworld
      rw [htree]
      unfold NodeId at *
      omega

/-- **A change through the handle of a form that rests comes to an end**, whatever the form is
changed to. -/
theorem Poised.concluded_reviseForm (h : layout.Poised id)
    (hsome : (layout.tree.form? id).isSome) (change : FormState → FormState) :
    Concluded layout.depth id change layout (layout.reviseForm id change) := by
  have hlt := Tree.lt_size_of_form? hsome
  refine h.concluded_flush hsome ?_ (fun intent world htarget hafter htree hworld => ?_) _
  · exact Nat.zero_lt_of_lt hlt
  · refine concluded_updateForm _ intent (htree ▸ htarget) ?_ hworld
    rw [htree]
    unfold NodeId at *
    omega

/-! ## Changes of pagers -/

/-- All forms and pagers rest. -/
structure Placid (layout : Layout) : Prop where
  poised : layout.Poised 0
  pagers {id : NodeId} : layout.tree.isPager id = true →
    (layout.pager id).isDelivering = false ∧ (layout.pager id).pending = []

/-- The delivery of the pager `id` is under way, which started in the layout `old`: all forms rest,
and the other pagers are as they were. -/
structure PagerMidway (id : NodeId) (old layout : Layout) : Prop where
  tree : layout.tree = old.tree
  poised : layout.Poised 0
  others : ∀ pager, pager ≠ id → layout.pager pager = old.pager pager

namespace PagerMidway

/-- Something is noted about the pager, which gets no new observers. -/
lemma modify (h : PagerMidway id old world)
    (change : Observable PagerState PagerReaction → Observable PagerState PagerReaction)
    (hobservers : ∀ state, (change state).observers ⊆ state.observers) :
    PagerMidway id old ((pagerPlace id).modify world change) where
  tree := h.tree
  poised := h.poised.modifyPager id change hobservers
  others pager hne := by rw [pager_modify, if_neg (Ne.symm hne), h.others pager hne]

/-- **The observers of the pager settle**, and add nothing to what is pending. -/
lemma settles {pending : List PagerState} {observer : Observer PagerReaction}
    (hwithin : observer.reaction.Within fun target => (old.tree.form? target).isSome)
    (snapshot : PagerState)
    (h : PagerMidway id old world ∧ (world.pager id).pending = pending) :
    Place.Settles (PagerAnswers (ErrandEnds old.depth))
      (fun world => PagerMidway id old world ∧ (world.pager id).pending = pending) (fun _ => ())
      observer snapshot world (reactPager (updateForm old.depth) observer snapshot world) := by
  obtain ⟨hworld, hpending⟩ := h
  unfold reactPager
  split
  · next target hreaction =>
    have hpoised : (world.announcePosition target snapshot).Poised 0 :=
      hworld.poised.congr rfl (fun _ => List.Subset.refl _) (fun _ => List.Subset.refl _)
        fun _ => hworld.poised.idle
    exact ⟨⟨⟨hworld.tree, hpoised, hworld.others⟩, hpending⟩, le_refl _, by simp,
      fun _ => .own (.announce hreaction)⟩
  · next target hreaction =>
    rw [hreaction] at hwithin
    have hdeep : world.tree.size < old.depth + target := by
      rw [hworld.tree]
      exact Nat.lt_add_right target (Nat.lt_succ_self _)
    have hchange := Poised.concluded_updateForm old.depth (.setEnabled (world.rulesHold target))
      (hworld.tree ▸ hwithin) hdeep (hworld.poised.mono (Nat.zero_le target))
    have hpager : ∀ pager,
        (updateForm old.depth target (.setEnabled (world.rulesHold target)) world).pager pager =
          world.pager pager := fun pager => congrArg (·.get pager) hchange.pagers
    refine ⟨⟨⟨hchange.tree.trans hworld.tree, hchange.poised_again hworld.poised,
      fun pager hne => ?_⟩, ?_⟩, le_refl _, by simp,
      fun _ => .own (.refresh hreaction hchange.ends)⟩
    · rw [refresh, hpager, hworld.others pager hne]
    · rw [refresh, hpager, hpending]
  · next hreaction =>
    exact ⟨⟨hworld, hpending⟩, le_refl _, by simp, fun _ => .own (.guest hreaction)⟩

/-- **A round takes one snapshot away**, and leaves fewer. -/
lemma round (hpager : old.tree.isPager id = true) (h : PagerMidway id old world)
    {snapshot : PagerState} {pending : List PagerState}
    (hpending : ((pagerPlace id).get world).pending = snapshot :: pending) :
    ∃ next, (pagerPlace id).deliver (reactPager (updateForm old.depth)) snapshot
        ((pagerPlace id).get ((pagerPlace id).pop world pending)).observers
        ((pagerPlace id).pop world pending) = (next, true) ∧
      (pagerPlace id).RoundEnds (PagerAnswers (ErrandEnds old.depth)) snapshot
        ((pagerPlace id).get ((pagerPlace id).pop world pending)).observers
        ((pagerPlace id).pop world pending) next ∧
      PagerMidway id old next ∧
      (next.pager id).pending.length < (world.pager id).pending.length := by
  have hpopped : PagerMidway id old ((pagerPlace id).pop world pending) ∧
      (((pagerPlace id).pop world pending).pager id).pending = pending :=
    ⟨h.modify (fun state => { state with pending }) fun _ => List.Subset.refl _, by
      rw [Place.pop, pager_modify, if_pos rfl]⟩
  have hsettles : ∀ observer ∈ ((pagerPlace id).get ((pagerPlace id).pop world pending)).observers,
      ∀ world', PagerMidway id old world' ∧ (world'.pager id).pending = pending →
        Place.Settles (PagerAnswers (ErrandEnds old.depth))
          (fun world' => PagerMidway id old world' ∧ (world'.pager id).pending = pending)
          (fun _ => ()) observer snapshot world'
          (reactPager (updateForm old.depth) observer snapshot world') := by
    intro observer hobserver world' hworld'
    have hwithin := hpopped.1.poised.pagers (hpopped.1.tree ▸ hpager) observer hobserver
    rw [hpopped.1.tree] at hwithin
    exact settles hwithin snapshot hworld'
  have hunwatch : ∀ world' number, Place.Unmarked
      (fun world' => PagerMidway id old world' ∧ (world'.pager id).pending = pending)
      (fun _ => ()) world' ((pagerPlace id).modify world' (·.unwatch number)) := by
    refine fun world' number hworld' => ⟨⟨?_, ?_⟩, rfl⟩
    · exact hworld'.1.modify (·.unwatch number) fun _ _ hmem => (List.mem_filter.mp hmem).1
    · rw [pager_modify, if_pos rfl]
      exact hworld'.2
  obtain ⟨next, hdeliver, ⟨hnext, hleft⟩, -, hends⟩ :=
    (pagerPlace id).deliver_ends hsettles hunwatch hpopped
  refine ⟨next, hdeliver, hends (le_refl _), hnext, ?_⟩
  replace hpending : (world.pager id).pending = snapshot :: pending := hpending
  rw [hleft, hpending]
  exact Nat.lt_succ_self _

end PagerMidway

/-- **A change through the handle of a pager comes to an end**, where all forms and pagers rest:
they rest again, and the one round suffices, since nothing that follows changes the pager. -/
theorem Placid.updatePager (h : layout.Placid) (hpager : layout.tree.isPager id = true)
    (change : PagerState → PagerState) :
    (layout.updatePager id change).Placid ∧
      ErrandEnds (layout.depth + 1) (.updatePager id change) layout
        (layout.updatePager id change) := by
  obtain ⟨hidle, hpending⟩ := h.pagers hpager
  have hcommitted : ((pagerPlace id).modify layout fun state =>
      state.commit (change state.value)).pager id =
        (layout.pager id).commit (change (layout.pager id).value) := by
    rw [pager_modify, if_pos rfl]
  generalize hcommit : (pagerPlace id).modify layout (fun state =>
    state.commit (change state.value)) = committed at hcommitted
  have hresting : ((pagerPlace id).get committed).isDelivering = false := by
    show (committed.pager id).isDelivering = false
    rw [hcommitted, Observable.isDelivering_commit, hidle]
  have hmidway : PagerMidway id layout ((pagerPlace id).start committed) := by
    subst hcommit
    refine PagerMidway.modify ?_ _ fun _ => List.Subset.refl _
    refine PagerMidway.modify ⟨rfl, h.poised, fun _ _ => rfl⟩ _ fun state => ?_
    rw [Observable.observers_commit]
    exact List.Subset.refl _
  have hone : (((pagerPlace id).start committed).pager id).pending.length < pagerRounds := by
    have hadded := (layout.pager id).length_added_le (change (layout.pager id).value)
    rw [Place.start, pager_modify, if_pos rfl, hcommitted]
    dsimp only
    rw [Observable.pending_commit, hpending]
    exact Nat.lt_succ_of_le hadded
  obtain ⟨last, hdrain, hrounds, hlast, hnone⟩ := (pagerPlace id).drain_ends_of_measure
    (PagerMidway id layout) (fun world => (world.pager id).pending.length)
    (fun world snapshot pending hworld => hworld.round hpager) pagerRounds _ hmidway hone
  have hupdate : layout.updatePager id change = (pagerPlace id).rest last := by
    rw [Layout.updatePager, hcommit, (pagerPlace id).flush_of_resting _ hresting, hdrain]
  rw [hupdate]
  refine ⟨⟨hlast.poised.modifyPager id _ fun _ => List.Subset.refl _, fun {other} hother => ?_⟩, ?_⟩
  · rw [Place.rest, pager_modify]
    split
    · next heq => exact ⟨rfl, hnone⟩
    · next hne =>
      rw [hlast.others other (Ne.symm hne)]
      exact h.pagers (hlast.tree ▸ hother)
  · subst hcommit
    exact .idle hresting hrounds

end Layout

end FormTree

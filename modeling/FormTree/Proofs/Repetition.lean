import FormTree.Proofs.Layout.Standstill
import FormTree.Proofs.Layout.Strays
import FormTree.Proofs.RefusedCalls

set_option autoImplicit false

/-!
# Calls made twice

A call that tells how something stands — a view is attached, an input is on screen, it holds this
answer, a pager shows that page — tells nothing new when it is made once more. The whole layout then
stays as it is, and the same comes back.

## Main definitions

* `FormTree.Call.isTelling` — the call tells how something stands.

## Main results

* `FormTree.FormState.reduce_of_absorbed` — a form that took over what it is told takes over nothing
  when it is told again.
* `FormTree.Layout.Idle.settle_bubble_again` — an event about data that is raised once more.
* `FormTree.Layout.Idle.perform_again` — a call that is made once more.
* `FormTree.Layout.telling_again_changes_nothing` — telling again changes nothing.
-/

namespace FormTree

/-- The call tells how something stands; a tap, and an event from outside, are things that happen
each time. -/
def Call.isTelling : Call → Bool
  | .attach _ | .detach _ | .setDisplayed _ _ | .setAnswer _ _ | .withdraw _ | .scrollTo _ _ => true
  | .click _ | .dispatch _ _ _ => false

/-! ## States -/

section Collections

variable {β : Type} (map : Std.ExtTreeMap String β compare) (set : Std.ExtTreeSet String compare)

lemma insert_insert_map (id : String) (value : β) :
    (map.insert id value).insert id value = map.insert id value :=
  Std.ExtTreeMap.ext_getElem? fun other => by
    simp only [Std.ExtTreeMap.getElem?_insert]
    split <;> rfl

lemma erase_erase_map (id : String) : (map.erase id).erase id = map.erase id :=
  Std.ExtTreeMap.ext_getElem? fun other => by
    simp only [Std.ExtTreeMap.getElem?_erase]
    split <;> rfl

lemma insert_insert_set (id : String) : (set.insert id).insert id = set.insert id :=
  Std.ExtTreeSet.ext_mem fun other => by simp only [Std.ExtTreeSet.mem_insert, or_self_left]

lemma erase_erase_set (id : String) : (set.erase id).erase id = set.erase id :=
  Std.ExtTreeSet.ext_mem fun other => by simp only [Std.ExtTreeSet.mem_erase, and_self_left]

end Collections

/-- What a form is told about its inputs, it takes over once. -/
theorem FormState.reduce_reduce {intent : FormIntent} (htakes : Allowance.data.takes intent)
    (state : FormState) : (state.reduce intent).reduce intent = state.reduce intent := by
  cases intent with
  | track id isValid => simp [reduce, track, recompute, insert_insert_map]
  | input entry =>
    cases hvalid : entry.isValid <;>
      simp [reduce, putEntry, recompute, insert_insert_map, erase_erase_map, hvalid]
  | withdraw id => simp [reduce, withdraw, recompute, erase_erase_map, erase_erase_set]
  | display id isDisplayed =>
    cases isDisplayed <;> simp [reduce, display, insert_insert_set, erase_erase_set]
  | _ => cases htakes

/-- What a form is told about its inputs is taken over whatever its flags are. -/
lemma FormState.reduce_flags {intent : FormIntent} (htakes : Allowance.data.takes intent)
    (state : FormState) (isEnabled isSubmitted isDisplayReported : Bool) :
    { state with isEnabled, isSubmitted, isDisplayReported }.reduce intent =
      { state.reduce intent with isEnabled, isSubmitted, isDisplayReported } := by
  cases intent <;> first | rfl | cases htakes

/-- **A form that took over what it is told takes over nothing when it is told again**, whatever
became of its flags since. -/
theorem FormState.reduce_of_absorbed {intent : FormIntent} (htakes : Allowance.data.takes intent)
    {state state' : FormState} {isChild : Bool}
    (h : state'.gist = ((state.reduce intent).reporting isChild).gist) :
    state'.reduce intent = state' := by
  have heq : state' = { state.reduce intent with
      isEnabled := state'.isEnabled
      isSubmitted := state'.isSubmitted
      isDisplayReported := state'.isDisplayReported } := by
    calc state' = { state'.gist with
            isEnabled := state'.isEnabled
            isSubmitted := state'.isSubmitted
            isDisplayReported := state'.isDisplayReported } := rfl
      _ = { ((state.reduce intent).reporting isChild).gist with
            isEnabled := state'.isEnabled
            isSubmitted := state'.isSubmitted
            isDisplayReported := state'.isDisplayReported } := by rw [h]
      _ = _ := rfl
  rw [heq, reduce_flags htakes, reduce_reduce htakes]

/-- A pager that shows the page that it is asked for, or else the last one, stays there. -/
lemma PagerState.moveTo_moveTo (state : PagerState) (position : UInt64) :
    (state.moveTo position).moveTo position = state.moveTo position := rfl

namespace Layout

variable {layout layout' : Layout} {id origin form : NodeId} {intent : FormIntent}

/-! ## Events -/

/-- Forms that were written stay so while something climbs. -/
lemma Climb.isWritten (h : Climb origin intent layout layout')
    (hwritten : layout.forms.IsWritten form) : layout'.forms.IsWritten form := by
  induction h with
  | top _ => exact hwritten
  | stop _ _ => exact IsWritten.changeForm hwritten _ _
  | pass _ _ _ _ _ ih => exact ih (IsWritten.changeForm hwritten _ _)

/-- What climbs writes the form around its origin. -/
lemma Climb.isWritten_around (h : Climb origin intent layout layout')
    (haround : layout.tree.formAround origin = some form) : layout'.forms.IsWritten form := by
  cases h with
  | top hnone => exact absurd (hnone.symm.trans haround) nofun
  | stop hup _ =>
    obtain rfl := Option.some.inj (hup.symm.trans haround)
    exact isWritten_changeForm layout _ intent
  | pass hup _ _ _ hclimb =>
    obtain rfl := Option.some.inj (hup.symm.trans haround)
    exact hclimb.isWritten (isWritten_changeForm layout _ intent)

/-- What the form around the origin knows already goes nowhere. -/
lemma Climb.eq_of_absorbed (h : Climb origin intent layout layout') (hsound : layout.Sound)
    (habsorbed : ∀ form, layout.tree.formAround origin = some form →
      layout.forms.IsWritten form ∧
        (layout.form form).value.reduce intent = (layout.form form).value) :
    layout' = layout := by
  cases h with
  | top _ => rfl
  | stop haround _ =>
    obtain ⟨hwritten, hsame⟩ := habsorbed _ haround
    have hsome := (hsound.wf.linked.formAround_spec haround).2
    exact changeForm_of_same (hsound.rests _ hsome) hwritten hsame
  | pass haround _ _ hne _ => exact absurd (habsorbed _ haround).2 hne

/-- **An event about data that is raised once more** changes nothing; and an event about data leaves
marks alone.

**Proof sketch.** The form around the origin has taken over what it was told, and neither the forms
around it nor the routing of announcements and notices have told it anything else. So it commits
nothing, has nothing to pass on, and nothing waits. -/
theorem Idle.settle_bubble_again {event : Event} (h : layout.Idle)
    (hintent : event.formIntent? = some intent) (origin : NodeId) :
    (layout.bubble origin event).settle.Idle ∧
      ((layout.bubble origin event).settle.bubble origin event).settle =
        (layout.bubble origin event).settle ∧
      ∀ id isAttached, IsMarked id isAttached layout.states →
        IsMarked id isAttached (layout.bubble origin event).settle.states := by
  have htakes := Event.takes_data hintent
  have hbutton : event.button? = none := by
    cases event <;> first | rfl | cases hintent
  have hidle : (layout.bubble origin event).settle.Idle :=
    ((h.tidy .none).bubble origin (by simp [hbutton])).idle_settle fun _ hb => hb
  have hclimb := h.sound.climb origin hintent
  generalize layout.bubble origin event = raised at hidle hclimb ⊢
  obtain ⟨hsound, htree⟩ := hclimb.sound h.sound
  have hqueue : ∀ dispatch ∈ raised.outbox.queue,
      dispatch.IsAnnouncement raised.tree ∨ dispatch.isReport = true := by
    obtain ⟨more, hmore, hcalm⟩ := hclimb.queue h.sound
    rw [hmore, h.queue, List.nil_append, htree]
    exact hcalm
  have hbeside := settle_beside hqueue
  refine ⟨hidle, ?_, fun id isAttached hmarked => isMarked_settle hqueue ?_⟩
  · have hagain := hidle.sound.climb origin hintent
    rw [hagain.eq_of_absorbed hidle.sound fun form haround => ?_, settle_of_queue _ hidle.queue]
    rw [hbeside.tree, htree] at haround
    have hform : raised.settle.form form = raised.form form :=
      congrArg (·.get form) hbeside.forms
    refine ⟨hbeside.forms ▸ hclimb.isWritten_around haround, ?_⟩
    rw [hform]
    exact FormState.reduce_of_absorbed htakes (hclimb.gist_around h.sound haround)
  · have hstates : raised.states = layout.states := (congrArg states (hclimb.rest h.sound) :)
    rw [hstates]
    exact hmarked

/-! ## Calls -/

lemma Idle.modifyState (h : layout.Idle) (id : NodeId) (change : NodeState → NodeState) :
    (layout.modifyState id change).Idle :=
  ⟨h.sound.congr rfl (fun _ => rfl) fun _ => rfl, h.queue⟩

/-- A view goes on or off screen once more; marks are left alone. -/
lemma Idle.setDisplayed_again {isDisplayed : Bool} (h : layout.Idle)
    (hdisplayed : layout.setDisplayed id isDisplayed = .ok layout') :
    layout'.setDisplayed id isDisplayed = .ok layout' ∧
      ∀ other isAttached, IsMarked other isAttached layout.states →
        IsMarked other isAttached layout'.states := by
  obtain ⟨view, hview, hlayout⟩ := setDisplayed_eq_ok.mp hdisplayed
  have htree : layout'.tree = layout.tree := (congrArg tree (fixtures_setDisplayed hdisplayed) :)
  cases view with
  | input spec =>
    obtain ⟨-, hagain, hmarked⟩ := h.settle_bubble_again
      (rfl : (Event.viewAttached spec.id isDisplayed).formIntent? = _) id
    replace hlayout : layout' = (layout.bubble id (.viewAttached spec.id isDisplayed)).settle :=
      hlayout
    subst hlayout
    exact ⟨setDisplayed_eq_ok.mpr ⟨.input spec, htree ▸ hview, hagain.symm⟩, hmarked⟩
  | _ =>
    rw [hlayout]
    exact ⟨setDisplayed_eq_ok.mpr ⟨_, hview, rfl⟩, fun _ _ hmarked => hmarked⟩

/-- A view is attached or detached once more. -/
lemma Idle.setAttached_again {isAttached : Bool} (h : layout.Idle)
    (hattached : layout.setAttached id isAttached = .ok layout') :
    layout'.setAttached id isAttached = .ok layout' := by
  have hidle := h.modifyState id ({ · with isAttached })
  obtain ⟨hagain, hmarked⟩ := hidle.setDisplayed_again (setAttached_eq_ok.mp hattached)
  have hstates := (hmarked id isAttached (isMarked_modify layout.states id isAttached)).modify_eq
  rw [setAttached_eq_ok]
  have hsame : layout'.modifyState id ({ · with isAttached }) = layout' :=
    congrArg (fun states => { layout' with states }) hstates
  rw [hsame, hagain]

/-- An input is given the same answer once more. -/
lemma Idle.setAnswer_again {answer : Answer} (h : layout.Idle)
    (hanswer : layout.setAnswer id answer = .ok layout') :
    layout'.setAnswer id answer = .ok layout' := by
  obtain ⟨spec, hview, haccepts, rfl⟩ := setAnswer_eq_ok.mp hanswer
  generalize hfilled : ({ layout with answers := layout.answers.set id answer } : Layout) = filled
  have hidle : filled.Idle := by
    subst hfilled
    exact ⟨h.sound.congr rfl (fun _ => rfl) fun _ => rfl, h.queue⟩
  obtain ⟨-, hagain, -⟩ := hidle.settle_bubble_again
    (rfl : (Event.dataChange (spec.entry answer)).formIntent? = _) id
  have hfixtures := fixtures_settle_bubble filled id (.dataChange (spec.entry answer))
  generalize (filled.bubble id (.dataChange (spec.entry answer))).settle = settled
    at hagain hfixtures ⊢
  have htree : settled.tree = layout.tree := (congrArg tree hfixtures).trans (hfilled ▸ rfl)
  have hanswers : settled.answers = layout.answers.set id answer :=
    (congrArg answers hfixtures).trans (hfilled ▸ rfl)
  have hsame : { settled with answers := settled.answers.set id answer } = settled := by
    rw [hanswers, Table.set_set, ← hanswers]
  exact setAnswer_eq_ok.mpr ⟨spec, htree ▸ hview, haccepts, by rw [hsame, hagain]⟩

/-- An input is gone once more. -/
lemma Idle.withdraw_again (h : layout.Idle) (hwithdraw : layout.withdraw id = .ok layout') :
    layout'.withdraw id = .ok layout' := by
  obtain ⟨spec, hview, rfl⟩ := withdraw_eq_ok.mp hwithdraw
  have hnoted := isMarked_modify layout.states id false
  generalize hdetached : layout.modifyState id ({ · with isAttached := false }) = detached
  have hidle : detached.Idle := by
    subst hdetached
    exact h.modifyState id _
  obtain ⟨-, hagain, hmarked⟩ := hidle.settle_bubble_again
    (rfl : (Event.inputWithdrawn spec.id).formIntent? = _) id
  have hfixtures := fixtures_settle_bubble detached id (.inputWithdrawn spec.id)
  have hstates := (hmarked id false (by rw [← hdetached]; exact hnoted)).modify_eq
  generalize (detached.bubble id (.inputWithdrawn spec.id)).settle = settled
    at hagain hfixtures hstates ⊢
  have htree : settled.tree = layout.tree := (congrArg tree hfixtures).trans (hdetached ▸ rfl)
  have hsame : settled.modifyState id ({ · with isAttached := false }) = settled :=
    congrArg (fun states => { settled with states }) hstates
  exact withdraw_eq_ok.mpr ⟨spec, htree ▸ hview, by rw [hsame, hagain]⟩

/-- A pager is swiped to the same page once more. -/
lemma Idle.scrollTo_again {position : UInt64} (h : layout.Idle)
    (hscroll : layout.scrollTo id position = .ok layout') :
    layout'.scrollTo id position = .ok layout' := by
  obtain ⟨spec, hview, rfl⟩ := scrollTo_eq_ok.mp hscroll
  have hpager : layout.tree.isPager id = true := isPager_of_pagerSpec (pagerSpec_eq_ok.mpr hview)
  have hidle : (layout.changePager id (.scroll position)).settle.Idle :=
    ((h.tidy .none).steps (.single (.page hpager))).idle_settle fun _ hb => hb
  have hwritten := isWritten_changePager layout id (.scroll position)
  have hvalue : ((layout.changePager id (.scroll position)).pager id).value =
      (layout.pager id).value.moveTo position :=
    value_updatePager layout id (·.reduce (.scroll position))
  have hafter := h.sound.aftermath_changePager hpager (.scroll position)
  generalize layout.changePager id (.scroll position) = moved at hidle hwritten hvalue hafter ⊢
  have hbeside : SameBeside moved moved.settle := by
    obtain ⟨announcements, hannouncements, hqueue⟩ := hafter.outbox
    refine settle_beside fun dispatch hmem => .inl ?_
    rw [hqueue, h.queue, List.nil_append] at hmem
    rw [hafter.tree_eq]
    exact hannouncements dispatch hmem
  have htree : moved.settle.tree = layout.tree := hbeside.tree.trans hafter.tree_eq
  have hstays : moved.settle.changePager id (.scroll position) = moved.settle := by
    refine changePager_of_same (hidle.sound.pagers id (htree ▸ hpager))
      (hbeside.pagers ▸ hwritten) ?_
    have hpagers : moved.settle.pager id = moved.pager id := congrArg (·.get id) hbeside.pagers
    rw [hpagers, hvalue]
    exact PagerState.moveTo_moveTo _ position
  exact scrollTo_eq_ok.mpr ⟨spec, htree ▸ hview, by
    rw [hstays, settle_of_queue _ hidle.queue]⟩

/-- **A call that tells how something stands, made once more**, is not refused either, and changes
nothing. -/
theorem Idle.perform_again {call : Call} (h : layout.Idle) (htelling : call.isTelling = true)
    (hperform : layout.perform call = .ok layout') : layout'.perform call = .ok layout' := by
  cases call with
  | attach id => exact h.setAttached_again hperform
  | detach id => exact h.setAttached_again hperform
  | setDisplayed id isDisplayed => exact (h.setDisplayed_again hperform).1
  | setAnswer id answer => exact h.setAnswer_again hperform
  | withdraw id => exact h.withdraw_again hperform
  | scrollTo id position => exact h.scrollTo_again hperform
  | click id => cases htelling
  | dispatch origin event direction => cases htelling

/-- **Telling again changes nothing.** Let a layout be activated, let any calls follow, and then one
that tells how something stands: a view is attached or detached, it is on screen or not, an input
holds an answer or is gone, a pager shows a page. If this call is made once more, the same comes
back as before, and the whole layout stays as it is: every container with its log, every flag, the
outbox, and all that was reported or handed out.

**Proof sketch.** A call that is refused is refused again, since it left no trace. Otherwise what it
notes is noted already. The event that it raises finds that the form around the input knows all that
it is told: it took it over the first time, and neither the forms around it, which only set its
flags, nor the announcements and notices that were routed have told it anything else. So the form
commits nothing and has nothing to pass on. A pager that moves to where it is commits nothing. -/
theorem telling_again_changes_nothing {environment : Environment} {spec : Spec}
    (h : activate environment spec = .ok layout) {calls : List Call}
    (hcalls : ∀ call ∈ calls, call.IsOrdinary (Tree.ofSpec spec)) {call : Call}
    (htelling : call.isTelling = true) :
    let once := (layout.run calls).undergo call
    once.2.undergo call = once := by
  intro once
  obtain ⟨-, htree, -⟩ := sound_of_activate h
  have hidle := ((idle_of_activate h).environment_run (htree ▸ hcalls)).1
  have honce : once = Edit.allOrNothing (layout.run calls) ((layout.run calls).perform call) :=
    undergo_eq_perform _ call
  rw [undergo_eq_perform, honce]
  cases hperform : (layout.run calls).perform call with
  | error error =>
    dsimp only [Edit.allOrNothing]
    rw [hperform]
  | ok layout' =>
    dsimp only [Edit.allOrNothing]
    rw [hidle.perform_again htelling hperform]

/-- A form with a part that is a form of its own and belongs to it. -/
def enrolment : Spec :=
  ⟨.form { id := "enrolment" }, [], [
    ⟨.form { id := "person", submit := none }, [], [
      ⟨.input { id := "name", kind := .textInput, isRequired := true }, [], []⟩]⟩]⟩

/-- A name that is given twice: both forms change when it is given first, and then nothing does. -/
theorem telling_again_changes_nothing_enrolment :
    ∃ layout named : Layout, activate {} enrolment = .ok layout ∧
      layout.undergo (.setAnswer 2 (.textInput (some "Ada"))) = (.ok (), named) ∧
      (named.form 0).version ≠ (layout.form 0).version ∧
      (named.form 1).version ≠ (layout.form 1).version ∧
      named.undergo (.setAnswer 2 (.textInput (some "Ada"))) = (.ok (), named) := by
  have hactive : activate {} enrolment = .ok (build {} (Tree.ofSpec enrolment)).settle :=
    activate_eq_ok.mpr ⟨by decide, rfl⟩
  have honce : ((build {} (Tree.ofSpec enrolment)).settle.undergo
      (.setAnswer 2 (.textInput (some "Ada")))).1 = .ok () := by decide +kernel
  have hagain := telling_again_changes_nothing hactive
    (fun _ hmem => nomatch hmem : ∀ call ∈ ([] : List Call), _)
    (rfl : (Call.setAnswer 2 (.textInput (some "Ada"))).isTelling = true)
  refine ⟨_, _, hactive, Prod.ext honce rfl, by decide +kernel, by decide +kernel, ?_⟩
  exact hagain.trans (Prod.ext honce rfl)

end Layout

end FormTree

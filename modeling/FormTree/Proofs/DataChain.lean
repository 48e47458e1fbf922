import FormTree.Proofs.Inheritance
import FormTree.Proofs.Submission

set_option autoImplicit false

/-!
# The data chain of an input

What an input tells concerns the forms in its *data chain* only: the form around it and, as long as
the last one leaves submission to the form around it, that form too. Although the forms on the way
up set off cascades over all that is below them, nothing outside the chain takes part in the data of
the input, and nothing at all is submitted, turned or dismissed.

## Main definitions

* `FormTree.Layout.SameBeside` — layouts that differ at most in what nodes heard, in what waits, and
  in what is reported.
* `FormTree.Layout.Shares` — nested forms are submitted as the forms around them are.

## Main results

* `FormTree.Tree.Feeds.encloses` — the data chain does not lead out of a form that submits by
  itself.
* `FormTree.Layout.Climb.gist_of_not_feeds` — what climbs stays in the data chain.
* `FormTree.Layout.input_stays_in_chain` — the frame of what a call does to an input.
-/

namespace FormTree

/-! ## Chains -/

namespace Tree

variable {tree : Tree} {inner outer form node : NodeId}

/-- The way up through nested forms does not lead out of a form that submits by itself. -/
lemma Reaches.encloses (h : tree.Reaches outer form) (hown : tree.isChild inner = false)
    (hin : tree.Encloses inner form) : tree.Encloses inner outer := by
  induction h with
  | self => exact hin
  | through hchild haround _ ih =>
    cases hin with
    | self =>
      rw [hown] at hchild
      cases hchild
    | inside haround' hin =>
      obtain rfl := Option.some.inj (haround.symm.trans haround')
      exact ih hin

/-- **The data chain of a node does not lead out of a form around it that submits by itself.** -/
theorem Feeds.encloses (h : tree.Feeds node outer) (hown : tree.isChild inner = false)
    (hin : tree.Encloses inner node) (hne : inner ≠ node) : tree.Encloses inner outer := by
  obtain ⟨form, haround, hreaches⟩ := h
  cases hin with
  | self => exact absurd rfl hne
  | inside haround' hin =>
    obtain rfl := Option.some.inj (haround.symm.trans haround')
    exact hreaches.encloses hown hin

end Tree

/-- What the gist does not tell of a form's state are the enabled flag and the submission. -/
lemma FormState.eq_of_gist {state state' : FormState} (hgist : state'.gist = state.gist)
    (hsubmitted : state'.isSubmitted = state.isSubmitted) :
    state' = { state with isEnabled := state'.isEnabled } := by
  calc state' = { state'.gist with
          isEnabled := state'.isEnabled, isSubmitted := state'.isSubmitted } := rfl
    _ = { state.gist with
          isEnabled := state'.isEnabled, isSubmitted := state.isSubmitted } := by
        rw [hgist, hsubmitted]
    _ = { state with isEnabled := state'.isEnabled } := rfl

/-- What is done to an input leaves the answers of other inputs alone. -/
lemma InputAct.get_answers (act : InputAct) {id other : NodeId} (hne : other ≠ id)
    (table : Table Answer) : (act.answers id table).get other = table.get other := by
  cases act with
  | fill answer => exact table.get_set_of_ne (Ne.symm hne) answer
  | _ => rfl

namespace Layout

variable {layout layout' : Layout} {id form origin : NodeId} {intent : FormIntent}

/-! ## Climbing -/

/-- What climbs changes forms, announcements and the outbox only. -/
lemma Climb.rest (h : Climb origin intent layout layout') (hsound : layout.Sound) :
    layout'.rest = layout.rest := by
  induction h with
  | top _ => rfl
  | stop haround _ =>
    have hsome := (hsound.wf.linked.formAround_spec haround).2
    exact (hsound.change hsome _).rest
  | pass haround _ _ _ _ ih =>
    have hsome := (hsound.wf.linked.formAround_spec haround).2
    exact (ih (hsound.changeForm hsome _)).trans (hsound.change hsome _).rest

/-- **What climbs stays in the data chain of its origin.** -/
theorem Climb.gist_of_not_feeds (h : Climb origin intent layout layout') (hsound : layout.Sound)
    (hout : ¬ layout.tree.Feeds origin id) :
    (layout'.form id).value.gist = (layout.form id).value.gist := by
  induction h with
  | top _ => rfl
  | @stop origin form intent layout haround _ =>
    have hsome := (hsound.wf.linked.formAround_spec haround).2
    have hne : form ≠ id := by
      rintro rfl
      exact hout ⟨form, haround, .self⟩
    rw [hsound.gist_changeForm hsome, if_neg hne]
  | @pass origin form intent layout last node spec haround _ hchild _ _ ih =>
    have hsome := (hsound.wf.linked.formAround_spec haround).2
    have hne : form ≠ id := by
      rintro rfl
      exact hout ⟨form, haround, .self⟩
    have hup : ¬ (layout.changeForm form intent).tree.Feeds form id := by
      rw [(hsound.change hsome intent).tree_eq]
      rintro ⟨around, hup, hreaches⟩
      exact hout ⟨form, haround, .through hchild hup hreaches⟩
    rw [ih (hsound.changeForm hsome intent) hup, hsound.gist_changeForm hsome, if_neg hne]

/-- A change of a form that concerns data submits no form that submits by itself. -/
lemma Sound.isSubmitted_changeForm (h : layout.Sound) (hsome : (layout.tree.form? form).isSome)
    (htakes : Allowance.data.takes intent) (hown : layout.tree.isChild id = false) :
    ((layout.changeForm form intent).form id).value.isSubmitted =
      (layout.form id).value.isSubmitted := by
  have hchange := h.change hsome intent
  by_cases hself : id = form
  · subst hself
    rw [hchange.turn.value, form_commitForm, if_pos rfl, Observable.value_commit]
    exact FormState.isSubmitted_reduce htakes _
  · exact (hchange.follows hself).kept hown

/-- What climbs submits no form that submits by itself. -/
lemma Climb.isSubmitted_own (h : Climb origin intent layout layout') (hsound : layout.Sound)
    (htakes : Allowance.data.takes intent) (hown : layout.tree.isChild id = false) :
    (layout'.form id).value.isSubmitted = (layout.form id).value.isSubmitted := by
  induction h with
  | top _ => rfl
  | stop haround _ =>
    exact hsound.isSubmitted_changeForm (hsound.wf.linked.formAround_spec haround).2 htakes hown
  | @pass origin form intent layout last node spec haround _ _ _ _ ih =>
    have hsome := (hsound.wf.linked.formAround_spec haround).2
    have htree := (hsound.change hsome intent).tree_eq
    have hrest := ih (hsound.changeForm hsome intent) (FormSpec.takes_passOn htakes _ _)
      (by rw [htree]; exact hown)
    exact hrest.trans (hsound.isSubmitted_changeForm hsome htakes hown)

/-- A change of a form puts announcements into the outbox, and the notice of its display. -/
lemma Sound.exists_queue_changeForm (h : layout.Sound) (hsome : (layout.tree.form? form).isSome)
    (intent : FormIntent) :
    ∃ more, (layout.changeForm form intent).outbox.queue = layout.outbox.queue ++ more ∧
      ∀ dispatch ∈ more, dispatch.IsAnnouncement layout.tree ∨ dispatch.isReport = true := by
  obtain ⟨announcements, hannouncements, hqueue⟩ := h.queue_changeForm hsome intent
  refine ⟨_, hqueue, fun dispatch hmem => ?_⟩
  rcases List.mem_append.mp hmem with hnotice | hmem
  · unfold displayNotice at hnotice
    split at hnotice
    · obtain rfl := List.mem_singleton.mp hnotice
      exact .inr rfl
    · cases hnotice
  · exact .inl (hannouncements dispatch hmem)

/-- What climbs puts into the outbox announcements, and notices of displays. -/
lemma Climb.queue (h : Climb origin intent layout layout') (hsound : layout.Sound) :
    ∃ more, layout'.outbox.queue = layout.outbox.queue ++ more ∧
      ∀ dispatch ∈ more, dispatch.IsAnnouncement layout.tree ∨ dispatch.isReport = true := by
  induction h with
  | top _ => exact ⟨[], (List.append_nil _).symm, by simp⟩
  | stop haround _ =>
    exact hsound.exists_queue_changeForm (hsound.wf.linked.formAround_spec haround).2 _
  | @pass origin form intent layout last node spec haround _ _ _ _ ih =>
    have hsome := (hsound.wf.linked.formAround_spec haround).2
    obtain ⟨more, hmore, hfirst⟩ := hsound.exists_queue_changeForm hsome intent
    obtain ⟨others, hothers, hsecond⟩ := ih (hsound.changeForm hsome intent)
    rw [(hsound.change hsome intent).tree_eq] at hsecond
    refine ⟨more ++ others, by rw [hothers, hmore, List.append_assoc], fun dispatch hmem => ?_⟩
    rcases List.mem_append.mp hmem with hmem | hmem
    · exact hfirst dispatch hmem
    · exact hsecond dispatch hmem

/-! ## Routing what is left -/

/-- The layouts differ at most in what nodes heard, in what waits, and in what is reported. -/
structure SameBeside (layout layout' : Layout) : Prop where
  tree : layout'.tree = layout.tree
  forms : layout'.forms = layout.forms
  pagers : layout'.pagers = layout.pagers
  answers : layout'.answers = layout.answers
  dismissal : layout'.dismissal = layout.dismissal

lemma SameBeside.trans {layout'' : Layout} (h : SameBeside layout layout')
    (h' : SameBeside layout' layout'') : SameBeside layout layout'' :=
  ⟨h'.tree.trans h.tree, h'.forms.trans h.forms, h'.pagers.trans h.pagers,
    h'.answers.trans h.answers, h'.dismissal.trans h.dismissal⟩

/-- Routing an announcement or a notice changes only what nodes heard, or what is reported, and puts
nothing into the outbox. -/
lemma route_beside (layout : Layout) {dispatch : Dispatch}
    (h : dispatch.IsAnnouncement layout.tree ∨ dispatch.isReport = true) :
    SameBeside layout (layout.route dispatch) ∧
      (layout.route dispatch).outbox = layout.outbox := by
  rcases h with hannouncement | hreport
  · unfold Dispatch.IsAnnouncement at hannouncement
    split at hannouncement
    · next origin form status =>
      have hupdate : (Event.validationUpdate form status).isUpdate = true := rfl
      obtain ⟨states, htrickle, -⟩ := trickle_update hupdate layout origin
      rw [Layout.route, htrickle]
      exact ⟨⟨rfl, rfl, rfl, rfl, rfl⟩, rfl⟩
    · next origin pager state =>
      have hupdate : (Event.pagerUpdate pager state).isUpdate = true := rfl
      obtain ⟨states, htrickle, -⟩ := trickle_update hupdate layout origin
      rw [Layout.route, htrickle]
      exact ⟨⟨rfl, rfl, rfl, rfl, rfl⟩, rfl⟩
    · exact hannouncement.elim
  · obtain ⟨reports, hroute⟩ := route_report layout hreport
    rw [hroute]
    exact ⟨⟨rfl, rfl, rfl, rfl, rfl⟩, rfl⟩

/-- **Where only announcements and notices wait**, routing them changes only what nodes heard and
what is reported, whether or not the limit is reached. -/
theorem settle_beside (h : ∀ dispatch ∈ layout.outbox.queue,
      dispatch.IsAnnouncement layout.tree ∨ dispatch.isReport = true) :
    SameBeside layout layout.settle := by
  refine drain_induction
    (P := fun world => SameBeside layout world ∧ ∀ dispatch ∈ world.outbox.queue,
      dispatch.IsAnnouncement layout.tree ∨ dispatch.isReport = true)
    (Q := SameBeside layout) (fun world dispatch rest hworld hqueue _ => ?_)
    (fun world hworld _ => hworld.1)
    (fun world hworld => hworld.1.trans ⟨rfl, rfl, rfl, rfl, rfl⟩)
    (fun world dispatch rest hworld _ _ => hworld.1.trans ⟨rfl, rfl, rfl, rfl, rfl⟩) _ layout
    ⟨⟨rfl, rfl, rfl, rfl, rfl⟩, h⟩
  obtain ⟨hbeside, hwaiting⟩ := hworld
  have hfirst := hwaiting dispatch (by rw [hqueue]; exact List.mem_cons_self)
  rw [← hbeside.tree] at hfirst
  obtain ⟨hrouted, houtbox⟩ := route_beside { world with outbox := ⟨rest⟩ } hfirst
  have hpopped : SameBeside layout { world with outbox := ⟨rest⟩ } :=
    hbeside.trans ⟨rfl, rfl, rfl, rfl, rfl⟩
  refine ⟨hpopped.trans hrouted, fun other hother => ?_⟩
  rw [houtbox] at hother
  exact hwaiting other (by rw [hqueue]; exact List.mem_cons_of_mem _ hother)

/-! ## Submission -/

/-- Nested forms are submitted as the forms around them are. -/
def Shares (layout : Layout) : Prop :=
  ∀ child parent, layout.tree.isChild child = true → layout.tree.formAround child = some parent →
    (layout.form child).value.isSubmitted = (layout.form parent).value.isSubmitted

/-- Whenever control is with the caller, nested forms are submitted as the forms around them are. -/
lemma shares_run {environment : Environment} {spec : Spec}
    (h : activate environment spec = .ok layout) (calls : List Call) :
    (layout.run calls).Shares := by
  obtain ⟨start, past, -, hacts⟩ := inheriting_acts h
  have hrun : layout.run calls = layout.acts (calls.map .call) := by
    rw [run, acts, List.foldl_map]
    rfl
  have hcalls : ∀ action ∈ calls.map Action.call, action.changesForm = false := by
    intro action hmem
    obtain ⟨call, -, rfl⟩ := List.mem_map.mp hmem
    rfl
  obtain ⟨htree, hinheriting, hlogged⟩ := hacts _ hcalls
  rw [hrun]
  intro child parent hchild haround
  have hparent : ((Tree.ofSpec spec).form? parent).isSome :=
    ((Tree.linked_ofSpec spec).formAround_spec (htree ▸ haround)).2
  have htaken := (hinheriting child parent hchild haround).isSubmitted
  have htold := (hlogged parent hparent).isSubmitted
  rwa [List.any_nil, Bool.or_false, ← htold] at htaken

/-- What submits the same forms that submit by themselves, submits the same nested forms.

**Proof sketch.** Induction on the form: the form around a nested form comes before it. -/
lemma Shares.isSubmitted_eq (h : layout.Shares) (h' : layout'.Shares)
    (wf : layout.tree.WellFormed) (htree : layout'.tree = layout.tree)
    (hown : ∀ id, layout.tree.isChild id = false →
      (layout'.form id).value.isSubmitted = (layout.form id).value.isSubmitted) (id : Nat) :
    (layout'.form id).value.isSubmitted = (layout.form id).value.isSubmitted := by
  induction id using Nat.strongRecOn with
  | ind id ih =>
    cases hchild : layout.tree.isChild id with
    | false => exact hown id hchild
    | true =>
      obtain ⟨parent, haround⟩ := Option.isSome_iff_exists.mp (wf.isSome_formAround hchild)
      have hlt := wf.linked.formAround_lt haround
      calc (layout'.form id).value.isSubmitted
          = (layout'.form parent).value.isSubmitted :=
            h' id parent (by rw [htree]; exact hchild) (by rw [htree]; exact haround)
        _ = (layout.form parent).value.isSubmitted := ih parent hlt
        _ = (layout.form id).value.isSubmitted := (h id parent hchild haround).symm

/-! ## Calls -/

/-- **What a call that concerns an input comes to**: it is refused, or one event climbs from the
input, and what follows is routed. -/
lemma Idle.after_input {call : Call} {act : InputAct} {spec : InputSpec} (h : layout.Idle)
    (hact : call.inputAct? = some (id, act)) (hinput : layout.tree.input? id = some spec) :
    layout.after call = layout ∨ ∃ intent states raised, Allowance.data.takes intent ∧
      Climb id intent { layout with states, answers := act.answers id layout.answers } raised ∧
      layout.after call = raised.settle := by
  cases htaken : act.isTaken spec with
  | false =>
    left
    unfold Layout.after
    split
    · next layout' hperform =>
      -- only an answer of another kind is not taken
      cases call with
      | setAnswer node answer =>
        cases hact
        obtain ⟨spec', hview, haccepts, -⟩ := setAnswer_eq_ok.mp hperform
        obtain rfl := Option.some.inj (hinput.symm.trans (Tree.input?_eq_some.mpr hview))
        exact absurd (htaken.symm.trans haccepts) nofun
      | attach node | detach node | setDisplayed node isDisplayed | withdraw node =>
        cases hact
        cases htaken
      | _ => cases hact
    · rfl
  | true =>
    right
    have hordinary : call.IsOrdinary layout.tree := by
      cases call with
      | dispatch origin event direction => cases hact
      | _ => trivial
    obtain ⟨raised, hraises, hafter⟩ := exists_raises h.queue hordinary
    cases hraises with
    | @input node spec' act' states hact' hinput' htaken' =>
      obtain ⟨rfl, rfl⟩ := Prod.mk.inj (Option.some.inj (hact.symm.trans hact'))
      obtain ⟨intent, hintent⟩ : ∃ intent, (act.event spec').formIntent? = some intent := by
        cases act <;> exact ⟨_, rfl⟩
      have hsound : Sound { layout with states, answers := act.answers id layout.answers } :=
        h.sound.congr rfl (fun _ => rfl) fun _ => rfl
      exact ⟨intent, states, _, Event.takes_data hintent, hsound.climb id hintent, hafter⟩
    | steps hrefused _ =>
      rw [hrefused id act spec hact hinput] at htaken
      cases htaken

/-- What the layouts `before` and `after` a call that concerns the input `id` have in common. -/
structure InputFrame (id : NodeId) (before after : Layout) : Prop where
  tree : after.tree = before.tree
  gist : ∀ form, ¬ before.tree.Feeds id form →
    (after.form form).value.gist = (before.form form).value.gist
  isSubmitted : ∀ form, before.tree.isChild form = false →
    (after.form form).value.isSubmitted = (before.form form).value.isSubmitted
  pagers : after.pagers = before.pagers
  dismissal : after.dismissal = before.dismissal
  answers : ∀ other, other ≠ id → after.answers.get other = before.answers.get other
  forms : before.tree.formAround id = none → after.forms = before.forms

lemma InputFrame.refl (id : NodeId) (layout : Layout) : InputFrame id layout layout :=
  ⟨rfl, fun _ _ => rfl, fun _ _ => rfl, rfl, rfl, fun _ _ => rfl, fun _ => rfl⟩

/-- **The frame of what a call does to an input.** -/
theorem Idle.inputFrame {call : Call} {act : InputAct} {spec : InputSpec} (h : layout.Idle)
    (hact : call.inputAct? = some (id, act)) (hinput : layout.tree.input? id = some spec) :
    InputFrame id layout (layout.after call) := by
  rcases h.after_input hact hinput with hrefused | ⟨intent, states, raised, htakes, hclimb, hafter⟩
  · rw [hrefused]
    exact .refl id layout
  · rw [hafter]
    have hbase : Sound { layout with states, answers := act.answers id layout.answers } :=
      h.sound.congr rfl (fun _ => rfl) fun _ => rfl
    have hrest := hclimb.rest hbase
    have htree : raised.tree = layout.tree := (hclimb.sound hbase).2
    obtain ⟨more, hqueue, hmore⟩ := hclimb.queue hbase
    have hbeside : SameBeside raised raised.settle := by
      refine settle_beside fun dispatch hmem => ?_
      have hwaits : raised.outbox.queue = layout.outbox.queue ++ more := hqueue
      rw [hwaits, h.queue, List.nil_append] at hmem
      rw [htree]
      exact hmore dispatch hmem
    have hform : ∀ form, raised.settle.form form = raised.form form := fun form =>
      congrArg (·.get form) hbeside.forms
    constructor
    case tree => exact hbeside.tree.trans htree
    case gist =>
      intro form hout
      rw [hform]
      exact hclimb.gist_of_not_feeds hbase hout
    case isSubmitted =>
      intro form hown
      rw [hform]
      exact hclimb.isSubmitted_own hbase htakes hown
    case pagers => exact hbeside.pagers.trans (congrArg Layout.pagers hrest :)
    case dismissal => exact hbeside.dismissal.trans (congrArg Layout.dismissal hrest :)
    case answers =>
      intro other hne
      have hanswers : raised.settle.answers = act.answers id layout.answers :=
        hbeside.answers.trans (congrArg Layout.answers hrest :)
      rw [hanswers]
      exact act.get_answers hne layout.answers
    case forms =>
      intro hnone
      cases hclimb with
      | top _ => exact hbeside.forms
      | stop haround _ => exact absurd (hnone.symm.trans haround) nofun
      | pass haround _ _ _ => exact absurd (hnone.symm.trans haround) nofun

/-- **Input events stay within their data chain.** Let a layout be activated, let any calls follow,
and then a call that concerns an input: it is attached, detached, displayed or not, filled or
withdrawn. What is known of a form outside the data chain of the input stays, but for its enabled
flag. No form is submitted, no pager moves, nothing is dismissed, and no other input is answered. So
nothing inside a form that submits by itself contributes to a form around it, and an input that is
in no form changes no form.

**Proof sketch.** The event climbs along the chain, and a change of a form changes no more of the
others than the two flags that they take over. What this puts into the outbox are announcements and
notices, whose routing changes no form. A form that submits by itself is not submitted in the wake
of another one, and nested forms are submitted as the forms around them are, before and after. -/
theorem input_stays_in_chain {environment : Environment} {spec : Spec}
    (h : activate environment spec = .ok layout) {calls : List Call}
    (hcalls : ∀ call ∈ calls, call.IsOrdinary (Tree.ofSpec spec)) {call : Call} {act : InputAct}
    {input : InputSpec} (hact : call.inputAct? = some (id, act))
    (hinput : (Tree.ofSpec spec).input? id = some input) :
    let before := layout.run calls
    let after := before.after call
    (∀ form, ¬ (Tree.ofSpec spec).Feeds id form → (after.form form).value =
      { (before.form form).value with isEnabled := (after.form form).value.isEnabled }) ∧
    (∀ form, (after.form form).value.isSubmitted = (before.form form).value.isSubmitted) ∧
    (∀ pager, after.pager pager = before.pager pager) ∧ after.dismissal = before.dismissal ∧
    (∀ other, other ≠ id → after.answers.get other = before.answers.get other) ∧
    (∀ inner outer, ((Tree.ofSpec spec).form? inner).isSome →
      (Tree.ofSpec spec).isChild inner = false → (Tree.ofSpec spec).Encloses inner id →
      (Tree.ofSpec spec).Encloses outer inner → outer ≠ inner → (after.form outer).value =
        { (before.form outer).value with isEnabled := (after.form outer).value.isEnabled }) ∧
    ((Tree.ofSpec spec).formAround id = none →
      ∀ form, after.form form = before.form form) := by
  obtain ⟨hsound, htree, -⟩ := sound_of_activate h
  have hidle : (layout.run calls).Idle :=
    ((idle_of_activate h).environment_run (by rw [htree]; exact hcalls)).1
  have hrun : (layout.run calls).tree = Tree.ofSpec spec :=
    (keeps_run layout calls hsound).2.1.trans htree
  have hshares := shares_run h calls
  have hshares' : ((layout.run calls).after call).Shares := by
    have := shares_run h (calls ++ [call])
    rwa [run, List.foldl_append] at this
  have hframe := hidle.inputFrame hact (by rw [hrun]; exact hinput)
  rw [← hrun]
  intro before after
  have hsubmitted : ∀ form, (after.form form).value.isSubmitted =
      (before.form form).value.isSubmitted :=
    hshares.isSubmitted_eq hshares' hidle.sound.wf hframe.tree hframe.isSubmitted
  have houtside : ∀ form, ¬ before.tree.Feeds id form → (after.form form).value =
      { (before.form form).value with isEnabled := (after.form form).value.isEnabled } :=
    fun form hout => FormState.eq_of_gist (hframe.gist form hout) (hsubmitted form)
  refine ⟨houtside, hsubmitted, fun pager => congrArg (·.get pager) hframe.pagers,
    hframe.dismissal, hframe.answers, ?_, fun hnone form => congrArg (·.get form)
      (hframe.forms hnone)⟩
  intro inner outer hform hown hin hout hne
  refine houtside outer fun hfeeds => hne ?_
  have hinput' : inner ≠ id := by
    rintro rfl
    obtain ⟨⟨node, form⟩, hsome⟩ := Option.isSome_iff_exists.mp hform
    obtain ⟨hnode, hview⟩ := Tree.form?_eq_some.mp hsome
    rw [← hrun, Tree.input?_eq_some, Tree.view?, hnode, Option.map_some, hview] at hinput
    cases hinput
  have hback := hfeeds.encloses hown hin hinput'
  exact Nat.le_antisymm (hidle.sound.wf.linked.le_of_encloses hout)
    (hidle.sound.wf.linked.le_of_encloses hback)

/-- A form with an input, and with a form that submits by itself, in which there is a nested one. -/
def order : Spec :=
  ⟨.form { id := "order" }, [], [
    ⟨.form { id := "gift" }, [], [
      ⟨.form { id := "card", submit := none }, [], [
        ⟨.input { id := "wish", kind := .textInput, isRequired := true }, [], []⟩]⟩]⟩,
    ⟨.input { id := "amount", kind := .score }, [], []⟩]⟩

/-- The answer makes the two inner forms valid, and the outer one has no part in it. -/
theorem input_stays_in_chain_order :
    ∃ layout before after : Layout, activate {} order = .ok layout ∧
      before = layout.run [.attach 3] ∧
      after = before.after (.setAnswer 3 (.textInput (some "Get well"))) ∧
      ((before.form 1).value.isValid = false ∧ (after.form 1).value.isValid = true) ∧
      (after.form 0).value =
        { (before.form 0).value with isEnabled := (after.form 0).value.isEnabled } := by
  have hactive : activate {} order = .ok (build {} (Tree.ofSpec order)).settle :=
    activate_eq_ok.mpr ⟨by decide, rfl⟩
  have hcalls : ∀ call ∈ ([.attach 3] : List Call), call.IsOrdinary (Tree.ofSpec order) := by
    intro call hmem
    obtain rfl := List.mem_singleton.mp hmem
    trivial
  have hact : (Call.setAnswer 3 (.textInput (some "Get well"))).inputAct? =
      some (3, .fill (.textInput (some "Get well"))) := rfl
  have hwish : (Tree.ofSpec order).input? 3 =
      some { id := "wish", kind := .textInput, isRequired := true } := by decide
  obtain ⟨-, -, -, -, -, hnested, -⟩ := input_stays_in_chain hactive hcalls hact hwish
  have hcard : (Tree.ofSpec order).formAround 3 = some 2 := by decide
  have hgift : (Tree.ofSpec order).formAround 2 = some 1 := by decide
  have horder : (Tree.ofSpec order).formAround 1 = some 0 := by decide
  refine ⟨_, _, _, hactive, rfl, rfl, by decide +kernel, ?_⟩
  exact hnested 1 0 (by decide) (by decide) (.inside hcard (.inside hgift .self))
    (.inside horder .self) (by decide)

end Layout

end FormTree

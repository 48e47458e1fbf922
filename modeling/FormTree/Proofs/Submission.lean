import FormTree.Proofs.Layout.Calls

set_option autoImplicit false

/-!
# Submission

A form that submits by itself is submitted at most once, and tells so at most once, with its data at
that moment. Several buttons, forms around it and events from outside may ask for it: all of them
come down to the same step, which does nothing to a form that was submitted before. The log of the
form shows when it was submitted, and what it told, wherever that stands now, is read off there.

## Main definitions

* `FormTree.Layout.submission?` — the form's state at its submission.
* `FormTree.Layout.SubmitsOnce` — what a form told of its submission, and what it handed out, is
  what its log calls for.

## Main results

* `FormTree.Layout.SubmitsOnce.step` — steps keep that.
* `FormTree.Layout.submission_reported_once` — submission is reported exactly once.
-/

namespace FormTree

namespace Layout

/-- The state of the form `id` at its submission, if it submits by itself and has done so. -/
def submission? (layout : Layout) (id : NodeId) : Option FormState :=
  if layout.tree.isChild id then none else (layout.form id).history.find? (·.isSubmitted)

/-- The attribute updates that the form `id` handed out. -/
def updatesOf (layout : Layout) (id : NodeId) : List AttributeUpdate :=
  layout.updates.filter (·.origin = id)

end Layout

/-- What the form `id` tells of its submission in the given state: its data, and a context in which
it is not yet submitted. -/
def FormSpec.result (spec : FormSpec) (id : NodeId) (state : FormState) : Notice :=
  ⟨id, .formResult (spec.entry state) state.attributes,
    some { state.context with isSubmitted := false }⟩

/-- What the form `id` hands out on its submission in the given state: its attribute updates, if it
has any. -/
def FormState.handout (id : NodeId) (state : FormState) : List AttributeUpdate :=
  if state.attributes.isEmpty then [] else [⟨id, state.attributes⟩]

namespace Layout

/-- What the form `id` told of its submission, and what it handed out, is what its log calls for. -/
structure SubmitsOnce (layout : Layout) (id : NodeId) (spec : FormSpec) : Prop where
  declared : (layout.tree.form? id).map (·.2) = some spec
  isSubmitted : layout.tree.isChild id = false →
    (layout.form id).value.isSubmitted = (layout.submission? id).isSome
  results : layout.noticesOf .formResult id = (layout.submission? id).toList.map (spec.result id)
  updates : layout.updatesOf id = (layout.submission? id).toList.flatMap (·.handout id)

/-- The form `id` is not submitted from one layout to the next, unless in the wake of another
one. -/
structure Unsubmitted (id : NodeId) (layout layout' : Layout) : Prop where
  tree : layout'.tree = layout.tree
  isSubmitted : layout.tree.isChild id = false →
    (layout'.form id).value.isSubmitted = (layout.form id).value.isSubmitted
  history : ∃ more, (layout'.form id).history = (layout.form id).history ++ more ∧
    (layout.tree.isChild id = false →
      ∀ state ∈ more, state.isSubmitted = (layout.form id).value.isSubmitted)
  results : (layout'.noticesOf .formResult id).Perm (layout.noticesOf .formResult id)
  updates : layout'.updatesOf id = layout.updatesOf id

variable {layout layout' layout'' : Layout} {id other : NodeId} {spec : FormSpec}

namespace Unsubmitted

/-- What leaves the form and what it told alone does not submit it. -/
theorem of_form (htree : layout'.tree = layout.tree) (hform : layout'.form id = layout.form id)
    (hresults : (layout'.noticesOf .formResult id).Perm (layout.noticesOf .formResult id))
    (hupdates : layout'.updatesOf id = layout.updatesOf id) : Unsubmitted id layout layout' :=
  ⟨htree, fun _ => by rw [hform], ⟨[], by simp [hform]⟩, hresults, hupdates⟩

/-- What leaves the forms and all that they told alone submits none. -/
theorem of_alike (h : Alike layout layout') : Unsubmitted id layout layout' :=
  .of_form h.tree (by rw [form, h.forms, form]) (h.notices.filter _)
    (by rw [updatesOf, h.updates, updatesOf])

theorem refl (id : NodeId) (layout : Layout) : Unsubmitted id layout layout :=
  .of_alike ⟨rfl, rfl, rfl, .refl _⟩

theorem trans (h : Unsubmitted id layout layout') (h' : Unsubmitted id layout' layout'') :
    Unsubmitted id layout layout'' where
  tree := h'.tree.trans h.tree
  isSubmitted hchild := (h'.isSubmitted (h.tree ▸ hchild)).trans (h.isSubmitted hchild)
  history := by
    obtain ⟨more, hmore, hm⟩ := h.history
    obtain ⟨more', hmore', hm'⟩ := h'.history
    refine ⟨more ++ more', by rw [hmore', hmore, List.append_assoc], fun hchild state hs => ?_⟩
    rcases List.mem_append.mp hs with hs | hs
    · exact hm hchild state hs
    · rw [hm' (h.tree ▸ hchild) state hs, h.isSubmitted hchild]
  results := h'.results.trans h.results
  updates := h'.updates.trans h.updates

/-- What another form hands out does not count. -/
theorem applyUpdate (h : Unsubmitted id layout layout') {update : AttributeUpdate}
    (hne : update.origin ≠ id) : Unsubmitted id layout (layout'.applyUpdate update) := by
  unfold Layout.applyUpdate
  split
  · refine h.trans (.of_form rfl rfl (.refl _) ?_)
    simp [updatesOf, hne]
  · exact h

end Unsubmitted

/-- The submission that the log shows stays the same. -/
theorem SubmitsOnce.submission?_eq (h : layout.SubmitsOnce id spec)
    (hunsubmitted : Unsubmitted id layout layout') :
    layout'.submission? id = layout.submission? id := by
  cases hchild : layout.tree.isChild id with
  | true => simp [submission?, hunsubmitted.tree, hchild]
  | false =>
    obtain ⟨more, hhistory, hmore⟩ := hunsubmitted.history
    have hsub := h.isSubmitted hchild
    have hkeeps := hmore hchild
    simp only [submission?, hunsubmitted.tree, hchild, Bool.false_eq_true, if_false] at hsub ⊢
    rw [hhistory, List.find?_append]
    cases hfind : (layout.form id).history.find? (·.isSubmitted) with
    | some state => rfl
    | none =>
      rw [hfind] at hsub
      have hnone : more.find? (·.isSubmitted) = none := by
        rw [List.find?_eq_none]
        intro state hstate
        simp [hkeeps state hstate, hsub]
      rw [hnone]
      rfl

/-- A list that is called for by an option does not change by being permuted. -/
theorem eq_of_perm_toList {α β : Type} {list : List β} {option : Option α} {f : α → β}
    (h : list.Perm (option.toList.map f)) : list = option.toList.map f := by
  cases option with
  | none => exact List.perm_nil.mp h
  | some state => exact List.perm_singleton.mp h

/-- **What does not submit the form keeps all that is known of its submission.** -/
theorem SubmitsOnce.congr (h : layout.SubmitsOnce id spec)
    (hunsubmitted : Unsubmitted id layout layout') : layout'.SubmitsOnce id spec := by
  have hsame := h.submission?_eq hunsubmitted
  refine ⟨by rw [hunsubmitted.tree, h.declared], fun hchild => ?_, ?_, ?_⟩
  · rw [hunsubmitted.tree] at hchild
    rw [hunsubmitted.isSubmitted hchild, hsame, h.isSubmitted hchild]
  · have hresults := hunsubmitted.results
    rw [h.results] at hresults
    rw [hsame]
    exact eq_of_perm_toList hresults
  · rw [hsame, hunsubmitted.updates, h.updates]

end Layout

/-! ## Steps -/

/-- Changes that concern inputs do not submit. -/
theorem FormState.isSubmitted_reduce {allow : Allowance} {intent : FormIntent}
    (h : allow.takes intent) (state : FormState) :
    (state.reduce intent).isSubmitted = state.isSubmitted := by
  cases intent <;> first | rfl | cases h

namespace Layout

variable {layout layout' : Layout} {id other : NodeId} {node : Node} {spec : FormSpec}
  {allow : Allowance}

/-- A change of a form tells nothing of submissions. -/
theorem Sound.results_changeForm (h : layout.Sound) (id : NodeId)
    (hsome : (layout.tree.form? other).isSome) (intent : FormIntent) :
    ((layout.changeForm other intent).noticesOf .formResult id).Perm
      (layout.noticesOf .formResult id) := by
  obtain ⟨announcements, hannouncements, hqueue⟩ := h.queue_changeForm hsome intent
  refine (h.advance_changeForm hsome intent).noticesOf_same hqueue fun dispatch hd notice hn => ?_
  rcases List.mem_append.mp hd with hd | hd
  · unfold displayNotice at hd
    split at hd
    · obtain rfl := List.mem_singleton.mp hd
      cases hn
      simp [Notice.isOf, ReportedEvent.kind]
    · simp at hd
  · rw [(hannouncements dispatch hd).notice?] at hn
    cases hn

/-- **A change of a form submits no form that submits by itself**, unless it says so. -/
theorem Sound.unsubmitted_changeForm (h : layout.Sound) (hsome : (layout.tree.form? other).isSome)
    {intent : FormIntent} (hkeeps : other = id →
      ((layout.form id).value.reduce intent).isSubmitted = (layout.form id).value.isSubmitted) :
    Unsubmitted id layout (layout.changeForm other intent) := by
  have hchange := h.change hsome intent
  have hresults := h.results_changeForm id hsome intent
  have hupdates : (layout.changeForm other intent).updates = layout.updates :=
    (congrArg Layout.updates hchange.rest :)
  by_cases hne : id = other
  · subst hne
    have hcommit : (layout.commitForm id intent).form id =
        (layout.form id).commit ((layout.form id).value.reduce intent) := by
      rw [form_commitForm, if_pos rfl]
    have hvalue : ((layout.commitForm id intent).form id).value.isSubmitted =
        (layout.form id).value.isSubmitted := by
      rw [hcommit, Observable.value_commit, hkeeps rfl]
    refine ⟨hchange.tree_eq, fun _ => ?_, ?_, hresults, by rw [updatesOf, hupdates, updatesOf]⟩
    · rw [hchange.turn.value, ← hvalue]
    · obtain ⟨more, hmore, hm⟩ := hchange.turn.history
      rw [hcommit, Observable.history_commit, List.append_assoc] at hmore
      refine ⟨_, hmore, fun _ state hstate => ?_⟩
      rcases List.mem_append.mp hstate with hstate | hstate
      · unfold Observable.added at hstate
        split at hstate
        · simp at hstate
        · obtain rfl := List.mem_singleton.mp hstate
          exact hkeeps rfl
      · rw [hm state hstate, hvalue]
  · have hfollows := hchange.follows hne
    exact ⟨hchange.tree_eq, hfollows.kept, hfollows.history, hresults,
      by rw [updatesOf, hupdates, updatesOf]⟩

/-- The submission of another form does not count. -/
theorem Sound.unsubmitted_submitForm (h : layout.Sound)
    (hsome : (layout.tree.form? other).isSome) (hne : other ≠ id) (spec : FormSpec)
    (button : Option String) : Unsubmitted id layout (layout.submitForm other spec button) := by
  unfold submitForm
  dsimp only
  split
  · exact .refl id layout
  · have hchange : Unsubmitted id layout (layout.changeForm other .submit) :=
      h.unsubmitted_changeForm hsome fun heq => absurd heq hne
    have hpush : ∀ entry attributes context, Unsubmitted id layout
        ((layout.changeForm other .submit).push
          (.bubble other (.formResult entry attributes context))) :=
      fun entry attributes context => by
        refine hchange.trans (.of_form rfl rfl ?_ rfl)
        rw [noticesOf_push]
        simp [Dispatch.notice?, Notice.isOf, hne]
    split
    · exact hpush _ _ _
    · exact (hpush _ _ _).applyUpdate hne

/-- **A step that does not submit the form** changes nothing about its submission. -/
theorem Sound.unsubmitted_step (h : layout.Sound) (id : NodeId) (step : Step allow layout layout') :
    Unsubmitted id layout layout' ∨ allow.submits ∧ ∃ node spec button,
      layout.tree.form? id = some (node, spec) ∧ layout' = layout.submitForm id spec button := by
  cases step with
  | change htakes hsome =>
    exact .inl (h.unsubmitted_changeForm hsome fun _ => FormState.isSubmitted_reduce htakes _)
  | @page pager intent hpager =>
    have hafter := h.aftermath_changePager hpager intent
    have hupdates : (layout.changePager pager intent).updates = layout.updates :=
      (congrArg Layout.updates hafter.core :)
    exact .inl ⟨hafter.tree_eq, (hafter.follows id).kept, (hafter.follows id).history,
      h.noticesOf_changePager hpager intent _ _, by rw [updatesOf, hupdates, updatesOf]⟩
  | note node change => exact .inl (.of_alike ⟨rfl, rfl, rfl, .refl _⟩)
  | @submit form node spec button hsubmits hform =>
    by_cases heq : form = id
    · subst heq
      exact .inr ⟨hsubmits, node, spec, button, hform, rfl⟩
    · exact .inl (h.unsubmitted_submitForm (by rw [hform]; rfl) heq spec button)
  | @follow button event _ hevent =>
    refine .inl (.of_form rfl rfl ?_ rfl)
    rw [noticesOf_push]
    cases event <;> first | cases hevent; done | simp [Dispatch.notice?]
  | dismiss dismissal => exact .inl (.of_alike ⟨rfl, rfl, rfl, .refl _⟩)
  | reportDismissal origin button isCancel context =>
    left
    unfold Layout.report
    split
    · refine .of_alike ⟨rfl, rfl, rfl, ?_⟩
      simp [notices, Report.notice?, ReportedEvent.kind]
    · exact .refl id layout

/-- Once submitted, a form that submits by itself has its submission in its log. -/
theorem submission?_changeForm_submit (hsound : layout.Sound)
    (hform : layout.tree.form? id = some (node, spec)) (hchild : spec.isChild = false)
    (hfirst : layout.submission? id = none) (hbefore : (layout.form id).value.isSubmitted = false) :
    (layout.changeForm id .submit).submission? id =
      some ((layout.form id).value.reduce .submit) := by
  have hnested : layout.tree.isChild id = false := (Tree.isChild_of_form? hform).trans hchild
  have hchange := hsound.change (by rw [hform]; rfl) .submit
  obtain ⟨more, hmore, -⟩ := hchange.turn.history
  have hne : (layout.form id).value.reduce .submit ≠ (layout.form id).value := by
    intro heq
    have := congrArg FormState.isSubmitted heq
    rw [hbefore] at this
    cases this
  rw [form_commitForm, if_pos rfl, Observable.history_commit, Observable.added, if_neg hne] at hmore
  unfold submission? at hfirst ⊢
  rw [hnested, if_neg Bool.false_ne_true] at hfirst
  rw [hchange.tree_eq, hnested, if_neg Bool.false_ne_true, hmore, List.find?_append,
    List.find?_append, hfirst]
  rfl

/-- A form that is submitted, tells and hands out what its log calls for. -/
theorem SubmitsOnce.of_submission {state : FormState}
    (hdeclared : (layout.tree.form? id).map (·.2) = some spec)
    (hsubmitted : (layout.form id).value.isSubmitted = true)
    (hlog : layout.submission? id = some state)
    (hresults : layout.noticesOf .formResult id = [spec.result id state])
    (hupdates : layout.updatesOf id = state.handout id) : layout.SubmitsOnce id spec := by
  refine ⟨hdeclared, fun _ => ?_, ?_, ?_⟩
  · rw [hsubmitted, hlog]
    rfl
  · rw [hresults, hlog]
    rfl
  · rw [hupdates, hlog]
    simp

/-- The result of the submission is the only one, as none came before it. -/
theorem noticesOf_push_result {state : FormState} (hnone : layout.noticesOf .formResult id = [])
    (hbefore : state.isSubmitted = false) (spec : FormSpec) (button : Option String) :
    (layout.push (.bubble id (.formResult (spec.entry (state.reduce .submit))
      (state.reduce .submit).attributes
      ((LayoutContext.ofForm state.context).withButton button)))).noticesOf .formResult id =
      [spec.result id (state.reduce .submit)] := by
  have hcontext : { (state.reduce .submit).context with isSubmitted := false } = state.context := by
    rw [FormState.context, ← hbefore]
    rfl
  rw [noticesOf_push, hnone, FormSpec.result, hcontext]
  simp [Dispatch.notice?, Notice.isOf, ReportedEvent.kind, LayoutContext.ofForm,
    LayoutContext.withButton]

/-- **The submission of the form**: what it tells and what it hands out is what its log calls
for. -/
theorem SubmitsOnce.submitForm_self (h : layout.SubmitsOnce id spec) (hsound : layout.Sound)
    (hrecording : layout.environment.isRecording = true)
    (hform : layout.tree.form? id = some (node, spec)) (button : Option String) :
    (layout.submitForm id spec button).SubmitsOnce id spec := by
  unfold submitForm
  dsimp only
  split
  · exact h
  · next hnot =>
    have hsome : (layout.tree.form? id).isSome := by
      rw [hform]
      rfl
    have hchild : spec.isChild = false := by simpa using fun hc => hnot (.inl hc)
    have hbefore : (layout.form id).value.isSubmitted = false := by
      simpa using fun hs => hnot (.inr hs)
    have hfirst : layout.submission? id = none := by
      have hsub := h.isSubmitted ((Tree.isChild_of_form? hform).trans hchild)
      rw [hbefore] at hsub
      simpa using hsub.symm
    have hchange := hsound.change hsome .submit
    have hdeclared : ((layout.changeForm id .submit).tree.form? id).map (·.2) = some spec := by
      rw [hchange.tree_eq, h.declared]
    -- the submission is put into the log, and there is none before it
    have hlog := submission?_changeForm_submit hsound hform hchild hfirst hbefore
    have hvalue : ((layout.changeForm id .submit).form id).value.isSubmitted = true := by
      rw [hchange.turn.value, form_commitForm, if_pos rfl, Observable.value_commit]
      rfl
    have hresults : (layout.changeForm id .submit).noticesOf .formResult id = [] := by
      have hsame := hsound.results_changeForm id hsome .submit
      rw [h.results, hfirst] at hsame
      exact List.perm_nil.mp hsame
    have hupdates : (layout.changeForm id .submit).updatesOf id = [] := by
      have hsame : (layout.changeForm id .submit).updates = layout.updates :=
        (congrArg Layout.updates hchange.rest :)
      have hnone := h.updates
      rw [hfirst] at hnone
      rw [updatesOf, hsame]
      exact hnone
    -- its result is put into the outbox, then its updates are handed out
    have hpushed := noticesOf_push_result hresults hbefore spec button
    split
    · next hempty =>
      refine .of_submission hdeclared hvalue hlog hpushed ?_
      rw [FormState.handout, if_pos hempty]
      exact hupdates
    · next hnonempty =>
      have henvironment : (layout.changeForm id .submit).environment = layout.environment :=
        (congrArg Layout.environment hchange.rest :)
      have hkept : (layout.changeForm id .submit).environment.isRecording = true := by
        rw [henvironment, hrecording]
      rw [Layout.applyUpdate,
        if_pos (show (Layout.push _ _).environment.isRecording = true from hkept)]
      refine .of_submission hdeclared hvalue hlog hpushed ?_
      rw [FormState.handout, if_neg hnonempty]
      show (List.filter _ (_ ++ [_])) = _
      rw [List.filter_append]
      show (layout.changeForm id .submit).updatesOf id ++ _ = _
      rw [hupdates]
      simp

/-! ## Runs -/

/-- What is kept about the submission of the form `id` from one layout to a later one. -/
structure SubmitsOn (id : NodeId) (spec : FormSpec) (layout layout' : Layout) : Prop where
  tree : layout'.tree = layout.tree
  environment : layout'.environment = layout.environment
  once : layout'.SubmitsOnce id spec
  isSubmitted : layout.tree.isChild id = false → (layout.form id).value.isSubmitted = true →
    (layout'.form id).value.isSubmitted = true

/-- **Routing all that waits submits no form.** -/
theorem Tidy.unsubmitted_settle (h : Tidy allow layout) (id : NodeId)
    (hreporting : layout.environment.config.reporting.isEnabled = true)
    (hrecording : layout.environment.isRecording = true)
    (hbuttons : ∀ button, ¬ allow.buttons button) (hsubmits : ¬ allow.submits) :
    Unsubmitted id layout layout.settle ∧ layout.settle.environment = layout.environment := by
  refine h.settle_alike (P := Unsubmitted id layout) hreporting hrecording hbuttons
    (fun world world' hworld hp step => hp.trans ?_)
    (fun _ _ halike hp => hp.trans (.of_alike halike)) (.refl id layout)
  exact (hworld.sound.unsubmitted_step id step).resolve_right fun hsubmit => hsubmits hsubmit.1

namespace SubmitsOn

theorem trans {layout'' : Layout} (h : SubmitsOn id spec layout layout')
    (h' : SubmitsOn id spec layout' layout'') : SubmitsOn id spec layout layout'' where
  tree := h'.tree.trans h.tree
  environment := h'.environment.trans h.environment
  once := h'.once
  isSubmitted hchild hs := h'.isSubmitted (h.tree ▸ hchild) (h.isSubmitted hchild hs)

/-- What does not submit the form keeps everything. -/
theorem of_unsubmitted (h : layout.SubmitsOnce id spec)
    (hunsubmitted : Unsubmitted id layout layout')
    (henvironment : layout'.environment = layout.environment) :
    SubmitsOn id spec layout layout' where
  tree := hunsubmitted.tree
  environment := henvironment
  once := h.congr hunsubmitted
  isSubmitted hchild hs := by rw [hunsubmitted.isSubmitted hchild, hs]

theorem refl (h : layout.SubmitsOnce id spec) : SubmitsOn id spec layout layout :=
  .of_unsubmitted h (.refl id layout) rfl

/-- **Steps keep what is known of the submission of a form**, and never take it back. -/
theorem step (h : layout.SubmitsOnce id spec) (hsound : layout.Sound)
    (hrecording : layout.environment.isRecording = true)
    (hbuttons : ∀ button, allow.buttons button → (layout.tree.node? button).isSome)
    (step : Step allow layout layout') : SubmitsOn id spec layout layout' := by
  have hadvance := advance_step hsound hbuttons step
  rcases hsound.unsubmitted_step id step with hunsubmitted | ⟨-, node, spec', button, hform, rfl⟩
  · exact .of_unsubmitted h hunsubmitted hadvance.environment
  · obtain rfl : spec' = spec := by simpa [hform] using h.declared
    refine ⟨hadvance.tree, hadvance.environment, h.submitForm_self hsound hrecording hform button,
      fun _ hs => ?_⟩
    have hsame : layout.submitForm id spec' button = layout := if_pos (.inr hs)
    rw [hsame, hs]

theorem steps (h : layout.SubmitsOnce id spec) (hsound : layout.Sound)
    (hrecording : layout.environment.isRecording = true)
    (hbuttons : ∀ button, allow.buttons button → (layout.tree.node? button).isSome)
    (steps : Steps allow layout layout') : SubmitsOn id spec layout layout' := by
  refine steps_induction (P := SubmitsOn id spec layout)
    (fun world world' hworld hp step => ?_) hsound (.refl h) steps
  exact hp.trans (.step hp.once hworld (hp.environment ▸ hrecording)
    (fun button hb => hp.tree ▸ hbuttons button hb) step)

/-- **A call keeps what is known of the submission of a form.** -/
theorem after {call : Call} (h : layout.SubmitsOnce id spec) (hidle : layout.Idle)
    (hreporting : layout.environment.config.reporting.isEnabled = true)
    (hrecording : layout.environment.isRecording = true) (hcall : call.IsOrdinary layout.tree) :
    SubmitsOn id spec layout (layout.after call) := by
  obtain ⟨raised, hraises, hafter⟩ := exists_raises hidle.queue hcall
  have hraised : SubmitsOn id spec layout raised := by
    cases hraises with
    | @input node input act states _ _ _ =>
      obtain ⟨hreport, hwithin⟩ := InputAct.isWithin_event act input
      have hstart : SubmitsOn id spec layout
          { layout with states, answers := act.answers node layout.answers } :=
        .of_unsubmitted h (.of_alike ⟨rfl, rfl, rfl, .refl _⟩) rfl
      refine hstart.trans (.steps hstart.once (hidle.sound.congr rfl (fun _ => rfl) fun _ => rfl)
        hrecording ?_ (steps_bubble _ node hreport hwithin))
      rintro _ ⟨⟩
    | steps _ hsteps => exact .steps h hidle.sound hrecording (fun _ hb => hb) hsteps
  obtain ⟨hunsubmitted, henvironment⟩ := (hidle.tidy_raised hraises).1.unsubmitted_settle id
    (hraised.environment ▸ hreporting) (hraised.environment ▸ hrecording) (fun _ hb => hb)
    fun hs => hs
  rw [hafter]
  exact hraised.trans (.of_unsubmitted hraised.once hunsubmitted henvironment)

/-- **A run keeps what is known of the submission of a form.** -/
theorem run (h : layout.SubmitsOnce id spec) (hidle : layout.Idle)
    (hreporting : layout.environment.config.reporting.isEnabled = true)
    (hrecording : layout.environment.isRecording = true) {calls : List Call}
    (hcalls : ∀ call ∈ calls, call.IsOrdinary layout.tree) :
    (layout.run calls).Idle ∧ SubmitsOn id spec layout (layout.run calls) := by
  refine Idle.run_induction (P := SubmitsOn id spec layout)
    (fun world call hworld htree hp hcall => ?_) calls layout hidle rfl (.refl h) hcalls
  exact hp.trans (.after hp.once hworld (hp.environment ▸ hreporting)
    (hp.environment ▸ hrecording) (htree ▸ hcall))

end SubmitsOn

/-- Once all nodes are set up, no form is submitted. -/
theorem Assembled.submitsOnce {environment : Environment} {tree : Tree}
    (h : Assembled environment tree tree.size layout) (hform : tree.form? id = some (node, spec)) :
    layout.SubmitsOnce id spec ∧ layout.submission? id = none := by
  have hfresh := h.fresh id node spec (Tree.lt_size_of_form? (by rw [hform]; rfl)) hform
  have hnone : layout.submission? id = none := by
    unfold submission?
    split
    · rfl
    · rw [List.find?_eq_none]
      intro state hstate
      simp [hfresh.history state hstate]
  have hupdates : layout.updates = [] := (congrArg Layout.updates h.core :)
  refine ⟨⟨by rw [h.tree_eq, hform]; rfl, fun _ => ?_, ?_, ?_⟩, hnone⟩
  · rw [hfresh.isSubmitted, hnone]
    rfl
  · rw [noticesOf, h.notices, hnone]
    rfl
  · rw [updatesOf, hupdates, hnone]
    rfl

/-- After activation no form is submitted. -/
theorem submitsOnce_of_activate {environment : Environment} {root : Spec}
    (h : activate environment root = .ok layout)
    (hreporting : environment.config.reporting.isEnabled = true)
    (hrecording : environment.isRecording = true)
    (hform : (Tree.ofSpec root).form? id = some (node, spec)) :
    layout.SubmitsOnce id spec ∧ layout.submission? id = none ∧
      layout.environment = environment := by
  obtain ⟨hviolation, rfl⟩ := activate_eq_ok.mp h
  have wf := Tree.wellFormed_of_violation? (Tree.linked_ofSpec root) hviolation
  have hbuild := assembled_build environment wf
  generalize build environment (Tree.ofSpec root) = built at hbuild
  obtain ⟨honce, hnone⟩ := hbuild.submitsOnce hform
  have hbuilt : built.environment = environment := (congrArg Layout.environment hbuild.core :)
  obtain ⟨hunsubmitted, henvironment⟩ := (hbuild.tidy wf).unsubmitted_settle id
    (hbuilt ▸ hreporting) (hbuilt ▸ hrecording) (fun _ hb => hb) fun hs => hs
  exact ⟨honce.congr hunsubmitted, (honce.submission?_eq hunsubmitted).trans hnone,
    henvironment.trans hbuilt⟩

/-! ## What is reported -/

/-- What is told of a submission in reports, if all that was told is what the log calls for. -/
theorem SubmitsOnce.reports (h : layout.SubmitsOnce id spec) (hidle : layout.Idle) :
    (layout.reportsOf .formResult id).map (·.notice) ++ layout.droppedOf .formResult id =
      (layout.submission? id).toList.map (spec.result id) := by
  have hkind : EventKind.formResult ≠ .dismiss := by decide
  rw [← noticesOf_of_queue hkind id hidle.queue, h.results]

theorem SubmitsOnce.length_reportsOf_le (h : layout.SubmitsOnce id spec) (hidle : layout.Idle) :
    (layout.reportsOf .formResult id).length ≤ 1 := by
  have hlength := congrArg List.length (h.reports hidle)
  have hle : (layout.submission? id).toList.length ≤ 1 := by
    cases layout.submission? id <;> simp
  simp only [List.length_append, List.length_map] at hlength
  omega

/-- If nothing was dropped that the form told, a report is there if and only if it is called for. -/
theorem SubmitsOnce.length_reportsOf_eq (h : layout.SubmitsOnce id spec) (hidle : layout.Idle)
    (hdropped : layout.droppedOf .formResult id = []) :
    (layout.reportsOf .formResult id).length = 1 ↔ (layout.submission? id).isSome = true := by
  have hlength := congrArg List.length (h.reports hidle)
  rw [hdropped, List.append_nil, List.length_map, List.length_map] at hlength
  rw [hlength]
  cases layout.submission? id <;> simp

/-- A report carries the data that the form had at its submission. -/
theorem SubmitsOnce.exists_of_mem_reportsOf (h : layout.SubmitsOnce id spec) (hidle : layout.Idle)
    {report : Report} (hreport : report ∈ layout.reportsOf .formResult id) :
    ∃ state, layout.submission? id = some state ∧
      (∃ entry, report.event = .formResult entry state.attributes ∧ entry.IsDataOf spec state) ∧
      report.context.form = some { state.context with isSubmitted := false } := by
  have hmem : report.notice ∈ (layout.submission? id).toList.map (spec.result id) := by
    rw [← h.reports hidle]
    exact List.mem_append_left _ (List.mem_map_of_mem hreport)
  obtain ⟨state, hstate, hnotice⟩ := List.mem_map.mp hmem
  exact ⟨state, by simpa using hstate,
    ⟨_, (congrArg Notice.event hnotice :).symm, spec.isDataOf_entry state⟩,
    (congrArg Notice.form hnotice :).symm⟩

/-- **Submission is reported exactly once.** Let a layout be activated with reporting enabled and
reports kept, and let calls of the renderer and submissions asked for from outside follow. A nested
form reports no submission, and hands out no attribute updates. For a form that submits by itself

* there is at most one report of its submission;
* once it is submitted it stays so, whatever calls follow;
* if the limit of a pass was not reached by the calls, there is a report if and only if the form is
  submitted;
* the report carries the data of the form as it was at the submission, with all entries that
  contributed then, and a context in which the form is not submitted;
* the form is submitted if and only if its log shows a submission, and then its attribute updates
  are handed out once, if there are any, and otherwise never.

**Proof sketch.** What a form told of its submission, whether reported, dropped or still waiting,
is what its log calls for: nothing before its first submitted state, and the result of that state
from then on. No step but the submission itself changes either, and the submission does both at
once. Between calls nothing waits. -/
theorem submission_reported_once {environment : Environment} {root : Spec}
    (h : activate environment root = .ok layout)
    (hreporting : environment.config.reporting.isEnabled = true)
    (hrecording : environment.isRecording = true)
    (hform : (Tree.ofSpec root).form? id = some (node, spec)) {calls : List Call}
    (hcalls : ∀ call ∈ calls, call.IsOrdinary (Tree.ofSpec root)) :
    (spec.isChild = true → (layout.run calls).reportsOf .formResult id = [] ∧
      (layout.run calls).updatesOf id = []) ∧
    (spec.isChild = false →
      ((layout.run calls).reportsOf .formResult id).length ≤ 1 ∧
      (((layout.run calls).form id).value.isSubmitted = true → ∀ more : List Call,
        (∀ call ∈ more, call.IsOrdinary (Tree.ofSpec root)) →
        (((layout.run calls).run more).form id).value.isSubmitted = true) ∧
      ((layout.run calls).dropped = layout.dropped →
        (((layout.run calls).reportsOf .formResult id).length = 1 ↔
          ((layout.run calls).form id).value.isSubmitted = true)) ∧
      (∀ report ∈ (layout.run calls).reportsOf .formResult id, ∃ state,
        (layout.run calls).submission? id = some state ∧
        (∃ entry, report.event = .formResult entry state.attributes ∧ entry.IsDataOf spec state) ∧
        report.context.form = some { state.context with isSubmitted := false }) ∧
      (((layout.run calls).form id).value.isSubmitted = true ↔
        ((layout.run calls).submission? id).isSome) ∧
      (layout.run calls).updatesOf id =
        ((layout.run calls).submission? id).toList.flatMap (·.handout id)) := by
  obtain ⟨honce, hnone, henvironment⟩ := submitsOnce_of_activate h hreporting hrecording hform
  have hidle := idle_of_activate h
  have htree := (sound_of_activate h).2.1
  rw [← henvironment] at hreporting hrecording
  rw [← htree] at hcalls hform ⊢
  obtain ⟨hfinal, hrun⟩ := SubmitsOn.run honce hidle hreporting hrecording hcalls
  have hreports := hrun.once.reports hfinal
  have hchild : (layout.run calls).tree.isChild id = spec.isChild := by
    rw [hrun.tree, Tree.isChild_of_form? hform]
  constructor
  · intro hnested
    have hnever : (layout.run calls).submission? id = none := by
      rw [submission?, hchild, if_pos hnested]
    have hupdates := hrun.once.updates
    rw [hnever] at hreports hupdates
    exact ⟨List.map_eq_nil_iff.mp (List.append_eq_nil_iff.mp hreports).1, hupdates⟩
  · intro hown
    rw [hown] at hchild
    have hsub := hrun.once.isSubmitted hchild
    refine ⟨hrun.once.length_reportsOf_le hfinal, fun hs more hmore => ?_, fun hdropped => ?_,
      fun report hreport => hrun.once.exists_of_mem_reportsOf hfinal hreport, by rw [hsub],
      hrun.once.updates⟩
    · rw [← hrun.tree] at hmore
      exact (SubmitsOn.run hrun.once hfinal (hrun.environment ▸ hreporting)
        (hrun.environment ▸ hrecording) hmore).2.isSubmitted hchild hs
    · have hlost : (layout.run calls).droppedOf .formResult id = [] := by
        have hbefore := honce.reports hidle
        rw [hnone] at hbefore
        rw [droppedOf, hdropped]
        exact (List.append_eq_nil_iff.mp hbefore).2
      rw [hrun.once.length_reportsOf_eq hfinal hlost, hsub]

/-- A form with an input, which writes an attribute, and a button. -/
def survey : Spec :=
  ⟨.form { id := "survey" }, [], [
    ⟨.input { id := "mail", kind := .textInput, target := some { channel := some "mail" } },
      [], []⟩,
    ⟨.button { id := "send", behaviors := [.formSubmit] }, [], []⟩]⟩

/-- The survey is filled in, sent with its button, and sent again from outside. -/
def surveyCalls : List Call :=
  [.setAnswer 1 (.textInput (some "ada@example.org")), .click 2,
    .dispatch 0 (.layoutSubmit none) .trickle, .dispatch 1 (.buttonSubmit 2 "send" []) .bubble]

/-- The address that is written to the attribute. -/
def surveyAttributes : Attributes :=
  .ofList [({ channel := some "mail" }, .str "ada@example.org")] compare

/-- The one report has the answer below the entry of the survey, and its attribute update. -/
theorem submission_reported_once_survey :
    ∃ layout final : Layout, activate {} survey = .ok layout ∧
      final = layout.run surveyCalls ∧
      final.dropped = layout.dropped ∧ (final.form 0).value.isSubmitted = true ∧
      (final.reportsOf .formResult 0).length = 1 ∧
      ∀ report ∈ final.reportsOf .formResult 0, report.event = .formResult
        ⟨"survey", .form none
          [⟨"mail", .textInput (some "ada@example.org"), true, surveyAttributes⟩], true,
          surveyAttributes⟩ surveyAttributes := by
  have hactive : activate {} survey = .ok (build {} (Tree.ofSpec survey)).settle :=
    activate_eq_ok.mpr ⟨by decide, rfl⟩
  have hform : (Tree.ofSpec survey).form? 0 = some
      ({ view := .form { id := "survey" }, enable := [], ancestors := [], children := [1, 2]
         size := 3, scope := {} }, { id := "survey" }) := by decide
  have hcalls : ∀ call ∈ surveyCalls, call.IsOrdinary (Tree.ofSpec survey) := by
    intro call hcall
    simp only [surveyCalls, List.mem_cons, List.not_mem_nil, or_false] at hcall
    rcases hcall with rfl | rfl | rfl | rfl
    · trivial
    · trivial
    · trivial
    · show ((Tree.ofSpec survey).node? 2).isSome
      decide
  obtain ⟨-, -, hreported, hcarries, -⟩ :=
    (submission_reported_once hactive rfl rfl hform hcalls).2 rfl
  have hdropped : ((build {} (Tree.ofSpec survey)).settle.run surveyCalls).dropped =
      (build {} (Tree.ofSpec survey)).settle.dropped := by decide +kernel
  have hsubmitted : (((build {} (Tree.ofSpec survey)).settle.run surveyCalls).form
      0).value.isSubmitted = true := by
    decide +kernel
  refine ⟨_, _, hactive, rfl, hdropped, hsubmitted, (hreported hdropped).mpr hsubmitted, ?_⟩
  intro report hmem
  obtain ⟨state, hstate, ⟨entry, hevent, hdata⟩, -⟩ := hcarries report hmem
  -- what the log shows of the submission
  have hlog : ((build {} (Tree.ofSpec survey)).settle.run surveyCalls).submission? 0 = some
      { identifier := "survey", isValid := true, isSubmitted := true
        validity := .ofList [("mail", true)] compare
        inputs := .ofList [("mail",
          ⟨"mail", .textInput (some "ada@example.org"), true, surveyAttributes⟩)] compare
        attributes := surveyAttributes } := by
    decide +kernel
  obtain rfl := Option.some.inj (hstate.symm.trans hlog)
  rw [hevent, FormSpec.isDataOf_iff.mp hdata]
  decide +kernel

end Layout

end FormTree

import FormTree.Proofs.Layout.Calls

set_option autoImplicit false

/-!
# How data climbs

What an input tells climbs from form to form: the nearest form takes it over, and if that form is a
nested one and changed, it passes on what it comes to, which the next form takes over in turn. All
else that happens on the way changes no more about forms than whether they are enabled, whether they
are submitted, and whether their display has been reported.

## Main definitions

* `FormTree.FormState.gist` — a form's state but for its enabled flag and its submission.
* `FormTree.FormSpec.passOn` — what a nested form asks of the form around it.
* `FormTree.Layout.Climb` — what an event about data comes to.

## Main results

* `FormTree.Layout.Sound.gist_changeForm` — what a change of a form does to the gist of each form.
* `FormTree.Layout.Sound.climb` — an event about data climbs.
-/

namespace FormTree

namespace FormState

/-- The state but for the enabled flag and the submission. -/
def gist (state : FormState) : FormState := { state with isEnabled := true, isSubmitted := false }

/-- The state once its display has been reported, if that is due. -/
def reporting (isChild : Bool) (state : FormState) : FormState :=
  { state with
    isDisplayReported := state.isDisplayReported || (!isChild && !state.displayed.isEmpty) }

end FormState

namespace FormSpec

/-- What a nested form in this state asks of the form around it, after a change. -/
def passOn (spec : FormSpec) (state : FormState) : FormIntent → FormIntent
  | .display _ _ => .display spec.id (!state.displayed.isEmpty)
  | _ => .input (spec.entry state)

theorem formIntent?_forward (spec : FormSpec) (state : FormState) (intent : FormIntent) :
    (spec.forward state intent).formIntent? = some (spec.passOn state intent) := by
  cases intent <;> rfl

theorem takes_passOn {allow : Allowance} {intent : FormIntent} (h : allow.takes intent)
    (spec : FormSpec) (state : FormState) : allow.takes (spec.passOn state intent) := by
  cases intent <;> first | exact h | cases h

end FormSpec

/-- What forms take over concerns their inputs. -/
theorem Event.takes_data {event : Event} {intent : FormIntent}
    (h : event.formIntent? = some intent) : Allowance.data.takes intent := by
  cases event <;> cases h <;> trivial

/-- What is allowed but for changes of what forms know. -/
def Allowance.withoutData (allow : Allowance) : Allowance :=
  { allow with inputs := False, displays := False }

/-- Forms that follow keep their gist. -/
theorem Follows.gist {isChild : Bool} {before after : Observable FormState FormReaction}
    (h : Follows isChild before after) : after.value.gist = before.value.gist := by
  rw [h.value]
  rfl

namespace Layout

variable {layout layout' : Layout} {id form origin : NodeId} {intent : FormIntent}
  {allow : Allowance}

/-- A step changes what a form knows, or it asks nothing of forms. -/
theorem Step.eq_changeForm_or (step : Step allow layout layout') :
    (∃ form intent, allow.takes intent ∧ (layout.tree.form? form).isSome ∧
      layout' = layout.changeForm form intent) ∨ Step allow.withoutData layout layout' := by
  cases step with
  | change htakes hsome => exact .inl ⟨_, _, htakes, hsome, rfl⟩
  | page hpager => exact .inr (.page hpager)
  | note id change => exact .inr (.note id change)
  | submit button hsubmits hform => exact .inr (.submit button hsubmits hform)
  | follow hbutton hevent => exact .inr (.follow hbutton hevent)
  | dismiss dismissal => exact .inr (.dismiss dismissal)
  | reportDismissal origin button isCancel context =>
    exact .inr (.reportDismissal origin button isCancel context)

/-! ## Gists -/

/-- A display that is due is one of a form that submits by itself. -/
theorem isDisplayReported_or_owesDisplay (layout : Layout) (id : NodeId) :
    ((layout.form id).value.isDisplayReported || layout.owesDisplay id) =
      ((layout.form id).value.reporting (layout.tree.isChild id)).isDisplayReported := by
  unfold owesDisplay FormState.reporting
  cases layout.tree.isChild id <;> cases (layout.form id).value.isDisplayReported <;> simp

/-- A form that rests has reported its display, if it was due. -/
theorem Sound.reporting_eq (h : layout.Sound) (hsome : (layout.tree.form? id).isSome) :
    (layout.form id).value.reporting (layout.tree.isChild id) = (layout.form id).value := by
  have howes := (h.rests id hsome).owesDisplay
  have hreported := isDisplayReported_or_owesDisplay layout id
  rw [howes, Bool.or_false] at hreported
  calc (layout.form id).value.reporting (layout.tree.isChild id)
      = { (layout.form id).value with isDisplayReported :=
          ((layout.form id).value.reporting (layout.tree.isChild id)).isDisplayReported } := rfl
    _ = (layout.form id).value := by rw [← hreported]

/-- **What a change of a form does to the gists of forms**: that of the form itself becomes what the
change makes of it, with the display reported if that is due, and all others stay. -/
theorem Sound.gist_changeForm (h : layout.Sound) (hsome : (layout.tree.form? form).isSome)
    (intent : FormIntent) (id : NodeId) : ((layout.changeForm form intent).form id).value.gist =
      if form = id then
        (((layout.form form).value.reduce intent).reporting (layout.tree.isChild form)).gist
      else (layout.form id).value.gist := by
  have hchange := h.change hsome intent
  split
  · next heq =>
    subst heq
    have hcommit : ((layout.commitForm form intent).form form).value =
        (layout.form form).value.reduce intent := by
      rw [form_commitForm, if_pos rfl, Observable.value_commit]
    have hreported := isDisplayReported_or_owesDisplay (layout.commitForm form intent) form
    rw [hchange.turn.value, hreported, hcommit]
    rfl
  · next hne => exact (hchange.follows (Ne.symm hne)).gist

/-- The log of a form grows if and only if a change changes its state. -/
theorem Sound.version_changeForm (h : layout.Sound) (hsome : (layout.tree.form? form).isSome)
    (intent : FormIntent) :
    ((layout.changeForm form intent).form form).version ≠ (layout.form form).version ↔
      (layout.form form).value.reduce intent ≠ (layout.form form).value := by
  have hchange := h.change hsome intent
  by_cases hsame : (layout.form form).value.reduce intent = (layout.form form).value
  · rw [(hchange.same hsame).1 form]
    simp [hsame]
  · obtain ⟨more, hmore, -⟩ := hchange.turn.history
    rw [form_commitForm, if_pos rfl, Observable.history_commit, Observable.added, if_neg hsame]
      at hmore
    have hlength := congrArg List.length hmore
    simp only [List.length_append, List.length_singleton] at hlength
    refine ⟨fun _ => hsame, fun _ => ?_⟩
    rw [Observable.version_eq, Observable.version_eq]
    omega

/-- The submission of a form changes no gist. -/
theorem Sound.gist_submitForm (h : layout.Sound) (hsome : (layout.tree.form? form).isSome)
    (spec : FormSpec) (button : Option String) (id : NodeId) :
    ((layout.submitForm form spec button).form id).value.gist = (layout.form id).value.gist := by
  unfold submitForm
  dsimp only
  split
  · rfl
  · have hchange : ((layout.changeForm form .submit).form id).value.gist =
        (layout.form id).value.gist := by
      rw [h.gist_changeForm hsome]
      split
      · next heq =>
        subst heq
        calc (((layout.form form).value.reduce .submit).reporting (layout.tree.isChild form)).gist
            = ((layout.form form).value.reporting (layout.tree.isChild form)).gist := rfl
          _ = (layout.form form).value.gist := by rw [h.reporting_eq hsome]
      · rfl
    split
    · exact hchange
    · unfold applyUpdate
      split <;> exact hchange

/-- **Steps that ask nothing of forms change no gist.** -/
theorem Sound.gist_step (h : layout.Sound) (htakes : ∀ intent, ¬ allow.takes intent)
    (step : Step allow layout layout') (id : NodeId) :
    (layout'.form id).value.gist = (layout.form id).value.gist := by
  cases step with
  | change htaken _ => exact (htakes _ htaken).elim
  | page hpager => exact ((h.aftermath_changePager hpager _).follows id).gist
  | note node change => rfl
  | submit button _ hform => exact h.gist_submitForm (by rw [hform]; rfl) _ button id
  | follow _ _ => rfl
  | dismiss dismissal => rfl
  | reportDismissal origin button isCancel context =>
    unfold Layout.report
    split <;> rfl

/-! ## Climbing -/

/-- What comes of `intent`, which the node `origin` asks of the form around it. -/
inductive Climb : NodeId → FormIntent → Layout → Layout → Prop
  /-- There is no form around the node. -/
  | top {origin : NodeId} {intent : FormIntent} {layout : Layout} :
    layout.tree.formAround origin = none → Climb origin intent layout layout
  /-- The form takes it over, and has nothing to pass on. -/
  | stop {origin form : NodeId} {intent : FormIntent} {layout : Layout} :
    layout.tree.formAround origin = some form →
    (layout.tree.isChild form = true →
      (layout.form form).value.reduce intent = (layout.form form).value) →
    Climb origin intent layout (layout.changeForm form intent)
  /-- The form, a nested one, takes it over and passes on what it comes to. -/
  | pass {origin form : NodeId} {intent : FormIntent} {layout layout' : Layout} {node : Node}
    {spec : FormSpec} :
    layout.tree.formAround origin = some form → layout.tree.form? form = some (node, spec) →
    layout.tree.isChild form = true →
    (layout.form form).value.reduce intent ≠ (layout.form form).value →
    Climb form (spec.passOn ((layout.form form).value.reduce intent) intent)
      (layout.changeForm form intent) layout' →
    Climb origin intent layout layout'

/-- Where something climbs to is up to the form around the node. -/
theorem Climb.congr {up : NodeId} (h : Climb up intent layout layout')
    (haround : layout.tree.formAround origin = layout.tree.formAround up) :
    Climb origin intent layout layout' := by
  cases h with
  | top hnone => exact .top (haround.trans hnone)
  | stop hsome hstop => exact .stop (haround.trans hsome) hstop
  | pass hsome hform hchild hne hclimb =>
    exact .pass (haround.trans hsome) hform hchild hne hclimb

/-- At the root nothing is left to do about data. -/
theorem atRoot_of_formIntent? {event : Event} (h : event.formIntent? = some intent)
    (layout : Layout) (origin : NodeId) : layout.atRoot origin event = layout := by
  cases event <;> first | rfl | cases h

/-- What a form does with an event about data. -/
theorem offerForm_of_formIntent? {event : Event} (h : event.formIntent? = some intent)
    (layout : Layout) (id : NodeId) (spec : FormSpec) : layout.offerForm id spec event =
      if spec.isChild ∧
          ((layout.changeForm id intent).form id).version ≠ (layout.form id).version then
        (layout.changeForm id intent,
          .next (spec.forward ((layout.form id).value.reduce intent) intent))
      else (layout.changeForm id intent, .stop) := by
  cases event <;> first | cases h; done | (cases h; rfl)

/-- Nodes below a node that is no form, have the same form around them. -/
theorem formAround_of_scope {tree : Tree} {up : NodeId} {node parent : Node}
    (hnode : tree.node? id = some node) (hparent : tree.node? up = some parent)
    (hscope : node.scope = parent.scope.enter up parent.view) (hkind : parent.view.kind ≠ .form) :
    tree.formAround id = tree.formAround up := by
  rw [Tree.formAround, Tree.formAround, hnode, hparent, Option.bind_some, Option.bind_some, hscope]
  unfold Scope.enter
  cases hview : parent.view <;> first | rfl | (rw [hview] at hkind; exact absurd rfl hkind)

/-- An event about data climbs from a node below a form, if what the form passes on does. -/
theorem Sound.climb_form (h : layout.Sound) {up : NodeId} {parent : Node} {spec : FormSpec}
    (hform : layout.tree.form? up = some (parent, spec))
    (haround : layout.tree.formAround id = some up) {event : Event}
    (hintent : event.formIntent? = some intent) (rest : Event → Layout → Layout)
    (hrest : ∀ event', event'.formIntent? =
        some (spec.passOn ((layout.form up).value.reduce intent) intent) →
      Climb up (spec.passOn ((layout.form up).value.reduce intent) intent)
        (layout.changeForm up intent) (rest event' (layout.changeForm up intent))) :
    Climb id intent layout
      (match layout.offerForm up spec event with
      | (layout, .stop) => layout
      | (layout, .next event) => rest event layout) := by
  have hsome : (layout.tree.form? up).isSome := by
    rw [hform]
    rfl
  have hchild := Tree.isChild_of_form? hform
  have hversion := h.version_changeForm hsome intent
  rw [offerForm_of_formIntent? hintent]
  by_cases hpass : spec.isChild = true ∧
      ((layout.changeForm up intent).form up).version ≠ (layout.form up).version
  · rw [if_pos hpass]
    exact .pass haround hform (hchild.trans hpass.1) (hversion.mp hpass.2)
      (hrest _ (spec.formIntent?_forward _ intent))
  · rw [if_neg hpass]
    refine .stop haround fun hnested => Classical.byContradiction fun hne => ?_
    exact hpass ⟨hchild.symm.trans hnested, hversion.mpr hne⟩

/-- An event about data climbs, however far the nodes around its origin are offered it already.

**Proof sketch.** By induction on the node: what is around it comes before it in the tree. A pager
or a container lets the event pass by, a form takes it over. -/
theorem Sound.climb_bubbleTo (origin : NodeId) : ∀ (id : Nat) {layout : Layout} {event : Event}
    {intent : FormIntent}, layout.Sound → event.formIntent? = some intent →
    Climb id intent layout (bubbleTo origin (layout.tree.ancestors id) event layout) := by
  intro id
  induction id using Nat.strongRecOn with
  | ind id ih =>
    intro layout event intent h hintent
    cases hnode : layout.tree.node? id with
    | none =>
      have hancestors : layout.tree.ancestors id = [] := by simp [Tree.ancestors, hnode]
      rw [hancestors, bubbleTo, atRoot_of_formIntent? hintent]
      exact .top (by simp [Tree.formAround, hnode])
    | some node =>
      have hancestors : layout.tree.ancestors id = node.ancestors := by
        simp [Tree.ancestors, hnode]
      have haround : layout.tree.formAround id = node.scope.form := by
        simp [Tree.formAround, hnode]
      rcases h.wf.linked id node hnode with
        ⟨hroot, hscope⟩ | ⟨up, parent, hup, hparent, hpath, hscope⟩
      · rw [hancestors, hroot, bubbleTo, atRoot_of_formIntent? hintent]
        exact .top (by rw [haround, hscope])
      · have hview : layout.tree.view? up = some parent.view := by simp [Tree.view?, hparent]
        have hrest : parent.ancestors = layout.tree.ancestors up := by
          simp [Tree.ancestors, hparent]
        have hby := fun hkind => formAround_of_scope hnode hparent hscope hkind
        rw [hancestors, hpath, bubbleTo, offer, hview, hrest]
        cases hv : parent.view with
        | form spec =>
          refine h.climb_form (Tree.form?_eq_some.mpr ⟨hparent, hv⟩) ?_ hintent
            (bubbleTo origin (layout.tree.ancestors up)) fun event' hintent' => ?_
          · rw [haround, hscope, hv]
            rfl
          · have hsome := Tree.isSome_form? hparent hv
            rw [← (h.change hsome intent).tree_eq]
            exact ih up hup (h.changeForm hsome intent) hintent'
        | pager spec =>
          have hoffer : layout.offerPager up event = (layout, .next event) := by
            cases event <;> first | cases hintent; done | rfl
          dsimp only
          rw [hoffer]
          exact (ih up hup h hintent).congr (hby (by rw [hv]; simp [View.kind]))
        | _ => exact (ih up hup h hintent).congr (hby (by rw [hv]; simp [View.kind]))

/-- **An event about data climbs.** -/
theorem Sound.climb (h : layout.Sound) (origin : NodeId) {event : Event}
    (hintent : event.formIntent? = some intent) :
    Climb origin intent layout (layout.bubble origin event) :=
  h.climb_bubbleTo origin origin hintent

/-- What climbs leads from a sound layout to a sound layout of the same tree. -/
theorem Climb.sound (h : Climb origin intent layout layout') (hsound : layout.Sound) :
    layout'.Sound ∧ layout'.tree = layout.tree := by
  induction h with
  | top _ => exact ⟨hsound, rfl⟩
  | stop haround _ =>
    have hsome := (hsound.wf.linked.formAround_spec haround).2
    exact ⟨hsound.changeForm hsome _, (hsound.change hsome _).tree_eq⟩
  | pass haround _ _ _ _ ih =>
    have hsome := (hsound.wf.linked.formAround_spec haround).2
    obtain ⟨hs, ht⟩ := ih (hsound.changeForm hsome _)
    exact ⟨hs, ht.trans (hsound.change hsome _).tree_eq⟩

/-- What climbs changes the gist of no form at or behind its origin. -/
theorem Climb.gist_of_le (h : Climb origin intent layout layout') (hsound : layout.Sound)
    (hle : origin ≤ id) : (layout'.form id).value.gist = (layout.form id).value.gist := by
  induction h with
  | top _ => rfl
  | stop haround _ =>
    obtain ⟨hlt, hsome⟩ := hsound.wf.linked.formAround_spec haround
    rw [hsound.gist_changeForm hsome, if_neg (by unfold NodeId at *; omega)]
  | pass haround _ _ _ _ ih =>
    obtain ⟨hlt, hsome⟩ := hsound.wf.linked.formAround_spec haround
    rw [ih (hsound.changeForm hsome _) (by unfold NodeId at *; omega), hsound.gist_changeForm hsome,
      if_neg (by unfold NodeId at *; omega)]

/-- **What climbs does to the form around its origin**: what the form makes of it. -/
theorem Climb.gist_around (h : Climb origin intent layout layout') (hsound : layout.Sound)
    (haround : layout.tree.formAround origin = some form) :
    (layout'.form form).value.gist =
      (((layout.form form).value.reduce intent).reporting (layout.tree.isChild form)).gist := by
  have hsome := (hsound.wf.linked.formAround_spec haround).2
  have hself := hsound.gist_changeForm hsome intent form
  rw [if_pos rfl] at hself
  cases h with
  | top hnone =>
    rw [hnone] at haround
    cases haround
  | stop hup _ =>
    obtain rfl := Option.some.inj (hup.symm.trans haround)
    exact hself
  | pass hup _ _ _ hclimb =>
    obtain rfl := Option.some.inj (hup.symm.trans haround)
    exact (hclimb.gist_of_le (hsound.changeForm hsome intent) (Nat.le_refl _)).trans hself

/-- What climbs leaves the answers alone. -/
theorem Climb.answers_eq (h : Climb origin intent layout layout') (hsound : layout.Sound) :
    layout'.answers = layout.answers := by
  induction h with
  | top _ => rfl
  | stop haround _ =>
    have hsome := (hsound.wf.linked.formAround_spec haround).2
    exact (hsound.advance_changeForm hsome _).answers
  | pass haround _ _ _ _ ih =>
    have hsome := (hsound.wf.linked.formAround_spec haround).2
    exact (ih (hsound.changeForm hsome _)).trans (hsound.advance_changeForm hsome _).answers

end Layout

end FormTree

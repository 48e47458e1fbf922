import FormTree.Proofs.Layout.Run

set_option autoImplicit false

/-!
# Enable rules

A form that has enable rules carries their verdict whenever control is back with the caller:
between calls, after changes of forms and pagers through their handles, and also where routing
broke off at its limit. What is excluded is only that the flag of the form in question is set
through its handle, from which the form would recover no earlier than at its next change.

## Main definitions

* `FormTree.Action.setsEnabledOf` — the enabled flag of a form is set through its handle.

## Main results

* `FormTree.Layout.isEnabled_iff_rules` — a form with enable rules carries their value.
-/

namespace FormTree

/-- The enabled flag of the form `id` is set through its handle. -/
def Action.setsEnabledOf (id : NodeId) : Action → Bool
  | .changeForm node intent => node = id && intent.setsEnabled
  | _ => false

namespace Layout

variable {layout layout' : Layout} {id : NodeId}

/-- Whatever happens keeps soundness and the verdict of a form, unless its flag is set through its
handle. -/
theorem Sound.act (h : layout.Sound) (hruled : layout.Ruled id) {action : Action}
    (hdirect : action.setsEnabledOf id = false) :
    (layout.act action).Sound ∧ (layout.act action).tree = layout.tree ∧
      (layout.act action).Ruled id := by
  obtain ⟨hsound, htree⟩ := sound_act h action
  refine ⟨hsound, htree, ?_⟩
  cases action with
  | call call =>
    obtain ⟨-, -, hkept⟩ := keeps_after layout call h
    exact hkept id hruled
  | changeForm form intent =>
    rw [Layout.act]
    cases hspec : layout.formSpec form with
    | error error => exact hruled
    | ok spec =>
      refine h.ruled_changeForm (isSome_form?_of_formSpec hspec) hruled fun heq => ?_
      simpa [Action.setsEnabledOf, heq] using hdirect
  | updatePager pager change =>
    rw [Layout.act]
    cases hspec : layout.pagerSpec pager with
    | error error => exact hruled
    | ok spec =>
      obtain ⟨-, -, hkept⟩ := keeps_updatePager (isPager_of_pagerSpec hspec) change h
      exact hkept id hruled

theorem Sound.acts (h : layout.Sound) (hruled : layout.Ruled id) {actions : List Action}
    (hdirect : ∀ action ∈ actions, action.setsEnabledOf id = false) :
    (layout.acts actions).Sound ∧ (layout.acts actions).tree = layout.tree ∧
      (layout.acts actions).Ruled id := by
  induction actions generalizing layout with
  | nil => exact ⟨h, rfl, hruled⟩
  | cons action actions ih =>
    obtain ⟨hs, ht, hr⟩ := h.act hruled (hdirect action (by simp))
    obtain ⟨hs', ht', hr'⟩ := ih hs hr fun other hother => hdirect other (by simp [hother])
    exact ⟨hs', ht'.trans ht, hr'⟩

end Layout

/-- Rules look at a pager if they name one of its directions. -/
theorem EnableRules.hasPager_iff (rules : EnableRules) :
    rules.hasPager = true ↔ .pagerNext ∈ rules ∨ .pagerPrevious ∈ rules := by
  rw [hasPager, List.any_eq_true]
  constructor
  · rintro ⟨rule, hmem, hrule⟩
    cases rule with
    | pagerNext => exact .inl hmem
    | pagerPrevious => exact .inr hmem
    | formValidation => cases hrule
    | formSubmission => cases hrule
  · rintro (hmem | hmem)
    · exact ⟨_, hmem, rfl⟩
    · exact ⟨_, hmem, rfl⟩

namespace Layout

variable {layout : Layout} {id : NodeId}

/-- The verdict as a statement. -/
theorem verdict_eq_true : layout.verdict id = true ↔
    (∀ around, layout.tree.formAround id = some around →
      (layout.form around).value.isEnabled = true) ∧
    (.formSubmission ∈ layout.tree.rules id → (layout.form id).value.isSubmitted = false) ∧
    (.formValidation ∈ layout.tree.rules id → (layout.form id).value.isValid = true) ∧
    (.pagerNext ∈ layout.tree.rules id ∨ .pagerPrevious ∈ layout.tree.rules id →
      ∃ pager, layout.tree.pagerAround id = some pager ∧
        (.pagerNext ∈ layout.tree.rules id ∧ (layout.pager pager).value.hasNext = true ∨
          .pagerPrevious ∈ layout.tree.rules id ∧
            (layout.pager pager).value.hasPrevious = true)) := by
  have himplies : ∀ (a : Bool) (p : Prop), (a = false ∨ p) ↔ (a = true → p) := by
    intro a p
    cases a <;> simp
  simp only [verdict, Bool.and_eq_true, Bool.or_eq_true, Bool.not_eq_true', himplies,
    Option.all_eq_true, Option.any_eq_true, List.contains_iff_mem, EnableRules.hasPager_iff,
    and_assoc]

/-- **A form with enable rules always carries the value of its rules.** Let a layout be activated,
and let any calls, events from outside, and changes through the handles of forms and pagers follow,
of which none sets the enabled flag of the form `id` directly. If the form has rules, it is enabled
if and only if the form around it is, it is not submitted and valid where rules ask for that, and
the pager around it has a page in a direction that a rule names, if one names a direction.

**Proof sketch.** Setting up leaves every form with the verdict of its rules, and whatever happens
then keeps that: routing goes in steps, and each of these is a change of a form or of a pager with
all that follows. The verdict is the conjunction stated here. -/
theorem isEnabled_iff_rules {environment : Environment} {spec : Spec}
    (h : activate environment spec = .ok layout) (actions : List Action) {node : Node}
    {form : FormSpec} (hnode : (Tree.ofSpec spec).node? id = some node)
    (hform : node.view = .form form) (hrules : node.formRules form ≠ [])
    (hdirect : ∀ action ∈ actions, action.setsEnabledOf id = false) :
    ((layout.acts actions).form id).value.isEnabled = true ↔
      (∀ around, node.scope.form = some around →
        ((layout.acts actions).form around).value.isEnabled = true) ∧
      (.formSubmission ∈ node.formRules form →
        ((layout.acts actions).form id).value.isSubmitted = false) ∧
      (.formValidation ∈ node.formRules form →
        ((layout.acts actions).form id).value.isValid = true) ∧
      (.pagerNext ∈ node.formRules form ∨ .pagerPrevious ∈ node.formRules form →
        ∃ pager, node.scope.pager = some pager ∧
          (.pagerNext ∈ node.formRules form ∧
              ((layout.acts actions).pager pager).value.hasNext = true ∨
            .pagerPrevious ∈ node.formRules form ∧
              ((layout.acts actions).pager pager).value.hasPrevious = true)) := by
  obtain ⟨hsound, htree, hruled⟩ := sound_of_activate h
  obtain ⟨-, htree', hruled'⟩ := hsound.acts (hruled id) hdirect
  have htree'' := htree'.trans htree
  have hrules' : (layout.acts actions).tree.rules id = node.formRules form := by
    simp [htree'', Tree.rules, Tree.form?_eq_some.mpr ⟨hnode, hform⟩]
  have haround : (layout.acts actions).tree.formAround id = node.scope.form := by
    simp [htree'', Tree.formAround, hnode]
  have hpager : (layout.acts actions).tree.pagerAround id = node.scope.pager := by
    simp [htree'', Tree.pagerAround, hnode]
  rw [hruled' (by rwa [hrules']), verdict_eq_true, hrules', haround, hpager]

/-- A pager whose first page is a form with a nested form that has rules. -/
def questionnaire : Spec :=
  ⟨.pager ⟨"pages"⟩, [], [
    ⟨.form { id := "outer", formEnabled := [.formSubmission] }, [], [
      ⟨.form { id := "inner", submit := none, formEnabled := [.formValidation] }, [.pagerNext], [
        ⟨.input { id := "name", kind := .textInput, isRequired := true }, [], []⟩]⟩]⟩,
    ⟨.container, [], []⟩]⟩

/-- The rules of the nested form, once its input is answered, the form around it is submitted and
the pager has moved. -/
theorem isEnabled_iff_rules_inner :
    ∃ layout final : Layout, activate {} questionnaire = .ok layout ∧
      final = layout.acts [.call (.setAnswer 3 (.textInput (some "Ada"))), .changeForm 1 .submit,
        .updatePager 0 (·.moveTo 1)] ∧
      ((final.form 2).value.isEnabled = true ↔ (final.form 1).value.isEnabled = true ∧
        (final.form 2).value.isValid = true ∧ (final.pager 0).value.hasNext = true) := by
  have hactive : activate {} questionnaire = .ok (build {} (Tree.ofSpec questionnaire)).settle :=
    activate_eq_ok.mpr ⟨by decide, rfl⟩
  have hnode : (Tree.ofSpec questionnaire).node? 2 = some
      { view := .form { id := "inner", submit := none, formEnabled := [.formValidation] }
        enable := [.pagerNext], ancestors := [1, 0], children := [3], size := 2
        scope := ⟨some 1, some 0⟩ } := by decide
  refine ⟨_, _, hactive, rfl, ?_⟩
  refine (isEnabled_iff_rules hactive _ hnode rfl (by decide) (by decide)).trans ?_
  simp [Node.formRules, EnableRules.merge]

end Layout

end FormTree

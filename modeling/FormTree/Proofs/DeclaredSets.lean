import FormTree.Proofs.Layout.Interventions
import FormTree.Proofs.Layout.Run

set_option autoImplicit false

/-!
# Declared behaviors are sets

It does not matter in which order behaviors are declared, or how often, nor whether a form declares
a rule for its own flag or for its node: layouts that are declared alike cannot be told apart by
what comes back from them or by how they turn out.

## Main definitions

* `FormTree.Alteration.redeclared` — the nodes of another declaration in the place of those of a
  given one.

## Main results

* `FormTree.Layout.behaviors_are_sets` — layouts that are declared alike.
-/

namespace FormTree

namespace Alteration

/-- Nodes that come from one declaration are replaced by those of another one. -/
def redeclared (spec spec' : Spec) : Alteration where
  tree tree := if tree = Tree.ofSpec spec then Tree.ofSpec spec' else tree

variable {spec spec' : Spec}

lemma redeclared_ofSpec : (redeclared spec spec').tree (Tree.ofSpec spec) = Tree.ofSpec spec' :=
  if_pos rfl

/-- What is declared alike does not notice. -/
lemma isUnnoticed_redeclared (h : spec.Alike spec') : (redeclared spec spec').IsUnnoticed where
  alike tree := by
    unfold redeclared
    dsimp only
    split
    · next heq =>
      rw [heq]
      exact Tree.alike_ofSpec h
    · exact .refl tree
  isRecording _ := rfl
  report layout report := by
    have hsettings : (layout.alter (redeclared spec spec')).environment = layout.environment := rfl
    rw [Layout.report, hsettings, Layout.report]
    split <;> rfl

end Alteration

namespace Layout

/-- **Declared behaviors are sets.** Let two declarations be the same but for the order and the
repetitions in their lists of behaviors, and for rules that one declares for the own flag of a form
and the other for its node. Then both are refused for the same reason, or they are brought to life
as layouts that differ in these declarations only. From then on the same comes back from all that is
done to the two layouts, and after each intervention they are still the same but for the
declarations, and the same nodes are enabled.

**Proof sketch.** Each place where lists of behaviors are looked at asks for members only. So each
operation leads from the layout with the other nodes to what it leads to from the layout itself,
with the other nodes put in, and this goes on through deliveries, routing, activation and runs. -/
theorem behaviors_are_sets {spec spec' : Spec} (h : spec.Alike spec') (environment : Environment) :
    (∃ error, activate environment spec = .error error ∧
      activate environment spec' = .error error) ∨
    ∃ layout layout', activate environment spec = .ok layout ∧
      activate environment spec' = .ok layout' ∧
      layout' = { layout with tree := Tree.ofSpec spec' } ∧
      ∀ interventions : List Intervention,
        let later := (layout.play interventions).2
        let later' := (layout'.play interventions).2
        (layout'.play interventions).1 = (layout.play interventions).1 ∧
        later' = { later with tree := later'.tree } ∧
        ∀ id, later'.isEnabled id = later.isEnabled id := by
  have hunnoticed := Alteration.isUnnoticed_redeclared h
  have hactivate : activate environment spec' =
      (activate environment spec).map (·.alter (.redeclared spec spec')) :=
    activate_alter hunnoticed (fun _ => rfl) rfl environment Alteration.redeclared_ofSpec.symm
  cases hactive : activate environment spec with
  | error error =>
    rw [hactive] at hactivate
    exact .inl ⟨error, rfl, hactivate⟩
  | ok layout =>
    rw [hactive] at hactivate
    have htree : (layout.alter (.redeclared spec spec')).tree = Tree.ofSpec spec' := by
      rw [tree_alter, (sound_of_activate hactive).2.1, Alteration.redeclared_ofSpec]
    refine .inr ⟨layout, layout.alter (.redeclared spec spec'), rfl, hactivate, ?_, ?_⟩
    · rw [← htree]
      rfl
    · intro interventions later later'
      have hplay := play_alter hunnoticed (fun _ => rfl) interventions layout
      have hlater : later' = later.alter (.redeclared spec spec') := congrArg Prod.snd hplay
      refine ⟨?_, ?_, fun id => ?_⟩
      · rw [hplay]
        rfl
      · rw [hlater]
        rfl
      · rw [hlater, isEnabled_alter later hunnoticed]

/-- A form on the first of two pages, with rules for its flag, and with a button that looks at
it. -/
def ticketWith (formEnabled enable : EnableRules) (behaviors : List ClickBehavior)
    (buttonRules : EnableRules) : Spec :=
  ⟨.pager { id := "desk" }, [], [
    ⟨.form { id := "ticket", formEnabled }, enable, [
      ⟨.input { id := "seat", kind := .textInput, isRequired := true }, [], []⟩,
      ⟨.button { id := "buy", behaviors }, buttonRules, []⟩]⟩,
    ⟨.container, [], []⟩]⟩

/-- Most of the rules are those of the form's node. -/
def ticket : Spec :=
  ticketWith [.formSubmission] [.pagerNext, .formSubmission] [.dismiss, .formSubmit]
    [.formValidation]

/-- All of the rules are for the form's own flag, and what the button does is listed in another
order and repeated. -/
def ticketRestated : Spec :=
  ticketWith [.pagerNext, .formSubmission] [] [.formSubmit, .dismiss, .formSubmit]
    [.formValidation, .formValidation]

lemma alike_ticket : ticket.Alike ticketRestated := by
  refine .node (.refl _ _) (.cons (.node (.form ?_) ?_) (.cons (.node (.refl _ _) .nil) .nil))
  · intro rule
    cases rule <;> simp
  · refine .cons (.node (.refl _ _) .nil) (.cons (.node (.button ?_ ?_) .nil) .nil)
    · intro behavior
      cases behavior <;> simp
    · intro rule
      simp

/-- The seat is chosen and the ticket bought: both layouts are dismissed, and say the same. -/
theorem behaviors_are_sets_ticket :
    ∃ layout layout' : Layout, activate {} ticket = .ok layout ∧
      activate {} ticketRestated = .ok layout' ∧
      let interventions : List Intervention :=
        [.call (.click 3), .call (.setAnswer 2 (.textInput (some "12A"))), .call (.click 3)]
      let later := (layout.play interventions).2
      let later' := (layout'.play interventions).2
      (later.reports.length = 2 ∧ later.dismissal = some ⟨some "buy", false⟩ ∧
        later.isEnabled 3 = false) ∧
      (layout'.play interventions).1 = (layout.play interventions).1 ∧
      later'.reports = later.reports ∧ later'.dismissal = later.dismissal ∧
      later'.isEnabled 3 = later.isEnabled 3 := by
  have hactive : activate {} ticket = .ok (build {} (Tree.ofSpec ticket)).settle :=
    activate_eq_ok.mpr ⟨by decide, rfl⟩
  rcases behaviors_are_sets alike_ticket {} with
    ⟨error, herror, -⟩ | ⟨layout, layout', hlayout, hlayout', -, hplay⟩
  · rw [hactive] at herror
    cases herror
  · obtain rfl := Except.ok.inj (hactive.symm.trans hlayout)
    obtain ⟨hreplies, hsame, henabled⟩ := hplay _
    refine ⟨_, layout', hlayout, hlayout', by decide +kernel, hreplies, ?_, ?_, henabled 3⟩
    · rw [hsame]
    · rw [hsame]

end Layout

end FormTree

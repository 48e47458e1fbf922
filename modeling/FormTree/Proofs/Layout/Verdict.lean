import FormTree.Layout.Cascade
import FormTree.Proofs.Tree.Links

set_option autoImplicit false

/-!
# What enable rules come to

The evaluation of a form's enable rules distinguishes whether rules on forms and rules on pagers
apply. For a form that has rules, in a tree that passed the checks, it comes to one conjunction
over the states of the form, of the form around it and of the pager around it, and the flag that
the form carries has no part in it.

## Main definitions

* `FormTree.Tree.rules`, `FormTree.Tree.isChild` — the rules of a form, and whether it leaves
  submission to the form around it.
* `FormTree.Tree.WellFormed` — a tree that passed the checks of activation.
* `FormTree.Layout.verdict` — the conjunction.
* `FormTree.Layout.Ruled` — a form with rules carries their verdict.

## Main results

* `FormTree.EnableRules.evaluate_eq` — the evaluation of rules as one conjunction.
* `FormTree.Layout.rulesHold_eq_verdict` — what the rules of a form come to.
* `FormTree.Tree.wellFormed_of_violation?` — the checks of activation.
-/

namespace FormTree

/-! ## Rules as one conjunction -/

namespace EnableRules

variable (rules : EnableRules)

/-- A rule that is declared is found. -/
lemma contains_iff (rule : EnableBehavior) : rules.contains rule = true ↔ rule ∈ rules := by
  simp

/-- Without rules on the form none of the two is declared. -/
lemma contains_of_hasForm_eq_false (h : rules.hasForm = false) :
    rules.contains .formSubmission = false ∧ rules.contains .formValidation = false := by
  simp only [hasForm, List.any_eq_false] at h
  constructor <;> rw [Bool.eq_false_iff, ne_eq, contains_iff] <;> intro hmem <;>
    exact h _ hmem rfl

/-- Rules that are there look at the form or at the pager. -/
lemma hasPager_of_hasForm_eq_false (hne : rules ≠ []) (h : rules.hasForm = false) :
    rules.hasPager = true := by
  obtain ⟨rule, rest, rfl⟩ := List.exists_cons_of_ne_nil hne
  cases rule <;> simp_all [hasForm, hasPager, EnableBehavior.isForm, EnableBehavior.isPager]

/-- What the rules on the form ask for, where there are none included. -/
lemma formRule_getD (isValid isSubmitted : Bool) :
    (rules.formRule isValid isSubmitted).getD true =
      ((!rules.contains .formSubmission || !isSubmitted) &&
        (!rules.contains .formValidation || isValid)) := by
  unfold formRule
  cases h : rules.hasForm with
  | true => simp
  | false =>
    obtain ⟨hs, hv⟩ := rules.contains_of_hasForm_eq_false h
    rw [hs, hv]
    simp

/-- **Rules as one conjunction.** Rules that are there, and that have a pager to look at if they
look at one, do not ask for the current flag. -/
theorem evaluate_eq (parentEnabled isValid isSubmitted current : Bool) (pager : Option PagerState)
    (hne : rules ≠ []) (hpager : rules.hasPager = true → pager.isSome) :
    rules.evaluate parentEnabled (some (isValid, isSubmitted)) pager current =
      (parentEnabled && ((!rules.contains .formSubmission || !isSubmitted) &&
        (!rules.contains .formValidation || isValid)) &&
        (!rules.hasPager || pager.any fun state => rules.contains .pagerNext && state.hasNext ||
          rules.contains .pagerPrevious && state.hasPrevious)) := by
  rw [← formRule_getD]
  cases hf : rules.hasForm with
  | true =>
    cases pager with
    | none =>
      have hp : rules.hasPager = false := by simpa using hpager
      simp [evaluate, formRule, hf, hp]
    | some state =>
      cases hp : rules.hasPager <;> simp [evaluate, formRule, pagerRule, hf, hp]
  | false =>
    have hp := rules.hasPager_of_hasForm_eq_false hne hf
    obtain ⟨state, rfl⟩ := Option.isSome_iff_exists.mp (hpager hp)
    simp [evaluate, formRule, pagerRule, hf, hp]

end EnableRules

/-! ## Trees that passed the checks -/

namespace Tree

/-- The enable rules of the form `id`, its own and those of its node. -/
def rules (tree : Tree) (id : NodeId) : EnableRules :=
  match tree.form? id with
  | some (node, spec) => node.formRules spec
  | none => []

/-- The node `id` is a form that leaves submission to the form around it. -/
def isChild (tree : Tree) (id : NodeId) : Bool := (tree.form? id).any (·.2.isChild)

/-- A tree that passed the checks of activation. -/
structure WellFormed (tree : Tree) : Prop where
  /-- Every node hangs below an earlier one. -/
  linked : tree.Linked
  /-- A nested form has a form around it. -/
  isSome_formAround {id : NodeId} : tree.isChild id = true → (tree.formAround id).isSome
  /-- Rules on pagers have a pager to look at. -/
  isSome_pagerAround {id : NodeId} :
    (tree.rules id).hasPager = true → (tree.pagerAround id).isSome

/-- A nested form is a form. -/
theorem isChild_of_form? {tree : Tree} {id : NodeId} {node : Node} {spec : FormSpec}
    (h : tree.form? id = some (node, spec)) : tree.isChild id = spec.isChild := by
  simp [isChild, h]

theorem isSome_form?_of_isChild {tree : Tree} {id : NodeId} (h : tree.isChild id = true) :
    (tree.form? id).isSome := by
  unfold isChild at h
  cases hf : tree.form? id with
  | none => simp [hf] at h
  | some _ => rfl

/-- A form that has rules is a form. -/
theorem isSome_form?_of_rules {tree : Tree} {id : NodeId} (h : tree.rules id ≠ []) :
    (tree.form? id).isSome := by
  unfold rules at h
  cases hf : tree.form? id with
  | none => simp [hf] at h
  | some _ => rfl

/-- No node of a tree without violations violates a check. -/
theorem violation?_node {tree : Tree} (h : tree.violation? = none) {id : NodeId} {node : Node}
    (hn : tree.node? id = some node) : node.violation? id = none := by
  simp only [violation?, List.findSome?_eq_none_iff] at h
  have := h id (List.mem_range.mpr (lt_size hn))
  simpa [hn] using this

/-- **A linked tree without violations is well-formed.** -/
theorem wellFormed_of_violation? {tree : Tree} (linked : tree.Linked)
    (h : tree.violation? = none) : tree.WellFormed where
  linked := linked
  isSome_formAround {id} hchild := by
    obtain ⟨⟨node, spec⟩, hf⟩ := Option.isSome_iff_exists.mp (isSome_form?_of_isChild hchild)
    obtain ⟨hn, hv⟩ := form?_eq_some.mp hf
    have hnode := violation?_node h hn
    have hc : spec.isChild = true := by simpa [isChild, hf] using hchild
    cases hs : node.scope.form with
    | some form => simp [formAround, hn, hs]
    | none =>
      simp only [Node.violation?, hv, hc, hs] at hnode
      split at hnode <;> simp at hnode
  isSome_pagerAround {id} hpager := by
    have hne : tree.rules id ≠ [] := by
      intro hnil
      simp [hnil, EnableRules.hasPager] at hpager
    obtain ⟨⟨node, spec⟩, hf⟩ := Option.isSome_iff_exists.mp (isSome_form?_of_rules hne)
    obtain ⟨hn, hv⟩ := form?_eq_some.mp hf
    have hnode := violation?_node h hn
    have hc : (node.formRules spec).hasPager = true := by simpa [rules, hf] using hpager
    cases hs : node.scope.pager with
    | some pager => simp [pagerAround, hn, hs]
    | none =>
      simp only [Node.violation?, hv, hc, hs] at hnode
      split at hnode
      · cases hnode
      · split at hnode
        · cases hnode
        · next hview =>
          split at hview <;> simp at hview

end Tree

/-! ## The verdict on a form -/

namespace Layout

/-- What the rules of the form `id` come to. Everything declared must hold: the form around it is
enabled, it is not submitted, it is valid, and its pager has a page in a declared direction. -/
def verdict (layout : Layout) (id : NodeId) : Bool :=
  let rules := layout.tree.rules id
  let state := (layout.form id).value
  ((layout.tree.formAround id).all fun form => (layout.form form).value.isEnabled) &&
    ((!rules.contains .formSubmission || !state.isSubmitted) &&
      (!rules.contains .formValidation || state.isValid)) &&
    (!rules.hasPager || (layout.tree.pagerAround id).any fun pager =>
      rules.contains .pagerNext && (layout.pager pager).value.hasNext ||
        rules.contains .pagerPrevious && (layout.pager pager).value.hasPrevious)

/-- A form with rules carries their verdict. -/
def Ruled (layout : Layout) (id : NodeId) : Prop :=
  layout.tree.rules id ≠ [] → (layout.form id).value.isEnabled = layout.verdict id

/-- **What the rules of a form come to is their verdict**, if there are any. -/
theorem rulesHold_eq_verdict {layout : Layout} (wf : layout.tree.WellFormed) {id : NodeId}
    (hne : layout.tree.rules id ≠ []) : layout.rulesHold id = layout.verdict id := by
  obtain ⟨⟨node, spec⟩, hf⟩ := Option.isSome_iff_exists.mp (Tree.isSome_form?_of_rules hne)
  obtain ⟨hn, hv⟩ := Tree.form?_eq_some.mp hf
  have hrules : layout.tree.rules id = node.formRules spec := by simp [Tree.rules, hf]
  have hform : layout.tree.formAround id = node.scope.form := by simp [Tree.formAround, hn]
  have hpager : layout.tree.pagerAround id = node.scope.pager := by simp [Tree.pagerAround, hn]
  have happlies : (layout.tree.rules id).hasPager = true → (layout.tree.pagerAround id).isSome :=
    wf.isSome_pagerAround
  unfold rulesHold verdict
  rw [hrules] at hne happlies ⊢
  rw [hform]
  rw [hpager] at happlies ⊢
  simp only [hn, hv]
  rw [EnableRules.evaluate_eq _ _ _ _ _ _ hne (by simpa using happlies), Option.any_map]

/-- The verdict looks at nothing but the enabled flag of the form around, at validity and
submission of the form itself, and at the pager around if there are rules on pagers. -/
theorem verdict_congr {layout layout' : Layout} {id : NodeId} (htree : layout'.tree = layout.tree)
    (haround : ∀ form, layout.tree.formAround id = some form →
      (layout'.form form).value.isEnabled = (layout.form form).value.isEnabled)
    (hvalid : (layout'.form id).value.isValid = (layout.form id).value.isValid)
    (hsubmitted : (layout'.form id).value.isSubmitted = (layout.form id).value.isSubmitted)
    (hpager : (layout.tree.rules id).hasPager = true → ∀ pager,
      layout.tree.pagerAround id = some pager →
        (layout'.pager pager).value = (layout.pager pager).value) :
    layout'.verdict id = layout.verdict id := by
  unfold verdict
  rw [htree]
  dsimp only
  rw [hvalid, hsubmitted]
  cases hrules : (layout.tree.rules id).hasPager <;> cases hf : layout.tree.formAround id <;>
    cases hp : layout.tree.pagerAround id <;> simp_all

/-- Whether a form carries its verdict is up to the values of the form itself, of the form around
it and of the pagers. -/
theorem Ruled.of_values {layout layout' : Layout} {id : NodeId} (h : layout.Ruled id)
    (htree : layout'.tree = layout.tree)
    (hself : (layout'.form id).value = (layout.form id).value)
    (haround : ∀ form, layout.tree.formAround id = some form →
      (layout'.form form).value = (layout.form form).value)
    (hpagers : ∀ pager, (layout'.pager pager).value = (layout.pager pager).value) :
    layout'.Ruled id := by
  intro hne
  rw [htree] at hne
  rw [hself, h hne]
  refine (verdict_congr htree (fun form hform => ?_) ?_ ?_ fun _ pager _ => hpagers pager).symm
  · rw [haround form hform]
  · rw [hself]
  · rw [hself]

end Layout

end FormTree

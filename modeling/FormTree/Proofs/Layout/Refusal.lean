import FormTree.Proofs.Layout.Introducing
import FormTree.Proofs.Tree.Malformed

set_option autoImplicit false

/-!
# Refused declarations

A declared layout is refused for the first fault of its declarations. Activation checks the whole
tree before it sets up the first node; nothing would come out differently if it checked one node
after the other, each when it is its turn to be set up, and broke off at the first fault. What has
been set up by then waits in the outbox, and nothing has been reported.

## Main definitions

* `FormTree.Layout.construct` — setting up the nodes of a tree as far as the first fault.
* `FormTree.Layout.Silent` — reports and attribute updates are the same as before.

## Main results

* `FormTree.Layout.activate_eq_construct` — activation is the same as to set up the nodes as far as
  the first fault, and to settle if there is none.
* `FormTree.Layout.activate_refuses_first_fault` — activation fails for the first fault, silently.
-/

namespace FormTree

/-- What is wrong with the node `id` in itself, before it is set up: every check but the last one,
which is made once the node is set up. -/
def Node.refusal? (node : Node) (id : NodeId) : Option LayoutError :=
  [Check.children, .parentForm, .formPager, .pages].findSome? (node.complaint? id)

/-- The first violation of a node shows before the node is set up, or once it is. -/
theorem Node.violation?_eq_or (node : Node) (id : NodeId) :
    node.violation? id = (node.refusal? id).or (node.complaint? id .rulesPager) := by
  have hall : Check.all = [.children, .parentForm, .formPager, .pages] ++ [.rulesPager] := rfl
  rw [violation?_eq_findSome?, refusal?, hall, List.findSome?_append, List.findSome?_singleton]

namespace Layout

/-! ## Checking one node after the other -/

/-- Set up the node `id`, unless it fails a check; an error comes with what is set up by then. -/
def setUpNext (layout : Layout) (id : NodeId) : Except (LayoutError × Layout) Layout :=
  match layout.tree.node? id with
  | none => .ok layout
  | some node =>
    match node.refusal? id with
    | some error => .error (error, layout)
    | none =>
      match node.complaint? id .rulesPager with
      | some error => .error (error, layout.setUp id)
      | none => .ok (layout.setUp id)

/-- Set up the nodes of a tree, up to the first one that fails a check. -/
def construct (environment : Environment) (tree : Tree) :
    Except (LayoutError × Layout) Layout :=
  tree.ids.foldlM setUpNext { tree, environment }

/-! ## Setting up reports nothing -/

/-- The second layout is one of the same tree, with the same reports and attribute updates. -/
structure Silent (layout layout' : Layout) : Prop where
  tree : layout'.tree = layout.tree
  reports : layout'.reports = layout.reports
  updates : layout'.updates = layout.updates

namespace Silent

variable {layout layout' layout'' : Layout}

theorem refl (layout : Layout) : Silent layout layout := ⟨rfl, rfl, rfl⟩

theorem trans (h : Silent layout layout') (h' : Silent layout' layout'') :
    Silent layout layout'' :=
  ⟨h'.tree.trans h.tree, h'.reports.trans h.reports, h'.updates.trans h.updates⟩

end Silent

variable (layout : Layout) (id : NodeId)

/-- The change of a form reports nothing by itself. -/
theorem silent_updateForm (depth : Nat) (intent : FormIntent) :
    Silent layout (updateForm depth id intent layout) :=
  updateForm_induction (fun _ _ _ h => ⟨h.tree, h.reports, h.updates⟩)
    (fun _ _ _ _ h => ⟨h.tree, h.reports, h.updates⟩)
    (fun _ _ _ h => ⟨h.tree, h.reports, h.updates⟩)
    (fun _ _ _ h => ⟨h.tree, h.reports, h.updates⟩) depth id intent layout (.refl layout)

/-- Setting up a form reports nothing. -/
theorem silent_setUpForm (node : Node) (spec : FormSpec) :
    Silent layout (layout.setUpForm id node spec) := by
  obtain ⟨tied, htied⟩ : ∃ tied, ((layout.raise id spec).setUpInheritance id spec
    node.scope).setUpRules id (node.formRules spec) node.scope = tied := ⟨_, rfl⟩
  have hties : Silent layout tied := by
    rw [← htied]
    exact setUpTies_induction (P := Silent layout)
      (fun _ _ _ _ h => ⟨h.tree, h.reports, h.updates⟩)
      (fun _ _ h => ⟨h.tree, h.reports, h.updates⟩)
      (fun _ _ h => h.trans (silent_updateForm ..)) ⟨rfl, rfl, rfl⟩
  rw [setUpForm_eq htied]
  split <;> exact ⟨hties.tree, hties.reports, hties.updates⟩

/-- **Setting up a node reports nothing.** -/
theorem silent_setUp : Silent layout (layout.setUp id) := by
  unfold setUp
  split
  · exact .refl layout
  · split
    · exact ⟨rfl, rfl, rfl⟩
    · exact silent_setUpForm layout id _ _
    · exact ⟨rfl, rfl, rfl⟩
    all_goals exact .refl layout

/-! ## Breaking off -/

/-- A node is set up if it has no violation. -/
theorem setUpNext_of_none (h : (layout.tree.node? id).bind (·.violation? id) = none) :
    layout.setUpNext id = .ok (layout.setUp id) := by
  unfold setUpNext
  cases hnode : layout.tree.node? id with
  | none => rw [setUp, hnode]
  | some node =>
    rw [hnode, Option.bind_some, Node.violation?_eq_or, Option.or_eq_none_iff] at h
    simp only [h.1, h.2]

/-- A violation is what setting up breaks off with, silently. -/
theorem setUpNext_of_some {error : LayoutError}
    (h : (layout.tree.node? id).bind (·.violation? id) = some error) :
    ∃ reached, layout.setUpNext id = .error (error, reached) ∧ Silent layout reached := by
  obtain ⟨node, hnode, herror⟩ := Option.bind_eq_some_iff.mp h
  rw [Node.violation?_eq_or, Option.or_eq_some_iff] at herror
  unfold setUpNext
  rw [hnode]
  rcases herror with hrefusal | ⟨hnone, hcomplaint⟩
  · exact ⟨layout, by simp only [hrefusal], .refl layout⟩
  · exact ⟨layout.setUp id, by simp only [hnone, hcomplaint], silent_setUp layout id⟩

/-- Setting up the listed nodes breaks off at the first violation, if there is one. -/
theorem foldlM_setUpNext (ids : List NodeId) (layout : Layout) :
    match ids.findSome? fun id => (layout.tree.node? id).bind (·.violation? id) with
    | none => ids.foldlM setUpNext layout = .ok (ids.foldl setUp layout)
    | some error => ∃ reached, ids.foldlM setUpNext layout = .error (error, reached) ∧
        Silent layout reached := by
  induction ids generalizing layout with
  | nil => rfl
  | cons id rest ih =>
    rw [List.findSome?_cons, List.foldlM_cons, List.foldl_cons]
    cases hviolation : (layout.tree.node? id).bind (·.violation? id) with
    | some error =>
      obtain ⟨reached, hbreak, hsilent⟩ := setUpNext_of_some layout id hviolation
      exact ⟨reached, by rw [hbreak]; rfl, hsilent⟩
    | none =>
      have hsilent := silent_setUp layout id
      have hrest := ih (layout.setUp id)
      rw [hsilent.tree] at hrest
      rw [setUpNext_of_none layout id hviolation]
      dsimp only
      split
      · next hnone =>
        rw [hnone] at hrest
        exact hrest
      · next error hsome =>
        rw [hsome] at hrest
        obtain ⟨reached, hbreak, hlater⟩ := hrest
        exact ⟨reached, hbreak, hsilent.trans hlater⟩

/-- **Activation is the same as to set up the nodes as far as the first fault**, and to settle if
there is none. -/
theorem activate_eq_construct (environment : Environment) (spec : Spec) :
    activate environment spec =
      match construct environment (Tree.ofSpec spec) with
      | .error (error, _) => .error error
      | .ok layout => .ok layout.settle := by
  have h := foldlM_setUpNext (Tree.ofSpec spec).ids { tree := Tree.ofSpec spec, environment }
  unfold activate construct
  dsimp only
  cases hviolation : (Tree.ofSpec spec).violation? with
  | none =>
    rw [Tree.violation?] at hviolation
    rw [hviolation] at h
    rw [h]
    rfl
  | some error =>
    rw [Tree.violation?] at hviolation
    rw [hviolation] at h
    obtain ⟨reached, hbreak, -⟩ := h
    rw [hbreak]

/-- Activation fails with the first violation. -/
theorem activate_eq_error {environment : Environment} {spec : Spec} {error : LayoutError} :
    activate environment spec = .error error ↔ (Tree.ofSpec spec).violation? = some error := by
  unfold activate
  cases hviolation : (Tree.ofSpec spec).violation? with
  | none => simp [hviolation]
  | some other => simp [hviolation]

/-- **Activation fails exactly on malformed declarations, for their first fault.** A declared
layout is activated if each of its nodes is as it should be. Otherwise activation fails with the
error of the first check that is failed by the first node that fails one; and where setting up
breaks off with it, nothing has been reported and no attribute update has been handed out. -/
theorem activate_refuses_first_fault (environment : Environment) (spec : Spec) :
    ((∃ layout, activate environment spec = .ok layout) ↔
      ∀ site ∈ spec.sites [], site.Passes) ∧
    (∀ error, activate environment spec = .error error ↔ FirstFault (spec.sites []) error) ∧
    (∀ error, activate environment spec = .error error →
      ∃ reached, construct environment (Tree.ofSpec spec) = .error (error, reached) ∧
        reached.reports = [] ∧ reached.updates = []) := by
  have hok : (∃ layout, activate environment spec = .ok layout) ↔
      (Tree.ofSpec spec).violation? = none := by
    constructor
    · rintro ⟨layout, h⟩
      exact (activate_eq_ok.mp h).1
    · intro hnone
      exact ⟨_, activate_eq_ok.mpr ⟨hnone, rfl⟩⟩
  refine ⟨hok.trans (Tree.violation?_eq_none_iff spec),
    fun error => activate_eq_error.trans (Tree.violation?_eq_some_iff spec error), ?_⟩
  intro error hrefused
  have hviolation := activate_eq_error.mp hrefused
  have h := foldlM_setUpNext (Tree.ofSpec spec).ids { tree := Tree.ofSpec spec, environment }
  rw [Tree.violation?] at hviolation
  rw [hviolation] at h
  obtain ⟨reached, hbreak, hsilent⟩ := h
  exact ⟨reached, hbreak, hsilent.reports, hsilent.updates⟩

/-- A label with a child and with a rule on pages is refused for the child; that a pager without
pages follows it makes no difference. -/
example : activate {} ⟨.container, [], [⟨.label "", [.pagerNext], [⟨.container, [], []⟩]⟩,
    ⟨.pager ⟨"tour"⟩, [], []⟩]⟩ = .error (.unexpectedChildren 1 .label) := rfl

end Layout

end FormTree

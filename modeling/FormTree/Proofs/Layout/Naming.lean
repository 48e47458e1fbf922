import FormTree.Proofs.LastWord
import FormTree.Proofs.Layout.Climb
import FormTree.Proofs.Layout.Logging
import FormTree.Proofs.Layout.Telling

set_option autoImplicit false

/-!
# What forms and pagers are

Forms and pagers stay what they are declared to be: the contexts that they give to reports always
name them as their declarations do.

## Main definitions

* `FormTree.FormSpec.Names` — a context names the form as it is declared.
* `FormTree.Layout.NamesAll` — all forms and pagers are named so.

## Main results

* `FormTree.Layout.NamesAll.changeForm`, `FormTree.Layout.NamesAll.changePager` — changes of forms
  and pagers keep to the names.
* `FormTree.Layout.namesAll_build` — a layout starts with them.
-/

namespace FormTree

/-- The context names the form as it is declared. -/
structure FormSpec.Names (spec : FormSpec) (context : FormContext) : Prop where
  identifier : context.identifier = spec.id
  formType : context.formType = spec.formType.name
  responseType : context.responseType = spec.responseType

/-- A change of a form leaves it what it is. -/
theorem FormSpec.Names.reduce {spec : FormSpec} {state : FormState} (h : spec.Names state.context)
    (intent : FormIntent) : spec.Names (state.reduce intent).context := by
  obtain ⟨hidentifier, htype, hresponse⟩ := FormState.identity_reduce state intent
  exact ⟨hidentifier.trans h.identifier, (congrArg FormType.name htype).trans h.formType,
    hresponse.trans h.responseType⟩

/-- What a form is belongs to its gist. -/
lemma FormSpec.Names.of_gist {spec : FormSpec} {state state' : FormState}
    (h : spec.Names state.context) (hgist : state'.gist = state.gist) :
    spec.Names state'.context where
  identifier := (congrArg FormState.identifier hgist :).trans h.identifier
  formType := (congrArg (·.formType.name) hgist :).trans h.formType
  responseType := (congrArg FormState.responseType hgist :).trans h.responseType

/-- A move of a pager leaves it what it is. -/
lemma PagerState.identifier_reduce (state : PagerState) (intent : PagerIntent) :
    (state.reduce intent).identifier = state.identifier := by
  cases intent <;> rfl

namespace Layout

variable {layout layout' : Layout} {id : NodeId}

/-- All forms and pagers are named as they are declared. -/
structure NamesAll (layout : Layout) : Prop where
  forms : ∀ form node spec, layout.tree.form? form = some (node, spec) →
    spec.Names (layout.form form).value.context
  pagers : ∀ pager spec, layout.tree.view? pager = some (.pager spec) →
    (layout.pager pager).value.identifier = spec.id

namespace NamesAll

/-- Names are kept by the containers. -/
lemma congr (h : layout.NamesAll) (htree : layout'.tree = layout.tree)
    (hforms : layout'.forms = layout.forms) (hpagers : layout'.pagers = layout.pagers) :
    layout'.NamesAll where
  forms form node spec hform := by
    rw [Layout.form, hforms]
    exact h.forms form node spec (htree ▸ hform)
  pagers pager spec hview := by
    rw [Layout.pager, hpagers]
    exact h.pagers pager spec (htree ▸ hview)

/-- **A change of a form keeps to the names.** -/
theorem changeForm (h : layout.NamesAll) (hsound : layout.Sound)
    (hsome : (layout.tree.form? id).isSome) (intent : FormIntent) :
    (layout.changeForm id intent).NamesAll where
  forms form node spec hform := by
    rw [(hsound.change hsome intent).tree_eq] at hform
    have hgist := hsound.gist_changeForm hsome intent form
    split at hgist
    · next heq =>
      subst heq
      have hreduced : spec.Names (((layout.form id).value.reduce intent).reporting
          (layout.tree.isChild id)).context := (h.forms id node spec hform).reduce intent
      exact hreduced.of_gist hgist
    · exact (h.forms form node spec hform).of_gist hgist
  pagers pager spec hview := by
    rw [(hsound.change hsome intent).tree_eq] at hview
    rw [Layout.pager, Layout.changeForm, pagers_updateForm]
    exact h.pagers pager spec hview

/-- **A move of a pager keeps to the names.** -/
theorem changePager (h : layout.NamesAll) (hsound : layout.Sound)
    (hpager : layout.tree.isPager id = true) (intent : PagerIntent) :
    (layout.changePager id intent).NamesAll where
  forms form node spec hform := by
    have hafter := hsound.aftermath_changePager hpager intent
    rw [hafter.tree_eq] at hform
    exact (h.forms form node spec hform).of_gist (hafter.follows form).gist
  pagers pager spec hview := by
    rw [(hsound.aftermath_changePager hpager intent).tree_eq] at hview
    refine (pagerPlace id).flush_induction (reactPager (updateForm layout.depth))
      (P := fun world => (world.pager pager).value.identifier = spec.id)
      (fun observer snapshot world hworld => ?_) (fun world change hkeeps hworld => ?_) ?_
    · unfold reactPager
      split
      · exact hworld
      · rw [refresh, Layout.pager, pagers_updateForm]
        exact hworld
      · exact hworld
    · rw [pager_modify]
      split
      · next heq => rw [(hkeeps _).1, heq, hworld]
      · exact hworld
    · rw [commitPager, pager_modify]
      split
      · next heq =>
        rw [Observable.value_commit, PagerState.identifier_reduce, heq]
        exact h.pagers pager spec hview
      · exact h.pagers pager spec hview

end NamesAll

/-! ## Setting up -/

/-- A pager keeps its name while other nodes are set up, and gets it when it is set up itself. -/
lemma identifier_setUp {environment : Environment} {tree : Tree} {bound : NodeId}
    (h : Assembled environment tree bound layout) (wf : tree.WellFormed) {pager : NodeId}
    {spec : PagerSpec} (hview : tree.view? pager = some (.pager spec))
    (hbefore : pager ≠ bound → (layout.pager pager).value.identifier = spec.id) :
    ((layout.setUp bound).pager pager).value.identifier = spec.id := by
  unfold Layout.setUp
  rw [h.tree_eq]
  cases hnode : tree.node? bound with
  | none =>
    refine hbefore ?_
    rintro rfl
    simp [Tree.view?, hnode] at hview
  | some node =>
    have hbound : tree.view? bound = some node.view := by simp [Tree.view?, hnode]
    have hother : (∀ spec, node.view ≠ .pager spec) →
        (layout.pager pager).value.identifier = spec.id := fun hkind => hbefore fun heq => by
      rw [heq, hbound] at hview
      exact hkind spec (Option.some.inj hview)
    dsimp only
    cases hv : node.view with
    | form form =>
      have hsetUp := h.formSetUp wf (Tree.form?_eq_some.mpr ⟨hnode, hv⟩)
      show ((layout.setUpForm bound node form).pager pager).value.identifier = _
      rw [hsetUp.pager, Observable.value_watchAll]
      exact hother fun _ heq => by cases hv.symm.trans heq
    | pager own =>
      show ((layout.setUpPager bound own node.children.length).pager pager).value.identifier = _
      rw [pager_setUpPager]
      split
      · next heq =>
        rw [← heq, hbound, hv] at hview
        cases hview
        rfl
      · next hne => exact hbefore (Ne.symm hne)
    | _ => exact hother fun _ heq => by cases hv.symm.trans heq

/-- **A layout starts with forms and pagers that are named as they are declared.** -/
theorem namesAll_build (environment : Environment) {tree : Tree} (wf : tree.WellFormed) :
    (build environment tree).NamesAll where
  forms form node spec hform := by
    have hbuild := assembled_build environment wf
    rw [hbuild.tree_eq] at hform
    have hlt := Tree.lt_size_of_form? (by rw [hform]; rfl : (tree.form? form).isSome)
    rw [(hbuild.fresh form node spec hlt hform).value]
    exact ⟨rfl, rfl, rfl⟩
  pagers pager spec hview := by
    rw [(assembled_build environment wf).tree_eq] at hview
    have hupTo : ∀ bound ≤ tree.size, pager < bound →
        ((setUpTo environment tree bound).pager pager).value.identifier = spec.id := by
      intro bound
      induction bound with
      | zero => exact fun _ hlt => absurd hlt (Nat.not_lt_zero _)
      | succ bound ih =>
        intro hle hlt
        rw [setUpTo, List.range_succ, List.foldl_append]
        exact identifier_setUp (assembled_upTo environment wf (Nat.le_of_succ_le hle)) wf hview
          fun hne => ih (Nat.le_of_succ_le hle) (lt_of_lt_succ hlt hne)
    obtain ⟨node, hnode, -⟩ := Option.map_eq_some_iff.mp hview
    exact hupTo tree.size (Nat.le_refl _) (Tree.lt_size hnode)

end Layout

end FormTree

import FormTree.Proofs.Tree.Links
import Mathlib.Data.List.Forall2
import Mathlib.Tactic.ByContra

set_option autoImplicit false

/-!
# Malformed declarations

What a declared tree has to look like, said of the declarations alone: what each of its nodes is,
what is declared for it, and what it stands in. A node of the tree that the declarations are listed
as carries all that the checks look at, so that the first violation of the list is the first fault
of the declarations.

## Main definitions

* `FormTree.Site`, `FormTree.Spec.sites` — a declared node with the views around it, and all of
  them in tree order.
* `FormTree.Site.Passes` — what is asked of a declared node.
* `FormTree.Site.Fault`, `FormTree.FirstFault` — a check that a declared node fails, and the first
  one in a list of nodes.

## Main results

* `FormTree.Spec.matches_nodes` — the nodes of a tree are its declarations, listed in tree order.
* `FormTree.Tree.violation?_eq_none_iff`, `FormTree.Tree.violation?_eq_some_iff` — the first
  violation is the first fault.
-/

namespace FormTree

/-! ## Declared nodes -/

/-- A declared node with what it stands in. -/
structure Site where
  /-- What the node is declared to be. -/
  view : View
  /-- The rules declared for the node's enabled flag. -/
  enable : EnableRules
  /-- The declared children. -/
  children : List Spec
  /-- The views around the node, nearest first. -/
  above : List View

namespace Spec

mutual

/-- The nodes of a declared tree that stands in `above`, a node before those below it. -/
def sites (above : List View) : Spec → List Site
  | ⟨view, enable, children⟩ =>
    { view, enable, children, above } :: sitesAll (view :: above) children
termination_by structural spec => spec

/-- The nodes of declared siblings that stand in `above`. -/
def sitesAll (above : List View) : List Spec → List Site
  | [] => []
  | spec :: rest => spec.sites above ++ sitesAll above rest
termination_by structural specs => specs

end

end Spec

/-! ## Checks -/

/-- What is checked about a declared node. -/
inductive Check where
  /-- Only containers, forms and pagers have children. -/
  | children
  /-- A form that does not submit by itself is in a form. -/
  | parentForm
  /-- A form whose rules look at a pager is in a pager. -/
  | formPager
  /-- A pager has a page. -/
  | pages
  /-- A node whose rules look at a pager is in a pager. -/
  | rulesPager
  deriving DecidableEq

namespace Check

/-- The checks in the order in which they are made. -/
def all : List Check := [.children, .parentForm, .formPager, .pages, .rulesPager]

/-- The place of a check in this order. -/
def place : Check → Nat
  | .children => 0
  | .parentForm => 1
  | .formPager => 2
  | .pages => 3
  | .rulesPager => 4

/-- Every check is listed. -/
theorem mem_all (check : Check) : check ∈ all := by
  cases check <;> decide

/-- The checks are listed in their order. -/
theorem pairwise_all : all.Pairwise (·.place < ·.place) := by
  decide

end Check

namespace Site

/-- The node stands in a node of the given kind, directly or not. -/
def IsIn (site : Site) (kind : NodeKind) : Prop := ∃ view ∈ site.above, view.kind = kind

/-- What is asked of a declared node. -/
structure Passes (site : Site) : Prop where
  /-- Only containers, forms and pagers have children. -/
  children : site.children = [] ∨ site.view.kind = .container ∨ site.view.kind = .form ∨
    site.view.kind = .pager
  /-- A form that does not submit by itself is in a form. -/
  parentForm (form : FormSpec) : site.view = .form form → form.submit = none → site.IsIn .form
  /-- A form whose rules look at a pager is in a pager. -/
  formPager (form : FormSpec) : site.view = .form form →
    (∃ rule ∈ form.formEnabled ++ site.enable, rule.isPager = true) → site.IsIn .pager
  /-- A pager has a page. -/
  pages (pager : PagerSpec) : site.view = .pager pager → site.children ≠ []
  /-- A node whose rules look at a pager is in a pager. -/
  rulesPager : (∃ rule ∈ site.enable, rule.isPager = true) → site.IsIn .pager

/-- How messages name the declared node with number `id`. -/
def describe (site : Site) (id : NodeId) : String :=
  site.view.identifier?.getD (site.view.kind.name ++ " " ++ NodeId.text id)

/-- The declared node with number `id` fails a check, which is told by an error. -/
inductive Fault (site : Site) (id : NodeId) : Check → LayoutError → Prop
  | children (hchildren : site.children ≠ [])
      (hkind : site.view.kind ≠ .container ∧ site.view.kind ≠ .form ∧ site.view.kind ≠ .pager) :
    Fault site id .children (.unexpectedChildren id site.view.viewType)
  | parentForm {form : FormSpec} (hview : site.view = .form form) (hsubmit : form.submit = none)
      (hin : ¬ site.IsIn .form) :
    Fault site id .parentForm (.missingParentForm form.id)
  | formPager {form : FormSpec} (hview : site.view = .form form)
      (hrule : ∃ rule ∈ form.formEnabled ++ site.enable, rule.isPager = true)
      (hin : ¬ site.IsIn .pager) :
    Fault site id .formPager (.missingPagerState form.id)
  | pages {pager : PagerSpec} (hview : site.view = .pager pager) (hchildren : site.children = []) :
    Fault site id .pages (.emptyPager pager.id)
  | rulesPager (hrule : ∃ rule ∈ site.enable, rule.isPager = true) (hin : ¬ site.IsIn .pager) :
    Fault site id .rulesPager (.missingPagerState (site.describe id))

/-- **A declared node is as it should be if it fails no check.** -/
theorem passes_iff {site : Site} (id : NodeId) :
    site.Passes ↔ ∀ check error, ¬ site.Fault id check error := by
  constructor
  · intro h check error hfault
    cases hfault with
    | children hchildren hkind =>
      obtain ⟨hcontainer, hform, hpager⟩ := hkind
      rcases h.children with hnil | hkind | hkind | hkind
      · exact hchildren hnil
      · exact hcontainer hkind
      · exact hform hkind
      · exact hpager hkind
    | parentForm hview hsubmit hin => exact hin (h.parentForm _ hview hsubmit)
    | formPager hview hrule hin => exact hin (h.formPager _ hview hrule)
    | pages hview hchildren => exact h.pages _ hview hchildren
    | rulesPager hrule hin => exact hin (h.rulesPager hrule)
  · intro h
    constructor
    case children =>
      by_contra hcon
      rw [not_or, not_or, not_or] at hcon
      exact h _ _ (.children hcon.1 hcon.2)
    case parentForm =>
      intro form hview hsubmit
      by_contra hin
      exact h _ _ (.parentForm hview hsubmit hin)
    case formPager =>
      intro form hview hrule
      by_contra hin
      exact h _ _ (.formPager hview hrule hin)
    case pages => exact fun pager hview hchildren => h _ _ (.pages hview hchildren)
    case rulesPager =>
      intro hrule
      by_contra hin
      exact h _ _ (.rulesPager hrule hin)

end Site

/-- The first check that a node of a list fails, of the first such node, is told by an error. -/
def FirstFault (sites : List Site) (error : LayoutError) : Prop :=
  ∃ (id : NodeId) (site : Site) (check : Check), sites[id]? = some site ∧
    site.Fault id check error ∧
    (∀ earlier other, earlier.place < check.place → ¬ site.Fault id earlier other) ∧
    ∀ before < id, ∀ other, sites[before]? = some other → other.Passes

/-! ## First answers -/

/-- In a list that is in order, the first answer is that of the foremost element that has one. -/
theorem findSome?_eq_some_iff_of_pairwise {α β : Type} {before : α → α → Prop}
    (hasymm : ∀ a b, before a b → ¬ before b a) {f : α → Option β} {list : List α}
    (h : list.Pairwise before) {answer : β} :
    list.findSome? f = some answer ↔ ∃ a ∈ list, f a = some answer ∧
      ∀ other ∈ list, before other a → f other = none := by
  rw [List.findSome?_eq_some_iff]
  constructor
  · rintro ⟨front, a, back, rfl, hanswer, hnone⟩
    refine ⟨a, by simp, hanswer, fun other hother hbefore => ?_⟩
    rcases List.mem_append.mp hother with hother | hother
    · exact hnone other hother
    · rcases List.mem_cons.mp hother with rfl | hback
      · exact absurd hbefore (hasymm _ _ hbefore)
      · have hafter := List.rel_of_pairwise_cons (List.pairwise_append.mp h).2.1 hback
        exact absurd hbefore (hasymm _ _ hafter)
  · rintro ⟨a, ha, hanswer, hnone⟩
    obtain ⟨front, back, rfl⟩ := List.append_of_mem ha
    refine ⟨front, a, back, rfl, hanswer, fun other hother => ?_⟩
    have hbefore := (List.pairwise_append.mp h).2.2 other hother a (by simp)
    exact hnone other (by simp [hother]) hbefore

/-! ## Nodes and their declarations -/

/-- Rules that are merged look at a pager if either do. -/
theorem EnableRules.hasPager_merge (rules more : EnableRules) :
    (rules.merge more).hasPager = (rules.hasPager || more.hasPager) := by
  induction more generalizing rules with
  | nil => simp [merge, hasPager]
  | cons rule rest ih =>
    rw [merge, List.foldl_cons]
    refine (ih _).trans ?_
    by_cases hmem : rules.contains rule = true
    · -- a rule that is there already adds nothing
      have hin : rule ∈ rules := by simpa using hmem
      rw [if_pos hmem]
      cases hp : rule.isPager
      · simp [hasPager, hp]
      · have : rules.hasPager = true := List.any_eq_true.mpr ⟨rule, hin, hp⟩
        simp [this]
    · rw [if_neg hmem]
      simp [hasPager, Bool.or_assoc]

/-- A scope names what there is among the views around. -/
structure Scope.Fits (scope : Scope) (above : List View) : Prop where
  form : scope.form.isSome = true ↔ ∃ view ∈ above, view.kind = .form
  pager : scope.pager.isSome = true ↔ ∃ view ∈ above, view.kind = .pager

/-- The children of a node are in the scope that the node gives them. -/
theorem Scope.Fits.enter {scope : Scope} {above : List View} (h : scope.Fits above) (id : NodeId)
    (view : View) : (scope.enter id view).Fits (view :: above) := by
  cases view with
  | form spec => exact ⟨by simp [Scope.enter, View.kind], by simpa [Scope.enter, View.kind]
      using h.pager⟩
  | pager spec => exact ⟨by simpa [Scope.enter, View.kind] using h.form,
      by simp [Scope.enter, View.kind]⟩
  | _ => exact ⟨by simpa [Scope.enter, View.kind] using h.form,
      by simpa [Scope.enter, View.kind] using h.pager⟩

/-- A node carries what the checks look at in a declaration. -/
structure Site.Matches (site : Site) (node : Node) : Prop where
  view : node.view = site.view
  enable : node.enable = site.enable
  children : node.children = [] ↔ site.children = []
  scope : node.scope.Fits site.above

namespace Spec

/-- There are numbers for as many children as there are. -/
theorem numbers_eq_nil (start : NodeId) (specs : List Spec) :
    numbers start specs = [] ↔ specs = [] := by
  cases specs <;> simp [numbers]

mutual

/-- **The nodes of a declared tree are its declarations**, listed in tree order. -/
theorem matches_nodes (start : NodeId) (ancestors : List NodeId) (scope : Scope)
    (above : List View) (h : scope.Fits above) :
    ∀ spec : Spec, List.Forall₂ Site.Matches (spec.sites above) (spec.nodes start ancestors scope)
  | ⟨view, enable, children⟩ => by
    rw [sites, nodes]
    exact .cons ⟨rfl, rfl, numbers_eq_nil _ _, h⟩
      (matches_nodesAll _ _ _ _ (h.enter start view) children)
termination_by structural spec => spec

/-- The nodes of declared siblings are their declarations, listed in tree order. -/
theorem matches_nodesAll (start : NodeId) (ancestors : List NodeId) (scope : Scope)
    (above : List View) (h : scope.Fits above) :
    ∀ specs : List Spec,
      List.Forall₂ Site.Matches (sitesAll above specs) (nodesAll start ancestors scope specs)
  | [] => by
    rw [sitesAll, nodesAll]
    exact .nil
  | spec :: rest => by
    rw [sitesAll, nodesAll]
    exact List.rel_append (matches_nodes _ _ _ _ h spec) (matches_nodesAll _ _ _ _ h rest)
termination_by structural specs => specs

end

end Spec

/-! ## The checks of a node -/

namespace Node

/-- What a check has to say about the node with number `id`. -/
def complaint? (node : Node) (id : NodeId) : Check → Option LayoutError
  | .children =>
    if node.children ≠ [] ∧ !node.view.viewType.hasChildren then
      some (.unexpectedChildren id node.view.viewType)
    else none
  | .parentForm =>
    match node.view with
    | .form spec =>
      if spec.isChild ∧ node.scope.form.isNone then some (.missingParentForm spec.id) else none
    | _ => none
  | .formPager =>
    match node.view with
    | .form spec =>
      if (node.formRules spec).hasPager ∧ node.scope.pager.isNone then
        some (.missingPagerState spec.id)
      else none
    | _ => none
  | .pages =>
    match node.view with
    | .pager spec => if node.children = [] then some (.emptyPager spec.id) else none
    | _ => none
  | .rulesPager =>
    if node.enable.hasPager ∧ node.scope.pager.isNone then
      some (.missingPagerState (node.describe id))
    else none

/-- The first violation of a node is what the first check that complains says. -/
theorem violation?_eq_findSome? (node : Node) (id : NodeId) :
    node.violation? id = Check.all.findSome? (node.complaint? id) := by
  simp only [violation?, Check.all, List.findSome?_cons, List.findSome?_nil, complaint?]
  by_cases hchildren : node.children ≠ [] ∧ (!node.view.viewType.hasChildren) = true
  · rw [if_pos hchildren, if_pos hchildren]
  · rw [if_neg hchildren, if_neg hchildren]
    cases node.view with
    | form spec =>
      by_cases hform : spec.isChild = true ∧ node.scope.form.isNone = true
      · simp only [if_pos hform]
      · by_cases hpager : (node.formRules spec).hasPager = true ∧ node.scope.pager.isNone = true
        · simp only [if_neg hform, if_pos hpager]
        · simp only [if_neg hform, if_neg hpager]
          split <;> rfl
    | pager spec =>
      by_cases hnil : node.children = []
      · simp only [if_pos hnil]
      · simp only [if_neg hnil]
        split <;> rfl
    | _ =>
      dsimp only
      split <;> rfl

end Node

/-- The views that take children are those of containers, forms and pagers. -/
theorem View.hasChildren_viewType (view : View) : view.viewType.hasChildren = true ↔
    view.kind = .container ∨ view.kind = .form ∨ view.kind = .pager := by
  cases view with
  | input spec => cases hkind : spec.kind <;> simp [viewType, hkind, InputKind.viewType,
      ViewType.hasChildren, View.kind]
  | form spec => cases hform : spec.formType <;> simp [viewType, hform, ViewType.hasChildren,
      View.kind]
  | _ => simp [viewType, ViewType.hasChildren, View.kind]

namespace Site.Matches

variable {site : Site} {node : Node} (h : site.Matches node)
include h

/-- There is no form around a node whose declaration stands in none. -/
theorem isNone_form : node.scope.form.isNone = true ↔ ¬ site.IsIn .form := by
  rw [← Option.not_isSome, Bool.not_eq_true', Bool.eq_false_iff, ne_eq, h.scope.form, IsIn]

/-- There is no pager around a node whose declaration stands in none. -/
theorem isNone_pager : node.scope.pager.isNone = true ↔ ¬ site.IsIn .pager := by
  rw [← Option.not_isSome, Bool.not_eq_true', Bool.eq_false_iff, ne_eq, h.scope.pager, IsIn]

/-- A form looks at a pager if some rule declared for it does. -/
theorem hasPager_formRules (form : FormSpec) : (node.formRules form).hasPager = true ↔
    ∃ rule ∈ form.formEnabled ++ site.enable, rule.isPager = true := by
  rw [Node.formRules, EnableRules.hasPager_merge, h.enable, EnableRules.hasPager,
    EnableRules.hasPager, ← List.any_append, List.any_eq_true]

/-- The node is named like its declaration. -/
theorem describe_eq (id : NodeId) : node.describe id = site.describe id := by
  unfold Node.describe Site.describe
  rw [h.view]
  cases site.view.identifier? <;> rfl

/-- **A check complains about a node exactly if the declaration of the node fails it.** -/
theorem complaint?_eq_some_iff {id : NodeId} {check : Check} {error : LayoutError} :
    node.complaint? id check = some error ↔ site.Fault id check error := by
  cases check with
  | children =>
    have hkinds : (!node.view.viewType.hasChildren) = true ↔ site.view.kind ≠ .container ∧
        site.view.kind ≠ .form ∧ site.view.kind ≠ .pager := by
      rw [Bool.not_eq_true', Bool.eq_false_iff, ne_eq, View.hasChildren_viewType, h.view, not_or,
        not_or]
    rw [Node.complaint?, Option.ite_none_right_eq_some, Option.some.injEq, ne_eq, h.children,
      hkinds, h.view]
    constructor
    · rintro ⟨⟨hchildren, hkind⟩, rfl⟩
      exact .children hchildren hkind
    · intro hfault
      cases hfault with
      | children hchildren hkind => exact ⟨⟨hchildren, hkind⟩, rfl⟩
  | parentForm =>
    rw [Node.complaint?, h.view]
    constructor
    · intro hcomplaint
      split at hcomplaint
      case h_2 => cases hcomplaint
      case h_1 form hview =>
        rw [Option.ite_none_right_eq_some, Option.some.injEq, h.isNone_form, FormSpec.isChild,
          Option.isNone_iff_eq_none] at hcomplaint
        obtain ⟨⟨hsubmit, hin⟩, rfl⟩ := hcomplaint
        exact .parentForm hview hsubmit hin
    · intro hfault
      cases hfault with
      | parentForm hview hsubmit hin =>
        rw [hview]
        exact if_pos ⟨Option.isNone_iff_eq_none.mpr hsubmit, h.isNone_form.mpr hin⟩
  | formPager =>
    rw [Node.complaint?, h.view]
    constructor
    · intro hcomplaint
      split at hcomplaint
      case h_2 => cases hcomplaint
      case h_1 form hview =>
        rw [Option.ite_none_right_eq_some, Option.some.injEq, h.isNone_pager,
          h.hasPager_formRules] at hcomplaint
        obtain ⟨⟨hrule, hin⟩, rfl⟩ := hcomplaint
        exact .formPager hview hrule hin
    · intro hfault
      cases hfault with
      | formPager hview hrule hin =>
        rw [hview]
        exact if_pos ⟨(h.hasPager_formRules _).mpr hrule, h.isNone_pager.mpr hin⟩
  | pages =>
    rw [Node.complaint?, h.view]
    constructor
    · intro hcomplaint
      split at hcomplaint
      case h_2 => cases hcomplaint
      case h_1 pager hview =>
        rw [Option.ite_none_right_eq_some, Option.some.injEq, h.children] at hcomplaint
        obtain ⟨hchildren, rfl⟩ := hcomplaint
        exact .pages hview hchildren
    · intro hfault
      cases hfault with
      | pages hview hchildren =>
        rw [hview]
        exact if_pos (h.children.mpr hchildren)
  | rulesPager =>
    rw [Node.complaint?, Option.ite_none_right_eq_some, Option.some.injEq, h.isNone_pager,
      h.describe_eq, h.enable, EnableRules.hasPager, List.any_eq_true]
    constructor
    · rintro ⟨⟨hrule, hin⟩, rfl⟩
      exact .rulesPager hrule hin
    · intro hfault
      cases hfault with
      | rulesPager hrule hin => exact ⟨⟨hrule, hin⟩, rfl⟩

/-- A node has no violation if its declaration is as it should be. -/
theorem violation?_eq_none_iff {id : NodeId} : node.violation? id = none ↔ site.Passes := by
  rw [Node.violation?_eq_findSome?, List.findSome?_eq_none_iff, passes_iff id]
  constructor
  · intro hnone check error hfault
    rw [← h.complaint?_eq_some_iff, hnone check (Check.mem_all check)] at hfault
    cases hfault
  · intro hpass check _
    exact Option.eq_none_iff_forall_ne_some.mpr fun error hcomplaint =>
      hpass check error (h.complaint?_eq_some_iff.mp hcomplaint)

/-- The first violation of a node is the first check that its declaration fails. -/
theorem violation?_eq_some_iff {id : NodeId} {error : LayoutError} :
    node.violation? id = some error ↔ ∃ check, site.Fault id check error ∧
      ∀ earlier other, earlier.place < check.place → ¬ site.Fault id earlier other := by
  rw [Node.violation?_eq_findSome?, findSome?_eq_some_iff_of_pairwise
    (fun _ _ => Nat.lt_asymm) Check.pairwise_all]
  constructor
  · rintro ⟨check, -, hcomplaint, hnone⟩
    refine ⟨check, h.complaint?_eq_some_iff.mp hcomplaint, fun earlier other hlt hfault => ?_⟩
    rw [← h.complaint?_eq_some_iff, hnone earlier (Check.mem_all earlier) hlt] at hfault
    cases hfault
  · rintro ⟨check, hfault, hnone⟩
    have hcomplaint := h.complaint?_eq_some_iff.mpr hfault
    refine ⟨check, Check.mem_all check, hcomplaint, fun earlier _ hlt => ?_⟩
    exact Option.eq_none_iff_forall_ne_some.mpr fun other hcomplaint =>
      hnone earlier other hlt (h.complaint?_eq_some_iff.mp hcomplaint)

end Site.Matches

/-! ## The checks of a tree -/

namespace Tree

variable {spec : Spec} {id : NodeId}

/-- The nodes of a declared tree are its declarations. -/
theorem matches_ofSpec (spec : Spec) :
    List.Forall₂ Site.Matches (spec.sites []) (ofSpec spec).nodes.toList :=
  spec.matches_nodes 0 [] {} [] ⟨by simp, by simp⟩

/-- Every node of a declared tree has its declaration. -/
theorem exists_site {node : Node} (h : (ofSpec spec).node? id = some node) :
    ∃ site, (spec.sites [])[id]? = some site ∧ site.Matches node := by
  have hall := matches_ofSpec spec
  rw [node?, ← Array.getElem?_toList] at h
  obtain ⟨hlt, rfl⟩ := List.getElem?_eq_some_iff.mp h
  have hlt' : id < (spec.sites []).length := hall.length_eq ▸ hlt
  exact ⟨_, List.getElem?_eq_getElem hlt', hall.get hlt' hlt⟩

/-- Every declaration is that of a node. -/
theorem exists_node_of_site {site : Site} (h : (spec.sites [])[id]? = some site) :
    ∃ node, (ofSpec spec).node? id = some node ∧ site.Matches node := by
  have hall := matches_ofSpec spec
  obtain ⟨hlt, rfl⟩ := List.getElem?_eq_some_iff.mp h
  have hlt' : id < (ofSpec spec).nodes.toList.length := hall.length_eq ▸ hlt
  refine ⟨_, ?_, hall.get hlt hlt'⟩
  rw [node?, ← Array.getElem?_toList]
  exact List.getElem?_eq_getElem hlt'

/-- A node has no violation exactly if its declaration is as it should be. -/
theorem violation?_at_eq_none_iff :
    ((ofSpec spec).node? id).bind (·.violation? id) = none ↔
      ∀ site, (spec.sites [])[id]? = some site → site.Passes := by
  constructor
  · intro hnone site hsite
    obtain ⟨node, hnode, hmatches⟩ := exists_node_of_site hsite
    rw [hnode, Option.bind_some] at hnone
    exact hmatches.violation?_eq_none_iff.mp hnone
  · intro hpass
    cases hnode : (ofSpec spec).node? id with
    | none => rfl
    | some node =>
      obtain ⟨site, hsite, hmatches⟩ := exists_site hnode
      exact hmatches.violation?_eq_none_iff.mpr (hpass site hsite)

/-- **A declared tree has no violation exactly if all its nodes are as they should be.** -/
theorem violation?_eq_none_iff (spec : Spec) :
    (ofSpec spec).violation? = none ↔ ∀ site ∈ spec.sites [], site.Passes := by
  rw [violation?, List.findSome?_eq_none_iff]
  constructor
  · intro hnone site hsite
    obtain ⟨id, hid⟩ := List.mem_iff_getElem?.mp hsite
    obtain ⟨node, hnode, -⟩ := exists_node_of_site hid
    exact violation?_at_eq_none_iff.mp (hnone id (List.mem_range.mpr (lt_size hnode))) site hid
  · intro hpass id _
    exact violation?_at_eq_none_iff.mpr fun site hsite => hpass site (List.mem_of_getElem? hsite)

/-- **The first violation of a declared tree is the first fault** of its declarations. -/
theorem violation?_eq_some_iff (spec : Spec) (error : LayoutError) :
    (ofSpec spec).violation? = some error ↔ FirstFault (spec.sites []) error := by
  rw [violation?, ids, findSome?_eq_some_iff_of_pairwise (fun _ _ => Nat.lt_asymm)
    List.pairwise_lt_range]
  constructor
  · rintro ⟨id, hid, hviolation, hnone⟩
    obtain ⟨node, hnode, herror⟩ := Option.bind_eq_some_iff.mp hviolation
    obtain ⟨site, hsite, hmatches⟩ := exists_site hnode
    obtain ⟨check, hfault, hearlier⟩ := hmatches.violation?_eq_some_iff.mp herror
    refine ⟨id, site, check, hsite, hfault, hearlier, fun before hlt other hother => ?_⟩
    have hlisted : before ∈ List.range (ofSpec spec).size :=
      List.mem_range.mpr (Nat.lt_trans hlt (List.mem_range.mp hid))
    exact violation?_at_eq_none_iff.mp (hnone before hlisted hlt) other hother
  · rintro ⟨id, site, check, hsite, hfault, hearlier, hbefore⟩
    obtain ⟨node, hnode, hmatches⟩ := exists_node_of_site hsite
    refine ⟨id, List.mem_range.mpr (lt_size hnode), ?_, fun before _ hlt => ?_⟩
    · rw [hnode, Option.bind_some]
      exact hmatches.violation?_eq_some_iff.mpr ⟨check, hfault, hearlier⟩
    · exact violation?_at_eq_none_iff.mpr (hbefore before hlt)

end Tree

end FormTree

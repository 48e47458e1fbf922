import FormTree.Tree
import Mathlib.Data.List.Forall2
import Mathlib.Tactic.Lemma

set_option autoImplicit false

/-!
# Declarations that say the same

Behaviors are declared as lists, and used as sets: neither the order in which they are declared nor
how often one of them is declared matters. What a form has declared for its own flag may stand among
its own rules or among those of its node. This module says when two declarations are alike in this
sense, and shows that all that is asked of a declared tree is answered in the same way.

## Main definitions

* `FormTree.SameMembers` — lists with the same members.
* `FormTree.DeclaredAlike`, `FormTree.Spec.Alike` — nodes, and trees, that are declared alike.
* `FormTree.Tree.Alike` — trees whose nodes are declared alike and are in the same places.

## Main results

* `FormTree.EnableRules.evaluate_congr`, `FormTree.ClickBehavior.ordered_congr` — rules and effects
  are used as sets.
* `FormTree.Tree.alike_ofSpec` — trees that are declared alike are alike.
* `FormTree.Tree.Alike.violation?_eq` — they are malformed in the same way.
-/

namespace FormTree

/-! ## Lists as sets -/

/-- The lists have the same members. -/
def SameMembers {α : Type} (list list' : List α) : Prop := ∀ a, a ∈ list ↔ a ∈ list'

namespace SameMembers

variable {α : Type} {list list' : List α}

lemma refl (list : List α) : SameMembers list list := fun _ => Iff.rfl

lemma any_eq (h : SameMembers list list') (p : α → Bool) : list.any p = list'.any p := by
  rw [Bool.eq_iff_iff, List.any_eq_true, List.any_eq_true]
  constructor
  · rintro ⟨a, hmem, ha⟩
    exact ⟨a, (h a).mp hmem, ha⟩
  · rintro ⟨a, hmem, ha⟩
    exact ⟨a, (h a).mpr hmem, ha⟩

lemma contains_eq [DecidableEq α] (h : SameMembers list list') (a : α) :
    list.contains a = list'.contains a := by
  rw [Bool.eq_iff_iff, List.contains_iff_mem, List.contains_iff_mem]
  exact h a

lemma eq_nil_iff (h : SameMembers list list') : list = [] ↔ list' = [] := by
  rw [List.eq_nil_iff_forall_not_mem, List.eq_nil_iff_forall_not_mem]
  exact forall_congr' fun a => not_congr (h a)

end SameMembers

namespace EnableRules

variable {rules rules' : EnableRules}

lemma hasForm_congr (h : SameMembers rules rules') : rules.hasForm = rules'.hasForm := h.any_eq _

lemma hasPager_congr (h : SameMembers rules rules') : rules.hasPager = rules'.hasPager := h.any_eq _

/-- **Rules are evaluated as a set.** -/
theorem evaluate_congr (h : SameMembers rules rules') (parentEnabled : Bool)
    (form : Option (Bool × Bool)) (pager : Option PagerState) (current : Bool) :
    rules.evaluate parentEnabled form pager current =
      rules'.evaluate parentEnabled form pager current := by
  have hform : rules.formRule = rules'.formRule := by
    funext isValid isSubmitted
    rw [formRule, formRule, hasForm_congr h, h.contains_eq, h.contains_eq]
  have hpager : rules.pagerRule = rules'.pagerRule := by
    funext hasNext hasPrevious
    rw [pagerRule, pagerRule, hasPager_congr h, h.contains_eq, h.contains_eq]
  rw [evaluate, evaluate, hform, hpager]

/-- A rule is among merged ones if it is among those on one side. -/
theorem mem_merge {rule : EnableBehavior} (rules more : EnableRules) :
    rule ∈ rules.merge more ↔ rule ∈ rules ∨ rule ∈ more := by
  induction more generalizing rules with
  | nil => simp [merge]
  | cons first more ih =>
    have hstep : rules.merge (first :: more) =
        merge (if rules.contains first then rules else rules ++ [first]) more := rfl
    rw [hstep, ih, List.mem_cons]
    split
    · next hcontains =>
      have hmem : first ∈ rules := List.contains_iff_mem.mp hcontains
      constructor
      · rintro (h | h)
        · exact .inl h
        · exact .inr (.inr h)
      · rintro (h | rfl | h)
        · exact .inl h
        · exact .inl hmem
        · exact .inr h
    · rw [List.mem_append, List.mem_singleton, or_assoc]

end EnableRules

/-- **Effects happen as a set.** -/
theorem ClickBehavior.ordered_congr {behaviors behaviors' : List ClickBehavior}
    (h : SameMembers behaviors behaviors') : ordered behaviors = ordered behaviors' := by
  rw [ordered, ordered]
  apply List.filter_congr
  intro behavior _
  exact h.contains_eq behavior

/-! ## Declarations -/

/-- Two nodes are declared alike, each with its view and the rules for its enabled flag: their lists
of behaviors have the same members, where those of a form are taken together with those of its
node. -/
inductive DeclaredAlike : View → EnableRules → View → EnableRules → Prop
  /-- The rules of a node. -/
  | rules {view : View} {enable enable' : EnableRules} :
    SameMembers enable enable' → DeclaredAlike view enable view enable'
  /-- The rules of a button, and its effects. -/
  | button {id : String} {behaviors behaviors' : List ClickBehavior}
      {enable enable' : EnableRules} :
    SameMembers behaviors behaviors' → SameMembers enable enable' →
    DeclaredAlike (.button ⟨id, behaviors⟩) enable (.button ⟨id, behaviors'⟩) enable'
  /-- The rules of a form, and those of its node. -/
  | form {spec : FormSpec} {formEnabled enable enable' : EnableRules} :
    SameMembers (spec.formEnabled ++ enable) (formEnabled ++ enable') →
    DeclaredAlike (.form spec) enable (.form { spec with formEnabled }) enable'

mutual

/-- Two trees are declared alike, node for node. -/
inductive Spec.Alike : Spec → Spec → Prop
  | node {view view' : View} {enable enable' : EnableRules} {children children' : List Spec} :
    DeclaredAlike view enable view' enable' → Spec.AlikeAll children children' →
    Spec.Alike ⟨view, enable, children⟩ ⟨view', enable', children'⟩

/-- Siblings are declared alike, one for one. -/
inductive Spec.AlikeAll : List Spec → List Spec → Prop
  | nil : Spec.AlikeAll [] []
  | cons {spec spec' : Spec} {rest rest' : List Spec} :
    Spec.Alike spec spec' → Spec.AlikeAll rest rest' →
    Spec.AlikeAll (spec :: rest) (spec' :: rest')

end

/-- Two nodes are declared alike and have the same place in their trees. -/
structure Node.Alike (node node' : Node) : Prop where
  declared : DeclaredAlike node.view node.enable node'.view node'.enable
  ancestors : node'.ancestors = node.ancestors
  children : node'.children = node.children
  size : node'.size = node.size
  scope : node'.scope = node.scope

/-- The nodes of two trees are alike, number for number. -/
structure Tree.Alike (tree tree' : Tree) : Prop where
  size : tree'.size = tree.size
  node : ∀ id node, tree.node? id = some node →
    ∃ node', tree'.node? id = some node' ∧ node.Alike node'

/-! ## What nodes that are declared alike are -/

namespace DeclaredAlike

variable {view view' : View} {enable enable' : EnableRules}

lemma refl (view : View) (enable : EnableRules) : DeclaredAlike view enable view enable :=
  .rules (.refl enable)

/-- They are of the same kind. -/
lemma viewType_eq (h : DeclaredAlike view enable view' enable') :
    view'.viewType = view.viewType := by
  cases h <;> rfl

lemma kind_eq (h : DeclaredAlike view enable view' enable') : view'.kind = view.kind := by
  cases h <;> rfl

/-- A node that is not a form looks at the same rules. -/
lemma sameMembers_enable (h : DeclaredAlike view enable view' enable')
    (hkind : view.kind ≠ .form) : SameMembers enable enable' := by
  cases h with
  | rules h => exact h
  | button _ h => exact h
  | form _ => exact absurd rfl hkind

/-- Entering them leads into the same scope. -/
lemma enter_eq (h : DeclaredAlike view enable view' enable') (scope : Scope) (id : NodeId) :
    scope.enter id view' = scope.enter id view := by
  cases h <;> rfl

end DeclaredAlike

/-! ## Trees -/

namespace Spec

mutual

/-- Trees that are declared alike have as many nodes. -/
theorem size_alike : ∀ {spec spec' : Spec}, spec.Alike spec' → spec'.size = spec.size
  | _, _, .node _ hchildren => by rw [size, size, sizeAll_alike hchildren]

theorem sizeAll_alike : ∀ {specs specs' : List Spec}, AlikeAll specs specs' →
    sizeAll specs' = sizeAll specs
  | _, _, .nil => rfl
  | _, _, .cons h hrest => by rw [sizeAll, sizeAll, size_alike h, sizeAll_alike hrest]

end

/-- Siblings that are declared alike have the same numbers. -/
theorem numbers_alike {specs specs' : List Spec} (h : AlikeAll specs specs') (start : NodeId) :
    numbers start specs' = numbers start specs := by
  induction specs generalizing start specs' with
  | nil =>
    cases h
    rfl
  | cons spec rest ih =>
    cases h with
    | cons h hrest => rw [numbers, numbers, size_alike h, ih hrest]

mutual

/-- **Trees that are declared alike are listed as nodes that are alike.** -/
theorem nodes_alike (start : NodeId) (ancestors : List NodeId) (scope : Scope) :
    ∀ {spec spec' : Spec}, spec.Alike spec' →
      List.Forall₂ Node.Alike (spec.nodes start ancestors scope)
        (spec'.nodes start ancestors scope)
  | _, _, .node hdeclared hchildren => by
    rw [nodes, nodes]
    refine .cons ⟨hdeclared, rfl, numbers_alike hchildren _, ?_, rfl⟩ ?_
    · dsimp only
      rw [sizeAll_alike hchildren]
    · rw [hdeclared.enter_eq]
      exact nodesAll_alike _ _ _ hchildren

theorem nodesAll_alike (start : NodeId) (ancestors : List NodeId) (scope : Scope) :
    ∀ {specs specs' : List Spec}, AlikeAll specs specs' →
      List.Forall₂ Node.Alike (nodesAll start ancestors scope specs)
        (nodesAll start ancestors scope specs')
  | _, _, .nil => .nil
  | _, _, .cons h hrest => by
    rw [nodesAll, nodesAll, size_alike h]
    exact List.rel_append (nodes_alike _ _ _ h) (nodesAll_alike _ _ _ hrest)

end

end Spec

namespace Node.Alike

variable {node node' : Node}

lemma refl (node : Node) : node.Alike node := ⟨.refl _ _, rfl, rfl, rfl, rfl⟩

/-- Nodes that are alike have the same view, but for the behaviors that are declared for a form or a
button. -/
theorem view_cases (h : node.Alike node') :
    (∃ spec formEnabled, node.view = .form spec ∧ node'.view = .form { spec with formEnabled }) ∨
      (∃ id behaviors behaviors', SameMembers behaviors behaviors' ∧
        node.view = .button ⟨id, behaviors⟩ ∧ node'.view = .button ⟨id, behaviors'⟩) ∨
      node'.view = node.view ∧ node.view.kind ≠ .form ∧ node.view.kind ≠ .button := by
  obtain ⟨view, enable, ancestors, children, size, scope⟩ := node
  obtain ⟨view', enable', ancestors', children', size', scope'⟩ := node'
  have hdeclared := h.declared
  cases hdeclared with
  | rules _ =>
    cases view with
    | form spec => exact .inl ⟨spec, spec.formEnabled, rfl, rfl⟩
    | button spec => exact .inr (.inl ⟨spec.id, spec.behaviors, spec.behaviors, .refl _, rfl, rfl⟩)
    | _ => exact .inr (.inr ⟨rfl, nofun, nofun⟩)
  | button hbehaviors _ => exact .inr (.inl ⟨_, _, _, hbehaviors, rfl, rfl⟩)
  | form _ => exact .inl ⟨_, _, rfl, rfl⟩

/-- Forms that are alike have the same rules for their own flags. -/
lemma sameMembers_formRules (h : node.Alike node') {spec spec' : FormSpec}
    (hview : node.view = .form spec) (hview' : node'.view = .form spec') :
    SameMembers (node.formRules spec) (node'.formRules spec') := by
  have hdeclared := h.declared
  rw [hview, hview'] at hdeclared
  intro rule
  rw [Node.formRules, Node.formRules, EnableRules.mem_merge, EnableRules.mem_merge]
  cases hdeclared with
  | rules hrules => rw [hrules rule]
  | form hrules => simpa only [List.mem_append] using hrules rule

/-- The rules that stand among those of a form's node are not checked by themselves: they are among
the rules for the form's own flag. -/
lemma violation?_form {spec : FormSpec} (hview : node.view = .form spec) (id : NodeId) :
    node.violation? id =
      if node.children ≠ [] ∧ !node.view.viewType.hasChildren then
        some (.unexpectedChildren id node.view.viewType)
      else if spec.isChild ∧ node.scope.form.isNone then some (.missingParentForm spec.id)
      else if (node.formRules spec).hasPager ∧ node.scope.pager.isNone then
        some (.missingPagerState spec.id)
      else none := by
  have hamong : node.enable.hasPager = true → (node.formRules spec).hasPager = true := by
    intro henable
    obtain ⟨rule, hmem, hrule⟩ := List.any_eq_true.mp henable
    exact List.any_eq_true.mpr ⟨rule, (EnableRules.mem_merge _ _).mpr (.inr hmem), hrule⟩
  rw [violation?, hview]
  dsimp only
  split
  · rfl
  · by_cases hparent : spec.isChild = true ∧ node.scope.form.isNone = true
    · rw [if_pos hparent]
    · rw [if_neg hparent]
      by_cases hpager : (node.formRules spec).hasPager = true ∧ node.scope.pager.isNone = true
      · rw [if_pos hpager]
      · rw [if_neg hpager]
        exact if_neg fun h => hpager ⟨hamong h.1, h.2⟩

/-- **Nodes that are alike are malformed in the same way.** -/
theorem violation?_eq (h : node.Alike node') (id : NodeId) :
    node'.violation? id = node.violation? id := by
  have hdeclared := h.declared
  have hviewType := hdeclared.viewType_eq
  have hform : ∀ spec spec' : FormSpec, node.view = .form spec → node'.view = .form spec' →
      spec'.isChild = spec.isChild → spec'.id = spec.id →
      node'.violation? id = node.violation? id := by
    intro spec spec' hview hview' hisChild hid
    have hrules := EnableRules.hasPager_congr (h.sameMembers_formRules hview hview')
    rw [violation?_form hview, violation?_form hview', h.children, h.scope, hviewType, hisChild,
      hid, hrules]
  obtain ⟨view, enable, ancestors, children, size, scope⟩ := node
  obtain ⟨view', enable', ancestors', children', size', scope'⟩ := node'
  obtain ⟨-, rfl, rfl, rfl, rfl⟩ := h
  dsimp only at hdeclared hform
  cases hdeclared with
  | rules henable =>
    have hpager := EnableRules.hasPager_congr henable
    cases view with
    | form spec => exact hform spec spec rfl rfl rfl rfl
    | _ =>
      unfold violation? describe
      dsimp only
      rw [hpager]
  | button _ henable =>
    have hpager := EnableRules.hasPager_congr henable
    unfold violation? describe
    dsimp only
    rw [hpager]
    rfl
  | form _ => exact hform _ _ rfl rfl rfl rfl

end Node.Alike

namespace Tree

variable {tree tree' : Tree}

/-- **Trees that are declared alike are alike.** -/
theorem alike_ofSpec {spec spec' : Spec} (h : spec.Alike spec') :
    (ofSpec spec).Alike (ofSpec spec') := by
  have hnodes := Spec.nodes_alike 0 [] {} h
  constructor
  · rw [size, size, ofSpec, ofSpec, List.size_toArray, List.size_toArray]
    exact hnodes.length_eq.symm
  · intro id node hnode
    rw [node?, ofSpec, List.getElem?_toArray] at hnode
    obtain ⟨hlt, rfl⟩ := List.getElem?_eq_some_iff.mp hnode
    have hlt' := hlt
    rw [hnodes.length_eq] at hlt'
    refine ⟨_, ?_, (List.forall₂_iff_get.mp hnodes).2 id hlt hlt'⟩
    rw [node?, ofSpec, List.getElem?_toArray]
    exact List.getElem?_eq_getElem hlt'

namespace Alike

lemma refl (tree : Tree) : tree.Alike tree := ⟨rfl, fun _ node hnode => ⟨node, hnode, .refl node⟩⟩

/-- What the trees have at a place. -/
lemma cases (h : tree.Alike tree') (id : NodeId) :
    tree.node? id = none ∧ tree'.node? id = none ∨
      ∃ node node', tree.node? id = some node ∧ tree'.node? id = some node' ∧ node.Alike node' := by
  cases hnode : tree.node? id with
  | none =>
    left
    refine ⟨rfl, ?_⟩
    rw [node?, Array.getElem?_eq_none_iff] at hnode ⊢
    exact Nat.le_trans (Nat.le_of_eq h.size) hnode
  | some node =>
    obtain ⟨node', hnode', hnodes⟩ := h.node id node hnode
    exact .inr ⟨node, node', rfl, hnode', hnodes⟩

lemma ids_eq (h : tree.Alike tree') : tree'.ids = tree.ids := by
  rw [ids, ids, h.size]

lemma ancestors_eq (h : tree.Alike tree') (id : NodeId) :
    tree'.ancestors id = tree.ancestors id := by
  unfold ancestors
  rcases h.cases id with ⟨hnone, hnone'⟩ | ⟨node, node', hnode, hnode', hnodes⟩
  · rw [hnone, hnone']
  · rw [hnode, hnode']
    exact hnodes.ancestors

lemma descendants_eq (h : tree.Alike tree') (id : NodeId) :
    tree'.descendants id = tree.descendants id := by
  unfold descendants
  rcases h.cases id with ⟨hnone, hnone'⟩ | ⟨node, node', hnode, hnode', hnodes⟩
  · rw [hnone, hnone']
  · rw [hnode, hnode']
    dsimp only
    rw [hnodes.size]

/-- **Trees that are alike are malformed in the same way.** -/
theorem violation?_eq (h : tree.Alike tree') : tree'.violation? = tree.violation? := by
  unfold violation?
  rw [h.ids_eq]
  congr 1
  funext id
  rcases h.cases id with ⟨hnone, hnone'⟩ | ⟨node, node', hnode, hnode', hnodes⟩
  · rw [hnone, hnone']
  · rw [hnode, hnode']
    exact hnodes.violation?_eq id

end Alike

end Tree

end FormTree

import FormTree.Tree
import Mathlib.Tactic.Lemma

set_option autoImplicit false

/-!
# How the nodes of a tree hang together

The nodes of a declared tree are numbered so that whatever is around a node comes before it. This
module derives, from the way in which the nodes are listed, what the rest of the theory uses: the
form and the pager around a node are nodes of that kind with a smaller number, and the way up
from a node goes through its parent.

## Main definitions

* `FormTree.Tree.form?`, `FormTree.Tree.isPager` — a node as a form, or as a pager.
* `FormTree.Tree.formAround`, `FormTree.Tree.pagerAround` — the nearest form and pager.
* `FormTree.Tree.Encloses` — a form encloses a node through any number of forms in between.
* `FormTree.Tree.Linked` — every node hangs below an earlier one.

## Main results

* `FormTree.Tree.linked_ofSpec` — a declared tree is linked.
* `FormTree.Tree.Linked.formAround_spec`, `FormTree.Tree.Linked.pagerAround_spec` — what is around a
  node is a form or a pager, and comes before it.
-/

namespace FormTree

/-! ## Listing the nodes -/

namespace Spec

mutual

/-- A declared tree is listed with as many nodes as it has. -/
theorem length_nodes (start : NodeId) (ancestors : List NodeId) (scope : Scope) :
    ∀ spec : Spec, (spec.nodes start ancestors scope).length = spec.size
  | ⟨view, enable, children⟩ => by
    rw [nodes, size, List.length_cons, length_nodesAll]
    omega
termination_by structural spec => spec

/-- Declared siblings are listed with as many nodes as they have together. -/
theorem length_nodesAll (start : NodeId) (ancestors : List NodeId) (scope : Scope) :
    ∀ specs : List Spec, (nodesAll start ancestors scope specs).length = sizeAll specs
  | [] => rfl
  | spec :: rest => by
    rw [nodesAll, sizeAll, List.length_append, length_nodes, length_nodesAll]
termination_by structural specs => specs

end

/-- The node at position `i` of a list of nodes, the first of which has number `start`, hangs
below an earlier node of the list. -/
def HangsIn (start : NodeId) (list : List Node) (i : Nat) (node : Node) : Prop :=
  ∃ j parent, j < i ∧ list[j]? = some parent ∧
    node.ancestors = (start + j) :: parent.ancestors ∧
    node.scope = parent.scope.enter (start + j) parent.view

/-- A node keeps its place below another one when more nodes are listed behind. -/
theorem HangsIn.append {start : NodeId} {list : List Node} {i : Nat} {node : Node}
    (h : HangsIn start list i node) (more : List Node) : HangsIn start (list ++ more) i node := by
  obtain ⟨j, parent, hj, hp, ha, hs⟩ := h
  obtain ⟨hlt, -⟩ := List.getElem?_eq_some_iff.mp hp
  exact ⟨j, parent, hj, by rw [List.getElem?_append_left hlt, hp], ha, hs⟩

/-- A node keeps its place below another one when more nodes are listed in front. -/
theorem HangsIn.prepend {start : NodeId} {list : List Node} {i : Nat} {node : Node}
    (before : List Node) (h : HangsIn (start + before.length) list i node) :
    HangsIn start (before ++ list) (before.length + i) node := by
  obtain ⟨j, parent, hj, hp, ha, hs⟩ := h
  refine ⟨before.length + j, parent, by omega, ?_, ?_, ?_⟩
  · rw [List.getElem?_append_right (by omega), Nat.add_sub_cancel_left, hp]
  · rw [ha, Nat.add_assoc]
  · rw [hs, Nat.add_assoc]

mutual

/-- Every node of a declared tree but the first hangs below an earlier one. -/
theorem hangsIn_nodes (start : NodeId) (ancestors : List NodeId) (scope : Scope) :
    ∀ (spec : Spec) (i : Nat) (node : Node), (spec.nodes start ancestors scope)[i]? = some node →
      i = 0 ∧ node.ancestors = ancestors ∧ node.scope = scope ∨
        HangsIn start (spec.nodes start ancestors scope) i node
  | ⟨view, enable, children⟩, i, node, h => by
    rw [nodes] at h ⊢
    cases i with
    | zero =>
      obtain rfl := by simpa using h
      exact .inl ⟨rfl, rfl, rfl⟩
    | succ i =>
      rw [List.getElem?_cons_succ] at h
      right
      rcases hangsIn_nodesAll _ _ _ children i node h with ⟨ha, hs⟩ | hin
      · exact ⟨0, _, by omega, rfl, ha, hs⟩
      · obtain ⟨j, parent, hj, hp, ha, hs⟩ := hin
        exact ⟨j + 1, parent, by omega, hp, by rw [ha, Nat.add_right_comm]; rfl,
          by rw [hs, Nat.add_right_comm]; rfl⟩
termination_by structural spec => spec

/-- Every node of declared siblings is one of them or hangs below an earlier node. -/
theorem hangsIn_nodesAll (start : NodeId) (ancestors : List NodeId) (scope : Scope) :
    ∀ (specs : List Spec) (i : Nat) (node : Node),
      (nodesAll start ancestors scope specs)[i]? = some node →
      node.ancestors = ancestors ∧ node.scope = scope ∨
        HangsIn start (nodesAll start ancestors scope specs) i node
  | [], i, node, h => by simp [nodesAll] at h
  | spec :: rest, i, node, h => by
    rw [nodesAll] at h ⊢
    have hlen := length_nodes start ancestors scope spec
    rcases Nat.lt_or_ge i spec.size with hi | hi
    · rw [List.getElem?_append_left (by omega)] at h
      rcases hangsIn_nodes start ancestors scope spec i node h with ⟨-, ha, hs⟩ | hin
      · exact .inl ⟨ha, hs⟩
      · exact .inr (hin.append _)
    · rw [List.getElem?_append_right (by omega), hlen] at h
      rcases hangsIn_nodesAll _ _ _ rest _ node h with ⟨ha, hs⟩ | hin
      · exact .inl ⟨ha, hs⟩
      · right
        rw [← hlen] at hin
        have := hin.prepend
        rwa [hlen, Nat.add_sub_cancel' hi] at this
termination_by structural specs => specs

end

end Spec

/-! ## Reading a tree -/

namespace Tree

/-- The node `id` as a form, with its declaration. -/
def form? (tree : Tree) (id : NodeId) : Option (Node × FormSpec) :=
  match tree.node? id with
  | some node =>
    match node.view with
    | .form spec => some (node, spec)
    | _ => none
  | none => none

/-- The node `id` is a pager. -/
def isPager (tree : Tree) (id : NodeId) : Bool := (tree.view? id).any (·.kind = .pager)

/-- The nearest form around the node `id`. -/
def formAround (tree : Tree) (id : NodeId) : Option NodeId :=
  (tree.node? id).bind (·.scope.form)

/-- The nearest pager around the node `id`. -/
def pagerAround (tree : Tree) (id : NodeId) : Option NodeId :=
  (tree.node? id).bind (·.scope.pager)

/-- The node `top` is the node `id` itself, or a form around it, or a form around that one, and so
on. -/
inductive Encloses (tree : Tree) (top : NodeId) : NodeId → Prop
  | self : Encloses tree top top
  | inside {id around : NodeId} :
    tree.formAround id = some around → Encloses tree top around → Encloses tree top id

/-- A node is the root or hangs below an earlier node, in the scope that this one gives to its
children. -/
def Hangs (tree : Tree) (id : NodeId) (node : Node) : Prop :=
  (node.ancestors = [] ∧ node.scope = {}) ∨
    ∃ (up : Nat) (parent : Node), up < id ∧ tree.node? up = some parent ∧
      node.ancestors = up :: parent.ancestors ∧ node.scope = parent.scope.enter up parent.view

/-- Every node hangs below an earlier one. -/
def Linked (tree : Tree) : Prop := ∀ id node, tree.node? id = some node → tree.Hangs id node

/-- A form is a node whose view is that of a form. -/
theorem form?_eq_some {tree : Tree} {id : NodeId} {node : Node} {spec : FormSpec} :
    tree.form? id = some (node, spec) ↔ tree.node? id = some node ∧ node.view = .form spec := by
  unfold form?
  constructor
  · intro h
    split at h
    case h_1 _ hn =>
      split at h
      case h_1 _ hv =>
        cases h
        exact ⟨hn, hv⟩
      case h_2 => cases h
    case h_2 => cases h
  · rintro ⟨hn, hv⟩
    rw [hn]
    dsimp only
    rw [hv]

/-- A node with the view of a form is a form. -/
theorem isSome_form? {tree : Tree} {id : NodeId} {node : Node} {spec : FormSpec}
    (h : tree.node? id = some node) (hv : node.view = .form spec) :
    (tree.form? id).isSome := by
  rw [form?_eq_some.mpr ⟨h, hv⟩]
  rfl

/-- A node has a number below the size of the tree. -/
theorem lt_size {tree : Tree} {id : NodeId} {node : Node} (h : tree.node? id = some node) :
    id < tree.size := by
  obtain ⟨hlt, -⟩ := Array.getElem?_eq_some_iff.mp h
  exact hlt

/-- A number below the size of the tree is that of a node. -/
theorem exists_node {tree : Tree} {id : NodeId} (h : id < tree.size) :
    ∃ node, tree.node? id = some node :=
  ⟨_, Array.getElem?_eq_getElem h⟩

/-- A form has a number below the size of the tree. -/
theorem lt_size_of_form? {tree : Tree} {id : NodeId} (h : (tree.form? id).isSome) :
    id < tree.size := by
  obtain ⟨⟨node, spec⟩, h⟩ := Option.isSome_iff_exists.mp h
  exact lt_size (form?_eq_some.mp h).1

/-- **A declared tree is linked.** -/
theorem linked_ofSpec (spec : Spec) : (Tree.ofSpec spec).Linked := by
  intro id node h
  have hlist : (spec.nodes 0 [] {})[id]? = some node := by
    simpa [node?, ofSpec] using h
  rcases Spec.hangsIn_nodes 0 [] {} spec id node hlist with
    ⟨-, ha, hs⟩ | ⟨j, parent, hj, hp, ha, hs⟩
  · exact .inl ⟨ha, hs⟩
  · refine .inr ⟨j, parent, hj, ?_, by simpa using ha, by simpa using hs⟩
    simpa [node?, ofSpec] using hp

/-! ## What is around a node -/

/-- A form that a scope names was there before, or has just been entered. -/
theorem form_enter {scope : Scope} {id form : NodeId} {view : View}
    (h : (scope.enter id view).form = some form) :
    scope.form = some form ∨ form = id ∧ ∃ spec, view = .form spec := by
  unfold Scope.enter at h
  cases view with
  | form spec => exact .inr ⟨by simpa using h.symm, spec, rfl⟩
  | _ => exact .inl h

/-- A pager that a scope names was there before, or has just been entered. -/
theorem pager_enter {scope : Scope} {id pager : NodeId} {view : View}
    (h : (scope.enter id view).pager = some pager) :
    scope.pager = some pager ∨ pager = id ∧ ∃ spec, view = .pager spec := by
  unfold Scope.enter at h
  cases view with
  | pager spec => exact .inr ⟨by simpa using h.symm, spec, rfl⟩
  | _ => exact .inl h

namespace Linked

variable {tree : Tree} (linked : tree.Linked)
include linked

/-- The nearest form around a node is a form with a smaller number. -/
theorem formAround_spec : ∀ {id form : Nat}, tree.formAround id = some form →
    form < id ∧ (tree.form? form).isSome := by
  intro id
  induction id using Nat.strongRecOn with
  | ind id ih =>
    intro form h
    obtain ⟨node, hn, hf⟩ := Option.bind_eq_some_iff.mp h
    rcases linked id node hn with ⟨-, hs⟩ | ⟨up, parent, hup, hp, -, hs⟩
    · simp [hs] at hf
    · rw [hs] at hf
      rcases form_enter hf with hf | ⟨rfl, spec, hv⟩
      · have haround : tree.formAround up = some form := by simp [formAround, hp, hf]
        have := ih up hup haround
        exact ⟨by omega, this.2⟩
      · exact ⟨hup, isSome_form? hp hv⟩

/-- The nearest pager around a node is a pager with a smaller number. -/
theorem pagerAround_spec : ∀ {id pager : Nat}, tree.pagerAround id = some pager →
    pager < id ∧ tree.isPager pager := by
  intro id
  induction id using Nat.strongRecOn with
  | ind id ih =>
    intro pager h
    obtain ⟨node, hn, hf⟩ := Option.bind_eq_some_iff.mp h
    rcases linked id node hn with ⟨-, hs⟩ | ⟨up, parent, hup, hp, -, hs⟩
    · simp [hs] at hf
    · rw [hs] at hf
      rcases pager_enter hf with hf | ⟨rfl, spec, hv⟩
      · have haround : tree.pagerAround up = some pager := by simp [pagerAround, hp, hf]
        have := ih up hup haround
        exact ⟨by omega, this.2⟩
      · exact ⟨hup, by simp [isPager, view?, hp, hv, View.kind]⟩

/-- The nearest form around a node comes before it. -/
theorem formAround_lt {id form : Nat} (h : tree.formAround id = some form) : form < id :=
  (linked.formAround_spec h).1

/-- What encloses a node does not come after it. -/
theorem le_of_encloses {top id : Nat} (h : tree.Encloses top id) : top ≤ id := by
  induction h with
  | self => exact Nat.le_refl _
  | inside haround _ ih => exact Nat.le_trans ih (Nat.le_of_lt (linked.formAround_lt haround))

/-- A form does not enclose the form around it. -/
theorem not_encloses_around {id around : Nat} (h : tree.formAround id = some around) :
    ¬ tree.Encloses id around := by
  intro hin
  have := linked.le_of_encloses hin
  have := linked.formAround_lt h
  omega

end Linked

/-- Enclosure goes through. -/
theorem Encloses.trans {tree : Tree} {a b c : NodeId} (hab : tree.Encloses a b)
    (hbc : tree.Encloses b c) : tree.Encloses a c := by
  induction hbc with
  | self => exact hab
  | inside h _ ih => exact .inside h ih

end Tree

end FormTree

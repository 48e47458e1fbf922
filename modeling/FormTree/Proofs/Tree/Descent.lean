import FormTree.Proofs.Tree.Links

set_option autoImplicit false

/-!
# What is below a node

The nodes below a node are those whose numbers follow its own, as many as there are. The nodes
around a node are exactly those above it, so that what trickles down from the form or the pager
around a node reaches the node.

## Main definitions

* `FormTree.Tree.Trickles` — what trickles down reaches the nodes that it concerns.

## Main results

* `FormTree.Tree.mem_descendants_ofSpec` — in a declared tree a node is below its ancestors.
* `FormTree.Tree.Linked.form_eq_find?`, `FormTree.Tree.Linked.pager_eq_find?` — the nearest form
  and the nearest pager are the first ones on the way up.
* `FormTree.Tree.trickles_ofSpec` — in a declared tree, what trickles down reaches whom it concerns.
-/

namespace FormTree

/-! ## Listing the nodes -/

namespace Spec

/-- The node at position `i` of a list of nodes, the first of which has number `start`, has as its
ancestors some nodes outside the list, and nodes of the list whose subtrees it is in. -/
def IsBelow (start : NodeId) (outside : List NodeId) (list : List Node) (i : Nat) (node : Node) :
    Prop :=
  ∀ up ∈ node.ancestors, up ∈ outside ∨
    ∃ j parent, j < i ∧ list[j]? = some parent ∧ up = start + j ∧ i < j + parent.size

/-- A node stays in its subtrees when more nodes are listed behind. -/
theorem IsBelow.append {start : NodeId} {outside : List NodeId} {list : List Node} {i : Nat}
    {node : Node} (h : IsBelow start outside list i node) (more : List Node) :
    IsBelow start outside (list ++ more) i node := by
  intro up hup
  rcases h up hup with hout | ⟨j, parent, hj, hp, hstart, hi⟩
  · exact .inl hout
  · obtain ⟨hlt, -⟩ := List.getElem?_eq_some_iff.mp hp
    exact .inr ⟨j, parent, hj, by rw [List.getElem?_append_left hlt, hp], hstart, hi⟩

/-- A node stays in its subtrees when more nodes are listed in front. -/
theorem IsBelow.prepend {start : NodeId} {outside : List NodeId} {list : List Node} {i : Nat}
    {node : Node} (before : List Node) (h : IsBelow (start + before.length) outside list i node) :
    IsBelow start outside (before ++ list) (before.length + i) node := by
  intro up hup
  rcases h up hup with hout | ⟨j, parent, hj, hp, hstart, hi⟩
  · exact .inl hout
  · refine .inr ⟨before.length + j, parent, by omega, ?_, ?_, by omega⟩
    · rw [List.getElem?_append_right (by omega), Nat.add_sub_cancel_left, hp]
    · rw [hstart, Nat.add_assoc]

mutual

/-- Every node of a declared tree is in the subtrees of its ancestors in the tree. -/
theorem isBelow_nodes (start : NodeId) (ancestors : List NodeId) (scope : Scope) :
    ∀ (spec : Spec) (i : Nat) (node : Node), (spec.nodes start ancestors scope)[i]? = some node →
      IsBelow start ancestors (spec.nodes start ancestors scope) i node
  | ⟨view, enable, children⟩, i, node, h => by
    rw [nodes] at h ⊢
    cases i with
    | zero =>
      obtain rfl := by simpa using h
      exact fun up hup => .inl hup
    | succ i =>
      rw [List.getElem?_cons_succ] at h
      have hlt := (List.getElem?_eq_some_iff.mp h).1
      rw [length_nodesAll] at hlt
      intro up hup
      rcases isBelow_nodesAll _ _ _ children i node h up hup with hout | hin
      · rcases List.mem_cons.mp hout with rfl | hout
        · exact .inr ⟨0, _, by omega, rfl, rfl, by dsimp only; omega⟩
        · exact .inl hout
      · obtain ⟨j, parent, hj, hp, hstart, hi⟩ := hin
        exact .inr ⟨j + 1, parent, by omega, hp, by rw [hstart, Nat.add_right_comm]; rfl,
          by omega⟩
termination_by structural spec => spec

/-- Every node of declared siblings is in the subtrees of its ancestors among them. -/
theorem isBelow_nodesAll (start : NodeId) (ancestors : List NodeId) (scope : Scope) :
    ∀ (specs : List Spec) (i : Nat) (node : Node),
      (nodesAll start ancestors scope specs)[i]? = some node →
      IsBelow start ancestors (nodesAll start ancestors scope specs) i node
  | [], i, node, h => by simp [nodesAll] at h
  | spec :: rest, i, node, h => by
    rw [nodesAll] at h ⊢
    have hlen := length_nodes start ancestors scope spec
    rcases Nat.lt_or_ge i spec.size with hi | hi
    · rw [List.getElem?_append_left (by omega)] at h
      exact (isBelow_nodes start ancestors scope spec i node h).append _
    · rw [List.getElem?_append_right (by omega), hlen] at h
      have hrest := isBelow_nodesAll _ _ _ rest _ node h
      rw [← hlen] at hrest
      have := hrest.prepend
      rwa [hlen, Nat.add_sub_cancel' hi] at this
termination_by structural specs => specs

end

end Spec

namespace Tree

/-- **In a declared tree a node is below its ancestors.** -/
theorem mem_descendants_ofSpec {spec : Spec} {id up : NodeId} {node : Node}
    (h : (ofSpec spec).node? id = some node) (hup : up ∈ node.ancestors) :
    id ∈ (ofSpec spec).descendants up := by
  have hlist : (spec.nodes 0 [] {})[id]? = some node := by
    simpa [node?, ofSpec] using h
  rcases Spec.isBelow_nodes 0 [] {} spec id node hlist up hup with
    hout | ⟨j, parent, hj, hp, rfl, hi⟩
  · cases hout
  · have hparent : (ofSpec spec).node? (0 + j) = some parent := by
      simpa [node?, ofSpec] using hp
    rw [descendants, hparent, List.mem_range'_1]
    unfold NodeId at *
    omega

/-! ## What is around a node -/

/-- What trickles down from a form or a pager reaches the nodes around which it is the nearest
one. -/
structure Trickles (tree : Tree) : Prop where
  form : ∀ id form, tree.formAround id = some form → id ∈ tree.descendants form
  pager : ∀ id pager, tree.pagerAround id = some pager → id ∈ tree.descendants pager

namespace Linked

variable {tree : Tree} (linked : tree.Linked)
include linked

/-- The nearest form around a node is the first form on the way up. -/
theorem form_eq_find? : ∀ {id : Nat} {node : Node}, tree.node? id = some node →
    node.scope.form = node.ancestors.find? fun up => (tree.form? up).isSome := by
  intro id
  induction id using Nat.strongRecOn with
  | ind id ih =>
    intro node hnode
    rcases linked id node hnode with ⟨ha, hs⟩ | ⟨up, parent, hup, hp, ha, hs⟩
    · rw [ha, hs]
      rfl
    · rw [ha, hs, List.find?_cons]
      have hrest := ih up hup hp
      cases hview : parent.view with
      | form spec => rw [isSome_form? hp hview]; rfl
      | _ =>
        have hnone : tree.form? up = none := by simp [form?, hp, hview]
        rw [hnone]
        exact hrest

/-- The nearest pager around a node is the first pager on the way up. -/
theorem pager_eq_find? : ∀ {id : Nat} {node : Node}, tree.node? id = some node →
    node.scope.pager = node.ancestors.find? tree.isPager := by
  intro id
  induction id using Nat.strongRecOn with
  | ind id ih =>
    intro node hnode
    rcases linked id node hnode with ⟨ha, hs⟩ | ⟨up, parent, hup, hp, ha, hs⟩
    · rw [ha, hs]
      rfl
    · rw [ha, hs, List.find?_cons]
      have hrest := ih up hup hp
      have hpager : tree.isPager up = decide (parent.view.kind = .pager) := by
        simp [isPager, view?, hp]
      rw [hpager]
      cases hview : parent.view with
      | pager spec => rfl
      | _ => exact hrest

theorem formAround_eq_find? (id : NodeId) :
    tree.formAround id = (tree.ancestors id).find? fun up => (tree.form? up).isSome := by
  unfold formAround ancestors
  cases hnode : tree.node? id with
  | none => rfl
  | some node => exact linked.form_eq_find? hnode

theorem pagerAround_eq_find? (id : NodeId) :
    tree.pagerAround id = (tree.ancestors id).find? tree.isPager := by
  unfold pagerAround ancestors
  cases hnode : tree.node? id with
  | none => rfl
  | some node => exact linked.pager_eq_find? hnode

end Linked

/-- In a declared tree the first node comes before all others, which are below it. -/
theorem ids_ofSpec (spec : Spec) : (ofSpec spec).ids = 0 :: (ofSpec spec).descendants 0 := by
  have hsize : (ofSpec spec).size = spec.size := by
    rw [size, ofSpec, List.size_toArray, Spec.length_nodes]
  obtain ⟨view, enable, children⟩ := spec
  have hnode : ((ofSpec ⟨view, enable, children⟩).node? 0).map (·.size) =
      some (1 + Spec.sizeAll children) := by
    simp [node?, ofSpec, Spec.nodes]
  obtain ⟨node, hroot, hnodeSize⟩ := Option.map_eq_some_iff.mp hnode
  have hspec : (⟨view, enable, children⟩ : Spec).size = 1 + Spec.sizeAll children := by
    rw [Spec.size]
  rw [ids, hsize, hspec, descendants, hroot]
  dsimp only
  rw [hnodeSize, List.range_eq_range', Nat.add_comm, List.range'_succ, Nat.add_sub_cancel]

/-- **In a declared tree, what trickles down reaches whom it concerns.** -/
theorem trickles_ofSpec (spec : Spec) : (ofSpec spec).Trickles where
  form id form haround := by
    obtain ⟨node, hnode, hform⟩ := Option.bind_eq_some_iff.mp haround
    rw [(linked_ofSpec spec).form_eq_find? hnode] at hform
    exact mem_descendants_ofSpec hnode (List.mem_of_find?_eq_some hform)
  pager id pager haround := by
    obtain ⟨node, hnode, hpager⟩ := Option.bind_eq_some_iff.mp haround
    rw [(linked_ofSpec spec).pager_eq_find? hnode] at hpager
    exact mem_descendants_ofSpec hnode (List.mem_of_find?_eq_some hpager)

end Tree

end FormTree

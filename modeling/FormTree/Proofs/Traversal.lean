import FormTree.Proofs.Layout.Keeping
import FormTree.Proofs.Layout.Run
import FormTree.Proofs.Tree.Addresses

set_option autoImplicit false

/-!
# The order of a layout and its traversals

An active layout holds the declared nodes in pre-order, each with the links that its declaration
gives it, and events travel along these links: down with a stack of nodes that are still to be
visited, up from parent to parent.

## Main definitions

* `FormTree.Tree.Declares` — a node of a tree is a declared node in its place, with its links.
* `FormTree.Layout.Walks` — going down with a stack of nodes that are still to be visited.
* `FormTree.Layout.Rises` — going up from parent to parent.

## Main results

* `FormTree.Tree.declares_ofSpec` — the nodes of a declared tree are the declared nodes.
* `FormTree.Layout.walks_trickle`, `FormTree.Layout.rises_bubble` — trickling and bubbling events
  go down and up along the links.
* `FormTree.Layout.preorder_of_activate` — an active layout holds the declared nodes in pre-order,
  and its traversals visit exactly the nodes that they should.
-/

namespace FormTree

namespace Tree

/-! ## Declared nodes in their places -/

/-- The node `id` of a tree is what is declared at `address`, in its place: other nodes that it is
linked to are told by their addresses. -/
structure Declares (tree : Tree) (spec : Spec) (id : NodeId) (node : Node) (address : List Nat)
    (sub : Spec) : Prop where
  /-- The address has the place `id` in the pre-order. -/
  place : spec.addresses[id]? = some address
  /-- What is declared there. -/
  declared : spec.at? address = some sub
  /-- The node is what it is declared to be. -/
  view : node.view = sub.view
  /-- It has the declared rules. -/
  enable : node.enable = sub.enable
  /-- It has as many nodes below it as are declared. -/
  size : node.size = sub.size
  /-- Its children are the declared ones, in order. -/
  children : node.children.map (spec.addresses[·]?) =
    (List.range sub.children.length).map fun child => some (address ++ [child])
  /-- The nodes above it are those from the one around it up to the root. -/
  ancestors : node.ancestors.map (spec.addresses[·]?) = (Spec.above address).map some
  /-- Its parent is the node around it, and the root has none. -/
  parent : node.parent?.map (spec.addresses[·]?) =
    if address = [] then none else some (some address.dropLast)
  /-- A parent comes before its children. -/
  after_parent : ∀ up, node.parent? = some up → up < id
  /-- Its form is the nearest one above, if there is one. -/
  form : node.scope.form.map (spec.addresses[·]?) = (spec.nearest? .form address).map some
  /-- Its pager is the nearest one above, if there is one. -/
  pager : node.scope.pager.map (spec.addresses[·]?) = (spec.nearest? .pager address).map some

variable {spec sub : Spec} {address : List Nat} {id : NodeId} {node : Node}

/-- The number of nodes of a declared tree. -/
lemma size_ofSpec (spec : Spec) : (ofSpec spec).size = spec.size := by
  rw [size, ofSpec, List.size_toArray, Spec.length_nodes]

/-- The nodes of a declared tree are listed in pre-order. -/
lemma node?_ofSpec (spec : Spec) (id : NodeId) :
    (ofSpec spec).node? id = (spec.nodes 0 [] {})[id]? := by
  simp [node?, ofSpec]

/-- What is declared at an address has its place in the tree. -/
lemma node?_number (h : spec.at? address = some sub) :
    ∃ node, (ofSpec spec).node? (spec.number address) = some node ∧ node.view = sub.view ∧
      node.enable = sub.enable ∧ node.size = sub.size ∧
      node.children = (List.range sub.children.length).map
        (fun child => spec.number (address ++ [child])) ∧
      node.ancestors = (Spec.above address).map spec.number := by
  obtain ⟨node, hnode, hview, henable, hsize, hchildren, hancestors⟩ :=
    Spec.getElem?_nodes_number 0 [] {} h
  refine ⟨node, by rw [node?_ofSpec, hnode], hview, henable, hsize, ?_, ?_⟩
  · rw [hchildren, ← Spec.numbers_children h, Nat.zero_add]
  · rw [hancestors, List.append_nil]
    simp only [Nat.zero_add]

/-- A node is of a kind if what is declared at its address is. -/
lemma kind_number (kind : NodeKind) (h : spec.at? address = some sub) :
    ((ofSpec spec).view? (spec.number address)).any (·.kind = kind) =
      (spec.at? address).any (·.view.kind = kind) := by
  obtain ⟨node, hnode, hview, -⟩ := node?_number h
  rw [view?, hnode, h]
  simp [hview]

/-- A node is a form if its view is of this kind. -/
lemma isSome_form?_eq (tree : Tree) (id : NodeId) :
    (tree.form? id).isSome = (tree.view? id).any (·.kind = .form) := by
  unfold form? view?
  cases tree.node? id with
  | none => rfl
  | some node =>
    obtain ⟨view, enable, ancestors, children, size, scope⟩ := node
    cases view <;> rfl

/-- The first node of a kind on the way up from a node is the nearest one above its address. -/
lemma find?_above (kind : NodeKind) (h : spec.at? address = some sub) :
    (((Spec.above address).map spec.number).find? fun up =>
        ((ofSpec spec).view? up).any (·.kind = kind)).map (spec.addresses[·]?) =
      (spec.nearest? kind address).map some := by
  -- something is declared at every address above
  have hup : ∀ up ∈ Spec.above address, ∃ outer, spec.at? up = some outer :=
    fun up hmem => Spec.exists_at?_of_mem_above hmem h
  rw [Spec.nearest?, List.find?_map, Option.map_map]
  have hcongr : (Spec.above address).find?
      ((fun up => ((ofSpec spec).view? up).any (·.kind = kind)) ∘ spec.number) =
      (Spec.above address).find? fun up => (spec.at? up).any (·.view.kind = kind) := by
    rw [← List.head?_filter, ← List.head?_filter]
    congr 1
    apply List.filter_congr
    intro up hmem
    obtain ⟨outer, houter⟩ := hup up hmem
    exact kind_number kind houter
  rw [hcongr]
  cases hfind : (Spec.above address).find? fun up => (spec.at? up).any (·.view.kind = kind) with
  | none => rfl
  | some up =>
    obtain ⟨outer, houter⟩ := hup up (List.mem_of_find?_eq_some hfind)
    exact congrArg some (Spec.getElem?_addresses_number houter)

/-- **The nodes of a declared tree are the declared nodes**, in pre-order and with all their links.

**Proof sketch.** The address at the place of the node in the pre-order has the number of the node,
so that the node is the one that is declared there. Its links are the numbers of addresses, which
have their places in the pre-order. The form and the pager around it are the first ones on the way
up. -/
theorem declares_ofSpec (h : (ofSpec spec).node? id = some node) :
    ∃ address sub, (ofSpec spec).Declares spec id node address sub := by
  have hlt : id < spec.addresses.length := by
    rw [Spec.length_addresses, ← size_ofSpec]
    exact lt_size h
  have hplace : spec.addresses[id]? = some spec.addresses[id] := List.getElem?_eq_getElem hlt
  generalize spec.addresses[id] = address at hplace
  obtain ⟨sub, hsub, rfl⟩ := Spec.number_of_getElem? hplace
  obtain ⟨node', hnode', hview, henable, hsize, hchildren, hancestors⟩ := node?_number hsub
  obtain rfl : node = node' := Option.some.inj (h.symm.trans hnode')
  have hlinked := linked_ofSpec spec
  -- a link to a number is a link to the address with this number
  have hlink : ∀ up outer, spec.at? up = some outer →
      spec.addresses[spec.number up]? = some up := fun up outer =>
    Spec.getElem?_addresses_number
  have habove : node.ancestors.map (spec.addresses[·]?) = (Spec.above address).map some := by
    rw [hancestors, List.map_map]
    apply List.map_congr_left
    intro up hmem
    obtain ⟨outer, houter⟩ := Spec.exists_at?_of_mem_above hmem hsub
    exact hlink up outer houter
  refine ⟨address, sub, ?_⟩
  constructor
  case place => exact hplace
  case declared => exact hsub
  case view => exact hview
  case enable => exact henable
  case size => exact hsize
  case children =>
    rw [hchildren, List.map_map]
    apply List.map_congr_left
    intro child hmem
    have hat := Spec.at?_concat hsub child
    rw [List.getElem?_eq_getElem (List.mem_range.mp hmem)] at hat
    exact hlink _ _ hat
  case ancestors => exact habove
  case parent =>
    rw [Node.parent?, ← List.head?_map, habove]
    rcases List.eq_nil_or_concat address with rfl | ⟨up, last, rfl⟩
    · rfl
    · rw [List.concat_eq_append, Spec.above_concat, if_neg (by simp), List.dropLast_concat]
      rfl
  case after_parent =>
    intro up hparent
    rcases hlinked _ node h with ⟨hnil, -⟩ | ⟨up', parent, hup, -, hcons, -⟩
    · rw [Node.parent?, hnil] at hparent
      cases hparent
    · rw [Node.parent?, hcons] at hparent
      cases hparent
      exact hup
  case form =>
    rw [hlinked.form_eq_find? h, hancestors]
    simp only [isSome_form?_eq]
    exact find?_above .form hsub
  case pager =>
    rw [hlinked.pager_eq_find? h, hancestors]
    exact find?_above .pager hsub

/-- **What is below a node is what its address goes on to.** -/
theorem mem_descendants_iff (h : (ofSpec spec).node? id = some node)
    (haddress : spec.addresses[id]? = some address) (inner : NodeId) :
    inner ∈ (ofSpec spec).descendants id ↔
      ∃ other, spec.addresses[inner]? = some other ∧ address <+: other ∧ address ≠ other := by
  obtain ⟨sub, hsub, rfl⟩ := Spec.number_of_getElem? haddress
  obtain ⟨node', hnode', -, -, hsize, -⟩ := node?_number hsub
  obtain rfl : node = node' := Option.some.inj (h.symm.trans hnode')
  have hbound := Spec.number_lt_size hsub
  have hpos := Spec.size_pos sub
  have hmem : inner ∈ (ofSpec spec).descendants (spec.number address) ↔
      spec.number address < inner ∧ inner < spec.number address + sub.size := by
    rw [descendants, h, List.mem_range'_1, hsize]
    unfold NodeId at *
    omega
  rw [hmem]
  constructor
  · rintro ⟨hlt, hlast⟩
    have hinner : inner < spec.addresses.length := by
      rw [Spec.length_addresses]
      unfold NodeId at *
      omega
    have hplace := List.getElem?_eq_getElem hinner
    obtain ⟨other, hother, hnumber⟩ := Spec.number_of_getElem? hplace
    refine ⟨_, hplace, (Spec.number_lt_iff hsub hother).mp ?_⟩
    rw [hnumber]
    exact ⟨hlt, hlast⟩
  · rintro ⟨other, hplace, hprefix⟩
    obtain ⟨outer, hother, rfl⟩ := Spec.number_of_getElem? hplace
    exact (Spec.number_lt_iff hsub hother).mpr hprefix

/-- **The first node with an identifier is found**, if there is one. -/
theorem find?_eq_some_iff (tree : Tree) (identifier : String) (id : NodeId) :
    tree.find? identifier = some id ↔
      (∃ node, tree.node? id = some node ∧ node.view.identifier? = some identifier) ∧
      ∀ before < id, ∀ node, tree.node? before = some node →
        node.view.identifier? ≠ some identifier := by
  rw [find?, Array.findIdx?_eq_some_iff_getElem]
  constructor
  · rintro ⟨hlt, hid, hbefore⟩
    refine ⟨⟨_, Array.getElem?_eq_getElem hlt, by simpa using hid⟩, ?_⟩
    intro before hless node hnode
    obtain ⟨hbound, rfl⟩ := Array.getElem?_eq_some_iff.mp hnode
    simpa using hbefore before hless
  · rintro ⟨⟨node, hnode, hid⟩, hbefore⟩
    obtain ⟨hlt, rfl⟩ := Array.getElem?_eq_some_iff.mp hnode
    refine ⟨hlt, by simpa using hid, fun before hless => ?_⟩
    have := hbefore before hless _ (Array.getElem?_eq_getElem (by omega))
    simpa using this

end Tree

namespace Layout

variable {layout layout' : Layout} {id : NodeId} {node : Node} {spec : Spec}

/-! ## The tree stays -/

lemma tree_changeForm (layout : Layout) (id : NodeId) (intent : FormIntent) :
    (layout.changeForm id intent).tree = layout.tree :=
  (congrArg Layout.tree (frame_changeForm layout id intent) :)

lemma tree_changePager (layout : Layout) (id : NodeId) (intent : PagerIntent) :
    (layout.changePager id intent).tree = layout.tree :=
  (congrArg Layout.tree (frame_changePager layout id intent) :)

/-- A node that receives an event does not touch the tree. -/
lemma tree_receive (layout : Layout) (event : Event) (id : NodeId) :
    (layout.receive event id).tree = layout.tree := by
  have hrefresh : ∀ (layout : Layout) (node : Node),
      (layout.refreshNode id node).tree = layout.tree := by
    intro layout node
    unfold refreshNode
    split <;> rfl
  have hsubmit : ∀ (spec : FormSpec) (button : Option String),
      (layout.submitForm id spec button).tree = layout.tree := by
    intro spec button
    unfold submitForm applyUpdate
    dsimp only
    split
    · rfl
    · split
      · exact tree_changeForm layout id .submit
      · split <;> exact tree_changeForm layout id .submit
  unfold receive
  split
  · rfl
  · split
    · split
      · exact hrefresh _ _
      · rfl
    · split
      · exact hrefresh _ _
      · rfl
    · split
      · exact hsubmit _ _
      · rfl
    · rfl

/-- A node that is offered an event does not touch the tree. -/
lemma tree_offer (layout : Layout) (id : NodeId) (event : Event) :
    (layout.offer id event).1.tree = layout.tree := by
  unfold offer
  split
  · unfold offerForm
    split
    · rfl
    · split
      · rfl
      · dsimp only
        split <;> exact tree_changeForm _ _ _
  · unfold offerPager
    split
    · exact tree_changePager _ _ _
    · exact tree_changePager _ _ _
    · rfl
  · rfl

/-! ## Going down -/

/-- Going down with a stack of nodes that are still to be visited: the next node receives the
event, and its children are put on top of the stack, the first one on top. The visited nodes are
listed. -/
inductive Walks (event : Event) : List NodeId → List NodeId → Layout → Layout → Prop
  | done (layout : Layout) : Walks event [] [] layout layout
  | visit {id : NodeId} {node : Node} {stack visited : List NodeId} {layout last : Layout} :
    (layout.receive event id).tree.node? id = some node →
    Walks event (node.children ++ stack) visited (layout.receive event id) last →
    Walks event (id :: stack) (id :: visited) layout last

/-- The nodes of a layout's tree from the number `start` on are the listed ones. -/
def HasNodes (layout : Layout) (start : NodeId) (list : List Node) : Prop :=
  ∀ i node, list[i]? = some node → layout.tree.node? (start + i) = some node

lemma HasNodes.left {start : NodeId} {list more : List Node}
    (h : layout.HasNodes start (list ++ more)) : layout.HasNodes start list := by
  intro i node hnode
  obtain ⟨hlt, -⟩ := List.getElem?_eq_some_iff.mp hnode
  exact h i node (by rw [List.getElem?_append_left hlt, hnode])

lemma HasNodes.right {start : NodeId} {list more : List Node}
    (h : layout.HasNodes start (list ++ more)) : layout.HasNodes (start + list.length) more := by
  intro i node hnode
  rw [Nat.add_assoc]
  apply h
  rw [List.getElem?_append_right (by omega), Nat.add_sub_cancel_left, hnode]

lemma HasNodes.tail {start : NodeId} {node : Node} {rest : List Node}
    (h : layout.HasNodes start (node :: rest)) : layout.HasNodes (start + 1) rest := by
  rw [← List.singleton_append] at h
  exact h.right

lemma HasNodes.congr {start : NodeId} {list : List Node} (h : layout.HasNodes start list)
    (htree : layout'.tree = layout.tree) : layout'.HasNodes start list := by
  intro i node hnode
  rw [htree]
  exact h i node hnode

lemma tree_foldl_receive (event : Event) (visited : List NodeId) (layout : Layout) :
    (visited.foldl (receive event) layout).tree = layout.tree := by
  induction visited generalizing layout with
  | nil => rfl
  | cons id visited ih => exact (ih _).trans (tree_receive layout event id)

mutual

/-- The nodes of a declared tree are visited in pre-order before what else is on the stack.

**Proof sketch.** Induction on the declaration. The root is taken from the stack and its children
are put there, which are visited one subtree after the other, before what was below them. -/
theorem walks_nodes (event : Event) (ancestors : List NodeId) (scope : Scope) :
    ∀ (spec : Spec) {start : NodeId} {stack visited : List NodeId} {layout last : Layout},
      layout.HasNodes start (spec.nodes start ancestors scope) →
      Walks event stack visited
        ((List.range' start spec.size).foldl (receive event) layout) last →
      Walks event (start :: stack) (List.range' start spec.size ++ visited) layout last
  | ⟨view, enable, children⟩, start, stack, visited, layout, last, hnodes, hrest => by
    rw [Spec.nodes] at hnodes
    have hroot := hnodes 0 _ rfl
    have hbelow : layout.HasNodes (start + 1) (Spec.nodesAll (start + 1) (start :: ancestors)
        (scope.enter start view) children) := hnodes.tail
    have htree := tree_receive layout event start
    have hrange : List.range' start (Spec.size ⟨view, enable, children⟩) =
        start :: List.range' (start + 1) (Spec.sizeAll children) := by
      rw [Spec.size, Nat.add_comm, List.range'_succ]
    rw [hrange] at hrest ⊢
    refine .visit (by rw [htree]; exact hroot) ?_
    exact walks_nodesAll event _ _ children (hbelow.congr htree) hrest
termination_by structural spec => spec

theorem walks_nodesAll (event : Event) (ancestors : List NodeId) (scope : Scope) :
    ∀ (specs : List Spec) {start : NodeId} {stack visited : List NodeId} {layout last : Layout},
      layout.HasNodes start (Spec.nodesAll start ancestors scope specs) →
      Walks event stack visited
        ((List.range' start (Spec.sizeAll specs)).foldl (receive event) layout) last →
      Walks event (Spec.numbers start specs ++ stack)
        (List.range' start (Spec.sizeAll specs) ++ visited) layout last
  | [], start, stack, visited, layout, last, hnodes, hrest => hrest
  | spec :: rest, start, stack, visited, layout, last, hnodes, hrest => by
    rw [Spec.nodesAll] at hnodes
    have hbehind := hnodes.right
    rw [Spec.length_nodes] at hbehind
    have hrange : List.range' start (Spec.sizeAll (spec :: rest)) =
        List.range' start spec.size ++ List.range' (start + spec.size) (Spec.sizeAll rest) := by
      rw [Spec.sizeAll, ← List.range'_append, Nat.one_mul]
    rw [hrange, List.foldl_append] at hrest
    rw [hrange, List.append_assoc, Spec.numbers]
    apply walks_nodes event ancestors scope spec hnodes.left
    exact walks_nodesAll event ancestors scope rest
      (hbehind.congr (tree_foldl_receive event _ layout)) hrest
termination_by structural specs => specs

end

/-- **A trickling event goes down with a stack**, on which at first the children of its origin
are. -/
theorem walks_trickle (htree : layout.tree = Tree.ofSpec spec)
    (hnode : layout.tree.node? id = some node) (event : Event) :
    Walks event node.children (layout.tree.descendants id) layout (layout.trickle id event) := by
  have hlisted := hnode
  rw [htree] at hlisted
  obtain ⟨address, ⟨view, enable, children⟩, hdeclares⟩ := Tree.declares_ofSpec hlisted
  obtain ⟨-, -, rfl⟩ := Spec.number_of_getElem? hdeclares.place
  have hsub := hdeclares.declared
  obtain ⟨inner, hinner⟩ := Spec.getElem?_nodes_add 0 [] {} hsub
  rw [Nat.zero_add] at hinner
  generalize (Spec.above address).map _ ++ [] = above at hinner
  -- from the origin on, the tree lists what is declared there
  have hbelow : layout.HasNodes (spec.number address)
      (Spec.nodes (spec.number address) above inner ⟨view, enable, children⟩) := by
    intro i other hother
    obtain ⟨hlt, -⟩ := List.getElem?_eq_some_iff.mp hother
    rw [Spec.length_nodes] at hlt
    rw [htree, Tree.node?_ofSpec, hinner i hlt, hother]
  rw [Spec.nodes] at hbelow
  obtain rfl := Option.some.inj (hnode.symm.trans (hbelow 0 _ rfl))
  have hdescendants : layout.tree.descendants (spec.number address) =
      List.range' (spec.number address + 1) (Spec.sizeAll children) := by
    rw [Tree.descendants, hnode]
    dsimp only
    rw [Nat.add_sub_cancel_left]
  have hwalks := walks_nodesAll event _ _ children hbelow.tail (Walks.done _)
  rw [List.append_nil, List.append_nil] at hwalks
  rw [trickle, hdescendants]
  exact hwalks

/-- **A broadcast goes down with a stack**, on which at first the root is. -/
theorem walks_broadcast (htree : layout.tree = Tree.ofSpec spec) (event : Event) :
    Walks event [0] layout.tree.ids layout (layout.broadcast event) := by
  have hnodes : layout.HasNodes 0 (spec.nodes 0 [] {}) := by
    intro i node hnode
    rw [htree, Tree.node?_ofSpec, Nat.zero_add, hnode]
  have hids : layout.tree.ids = List.range' 0 spec.size := by
    rw [Tree.ids, htree, Tree.size_ofSpec, List.range_eq_range']
  have hfold : layout.broadcast event = layout.tree.ids.foldl (receive event) layout := by
    rw [broadcast, trickle, tree_receive, htree, Tree.ids_ofSpec, List.foldl_cons]
  have hrest : Walks event [] [] ((List.range' 0 spec.size).foldl (receive event) layout)
      ((List.range' 0 spec.size).foldl (receive event) layout) := .done _
  have hwalks := walks_nodes event [] {} spec hnodes hrest
  rw [List.append_nil, ← hids] at hwalks
  rw [hfold]
  exact hwalks

/-! ## Going up -/

/-- Going up from parent to parent: a node is offered the event, and unless it consumes it, what it
hands on goes to its parent, and to the root of the layout where there is none. The visited nodes
are listed, and it is told whether one of them consumed the event. -/
inductive Rises (origin : NodeId) :
    Option NodeId → Event → List NodeId → Bool → Layout → Layout → Prop
  | root (event : Event) (layout : Layout) :
    Rises origin none event [] false layout (layout.atRoot origin event)
  | consumed {id : NodeId} {event : Event} {layout last : Layout} :
    layout.offer id event = (last, .stop) → Rises origin (some id) event [id] true layout last
  | passed {id : NodeId} {node : Node} {event handed : Event} {visited : List NodeId}
      {isConsumed : Bool} {layout between last : Layout} :
    layout.offer id event = (between, .next handed) → between.tree.node? id = some node →
    Rises origin node.parent? handed visited isConsumed between last →
    Rises origin (some id) event (id :: visited) isConsumed layout last

/-- **A bubbling event goes up from parent to parent.** Unless it is consumed it visits all nodes
above its origin, and otherwise the nearest of them.

**Proof sketch.** Induction on the nodes above: the first of them is the parent, and those above the
parent are the others. -/
theorem rises_bubbleTo (origin : NodeId) : ∀ (above : List NodeId) (event : Event)
    (layout : Layout) {id : NodeId} {node : Node}, layout.tree.Linked →
    layout.tree.node? id = some node → node.ancestors = above →
    ∃ visited isConsumed,
      Rises origin node.parent? event visited isConsumed layout
        (bubbleTo origin above event layout) ∧
      visited <+: above ∧ (isConsumed = false → visited = above) := by
  intro above
  induction above with
  | nil =>
    intro event layout id node hlinked hnode habove
    refine ⟨[], false, ?_, List.prefix_refl _, fun _ => rfl⟩
    rw [Node.parent?, habove]
    exact .root event layout
  | cons up above ih =>
    intro event layout id node hlinked hnode habove
    rw [Node.parent?, habove, List.head?_cons, bubbleTo]
    obtain ⟨parent, hparent, hrest⟩ : ∃ parent, layout.tree.node? up = some parent ∧
        parent.ancestors = above := by
      rcases hlinked id node hnode with ⟨hnil, -⟩ | ⟨up', parent, -, hparent, hcons, -⟩
      · rw [hnil] at habove
        cases habove
      · rw [hcons] at habove
        cases habove
        exact ⟨parent, hparent, rfl⟩
    have htree := tree_offer layout up event
    cases hoffer : layout.offer up event with
    | mk between propagation =>
      rw [hoffer] at htree
      dsimp only at htree ⊢
      cases propagation with
      | stop =>
        refine ⟨[up], true, .consumed hoffer, by simp, ?_⟩
        intro hfalse
        cases hfalse
      | next handed =>
        obtain ⟨visited, isConsumed, hrises, hprefix, hall⟩ :=
          ih handed between (by rwa [htree]) (by rw [htree]; exact hparent) hrest
        refine ⟨up :: visited, isConsumed, ?_, ?_, ?_⟩
        · exact .passed hoffer (by rw [htree]; exact hparent) hrises
        · exact List.cons_prefix_cons.mpr ⟨rfl, hprefix⟩
        · intro hfalse
          rw [hall hfalse]

theorem rises_bubble (linked : layout.tree.Linked) (hnode : layout.tree.node? id = some node)
    (event : Event) :
    ∃ visited isConsumed,
      Rises id node.parent? event visited isConsumed layout (layout.bubble id event) ∧
      visited <+: node.ancestors ∧ (isConsumed = false → visited = node.ancestors) := by
  have hancestors : layout.tree.ancestors id = node.ancestors := by
    rw [Tree.ancestors, hnode]
  rw [bubble, hancestors]
  exact rises_bubbleTo id node.ancestors event layout linked hnode rfl

/-! ## The order of a layout -/

/-- **An active layout holds the declared nodes in pre-order, and its traversals visit exactly the
nodes that they should.** The addresses at which something is declared are listed in ascending
order, and the node with number `id` is what is declared at the `id`-th of them, linked as it is
declared. This tree stays whatever happens. In every layout with this tree,

* a trickling event goes down with a stack, and visits exactly the nodes whose addresses go on from
  that of its origin, in the order of their numbers;
* a broadcast goes down from the root in the same way, and visits every node once, in this order;
* a bubbling event goes up from parent to parent, and visits exactly the nodes above its origin,
  nearest first, unless one of them consumes it;
* the node that is found for an identifier is the first one that has it. -/
theorem preorder_of_activate {environment : Environment}
    (h : activate environment spec = .ok layout) :
    (spec.addresses.Pairwise (· < ·) ∧
      ∀ address, address ∈ spec.addresses ↔ (spec.at? address).isSome) ∧
    (layout.tree.size = spec.size ∧ spec.addresses.length = spec.size ∧
      ∀ id node, layout.tree.node? id = some node →
        ∃ address sub, layout.tree.Declares spec id node address sub) ∧
    (∀ actions, (layout.acts actions).tree = layout.tree) ∧
    ∀ later : Layout, later.tree = layout.tree →
      (∀ id node address, later.tree.node? id = some node → spec.addresses[id]? = some address →
        ∀ event,
          (∃ visited, Walks event node.children visited later (later.trickle id event) ∧
            visited.Pairwise (· < ·) ∧
            ∀ inner, inner ∈ visited ↔ ∃ other, spec.addresses[inner]? = some other ∧
              address <+: other ∧ address ≠ other) ∧
          ∃ visited isConsumed,
            Rises id node.parent? event visited isConsumed later (later.bubble id event) ∧
            visited <+: node.ancestors ∧ (isConsumed = false → visited = node.ancestors)) ∧
      (∀ event, Walks event [0] (List.range spec.size) later (later.broadcast event)) ∧
      ∀ identifier id, later.tree.find? identifier = some id ↔
        (∃ node, later.tree.node? id = some node ∧ node.view.identifier? = some identifier) ∧
        ∀ before < id, ∀ node, later.tree.node? before = some node →
          node.view.identifier? ≠ some identifier := by
  obtain ⟨hsound, htree, -⟩ := sound_of_activate h
  refine ⟨⟨Spec.pairwise_addresses spec, fun _ => Spec.mem_addresses⟩,
    ⟨by rw [htree, Tree.size_ofSpec], Spec.length_addresses spec, ?_⟩,
    fun actions => (sound_acts hsound actions).2, ?_⟩
  · intro id node hnode
    rw [htree] at hnode ⊢
    exact Tree.declares_ofSpec hnode
  · intro later hlater
    rw [htree] at hlater
    refine ⟨?_, ?_, fun identifier id => Tree.find?_eq_some_iff later.tree identifier id⟩
    · intro id node address hnode haddress event
      have hlisted := hnode
      rw [hlater] at hlisted
      refine ⟨⟨_, walks_trickle hlater hnode event, ?_, fun inner => ?_⟩, ?_⟩
      · rw [Tree.descendants, hnode]
        exact List.pairwise_lt_range'
      · rw [hlater]
        exact Tree.mem_descendants_iff hlisted haddress inner
      · exact rises_bubble (by rw [hlater]; exact Tree.linked_ofSpec spec) hnode event
    · intro event
      have hwalks := walks_broadcast hlater event
      rwa [Tree.ids, hlater, Tree.size_ofSpec] at hwalks

/-- A form with a pager of two pages, on the second of which there is a nested form. -/
def interview : Spec :=
  ⟨.form { id := "interview" }, [], [
    ⟨.pager { id := "pages" }, [], [
      ⟨.input { id := "name", kind := .textInput }, [.pagerNext], []⟩,
      ⟨.form { id := "remarks", submit := none }, [], [
        ⟨.input { id := "remark", kind := .textInput }, [], []⟩]⟩]⟩,
    ⟨.button { id := "send", behaviors := [.formSubmit] }, [], []⟩]⟩

/-- Going down from the pager visits its pages and what is on them, and not the button behind it. -/
theorem preorder_of_activate_interview :
    ∃ layout, activate {} interview = .ok layout ∧ layout.tree.size = 6 ∧
      interview.addresses = [[], [0], [0, 0], [0, 1], [0, 1, 0], [1]] ∧
      (∃ visited, Walks (.layoutSubmit none) [2, 3] visited layout
          (layout.trickle 1 (.layoutSubmit none)) ∧ 4 ∈ visited ∧ 5 ∉ visited) ∧
      ∀ before < 4, ∀ node, layout.tree.node? before = some node →
        node.view.identifier? ≠ some "remark" := by
  obtain ⟨layout, hactive⟩ : ∃ layout, activate {} interview = .ok layout :=
    ⟨_, activate_eq_ok.mpr ⟨by decide, rfl⟩⟩
  have haddresses :
      interview.addresses = [[], [0], [0, 0], [0, 1], [0, 1, 0], [1]] := by decide
  obtain ⟨-, ⟨hsize, -, -⟩, -, hlater⟩ := preorder_of_activate hactive
  obtain ⟨hnodes, -, hfind⟩ := hlater layout rfl
  have htree := (sound_of_activate hactive).2.1
  have hpager : layout.tree.node? 1 = some
      { view := .pager { id := "pages" }, enable := [], ancestors := [0], children := [2, 3]
        size := 4, scope := ⟨some 0, none⟩ } := by
    rw [htree]
    decide
  have hremark : layout.tree.find? "remark" = some 4 := by
    rw [htree]
    decide +kernel
  obtain ⟨visited, hwalks, -, hmem⟩ :=
    (hnodes 1 _ [0] hpager (by rw [haddresses]; rfl) (.layoutSubmit none)).1
  refine ⟨layout, hactive, ?_, haddresses, ⟨visited, hwalks, ?_, ?_⟩,
    ((hfind "remark" 4).mp hremark).2⟩
  · rw [hsize]
    rfl
  · rw [hmem, haddresses]
    exact ⟨[0, 1, 0], rfl, by decide, by decide⟩
  · rw [hmem, haddresses]
    rintro ⟨other, hother, hprefix, -⟩
    cases hother
    exact absurd hprefix (by decide)

end Layout

end FormTree

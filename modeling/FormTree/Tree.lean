import FormTree.LayoutError

set_option autoImplicit false

/-!
# The nodes of a layout

The nodes of a declared tree, numbered in tree order: a node comes before its descendants, and
these come before the next sibling. What is fixed about a node once and for all is worked out
here: its place in the tree, and the form and the pager around it.

## Main definitions

* `FormTree.Node` — a node with its place.
* `FormTree.Scope` — the nearest form and the nearest pager around a node.
* `FormTree.Tree.ofSpec` — the nodes of a declared tree.
* `FormTree.Tree.ancestors`, `FormTree.Tree.descendants` — the way of a bubbling and of a
  trickling event.
* `FormTree.Tree.violation?` — the first reason why a declared tree cannot be activated.
-/

namespace FormTree

/-- The nearest form and the nearest pager around a node, the node itself left out. -/
structure Scope where
  /-- The nearest form. -/
  form : Option NodeId := none
  /-- The nearest pager. -/
  pager : Option NodeId := none
  deriving DecidableEq, Inhabited

/-- The scope of the children of a node with number `id`. -/
def Scope.enter (scope : Scope) (id : NodeId) : View → Scope
  | .form _ => { scope with form := some id }
  | .pager _ => { scope with pager := some id }
  | _ => scope

/-- A node with its place in the tree. -/
structure Node where
  /-- What the node is declared to be. -/
  view : View
  /-- The rules declared for the node's enabled flag. -/
  enable : EnableRules
  /-- The nodes around it, nearest first. -/
  ancestors : List NodeId
  /-- Its children, in order. -/
  children : List NodeId
  /-- The number of nodes below it, itself included. -/
  size : Nat
  /-- The nearest form and pager around it. -/
  scope : Scope
  deriving DecidableEq, Inhabited

namespace Node

/-- The node that this one is a child of. -/
def parent? (node : Node) : Option NodeId := node.ancestors.head?

/-- The rules for a form's own enabled flag: those of the form and those of the node. -/
def formRules (node : Node) (spec : FormSpec) : EnableRules :=
  EnableRules.merge spec.formEnabled node.enable

/-- How messages name the node with number `id`. -/
def describe (node : Node) (id : NodeId) : String :=
  match node.view.identifier? with
  | some identifier => identifier
  | none => node.view.kind.name ++ " " ++ NodeId.text id

/-- The first check that the node with number `id` does not pass. -/
def violation? (node : Node) (id : NodeId) : Option LayoutError :=
  if node.children ≠ [] ∧ !node.view.viewType.hasChildren then
    some (.unexpectedChildren id node.view.viewType)
  else
    let ofView :=
      match node.view with
      | .form spec =>
        if spec.isChild ∧ node.scope.form.isNone then some (.missingParentForm spec.id)
        else if (node.formRules spec).hasPager ∧ node.scope.pager.isNone then
          some (.missingPagerState spec.id)
        else none
      | .pager spec => if node.children = [] then some (.emptyPager spec.id) else none
      | _ => none
    match ofView with
    | some error => some error
    | none =>
      if node.enable.hasPager ∧ node.scope.pager.isNone then
        some (.missingPagerState (node.describe id))
      else none

end Node

/-! ## Numbering -/

namespace Spec

/-- The numbers of siblings, the first of which has number `start`. -/
def numbers (start : NodeId) : List Spec → List NodeId
  | [] => []
  | spec :: rest => start :: numbers (start + spec.size) rest

mutual

/-- The nodes of a declared tree whose root has number `start`. -/
def nodes (start : NodeId) (ancestors : List NodeId) (scope : Scope) : Spec → List Node
  | ⟨view, enable, children⟩ =>
    { view, enable, ancestors, scope
      children := numbers (start + 1) children
      size := 1 + sizeAll children } ::
    nodesAll (start + 1) (start :: ancestors) (scope.enter start view) children
termination_by structural spec => spec

/-- The nodes of declared siblings, the first of which has number `start`. -/
def nodesAll (start : NodeId) (ancestors : List NodeId) (scope : Scope) : List Spec → List Node
  | [] => []
  | spec :: rest =>
    nodes start ancestors scope spec ++ nodesAll (start + spec.size) ancestors scope rest
termination_by structural specs => specs

end

end Spec

/-! ## Trees -/

/-- The nodes of a layout, in tree order. -/
structure Tree where
  /-- The nodes; the number of a node is its place here. -/
  nodes : Array Node
  deriving DecidableEq, Inhabited

namespace Tree

/-- The nodes of a declared tree. -/
def ofSpec (spec : Spec) : Tree := ⟨(spec.nodes 0 [] {}).toArray⟩

/-- The number of nodes. -/
def size (tree : Tree) : Nat := tree.nodes.size

/-- The numbers of the nodes. -/
def ids (tree : Tree) : List NodeId := List.range tree.size

/-- The node with the given number. -/
def node? (tree : Tree) (id : NodeId) : Option Node := tree.nodes[id]?

/-- What the node with the given number is. -/
def view? (tree : Tree) (id : NodeId) : Option View := (tree.node? id).map (·.view)

/-- The nodes that a bubbling event from `origin` is offered to, in this order. -/
def ancestors (tree : Tree) (origin : NodeId) : List NodeId :=
  match tree.node? origin with
  | some node => node.ancestors
  | none => []

/-- The nodes that a trickling event from `origin` is delivered to, in this order. -/
def descendants (tree : Tree) (origin : NodeId) : List NodeId :=
  match tree.node? origin with
  | some node => List.range' (origin + 1) (node.size - 1)
  | none => []

/-- The first node with the given identifier. -/
def find? (tree : Tree) (identifier : String) : Option NodeId :=
  tree.nodes.findIdx? (·.view.identifier? = some identifier)

/-- The first check that a node does not pass, of the first such node. -/
def violation? (tree : Tree) : Option LayoutError :=
  tree.ids.findSome? fun id => (tree.node? id).bind (·.violation? id)

end Tree

end FormTree

import FormTree.Layout.Routing

set_option autoImplicit false

/-!
# Activation

Bringing a declared layout to life: its nodes are set up in tree order, each with its containers
and observers and with the events by which it announces itself, and then these are routed.

## Main definitions

* `FormTree.Layout.setUp` — setting up one node.
* `FormTree.Layout.activate` — activating a declared layout.
-/

namespace FormTree.Layout

/-- Set up an input: it holds the empty answer and announces itself and its data. -/
def setUpInput (layout : Layout) (id : NodeId) (spec : InputSpec) : Layout :=
  let answer := spec.kind.emptyAnswer
  { layout with answers := layout.answers.set id answer }.pushAll
    [.bubble id (.inputInit spec.id spec.kind.viewType (spec.isValid answer)),
      .bubble id (.dataChange (spec.entry answer))]

/-- Tie a form to the form around it: a nested form takes over submission and disablement, now
and later; any other form reports its display. -/
def setUpInheritance (layout : Layout) (id : NodeId) (spec : FormSpec) (scope : Scope) : Layout :=
  match spec.isChild, scope.form with
  | true, some parent =>
    let above := (layout.form parent).value
    (layout.changeForm id (.inherit above.isSubmitted above.isEnabled)).watchForm parent
      (.inherit id)
  | _, _ => layout.watchForm id (.reportDisplay id)

/-- Let a form with rules evaluate them, now and whenever something that they look at changes. -/
def setUpRules (layout : Layout) (id : NodeId) (rules : EnableRules) (scope : Scope) : Layout :=
  if rules = [] then layout
  else
    let layout := if rules.hasForm then layout.watchForm id (.refresh id) else layout
    let layout :=
      match scope.pager with
      | some pager => if rules.hasPager then layout.watchPager pager (.refresh id) else layout
      | none => layout
    let layout :=
      match scope.form with
      | some parent => layout.watchForm parent (.refresh id)
      | none => layout
    refresh (updateForm layout.depth) id layout

/-- Set up a form: its container, its ties to what is around it, its announcement of its flags,
and, for a nested form, the announcement of itself. -/
def setUpForm (layout : Layout) (id : NodeId) (node : Node) (spec : FormSpec) : Layout :=
  let state := FormState.start spec.id spec.formType spec.responseType
  let layout := { layout with forms := layout.forms.set id { value := state } }
  let layout := layout.setUpInheritance id spec node.scope
  let layout := layout.setUpRules id (node.formRules spec) node.scope
  let layout := layout.announce id (layout.form id).value.status
  let layout := layout.watchForm id (.announce id)
  if spec.isChild then layout.push (.bubble id (.formInit spec.id (layout.form id).value.isValid))
  else layout

/-- Set up a pager: its container, and the announcements of its position. -/
def setUpPager (layout : Layout) (id : NodeId) (spec : PagerSpec) (pages : Nat) : Layout :=
  let state := PagerState.start spec.id (UInt64.ofNat pages)
  let layout := { layout with pagers := layout.pagers.set id { value := state } }
  (layout.announcePosition id state).watchPager id (.announce id)

/-- Set up the node with the given number. -/
def setUp (layout : Layout) (id : NodeId) : Layout :=
  match layout.tree.node? id with
  | none => layout
  | some node =>
    match node.view with
    | .input spec => layout.setUpInput id spec
    | .form spec => layout.setUpForm id node spec
    | .pager spec => layout.setUpPager id spec node.children.length
    | .container | .label _ | .button _ => layout

/-- The layout of a tree with every node set up, before any event is routed. What waits then is what
the nodes announced of themselves: the outbox was empty before. -/
def build (environment : Environment) (tree : Tree) : Layout :=
  tree.ids.foldl setUp { tree, environment }

/-- Activate a declared layout, unless it is malformed. -/
def activate (environment : Environment) (spec : Spec) : Except LayoutError Layout :=
  let tree := Tree.ofSpec spec
  match tree.violation? with
  | some error => .error error
  | none => .ok (build environment tree).settle

end FormTree.Layout

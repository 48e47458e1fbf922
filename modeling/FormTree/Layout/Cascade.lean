import FormTree.Layout.Basic

set_option autoImplicit false

/-!
# Cascades

What follows from a change of a form or of a pager.

A committed change is delivered to the observers of the container. These may change the form
itself, which is delivered in later rounds, or a form nested in it, whose own observers are
served at once. Nesting only goes down the tree, so its depth is bounded by the number of nodes.
A form changes at most twice in answer to a change — it notes that its display was reported, and
it evaluates its rules — which bounds the number of rounds.

## Main definitions

* `FormTree.Layout.rulesHold` — what the enable rules of a form come to.
* `FormTree.Layout.reactForm`, `FormTree.Layout.reactPager` — what an observer does.
* `FormTree.Layout.changeForm`, `FormTree.Layout.changePager` — a change with all that follows.
-/

namespace FormTree.Layout

/-! ## Rules and announcements -/

/-- What the rules of the form `id` come to, for the states that the forms and pagers have now. -/
def rulesHold (layout : Layout) (id : NodeId) : Bool :=
  match layout.tree.node? id with
  | some node =>
    match node.view with
    | .form spec =>
      let state := (layout.form id).value
      (node.formRules spec).evaluate
        (node.scope.form.all fun parent => (layout.form parent).value.isEnabled)
        (some (state.isValid, state.isSubmitted))
        (node.scope.pager.map fun pager => (layout.pager pager).value)
        state.isEnabled
    | _ => true
  | none => true

/-- Announce the flags of the form `id` to its descendants. -/
def announce (layout : Layout) (id : NodeId) (status : FormStatus) : Layout :=
  { layout with announced := layout.announced.modify id (· ++ [status]) }.push
    (.trickle id (.validationUpdate id status))

/-- Announce the position of the pager `id` to its pages. -/
def announcePosition (layout : Layout) (id : NodeId) (state : PagerState) : Layout :=
  layout.push (.trickle id (.pagerUpdate id state))

/-! ## Observers -/

/-- A change of a form with all that follows, as the observers ask for it. -/
abbrev FormUpdate : Type := NodeId → FormIntent → Layout → Layout

/-- The form `id` evaluates its rules. -/
def refresh (update : FormUpdate) (id : NodeId) (layout : Layout) : Layout :=
  update id (.setEnabled (layout.rulesHold id)) layout

/-- What an observer of a form does with a snapshot. -/
def reactForm (update : FormUpdate) (observer : Observer FormReaction) (snapshot : FormState)
    (layout : Layout) : Layout × Flow :=
  match observer.reaction with
  | .inherit child =>
    (update child (.inherit snapshot.isSubmitted snapshot.isEnabled) layout, .stay)
  | .reportDisplay id =>
    if snapshot.isDisplayReported then (layout, .leave)
    else if snapshot.displayed.isEmpty then (layout, .stay)
    else
      let layout := layout.push (.bubble id (.formDisplay (.ofForm snapshot.context)))
      (update id .displayReported layout, .leave)
  | .refresh id => (refresh update id layout, .stay)
  | .announce id =>
    if (layout.announced.get id).getLast? = some snapshot.status then (layout, .stay)
    else (layout.announce id snapshot.status, .stay)
  | .guest => (layout, .stay)

/-- What an observer of a pager does with a snapshot. -/
def reactPager (update : FormUpdate) (observer : Observer PagerReaction) (snapshot : PagerState)
    (layout : Layout) : Layout × Flow :=
  match observer.reaction with
  | .announce id => (layout.announcePosition id snapshot, .stay)
  | .refresh id => (refresh update id layout, .stay)
  | .guest => (layout, .stay)

/-! ## Changes -/

/-- Rounds that the change of a form can take: the change itself, the two changes of the form in
answer to it, and the round that finds nothing left. -/
def formRounds : Nat := 4

/-- Rounds that the change of a pager can take: nothing in answer to it changes the pager. -/
def pagerRounds : Nat := 2

/-- Commit a change to the container of the form `id`. -/
def commitForm (layout : Layout) (id : NodeId) (intent : FormIntent) : Layout :=
  (formPlace id).modify layout fun state => state.commit (state.value.reduce intent)

/-- Commit a move to the container of the pager `id`. -/
def commitPager (layout : Layout) (id : NodeId) (intent : PagerIntent) : Layout :=
  (pagerPlace id).modify layout fun state => state.commit (state.value.reduce intent)

/-- A change of the form `id` with all that follows, changes nested up to `depth` levels deep. -/
def updateForm : Nat → FormUpdate
  | 0, _, _, layout => layout
  | depth + 1, id, intent, layout =>
    ((formPlace id).flush (reactForm (updateForm depth)) formRounds
      (layout.commitForm id intent)).1

/-- The depth that suffices for every change: nested changes go to forms further down the tree,
and the last of them may still commit to its own container. -/
def depth (layout : Layout) : Nat := layout.tree.size + 1

/-- A change of the form `id` with all that follows. -/
def changeForm (layout : Layout) (id : NodeId) (intent : FormIntent) : Layout :=
  updateForm layout.depth id intent layout

/-- A move of the pager `id` with all that follows. -/
def changePager (layout : Layout) (id : NodeId) (intent : PagerIntent) : Layout :=
  ((pagerPlace id).flush (reactPager (updateForm layout.depth)) pagerRounds
    (layout.commitPager id intent)).1

end FormTree.Layout

import FormTree.Proofs.Layout.Steps
import FormTree.Proofs.Tree.Descent

set_option autoImplicit false

/-!
# Events on the way up

What becomes of an event that bubbles. What is to be reported picks up the contexts of the nearest
pager, and of the nearest form if it is the dismissal of the layout, as they are at that moment. An
event that turns pages comes to the nearest pager, and a button that submits is heard of at the
root.

## Main definitions

* `FormTree.Layout.formContext`, `FormTree.Layout.pagerContext` — the contexts around a node.
* `FormTree.Event.turn?` — how an event turns pages.

## Main results

* `FormTree.Layout.bubble_formDisplay`, `FormTree.Layout.bubble_formResult`,
  `FormTree.Layout.bubble_dismiss`, `FormTree.Layout.bubble_turn`,
  `FormTree.Layout.bubble_buttonSubmit` — one kind of event each.
-/

namespace FormTree

/-- How an event turns pages. -/
def Event.turn? : Event → Option PagerIntent
  | .pagerNext _ => some .next
  | .pagerPrevious _ => some .previous
  | _ => none

namespace Layout

/-- The context of the nearest form around the node `id`. -/
def formContext (layout : Layout) (id : NodeId) : Option FormContext :=
  (layout.tree.formAround id).map fun form => (layout.form form).value.context

/-- The context of the nearest pager around the node `id`. -/
def pagerContext (layout : Layout) (id : NodeId) : Option PagerContext :=
  (layout.tree.pagerAround id).map fun pager => (layout.pager pager).value.context

variable {layout : Layout} {origin id : NodeId} {event : Event}

/-! ## Passing by -/

/-- What a node is tells whether it is a form, and whether it is a pager. -/
theorem kinds_of_view {view : View} (h : layout.tree.view? id = some view) :
    (layout.tree.form? id).isSome = decide (view.kind = .form) ∧
      layout.tree.isPager id = decide (view.kind = .pager) := by
  obtain ⟨node, hnode, rfl⟩ := Option.map_eq_some_iff.mp h
  constructor
  · unfold Tree.form?
    rw [hnode]
    dsimp only
    cases node.view <;> rfl
  · rw [Tree.isPager, h]
    rfl

theorem kinds_of_none (h : layout.tree.view? id = none) :
    (layout.tree.form? id).isSome = false ∧ layout.tree.isPager id = false := by
  have hnode : layout.tree.node? id = none := Option.map_eq_none_iff.mp h
  exact ⟨by rw [Tree.form?, hnode]; rfl, by rw [Tree.isPager, h]; rfl⟩

/-- The display of a form picks up the context of a pager. -/
theorem offer_formDisplay (layout : Layout) (id : NodeId) (context : LayoutContext) :
    layout.offer id (.formDisplay context) =
      (layout, .next (.formDisplay (if layout.tree.isPager id then
        context.fillPager (layout.pager id).value.context else context))) := by
  unfold offer
  cases hview : layout.tree.view? id with
  | none =>
    rw [(kinds_of_none hview).2]
    rfl
  | some view =>
    rw [(kinds_of_view hview).2]
    cases view <;> rfl

/-- The submission of a form picks up the context of a pager. -/
theorem offer_formResult (layout : Layout) (id : NodeId) (entry : Entry) (attributes : Attributes)
    (context : LayoutContext) : layout.offer id (.formResult entry attributes context) =
      (layout, .next (.formResult entry attributes (if layout.tree.isPager id then
        context.fillPager (layout.pager id).value.context else context))) := by
  unfold offer
  cases hview : layout.tree.view? id with
  | none =>
    rw [(kinds_of_none hview).2]
    rfl
  | some view =>
    rw [(kinds_of_view hview).2]
    cases view <;> rfl

/-- A dismissal picks up the contexts of forms and pagers. -/
theorem offer_dismiss (layout : Layout) (id : NodeId) (button : Option String) (isCancel : Bool)
    (context : LayoutContext) : layout.offer id (.dismiss button isCancel context) =
      (layout, .next (.dismiss button isCancel (if layout.tree.isPager id then
        context.fillPager (layout.pager id).value.context
        else if (layout.tree.form? id).isSome then
          context.fillForm (layout.form id).value.context
        else context))) := by
  unfold offer
  cases hview : layout.tree.view? id with
  | none =>
    rw [(kinds_of_none hview).1, (kinds_of_none hview).2]
    rfl
  | some view =>
    rw [(kinds_of_view hview).1, (kinds_of_view hview).2]
    cases view <;> rfl

/-- Pages are turned by pagers only. -/
theorem offer_turn {intent : PagerIntent} (h : event.turn? = some intent) (layout : Layout)
    (id : NodeId) : layout.offer id event =
      if layout.tree.isPager id then (layout.changePager id intent, .stop)
      else (layout, .next event) := by
  unfold offer
  cases hview : layout.tree.view? id with
  | none =>
    rw [(kinds_of_none hview).2]
    rfl
  | some view =>
    rw [(kinds_of_view hview).2]
    cases event <;> cases h <;> cases view <;> rfl

/-! ## Reaching the root -/

/-- What picks up the contexts of pagers only comes to the root with that of the first one. -/
theorem bubbleTo_pickUp {tell : LayoutContext → Event}
    (hoffer : ∀ (layout : Layout) (id : NodeId) (context : LayoutContext),
      layout.offer id (tell context) = (layout, .next (tell (if layout.tree.isPager id then
        context.fillPager (layout.pager id).value.context else context))))
    (origin : NodeId) (layout : Layout) : ∀ (list : List NodeId) (context : LayoutContext),
    bubbleTo origin list (tell context) layout = layout.atRoot origin (tell { context with
      pager := context.pager.or ((list.find? layout.tree.isPager).map fun pager =>
        (layout.pager pager).value.context) })
  | [], context => by
    rw [bubbleTo, List.find?_nil, Option.map_none, Option.or_none]
  | id :: list, context => by
    rw [bubbleTo, hoffer]
    dsimp only
    rw [bubbleTo_pickUp hoffer origin layout list, List.find?_cons]
    cases layout.tree.isPager id with
    | false => rfl
    | true => simp [LayoutContext.fillPager]

theorem bubbleTo_dismiss (origin : NodeId) (layout : Layout) (button : Option String)
    (isCancel : Bool) : ∀ (list : List NodeId) (context : LayoutContext),
    bubbleTo origin list (.dismiss button isCancel context) layout =
      layout.atRoot origin (.dismiss button isCancel { context with
        form := context.form.or ((list.find? fun up => (layout.tree.form? up).isSome).map
          fun form => (layout.form form).value.context)
        pager := context.pager.or ((list.find? layout.tree.isPager).map fun pager =>
          (layout.pager pager).value.context) })
  | [], context => by
    simp [bubbleTo]
  | id :: list, context => by
    rw [bubbleTo, offer_dismiss]
    dsimp only
    rw [bubbleTo_dismiss origin layout button isCancel list, List.find?_cons, List.find?_cons]
    have hkind : layout.tree.isPager id = true → (layout.tree.form? id).isSome = false := by
      cases hview : layout.tree.view? id with
      | none => exact fun _ => (kinds_of_none hview).1
      | some view =>
        rw [(kinds_of_view hview).1, (kinds_of_view hview).2]
        cases view <;> simp [View.kind]
    cases hpager : layout.tree.isPager id with
    | true =>
      rw [hkind hpager]
      simp [LayoutContext.fillPager]
    | false =>
      cases (layout.tree.form? id).isSome with
      | true => simp [LayoutContext.fillForm]
      | false => rfl

theorem bubbleTo_turn {intent : PagerIntent} (h : event.turn? = some intent) (origin : NodeId)
    (layout : Layout) : ∀ list : List NodeId, bubbleTo origin list event layout =
      match list.find? layout.tree.isPager with
      | some pager => layout.changePager pager intent
      | none => layout
  | [] => by
    rw [bubbleTo]
    cases event <;> cases h <;> rfl
  | id :: list => by
    rw [bubbleTo, offer_turn h, List.find?_cons]
    cases layout.tree.isPager id with
    | false => exact bubbleTo_turn h origin layout list
    | true => rfl

theorem bubbleTo_buttonSubmit (origin : NodeId) (layout : Layout) (button : NodeId)
    (identifier : String) (effects : List ClickBehavior) : ∀ list : List NodeId,
    bubbleTo origin list (.buttonSubmit button identifier effects) layout =
      (layout.broadcast (.layoutSubmit (some identifier))).pushAll
        (followUps button identifier effects)
  | [] => rfl
  | id :: list => by
    have hoffer : layout.offer id (.buttonSubmit button identifier effects) =
        (layout, .next (.buttonSubmit button identifier effects)) := by
      unfold offer
      split <;> rfl
    rw [bubbleTo, hoffer]
    exact bubbleTo_buttonSubmit origin layout button identifier effects list

/-! ## Bubbling -/

/-- **The display of a form is reported with the position of the nearest pager.** -/
theorem bubble_formDisplay (linked : layout.tree.Linked) (origin : NodeId)
    {context : LayoutContext} (hpager : context.pager = none) :
    layout.bubble origin (.formDisplay context) =
      layout.report ⟨origin, .formDisplay,
        { context with pager := layout.pagerContext origin }⟩ := by
  rw [bubble, bubbleTo_pickUp offer_formDisplay, hpager, Option.none_or, pagerContext,
    linked.pagerAround_eq_find?]
  rfl

/-- **The submission of a form is reported with the position of the nearest pager.** -/
theorem bubble_formResult (linked : layout.tree.Linked) (origin : NodeId) (entry : Entry)
    (attributes : Attributes) {context : LayoutContext} (hpager : context.pager = none) :
    layout.bubble origin (.formResult entry attributes context) =
      layout.report ⟨origin, .formResult entry attributes,
        { context with pager := layout.pagerContext origin }⟩ := by
  have hoffer := fun layout id => offer_formResult layout id entry attributes
  rw [bubble, bubbleTo_pickUp hoffer, hpager, Option.none_or, pagerContext,
    linked.pagerAround_eq_find?]
  rfl

/-- **A dismissal reaches the root with the contexts around its origin.** -/
theorem bubble_dismiss (linked : layout.tree.Linked) (origin : NodeId) (button : Option String)
    (isCancel : Bool) {context : LayoutContext} (hform : context.form = none)
    (hpager : context.pager = none) :
    layout.bubble origin (.dismiss button isCancel context) =
      layout.atRoot origin (.dismiss button isCancel { context with
        form := layout.formContext origin, pager := layout.pagerContext origin }) := by
  rw [bubble, bubbleTo_dismiss, hform, hpager, Option.none_or, Option.none_or, pagerContext,
    formContext, linked.pagerAround_eq_find?, linked.formAround_eq_find?]

/-- **Pages are turned at the nearest pager**, if there is one. -/
theorem bubble_turn (linked : layout.tree.Linked) (origin : NodeId) {intent : PagerIntent}
    (h : event.turn? = some intent) : layout.bubble origin event =
      match layout.tree.pagerAround origin with
      | some pager => layout.changePager pager intent
      | none => layout := by
  rw [bubble, bubbleTo_turn h, linked.pagerAround_eq_find?]

/-- **A button that submits is heard of by all nodes**, and then its other effects follow. -/
theorem bubble_buttonSubmit (layout : Layout) (origin button : NodeId) (identifier : String)
    (effects : List ClickBehavior) :
    layout.bubble origin (.buttonSubmit button identifier effects) =
      (layout.broadcast (.layoutSubmit (some identifier))).pushAll
        (followUps button identifier effects) :=
  bubbleTo_buttonSubmit origin layout button identifier effects _

end Layout

end FormTree

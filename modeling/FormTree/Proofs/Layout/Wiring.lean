import FormTree.Proofs.Layout.Verdict
import FormTree.Proofs.Observable.Rounds

set_option autoImplicit false

/-!
# The wiring of forms

Which observers a form carries, in which order. The form's own observers come first: the one that
reports its display, as long as this has not happened, the one that evaluates its rules, and the
one that announces its flags. Behind them stand the forms right inside it, in tree order, each
with the observer that takes over submission and disablement and then the one that evaluates its
rules. The order matters: when the forms inside are served, the form itself has come to its
verdict.

## Main definitions

* `FormTree.Tree.ties`, `FormTree.Tree.inside` — how a form follows the one around it, and the
  forms right inside a form.
* `FormTree.Wiring`, `FormTree.Tree.wiring` — how far a form is wired, and the full wiring.
* `FormTree.Wired` — a container carries the observers of a wiring.
* `FormTree.Layout.Rests`, `FormTree.Layout.RestsBelow` — a form, and all that it encloses,
  between two changes.

## Main results

* `FormTree.Layout.RestsBelow.of_inside` — a form rests with all that it encloses if it rests
  itself and the forms right inside it do so.
-/

namespace FormTree

/-! ## Observers of a form -/

namespace Tree

/-- The reactions by which the form `id` follows the form around it. -/
def ties (tree : Tree) (id : NodeId) : List FormReaction :=
  (if tree.isChild id then [.inherit id] else []) ++
    if tree.rules id = [] then [] else [.refresh id]

/-- The forms right inside the form `id`, in tree order. -/
def inside (tree : Tree) (id : NodeId) : List NodeId :=
  tree.ids.filter fun inner => (tree.form? inner).isSome && tree.formAround inner = some id

/-- The forms right inside a form are those around which it is the nearest one. -/
theorem mem_inside {tree : Tree} {id inner : NodeId} :
    inner ∈ tree.inside id ↔ (tree.form? inner).isSome ∧ tree.formAround inner = some id := by
  simp only [inside, ids, List.mem_filter, List.mem_range, Bool.and_eq_true, decide_eq_true_eq]
  exact ⟨fun h => h.2, fun h => ⟨lt_size_of_form? h.1, h⟩⟩

/-- No form is listed twice. -/
theorem nodup_inside (tree : Tree) (id : NodeId) : (tree.inside id).Nodup :=
  List.nodup_range.filter _

end Tree

/-- How far a form is wired. -/
structure Wiring where
  /-- It evaluates its rules when its own state changes. -/
  refreshes : Bool
  /-- It announces its flags. -/
  announces : Bool
  /-- The forms right inside it that follow it, in tree order. -/
  inside : List NodeId

namespace Wiring

/-- A wiring of the form `id` that the tree calls for, though perhaps not all of it. -/
structure Fits (wiring : Wiring) (tree : Tree) (id : NodeId) : Prop where
  /-- Only a form with rules on forms evaluates them when its own state changes. -/
  hasForm : wiring.refreshes = true → (tree.rules id).hasForm = true
  /-- Only forms right inside the form follow it. -/
  mem_inside : ∀ inner ∈ wiring.inside, inner ∈ tree.inside id
  /-- Each of them does so once. -/
  nodup : wiring.inside.Nodup

end Wiring

/-- All that the tree calls for at the form `id`. -/
def Tree.wiring (tree : Tree) (id : NodeId) : Wiring where
  refreshes := (tree.rules id).hasForm
  announces := true
  inside := tree.inside id

/-- The full wiring fits. -/
theorem Tree.fits_wiring (tree : Tree) (id : NodeId) : (tree.wiring id).Fits tree id where
  hasForm h := h
  mem_inside _ h := h
  nodup := tree.nodup_inside id

/-- The reactions of the form's own observers; `reporting` tells whether the display is still to
be reported. -/
def Wiring.own (wiring : Wiring) (id : NodeId) (reporting : Bool) : List FormReaction :=
  (if reporting then [.reportDisplay id] else []) ++
    ((if wiring.refreshes then [.refresh id] else []) ++
      if wiring.announces then [.announce id] else [])

/-- The container of the form `id` carries the observers of a wiring. -/
structure Wired (tree : Tree) (id : NodeId) (wiring : Wiring) (reporting : Bool)
    (state : Observable FormState FormReaction) : Prop where
  /-- The reactions in the order of registration. -/
  reactions : state.observers.map (·.reaction) =
    wiring.own id reporting ++ wiring.inside.flatMap tree.ties
  /-- No two observers share a number. -/
  nodup : (state.observers.map (·.id)).Nodup
  /-- The next number is new. -/
  lt_next : ∀ observer ∈ state.observers, observer.id < state.nextObserver

namespace Wired

variable {tree : Tree} {id : NodeId} {wiring : Wiring} {reporting : Bool}
  {state state' : Observable FormState FormReaction}

/-- The wiring looks at the observers only. -/
theorem congr (h : Wired tree id wiring reporting state)
    (hobservers : state'.observers = state.observers)
    (hnext : state'.nextObserver = state.nextObserver) :
    Wired tree id wiring reporting state' where
  reactions := by rw [hobservers, h.reactions]
  nodup := by rw [hobservers]; exact h.nodup
  lt_next := by rw [hobservers, hnext]; exact h.lt_next

end Wired

/-! ## Places in a layout -/

namespace Layout

/-- A change in the place of the form `place` reaches that form and no other. -/
@[simp] theorem form_modify (layout : Layout) (place id : NodeId)
    (change : Observable FormState FormReaction → Observable FormState FormReaction) :
    ((formPlace place).modify layout change).form id =
      if place = id then change (layout.form place) else layout.form id := by
  simp only [Place.modify, formPlace, form, Table.get_set]

/-- A layout without what a change of a form may touch: the forms, the log of announcements and
the outbox. -/
def rest (layout : Layout) : Layout := { layout with forms := {}, announced := {}, outbox := {} }

@[simp] theorem rest_modify (layout : Layout) (id : NodeId)
    (change : Observable FormState FormReaction → Observable FormState FormReaction) :
    ((formPlace id).modify layout change).rest = layout.rest := rfl

@[simp] theorem outbox_modify (layout : Layout) (id : NodeId)
    (change : Observable FormState FormReaction → Observable FormState FormReaction) :
    ((formPlace id).modify layout change).outbox = layout.outbox := rfl

@[simp] theorem form_push (layout : Layout) (dispatch : Dispatch) (id : NodeId) :
    (layout.push dispatch).form id = layout.form id := rfl

@[simp] theorem rest_push (layout : Layout) (dispatch : Dispatch) :
    (layout.push dispatch).rest = layout.rest := rfl

@[simp] theorem queue_push (layout : Layout) (dispatch : Dispatch) :
    (layout.push dispatch).outbox.queue = layout.outbox.queue ++ [dispatch] := rfl

@[simp] theorem form_announce (layout : Layout) (form : NodeId) (status : FormStatus)
    (id : NodeId) : (layout.announce form status).form id = layout.form id := rfl

@[simp] theorem rest_announce (layout : Layout) (form : NodeId) (status : FormStatus) :
    (layout.announce form status).rest = layout.rest := rfl

@[simp] theorem queue_announce (layout : Layout) (form : NodeId) (status : FormStatus) :
    (layout.announce form status).outbox.queue =
      layout.outbox.queue ++ [.trickle form (.validationUpdate form status)] := rfl

variable {layout layout' : Layout}

theorem tree_of_rest (h : layout'.rest = layout.rest) : layout'.tree = layout.tree :=
  (congrArg Layout.tree h :)

theorem pager_of_rest (h : layout'.rest = layout.rest) (id : NodeId) :
    layout'.pager id = layout.pager id :=
  (congrArg (fun layout : Layout => layout.pager id) h :)

/-! ## Forms between two changes -/

/-- The form `id` is wired so far, and nothing about it is under way. -/
structure RestsWith (layout : Layout) (id : NodeId) (wiring : Wiring) : Prop where
  /-- Everything committed is delivered. -/
  pending : (layout.form id).pending = []
  /-- No delivery is in progress. -/
  isDelivering : (layout.form id).isDelivering = false
  /-- Its observers are there; it reports its display unless this has happened. -/
  wired : Wired layout.tree id wiring
    (!layout.tree.isChild id && !(layout.form id).value.isDisplayReported) (layout.form id)
  /-- As long as its display is not reported, nothing of it is on screen. -/
  displayed : layout.tree.isChild id = false →
    (layout.form id).value.isDisplayReported = false →
    (layout.form id).value.displayed.isEmpty = true

/-- The form `id` is fully wired, and nothing about it is under way. -/
abbrev Rests (layout : Layout) (id : NodeId) : Prop := layout.RestsWith id (layout.tree.wiring id)

/-- All forms that the form `top` encloses rest. -/
def RestsBelow (layout : Layout) (top : NodeId) : Prop :=
  ∀ id, layout.tree.Encloses top id → (layout.tree.form? id).isSome → layout.Rests id

/-- Whether a form rests is up to its container. -/
theorem RestsWith.congr {id : NodeId} {wiring : Wiring} (h : layout.RestsWith id wiring)
    (htree : layout'.tree = layout.tree) (hform : layout'.form id = layout.form id) :
    layout'.RestsWith id wiring where
  pending := by rw [hform]; exact h.pending
  isDelivering := by rw [hform]; exact h.isDelivering
  wired := by rw [htree, hform]; exact h.wired
  displayed := by rw [htree, hform]; exact h.displayed

/-- Whether all that a form encloses rests is up to its containers. -/
theorem RestsBelow.congr {top : NodeId} (h : layout.RestsBelow top)
    (htree : layout'.tree = layout.tree)
    (hform : ∀ id, layout.tree.Encloses top id → layout'.form id = layout.form id) :
    layout'.RestsBelow top := by
  intro id hin hsome
  rw [htree] at hin hsome
  have := (h id hin hsome).congr htree (hform id hin)
  rwa [Rests, htree]

/-- A form with all that it encloses rests if it rests itself and the forms right inside it do so
with all that they enclose. -/
theorem RestsBelow.of_inside (wf : layout.tree.WellFormed) {top : NodeId}
    (hself : layout.Rests top)
    (hinside : ∀ inner ∈ layout.tree.inside top, layout.RestsBelow inner) :
    layout.RestsBelow top := by
  intro id hin hsome
  -- a node that `top` encloses is `top` or is enclosed by a form right inside it
  have key : id = top ∨ ∃ inner, layout.tree.formAround inner = some top ∧
      layout.tree.Encloses inner id ∧ (layout.tree.form? inner).isSome := by
    clear hself hinside
    induction hin with
    | self => exact .inl rfl
    | @inside id around haround _ ih =>
      right
      rcases ih (wf.linked.formAround_spec haround).2 with rfl | ⟨inner, ha, he, hs⟩
      · exact ⟨id, haround, .self, hsome⟩
      · exact ⟨inner, ha, .inside haround he, hs⟩
  rcases key with rfl | ⟨inner, ha, he, hs⟩
  · exact hself
  · exact hinside inner (Tree.mem_inside.mpr ⟨hs, ha⟩) id he hsome

/-- What a form right inside `top` encloses, `top` encloses as well. -/
theorem RestsBelow.inside {top inner : NodeId} (h : layout.RestsBelow top)
    (hinner : inner ∈ layout.tree.inside top) : layout.RestsBelow inner := fun id hin hsome =>
  h id (Tree.Encloses.trans (.inside (Tree.mem_inside.mp hinner).2 .self) hin) hsome

end Layout

end FormTree

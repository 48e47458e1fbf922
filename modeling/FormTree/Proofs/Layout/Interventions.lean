import FormTree.Proofs.Layout.Alteration
import FormTree.Proofs.Layout.Keeping

set_option autoImplicit false

/-!
# Interventions

All that can be done to an active layout from outside, with what comes back: calls, changes through
the handles of forms and pagers, which may be any function of the snapshot, and dispatches that are
put into the outbox.

## Main definitions

* `FormTree.Layout.reviseForm` — any change of a form, with all that follows.
* `FormTree.Intervention`, `FormTree.Reply` — what is done to a layout, and what comes back.
* `FormTree.Layout.intervene`, `FormTree.Layout.play` — a layout after an intervention, and after
  several.

## Main results

* `FormTree.Layout.play_alter` — interventions do not notice an alteration.
-/

namespace FormTree

namespace Layout

/-- Change the form `id` as its handle asks for, with all that follows. -/
def reviseForm (layout : Layout) (id : NodeId) (change : FormState → FormState) : Layout :=
  ((formPlace id).flush (reactForm (updateForm layout.tree.size)) formRounds
    ((formPlace id).modify layout fun state => state.commit (change state.value))).1

/-- **What nothing of a change breaks, no change through a handle breaks.** -/
theorem IsKept.reviseForm {P : Layout → Prop} (kept : IsKept P) {layout : Layout} (h : P layout)
    (id : NodeId) (change : FormState → FormState) : P (layout.reviseForm id change) :=
  kept.flushForm (kept.updateForm _) id formRounds (kept.commitForm layout id _ h)

theorem frame_reviseForm (layout : Layout) (id : NodeId) (change : FormState → FormState) :
    (layout.reviseForm id change).frame = layout.frame :=
  (isKept_frame layout).reviseForm rfl id change

end Layout

/-- What can be done to an active layout. -/
inductive Intervention where
  /-- A call of the renderer, or an event raised from outside. -/
  | call (call : Call)
  /-- A change of a form through its handle. -/
  | reviseForm (node : NodeId) (change : FormState → FormState)
  /-- A change of a pager through its handle. -/
  | updatePager (node : NodeId) (change : PagerState → PagerState)
  /-- A dispatch is put into the outbox. -/
  | push (dispatch : Dispatch)

/-- What comes back from an intervention that is not refused. -/
inductive Reply where
  /-- Nothing but that it is done. -/
  | done
  /-- The snapshot that a form was asked to take. -/
  | form (state : FormState)
  /-- The snapshot that a pager was asked to take. -/
  | pager (state : PagerState)

namespace Layout

/-- A layout after an intervention with what comes back, or the reason why it is refused. -/
def intervene (layout : Layout) : Intervention → Except LayoutError (Reply × Layout)
  | .call call => (layout.perform call).map fun layout => (.done, layout)
  | .reviseForm id change =>
    (layout.formSpec id).map fun _ =>
      (.form (change (layout.form id).value), layout.reviseForm id change)
  | .updatePager id change =>
    (layout.pagerSpec id).map fun _ =>
      (.pager (change (layout.pager id).value), layout.updatePager id change)
  | .push dispatch => .ok (.done, layout.push dispatch)

/-- What comes back from several interventions, and the layout after them; one that is refused
changes nothing. -/
def play (layout : Layout) : List Intervention → List (Except LayoutError Reply) × Layout
  | [] => ([], layout)
  | intervention :: rest =>
    match layout.intervene intervention with
    | .ok (reply, layout) => (.ok reply :: (layout.play rest).1, (layout.play rest).2)
    | .error error => (.error error :: (layout.play rest).1, (layout.play rest).2)

/-! ## Alterations -/

section Unnoticed

variable {alteration : Alteration} (layout : Layout)

/-- Taking a layout down does not notice. -/
lemma teardown_alter :
    (layout.alter alteration).teardown = layout.teardown.alter alteration := by
  have hunwatch : ∀ (world : Layout) (watch : Watch),
      (world.alter alteration).unwatch watch = (world.unwatch watch).alter alteration := by
    intro world watch
    cases watch <;> rfl
  have hwatches : layout.watches.foldl unwatch (layout.alter alteration) =
      (layout.watches.foldl unwatch layout).alter alteration :=
    List.foldl_hom (fun world => alter world alteration) hunwatch
  unfold teardown
  show { layout.watches.foldl unwatch (layout.alter alteration) with
    watches := [], outbox := {} } = _
  rw [hwatches]
  rfl

variable (h : alteration.IsUnnoticed)
include h

lemma reviseForm_alter (id : NodeId) (change : FormState → FormState) :
    (layout.alter alteration).reviseForm id change =
      (layout.reviseForm id change).alter alteration := by
  have hsize : (layout.alter alteration).tree.size = layout.tree.size :=
    (h.alike layout.tree).size
  rw [reviseForm, hsize, reviseForm]
  exact congrArg Prod.fst (Place.flush_map (ignores_reactForm h (updateForm_alter h _) id)
    formRounds ((formPlace id).modify layout fun state => state.commit (change state.value)))

lemma updatePager_alter (id : NodeId) (change : PagerState → PagerState) :
    (layout.alter alteration).updatePager id change =
      (layout.updatePager id change).alter alteration := by
  rw [updatePager, depth_alter layout h, updatePager]
  exact congrArg Prod.fst (Place.flush_map (ignores_reactPager h (updateForm_alter h _) id)
    pagerRounds ((pagerPlace id).modify layout fun state => state.commit (change state.value)))

variable (hlimit : ∀ environment : Environment,
  (alteration.environment environment).config.bus.maxDispatchesPerPass =
    environment.config.bus.maxDispatchesPerPass)
include hlimit

/-- An intervention does not notice: it is refused for the same reason, or the same comes back. -/
theorem intervene_alter (intervention : Intervention) :
    (layout.alter alteration).intervene intervention =
      (layout.intervene intervention).map (Prod.map id (·.alter alteration)) := by
  cases intervention with
  | call call =>
    rw [intervene, perform_alter layout h hlimit, intervene]
    cases layout.perform call with
    | error error => rfl
    | ok layout' => rfl
  | reviseForm node change =>
    rw [intervene, reviseForm_alter layout h, form_alter, intervene]
    rcases formSpec_alter layout h node with
      ⟨error, herror, herror'⟩ | ⟨spec, spec', hspec, hspec'⟩
    · rw [herror, herror']
      rfl
    · rw [hspec, hspec']
      rfl
  | updatePager node change =>
    rw [intervene, updatePager_alter layout h, pager_alter, pagerSpec_alter layout h, intervene]
    cases layout.pagerSpec node with
    | error error => rfl
    | ok spec => rfl
  | push dispatch => rfl

/-- **Interventions do not notice an alteration**: the same comes back from all of them, and they
lead to the altered layout. -/
theorem play_alter (interventions : List Intervention) (layout : Layout) :
    (layout.alter alteration).play interventions =
      (layout.play interventions).map id (·.alter alteration) := by
  induction interventions generalizing layout with
  | nil => rfl
  | cons intervention rest ih =>
    rw [play, intervene_alter layout h hlimit, play]
    cases layout.intervene intervention with
    | error error =>
      dsimp only [Except.map]
      rw [ih]
      rfl
    | ok result =>
      dsimp only [Except.map, Prod.map]
      rw [ih]
      rfl

end Unnoticed

end Layout

end FormTree

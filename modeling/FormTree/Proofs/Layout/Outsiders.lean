import FormTree.Proofs.Layout.Ending
import Mathlib.Logic.Relation

set_option autoImplicit false

/-!
# What outsiders do meanwhile

Whoever has the handles of forms and pagers may change them, and may also observe them. An observer
from outside that is called may do all of this in its turn, so that changes are nested in each other
in any way. This module describes what a layout may undergo then, without any bound: a change ends
when all that follows from it has come to an end, whatever the observers from outside did meanwhile.

Routing changes forms and pagers too, one after the other, and otherwise does nothing to their
containers. So what calls of the renderer and events from outside do is among what is described
here. An observer that fails breaks off the change that it is called for, and is left aside: such a
change does not come to an end.

## Main definitions

* `FormTree.Errand` — a change through a handle.
* `FormTree.Layout.Deed` — one thing that somebody outside does.
* `FormTree.Layout.FormAnswers`, `FormTree.Layout.PagerAnswers` — how an observer answers a
  snapshot.
* `FormTree.Layout.ErrandEnds` — a change with all that follows comes to an end.
* `FormTree.Layout.Undergoes` — all that may happen to a layout.
-/

namespace FormTree

/-- A change through the handle of a form or of a pager. -/
inductive Errand where
  /-- A form is changed. -/
  | reviseForm (id : NodeId) (change : FormState → FormState)
  /-- A pager is changed. -/
  | updatePager (id : NodeId) (change : PagerState → PagerState)

/-- The tree has the form, or the pager, that the handle is of. -/
inductive Errand.IsIn (tree : Tree) : Errand → Prop
  | form {id : NodeId} {change : FormState → FormState} : (tree.form? id).isSome →
    Errand.IsIn tree (.reviseForm id change)
  | pager {id : NodeId} {change : PagerState → PagerState} : tree.isPager id = true →
    Errand.IsIn tree (.updatePager id change)

namespace Layout

section Deeds

variable (Ends : Errand → Layout → Layout → Prop)

/-- One thing that somebody outside does, where `Ends` tells how changes through handles end. -/
inductive Deed (layout : Layout) : Layout → Prop
  /-- A form or a pager is changed. -/
  | run {errand : Errand} {layout' : Layout} : errand.IsIn layout.tree →
    Ends errand layout layout' → Deed layout layout'
  /-- A form is observed from now on. -/
  | watchForm (id : NodeId) : Deed layout ((formPlace id).modify layout (·.watch .guest))
  /-- A pager is observed from now on. -/
  | watchPager (id : NodeId) : Deed layout ((pagerPlace id).modify layout (·.watch .guest))
  /-- An observer of a form is released; nobody but the layout has hold of those of the layout. -/
  | releaseForm {id : NodeId} {number : Nat} :
    (∀ observer ∈ (layout.form id).observers, observer.id = number → observer.reaction = .guest) →
    Deed layout ((formPlace id).modify layout (·.unwatch number))
  /-- An observer of a pager is released. -/
  | releasePager {id : NodeId} {number : Nat} :
    (∀ observer ∈ (layout.pager id).observers, observer.id = number → observer.reaction = .guest) →
    Deed layout ((pagerPlace id).modify layout (·.unwatch number))
  /-- Subscriptions to a form are opened, read and closed. -/
  | followForm (id : NodeId) (queues : Std.ExtTreeMap Nat (List FormState) compare)
    (nextQueue : Nat) : Deed layout ((formPlace id).modify layout ({ · with queues, nextQueue }))
  /-- Subscriptions to a pager are opened, read and closed. -/
  | followPager (id : NodeId) (queues : Std.ExtTreeMap Nat (List PagerState) compare)
    (nextQueue : Nat) : Deed layout ((pagerPlace id).modify layout ({ · with queues, nextQueue }))
  /-- Something happens that concerns neither forms nor pagers: dispatches are put into the outbox
  and taken out again, reports are written, nodes note what they are told. -/
  | aside {layout' : Layout} : layout'.tree = layout.tree → layout'.forms = layout.forms →
    layout'.announced = layout.announced → layout'.pagers = layout.pagers → Deed layout layout'

/-- Any number of things that somebody outside does. -/
abbrev Deeds : Layout → Layout → Prop := Relation.ReflTransGen (Deed Ends)

/-- How an observer of a form answers a snapshot. -/
inductive FormAnswers (observer : Observer FormReaction) (snapshot : FormState) (layout : Layout) :
    Layout × Flow → Prop
  /-- An observer of the layout reacts as it always does. -/
  | own {result : Layout × Flow} :
    FormReacts (fun id intent => Ends (.reviseForm id (·.reduce intent))) observer snapshot layout
      result → FormAnswers observer snapshot layout result
  /-- An observer from outside does what it likes, and stays or leaves. -/
  | guest {layout' : Layout} {flow : Flow} : observer.reaction = .guest →
    Deeds Ends layout layout' → flow ≠ .fail →
    FormAnswers observer snapshot layout (layout', flow)

/-- How an observer of a pager answers a snapshot. -/
inductive PagerAnswers (observer : Observer PagerReaction) (snapshot : PagerState)
    (layout : Layout) : Layout × Flow → Prop
  /-- An observer of the layout reacts as it always does. -/
  | own {result : Layout × Flow} :
    PagerReacts (fun id intent => Ends (.reviseForm id (·.reduce intent))) observer snapshot layout
      result → PagerAnswers observer snapshot layout result
  /-- An observer from outside does what it likes, and stays or leaves. -/
  | guest {layout' : Layout} {flow : Flow} : observer.reaction = .guest →
    Deeds Ends layout layout' → flow ≠ .fail →
    PagerAnswers observer snapshot layout (layout', flow)

end Deeds

/-- A change through a handle comes to an end with all that follows, and changes are nested fewer
than `depth` levels deep. -/
def ErrandEnds : Nat → Errand → Layout → Layout → Prop
  | 0, _, _, _ => False
  | depth + 1, .reviseForm id change, layout, layout' =>
    (formPlace id).FlushEnds (FormAnswers (ErrandEnds depth))
      ((formPlace id).modify layout fun state => state.commit (change state.value)) layout'
  | depth + 1, .updatePager id change, layout, layout' =>
    (pagerPlace id).FlushEnds (PagerAnswers (ErrandEnds depth))
      ((pagerPlace id).modify layout fun state => state.commit (change state.value)) layout'

/-- **All that may happen to a layout**: one thing after the other is done from outside, and whoever
observes its forms and pagers from outside may do things meanwhile. -/
abbrev Undergoes : Layout → Layout → Prop :=
  Relation.ReflTransGen fun layout layout' => ∃ depth, Deed (ErrandEnds depth) layout layout'

/-! ## Guests -/

variable {layout : Layout} {id other : NodeId}

/-- When a form is observed from outside, there is one more guest, and no other observer is new. -/
lemma observers_watchForm {observer : Observer FormReaction}
    (h : observer ∈ (((formPlace id).modify layout (·.watch .guest)).form other).observers) :
    observer ∈ (layout.form other).observers ∨ observer.reaction = .guest := by
  rw [form_modify] at h
  split at h
  · next heq =>
    subst heq
    exact (List.mem_append.mp h).imp_right fun hnew => by rw [List.mem_singleton.mp hnew]
  · exact .inl h

/-- So it is with pagers. -/
lemma observers_watchPager {observer : Observer PagerReaction}
    (h : observer ∈ (((pagerPlace id).modify layout (·.watch .guest)).pager other).observers) :
    observer ∈ (layout.pager other).observers ∨ observer.reaction = .guest := by
  rw [pager_modify] at h
  split at h
  · next heq =>
    subst heq
    exact (List.mem_append.mp h).imp_right fun hnew => by rw [List.mem_singleton.mp hnew]
  · exact .inl h

end Layout

end FormTree

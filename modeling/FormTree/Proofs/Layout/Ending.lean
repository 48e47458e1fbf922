import FormTree.Proofs.Layout.Announcing
import FormTree.Proofs.Layout.Telling
import FormTree.Proofs.Observable.Ending
import Mathlib.Data.Set.BooleanAlgebra
import Mathlib.Order.CompletePartialOrder

set_option autoImplicit false

/-!
# Cascades that end

A change of a form or of a pager is delivered to observers, which change forms in turn, and so on.
This module describes such a cascade without any bound on its depth or on the rounds of a delivery,
as something that comes to an end after finitely many steps. In a sound layout every change comes to
an end in this sense: the bounds with which changes are made are never reached.

An observer of a form changes the form itself, which is being delivered at that time, or a form
further down. So the depth cannot be exhausted. If the rounds of a delivery were exhausted, then a
form would be left behind that is marked as being delivered, and nothing would take the mark away;
but there is no such form in a sound layout, and a change leads to a sound layout again.

## Main definitions

* `FormTree.Layout.FormReacts`, `FormTree.Layout.PagerReacts` — the reaction of an observer comes to
  an end.
* `FormTree.Layout.FormChangeEnds`, `FormTree.Layout.PagerChangeEnds` — a change with all that
  follows comes to an end.
* `FormTree.Layout.busy` — the forms that are marked as being delivered.

## Main results

* `FormTree.Layout.FormChangeEnds.unique`, `FormTree.Layout.PagerChangeEnds.unique` — a change ends
  in one way only.
* `FormTree.Layout.onward_updateForm` — what a change comes to that is made with a bound.
* `FormTree.Layout.Sound.formChangeEnds_iff`, `FormTree.Layout.Sound.pagerChangeEnds_iff` — in a
  sound layout changes come to an end.
-/

namespace FormTree

/-- The forms that a reaction changes are among the given ones. -/
def FormReaction.Within (among : NodeId → Prop) : FormReaction → Prop
  | .inherit form | .reportDisplay form | .refresh form => among form
  | .announce _ | .guest => True

/-- Forms among some are among all those that these are among. -/
theorem FormReaction.Within.mono {among among' : NodeId → Prop} {reaction : FormReaction}
    (h : reaction.Within among) (hamong : ∀ form, among form → among' form) :
    reaction.Within among' := by
  cases reaction with
  | announce form => trivial
  | guest => trivial
  | _ => exact hamong _ h

/-- The forms that a reaction changes are among the given ones. -/
def PagerReaction.Within (among : NodeId → Prop) : PagerReaction → Prop
  | .refresh form => among form
  | .announce _ | .guest => True

namespace Layout

/-! ## Cascades -/

section Reactions

variable (Changes : NodeId → FormIntent → Layout → Layout → Prop)

/-- The reaction of an observer of a form comes to an end, where `Changes` tells how the changes do
that it makes. -/
inductive FormReacts (observer : Observer FormReaction) (snapshot : FormState) (layout : Layout) :
    Layout × Flow → Prop
  /-- A form takes over submission and disablement. -/
  | inherit {child : NodeId} {layout' : Layout} : observer.reaction = .inherit child →
    Changes child (.inherit snapshot.isSubmitted snapshot.isEnabled) layout layout' →
    FormReacts observer snapshot layout (layout', .stay)
  /-- A display has been reported before. -/
  | reported {id : NodeId} : observer.reaction = .reportDisplay id →
    snapshot.isDisplayReported = true → FormReacts observer snapshot layout (layout, .leave)
  /-- There is no display to report. -/
  | unseen {id : NodeId} : observer.reaction = .reportDisplay id →
    snapshot.isDisplayReported = false → snapshot.displayed.isEmpty = true →
    FormReacts observer snapshot layout (layout, .stay)
  /-- A display is reported. -/
  | display {id : NodeId} {layout' : Layout} : observer.reaction = .reportDisplay id →
    snapshot.isDisplayReported = false → snapshot.displayed.isEmpty = false →
    Changes id .displayReported
      (layout.push (.bubble id (.formDisplay (.ofForm snapshot.context)))) layout' →
    FormReacts observer snapshot layout (layout', .leave)
  /-- A form evaluates its rules. -/
  | refresh {id : NodeId} {layout' : Layout} : observer.reaction = .refresh id →
    Changes id (.setEnabled (layout.rulesHold id)) layout layout' →
    FormReacts observer snapshot layout (layout', .stay)
  /-- The flags of a form are as announced before. -/
  | unchanged {id : NodeId} : observer.reaction = .announce id →
    (layout.announced.get id).getLast? = some snapshot.status →
    FormReacts observer snapshot layout (layout, .stay)
  /-- The flags of a form are announced. -/
  | announce {id : NodeId} : observer.reaction = .announce id →
    (layout.announced.get id).getLast? ≠ some snapshot.status →
    FormReacts observer snapshot layout (layout.announce id snapshot.status, .stay)
  /-- An observer that does not belong to the layout. -/
  | guest : observer.reaction = .guest → FormReacts observer snapshot layout (layout, .stay)

/-- The reaction of an observer of a pager comes to an end, where `Changes` tells how the changes do
that it makes. -/
inductive PagerReacts (observer : Observer PagerReaction) (snapshot : PagerState)
    (layout : Layout) : Layout × Flow → Prop
  /-- The position of a pager is announced. -/
  | announce {id : NodeId} : observer.reaction = .announce id →
    PagerReacts observer snapshot layout (layout.announcePosition id snapshot, .stay)
  /-- A form evaluates its rules. -/
  | refresh {id : NodeId} {layout' : Layout} : observer.reaction = .refresh id →
    Changes id (.setEnabled (layout.rulesHold id)) layout layout' →
    PagerReacts observer snapshot layout (layout', .stay)
  /-- An observer that does not belong to the layout. -/
  | guest : observer.reaction = .guest → PagerReacts observer snapshot layout (layout, .stay)

end Reactions

/-- The change of the form `id` with all that follows comes to an end, and changes are nested fewer
than `depth` levels deep. -/
def NestedChangeEnds : Nat → NodeId → FormIntent → Layout → Layout → Prop
  | 0, _, _, _, _ => False
  | depth + 1, id, intent, layout, layout' =>
    (formPlace id).FlushEnds (FormReacts (NestedChangeEnds depth)) (layout.commitForm id intent)
      layout'

/-- The change of the form `id` with all that follows comes to an end, in `layout'`. -/
def FormChangeEnds (id : NodeId) (intent : FormIntent) (layout layout' : Layout) : Prop :=
  ∃ depth, NestedChangeEnds depth id intent layout layout'

/-- The change of the pager `id` with all that follows comes to an end, in `layout'`. -/
def PagerChangeEnds (id : NodeId) (change : PagerState → PagerState) (layout layout' : Layout) :
    Prop :=
  ∃ depth, (pagerPlace id).FlushEnds (PagerReacts (NestedChangeEnds depth))
    ((pagerPlace id).modify layout fun state => state.commit (change state.value)) layout'

/-! ## One end only -/

section Unique

variable {Changes Changes' : NodeId → FormIntent → Layout → Layout → Prop}

theorem FormReacts.mono (hchanges : ∀ id intent layout layout',
      Changes id intent layout layout' → Changes' id intent layout layout')
    (observer : Observer FormReaction) (snapshot : FormState) (layout : Layout)
    (result : Layout × Flow) (h : FormReacts Changes observer snapshot layout result) :
    FormReacts Changes' observer snapshot layout result := by
  cases h with
  | inherit hreaction hchange => exact .inherit hreaction (hchanges _ _ _ _ hchange)
  | reported hreaction hreported => exact .reported hreaction hreported
  | unseen hreaction hreported hempty => exact .unseen hreaction hreported hempty
  | display hreaction hreported hempty hchange =>
    exact .display hreaction hreported hempty (hchanges _ _ _ _ hchange)
  | refresh hreaction hchange => exact .refresh hreaction (hchanges _ _ _ _ hchange)
  | unchanged hreaction hsame => exact .unchanged hreaction hsame
  | announce hreaction hnew => exact .announce hreaction hnew
  | guest hreaction => exact .guest hreaction

theorem PagerReacts.mono (hchanges : ∀ id intent layout layout',
      Changes id intent layout layout' → Changes' id intent layout layout')
    (observer : Observer PagerReaction) (snapshot : PagerState) (layout : Layout)
    (result : Layout × Flow) (h : PagerReacts Changes observer snapshot layout result) :
    PagerReacts Changes' observer snapshot layout result := by
  cases h with
  | announce hreaction => exact .announce hreaction
  | refresh hreaction hchange => exact .refresh hreaction (hchanges _ _ _ _ hchange)
  | guest hreaction => exact .guest hreaction

variable (hchanges : ∀ id intent layout layout' layout'',
  Changes id intent layout layout' → Changes id intent layout layout'' → layout' = layout'')
include hchanges

/-- The reaction of an observer of a form ends in one way only, if the changes do that it makes. -/
theorem FormReacts.unique (observer : Observer FormReaction) (snapshot : FormState)
    (layout : Layout) (result result' : Layout × Flow)
    (h : FormReacts Changes observer snapshot layout result)
    (h' : FormReacts Changes observer snapshot layout result') : result = result' := by
  cases h <;> cases h' <;> simp_all
  -- what is left are two changes that are made in one and the same reaction
  all_goals exact hchanges _ _ _ _ _ (by assumption) (by assumption)

/-- The reaction of an observer of a pager ends in one way only, if the changes do that it makes. -/
theorem PagerReacts.unique (observer : Observer PagerReaction) (snapshot : PagerState)
    (layout : Layout) (result result' : Layout × Flow)
    (h : PagerReacts Changes observer snapshot layout result)
    (h' : PagerReacts Changes observer snapshot layout result') : result = result' := by
  cases h <;> cases h' <;> simp_all
  exact hchanges _ _ _ _ _ (by assumption) (by assumption)

end Unique

/-- More depth does no harm. -/
theorem NestedChangeEnds.mono {depth depth' : Nat} (hle : depth ≤ depth') (id : NodeId)
    (intent : FormIntent) (layout layout' : Layout)
    (h : NestedChangeEnds depth id intent layout layout') :
    NestedChangeEnds depth' id intent layout layout' := by
  induction depth generalizing depth' id intent layout layout' with
  | zero => exact h.elim
  | succ depth ih =>
    obtain ⟨depth', rfl⟩ : ∃ n, depth' = n + 1 := ⟨depth' - 1, by omega⟩
    exact Place.FlushEnds.mono (FormReacts.mono (ih (Nat.le_of_succ_le_succ hle))) h

/-- A change that is nested ends in one way only. -/
theorem NestedChangeEnds.unique {depth : Nat} (id : NodeId) (intent : FormIntent)
    (layout layout' layout'' : Layout) (h : NestedChangeEnds depth id intent layout layout')
    (h' : NestedChangeEnds depth id intent layout layout'') : layout' = layout'' := by
  induction depth generalizing id intent layout layout' layout'' with
  | zero => exact h.elim
  | succ depth ih => exact Place.FlushEnds.unique (FormReacts.unique ih) h h'

variable {layout layout' layout'' : Layout} {id : NodeId} {intent : FormIntent}
  {change : PagerState → PagerState}

/-- **A change of a form ends in one way only.** -/
theorem FormChangeEnds.unique (h : FormChangeEnds id intent layout layout')
    (h' : FormChangeEnds id intent layout layout'') : layout' = layout'' := by
  obtain ⟨depth, h⟩ := h
  obtain ⟨depth', h'⟩ := h'
  exact NestedChangeEnds.unique _ _ _ _ _ (h.mono (Nat.le_max_left depth depth'))
    (h'.mono (Nat.le_max_right depth depth'))

/-- **A change of a pager ends in one way only.** -/
theorem PagerChangeEnds.unique (h : PagerChangeEnds id change layout layout')
    (h' : PagerChangeEnds id change layout layout'') : layout' = layout'' := by
  obtain ⟨depth, h⟩ := h
  obtain ⟨depth', h'⟩ := h'
  exact Place.FlushEnds.unique (PagerReacts.unique NestedChangeEnds.unique)
    (h.mono (PagerReacts.mono (NestedChangeEnds.mono (Nat.le_max_left depth depth'))))
    (h'.mono (PagerReacts.mono (NestedChangeEnds.mono (Nat.le_max_right depth depth'))))

/-! ## What is under way -/

/-- The forms that are marked as being delivered. -/
def busy (layout : Layout) : Set NodeId :=
  {id | (layout.tree.form? id).isSome ∧ (layout.form id).isDelivering = true}

/-- Observers change forms only, and none that comes before the form that they observe. -/
structure Downward (layout : Layout) : Prop where
  forms {id : NodeId} : (layout.tree.form? id).isSome → ∀ observer ∈ (layout.form id).observers,
    observer.reaction.Within fun target => (layout.tree.form? target).isSome ∧ id ≤ target
  pagers {id : NodeId} : layout.tree.isPager id = true →
    ∀ observer ∈ (layout.pager id).observers,
      observer.reaction.Within fun target => (layout.tree.form? target).isSome

/-- Nothing is under way in a sound layout. -/
theorem Sound.busy_eq_empty (h : layout.Sound) : layout.busy = ∅ := by
  refine Set.eq_empty_iff_forall_notMem.mpr fun id ⟨hsome, hbusy⟩ => ?_
  rw [(h.rests id hsome).isDelivering] at hbusy
  cases hbusy

/-- In a sound layout observers change forms further down. -/
theorem Sound.downward (h : layout.Sound) : layout.Downward where
  forms {id} hsome observer hobserver := by
    have hreaction := List.mem_map_of_mem (f := (·.reaction)) hobserver
    rw [(h.rests id hsome).wired.reactions, List.mem_append, List.mem_flatMap] at hreaction
    have hself : (layout.tree.form? id).isSome ∧ id ≤ id := ⟨hsome, Nat.le_refl id⟩
    rcases hreaction with hown | ⟨inner, hinner, hties⟩
    · -- an observer of the form's own
      generalize observer.reaction = reaction at hown ⊢
      simp only [Wiring.own, List.mem_append, List.mem_ite_nil_right, List.mem_singleton] at hown
      rcases hown with ⟨-, rfl⟩ | ⟨-, rfl⟩ | ⟨-, rfl⟩
      · exact hself
      · exact hself
      · trivial
    · -- a tie of a form right inside
      obtain ⟨hform, haround⟩ := Tree.mem_inside.mp hinner
      have hbelow : (layout.tree.form? inner).isSome ∧ id ≤ inner :=
        ⟨hform, Nat.le_of_lt (h.wf.linked.formAround_lt haround)⟩
      generalize observer.reaction = reaction at hties ⊢
      simp only [Tree.ties, List.mem_append, List.mem_ite_nil_left, List.mem_ite_nil_right,
        List.mem_singleton] at hties
      rcases hties with ⟨-, rfl⟩ | ⟨-, rfl⟩
      · exact hbelow
      · exact hbelow
  pagers {id} hpager observer hobserver := by
    have hreaction := List.mem_map_of_mem (f := (·.reaction)) hobserver
    rw [(h.pagers id hpager).reactions, List.mem_cons, List.mem_map] at hreaction
    rcases hreaction with hannounce | ⟨form, hform, hrefresh⟩
    · rw [hannounce]
      trivial
    · rw [← hrefresh]
      refine Tree.isSome_form?_of_rules fun hnil => ?_
      have hpagers := (Tree.mem_lookers.mp hform).1
      rw [hnil] at hpagers
      cases hpagers

/-! ## Changes with a bound -/

theorem mem_busy : id ∈ layout.busy ↔
    (layout.tree.form? id).isSome ∧ (layout.form id).isDelivering = true := Iff.rfl

/-- What is marked is up to the tree and the containers. -/
theorem busy_congr (htree : layout'.tree = layout.tree)
    (hforms : ∀ other, (layout'.form other).isDelivering = (layout.form other).isDelivering) :
    layout'.busy = layout.busy := by
  ext other
  rw [mem_busy, mem_busy, htree, hforms]

/-- Where no observers are added, they go on changing forms further down. -/
theorem Downward.congr (h : layout.Downward) (htree : layout'.tree = layout.tree)
    (hforms : ∀ other, (layout'.form other).observers ⊆ (layout.form other).observers)
    (hpagers : ∀ other, (layout'.pager other).observers ⊆ (layout.pager other).observers) :
    layout'.Downward where
  forms {other} hsome observer hobserver := by
    rw [htree] at hsome ⊢
    exact h.forms hsome observer (hforms other hobserver)
  pagers {other} hpager observer hobserver := by
    rw [htree] at hpager ⊢
    exact h.pagers hpager observer (hpagers other hobserver)

/-- What a change of a form comes to that is made with a bound: what is marked only grows, and if it
does not, then the change has come to an end. -/
structure Onward (depth : Nat) (id : NodeId) (intent : FormIntent) (layout layout' : Layout) :
    Prop where
  tree : layout'.tree = layout.tree
  downward : layout'.Downward
  busy : layout.busy ⊆ layout'.busy
  ends : layout'.busy ⊆ layout.busy → NestedChangeEnds depth id intent layout layout'

/-- The delivery of a form is under way. -/
structure Delivering (tree : Tree) (id : NodeId) (layout : Layout) : Prop where
  tree : layout.tree = tree
  downward : layout.Downward
  isDelivering : (layout.form id).isDelivering = true

/-- The commit to a form only adds to what is pending. -/
theorem busy_commitForm (layout : Layout) (id : NodeId) (intent : FormIntent) :
    (layout.commitForm id intent).busy = layout.busy := by
  refine busy_congr rfl fun other => ?_
  rw [form_commitForm]
  split
  · next heq => rw [Observable.isDelivering_commit, heq]
  · rfl

/-- A change in the place of a form that adds no observers leaves what observers change as it is. -/
theorem Downward.modify (h : layout.Downward)
    (id : NodeId) (change : Observable FormState FormReaction → Observable FormState FormReaction)
    (hobservers : ∀ state, (change state).observers ⊆ state.observers) :
    ((formPlace id).modify layout change).Downward := by
  refine h.congr rfl (fun other => ?_) fun _ => List.Subset.refl _
  rw [form_modify]
  split
  · next heq => exact heq ▸ hobservers _
  · exact List.Subset.refl _

theorem Downward.commitForm (h : layout.Downward) (id : NodeId) (intent : FormIntent) :
    (layout.commitForm id intent).Downward :=
  h.modify id (fun state => state.commit (state.value.reduce intent)) fun state => by
    rw [Observable.observers_commit]
    exact List.Subset.refl _

/-- A change of a form that is being delivered is left to that delivery. -/
theorem onward_of_delivering (h : layout.Downward) {depth : Nat} (hdepth : 0 < depth)
    (hbusy : (layout.form id).isDelivering = true) (intent : FormIntent) :
    Onward depth id intent layout (updateForm depth id intent layout) := by
  obtain ⟨depth, rfl⟩ : ∃ n, depth = n + 1 := ⟨depth - 1, by omega⟩
  rw [updateForm_of_delivering depth hbusy]
  refine ⟨rfl, h.commitForm id intent, (busy_commitForm layout id intent).symm.subset, fun _ => ?_⟩
  refine .busy ?_
  show ((layout.commitForm id intent).form id).isDelivering = true
  rw [form_commitForm, if_pos rfl, Observable.isDelivering_commit, hbusy]

/-- A reaction that makes a change of a form settles as the change does. -/
theorem Onward.delivering {depth : Nat} {tree : Tree} {top : NodeId}
    (h : Onward depth id intent layout layout') (hdelivering : Delivering tree top layout)
    (hform : (tree.form? top).isSome) : Delivering tree top layout' where
  tree := h.tree.trans hdelivering.tree
  downward := h.downward
  isDelivering := by
    have hbusy : top ∈ layout.busy :=
      mem_busy.mpr ⟨by rw [hdelivering.tree]; exact hform, hdelivering.isDelivering⟩
    exact (mem_busy.mp (h.busy hbusy)).2

/-- **The observers of a form settle**, if the changes do that they make. -/
theorem settles_reactForm {depth : Nat} {tree : Tree} (hform : (tree.form? id).isSome)
    (honward : ∀ (target : NodeId) (intent : FormIntent) (world : Layout),
      (tree.form? target).isSome → id ≤ target → Delivering tree id world →
      Onward depth target intent world (updateForm depth target intent world))
    {observer : Observer FormReaction}
    (hwithin : observer.reaction.Within fun target => (tree.form? target).isSome ∧ id ≤ target)
    (snapshot : FormState) {world : Layout} (h : Delivering tree id world) :
    Place.Settles (FormReacts (NestedChangeEnds depth)) (Delivering tree id) busy observer snapshot
      world (reactForm (updateForm depth) observer snapshot world) := by
  unfold reactForm
  split
  · next child hreaction =>
    rw [hreaction] at hwithin
    have hchange := honward child (.inherit snapshot.isSubmitted snapshot.isEnabled) world hwithin.1
      hwithin.2 h
    exact ⟨hchange.delivering h hform, hchange.busy, nofun, fun hback =>
      .inherit hreaction (hchange.ends hback)⟩
  · next target hreaction =>
    split
    · next hreported =>
      exact ⟨h, Set.Subset.rfl, nofun, fun _ => .reported hreaction hreported⟩
    · next hreported =>
      rw [Bool.not_eq_true] at hreported
      split
      · next hempty =>
        exact ⟨h, Set.Subset.rfl, nofun, fun _ => .unseen hreaction hreported hempty⟩
      · next hempty =>
        rw [Bool.not_eq_true] at hempty
        rw [hreaction] at hwithin
        have hpushed : Delivering tree id
            (world.push (.bubble target (.formDisplay (.ofForm snapshot.context)))) :=
          ⟨h.tree, h.downward.congr rfl (fun _ => List.Subset.refl _) fun _ => List.Subset.refl _,
            h.isDelivering⟩
        have hchange := honward target .displayReported _ hwithin.1 hwithin.2 hpushed
        exact ⟨hchange.delivering hpushed hform, hchange.busy, nofun, fun hback =>
          .display hreaction hreported hempty (hchange.ends hback)⟩
  · next target hreaction =>
    rw [hreaction] at hwithin
    have hchange := honward target (.setEnabled (world.rulesHold target)) world hwithin.1
      hwithin.2 h
    exact ⟨hchange.delivering h hform, hchange.busy, nofun, fun hback =>
      .refresh hreaction (hchange.ends hback)⟩
  · next target hreaction =>
    split
    · next hsame => exact ⟨h, Set.Subset.rfl, nofun, fun _ => .unchanged hreaction hsame⟩
    · next hnew =>
      have hannounced : Delivering tree id (world.announce target snapshot.status) :=
        ⟨h.tree, h.downward.congr rfl (fun _ => List.Subset.refl _) fun _ => List.Subset.refl _,
          h.isDelivering⟩
      exact ⟨hannounced, Set.Subset.rfl, nofun, fun _ => .announce hreaction hnew⟩
  · next hreaction => exact ⟨h, Set.Subset.rfl, nofun, fun _ => .guest hreaction⟩

/-- Once a delivery has started, it is under way. -/
theorem delivering_start (h : layout.Downward) (id : NodeId) (intent : FormIntent) :
    Delivering layout.tree id ((formPlace id).start (layout.commitForm id intent)) where
  tree := rfl
  downward := (h.commitForm id intent).modify id (fun state => { state with isDelivering := true })
    fun _ => List.Subset.refl _
  isDelivering := by rw [Place.start, form_modify, if_pos rfl]

/-- The start of a delivery marks the form. -/
theorem busy_start (hsome : (layout.tree.form? id).isSome) :
    ((formPlace id).start (layout.commitForm id intent)).busy = insert id layout.busy := by
  ext other
  rw [mem_busy, Place.start, form_modify, Set.mem_insert_iff, mem_busy]
  by_cases heq : id = other
  · subst heq
    simp [hsome, Place.modify, formPlace, commitForm]
  · rw [if_neg heq, form_commitForm, if_neg heq]
    have hne : other ≠ id := Ne.symm heq
    simp [hne, commitForm, Place.modify, formPlace]

/-- The end of a delivery takes the mark away. -/
theorem busy_rest (layout : Layout) (id : NodeId) :
    ((formPlace id).rest layout).busy = layout.busy \ {id} := by
  ext other
  rw [mem_busy, Place.rest, form_modify, Set.mem_sdiff, Set.mem_singleton_iff, mem_busy]
  by_cases heq : id = other
  · simp [heq]
  · have hne : other ≠ id := Ne.symm heq
    simp [heq, hne, Place.modify, formPlace]

/-- A change in the place of a form that adds no observers and keeps the mark is of no concern. -/
theorem unmarked_modify {tree : Tree} (world : Layout)
    (change : Observable FormState FormReaction → Observable FormState FormReaction)
    (hobservers : ∀ state, (change state).observers ⊆ state.observers)
    (hmark : ∀ state, (change state).isDelivering = state.isDelivering) :
    Place.Unmarked (Delivering tree id) busy world ((formPlace id).modify world change) := by
  have hmarks : ∀ other, (((formPlace id).modify world change).form other).isDelivering =
      (world.form other).isDelivering := by
    intro other
    rw [form_modify]
    split
    · next heq => rw [hmark, heq]
    · rfl
  exact fun h => ⟨⟨h.tree, h.downward.modify id change hobservers,
    (hmarks id).trans h.isDelivering⟩, busy_congr rfl hmarks⟩

/-- A change of a form that rests starts a delivery. If the rounds are exhausted, then the form is
left behind with a mark that it did not have before. -/
theorem onward_of_idle {depth : Nat} (h : layout.Downward) (hsome : (layout.tree.form? id).isSome)
    (hidle : (layout.form id).isDelivering = false)
    (honward : ∀ (target : NodeId) (intent : FormIntent) (world : Layout),
      (layout.tree.form? target).isSome → id ≤ target → Delivering layout.tree id world →
      Onward depth target intent world (updateForm depth target intent world))
    (intent : FormIntent) :
    Onward (depth + 1) id intent layout (updateForm (depth + 1) id intent layout) := by
  have hsettles : ∀ before, Delivering layout.tree id before →
      ∀ observer ∈ ((formPlace id).get before).observers, ∀ snapshot world,
      Delivering layout.tree id world → Place.Settles (FormReacts (NestedChangeEnds depth))
        (Delivering layout.tree id) busy observer snapshot world
        (reactForm (updateForm depth) observer snapshot world) := by
    intro before hbefore observer hobserver snapshot world hworld
    have hwithin := hbefore.downward.forms (hbefore.tree ▸ hsome) observer hobserver
    rw [hbefore.tree] at hwithin
    exact settles_reactForm hsome honward hwithin snapshot hworld
  have hresting : ((formPlace id).get (layout.commitForm id intent)).isDelivering = false := by
    show ((layout.commitForm id intent).form id).isDelivering = false
    rw [form_commitForm, if_pos rfl, Observable.isDelivering_commit, hidle]
  obtain ⟨last, hlast, hgrows, hends⟩ := (formPlace id).flush_ends hsettles
    (fun world other => unmarked_modify world (·.unwatch other)
      (fun _ _ h => (List.mem_filter.mp h).1) fun _ => rfl)
    (fun world pending => unmarked_modify world (fun state => { state with pending })
      (fun _ => List.Subset.refl _) fun _ => rfl)
    formRounds hresting (delivering_start h id intent)
  rw [busy_start hsome] at hgrows hends
  have hself : id ∉ layout.busy := fun hbusy => by
    rw [(mem_busy.mp hbusy).2] at hidle
    cases hidle
  rw [updateForm]
  rcases hends with hbroken | ⟨hdone, hends⟩
  · -- the rounds are exhausted: the form is still marked
    rw [hbroken]
    refine ⟨hlast.tree, hlast.downward, fun other hother => hgrows (.inr hother), ?_⟩
    exact fun hback => absurd (hback (hgrows (.inl rfl))) hself
  · rw [hdone]
    have hrest : ((formPlace id).rest last).busy = last.busy \ {id} := busy_rest last id
    have hdownward : ((formPlace id).rest last).Downward :=
      hlast.downward.modify id (fun state => { state with isDelivering := false })
        fun _ => List.Subset.refl _
    refine ⟨hlast.tree, hdownward, fun other hother => ?_,
      fun hback => hends fun other hother => ?_⟩
    · rw [hrest]
      refine ⟨hgrows (.inr hother), fun heq => hself ?_⟩
      rwa [← Set.mem_singleton_iff.mp heq]
    · by_cases heq : other = id
      · exact .inl heq
      · exact .inr (hback (hrest ▸ ⟨hother, heq⟩))

/-- **What a change of a form comes to that is made with a bound**, if the bound on the depth
exceeds the number of forms that may still follow.

**Proof sketch.** Induction on the depth. A change of a form that is being delivered is left to that
delivery. Otherwise a delivery starts. Its observers change the form itself, which is being
delivered now, or a form with a larger number, for which one level of depth less suffices. -/
theorem onward_updateForm : ∀ (depth : Nat) {id : NodeId} (intent : FormIntent) {layout : Layout},
    (layout.tree.form? id).isSome → layout.tree.size < depth + id → layout.Downward →
    Onward depth id intent layout (updateForm depth id intent layout) := by
  intro depth
  induction depth with
  | zero =>
    intro id intent layout hsome hdepth _
    have := Tree.lt_size_of_form? hsome
    unfold NodeId at *
    omega
  | succ depth ih =>
    intro id intent layout hsome hdepth h
    have hlt := Tree.lt_size_of_form? hsome
    cases hidle : (layout.form id).isDelivering with
    | true => exact onward_of_delivering h (Nat.succ_pos depth) hidle intent
    | false =>
      refine onward_of_idle h hsome hidle (fun target intent world htarget hle hworld => ?_) intent
      rcases Nat.eq_or_lt_of_le hle with rfl | hafter
      · refine onward_of_delivering hworld.downward ?_ hworld.isDelivering intent
        unfold NodeId at *
        omega
      · refine ih intent (hworld.tree ▸ htarget) ?_ hworld.downward
        rw [hworld.tree]
        unfold NodeId at *
        omega

/-! ## Changes of pagers -/

/-- The delivery of a pager is under way. -/
structure PagerDelivering (tree : Tree) (id : NodeId) (layout : Layout) : Prop where
  tree : layout.tree = tree
  downward : layout.Downward
  isDelivering : (layout.pager id).isDelivering = true

/-- **The observers of a pager settle.** -/
theorem settles_reactPager {depth : Nat} {tree : Tree} (hdepth : tree.size < depth)
    {observer : Observer PagerReaction}
    (hwithin : observer.reaction.Within fun target => (tree.form? target).isSome)
    (snapshot : PagerState) {world : Layout} (h : PagerDelivering tree id world) :
    Place.Settles (PagerReacts (NestedChangeEnds depth)) (PagerDelivering tree id) busy observer
      snapshot world (reactPager (updateForm depth) observer snapshot world) := by
  unfold reactPager
  split
  · next target hreaction =>
    have hannounced : PagerDelivering tree id (world.announcePosition target snapshot) :=
      ⟨h.tree, h.downward.congr rfl (fun _ => List.Subset.refl _) fun _ => List.Subset.refl _,
        h.isDelivering⟩
    exact ⟨hannounced, Set.Subset.rfl, by simp, fun _ => .announce hreaction⟩
  · next target hreaction =>
    rw [hreaction] at hwithin
    have hchange := onward_updateForm depth (.setEnabled (world.rulesHold target))
      (h.tree ▸ hwithin) (by rw [h.tree]; exact Nat.lt_add_right target hdepth) h.downward
    have hkept : PagerDelivering tree id (refresh (updateForm depth) target world) := by
      refine ⟨hchange.tree.trans h.tree, hchange.downward, ?_⟩
      rw [refresh, Layout.pager, pagers_updateForm]
      exact h.isDelivering
    exact ⟨hkept, hchange.busy, by simp, fun hback => .refresh hreaction (hchange.ends hback)⟩
  · next hreaction => exact ⟨h, Set.Subset.rfl, by simp, fun _ => .guest hreaction⟩

/-- A change in the place of a pager that adds no observers leaves what observers change as it
is. -/
theorem Downward.modifyPager (h : layout.Downward) (id : NodeId)
    (change : Observable PagerState PagerReaction → Observable PagerState PagerReaction)
    (hobservers : ∀ state, (change state).observers ⊆ state.observers) :
    ((pagerPlace id).modify layout change).Downward := by
  refine h.congr rfl (fun _ => List.Subset.refl _) fun other => ?_
  rw [pager_modify]
  split
  · next heq => exact heq ▸ hobservers _
  · exact List.Subset.refl _

/-- A change in the place of a pager that adds no observers and keeps the mark is of no concern. -/
theorem unmarked_modifyPager {tree : Tree} (world : Layout)
    (change : Observable PagerState PagerReaction → Observable PagerState PagerReaction)
    (hobservers : ∀ state, (change state).observers ⊆ state.observers)
    (hmark : ∀ state, (change state).isDelivering = state.isDelivering) :
    Place.Unmarked (PagerDelivering tree id) busy world ((pagerPlace id).modify world change) := by
  refine fun h => ⟨⟨h.tree, h.downward.modifyPager id change hobservers, ?_⟩, rfl⟩
  rw [pager_modify, if_pos rfl, hmark]
  exact h.isDelivering

/-! ## Changes in sound layouts -/

/-- **In a sound layout a change of a form comes to an end**, whatever follows.

**Proof sketch.** No form is marked before the change, and none afterwards. -/
theorem Sound.formChangeEnds (h : layout.Sound) (hsome : (layout.tree.form? id).isSome)
    (intent : FormIntent) : FormChangeEnds id intent layout (layout.changeForm id intent) := by
  have honward := onward_updateForm layout.depth intent hsome
    (Nat.lt_add_right id (Nat.lt_succ_self _)) h.downward
  refine ⟨layout.depth, honward.ends ?_⟩
  rw [show (updateForm layout.depth id intent layout).busy = ∅ from
    (h.changeForm hsome intent).busy_eq_empty]
  exact Set.empty_subset _

/-- **In a sound layout a change of a pager comes to an end**, whatever follows. -/
theorem Sound.pagerChangeEnds (h : layout.Sound) (hpager : layout.tree.isPager id = true)
    (change : PagerState → PagerState) :
    PagerChangeEnds id change layout (layout.updatePager id change) := by
  have hsound := h.updatePager hpager change
  have htree : (layout.updatePager id change).tree = layout.tree :=
    (h.pagerChange hpager change).aftermath.tree_eq
  have hsettles : ∀ before, PagerDelivering layout.tree id before →
      ∀ observer ∈ ((pagerPlace id).get before).observers, ∀ snapshot world,
      PagerDelivering layout.tree id world →
        Place.Settles (PagerReacts (NestedChangeEnds layout.depth)) (PagerDelivering layout.tree id)
          busy observer snapshot world
          (reactPager (updateForm layout.depth) observer snapshot world) := by
    intro before hbefore observer hobserver snapshot world hworld
    have hwithin := hbefore.downward.pagers (hbefore.tree ▸ hpager) observer hobserver
    rw [hbefore.tree] at hwithin
    exact settles_reactPager (Nat.lt_succ_self _) hwithin snapshot hworld
  have hcommitted : ((pagerPlace id).modify layout fun state =>
      state.commit (change state.value)).Downward :=
    h.downward.modifyPager id (fun state => state.commit (change state.value)) fun state => by
      rw [Observable.observers_commit]
      exact List.Subset.refl _
  have hstart : PagerDelivering layout.tree id ((pagerPlace id).start
      ((pagerPlace id).modify layout fun state => state.commit (change state.value))) := by
    refine ⟨rfl, hcommitted.modifyPager id (fun state => { state with isDelivering := true })
      fun _ => List.Subset.refl _, ?_⟩
    rw [Place.start, pager_modify, if_pos rfl]
  have hresting : ((pagerPlace id).get ((pagerPlace id).modify layout fun state =>
      state.commit (change state.value))).isDelivering = false := by
    show (((pagerPlace id).modify layout _).pager id).isDelivering = false
    rw [pager_modify, if_pos rfl, Observable.isDelivering_commit]
    exact (h.pagers id hpager).isDelivering
  obtain ⟨last, hlast, hgrows, hends⟩ := (pagerPlace id).flush_ends hsettles
    (fun world other => unmarked_modifyPager world (·.unwatch other)
      (fun _ _ h => (List.mem_filter.mp h).1) fun _ => rfl)
    (fun world pending => unmarked_modifyPager world (fun state => { state with pending })
      (fun _ => List.Subset.refl _) fun _ => rfl)
    pagerRounds hresting hstart
  refine ⟨layout.depth, ?_⟩
  rcases hends with hbroken | ⟨hdone, hends⟩
  · -- the rounds are exhausted: the pager would still be marked
    have hupdate : layout.updatePager id change = last := congrArg Prod.fst hbroken
    have hresting := (hsound.pagers id (htree ▸ hpager)).isDelivering
    rw [hupdate, hlast.isDelivering] at hresting
    cases hresting
  · have hupdate : layout.updatePager id change = (pagerPlace id).rest last :=
      congrArg Prod.fst hdone
    rw [hupdate] at hsound ⊢
    have hempty : last.busy = ∅ := hsound.busy_eq_empty
    exact hends (hempty ▸ Set.empty_subset _)

/-- **In a sound layout the change of a form ends, in the layout that a bound leads to.** -/
theorem Sound.formChangeEnds_iff (h : layout.Sound) (hsome : (layout.tree.form? id).isSome) :
    FormChangeEnds id intent layout layout' ↔ layout' = layout.changeForm id intent := by
  constructor
  · exact fun hends => hends.unique (h.formChangeEnds hsome intent)
  · rintro rfl
    exact h.formChangeEnds hsome intent

/-- **In a sound layout the change of a pager ends, in the layout that a bound leads to.** -/
theorem Sound.pagerChangeEnds_iff (h : layout.Sound) (hpager : layout.tree.isPager id = true) :
    PagerChangeEnds id change layout layout' ↔ layout' = layout.updatePager id change := by
  constructor
  · exact fun hends => hends.unique (h.pagerChangeEnds hpager change)
  · rintro rfl
    exact h.pagerChangeEnds hpager change

end Layout

end FormTree

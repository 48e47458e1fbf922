import FormTree.Proofs.Layout.Owning

set_option autoImplicit false

/-!
# Teardown

A layout that is taken down lets go of every container: the observers that it registered are gone,
wherever they were, and only those remain that somebody outside registered and still holds. What is
done to the containers afterwards, through handles that were taken before, stays in the container
where it is done.

## Main definitions

* `FormTree.Visit` — what can be done to an active layout, observers from outside included.
* `FormTree.Visited` — a layout with the observers from outside that are not yet released.
* `FormTree.Layout.Confined` — nothing changes but one container.

## Main results

* `FormTree.Layout.Accounted.teardown` — after teardown all observers are held from outside.
* `FormTree.Layout.confined_reviseForm`, `FormTree.Layout.confined_updatePager` — where nobody else
  observes a container, its changes stay there.
* `FormTree.Layout.teardown_detaches` — teardown, whatever happened to the layout before.
-/

namespace FormTree

/-! ## Visits -/

/-- What can be done to a layout, observers from outside included. -/
inductive Visit where
  /-- The layout is called, or a form or a pager is changed through its handle, or a dispatch is put
  into the outbox. -/
  | act (intervention : Intervention)
  /-- A form is observed from outside. -/
  | watchForm (id : NodeId)
  /-- A pager is observed from outside. -/
  | watchPager (id : NodeId)
  /-- An observer from outside is released. -/
  | release (watch : Watch)

/-- The container that a visit is about, if it needs no more than the handle of one. -/
def Visit.container? : Visit → Option Container
  | .act (.reviseForm id _) | .watchForm id => some (.form id)
  | .act (.updatePager id _) | .watchPager id => some (.pager id)
  | .release watch => some watch.container
  | .act (.call _) | .act (.push _) => none

/-- A layout with the observers from outside that are not yet released. -/
structure Visited where
  /-- The layout. -/
  layout : Layout
  /-- The observers from outside, in the order of their registration. -/
  held : List Watch := []

namespace Visited

/-- What a visit leads to; one that is refused changes nothing. -/
def visit (state : Visited) : Visit → Visited
  | .act intervention =>
    match state.layout.intervene intervention with
    | .ok (_, layout) => { state with layout }
    | .error _ => state
  | .watchForm id =>
    match state.layout.formSpec id with
    | .ok _ =>
      { layout := (Layout.formPlace id).modify state.layout (·.watch .guest)
        held := state.held ++ [.form id (state.layout.form id).nextObserver] }
    | .error _ => state
  | .watchPager id =>
    match state.layout.pagerSpec id with
    | .ok _ =>
      { layout := (Layout.pagerPlace id).modify state.layout (·.watch .guest)
        held := state.held ++ [.pager id (state.layout.pager id).nextObserver] }
    | .error _ => state
  | .release watch =>
    if watch ∈ state.held then
      { layout := state.layout.unwatch watch, held := state.held.filter (· ≠ watch) }
    else state

/-- What several visits lead to. -/
def visits (state : Visited) (list : List Visit) : Visited := list.foldl visit state

/-- The layout is taken down; observers from outside are not released by that. -/
def teardown (state : Visited) : Visited := { state with layout := state.layout.teardown }

end Visited

namespace Layout

variable {layout layout' world : Layout} {watches held : List Watch} {id : NodeId}
  {container : Container}

namespace Accounted

/-- **Whoever visits the layout**, every observer belongs to somebody. -/
theorem visit {state : Visited} (h : Accounted watches state.held state.layout) (visit : Visit) :
    Accounted watches (state.visit visit).held (state.visit visit).layout := by
  cases visit with
  | act intervention =>
    rw [Visited.visit]
    cases hresult : state.layout.intervene intervention with
    | error error => exact h
    | ok result => exact (isLasting_accounted _ _).intervene h hresult
  | watchForm id =>
    rw [Visited.visit]
    cases state.layout.formSpec id with
    | error error => exact h
    | ok spec =>
      refine h.modifyForm id (·.watch .guest) ?_ fun other hne => ?_
      · rw [Watch.numbers_concat_self _ (.form id)]
        exact (h.forms id).watch_guest
      · exact Watch.numbers_concat_of_ne hne _ _
  | watchPager id =>
    rw [Visited.visit]
    cases state.layout.pagerSpec id with
    | error error => exact h
    | ok spec =>
      refine h.modifyPager id (·.watch .guest) ?_ fun other hne => ?_
      · rw [Watch.numbers_concat_self _ (.pager id)]
        exact (h.pagers id).watch_guest
      · exact Watch.numbers_concat_of_ne hne _ _
  | release watch =>
    rw [Visited.visit]
    split
    · cases watch with
      | form id number =>
        refine h.modifyForm id (·.unwatch number) ?_ fun other hne => ?_
        · rw [Watch.numbers_filter_self _ (.form id)]
          exact (h.forms id).unwatch_guest number
        · exact Watch.numbers_filter_of_ne hne _ _
      | pager id number =>
        refine h.modifyPager id (·.unwatch number) ?_ fun other hne => ?_
        · rw [Watch.numbers_filter_self _ (.pager id)]
          exact (h.pagers id).unwatch_guest number
        · exact Watch.numbers_filter_of_ne hne _ _
    · exact h

theorem visits {state : Visited} (h : Accounted watches state.held state.layout)
    (list : List Visit) :
    Accounted watches (state.visits list).held (state.visits list).layout := by
  induction list generalizing state with
  | nil => exact h
  | cons visit list ih => exact ih (h.visit visit)

end Accounted

/-! ## Taking a layout down -/

end Layout

namespace Observable

variable {σ κ : Type} (numbers : List Nat) (state : Observable σ κ)

/-- Observers that are removed one after the other are gone, and no others. -/
theorem observers_foldl_unwatch : (numbers.foldl unwatch state).observers =
    state.observers.filter (·.id ∉ numbers) := by
  induction numbers generalizing state with
  | nil => simp
  | cons number rest ih =>
    rw [List.foldl_cons, ih]
    simp [unwatch, List.filter_filter, Bool.and_comm]

theorem nextObserver_foldl_unwatch :
    (numbers.foldl unwatch state).nextObserver = state.nextObserver := by
  induction numbers generalizing state with
  | nil => rfl
  | cons number rest ih => exact ih (state.unwatch number)

end Observable

namespace Layout

variable {layout layout' world : Layout} {watches held : List Watch} {id : NodeId}
  {container : Container}

/-- When watches are given up, a form loses the observers that they are about, and nothing else. -/
theorem form_foldl_unwatch (watches : List Watch) (layout : Layout) (id : NodeId) :
    (watches.foldl unwatch layout).form id =
      (Watch.numbers (.form id) watches).foldl Observable.unwatch (layout.form id) := by
  induction watches generalizing layout with
  | nil => rfl
  | cons watch watches ih =>
    rw [List.foldl_cons, ih]
    cases watch with
    | form node number =>
      rw [unwatch, form_modify]
      split
      · next heq =>
        subst heq
        simp [Watch.numbers, Watch.container, Watch.observer]
      · next hne => simp [Watch.numbers, Watch.container, hne]
    | pager node number => rfl

/-- When watches are given up, a pager loses the observers that they are about, and nothing
else. -/
theorem pager_foldl_unwatch (watches : List Watch) (layout : Layout) (id : NodeId) :
    (watches.foldl unwatch layout).pager id =
      (Watch.numbers (.pager id) watches).foldl Observable.unwatch (layout.pager id) := by
  induction watches generalizing layout with
  | nil => rfl
  | cons watch watches ih =>
    rw [List.foldl_cons, ih]
    cases watch with
    | pager node number =>
      rw [unwatch, pager_modify]
      split
      · next heq =>
        subst heq
        simp [Watch.numbers, Watch.container, Watch.observer]
      · next hne => simp [Watch.numbers, Watch.container, hne]
    | form node number => rfl

/-- **After teardown every observer is held from outside.** -/
theorem Accounted.teardown (h : Accounted watches held layout) :
    Accounted [] held layout.teardown where
  kept := rfl
  forms id := by
    have hform : layout.teardown.form id = (layout.watches.foldl unwatch layout).form id := rfl
    rw [hform, form_foldl_unwatch, h.kept]
    exact (h.forms id).detach (Observable.observers_foldl_unwatch _ _)
      (Observable.nextObserver_foldl_unwatch _ _)
  pagers id := by
    have hpager : layout.teardown.pager id = (layout.watches.foldl unwatch layout).pager id := rfl
    rw [hpager, pager_foldl_unwatch, h.kept]
    exact (h.pagers id).detach (Observable.observers_foldl_unwatch _ _)
      (Observable.nextObserver_foldl_unwatch _ _)

/-! ## Afterwards -/

/-- **Nothing changes but one container.** -/
structure Confined (container : Container) (layout layout' : Layout) : Prop where
  rest : { layout' with forms := layout.forms, pagers := layout.pagers } = layout
  forms : ∀ id, container ≠ .form id → layout'.form id = layout.form id
  pagers : ∀ id, container ≠ .pager id → layout'.pager id = layout.pager id

namespace Confined

theorem refl (container : Container) (layout : Layout) : Confined container layout layout :=
  ⟨rfl, fun _ _ => rfl, fun _ _ => rfl⟩

theorem modifyForm (h : Confined (.form id) layout world)
    (change : Observable FormState FormReaction → Observable FormState FormReaction) :
    Confined (.form id) layout ((formPlace id).modify world change) where
  rest := h.rest
  forms other hne := by
    rw [form_modify, if_neg fun heq => hne (congrArg Container.form heq)]
    exact h.forms other hne
  pagers := h.pagers

theorem modifyPager (h : Confined (.pager id) layout world)
    (change : Observable PagerState PagerReaction → Observable PagerState PagerReaction) :
    Confined (.pager id) layout ((pagerPlace id).modify world change) where
  rest := h.rest
  forms := h.forms
  pagers other hne := by
    rw [pager_modify, if_neg fun heq => hne (congrArg Container.pager heq)]
    exact h.pagers other hne

end Confined

/-- **A form that only guests observe changes alone**: none of them reacts. -/
theorem confined_reviseForm
    (h : ∀ observer ∈ (layout.form id).observers, observer.reaction = .guest)
    (change : FormState → FormState) :
    Confined (.form id) layout (layout.reviseForm id change) := by
  have hmark : ∀ (world : Layout)
      (mark : Observable FormState FormReaction → Observable FormState FormReaction),
      (∀ state, (mark state).observers = state.observers) →
      Confined (.form id) layout world ∧
        (world.form id).observers = (layout.form id).observers →
      Confined (.form id) layout ((formPlace id).modify world mark) ∧
        (((formPlace id).modify world mark).form id).observers = (layout.form id).observers := by
    intro world mark hmark hworld
    refine ⟨hworld.1.modifyForm mark, ?_⟩
    rw [form_modify, if_pos rfl, hmark, hworld.2]
  refine ((formPlace id).flush_of_stay (reactForm (updateForm layout.tree.size))
    (P := fun world => Confined (.form id) layout world ∧
      (world.form id).observers = (layout.form id).observers)
    (fun before hbefore observer hmem snapshot world => ?_) hmark
    (hmark layout _ (fun _ => Observable.observers_commit _ _) ⟨.refl _ _, rfl⟩)).1
  rw [reactForm, h observer (hbefore.2 ▸ hmem)]

/-- **A pager that only guests observe changes alone.** -/
theorem confined_updatePager
    (h : ∀ observer ∈ (layout.pager id).observers, observer.reaction = .guest)
    (change : PagerState → PagerState) :
    Confined (.pager id) layout (layout.updatePager id change) := by
  have hmark : ∀ (world : Layout)
      (mark : Observable PagerState PagerReaction → Observable PagerState PagerReaction),
      (∀ state, (mark state).observers = state.observers) →
      Confined (.pager id) layout world ∧
        (world.pager id).observers = (layout.pager id).observers →
      Confined (.pager id) layout ((pagerPlace id).modify world mark) ∧
        (((pagerPlace id).modify world mark).pager id).observers =
          (layout.pager id).observers := by
    intro world mark hmark hworld
    refine ⟨hworld.1.modifyPager mark, ?_⟩
    rw [pager_modify, if_pos rfl, hmark, hworld.2]
  refine ((pagerPlace id).flush_of_stay (reactPager (updateForm layout.depth))
    (P := fun world => Confined (.pager id) layout world ∧
      (world.pager id).observers = (layout.pager id).observers)
    (fun before hbefore observer hmem snapshot world => ?_) hmark
    (hmark layout _ (fun _ => Observable.observers_commit _ _) ⟨.refl _ _, rfl⟩)).1
  rw [reactPager, h observer (hbefore.2 ▸ hmem)]

/-- Observers that are held from outside are guests. -/
theorem Accounted.guest_form (h : Accounted [] held layout) (id : NodeId) :
    ∀ observer ∈ (layout.form id).observers, observer.reaction = .guest := by
  have hobservers := (h.forms id).observers_eq
  rw [hobservers]
  simp

theorem Accounted.guest_pager (h : Accounted [] held layout) (id : NodeId) :
    ∀ observer ∈ (layout.pager id).observers, observer.reaction = .guest := by
  have hobservers := (h.pagers id).observers_eq
  rw [hobservers]
  simp

/-- **Where all observers are held from outside, a visit changes one container only.** -/
theorem Accounted.confined_visit {state : Visited} (h : Accounted [] state.held state.layout)
    {visit : Visit} (hvisit : visit.container? = some container) :
    Confined container state.layout (state.visit visit).layout := by
  cases visit with
  | act intervention =>
    cases intervention with
    | call call => cases hvisit
    | push dispatch => cases hvisit
    | reviseForm id change =>
      cases hvisit
      rw [Visited.visit, Layout.intervene]
      cases state.layout.formSpec id with
      | error error => exact .refl _ _
      | ok spec => exact confined_reviseForm (h.guest_form id) change
    | updatePager id change =>
      cases hvisit
      rw [Visited.visit, Layout.intervene]
      cases state.layout.pagerSpec id with
      | error error => exact .refl _ _
      | ok spec => exact confined_updatePager (h.guest_pager id) change
  | watchForm id =>
    cases hvisit
    rw [Visited.visit]
    cases state.layout.formSpec id with
    | error error => exact .refl _ _
    | ok spec => exact (Confined.refl (.form id) state.layout).modifyForm (·.watch .guest)
  | watchPager id =>
    cases hvisit
    rw [Visited.visit]
    cases state.layout.pagerSpec id with
    | error error => exact .refl _ _
    | ok spec => exact (Confined.refl (.pager id) state.layout).modifyPager (·.watch .guest)
  | release watch =>
    cases hvisit
    rw [Visited.visit]
    split
    · cases watch with
      | form id number =>
        exact (Confined.refl (.form id) state.layout).modifyForm (·.unwatch number)
      | pager id number =>
        exact (Confined.refl (.pager id) state.layout).modifyPager (·.unwatch number)
    · exact .refl _ _

/-- Then several visits change nothing but containers. -/
theorem Accounted.rest_visits {state : Visited} (h : Accounted [] state.held state.layout)
    {list : List Visit} (hlist : ∀ visit ∈ list, visit.container?.isSome) :
    { (state.visits list).layout with
      forms := state.layout.forms, pagers := state.layout.pagers } = state.layout := by
  induction list generalizing state with
  | nil => rfl
  | cons visit list ih =>
    obtain ⟨container, hcontainer⟩ := Option.isSome_iff_exists.mp (hlist visit List.mem_cons_self)
    have hrest := ih (h.visit visit) fun other hother => hlist other (List.mem_cons_of_mem _ hother)
    have hfirst := (h.confined_visit hcontainer).rest
    rw [Visited.visits, List.foldl_cons]
    calc { ((state.visit visit).visits list).layout with
            forms := state.layout.forms, pagers := state.layout.pagers }
        = { (state.visit visit).layout with
            forms := state.layout.forms, pagers := state.layout.pagers } :=
          congrArg (fun world : Layout => { world with
            forms := state.layout.forms, pagers := state.layout.pagers }) hrest
      _ = state.layout := hfirst

/-- **Teardown detaches everything.** Let anything be done to an active layout: calls, events of any
kind raised at its nodes, changes of its forms and pagers through their handles, dispatches put into
the outbox, and observers registered and released from outside. When it is taken down after that,

* the observers of each form and of each pager are those that were registered from outside and are
  not yet released, in the order of their registration;
* nothing waits in the outbox.

Whatever is done afterwards through the handles of forms and pagers, be it changes, or observers
that come and go, nothing is put into the outbox, reported, announced or handed out; and each of it
changes no other container than the one that it is done to.

**Proof sketch.** Whenever the layout registers an observer it keeps a watch for it, and a number is
never given twice in a container. So each observer is known either to the layout or to somebody
outside, though the layout may also know numbers of observers that left by themselves. Teardown
removes what the layout knows. The observers that remain do not react. -/
theorem teardown_detaches {environment : Environment} {root : Spec}
    (h : activate environment root = .ok layout) (visits : List Visit) :
    let before := Visited.visits { layout } visits
    let torn := before.teardown
    (∀ id, (torn.layout.form id).observers =
      (Watch.numbers (.form id) before.held).map (⟨·, .guest⟩)) ∧
    (∀ id, (torn.layout.pager id).observers =
      (Watch.numbers (.pager id) before.held).map (⟨·, .guest⟩)) ∧
    torn.layout.outbox.queue = [] ∧
    ∀ later : List Visit, (∀ visit ∈ later, visit.container?.isSome) →
      let after := torn.visits later
      { after.layout with forms := torn.layout.forms, pagers := torn.layout.pagers } =
        torn.layout ∧
      ∀ visit container, visit.container? = some container →
        Confined container after.layout (after.visit visit).layout := by
  intro before torn
  have hbefore : Accounted layout.watches before.held before.layout :=
    Accounted.visits (accounted_of_activate h) visits
  have htorn : Accounted [] torn.held torn.layout := hbefore.teardown
  refine ⟨fun id => (htorn.forms id).observers_eq, fun id => (htorn.pagers id).observers_eq, rfl,
    fun later hlater => ⟨htorn.rest_visits hlater, fun visit container hvisit => ?_⟩⟩
  exact (htorn.visits later).confined_visit hvisit

/-- A pager with a form on its page, around a nested form that looks at the pager; an input is in
it. -/
def brochure : Spec :=
  ⟨.pager ⟨"brochure"⟩, [], [
    ⟨.form { id := "order", formEnabled := [.formSubmission] }, [], [
      ⟨.form { id := "address", submit := none, formEnabled := [.pagerNext] }, [], [
        ⟨.input { id := "city", kind := .textInput }, [], []⟩]⟩]⟩]⟩

/-- The forms and the pager are observed from outside, the first observer of a form is released, and
the input is shown and answered. -/
def brochureVisits : List Visit :=
  [.watchForm 1, .watchForm 1, .watchPager 0, .release (.form 1 5), .act (.call (.attach 3)),
    .act (.call (.setAnswer 3 (.textInput (some "Turin"))))]

/-- Before teardown the outer form has five observers, and afterwards the one from outside; a change
of that form reaches no other container. -/
theorem teardown_detaches_brochure :
    ∃ (layout : Layout) (before : Visited), activate {} brochure = .ok layout ∧
      before = Visited.visits { layout } brochureVisits ∧
      (before.layout.form 1).observers.length = 5 ∧
      (before.teardown.layout.form 1).observers = [⟨6, .guest⟩] ∧
      (before.teardown.layout.form 2).observers = [] ∧
      (before.teardown.layout.pager 0).observers = [⟨2, .guest⟩] ∧
      (before.teardown.visit (.act (.reviseForm 1 ({ · with isEnabled := false })))).layout.form 2 =
        before.teardown.layout.form 2 := by
  have hactive : activate {} brochure = .ok (build {} (Tree.ofSpec brochure)).settle :=
    activate_eq_ok.mpr ⟨by decide, rfl⟩
  have hall := teardown_detaches hactive brochureVisits
  have hheld : (Visited.visits { layout := (build {} (Tree.ofSpec brochure)).settle }
      brochureVisits).held = [.form 1 6, .pager 0 2] := by decide +kernel
  have hlength : ((Visited.visits { layout := (build {} (Tree.ofSpec brochure)).settle }
      brochureVisits).layout.form 1).observers.length = 5 := by decide +kernel
  refine ⟨_, _, hactive, rfl, hlength, ?_⟩
  generalize Visited.visits { layout := (build {} (Tree.ofSpec brochure)).settle }
    brochureVisits = before at hall hheld ⊢
  obtain ⟨hforms, hpagers, -, hlater⟩ := hall
  rw [hheld] at hforms hpagers
  have hconfined := (hlater [] (by simp)).2
    (.act (.reviseForm 1 ({ · with isEnabled := false }))) (.form 1) rfl
  exact ⟨hforms 1, hforms 2, hpagers 0, hconfined.forms 2 nofun⟩

end Layout

end FormTree

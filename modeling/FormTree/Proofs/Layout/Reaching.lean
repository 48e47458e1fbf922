import FormTree.Proofs.Layout.Run
import FormTree.Proofs.Layout.Sufficing
import FormTree.Proofs.Teardown

set_option autoImplicit false

/-!
# What visits come to

Where all forms and pagers rest, every change through a handle is one that comes to an end, and then
they rest again. So routing, calls of the renderer, and whatever else is done to a layout from
outside, are among what the layout may undergo: their bounds cut nothing off from a change.

## Main definitions

* `FormTree.Layout.Reached` — everything rests in a layout that another one may come to.

## Main results

* `FormTree.Layout.Sound.placid` — where nothing is under way, everything rests.
* `FormTree.Layout.Reached.settle` — routing what waits leads to such a layout.
* `FormTree.Layout.Reached.perform` — so do calls of the renderer.
* `FormTree.Layout.Reached.visits` — and so do visits.
-/

namespace FormTree.Layout

variable {start layout layout' : Layout} {id : NodeId} {watches : List Watch}

/-! ## Layouts at rest -/

/-- Everything rests in the layout, which `start` may come to. -/
structure Reached (start layout : Layout) : Prop where
  placid : layout.Placid
  undergoes : Undergoes start layout

namespace Placid

/-- Forms and pagers are all that matters. -/
lemma congr (h : layout.Placid) (htree : layout'.tree = layout.tree)
    (hforms : layout'.forms = layout.forms) (hpagers : layout'.pagers = layout.pagers) :
    layout'.Placid := by
  have hform : ∀ form, layout'.form form = layout.form form :=
    fun form => congrArg (·.get form) hforms
  have hpager : ∀ pager, layout'.pager pager = layout.pager pager :=
    fun pager => congrArg (·.get pager) hpagers
  refine ⟨h.poised.congr htree (fun form => ?_) (fun pager => ?_) fun form hsome hle => ?_,
    fun {pager} hlive => ?_⟩
  · rw [hform]
    exact List.Subset.refl _
  · rw [hpager]
    exact List.Subset.refl _
  · rw [hform]
    exact h.poised.idle hsome hle
  · rw [hpager]
    exact h.pagers (htree ▸ hlive)

/-- A guest observes a form. -/
lemma watchForm (h : layout.Placid) (id : NodeId) :
    ((formPlace id).modify layout (·.watch .guest)).Placid where
  poised := by
    refine ⟨h.poised.wf, fun hsome observer hobserver => ?_, h.poised.pagers,
      fun hsome hle => ?_⟩
    · rcases observers_watchForm hobserver with hobserver | hguest
      · exact h.poised.forms hsome observer hobserver
      · rw [hguest]
        trivial
    · rw [form_modify]
      split
      · next heq =>
        subst heq
        exact h.poised.idle hsome hle
      · exact h.poised.idle hsome hle
  pagers := h.pagers

/-- A guest observes a pager. -/
lemma watchPager (h : layout.Placid) (id : NodeId) :
    ((pagerPlace id).modify layout (·.watch .guest)).Placid where
  poised := by
    refine ⟨h.poised.wf, h.poised.forms, fun hpager observer hobserver => ?_, h.poised.idle⟩
    rcases observers_watchPager hobserver with hobserver | hguest
    · exact h.poised.pagers hpager observer hobserver
    · rw [hguest]
      trivial
  pagers hpager := by
    rw [pager_modify]
    split
    · next heq =>
      subst heq
      exact h.pagers hpager
    · exact h.pagers hpager

/-- An observer of a form leaves. -/
lemma unwatchForm (h : layout.Placid) (id : NodeId) (number : Nat) :
    ((formPlace id).modify layout (·.unwatch number)).Placid where
  poised := h.poised.modify id (·.unwatch number) (fun _ hmem => (List.mem_filter.mp hmem).1)
    (fun hsome hle => h.poised.idle hsome hle) fun _ _ hle => hle
  pagers := h.pagers

/-- An observer of a pager leaves. -/
lemma unwatchPager (h : layout.Placid) (id : NodeId) (number : Nat) :
    ((pagerPlace id).modify layout (·.unwatch number)).Placid where
  poised := h.poised.modifyPager id _ fun _ _ hmem => (List.mem_filter.mp hmem).1
  pagers {pager} hpager := by
    rw [pager_modify]
    split
    · next heq =>
      subst heq
      exact h.pagers hpager
    · exact h.pagers hpager

end Placid

/-- **In a sound layout everything rests.** -/
theorem Sound.placid (h : layout.Sound) : layout.Placid where
  poised := by
    refine ⟨h.wf, fun {id} hsome observer hobserver => ?_, h.downward.pagers, fun hsome _ =>
      ⟨(h.rests _ hsome).isDelivering, (h.rests _ hsome).pending⟩⟩
    have hreaction := List.mem_map_of_mem (f := (·.reaction)) hobserver
    rw [(h.rests id hsome).wired.reactions, List.mem_append, List.mem_flatMap] at hreaction
    generalize observer.reaction = reaction at hreaction ⊢
    rcases hreaction with hown | ⟨inner, hinner, hties⟩
    · -- an observer of the form's own
      simp only [Wiring.own, List.mem_append, List.mem_ite_nil_right, List.mem_singleton] at hown
      rcases hown with ⟨-, rfl⟩ | ⟨hrefreshes, rfl⟩ | ⟨-, rfl⟩
      · exact ⟨hsome, Nat.le_refl id⟩
      · refine ⟨fun hnil => ?_, Nat.le_refl id⟩
        replace hrefreshes : (layout.tree.rules id).hasForm = true := hrefreshes
        rw [hnil] at hrefreshes
        cases hrefreshes
      · trivial
    · -- a tie of a form right inside
      obtain ⟨hform, haround⟩ := Tree.mem_inside.mp hinner
      have hlt := h.wf.linked.formAround_lt haround
      simp only [Tree.ties, List.mem_append, List.mem_ite_nil_left, List.mem_ite_nil_right,
        List.mem_singleton] at hties
      rcases hties with ⟨-, rfl⟩ | ⟨hrules, rfl⟩
      · exact ⟨hform, hlt⟩
      · exact ⟨hrules, Nat.le_of_lt hlt⟩
  pagers hpager := ⟨(h.pagers _ hpager).isDelivering, (h.pagers _ hpager).pending⟩

namespace Reached

lemma refl (h : layout.Placid) : Reached layout layout := ⟨h, .refl⟩

/-! ## Changes -/

/-- What concerns neither forms nor pagers. -/
lemma aside (h : Reached start layout) (htree : layout'.tree = layout.tree)
    (hforms : layout'.forms = layout.forms) (hannounced : layout'.announced = layout.announced)
    (hpagers : layout'.pagers = layout.pagers) : Reached start layout' where
  placid := h.placid.congr htree hforms hpagers
  undergoes := h.undergoes.tail ⟨0, .aside htree hforms hannounced hpagers⟩

/-- **A form is changed through its handle.** -/
theorem reviseForm (h : Reached start layout) (hsome : (layout.tree.form? id).isSome)
    (change : FormState → FormState) : Reached start (layout.reviseForm id change) := by
  have hchange := (h.placid.poised.mono (Nat.zero_le id)).concluded_reviseForm hsome change
  refine ⟨⟨hchange.poised_again h.placid.poised, fun hpager => ?_⟩,
    h.undergoes.tail ⟨_, .run (.form hsome) hchange.ends⟩⟩
  rw [Layout.pager, hchange.pagers]
  exact h.placid.pagers (hchange.tree ▸ hpager)

/-- **A pager is changed through its handle.** -/
theorem updatePager (h : Reached start layout) (hpager : layout.tree.isPager id = true)
    (change : PagerState → PagerState) : Reached start (layout.updatePager id change) := by
  obtain ⟨hplacid, hends⟩ := h.placid.updatePager hpager change
  exact ⟨hplacid, h.undergoes.tail ⟨_, .run (.pager hpager) hends⟩⟩

lemma changeForm (h : Reached start layout) (hsome : (layout.tree.form? id).isSome)
    (intent : FormIntent) : Reached start (layout.changeForm id intent) :=
  h.reviseForm hsome (·.reduce intent)

lemma changePager (h : Reached start layout) (hpager : layout.tree.isPager id = true)
    (intent : PagerIntent) : Reached start (layout.changePager id intent) :=
  h.updatePager hpager (·.reduce intent)

/-! ## Routing -/

lemma push (h : Reached start layout) (dispatch : Dispatch) :
    Reached start (layout.push dispatch) := h.aside rfl rfl rfl rfl

lemma pushAll (h : Reached start layout) (dispatches : List Dispatch) :
    Reached start (layout.pushAll dispatches) := by
  unfold Layout.pushAll
  induction dispatches generalizing layout with
  | nil => exact h
  | cons dispatch dispatches ih => exact ih (h.push dispatch)

lemma report (h : Reached start layout) (report : Report) :
    Reached start (layout.report report) := by
  unfold Layout.report
  split
  · exact h.aside rfl rfl rfl rfl
  · exact h

lemma applyUpdate (h : Reached start layout) (update : AttributeUpdate) :
    Reached start (layout.applyUpdate update) := by
  unfold Layout.applyUpdate
  split
  · exact h.aside rfl rfl rfl rfl
  · exact h

lemma submitForm (h : Reached start layout) (hsome : (layout.tree.form? id).isSome)
    (spec : FormSpec) (button : Option String) :
    Reached start (layout.submitForm id spec button) := by
  have hchange : Reached start (layout.changeForm id .submit) := h.changeForm hsome .submit
  unfold Layout.submitForm
  dsimp only
  split
  · exact h
  · split
    · exact hchange.push _
    · exact (hchange.push _).applyUpdate _

/-- **Whatever a node does.** -/
theorem step {allow : Allowance} (h : Reached start layout) (step : Step allow layout layout') :
    Reached start layout' := by
  cases step with
  | change _ hsome => exact h.changeForm hsome _
  | page hpager => exact h.changePager hpager _
  | note _ _ => exact h.aside rfl rfl rfl rfl
  | submit button _ hform => exact h.submitForm (by rw [hform]; rfl) _ button
  | follow _ _ => exact h.push _
  | dismiss _ => exact h.aside rfl rfl rfl rfl
  | reportDismissal _ _ _ _ => exact h.report _

theorem steps {allow : Allowance} (h : Reached start layout)
    (steps : Steps allow layout layout') : Reached start layout' := by
  induction steps with
  | refl => exact h
  | tail _ step ih => exact ih.step step

theorem route (h : Reached start layout) (dispatch : Dispatch) :
    Reached start (layout.route dispatch) := by
  cases hreport : dispatch.isReport with
  | true =>
    obtain ⟨reports, hroute⟩ := route_report layout hreport
    rw [hroute]
    exact h.aside rfl rfl rfl rfl
  | false => exact h.steps (steps_route layout hreport dispatch.event.isWithin_all)

/-- **Whatever waits is routed**, whether or not the limit is reached. -/
theorem settle (h : Reached start layout) : Reached start layout.settle := by
  refine drain_induction (P := Reached start) (Q := Reached start)
    (fun world dispatch rest hworld _ _ => ?_) (fun _ hworld _ => hworld)
    (fun _ hworld => hworld.aside rfl rfl rfl rfl)
    (fun _ _ _ hworld _ _ => hworld.aside rfl rfl rfl rfl) _ layout h
  have hpopped : Reached start { world with outbox := ⟨rest⟩ } := hworld.aside rfl rfl rfl rfl
  exact hpopped.route dispatch

/-- A dispatch is routed, and then whatever waits. -/
lemma settle_route (h : Reached start layout) (dispatch : Dispatch) :
    Reached start (layout.route dispatch).settle := (h.route dispatch).settle

/-! ## Calls -/

lemma setDisplayed {isDisplayed : Bool} (h : Reached start layout)
    (hcall : layout.setDisplayed id isDisplayed = .ok layout') : Reached start layout' := by
  obtain ⟨view, -, rfl⟩ := setDisplayed_eq_ok.mp hcall
  split
  · exact h.settle_route (.bubble id _)
  · exact h

lemma setAttached {isAttached : Bool} (h : Reached start layout)
    (hcall : layout.setAttached id isAttached = .ok layout') : Reached start layout' := by
  have hattached : Reached start (layout.modifyState id ({ · with isAttached })) :=
    h.aside rfl rfl rfl rfl
  exact hattached.setDisplayed (setAttached_eq_ok.mp hcall)

lemma click (h : Reached start layout) (hcall : layout.click id = .ok layout') :
    Reached start layout' := by
  obtain ⟨spec, -, rfl⟩ := click_eq_ok.mp hcall
  split
  · exact h
  · split
    · exact h.settle_route (.bubble id _)
    · exact (h.pushAll _).settle

/-- **Whatever the renderer asks for.** -/
theorem perform {call : Call} (h : Reached start layout)
    (hcall : layout.perform call = .ok layout') : Reached start layout' := by
  cases call with
  | attach id => exact h.setAttached hcall
  | detach id => exact h.setAttached hcall
  | setDisplayed id isDisplayed => exact h.setDisplayed hcall
  | setAnswer id answer =>
    obtain ⟨spec, -, -, rfl⟩ := setAnswer_eq_ok.mp hcall
    have hanswered : Reached start { layout with answers := layout.answers.set id answer } :=
      h.aside rfl rfl rfl rfl
    exact hanswered.settle_route (.bubble id _)
  | withdraw id =>
    obtain ⟨spec, -, rfl⟩ := withdraw_eq_ok.mp hcall
    have hdetached : Reached start (layout.modifyState id ({ · with isAttached := false })) :=
      h.aside rfl rfl rfl rfl
    exact hdetached.settle_route (.bubble id _)
  | click id => exact h.click hcall
  | scrollTo id position =>
    obtain ⟨spec, hview, rfl⟩ := scrollTo_eq_ok.mp hcall
    have hpager : layout.tree.isPager id = true := by simp [Tree.isPager, hview, View.kind]
    exact (h.changePager hpager _).settle
  | dispatch origin event direction =>
    obtain ⟨node, -, rfl⟩ := dispatch_eq_ok.mp hcall
    cases direction with
    | bubble => exact h.settle_route (.bubble origin event)
    | trickle => exact h.settle_route (.trickle origin event)

/-! ## Visits -/

lemma intervene {intervention : Intervention} {reply : Reply} (h : Reached start layout)
    (hresult : layout.intervene intervention = .ok (reply, layout')) : Reached start layout' := by
  cases intervention with
  | call call =>
    rw [Layout.intervene] at hresult
    cases hcall : layout.perform call <;> rw [hcall] at hresult <;> cases hresult
    exact h.perform hcall
  | reviseForm id change =>
    rw [Layout.intervene] at hresult
    cases hspec : layout.formSpec id <;> rw [hspec] at hresult <;> cases hresult
    exact h.reviseForm (isSome_form?_of_formSpec hspec) change
  | updatePager id change =>
    rw [Layout.intervene] at hresult
    cases hspec : layout.pagerSpec id <;> rw [hspec] at hresult <;> cases hresult
    exact h.updatePager (isPager_of_pagerSpec hspec) change
  | push dispatch =>
    cases hresult
    exact h.push dispatch

/-- **Whoever visits the layout**, where every observer belongs to somebody. -/
theorem visit {state : Visited} (h : Reached start state.layout)
    (hheld : Accounted watches state.held state.layout) (visit : Visit) :
    Reached start (state.visit visit).layout := by
  cases visit with
  | act intervention =>
    rw [Visited.visit]
    cases hresult : state.layout.intervene intervention with
    | error error => exact h
    | ok result => exact h.intervene hresult
  | watchForm id =>
    rw [Visited.visit]
    cases state.layout.formSpec id with
    | error error => exact h
    | ok spec => exact ⟨h.placid.watchForm id, h.undergoes.tail ⟨0, .watchForm id⟩⟩
  | watchPager id =>
    rw [Visited.visit]
    cases state.layout.pagerSpec id with
    | error error => exact h
    | ok spec => exact ⟨h.placid.watchPager id, h.undergoes.tail ⟨0, .watchPager id⟩⟩
  | release watch =>
    rw [Visited.visit]
    split
    · next hmem =>
      cases watch with
      | form id number =>
        have hnumber : number ∈ Watch.numbers (.form id) state.held := Watch.mem_numbers.mpr hmem
        exact ⟨h.placid.unwatchForm id number, h.undergoes.tail
          ⟨0, .releaseForm ((hheld.forms id).guest_of_mem hnumber)⟩⟩
      | pager id number =>
        have hnumber : number ∈ Watch.numbers (.pager id) state.held := Watch.mem_numbers.mpr hmem
        exact ⟨h.placid.unwatchPager id number, h.undergoes.tail
          ⟨0, .releasePager ((hheld.pagers id).guest_of_mem hnumber)⟩⟩
    · exact h

/-- **Whatever visits are paid to the layout.** -/
theorem visits {state : Visited} (h : Reached start state.layout)
    (hheld : Accounted watches state.held state.layout) (list : List Visit) :
    Reached start (state.visits list).layout := by
  induction list generalizing state with
  | nil => exact h
  | cons visit list ih => exact ih (h.visit hheld visit) (hheld.visit visit)

end Reached

end FormTree.Layout

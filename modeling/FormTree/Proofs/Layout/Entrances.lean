import FormTree.Proofs.Layout.Climb

set_option autoImplicit false

/-!
# What forms are told

All that forms learn of their inputs climbs up to them. Once the nodes of a layout are set up, what
inputs and nested forms announce of themselves climbs, one after the other in tree order; the rest
of what is routed is calm. A call lets one event climb if it concerns an input, and is calm
otherwise.

## Main definitions

* `FormTree.Layout.Calm` — forms learn nothing of their inputs.
* `FormTree.Layout.Climbs` — several events about data climb, one after the other.

## Main results

* `FormTree.Layout.Tidy.climbs_settle` — what waits climbs, in the order in which it waits.
* `FormTree.Layout.Tidy.calm_settle` — where nothing is asked of forms, routing is calm.
-/

namespace FormTree

/-- The node at which a dispatch is raised, and what it asks of the form around it. -/
def Dispatch.asks? : Dispatch → Option (NodeId × FormIntent)
  | .bubble origin event => event.formIntent?.map (origin, ·)
  | _ => none

theorem Dispatch.IsTidy.asks? {tree : Tree} {dispatch : Dispatch} (h : dispatch.IsTidy tree .none) :
    dispatch.asks? = none := by
  cases dispatch with
  | bubble origin event =>
    cases hintent : event.formIntent? with
    | none => simp [Dispatch.asks?, hintent]
    | some intent => exact (Allowance.not_takes id id _ (h.within.takes intent hintent)).elim
  | _ => rfl

theorem Event.IsWithin.withoutData {event : Event} {allow : Allowance} (h : event.IsWithin allow)
    (hnone : event.formIntent? = none) : event.IsWithin allow.withoutData :=
  ⟨fun intent hintent => (Option.some_ne_none intent (hintent.symm.trans hnone)).elim, h.submits,
    h.buttons⟩

namespace Layout

variable {layout layout' layout'' : Layout} {allow : Allowance}

/-! ## Calm -/

/-- Nothing of what forms know of their inputs changes from one layout to the next. -/
structure Calm (layout layout' : Layout) : Prop where
  tree : layout'.tree = layout.tree
  answers : layout'.answers = layout.answers
  gist : ∀ id, (layout'.form id).value.gist = (layout.form id).value.gist

theorem Calm.of_forms (htree : layout'.tree = layout.tree)
    (hanswers : layout'.answers = layout.answers)
    (hforms : ∀ id, layout'.form id = layout.form id) : Calm layout layout' :=
  ⟨htree, hanswers, fun id => by rw [hforms]⟩

theorem Calm.refl (layout : Layout) : Calm layout layout := .of_forms rfl rfl fun _ => rfl

theorem Calm.trans (h : Calm layout layout') (h' : Calm layout' layout'') :
    Calm layout layout'' :=
  ⟨h'.tree.trans h.tree, h'.answers.trans h.answers, fun id => (h'.gist id).trans (h.gist id)⟩

/-- **Steps that ask nothing of forms are calm.** -/
theorem Sound.calm_steps (h : layout.Sound) (htakes : ∀ intent, ¬ allow.takes intent)
    (hbuttons : ∀ button, allow.buttons button → (layout.tree.node? button).isSome)
    (steps : Steps allow layout layout') : Calm layout layout' := by
  refine steps_induction (P := Calm layout) (fun world world' hworld hp step => ?_) h (.refl layout)
    steps
  have hadvance := advance_step hworld (fun button hb => hp.tree ▸ hbuttons button hb) step
  exact hp.trans ⟨hadvance.tree, hadvance.answers, hworld.gist_step htakes step⟩

/-- **Where nothing is asked of forms, routing is calm**, whether or not the limit is reached. -/
theorem Tidy.calm_settle (h : Tidy .none layout) : Calm layout layout.settle := by
  refine (h.settle_induction (P := Calm layout) (fun _ hb => hb)
    (fun world world' hworld hp step => ?_) (fun world dispatch rest hp _ _ => ?_)
    (fun world dispatch rest hp _ hreport => ?_) (fun world hp => ?_) (.refl layout)).2.1
  · have hsteps : Steps .none world world' := .single step
    exact hp.trans (hworld.sound.calm_steps (Allowance.not_takes id id)
      (fun _ (hb : False) => hb.elim) hsteps)
  · exact hp.trans (.of_forms rfl rfl fun _ => rfl)
  · obtain ⟨reports, hroute⟩ := route_report { world with outbox := ⟨rest⟩ } hreport
    rw [hroute]
    exact hp.trans (.of_forms rfl rfl fun _ => rfl)
  · exact hp.trans (.of_forms rfl rfl fun _ => rfl)

/-! ## Several climbs -/

/-- What is asked of forms climbs, one after the other; all else is calm. -/
def Climbs : List (NodeId × FormIntent) → Layout → Layout → Prop
  | [], layout, layout' => Calm layout layout'
  | (origin, intent) :: list, layout, layout' => ∃ before after : Layout, Calm layout before ∧
    before.Sound ∧ Climb origin intent before after ∧ Climbs list after layout'

theorem Climbs.of_calm (h : Calm layout layout') : ∀ {list : List (NodeId × FormIntent)},
    Climbs list layout' layout'' → Climbs list layout layout''
  | [], hclimbs => h.trans hclimbs
  | _ :: _, ⟨before, after, hcalm, hrest⟩ => ⟨before, after, h.trans hcalm, hrest⟩

theorem Climbs.append : ∀ {list list' : List (NodeId × FormIntent)} {layout : Layout},
    Climbs list layout layout' → Climbs list' layout' layout'' →
    Climbs (list ++ list') layout layout''
  | [], _, _, h, h' => h'.of_calm h
  | _ :: _, _, _, ⟨before, after, hcalm, hsound, hclimb, hrest⟩, h' =>
    ⟨before, after, hcalm, hsound, hclimb, hrest.append h'⟩

theorem Climbs.of_append : ∀ {list list' : List (NodeId × FormIntent)} {layout : Layout},
    Climbs (list ++ list') layout layout'' →
    ∃ between, Climbs list layout between ∧ Climbs list' between layout''
  | [], _, layout, h => ⟨layout, Calm.refl layout, h⟩
  | _ :: _, _, _, ⟨before, after, hcalm, hsound, hclimb, hrest⟩ => by
    obtain ⟨between, hfirst, hsecond⟩ := hrest.of_append
    exact ⟨between, ⟨before, after, hcalm, hsound, hclimb, hfirst⟩, hsecond⟩

theorem Climbs.tree_eq : ∀ {list : List (NodeId × FormIntent)} {layout : Layout},
    Climbs list layout layout' → layout'.tree = layout.tree
  | [], _, h => h.tree
  | _ :: _, _, ⟨_, _, hcalm, hsound, hclimb, hrest⟩ =>
    (hrest.tree_eq.trans (hclimb.sound hsound).2).trans hcalm.tree

/-- A dispatch that asks nothing of forms is routed calmly. -/
theorem Tidy.calm_route (h : Tidy allow layout) (hbuttons : ∀ button, ¬ allow.buttons button)
    {dispatch : Dispatch} (hwithin : dispatch.event.IsWithin allow)
    (hasks : dispatch.asks? = none) : Calm layout (layout.route dispatch) := by
  cases hreport : dispatch.isReport with
  | true =>
    obtain ⟨reports, hroute⟩ := route_report layout hreport
    rw [hroute]
    exact .of_forms rfl rfl fun _ => rfl
  | false =>
    have hsteps : Steps allow.withoutData layout (layout.route dispatch) := by
      cases dispatch with
      | bubble origin event =>
        have hnone : event.formIntent? = none := by simpa [Dispatch.asks?] using hasks
        exact steps_bubble layout origin hreport (Event.IsWithin.withoutData hwithin hnone)
      | trickle origin event => exact steps_trickle layout origin hwithin.submits
      | broadcast event => exact steps_broadcast layout hwithin.submits
    have htakes : ∀ intent, ¬ allow.withoutData.takes intent := Allowance.not_takes id id
    exact h.sound.calm_steps htakes
      (fun button hb => (hbuttons button hb).elim) hsteps

/-- What is put into the outbox while a dispatch is routed, asks nothing of forms. -/
theorem Tidy.route (h : Tidy allow layout) (hbuttons : ∀ button, ¬ allow.buttons button)
    {dispatch : Dispatch} (hwithin : dispatch.event.IsWithin allow) :
    Tidy allow (layout.route dispatch) ∧ ∃ more,
      (layout.route dispatch).outbox.queue = layout.outbox.queue ++ more ∧
      ∀ other ∈ more, other.asks? = none := by
  cases hreport : dispatch.isReport with
  | true =>
    obtain ⟨reports, hroute⟩ := route_report layout hreport
    rw [hroute]
    exact ⟨⟨h.sound.congr rfl (fun _ => rfl) fun _ => rfl, h.queue⟩, [], by simp⟩
  | false =>
    have hsteps := steps_route layout hreport hwithin
    have hadvance := advance_steps h.sound (fun button hb => (hbuttons button hb).elim) hsteps
    obtain ⟨more, hmore, htidy⟩ := hadvance.queue
    exact ⟨h.advance (keeps_steps hsteps h.sound).1 hadvance, more, hmore,
      fun other hother => (htidy other hother).asks?⟩

/-- **What waits climbs**, in the order in which it waits, if nothing is dropped.

**Proof sketch.** A dispatch that is routed either climbs or is calm, and what it puts into the
outbox asks nothing of forms. -/
theorem Tidy.climbs_settle (h : Tidy allow layout) (hbuttons : ∀ button, ¬ allow.buttons button)
    (hdropped : layout.settle.dropped = []) :
    Climbs (layout.outbox.queue.filterMap (·.asks?)) layout layout.settle := by
  refine drain_induction (P := fun world => Tidy allow world ∧ ∃ done,
      layout.outbox.queue.filterMap (·.asks?) = done ++ world.outbox.queue.filterMap (·.asks?) ∧
      Climbs done layout world)
    (Q := fun world => world.dropped = [] →
      Climbs (layout.outbox.queue.filterMap (·.asks?)) layout world)
    (fun world dispatch rest hworld hqueue _ => ?_) (fun world hworld hqueue _ => ?_)
    (fun world hworld hnone => ?_) (fun world dispatch rest hworld hqueue hstray => ?_) _ layout
    ⟨h, [], rfl, Calm.refl layout⟩ hdropped
  · obtain ⟨htidy, done, hdone, hclimbs⟩ := hworld
    have hpopped := htidy.pop hqueue
    have hpop : Calm world { world with outbox := ⟨rest⟩ } := .of_forms rfl rfl fun _ => rfl
    have hwithin := (htidy.queue dispatch (by simp [hqueue])).within
    obtain ⟨hrouted, more, hmore, hnone⟩ := hpopped.route hbuttons hwithin
    have hrest : ({ world with outbox := ⟨rest⟩ }.route dispatch).outbox.queue.filterMap
        (fun other : Dispatch => other.asks?) = rest.filterMap (·.asks?) := by
      rw [hmore, List.filterMap_append, List.filterMap_eq_nil_iff.mpr hnone, List.append_nil]
    refine ⟨hrouted, done ++ dispatch.asks?.toList, ?_, ?_⟩
    · rw [hdone, hqueue, hrest]
      cases hasks : dispatch.asks? <;> simp [hasks]
    · refine hclimbs.append ?_
      cases hasks : dispatch.asks? with
      | none => exact hpop.trans (hpopped.calm_route hbuttons hwithin hasks)
      | some asked =>
        obtain ⟨origin, intent⟩ := asked
        cases dispatch with
        | bubble node event =>
          obtain ⟨intent', hintent, heq⟩ := Option.map_eq_some_iff.mp hasks
          cases heq
          exact ⟨_, _, hpop, hpopped.sound, hpopped.sound.climb _ hintent, Calm.refl _⟩
        | _ => cases hasks
  · obtain ⟨-, done, hdone, hclimbs⟩ := hworld
    rw [hdone, hqueue]
    simpa using hclimbs
  · obtain ⟨-, done, hdone, hclimbs⟩ := hworld
    have hqueue : world.outbox.queue = [] := (List.append_eq_nil_iff.mp hnone).2
    rw [hdone, hqueue]
    exact hclimbs.append (Calm.of_forms rfl rfl fun _ => rfl)
  · rw [hworld.1.isStray hqueue] at hstray
    cases hstray

end Layout

end FormTree

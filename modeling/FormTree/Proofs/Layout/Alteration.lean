import FormTree.Layout.Call
import FormTree.Proofs.Observable.Rounds
import FormTree.Proofs.Tree.Alike

set_option autoImplicit false

/-!
# Alterations that go unnoticed

Nothing that a layout does depends on how behaviors are listed in the declarations, on whether
reports are kept, or on the reports that there are already. This module says what it takes to alter
a layout without this being noticed, and shows once and for all that everything that can happen to
the altered layout happens as it would have, and leads to the altered layout.

## Main definitions

* `FormTree.Place.Ignores` — reactions that do not notice when the world is altered.
* `FormTree.Alteration`, `FormTree.Layout.alter` — other nodes, other settings and other reports.
* `FormTree.Alteration.IsUnnoticed` — the nodes are declared alike, and reporting is not disturbed.

## Main results

* `FormTree.Place.flush_map` — what reactions do not notice is not noticed by a delivery.
* `FormTree.Layout.route_alter`, `FormTree.Layout.settle_alter` — routing, with the limit of the
  other settings.
* `FormTree.Layout.perform_alter`, `FormTree.Layout.activate_alter` — calls and activation.
-/

namespace FormTree

/-! ## Deliveries -/

namespace Place

variable {ω σ κ : Type} {place : Place ω σ κ} {react : Observer κ → σ → ω → ω × Flow}
  {alter : ω → ω}

/-- Reactions do not notice when the world is altered. -/
structure Ignores (place : Place ω σ κ) (react : Observer κ → σ → ω → ω × Flow) (alter : ω → ω) :
    Prop where
  get : ∀ world, place.get (alter world) = place.get world
  set : ∀ world state, place.set (alter world) state = alter (place.set world state)
  react : ∀ observer snapshot world,
    react observer snapshot (alter world) = (react observer snapshot world).map alter id

theorem Ignores.modify (h : place.Ignores react alter) (world : ω)
    (change : Observable σ κ → Observable σ κ) :
    place.modify (alter world) change = alter (place.modify world change) := by
  rw [Place.modify, h.get, h.set, Place.modify]

variable [place.IsPlain]

theorem deliver_map (h : place.Ignores react alter) (snapshot : σ)
    (observers : List (Observer κ)) (world : ω) :
    place.deliver react snapshot observers (alter world) =
      (place.deliver react snapshot observers world).map alter id := by
  induction observers generalizing world with
  | nil => rfl
  | cons observer rest ih =>
    rw [deliver_cons, deliver_cons, h.get, h.react]
    split
    · generalize react observer snapshot world = result
      obtain ⟨next, flow⟩ := result
      cases flow with
      | stay => exact ih next
      | leave =>
        dsimp only [Prod.map, id]
        rw [h.modify]
        exact ih _
      | fail => rfl
    · exact ih world

theorem drain_map (h : place.Ignores react alter) (rounds : Nat) (world : ω) :
    place.drain react rounds (alter world) = (place.drain react rounds world).map alter id := by
  induction rounds generalizing world with
  | zero => rfl
  | succ rounds ih =>
    rw [drain_succ, drain_succ, h.get]
    split
    · rw [rest, h.modify]
      rfl
    · rw [pop, h.modify, h.get, deliver_map h, ← pop]
      generalize place.deliver react _ _ _ = result
      obtain ⟨next, served⟩ := result
      cases served with
      | true => exact ih next
      | false => rfl

/-- **What reactions do not notice is not noticed by a delivery.** -/
theorem flush_map (h : place.Ignores react alter) (rounds : Nat) (world : ω) :
    place.flush react rounds (alter world) = (place.flush react rounds world).map alter id := by
  unfold flush
  rw [h.get, h.modify]
  split
  · rfl
  · exact drain_map h rounds _

end Place

/-! ## Alterations -/

/-- What is altered about a layout. -/
structure Alteration where
  /-- Its nodes. -/
  tree : Tree → Tree := id
  /-- The settings. -/
  environment : Environment → Environment := id
  /-- The reports that there are. -/
  reports : List Report → List Report := id

/-- The layout with other nodes, other settings and other reports. -/
def Layout.alter (layout : Layout) (alteration : Alteration) : Layout :=
  { layout with
    tree := alteration.tree layout.tree
    environment := alteration.environment layout.environment
    reports := alteration.reports layout.reports }

/-- Nothing that happens depends on what is altered: the nodes are declared alike, the settings keep
attribute updates if they did, and what is reported is altered as what has been reported. -/
structure Alteration.IsUnnoticed (alteration : Alteration) : Prop where
  alike : ∀ tree : Tree, tree.Alike (alteration.tree tree)
  isRecording : ∀ environment : Environment,
    (alteration.environment environment).isRecording = environment.isRecording
  report : ∀ (layout : Layout) (report : Report),
    (layout.alter alteration).report report = (layout.report report).alter alteration

namespace Layout

variable {alteration : Alteration} (layout : Layout)

@[simp] lemma tree_alter : (layout.alter alteration).tree = alteration.tree layout.tree := rfl

@[simp] lemma form_alter (id : NodeId) : (layout.alter alteration).form id = layout.form id := rfl

@[simp] lemma pager_alter (id : NodeId) : (layout.alter alteration).pager id = layout.pager id :=
  rfl

lemma push_alter (dispatch : Dispatch) :
    (layout.alter alteration).push dispatch = (layout.push dispatch).alter alteration := rfl

lemma modifyState_alter (id : NodeId) (change : NodeState → NodeState) :
    (layout.alter alteration).modifyState id change =
      (layout.modifyState id change).alter alteration := rfl

lemma pushAll_alter (dispatches : List Dispatch) :
    (layout.alter alteration).pushAll dispatches =
      (layout.pushAll dispatches).alter alteration :=
  List.foldl_hom (fun world => alter world alteration) push_alter

/-- A node that is declared alike works out the same flag. -/
lemma refreshNode_alter {node node' : Node} (hnodes : node.Alike node') (id : NodeId) :
    (layout.alter alteration).refreshNode id node' =
      (layout.refreshNode id node).alter alteration := by
  have hother : node.view.kind ≠ .form → (layout.alter alteration).refreshNode id node' =
      (layout.refreshNode id node).alter alteration := by
    intro hkind
    have hkind' : node'.view.kind ≠ .form := by rwa [hnodes.declared.kind_eq]
    have hmembers := hnodes.declared.sameMembers_enable hkind
    unfold refreshNode
    split
    · next hview => rw [hview] at hkind'; exact absurd rfl hkind'
    · split
      · next hview => rw [hview] at hkind; exact absurd rfl hkind
      · simp only [EnableRules.evaluate_congr hmembers]
        rfl
  rcases hnodes.view_cases with
    ⟨spec, formEnabled, hview, hview'⟩ | ⟨button, _, _, -, hview, -⟩ | ⟨-, hkind, -⟩
  · rw [refreshNode, hview', refreshNode, hview]
  · exact hother (by rw [hview]; nofun)
  · exact hother hkind

/-- Rules are wired up as a set. -/
lemma setUpRules_congr {rules rules' : EnableRules} (hrules : SameMembers rules rules')
    (id : NodeId) (scope : Scope) :
    layout.setUpRules id rules scope = layout.setUpRules id rules' scope := by
  unfold setUpRules
  rw [EnableRules.hasForm_congr hrules, EnableRules.hasPager_congr hrules]
  exact if_congr hrules.eq_nil_iff rfl rfl

section Unnoticed

variable (h : alteration.IsUnnoticed)
include h

lemma applyUpdate_alter (update : AttributeUpdate) :
    (layout.alter alteration).applyUpdate update =
      (layout.applyUpdate update).alter alteration := by
  have hrecording := h.isRecording layout.environment
  unfold applyUpdate
  split
  · next htrue => rw [if_pos (hrecording.symm.trans htrue)]; rfl
  · next hfalse => rw [if_neg fun htrue => hfalse (hrecording.trans htrue)]

/-! ## Changes -/

/-- The rules of a form come to the same. -/
lemma rulesHold_alter (id : NodeId) :
    (layout.alter alteration).rulesHold id = layout.rulesHold id := by
  unfold rulesHold
  rw [tree_alter]
  rcases (h.alike layout.tree).cases id with
    ⟨hnone, hnone'⟩ | ⟨node, node', hnode, hnode', hnodes⟩
  · rw [hnone, hnone']
  · rw [hnode, hnode']
    rcases hnodes.view_cases with
      ⟨spec, formEnabled, hview, hview'⟩ | ⟨button, _, _, -, hview, hview'⟩ | ⟨hview, hkind, -⟩
    · have hrules := hnodes.sameMembers_formRules hview hview'
      dsimp only
      rw [hview, hview']
      dsimp only
      rw [hnodes.scope, EnableRules.evaluate_congr hrules]
      rfl
    · dsimp only
      rw [hview, hview']
    · dsimp only
      rw [hview]
      split
      · next hform => rw [hform] at hkind; exact absurd rfl hkind
      · rfl

variable {update : FormUpdate} (hupdate : ∀ id intent layout,
  update id intent (alter layout alteration) = (update id intent layout).alter alteration)

section Reactions

include hupdate

lemma refresh_alter (id : NodeId) :
    refresh update id (layout.alter alteration) = (refresh update id layout).alter alteration := by
  rw [refresh, rulesHold_alter layout h, hupdate, refresh]

lemma ignores_reactForm (id : NodeId) :
    (formPlace id).Ignores (reactForm update) (·.alter alteration) where
  get _ := rfl
  set _ _ := rfl
  react observer snapshot world := by
    unfold reactForm
    split
    · exact congrArg (·, Flow.stay) (hupdate _ _ world)
    · split
      · rfl
      · split
        · rfl
        · exact congrArg (·, Flow.leave) (hupdate _ _ (world.push _))
    · exact congrArg (·, Flow.stay) (refresh_alter world h hupdate _)
    · show (if (world.announced.get _).getLast? = some snapshot.status then _ else _) = _
      split <;> rfl
    · rfl

lemma ignores_reactPager (id : NodeId) :
    (pagerPlace id).Ignores (reactPager update) (·.alter alteration) where
  get _ := rfl
  set _ _ := rfl
  react observer snapshot world := by
    unfold reactPager
    split
    · rfl
    · exact congrArg (·, Flow.stay) (refresh_alter world h hupdate _)
    · rfl

end Reactions

lemma updateForm_alter (depth : Nat) (id : NodeId) (intent : FormIntent) (layout : Layout) :
    updateForm depth id intent (layout.alter alteration) =
      (updateForm depth id intent layout).alter alteration := by
  induction depth generalizing id intent layout with
  | zero => rfl
  | succ depth ih =>
    exact congrArg Prod.fst (Place.flush_map (ignores_reactForm h ih id) formRounds
      (layout.commitForm id intent))

lemma depth_alter : (layout.alter alteration).depth = layout.depth :=
  congrArg (· + 1) (h.alike layout.tree).size

lemma changeForm_alter (id : NodeId) (intent : FormIntent) :
    (layout.alter alteration).changeForm id intent =
      (layout.changeForm id intent).alter alteration := by
  rw [changeForm, depth_alter layout h, updateForm_alter h, changeForm]

lemma changePager_alter (id : NodeId) (intent : PagerIntent) :
    (layout.alter alteration).changePager id intent =
      (layout.changePager id intent).alter alteration := by
  rw [changePager, depth_alter layout h, changePager]
  exact congrArg Prod.fst (Place.flush_map
    (ignores_reactPager h (updateForm_alter h layout.depth) id) pagerRounds
    (layout.commitPager id intent))

/-! ## Trickling -/

lemma submitForm_alter (id : NodeId) (spec : FormSpec) (button : Option String) :
    (layout.alter alteration).submitForm id spec button =
      (layout.submitForm id spec button).alter alteration := by
  unfold submitForm
  rw [form_alter, changeForm_alter layout h]
  dsimp only
  split
  · rfl
  · rw [push_alter, applyUpdate_alter _ h]
    split <;> rfl

lemma receive_alter (event : Event) (id : NodeId) :
    (layout.alter alteration).receive event id = (layout.receive event id).alter alteration := by
  unfold receive
  rw [tree_alter]
  rcases (h.alike layout.tree).cases id with
    ⟨hnone, hnone'⟩ | ⟨node, node', hnode, hnode', hnodes⟩
  · rw [hnone, hnone']
  · rw [hnode, hnode']
    dsimp only
    rw [hnodes.scope]
    cases event with
    | validationUpdate form status =>
      dsimp only
      rw [modifyState_alter, refreshNode_alter _ hnodes]
      split <;> rfl
    | pagerUpdate pager state =>
      dsimp only
      rw [modifyState_alter, refreshNode_alter _ hnodes]
      split <;> rfl
    | layoutSubmit button =>
      dsimp only
      rcases hnodes.view_cases with
        ⟨spec, formEnabled, hview, hview'⟩ | ⟨_, _, _, -, hview, hview'⟩ | ⟨hview, hkind, -⟩
      · rw [hview, hview']
        exact submitForm_alter layout h id spec button
      · rw [hview, hview']
      · rw [hview]
        split
        · next hform => rw [hform] at hkind; exact absurd rfl hkind
        · rfl
    | _ => rfl

lemma trickle_alter (origin : NodeId) (event : Event) :
    (layout.alter alteration).trickle origin event =
      (layout.trickle origin event).alter alteration := by
  unfold trickle
  rw [tree_alter, (h.alike layout.tree).descendants_eq]
  exact List.foldl_hom (fun world => alter world alteration)
    fun world id => receive_alter world h event id

lemma broadcast_alter (event : Event) :
    (layout.alter alteration).broadcast event =
      (layout.broadcast event).alter alteration := by
  rw [broadcast, receive_alter layout h, trickle_alter _ h, broadcast]

/-! ## Bubbling -/

lemma atRoot_alter (origin : NodeId) (event : Event) :
    (layout.alter alteration).atRoot origin event =
      (layout.atRoot origin event).alter alteration := by
  unfold atRoot
  split
  · exact h.report layout _
  · exact h.report layout _
  · next button isCancel context =>
    show (if layout.dismissal.isSome then _ else
      ({ layout with dismissal := some ⟨button, isCancel⟩ }.alter alteration).report _) = _
    rw [h.report]
    split <;> rfl
  · rw [broadcast_alter layout h, pushAll_alter]
  · rfl

lemma offerForm_alter (node : NodeId) (spec : FormSpec) (event : Event) :
    (layout.alter alteration).offerForm node spec event =
      (layout.offerForm node spec event).map (·.alter alteration) id := by
  unfold offerForm
  rw [form_alter]
  split
  · rfl
  · split
    · rfl
    · rw [changeForm_alter layout h]
      dsimp only
      rw [form_alter]
      split <;> rfl

lemma offerPager_alter (node : NodeId) (event : Event) :
    (layout.alter alteration).offerPager node event =
      (layout.offerPager node event).map (·.alter alteration) id := by
  unfold offerPager
  rw [pager_alter, changePager_alter layout h, changePager_alter layout h]
  split <;> rfl

lemma offer_alter (node : NodeId) (event : Event) :
    (layout.alter alteration).offer node event =
      (layout.offer node event).map (·.alter alteration) id := by
  unfold offer Tree.view?
  rw [tree_alter]
  rcases (h.alike layout.tree).cases node with
    ⟨hnone, hnone'⟩ | ⟨found, found', hfound, hfound', hnodes⟩
  · rw [hnone, hnone']
    rfl
  · rw [hfound, hfound', Option.map_some, Option.map_some]
    rcases hnodes.view_cases with
      ⟨spec, formEnabled, hview, hview'⟩ | ⟨_, _, _, -, hview, hview'⟩ | ⟨hview, hkind, -⟩
    · rw [hview, hview']
      exact offerForm_alter layout h node spec event
    · rw [hview, hview']
      rfl
    · rw [hview]
      split
      · next hform =>
        rw [Option.some.inj hform] at hkind
        exact absurd rfl hkind
      · exact offerPager_alter layout h node event
      · rfl

lemma bubbleTo_alter (origin : NodeId) : ∀ (list : List NodeId) (event : Event)
    (layout : Layout), bubbleTo origin list event (layout.alter alteration) =
      (bubbleTo origin list event layout).alter alteration
  | [], event, layout => atRoot_alter layout h origin event
  | id :: list, event, layout => by
    rw [bubbleTo, bubbleTo, offer_alter layout h]
    generalize layout.offer id event = offered
    obtain ⟨next, propagation⟩ := offered
    cases propagation with
    | stop => rfl
    | next event => exact bubbleTo_alter origin list event next

lemma bubble_alter (origin : NodeId) (event : Event) :
    (layout.alter alteration).bubble origin event =
      (layout.bubble origin event).alter alteration := by
  rw [bubble, tree_alter, (h.alike layout.tree).ancestors_eq, bubbleTo_alter h, bubble]

/-! ## Dispatches -/

/-- **Routing a dispatch does not notice.** -/
theorem route_alter (dispatch : Dispatch) :
    (layout.alter alteration).route dispatch = (layout.route dispatch).alter alteration := by
  cases dispatch with
  | bubble origin event => exact bubble_alter layout h origin event
  | trickle origin event => exact trickle_alter layout h origin event
  | broadcast event => exact broadcast_alter layout h event

lemma isStray_alter (dispatch : Dispatch) :
    (layout.alter alteration).isStray dispatch = layout.isStray dispatch := by
  have hnode : ∀ origin, ((alteration.tree layout.tree).node? origin).isNone =
      (layout.tree.node? origin).isNone := by
    intro origin
    rcases (h.alike layout.tree).cases origin with
      ⟨hnone, hnone'⟩ | ⟨node, node', hnode, hnode', -⟩
    · rw [hnone, hnone']
    · rw [hnode, hnode']
      rfl
  cases dispatch with
  | broadcast event => rfl
  | _ => exact hnode _

lemma drain_alter (bound : Nat) (layout : Layout) :
    (layout.alter alteration).drain bound = (layout.drain bound).alter alteration := by
  induction bound generalizing layout with
  | zero => rfl
  | succ bound ih =>
    have hpop : (layout.alter alteration).outbox.pop? = layout.outbox.pop? := rfl
    unfold drain
    rw [hpop]
    cases layout.outbox.pop? with
    | none => rfl
    | some popped =>
      dsimp only
      rw [isStray_alter layout h]
      split
      · rfl
      · have hroute := route_alter { layout with outbox := popped.2 } h popped.1
        exact (congrArg (drain bound) hroute).trans (ih _)

/-- **Routing what waits does not notice**, but for the limit of the other settings. -/
theorem settle_alter : (layout.alter alteration).settle =
    (layout.drain
      (alteration.environment layout.environment).config.bus.maxDispatchesPerPass).alter
        alteration :=
  drain_alter h _ layout

/-! ## Calls -/

/-- There is a node in the altered layout where there was one, and they are declared alike. -/
lemma node_alter (id : NodeId) :
    (∃ error, layout.node id = .error error ∧ (layout.alter alteration).node id = .error error) ∨
      ∃ node node', layout.node id = .ok node ∧ (layout.alter alteration).node id = .ok node' ∧
        node.Alike node' := by
  unfold Layout.node
  rw [tree_alter]
  rcases (h.alike layout.tree).cases id with
    ⟨hnone, hnone'⟩ | ⟨node, node', hnode, hnode', hnodes⟩
  · rw [hnone, hnone']
    exact .inl ⟨_, rfl, rfl⟩
  · rw [hnode, hnode']
    exact .inr ⟨node, node', rfl, rfl, hnodes⟩

lemma inputSpec_alter (id : NodeId) :
    (layout.alter alteration).inputSpec id = layout.inputSpec id := by
  unfold inputSpec
  rcases node_alter layout h id with
    ⟨error, herror, herror'⟩ | ⟨node, node', hnode, hnode', hnodes⟩
  · rw [herror, herror']
  · simp only [hnode, hnode', bind, Except.bind]
    rcases hnodes.view_cases with
      ⟨_, _, hview, hview'⟩ | ⟨_, _, _, -, hview, hview'⟩ | ⟨hview, -, -⟩
    · rw [hview, hview']
    · rw [hview, hview']
    · rw [hview]

lemma pagerSpec_alter (id : NodeId) :
    (layout.alter alteration).pagerSpec id = layout.pagerSpec id := by
  unfold pagerSpec
  rcases node_alter layout h id with
    ⟨error, herror, herror'⟩ | ⟨node, node', hnode, hnode', hnodes⟩
  · rw [herror, herror']
  · simp only [hnode, hnode', bind, Except.bind]
    rcases hnodes.view_cases with
      ⟨_, _, hview, hview'⟩ | ⟨_, _, _, -, hview, hview'⟩ | ⟨hview, -, -⟩
    · rw [hview, hview']
    · rw [hview, hview']
    · rw [hview]

/-- There is a button where there was one, with the same effects. -/
lemma buttonSpec_alter (id : NodeId) :
    (∃ error, layout.buttonSpec id = .error error ∧
      (layout.alter alteration).buttonSpec id = .error error) ∨
    ∃ spec spec', layout.buttonSpec id = .ok spec ∧
      (layout.alter alteration).buttonSpec id = .ok spec' ∧ spec'.id = spec.id ∧
      spec'.effects = spec.effects := by
  unfold buttonSpec
  rcases node_alter layout h id with
    ⟨error, herror, herror'⟩ | ⟨node, node', hnode, hnode', hnodes⟩
  · rw [herror, herror']
    exact .inl ⟨error, rfl, rfl⟩
  · simp only [hnode, hnode', bind, Except.bind]
    rcases hnodes.view_cases with
      ⟨_, _, hview, hview'⟩ | ⟨_, _, _, hbehaviors, hview, hview'⟩ | ⟨hview, -, hkind⟩
    · rw [hview, hview']
      exact .inl ⟨_, rfl, rfl⟩
    · rw [hview, hview']
      exact .inr ⟨_, _, rfl, rfl, rfl, (ClickBehavior.ordered_congr hbehaviors).symm⟩
    · rw [hview]
      split
      · next hbutton => rw [hbutton] at hkind; exact absurd rfl hkind
      · exact .inl ⟨_, rfl, rfl⟩

/-- There is a form where there was one. -/
lemma formSpec_alter (id : NodeId) :
    (∃ error, layout.formSpec id = .error error ∧
      (layout.alter alteration).formSpec id = .error error) ∨
    ∃ spec spec', layout.formSpec id = .ok spec ∧
      (layout.alter alteration).formSpec id = .ok spec' := by
  unfold formSpec
  rcases node_alter layout h id with
    ⟨error, herror, herror'⟩ | ⟨node, node', hnode, hnode', hnodes⟩
  · rw [herror, herror']
    exact .inl ⟨error, rfl, rfl⟩
  · simp only [hnode, hnode', bind, Except.bind]
    rcases hnodes.view_cases with
      ⟨_, _, hview, hview'⟩ | ⟨_, _, _, -, hview, hview'⟩ | ⟨hview, hkind, -⟩
    · rw [hview, hview']
      exact .inr ⟨_, _, rfl, rfl⟩
    · rw [hview, hview']
      exact .inl ⟨_, rfl, rfl⟩
    · rw [hview]
      split
      · next hform => rw [hform] at hkind; exact absurd rfl hkind
      · exact .inl ⟨_, rfl, rfl⟩

/-- **A node is enabled as it was.** -/
theorem isEnabled_alter (id : NodeId) :
    (layout.alter alteration).isEnabled id = layout.isEnabled id := by
  unfold isEnabled Tree.view?
  rw [tree_alter]
  rcases (h.alike layout.tree).cases id with
    ⟨hnone, hnone'⟩ | ⟨node, node', hnode, hnode', hnodes⟩
  · rw [hnone, hnone']
    rfl
  · rw [hnode, hnode', Option.map_some, Option.map_some]
    rcases hnodes.view_cases with
      ⟨_, _, hview, hview'⟩ | ⟨_, _, _, -, hview, hview'⟩ | ⟨hview, -, -⟩
    · rw [hview, hview']
      rfl
    · rw [hview, hview']
      rfl
    · rw [hview]
      rfl

/-! ## Activation -/

lemma setUpInheritance_alter (id : NodeId) (spec : FormSpec) (scope : Scope) :
    (layout.alter alteration).setUpInheritance id spec scope =
      (layout.setUpInheritance id spec scope).alter alteration := by
  unfold setUpInheritance
  split
  · dsimp only
    rw [form_alter, changeForm_alter layout h]
    rfl
  · rfl

lemma setUpRules_alter (id : NodeId) (rules : EnableRules) (scope : Scope) :
    (layout.alter alteration).setUpRules id rules scope =
      (layout.setUpRules id rules scope).alter alteration := by
  have hrefresh : ∀ world world' : Layout, world' = world.alter alteration →
      refresh (updateForm world'.depth) id world' =
        (refresh (updateForm world.depth) id world).alter alteration := by
    rintro world _ rfl
    rw [depth_alter _ h]
    exact refresh_alter _ h (updateForm_alter h _) id
  obtain ⟨form, pager⟩ := scope
  unfold setUpRules
  split
  · rfl
  · refine hrefresh _ _ ?_
    cases form <;> cases pager <;> dsimp only <;> split <;> try rfl
    all_goals split <;> rfl

/-- A form that is declared alike is set up in the same way. -/
lemma setUpForm_alter {node node' : Node} (hnodes : node.Alike node') {spec : FormSpec}
    {formEnabled : EnableRules} (hview : node.view = .form spec)
    (hview' : node'.view = .form { spec with formEnabled }) (id : NodeId) :
    (layout.alter alteration).setUpForm id node' { spec with formEnabled } =
      (layout.setUpForm id node spec).alter alteration := by
  have hrules := hnodes.sameMembers_formRules hview hview'
  have hraise : ∀ forms : Table (Observable FormState FormReaction),
      ({ layout.alter alteration with forms } : Layout) =
        alter { layout with forms } alteration := fun _ => rfl
  have hforms : (layout.alter alteration).forms = layout.forms := rfl
  have hinheritance : ∀ layout : Layout,
      layout.setUpInheritance id { spec with formEnabled } node.scope =
        layout.setUpInheritance id spec node.scope := fun _ => rfl
  unfold setUpForm
  dsimp only
  rw [hraise, hforms, hnodes.scope, hinheritance, setUpInheritance_alter _ h,
    ← setUpRules_congr _ hrules, setUpRules_alter _ h, form_alter]
  have hisChild : FormSpec.isChild { spec with formEnabled } = spec.isChild := rfl
  rw [hisChild]
  split <;> rfl

/-- **A node is set up in the same way.** -/
theorem setUp_alter (id : NodeId) :
    (layout.alter alteration).setUp id = (layout.setUp id).alter alteration := by
  unfold setUp
  rw [tree_alter]
  rcases (h.alike layout.tree).cases id with
    ⟨hnone, hnone'⟩ | ⟨node, node', hnode, hnode', hnodes⟩
  · rw [hnone, hnone']
  · rw [hnode, hnode']
    dsimp only
    rcases hnodes.view_cases with
      ⟨spec, formEnabled, hview, hview'⟩ | ⟨_, _, _, -, hview, hview'⟩ | ⟨hview, hkind, -⟩
    · rw [hview, hview']
      exact setUpForm_alter layout h hnodes hview hview' id
    · rw [hview, hview']
    · rw [hview, hnodes.children]
      split
      · rfl
      · next hform => rw [hform] at hkind; exact absurd rfl hkind
      · rfl
      all_goals rfl

/-- All nodes of the other tree are set up in the same way, with the other settings. -/
lemma build_alter (hreports : alteration.reports [] = []) (environment : Environment)
    (tree : Tree) : build (alteration.environment environment) (alteration.tree tree) =
      (build environment tree).alter alteration := by
  have hstart : ({ tree := alteration.tree tree
                   environment := alteration.environment environment } : Layout) =
      ({ tree, environment } : Layout).alter alteration := by
    rw [alter, hreports]
  rw [build, build, hstart, (h.alike tree).ids_eq]
  exact List.foldl_hom (fun world => alter world alteration) fun world id => setUp_alter world h id

section Limited

variable (hlimit : ∀ environment : Environment,
  (alteration.environment environment).config.bus.maxDispatchesPerPass =
    environment.config.bus.maxDispatchesPerPass)
include hlimit

/-- Where the limit is the same, routing what waits does not notice. -/
lemma settle_alter_of_limit :
    (layout.alter alteration).settle = layout.settle.alter alteration := by
  rw [settle_alter layout h, hlimit, settle]

lemma setDisplayed_alter (id : NodeId) (isDisplayed : Bool) :
    (layout.alter alteration).setDisplayed id isDisplayed =
      (layout.setDisplayed id isDisplayed).map (·.alter alteration) := by
  unfold setDisplayed
  rcases node_alter layout h id with
    ⟨error, herror, herror'⟩ | ⟨node, node', hnode, hnode', hnodes⟩
  · rw [herror, herror']
    rfl
  · simp only [hnode, hnode', bind, Except.bind]
    rcases hnodes.view_cases with
      ⟨_, _, hview, hview'⟩ | ⟨_, _, _, -, hview, hview'⟩ | ⟨hview, -, -⟩
    · rw [hview, hview']
      rfl
    · rw [hview, hview']
      rfl
    · rw [hview]
      split
      · rw [bubble_alter layout h, settle_alter_of_limit _ h hlimit]
        rfl
      · rfl

lemma setAttached_alter (id : NodeId) (isAttached : Bool) :
    (layout.alter alteration).setAttached id isAttached =
      (layout.setAttached id isAttached).map (·.alter alteration) := by
  unfold setAttached
  rcases node_alter layout h id with
    ⟨error, herror, herror'⟩ | ⟨node, node', hnode, hnode', -⟩
  · rw [herror, herror']
    rfl
  · simp only [hnode, hnode', bind, Except.bind]
    rw [modifyState_alter, setDisplayed_alter _ h hlimit]

lemma setAnswer_alter (id : NodeId) (answer : Answer) :
    (layout.alter alteration).setAnswer id answer =
      (layout.setAnswer id answer).map (·.alter alteration) := by
  unfold setAnswer
  rw [inputSpec_alter layout h]
  cases layout.inputSpec id with
  | error error => rfl
  | ok spec =>
    simp only [bind, Except.bind]
    have hanswers : (layout.alter alteration).answers = layout.answers := rfl
    rw [hanswers]
    cases (⟨spec, layout.answers.get id⟩ : InputNode).setAnswer answer with
    | error error => rfl
    | ok input =>
      have hbubble := bubble_alter { layout with answers := layout.answers.set id input.answer } h
        id (.dataChange input.entry)
      have hsettle := settle_alter_of_limit
        (({ layout with answers := layout.answers.set id input.answer } : Layout).bubble id
          (.dataChange input.entry)) h hlimit
      exact congrArg Except.ok ((congrArg settle hbubble).trans hsettle)

lemma withdraw_alter (id : NodeId) :
    (layout.alter alteration).withdraw id = (layout.withdraw id).map (·.alter alteration) := by
  unfold withdraw
  rw [inputSpec_alter layout h]
  cases layout.inputSpec id with
  | error error => rfl
  | ok spec =>
    simp only [bind, Except.bind]
    rw [modifyState_alter, bubble_alter _ h, settle_alter_of_limit _ h hlimit]
    rfl

lemma click_alter (id : NodeId) :
    (layout.alter alteration).click id = (layout.click id).map (·.alter alteration) := by
  unfold click
  rcases buttonSpec_alter layout h id with
    ⟨error, herror, herror'⟩ | ⟨spec, spec', hspec, hspec', hid, heffects⟩
  · rw [herror, herror']
    rfl
  · have hsubmits : spec'.submits = spec.submits := by
      rw [ButtonSpec.submits, heffects, ButtonSpec.submits]
    simp only [hspec, hspec', bind, Except.bind]
    rw [isEnabled_alter layout h, hsubmits, heffects, hid]
    split
    · rfl
    · split
      · rw [bubble_alter layout h, settle_alter_of_limit _ h hlimit]
        rfl
      · rw [pushAll_alter, settle_alter_of_limit _ h hlimit]
        rfl

lemma scrollTo_alter (id : NodeId) (position : UInt64) :
    (layout.alter alteration).scrollTo id position =
      (layout.scrollTo id position).map (·.alter alteration) := by
  unfold scrollTo
  rw [pagerSpec_alter layout h]
  cases layout.pagerSpec id with
  | error error => rfl
  | ok spec =>
    simp only [bind, Except.bind]
    rw [changePager_alter layout h, settle_alter_of_limit _ h hlimit]
    rfl

lemma dispatch_alter (origin : NodeId) (event : Event) (direction : Direction) :
    (layout.alter alteration).dispatch origin event direction =
      (layout.dispatch origin event direction).map (·.alter alteration) := by
  unfold dispatch
  rcases node_alter layout h origin with
    ⟨error, herror, herror'⟩ | ⟨node, node', hnode, hnode', -⟩
  · rw [herror, herror']
    rfl
  · simp only [hnode, hnode', bind, Except.bind]
    cases direction with
    | bubble =>
      dsimp only
      rw [bubble_alter layout h, settle_alter_of_limit _ h hlimit]
      rfl
    | trickle =>
      dsimp only
      rw [trickle_alter layout h, settle_alter_of_limit _ h hlimit]
      rfl

/-- **A call does not notice**: it is refused for the same reason, or leads to the altered
layout. -/
theorem perform_alter (call : Call) :
    (layout.alter alteration).perform call = (layout.perform call).map (·.alter alteration) := by
  cases call with
  | attach id => exact setAttached_alter layout h hlimit id true
  | detach id => exact setAttached_alter layout h hlimit id false
  | setDisplayed id isDisplayed => exact setDisplayed_alter layout h hlimit id isDisplayed
  | setAnswer id answer => exact setAnswer_alter layout h hlimit id answer
  | withdraw id => exact withdraw_alter layout h hlimit id
  | click id => exact click_alter layout h hlimit id
  | scrollTo id position => exact scrollTo_alter layout h hlimit id position
  | dispatch origin event direction => exact dispatch_alter layout h hlimit origin event direction

/-- **Activation does not notice**: the other declaration is malformed in the same way, or is
brought to life as the altered layout. -/
theorem activate_alter (hreports : alteration.reports [] = []) (environment : Environment)
    {spec spec' : Spec} (htree : Tree.ofSpec spec' = alteration.tree (Tree.ofSpec spec)) :
    activate (alteration.environment environment) spec' =
      (activate environment spec).map (·.alter alteration) := by
  unfold activate
  dsimp only
  rw [htree, (h.alike _).violation?_eq]
  split
  · rfl
  · rw [build_alter h hreports, settle_alter_of_limit _ h hlimit]
    rfl

end Limited

end Unnoticed

end Layout

end FormTree

import FormTree.Proofs.Inheritance
import FormTree.Proofs.Layout.Echoing

set_option autoImplicit false

/-!
# How forms start to announce

While a form is set up, it takes over what there is and evaluates its rules, and what it commits
meanwhile is announced by nobody. Then it announces the flags that it has come to, once, and gets
its announcer. The forms that are set up after it observe it, and do not change it. So when all
nodes are set up, each form has announced the flags with which it was set up, and nothing else.

## Main definitions

* `FormTree.Layout.Unspoken` — nothing is announced, and no observer of a form is going to.

## Main results

* `FormTree.Layout.announced_setUpForm` — what is announced while a form is set up.
* `FormTree.Layout.announced_setUpTo` — what is announced while nodes are set up.
* `FormTree.Layout.echoes_build` — after that, announcements echo commits.
-/

namespace FormTree.Layout

variable {environment : Environment} {tree : Tree} {layout : Layout} {id : NodeId}

/-! ## Setting up a form -/

/-- What was announced is as given, and the observers of the form `id` change this form only, and
announce nothing. -/
structure Unspoken (announced : Table (List FormStatus)) (id : NodeId) (layout : Layout) :
    Prop where
  announced : layout.announced = announced
  serves : ∀ observer ∈ (layout.form id).observers, observer.reaction.Serves (· = id)

namespace Unspoken

variable {announced : Table (List FormStatus)}

/-- A change in the place of the form that adds no observers. -/
lemma modify (h : Unspoken announced id layout)
    (change : Observable FormState FormReaction → Observable FormState FormReaction)
    (hobservers : ∀ state, (change state).observers ⊆ state.observers) :
    Unspoken announced id ((formPlace id).modify layout change) where
  announced := h.announced
  serves observer hobserver := by
    rw [form_modify, if_pos rfl] at hobserver
    exact h.serves observer (hobservers _ hobserver)

/-- Changes of the form are announced by nobody. -/
theorem updateForm (depth : Nat) : ∀ (intent : FormIntent) {layout : Layout},
    Unspoken announced id layout → Unspoken announced id (updateForm depth id intent layout) := by
  induction depth with
  | zero => exact fun _ _ h => h
  | succ depth ih =>
    intro intent layout h
    refine (formPlace id).flush_keeps (reactForm (Layout.updateForm depth))
      (P := Unspoken announced id) (fun before hbefore observer hmem snapshot world hworld => ?_)
      (fun world number hworld => hworld.modify (·.unwatch number)
        fun _ _ hobserver => List.mem_of_mem_filter hobserver)
      (fun world hworld => hworld.modify _ fun _ => List.Subset.refl _)
      (fun world pending hworld => hworld.modify _ fun _ => List.Subset.refl _)
      (fun world hworld => hworld.modify _ fun _ => List.Subset.refl _)
      (h.modify _ fun state => by
        rw [Observable.observers_commit]
        exact List.Subset.refl _)
    have hserves := hbefore.serves observer hmem
    unfold reactForm
    split
    · next child hreaction =>
      rw [hreaction] at hserves
      obtain rfl : child = id := hserves
      exact ih _ hworld
    · next target hreaction =>
      rw [hreaction] at hserves
      obtain rfl : target = id := hserves
      split
      · exact hworld
      · split
        · exact hworld
        · exact ih _ ⟨hworld.announced, hworld.serves⟩
    · next target hreaction =>
      rw [hreaction] at hserves
      obtain rfl : target = id := hserves
      exact ih _ hworld
    · next target hreaction => exact absurd hreaction (hserves.ne_announce target)
    · exact hworld

/-- An observer is registered that changes the form only. -/
lemma watchForm (h : Unspoken announced id layout) (form : NodeId) {reaction : FormReaction}
    (hserves : reaction.Serves (· = id)) :
    Unspoken announced id (layout.watchForm form reaction) where
  announced := h.announced
  serves observer hobserver := by
    rw [form_watchForm] at hobserver
    split at hobserver
    · next heq =>
      subst heq
      rcases List.mem_append.mp hobserver with hobserver | hobserver
      · exact h.serves observer hobserver
      · rw [List.mem_singleton.mp hobserver]
        exact hserves
    · exact h.serves observer hobserver

end Unspoken

/-- **While a form is set up, it announces the flags that it has come to**, and nothing else is
announced. -/
theorem announced_setUpForm (layout : Layout) (id : NodeId) (node : Node) (spec : FormSpec)
    (form : NodeId) : (layout.setUpForm id node spec).announced.get form =
      layout.announced.get form ++
        if id = form then [((layout.setUpForm id node spec).form id).value.status] else [] := by
  obtain ⟨tied, htied⟩ : ∃ tied, ((layout.raise id spec).setUpInheritance id spec
    node.scope).setUpRules id (node.formRules spec) node.scope = tied := ⟨_, rfl⟩
  have hties : Unspoken layout.announced id tied := by
    rw [← htied]
    refine setUpTies_induction (P := Unspoken layout.announced id)
      (fun world other reaction hserves hworld => hworld.watchForm other hserves)
      (fun _ _ hworld => ⟨hworld.announced, hworld.serves⟩)
      (fun world intent hworld => hworld.updateForm _ intent) ⟨rfl, fun observer hobserver => ?_⟩
    rw [form_raise, if_pos rfl] at hobserver
    cases hobserver
  have hannounced : (layout.setUpForm id node spec).announced =
      (tied.announce id (tied.form id).value.status).announced := by
    rw [setUpForm_eq htied]
    split <;> rfl
  have hvalue : ((layout.setUpForm id node spec).form id).value = (tied.form id).value := by
    have hwatched : (((tied.announce id (tied.form id).value.status).watchForm id
        (.announce id)).form id).value = (tied.form id).value := by
      rw [form_watchForm, if_pos rfl]
      rfl
    rw [setUpForm_eq htied]
    split
    · exact hwatched
    · exact hwatched
  rw [hannounced, announced_announce, hties.announced, hvalue]

/-! ## Setting up all nodes -/

/-- Nodes other than forms announce no flags. -/
lemma announced_setUp_of_not_form (h : layout.tree.form? id = none) :
    (layout.setUp id).announced = layout.announced := by
  unfold Layout.setUp
  split
  · rfl
  · next node hnode =>
    split
    · rfl
    · next spec hview =>
      rw [Tree.form?_eq_some.mpr ⟨hnode, hview⟩] at h
      cases h
    all_goals rfl

/-- **Each form announces once how it was set up**, when it is its turn. -/
theorem announced_setUpTo (environment : Environment) (wf : tree.WellFormed) {bound : NodeId}
    (hle : bound ≤ tree.size) {form : NodeId} (hsome : (tree.form? form).isSome) :
    (setUpTo environment tree bound).announced.get form =
      if form < bound then [((setUpTo environment tree (form + 1)).form form).value.status]
      else [] := by
  induction bound with
  | zero => rfl
  | succ bound ih =>
    have hassembled : Assembled environment tree bound (setUpTo environment tree bound) :=
      assembled_upTo environment wf (Nat.le_of_succ_le hle)
    have hbefore := ih (Nat.le_of_succ_le hle)
    rw [setUpTo_succ]
    cases hform : tree.form? bound with
    | none =>
      have hne : form ≠ bound := by
        rintro rfl
        rw [hform] at hsome
        cases hsome
      have hnone : (setUpTo environment tree bound).tree.form? bound = none := by
        rw [hassembled.tree_eq, hform]
      rw [announced_setUp_of_not_form hnone, hbefore]
      exact if_congr ⟨Nat.lt_succ_of_lt, fun hlt => lt_of_lt_succ hlt hne⟩ rfl rfl
    | some pair =>
      obtain ⟨node, spec⟩ := pair
      obtain ⟨hnode, hview⟩ := Tree.form?_eq_some.mp hform
      have hsetUp : (setUpTo environment tree bound).setUp bound =
          (setUpTo environment tree bound).setUpForm bound node spec := by
        rw [Layout.setUp, hassembled.tree_eq, hnode]
        dsimp only
        rw [hview]
      rw [hsetUp, announced_setUpForm, hbefore]
      by_cases heq : bound = form
      · subst heq
        rw [if_neg (Nat.lt_irrefl bound), if_pos rfl, if_pos (Nat.lt_succ_self bound),
          setUpTo_succ, hsetUp, List.nil_append]
      · rw [if_neg heq, List.append_nil]
        exact if_congr ⟨Nat.lt_succ_of_lt, fun hlt => lt_of_lt_succ hlt (Ne.symm heq)⟩ rfl rfl

/-! ## Echoes -/

/-- The observers of a sound layout announce the flags of the form that they observe, if any. -/
lemma Sound.elsewhere (h : layout.Sound) {form : NodeId} (hsome : (layout.tree.form? form).isSome)
    (hne : form ≠ id) : ∀ observer ∈ (layout.form form).observers,
      observer.reaction ≠ .announce id := by
  intro observer hobserver hreaction
  obtain ⟨announcer, -, -, haims⟩ := (h.rests form hsome).wired.announcer hsome
  rcases haims observer hobserver with hserves | ⟨hself, -⟩
  · exact hserves.ne_announce id hreaction
  · rw [hself] at hreaction
    exact hne (FormReaction.announce.inj hreaction)

/-- **When all nodes are set up, announcements echo commits.** -/
theorem echoes_build (environment : Environment) (wf : tree.WellFormed)
    (hsome : (tree.form? id).isSome) :
    ∃ number, Echoes tree id number ((setUpTo environment tree (id + 1)).form id) none
      (build environment tree) := by
  have hsize := Tree.lt_size_of_form? hsome
  obtain ⟨hvalue, hhistory⟩ :=
    form_setUpTo environment wf (Nat.lt_succ_self id) hsize (Nat.le_refl tree.size)
  have hannounced := announced_setUpTo environment wf (Nat.le_refl tree.size) hsome
  rw [if_pos hsize] at hannounced
  have hassembled := assembled_build environment wf
  have hbuild : setUpTo environment tree tree.size = build environment tree := rfl
  rw [hbuild] at hvalue hhistory hannounced
  generalize build environment tree = layout at hvalue hhistory hannounced hassembled
  have hsound := hassembled.sound wf
  obtain rfl := hassembled.tree_eq
  have hrests := hsound.rests id hsome
  obtain ⟨announcer, hmem, hreaction, haims⟩ := hrests.wired.announcer hsome
  refine ⟨announcer.id, rfl, hsound.downward, fun form hform hne => hsound.elsewhere hform hne,
    hrests.isDelivering, fun _ => hrests.pending, ?_,
    fun observer hobserver => ⟨fun hid => ?_, fun hannounce => ?_⟩,
    hrests.wired.nodup, hrests.wired.lt_next, [], ?_, ?_, ?_⟩
  · rw [← hreaction]
    exact hmem
  · rw [List.inj_on_of_nodup_map hrests.wired.nodup hobserver hmem hid, hreaction]
  · rcases haims observer hobserver with hserves | ⟨-, hid⟩
    · exact absurd hannounce (hserves.ne_announce id)
    · exact hid
  · rw [hrests.pending]
    simpa using hhistory
  · rw [hrests.pending]
    simpa using hvalue.symm
  · simpa using hannounced

end FormTree.Layout

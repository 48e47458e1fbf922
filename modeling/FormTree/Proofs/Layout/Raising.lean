import FormTree.Layout.Activation
import FormTree.Proofs.Layout.Sound

set_option autoImplicit false

/-!
# Setting up a form

Setting up a form adds its container and its ties to the form and to the pager around it. Until it
is done the form is wired in part only; a change that is made to it meanwhile goes no further than
the form itself.

## Main definitions

* `FormTree.Observable.watchAll` — registering several observers.
* `FormTree.Tree.wiringUpTo` — the wiring of a form as far as the forms before a number go.
* `FormTree.Layout.Raising` — a form that is being set up.

## Main results

* `FormTree.Layout.raising_setUpForm` — what setting up a form comes to.
-/

namespace FormTree

/-! ## Registering observers -/

namespace Observable

variable {σ κ : Type}

/-- Register several observers, one after the other. -/
def watchAll (state : Observable σ κ) (reactions : List κ) : Observable σ κ :=
  reactions.foldl watch state

variable (state : Observable σ κ) (reactions : List κ)

/-- Registering observers changes nothing else. -/
theorem watchAll_eq : state.watchAll reactions = { state with
    observers := (state.watchAll reactions).observers
    isActive := (state.watchAll reactions).isActive
    nextObserver := (state.watchAll reactions).nextObserver
    isActive_iff := (state.watchAll reactions).isActive_iff } := by
  induction reactions generalizing state with
  | nil => rfl
  | cons reaction rest ih =>
    rw [watchAll, List.foldl_cons]
    exact ih (state.watch reaction)

@[simp] theorem value_watchAll : (state.watchAll reactions).value = state.value := by
  rw [watchAll_eq]

@[simp] theorem history_watchAll : (state.watchAll reactions).history = state.history := by
  rw [watchAll_eq]

@[simp] theorem pending_watchAll : (state.watchAll reactions).pending = state.pending := by
  rw [watchAll_eq]

@[simp] theorem isDelivering_watchAll :
    (state.watchAll reactions).isDelivering = state.isDelivering := by
  rw [watchAll_eq]

/-- The new observers stand behind the others. -/
theorem reactions_watchAll : (state.watchAll reactions).observers.map (·.reaction) =
    state.observers.map (·.reaction) ++ reactions := by
  induction reactions generalizing state with
  | nil => simp [watchAll]
  | cons reaction rest ih =>
    rw [watchAll, List.foldl_cons]
    refine (ih (state.watch reaction)).trans ?_
    simp [watch]

/-- New observers are numbered like the others. -/
theorem numbered_watchAll (hnodup : (state.observers.map (·.id)).Nodup)
    (hnext : ∀ observer ∈ state.observers, observer.id < state.nextObserver) :
    ((state.watchAll reactions).observers.map (·.id)).Nodup ∧
      ∀ observer ∈ (state.watchAll reactions).observers,
        observer.id < (state.watchAll reactions).nextObserver := by
  induction reactions generalizing state with
  | nil => exact ⟨hnodup, hnext⟩
  | cons reaction rest ih =>
    rw [watchAll, List.foldl_cons]
    refine ih (state.watch reaction) ?_ fun observer hobserver => ?_
    · rw [watch, List.map_append, List.map_singleton, List.nodup_append]
      refine ⟨hnodup, by simp, fun a ha b hb => ?_⟩
      obtain ⟨observer, hobserver, rfl⟩ := List.mem_map.mp ha
      obtain rfl := List.mem_singleton.mp hb
      exact Nat.ne_of_lt (hnext observer hobserver)
    · rcases List.mem_append.mp hobserver with hobserver | hobserver
      · exact Nat.lt_succ_of_lt (hnext observer hobserver)
      · obtain rfl := List.mem_singleton.mp hobserver
        exact Nat.lt_succ_self _

/-- Registering observers in two goes. -/
theorem watchAll_append (more : List κ) :
    state.watchAll (reactions ++ more) = (state.watchAll reactions).watchAll more :=
  List.foldl_append

end Observable

/-- A form that gets further observers is wired further. -/
theorem Wired.watchAll {tree : Tree} {id : NodeId} {wiring wiring' : Wiring} {reporting : Bool}
    {state : Observable FormState FormReaction} (h : Wired tree id wiring reporting state)
    (more : List FormReaction)
    (hmore : wiring'.own id reporting ++ wiring'.inside.flatMap tree.ties =
      wiring.own id reporting ++ wiring.inside.flatMap tree.ties ++ more) :
    Wired tree id wiring' reporting (state.watchAll more) := by
  obtain ⟨hnodup, hnext⟩ := state.numbered_watchAll more h.nodup h.lt_next
  exact ⟨by rw [Observable.reactions_watchAll, h.reactions, hmore], hnodup, hnext⟩

namespace Layout

/-- A form that gets further observers rests, wired further. -/
theorem RestsWith.watchAll {layout layout' : Layout} {id : NodeId} {wiring wiring' : Wiring}
    (h : layout.RestsWith id wiring) (htree : layout'.tree = layout.tree)
    {more : List FormReaction} (hform : layout'.form id = (layout.form id).watchAll more)
    (hmore : ∀ reporting, wiring'.own id reporting ++ wiring'.inside.flatMap layout.tree.ties =
      wiring.own id reporting ++ wiring.inside.flatMap layout.tree.ties ++ more) :
    layout'.RestsWith id wiring' where
  pending := by rw [hform, Observable.pending_watchAll, h.pending]
  isDelivering := by rw [hform, Observable.isDelivering_watchAll, h.isDelivering]
  wired := by
    rw [htree, hform, Observable.value_watchAll]
    exact h.wired.watchAll more (hmore _)
  displayed := by
    rw [htree, hform, Observable.value_watchAll]
    exact h.displayed

end Layout

/-! ## Setting up a form -/

namespace Tree

/-- The forms right inside the form `id`, as far as the forms before `bound` go. -/
def insideUpTo (tree : Tree) (bound id : NodeId) : List NodeId :=
  (List.range bound).filter fun inner =>
    (tree.form? inner).isSome && tree.formAround inner = some id

/-- The forms that look at the pager `id`, as far as the forms before `bound` go. -/
def lookersUpTo (tree : Tree) (bound id : NodeId) : List NodeId :=
  (List.range bound).filter fun form =>
    (tree.rules form).hasPager && tree.pagerAround form = some id

/-- The wiring of the form `id` as far as the forms before `bound` go. -/
def wiringUpTo (tree : Tree) (bound id : NodeId) : Wiring where
  refreshes := (tree.rules id).hasForm
  announces := true
  inside := tree.insideUpTo bound id

variable {tree : Tree} {bound id : NodeId}

theorem insideUpTo_succ : tree.insideUpTo (bound + 1) id = tree.insideUpTo bound id ++
    if (tree.form? bound).isSome = true ∧ tree.formAround bound = some id then [bound] else [] := by
  simp [insideUpTo, List.range_succ, List.filter_cons]

theorem lookersUpTo_succ : tree.lookersUpTo (bound + 1) id = tree.lookersUpTo bound id ++
    if (tree.rules bound).hasPager = true ∧ tree.pagerAround bound = some id then [bound]
    else [] := by
  simp [lookersUpTo, List.range_succ, List.filter_cons]

/-- The forms inside a form come after it. -/
theorem insideUpTo_self (linked : tree.Linked) : tree.insideUpTo (id + 1) id = [] := by
  refine List.filter_eq_nil_iff.mpr fun inner hinner h => ?_
  simp only [Bool.and_eq_true, decide_eq_true_eq] at h
  have := linked.formAround_lt h.2
  rw [List.mem_range] at hinner
  omega

/-- The forms that look at a pager come after it. -/
theorem lookersUpTo_self (linked : tree.Linked) : tree.lookersUpTo (id + 1) id = [] := by
  refine List.filter_eq_nil_iff.mpr fun form hform h => ?_
  simp only [Bool.and_eq_true, decide_eq_true_eq] at h
  have := (linked.pagerAround_spec h.2).1
  rw [List.mem_range] at hform
  omega

end Tree

namespace Layout

/-- The form `id` is being set up in `layout`, which started as `old`: so far it is wired as given,
and the form and the pager around it carry the given new observers. -/
structure Raising (id : NodeId) (spec : FormSpec) (old : Layout) (wiring : Wiring)
    (above : List FormReaction) (atPager : List PagerReaction) (layout : Layout) : Prop where
  core : layout.core = old.core
  /-- The forms before it are as they were, but for the new observers around it. -/
  before : ∀ form, form < id → layout.form form =
    (old.form form).watchAll (if old.tree.formAround id = some form then above else [])
  /-- So are the pagers. -/
  pager : ∀ pager, layout.pager pager =
    (old.pager pager).watchAll (if old.tree.pagerAround id = some pager then atPager else [])
  rests : layout.RestsWith id wiring
  /-- Nothing but its enabled flag has changed. -/
  value : (layout.form id).value = { FormState.start spec.id spec.formType spec.responseType with
    isEnabled := (layout.form id).value.isEnabled }
  history : ∀ state ∈ (layout.form id).history, state.isSubmitted = false
  /-- Announcements go into the outbox. -/
  outbox : ∃ announcements, (∀ dispatch ∈ announcements, dispatch.IsAnnouncement old.tree) ∧
    layout.outbox.queue = old.outbox.queue ++ announcements

section Raising

variable {id : NodeId} {node : Node} {spec : FormSpec} {old layout : Layout} {wiring : Wiring}
  {above : List FormReaction} {atPager : List PagerReaction}

theorem Raising.tree_eq (h : Raising id spec old wiring above atPager layout) :
    layout.tree = old.tree := tree_of_core h.core

/-- The form holds its first state. -/
def raise (layout : Layout) (id : NodeId) (spec : FormSpec) : Layout :=
  { layout with
    forms := layout.forms.set id
      { value := FormState.start spec.id spec.formType spec.responseType } }

theorem form_raise (layout : Layout) (id other : NodeId) (spec : FormSpec) :
    (layout.raise id spec).form other =
      if id = other then { value := FormState.start spec.id spec.formType spec.responseType }
      else layout.form other := Table.get_set _ _ _ _

theorem form_watchForm (layout : Layout) (id other : NodeId) (reaction : FormReaction) :
    (layout.watchForm id reaction).form other =
      if id = other then (layout.form id).watch reaction else layout.form other :=
  Table.get_set _ _ _ _

theorem pager_watchPager (layout : Layout) (id other : NodeId) (reaction : PagerReaction) :
    (layout.watchPager id reaction).pager other =
      if id = other then (layout.pager id).watch reaction else layout.pager other :=
  Table.get_set _ _ _ _

/-- A nested form starts without observers. -/
theorem raising_child (hchild : old.tree.isChild id = true) :
    Raising id spec old ⟨false, false, []⟩ [] [] (old.raise id spec) := by
  have hform := form_raise old id id spec
  rw [if_pos rfl] at hform
  refine ⟨rfl, fun form hlt => ?_, fun pager => ?_,
    ⟨by rw [hform], by rw [hform], ?_, fun hc => ?_⟩, by rw [hform], by simp [hform], [],
    by simp, by simp [raise]⟩
  · rw [form_raise, if_neg (Nat.ne_of_gt hlt), ite_self]
    rfl
  · rw [ite_self]
    rfl
  · rw [hform, show (old.raise id spec).tree = old.tree from rfl, hchild]
    exact ⟨by simp [Wiring.own], by simp, by simp⟩
  · rw [show (old.raise id spec).tree = old.tree from rfl, hchild] at hc
    cases hc

/-- Any other form starts with the observer that reports its display. -/
theorem raising_other (hchild : old.tree.isChild id = false) :
    Raising id spec old ⟨false, false, []⟩ [] []
      ((old.raise id spec).watchForm id (.reportDisplay id)) := by
  have hform : ((old.raise id spec).watchForm id (.reportDisplay id)).form id =
      ({ value := FormState.start spec.id spec.formType spec.responseType } :
        Observable FormState FormReaction).watch (.reportDisplay id) := by
    rw [form_watchForm, if_pos rfl, form_raise, if_pos rfl]
  refine ⟨rfl, fun form hlt => ?_, fun pager => ?_, ⟨by rw [hform]; rfl, by rw [hform]; rfl, ?_,
    fun _ _ => by rw [hform]; rfl⟩, by rw [hform]; rfl, by simp [hform, Observable.watch],
    [], by simp, by simp [raise, watchForm]⟩
  · rw [form_watchForm, if_neg (Nat.ne_of_gt hlt), form_raise, if_neg (Nat.ne_of_gt hlt), ite_self]
    rfl
  · rw [ite_self]
    rfl
  · rw [hform, show ((old.raise id spec).watchForm id (.reportDisplay id)).tree = old.tree from rfl,
      hchild]
    exact ⟨by simp [Wiring.own, Observable.watch, FormState.start], by simp [Observable.watch],
      by simp [Observable.watch]⟩

/-- While a form is set up it may be enabled or disabled. -/
theorem Raising.change (h : Raising id spec old wiring above atPager layout)
    (wf : old.tree.WellFormed) (hsome : (old.tree.form? id).isSome) (hinside : wiring.inside = [])
    (hrefreshes : wiring.refreshes = true → (old.tree.rules id).hasForm = true)
    {intent : FormIntent} (isEnabled : Bool)
    (hreduce : (layout.form id).value.reduce intent = { (layout.form id).value with isEnabled }) :
    Raising id spec old wiring above atPager (layout.changeForm id intent) ∧
      Change id intent wiring layout (layout.changeForm id intent) := by
  have htree := h.tree_eq
  have hchange : Change id intent wiring layout (layout.changeForm id intent) :=
    change_of_ready layout.depth intent ⟨htree ▸ wf, htree ▸ hsome, Nat.le_add_right _ _,
      ⟨by rwa [htree], by simp [hinside], by simp [hinside]⟩, h.rests, by simp [hinside]⟩
  have hcommit := form_commitForm layout id id intent
  rw [if_pos rfl, hreduce] at hcommit
  have howes : (layout.commitForm id intent).owesDisplay id = false := by
    have := h.rests.owesDisplay
    unfold owesDisplay at this ⊢
    rw [hcommit, Observable.value_commit]
    exact this
  have hunsubmitted : (layout.form id).value.isSubmitted = false := by
    rw [h.value]
    rfl
  have hvalue := hchange.turn.value
  rw [howes, Bool.or_false, hcommit, Observable.value_commit, h.value] at hvalue
  refine ⟨⟨(core_of_rest hchange.rest).trans h.core, fun form hlt => ?_, fun pager => ?_,
    hchange.rests, hvalue, fun state hstate => ?_, ?_⟩, hchange⟩
  · rw [hchange.outside, h.before form hlt]
    intro hin
    have := (htree ▸ wf.linked : layout.tree.Linked).le_of_encloses hin
    unfold NodeId at *
    omega
  · rw [pager_of_rest hchange.rest, h.pager]
  · obtain ⟨more, hmore, hm⟩ := hchange.turn.history
    rw [hcommit, Observable.value_commit] at hm
    rw [hmore, hcommit, Observable.history_commit] at hstate
    rcases List.mem_append.mp hstate with hstate | hstate
    · rcases List.mem_append.mp hstate with hstate | hstate
      · exact h.history state hstate
      · unfold Observable.added at hstate
        split at hstate
        · simp at hstate
        · obtain rfl := List.mem_singleton.mp hstate
          exact hunsubmitted
    · rw [hm state hstate, hunsubmitted]
  · obtain ⟨list, hlist, hqueue⟩ := h.outbox
    obtain ⟨list', hlist', hqueue'⟩ := hchange.turn.outbox
    refine ⟨list ++ list', fun dispatch hd => ?_, ?_⟩
    · rcases List.mem_append.mp hd with hd | hd
      · exact hlist dispatch hd
      · exact htree ▸ hlist' dispatch hd
    · rw [hqueue', displayNotice, howes]
      simp [hqueue]

/-- While a form is set up it gets observers of its own. -/
theorem Raising.watchOwn (h : Raising id spec old wiring above atPager layout)
    (hinside : wiring.inside = []) {wiring' : Wiring} (hinside' : wiring'.inside = [])
    {reaction : FormReaction}
    (hown : ∀ reporting, wiring'.own id reporting = wiring.own id reporting ++ [reaction]) :
    Raising id spec old wiring' above atPager (layout.watchForm id reaction) := by
  have hform : (layout.watchForm id reaction).form id = (layout.form id).watchAll [reaction] := by
    rw [form_watchForm, if_pos rfl]
    rfl
  refine ⟨h.core, fun form hlt => ?_, h.pager, h.rests.watchAll rfl hform fun reporting => ?_, ?_,
    ?_, h.outbox⟩
  · rw [form_watchForm, if_neg (Nat.ne_of_gt hlt), h.before form hlt]
  · simp [hinside, hinside', hown]
  · rw [hform, Observable.value_watchAll]
    exact h.value
  · rw [hform, Observable.history_watchAll]
    exact h.history

/-- While a form is set up the form around it gets observers. -/
theorem Raising.watchAbove (h : Raising id spec old wiring above atPager layout)
    (linked : old.tree.Linked) {parent : NodeId} (haround : old.tree.formAround id = some parent)
    (reaction : FormReaction) :
    Raising id spec old wiring (above ++ [reaction]) atPager
      (layout.watchForm parent reaction) := by
  have hlt := linked.formAround_lt haround
  have hform : (layout.watchForm parent reaction).form id = layout.form id := by
    rw [form_watchForm, if_neg (Nat.ne_of_lt hlt)]
  refine ⟨h.core, fun form hbefore => ?_, h.pager, h.rests.congr rfl hform, ?_, ?_, h.outbox⟩
  · have hold := h.before form hbefore
    rw [form_watchForm]
    by_cases heq : parent = form
    · subst heq
      rw [if_pos rfl, hold, if_pos haround, if_pos haround, Observable.watchAll_append]
      rfl
    · have hne : ¬ old.tree.formAround id = some form := by
        rw [haround, Option.some.injEq]
        exact heq
      rw [if_neg heq, hold, if_neg hne, if_neg hne]
  · rw [hform]
    exact h.value
  · rw [hform]
    exact h.history

/-- While a form is set up the pager around it gets observers. -/
theorem Raising.watchAtPager (h : Raising id spec old wiring above atPager layout)
    {pager : NodeId} (haround : old.tree.pagerAround id = some pager) (reaction : PagerReaction) :
    Raising id spec old wiring above (atPager ++ [reaction])
      (layout.watchPager pager reaction) := by
  refine ⟨h.core, h.before, fun other => ?_, h.rests.congr rfl rfl, h.value, h.history, h.outbox⟩
  have hold := h.pager other
  rw [pager_watchPager]
  by_cases heq : pager = other
  · subst heq
    rw [if_pos rfl, hold, if_pos haround, if_pos haround, Observable.watchAll_append]
    rfl
  · have hne : ¬ old.tree.pagerAround id = some other := by
      rw [haround, Option.some.injEq]
      exact heq
    rw [if_neg heq, hold, if_neg hne, if_neg hne]

/-- A form whose rules look at a pager watches the pager around it. -/
theorem Raising.watchPagerAround (h : Raising id spec old wiring above [] layout)
    (wf : old.tree.WellFormed) :
    Raising id spec old wiring above
      (if (old.tree.rules id).hasPager = true then [.refresh id] else [])
      (match old.tree.pagerAround id with
        | some pager =>
          if (old.tree.rules id).hasPager = true then layout.watchPager pager (.refresh id)
          else layout
        | none => layout) := by
  cases hasPager : (old.tree.rules id).hasPager with
  | true =>
    obtain ⟨pager, hpager⟩ := Option.isSome_iff_exists.mp (wf.isSome_pagerAround hasPager)
    rw [hpager]
    exact h.watchAtPager hpager _
  | false => cases old.tree.pagerAround id <;> exact h

/-- A form with rules watches the form around it, if there is one. -/
theorem Raising.watchFormAround (h : Raising id spec old wiring above atPager layout)
    (linked : old.tree.Linked) (hrules : old.tree.rules id ≠ []) :
    Raising id spec old wiring
      (above ++ if old.tree.rules id = [] ∨ old.tree.formAround id = none then []
        else [.refresh id])
      atPager
      (match old.tree.formAround id with
        | some parent => layout.watchForm parent (.refresh id)
        | none => layout) := by
  cases hparent : old.tree.formAround id with
  | some parent => simpa [hrules] using h.watchAbove linked hparent (.refresh id)
  | none => simpa using h

/-- While a form is set up it announces its flags. -/
theorem Raising.announce (h : Raising id spec old wiring above atPager layout)
    (hsome : (old.tree.form? id).isSome) (status : FormStatus) :
    Raising id spec old wiring above atPager (layout.announce id status) := by
  obtain ⟨list, hlist, hqueue⟩ := h.outbox
  refine ⟨h.core, h.before, h.pager, h.rests.congr rfl rfl, h.value, h.history,
    list ++ [.trickle id (.validationUpdate id status)], fun dispatch hd => ?_, ?_⟩
  · rcases List.mem_append.mp hd with hd | hd
    · exact hlist dispatch hd
    · obtain rfl := List.mem_singleton.mp hd
      exact ⟨rfl, hsome⟩
  · rw [queue_announce, hqueue, List.append_assoc]

/-- The first stage: the form is tied to the form around it. -/
theorem raising_inheritance (wf : old.tree.WellFormed)
    (hform : old.tree.form? id = some (node, spec))
    (hunsubmitted : ∀ parent, old.tree.formAround id = some parent →
      (old.form parent).value.isSubmitted = false) :
    Raising id spec old ⟨false, false, []⟩
      (if old.tree.isChild id = true then [.inherit id] else []) []
      ((old.raise id spec).setUpInheritance id spec node.scope) := by
  have hisChild : old.tree.isChild id = spec.isChild := Tree.isChild_of_form? hform
  have haround : old.tree.formAround id = node.scope.form := by
    simp [Tree.formAround, (Tree.form?_eq_some.mp hform).1]
  have hsome : (old.tree.form? id).isSome := by simp [hform]
  unfold setUpInheritance
  cases hchild : spec.isChild with
  | false =>
    rw [hchild] at hisChild
    simp only [hisChild, Bool.false_eq_true, if_false]
    exact raising_other hisChild
  | true =>
    rw [hchild] at hisChild
    obtain ⟨parent, hparent⟩ := Option.isSome_iff_exists.mp (wf.isSome_formAround hisChild)
    have hlt := wf.linked.formAround_lt hparent
    have habove : (old.raise id spec).form parent = old.form parent := by
      rw [form_raise, if_neg (Nat.ne_of_gt hlt)]
    rw [haround] at hparent
    simp only [hisChild, hparent, if_true]
    refine ((raising_child hisChild).change wf hsome rfl
      (fun hrefreshes => absurd hrefreshes Bool.false_ne_true)
      (old.form parent).value.isEnabled ?_).1.watchAbove wf.linked
      (haround.trans hparent) (.inherit id)
    rw [habove, FormState.reduce, hunsubmitted parent (haround.trans hparent), Bool.or_false,
      form_raise, if_pos rfl]
    simp [FormState.start]

/-- A form that has been set up so far, and has rules, comes to their verdict. -/
theorem Raising.refresh (h : Raising id spec old wiring above atPager layout)
    (wf : old.tree.WellFormed) (hinside : wiring.inside = [])
    (hrefreshes : wiring.refreshes = true → (old.tree.rules id).hasForm = true)
    (hne : old.tree.rules id ≠ []) :
    Raising id spec old wiring above atPager (refresh (updateForm layout.depth) id layout) ∧
      (Layout.refresh (updateForm layout.depth) id layout).Ruled id := by
  have htree := h.tree_eq
  have hrules : layout.rulesHold id = layout.verdict id :=
    rulesHold_eq_verdict (htree ▸ wf) (htree ▸ hne)
  have hreduce : (layout.form id).value.reduce (.setEnabled (layout.verdict id)) =
      { (layout.form id).value with isEnabled := layout.verdict id } := rfl
  obtain ⟨hraising, hchange⟩ :=
    h.change wf (Tree.isSome_form?_of_rules hne) hinside hrefreshes _ hreduce
  rw [Layout.refresh, hrules]
  refine ⟨hraising, hchange.turn.ruled id (fun haround => ?_)
    (ruled_setEnabled (htree ▸ wf.linked))⟩
  have := wf.linked.formAround_lt (htree ▸ haround : old.tree.formAround id = some id)
  omega

/-- The second stage: a form with rules evaluates them whenever something that they look at
changes, and comes to their verdict. -/
theorem Raising.rules (h : Raising id spec old ⟨false, false, []⟩ above [] layout)
    (wf : old.tree.WellFormed) (hform : old.tree.form? id = some (node, spec)) :
    Raising id spec old ⟨(old.tree.rules id).hasForm, false, []⟩
      (above ++ if old.tree.rules id = [] ∨ old.tree.formAround id = none then []
        else [.refresh id])
      (if (old.tree.rules id).hasPager = true then [.refresh id] else [])
      (layout.setUpRules id (node.formRules spec) node.scope) ∧
    (layout.setUpRules id (node.formRules spec) node.scope).Ruled id := by
  have hrules : node.formRules spec = old.tree.rules id := by simp [Tree.rules, hform]
  have hnode := (Tree.form?_eq_some.mp hform).1
  have haround : node.scope.form = old.tree.formAround id := by simp [Tree.formAround, hnode]
  have hpagerAround : node.scope.pager = old.tree.pagerAround id := by
    simp [Tree.pagerAround, hnode]
  unfold setUpRules
  rw [hrules, haround, hpagerAround]
  by_cases hnil : old.tree.rules id = []
  · refine ⟨by simpa [hnil, EnableRules.hasForm, EnableRules.hasPager] using h, fun hne => ?_⟩
    simp only [hnil, if_true] at hne
    exact absurd (h.tree_eq ▸ hnil) hne
  · rw [if_neg hnil]
    dsimp only
    -- its own changes
    have hown : Raising id spec old ⟨(old.tree.rules id).hasForm, false, []⟩ above []
        (if (old.tree.rules id).hasForm = true then layout.watchForm id (.refresh id)
          else layout) := by
      cases hasForm : (old.tree.rules id).hasForm with
      | true => exact h.watchOwn rfl rfl fun reporting => by simp [Wiring.own]
      | false => exact h
    have htied := (hown.watchPagerAround wf).watchFormAround wf.linked hnil
    exact htied.refresh wf rfl (fun h => h) hnil

/-- **Setting up a form** wires it, ties it to what is around it, and lets it come to the verdict
of its rules; it announces its flags, and a nested form announces itself. -/
theorem raising_setUpForm (wf : old.tree.WellFormed)
    (hform : old.tree.form? id = some (node, spec))
    (hunsubmitted : ∀ parent, old.tree.formAround id = some parent →
      (old.form parent).value.isSubmitted = false) :
    ∃ layout, Raising id spec old ⟨(old.tree.rules id).hasForm, true, []⟩
        (if old.tree.formAround id = none then [] else old.tree.ties id)
        (if (old.tree.rules id).hasPager = true then [.refresh id] else []) layout ∧
      layout.Ruled id ∧
      old.setUpForm id node spec =
        if spec.isChild then layout.push (.bubble id (.formInit spec.id false)) else layout := by
  have hsome : (old.tree.form? id).isSome := by simp [hform]
  obtain ⟨hraising, hruled⟩ := (raising_inheritance wf hform hunsubmitted).rules wf hform
  generalize hlayout : ((old.raise id spec).setUpInheritance id spec node.scope).setUpRules id
    (node.formRules spec) node.scope = layout at hraising hruled
  have hannounced := (hraising.announce hsome (layout.form id).value.status).watchOwn rfl
    (rfl : (⟨(old.tree.rules id).hasForm, true, []⟩ : Wiring).inside = [])
    (fun reporting => by simp [Wiring.own] : ∀ reporting, _ = _ ++ [FormReaction.announce id])
  have hvalid : (((layout.announce id (layout.form id).value.status).watchForm id
      (.announce id)).form id).value.isValid = false := by
    rw [hannounced.value]
    rfl
  have hties : (if old.tree.isChild id = true then [FormReaction.inherit id] else []) ++
      (if old.tree.rules id = [] ∨ old.tree.formAround id = none then [] else [.refresh id]) =
      if old.tree.formAround id = none then [] else old.tree.ties id := by
    cases haround : old.tree.formAround id with
    | none =>
      have hchild : old.tree.isChild id = false := by
        refine Bool.eq_false_iff.mpr fun hc => ?_
        have := wf.isSome_formAround hc
        simp [haround] at this
      simp [hchild]
    | some parent => simp [Tree.ties]
  refine ⟨(layout.announce id (layout.form id).value.status).watchForm id (.announce id),
    hties ▸ hannounced, hruled.of_values rfl ?_ (fun around haround => ?_) fun _ => rfl, ?_⟩
  · rw [form_watchForm, if_pos rfl]
    rfl
  · have hlt := wf.linked.formAround_lt (hraising.tree_eq ▸ haround)
    rw [form_watchForm, if_neg (Nat.ne_of_gt hlt)]
    rfl
  · rw [← hvalid, ← hlayout]
    rfl

end Raising

end Layout

end FormTree

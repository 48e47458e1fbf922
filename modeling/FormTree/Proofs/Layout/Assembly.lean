import FormTree.Proofs.Layout.Raising

set_option autoImplicit false

/-!
# Setting up a layout

The nodes of a layout are set up in tree order. When a node is set up, the forms before it are
wired as far as the forms before the node go. Once all nodes are set up, every form and every pager
is fully wired: the layout is sound, and its forms carry the verdicts of their rules. In the outbox
wait the announcements of flags and positions and, in tree order, the dispatches by which inputs
and nested forms announce themselves.

## Main definitions

* `FormTree.Tree.entrances` — the dispatches by which a node announces itself and its data.
* `FormTree.Layout.Assembled` — a layout whose nodes are set up as far as a number.

## Main results

* `FormTree.Layout.assembled_build` — after setting up, all nodes are set up.
* `FormTree.Layout.Assembled.sound` — such a layout is sound.
-/

namespace FormTree

/-! ## Setting up all nodes -/

/-- The dispatch is one by which an input or a nested form announces itself or its data. -/
def Dispatch.isEntrance : Dispatch → Bool
  | .bubble _ (.formInit _ _) | .bubble _ (.inputInit _ _ _) | .bubble _ (.dataChange _) => true
  | _ => false

/-- The dispatches by which the node `id` announces itself and its data. -/
def Tree.entrances (tree : Tree) (id : NodeId) : List Dispatch :=
  match tree.view? id with
  | some (.input spec) =>
    [.bubble id (.inputInit spec.id spec.kind.viewType (spec.isValid spec.kind.emptyAnswer)),
      .bubble id (.dataChange (spec.entry spec.kind.emptyAnswer))]
  | some (.form spec) => if spec.isChild then [.bubble id (.formInit spec.id false)] else []
  | _ => []

theorem Tree.entrances_form {tree : Tree} {id : NodeId} {spec : FormSpec}
    (hview : tree.view? id = some (.form spec)) : tree.entrances id =
      if spec.isChild then [.bubble id (.formInit spec.id false)] else [] := by
  rw [Tree.entrances, hview]

/-- An announcement of flags or positions is none of data. -/
theorem Dispatch.IsAnnouncement.isEntrance {tree : Tree} {dispatch : Dispatch}
    (h : dispatch.IsAnnouncement tree) : dispatch.isEntrance = false := by
  cases dispatch <;> first | rfl | cases h

namespace Layout

/-- A form that has just been set up: nothing but its enabled flag has changed. -/
structure Fresh (spec : FormSpec) (state : Observable FormState FormReaction) : Prop where
  value : state.value = { FormState.start spec.id spec.formType spec.responseType with
    isEnabled := state.value.isEnabled }
  history : ∀ snapshot ∈ state.history, snapshot.isSubmitted = false

/-- The nodes before `bound` are set up. -/
structure Assembled (environment : Environment) (tree : Tree) (bound : NodeId) (layout : Layout) :
    Prop where
  core : layout.core = ({ tree, environment, answers := layout.answers } : Layout).core
  rests : ∀ id, id < bound → (tree.form? id).isSome →
    layout.RestsWith id (tree.wiringUpTo bound id)
  fresh : ∀ id node spec, id < bound → tree.form? id = some (node, spec) →
    Fresh spec (layout.form id)
  ruled : ∀ id, id < bound → layout.Ruled id
  pagers : ∀ id, id < bound → tree.isPager id = true → (layout.pager id).pending = [] ∧
    (layout.pager id).isDelivering = false ∧
    (layout.pager id).observers.map (·.reaction) =
      .announce id :: (tree.lookersUpTo bound id).map .refresh
  answers : ∀ id spec, id < bound → tree.view? id = some (.input spec) →
    layout.answers.get id = spec.kind.emptyAnswer
  /-- Every input and every nested form has announced itself. -/
  entrances : layout.outbox.queue.filter (·.isEntrance) =
    (List.range bound).flatMap tree.entrances
  /-- All else in the outbox are announcements of flags and positions. -/
  announcements : ∀ dispatch ∈ layout.outbox.queue, dispatch.isEntrance = false →
    dispatch.IsAnnouncement tree

section Assembled

variable {environment : Environment} {tree : Tree} {id : NodeId} {node : Node} {layout : Layout}

theorem Assembled.tree_eq (h : Assembled environment tree id layout) : layout.tree = tree :=
  tree_of_core h.core

/-- Before any node is set up. -/
theorem assembled_zero (environment : Environment) (tree : Tree) :
    Assembled environment tree 0 { tree, environment } where
  core := rfl
  rests := by simp
  fresh := by simp
  ruled := by simp
  pagers := by simp
  answers := by simp
  entrances := rfl
  announcements := by simp

/-- The entrances grow by those of the next node. -/
theorem entrances_succ {queue more : List Dispatch}
    (h : queue.filter (·.isEntrance) = (List.range id).flatMap tree.entrances)
    (hmore : more.filter (·.isEntrance) = tree.entrances id) :
    (queue ++ more).filter (·.isEntrance) = (List.range (id + 1)).flatMap tree.entrances := by
  rw [List.filter_append, h, hmore, List.range_succ, List.flatMap_append]
  simp

/-- A node that is no form has no rules. -/
theorem rules_eq_nil (hid : tree.form? id = none) : tree.rules id = [] := by
  simp [Tree.rules, hid]

/-- A node that is no form is in no wiring. -/
theorem wiringUpTo_of_not_form (hid : tree.form? id = none) (form : NodeId) :
    tree.wiringUpTo (id + 1) form = tree.wiringUpTo id form := by
  simp [Tree.wiringUpTo, Tree.insideUpTo_succ, hid]

theorem lookersUpTo_of_not_form (hid : tree.form? id = none) (pager : NodeId) :
    tree.lookersUpTo (id + 1) pager = tree.lookersUpTo id pager := by
  simp [Tree.lookersUpTo_succ, rules_eq_nil hid, EnableRules.hasPager]

theorem lt_of_lt_succ {form : NodeId} (hlt : form < id + 1) (hne : form ≠ id) : form < id :=
  Nat.lt_of_le_of_ne (Nat.le_of_lt_succ hlt) hne

/-- **Setting up a node that is neither a form nor a pager** leaves forms and pagers alone. -/
theorem Assembled.other (h : Assembled environment tree id layout) (hform : tree.form? id = none)
    (hpager : tree.isPager id = false) {layout' : Layout}
    (hcore : layout'.core = ({ tree, environment, answers := layout'.answers } : Layout).core)
    (hforms : ∀ form, layout'.form form = layout.form form)
    (hpagers : ∀ pager, layout'.pager pager = layout.pager pager)
    (hanswers : ∀ input spec, input < id + 1 → tree.view? input = some (.input spec) →
      layout'.answers.get input = spec.kind.emptyAnswer)
    (hqueue : layout'.outbox.queue = layout.outbox.queue ++ tree.entrances id)
    (hentrances : ∀ dispatch ∈ tree.entrances id, dispatch.isEntrance = true) :
    Assembled environment tree (id + 1) layout' := by
  have htree : layout'.tree = layout.tree := (tree_of_core hcore).trans h.tree_eq.symm
  refine ⟨hcore, fun form hlt hsome => ?_, fun form node spec hlt hf => ?_, fun form hlt => ?_,
    fun pager hlt hp => ?_, hanswers, ?_, fun dispatch hd hdata => ?_⟩
  · have hne : form ≠ id := by
      rintro rfl
      simp [hform] at hsome
    rw [wiringUpTo_of_not_form hform]
    exact (h.rests form (lt_of_lt_succ hlt hne) hsome).congr htree (hforms form)
  · have hne : form ≠ id := by
      rintro rfl
      simp [hform] at hf
    rw [hforms]
    exact h.fresh form node spec (lt_of_lt_succ hlt hne) hf
  · by_cases hne : form = id
    · intro hrules
      rw [tree_of_core hcore, hne] at hrules
      exact absurd (rules_eq_nil hform) hrules
    · exact (h.ruled form (lt_of_lt_succ hlt hne)).of_values htree (by rw [hforms])
        (fun _ _ => by rw [hforms]) fun _ => by rw [hpagers]
  · have hne : pager ≠ id := by
      rintro rfl
      simp [hpager] at hp
    rw [hpagers, lookersUpTo_of_not_form hform]
    exact h.pagers pager (lt_of_lt_succ hlt hne) hp
  · rw [hqueue]
    exact entrances_succ h.entrances (List.filter_eq_self.mpr hentrances)
  · rw [hqueue] at hd
    rcases List.mem_append.mp hd with hd | hd
    · exact h.announcements dispatch hd hdata
    · rw [hentrances dispatch hd] at hdata
      cases hdata

/-- A pager that is set up holds its first state and has its announcer. -/
theorem pager_setUpPager (layout : Layout) (id : NodeId) (spec : PagerSpec) (pages : Nat)
    (other : NodeId) : (layout.setUpPager id spec pages).pager other =
      if id = other then
        ({ value := PagerState.start spec.id (UInt64.ofNat pages) } :
          Observable PagerState PagerReaction).watch (.announce id)
      else layout.pager other := by
  rw [setUpPager, pager_watchPager]
  show (if id = other then Observable.watch ((layout.pagers.set id _).get id) _
    else (layout.pagers.set id _).get other) = _
  rw [Table.get_set, Table.get_set, if_pos rfl]
  split
  · rfl
  · rfl

/-- **Setting up a pager**: it starts at its first page, and announces its position. -/
theorem Assembled.pager (h : Assembled environment tree id layout) (wf : tree.WellFormed)
    {spec : PagerSpec} (hview : tree.view? id = some (.pager spec)) (pages : Nat) :
    Assembled environment tree (id + 1) (layout.setUpPager id spec pages) := by
  have hform : tree.form? id = none := by
    obtain ⟨node, hnode, hv⟩ := Option.map_eq_some_iff.mp hview
    simp [Tree.form?, hnode, hv]
  have hpager : tree.isPager id = true := by simp [Tree.isPager, hview, View.kind]
  have hentrances : tree.entrances id = [] := by simp [Tree.entrances, hview]
  have hpagers := layout.pager_setUpPager id spec pages
  refine ⟨h.core, fun form hlt hsome => ?_, fun form node spec hlt hf => ?_, fun form hlt => ?_,
    fun pager hlt hp => ?_, fun input spec hlt hv => ?_, ?_, fun dispatch hd hdata => ?_⟩
  · have hne : form ≠ id := by
      rintro rfl
      simp [hform] at hsome
    rw [wiringUpTo_of_not_form hform]
    exact (h.rests form (lt_of_lt_succ hlt hne) hsome).congr rfl rfl
  · have hne : form ≠ id := by
      rintro rfl
      simp [hform] at hf
    exact h.fresh form node spec (lt_of_lt_succ hlt hne) hf
  · intro hrules
    have hne : form ≠ id := by
      rintro rfl
      exact hrules (h.tree_eq ▸ rules_eq_nil hform)
    have hbefore := lt_of_lt_succ hlt hne
    have hverdict : (layout.setUpPager id spec pages).verdict form = layout.verdict form := by
      refine verdict_congr rfl (fun _ _ => rfl) rfl rfl fun _ pager haround => ?_
      have := (wf.linked.pagerAround_spec (h.tree_eq ▸ haround)).1
      rw [hpagers, if_neg (by unfold NodeId at *; omega)]
    rw [hverdict]
    exact h.ruled form hbefore hrules
  · rw [hpagers]
    by_cases hne : pager = id
    · subst hne
      rw [if_pos rfl, Tree.lookersUpTo_self wf.linked]
      exact ⟨rfl, rfl, rfl⟩
    · rw [if_neg (Ne.symm hne), lookersUpTo_of_not_form hform]
      exact h.pagers pager (lt_of_lt_succ hlt hne) hp
  · have hne : input ≠ id := by
      rintro rfl
      simp [hview] at hv
    exact h.answers input spec (lt_of_lt_succ hlt hne) hv
  · exact entrances_succ h.entrances (by rw [hentrances]; rfl)
  · rcases List.mem_append.mp hd with hd | hd
    · exact h.announcements dispatch hd hdata
    · obtain rfl := List.mem_singleton.mp hd
      exact ⟨rfl, hpager⟩

/-- A form that is set up unsubmitted. -/
theorem Fresh.isSubmitted {spec : FormSpec} {state : Observable FormState FormReaction}
    (h : Fresh spec state) : state.value.isSubmitted = false := by
  rw [h.value]
  rfl

/-- The form `id` was set up in `old`: it is wired up to itself and carries its verdict, and what is
around it carries its observers. -/
structure FormSetUp (id : NodeId) (spec : FormSpec) (old layout : Layout) : Prop where
  core : layout.core = old.core
  before : ∀ form, form < id → layout.form form =
    (old.form form).watchAll (if old.tree.formAround id = some form then old.tree.ties id else [])
  pager : ∀ pager, layout.pager pager =
    (old.pager pager).watchAll (if old.tree.pagerAround id = some pager then
      if (old.tree.rules id).hasPager = true then [.refresh id] else [] else [])
  rests : layout.RestsWith id ⟨(old.tree.rules id).hasForm, true, []⟩
  fresh : Fresh spec (layout.form id)
  ruled : layout.Ruled id
  /-- Announcements go into the outbox, and then that there is a nested form. -/
  outbox : ∃ announcements, (∀ dispatch ∈ announcements, dispatch.IsAnnouncement old.tree) ∧
    layout.outbox.queue = old.outbox.queue ++ announcements ++ old.tree.entrances id

theorem formSetUp {old : Layout} {spec : FormSpec} (wf : old.tree.WellFormed)
    (hform : old.tree.form? id = some (node, spec))
    (hunsubmitted : ∀ parent, old.tree.formAround id = some parent →
      (old.form parent).value.isSubmitted = false) :
    FormSetUp id spec old (old.setUpForm id node spec) := by
  have hview : old.tree.view? id = some (.form spec) := by
    obtain ⟨hnode, hv⟩ := Tree.form?_eq_some.mp hform
    simp [Tree.view?, hnode, hv]
  obtain ⟨raised, hraising, hruled, hsetUp⟩ := raising_setUpForm wf hform hunsubmitted
  -- what remains is the announcement of a nested form, which no state shows
  have hforms : ∀ form, (old.setUpForm id node spec).form form = raised.form form := by
    intro form
    rw [hsetUp]
    split <;> rfl
  have hpagers : ∀ pager, (old.setUpForm id node spec).pager pager = raised.pager pager := by
    intro pager
    rw [hsetUp]
    split <;> rfl
  have hcore : (old.setUpForm id node spec).core = raised.core := by
    rw [hsetUp]
    split <;> rfl
  have htree : (old.setUpForm id node spec).tree = raised.tree := tree_of_core hcore
  obtain ⟨announcements, hannouncements, houtbox⟩ := hraising.outbox
  refine ⟨hcore.trans hraising.core, fun form hlt => ?_, fun pager => ?_, ?_, ?_, ?_,
    announcements, hannouncements, ?_⟩
  · rw [hforms, hraising.before form hlt]
    by_cases haround : old.tree.formAround id = some form
    · simp [haround]
    · simp [haround]
  · rw [hpagers, hraising.pager]
  · exact hraising.rests.congr htree (hforms id)
  · rw [hforms]
    exact ⟨hraising.value, hraising.history⟩
  · exact hruled.of_values htree (by rw [hforms]) (fun _ _ => by rw [hforms])
      fun _ => by rw [hpagers]
  · rw [hsetUp, Tree.entrances_form hview, ← houtbox]
    cases spec.isChild <;> simp

section FormSetUp

variable {layout' : Layout} {spec : FormSpec}

theorem FormSetUp.tree_eq (h : FormSetUp id spec layout layout') : layout'.tree = layout.tree :=
  tree_of_core h.core

/-- Forms before the one that is set up keep their states. -/
theorem FormSetUp.value (h : FormSetUp id spec layout layout') {form : NodeId} (hlt : form < id) :
    (layout'.form form).value = (layout.form form).value := by
  rw [h.before form hlt, Observable.value_watchAll]

theorem Assembled.rests_formSetUp (h : Assembled environment tree id layout)
    (linked : tree.Linked) (hsome : (tree.form? id).isSome)
    (hsetUp : FormSetUp id spec layout layout') {form : NodeId} (hlt : form < id + 1)
    (hform : (tree.form? form).isSome) :
    layout'.RestsWith form (tree.wiringUpTo (id + 1) form) := by
  have htree := h.tree_eq
  by_cases hne : form = id
  · subst hne
    have hwiring : tree.wiringUpTo (form + 1) form = ⟨(tree.rules form).hasForm, true, []⟩ := by
      rw [Tree.wiringUpTo, Tree.insideUpTo_self linked]
    rw [hwiring, ← htree]
    exact hsetUp.rests
  · have hbefore := lt_of_lt_succ hlt hne
    refine (h.rests form hbefore hform).watchAll hsetUp.tree_eq (hsetUp.before form hbefore)
      fun reporting => ?_
    -- the observers of the form inside come last
    have hinside : (tree.wiringUpTo (id + 1) form).inside = (tree.wiringUpTo id form).inside ++
        if (tree.form? id).isSome = true ∧ tree.formAround id = some form then [id] else [] :=
      Tree.insideUpTo_succ
    rw [htree, List.append_assoc, hinside, List.flatMap_append]
    refine congrArg (_ ++ ·) (congrArg (_ ++ ·) ?_)
    by_cases haround : tree.formAround id = some form
    · simp [hsome, haround]
    · simp [haround]

theorem Assembled.ruled_formSetUp (h : Assembled environment tree id layout)
    (linked : tree.Linked) (hsetUp : FormSetUp id spec layout layout') {form : NodeId}
    (hlt : form < id + 1) : layout'.Ruled form := by
  by_cases hne : form = id
  · exact hne ▸ hsetUp.ruled
  · have hbefore := lt_of_lt_succ hlt hne
    refine (h.ruled form hbefore).of_values hsetUp.tree_eq (hsetUp.value hbefore)
      (fun around haround => hsetUp.value ?_) fun pager => ?_
    · have := linked.formAround_lt (h.tree_eq ▸ haround)
      unfold NodeId at *
      omega
    · rw [hsetUp.pager, Observable.value_watchAll]

theorem Assembled.pagers_formSetUp (h : Assembled environment tree id layout)
    (hsetUp : FormSetUp id spec layout layout') {pager : NodeId} (hlt : pager < id)
    (hpager : tree.isPager pager = true) : (layout'.pager pager).pending = [] ∧
      (layout'.pager pager).isDelivering = false ∧
      (layout'.pager pager).observers.map (·.reaction) =
        .announce pager :: (tree.lookersUpTo (id + 1) pager).map .refresh := by
  obtain ⟨hpending, hdelivering, hreactions⟩ := h.pagers pager hlt hpager
  rw [hsetUp.pager, h.tree_eq]
  refine ⟨by rwa [Observable.pending_watchAll], by rwa [Observable.isDelivering_watchAll], ?_⟩
  rw [Observable.reactions_watchAll, hreactions, Tree.lookersUpTo_succ]
  by_cases haround : tree.pagerAround id = some pager
  · cases hlooks : (tree.rules id).hasPager <;> simp [haround]
  · simp [haround]

end FormSetUp

/-- Nothing is submitted before all nodes are set up. -/
theorem Assembled.unsubmitted_around (h : Assembled environment tree id layout)
    (linked : tree.Linked) {parent : NodeId} (haround : tree.formAround id = some parent) :
    (layout.form parent).value.isSubmitted = false := by
  obtain ⟨hlt, hparent⟩ := linked.formAround_spec haround
  obtain ⟨⟨parentNode, parentSpec⟩, hp⟩ := Option.isSome_iff_exists.mp hparent
  exact (h.fresh parent parentNode parentSpec hlt hp).isSubmitted

theorem Assembled.formSetUp (h : Assembled environment tree id layout) (wf : tree.WellFormed)
    {spec : FormSpec} (hform : tree.form? id = some (node, spec)) :
    FormSetUp id spec layout (layout.setUpForm id node spec) := by
  have htree := h.tree_eq
  exact Layout.formSetUp (htree ▸ wf) (htree ▸ hform) fun parent haround =>
    h.unsubmitted_around wf.linked (htree ▸ haround)

/-- **Setting up a form.** The forms before it are wired as far as this form goes. -/
theorem Assembled.form (h : Assembled environment tree id layout) (wf : tree.WellFormed)
    {spec : FormSpec} (hform : tree.form? id = some (node, spec)) :
    Assembled environment tree (id + 1) (layout.setUpForm id node spec) := by
  have htree := h.tree_eq
  have hsome : (tree.form? id).isSome := by simp [hform]
  have hview : tree.view? id = some (.form spec) := by
    obtain ⟨hnode, hv⟩ := Tree.form?_eq_some.mp hform
    simp [Tree.view?, hnode, hv]
  have hsetUp := h.formSetUp wf hform
  have hanswers : (layout.setUpForm id node spec).answers = layout.answers :=
    (congrArg Layout.answers hsetUp.core :)
  obtain ⟨announcements, hannouncements, houtbox⟩ := hsetUp.outbox
  rw [htree] at hannouncements houtbox
  refine ⟨(hsetUp.core.trans h.core).trans (by rw [hanswers]),
    fun form hlt hf => h.rests_formSetUp wf.linked hsome hsetUp hlt hf,
    fun form node' spec' hlt hf => ?_, fun form hlt => h.ruled_formSetUp wf.linked hsetUp hlt,
    fun pager hlt hp => h.pagers_formSetUp hsetUp (lt_of_lt_succ hlt ?_) hp,
    fun input spec' hlt hv => ?_, ?_, fun dispatch hd hdata => ?_⟩
  · by_cases hne : form = id
    · subst hne
      rw [hform] at hf
      cases hf
      exact hsetUp.fresh
    · have hbefore := lt_of_lt_succ hlt hne
      obtain ⟨hvalue, hhistory⟩ := h.fresh form node' spec' hbefore hf
      rw [hsetUp.before form hbefore]
      exact ⟨by rwa [Observable.value_watchAll], by rwa [Observable.history_watchAll]⟩
  · rintro rfl
    simp [Tree.isPager, hview, View.kind] at hp
  · have hne : input ≠ id := by
      rintro rfl
      simp [hview] at hv
    rw [hanswers]
    exact h.answers input spec' (lt_of_lt_succ hlt hne) hv
  · rw [houtbox, List.append_assoc]
    refine entrances_succ h.entrances ?_
    rw [List.filter_append, List.filter_eq_nil_iff.mpr fun dispatch hd => by
      simp [(hannouncements dispatch hd).isEntrance], List.nil_append, Tree.entrances_form hview]
    cases spec.isChild <;> rfl
  · rw [houtbox] at hd
    rcases List.mem_append.mp hd with hd | hd
    · rcases List.mem_append.mp hd with hd | hd
      · exact h.announcements dispatch hd hdata
      · exact hannouncements dispatch hd
    · rw [Tree.entrances_form hview] at hd
      cases hchild : spec.isChild with
      | true =>
        obtain rfl : dispatch = .bubble id (.formInit spec.id false) := by simpa [hchild] using hd
        cases hdata
      | false => simp [hchild] at hd

/-- **Setting up the next node.** -/
theorem Assembled.setUp (h : Assembled environment tree id layout) (wf : tree.WellFormed)
    (hlt : id < tree.size) : Assembled environment tree (id + 1) (layout.setUp id) := by
  obtain ⟨node, hnode⟩ := Tree.exists_node hlt
  have hview : tree.view? id = some node.view := by simp [Tree.view?, hnode]
  unfold Layout.setUp
  rw [h.tree_eq, hnode]
  dsimp only
  have hother : ∀ view, node.view = view → view.kind ≠ .form → view.kind ≠ .pager →
      tree.form? id = none ∧ tree.isPager id = false := by
    rintro view rfl hf hp
    constructor
    · cases hform : tree.form? id with
      | none => rfl
      | some form =>
        obtain ⟨hn, hv⟩ := Tree.form?_eq_some.mp hform
        rw [hnode] at hn
        cases hn
        rw [hv] at hf
        exact absurd rfl hf
    · rw [Tree.isPager, hview]
      simpa using hp
  have hkeeps : ∀ input spec, input < id + 1 → input ≠ id →
      tree.view? input = some (.input spec) →
      layout.answers.get input = spec.kind.emptyAnswer := fun input spec hlt hne hv =>
    h.answers input spec (lt_of_lt_succ hlt hne) hv
  cases hv : node.view with
  | form spec => exact h.form wf (Tree.form?_eq_some.mpr ⟨hnode, hv⟩)
  | pager spec => exact h.pager wf (hv ▸ hview) _
  | input spec =>
    obtain ⟨hform, hpager⟩ := hother _ hv (by simp [View.kind]) (by simp [View.kind])
    rw [hv] at hview
    refine h.other hform hpager ?_ (fun _ => rfl) (fun _ => rfl) (fun input spec' hi hs => ?_) ?_
      (by simp [Tree.entrances, hview, Dispatch.isEntrance])
    · exact (congrArg (fun core : Layout => { core with
        answers := layout.answers.set id spec.kind.emptyAnswer }) h.core :)
    · show (layout.answers.set id spec.kind.emptyAnswer).get input = _
      by_cases hne : input = id
      · subst hne
        rw [hview] at hs
        cases hs
        rw [Table.get_set_self]
      · rw [Table.get_set_of_ne _ (Ne.symm hne)]
        exact hkeeps input spec' hi hne hs
    · simp [Tree.entrances, hview, setUpInput, pushAll, push]
  | _ =>
    obtain ⟨hform, hpager⟩ := hother _ hv (by simp [View.kind]) (by simp [View.kind])
    rw [hv] at hview
    refine h.other hform hpager h.core (fun _ => rfl) (fun _ => rfl) (fun input spec' hi hs => ?_)
      (by simp [Tree.entrances, hview]) (by simp [Tree.entrances, hview])
    refine hkeeps input spec' hi ?_ hs
    rintro rfl
    rw [hview] at hs
    cases hs

/-- After setting up the first nodes, these are set up. -/
theorem assembled_upTo (environment : Environment) (wf : tree.WellFormed) {bound : Nat}
    (hle : bound ≤ tree.size) : Assembled environment tree bound
      ((List.range bound).foldl Layout.setUp { tree, environment }) := by
  induction bound with
  | zero => exact assembled_zero environment tree
  | succ bound ih =>
    rw [List.range_succ, List.foldl_append]
    exact (ih (Nat.le_of_succ_le hle)).setUp wf hle

/-- **After setting up, all nodes are set up.** -/
theorem assembled_build (environment : Environment) (wf : tree.WellFormed) :
    Assembled environment tree tree.size (build environment tree) :=
  assembled_upTo environment wf (Nat.le_refl _)

/-- **A layout whose nodes are all set up is sound.** -/
theorem Assembled.sound (h : Assembled environment tree tree.size layout) (wf : tree.WellFormed) :
    layout.Sound where
  wf := h.tree_eq ▸ wf
  rests id hsome := by
    rw [Rests, h.tree_eq] at *
    exact h.rests id (Tree.lt_size_of_form? hsome) hsome
  pagers id hpager := by
    rw [h.tree_eq] at hpager
    have hlt : id < tree.size := by
      cases hnode : tree.node? id with
      | some node => exact Tree.lt_size hnode
      | none => simp [Tree.isPager, Tree.view?, hnode] at hpager
    obtain ⟨hp, hd, hr⟩ := h.pagers id hlt hpager
    exact ⟨hp, hd, by rw [hr, h.tree_eq]; rfl⟩

end Assembled

end Layout

end FormTree

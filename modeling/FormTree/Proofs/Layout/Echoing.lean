import FormTree.Proofs.Layout.Outsiders
import Mathlib.Data.List.Destutter

set_option autoImplicit false

/-!
# Announcements echo commits

What a form has announced are the flags of what it has committed, with repetitions left out, as far
as the commits have been taken to its announcer. The others are in delivery, with the announcer
still to come, or pending. This holds whatever the layout undergoes, also in the middle of
deliveries: another form is changed, which leaves the form alone, or the form is changed, which adds
to what is pending, or its announcer is called, which comes next in the order of the commits.

## Main definitions

* `FormTree.Tracks` — a form with its announcer, while its snapshots are taken to the announcer.
* `FormTree.Layout.Echoes` — a layout in which a form does so.

## Main results

* `List.destutter_concat` — leaving out repetitions goes from the front to the back.
* `FormTree.Layout.Echoes.errandEnds` — changes with all that follows keep this.
* `FormTree.Layout.Echoes.undergoes` — so does all that may happen to a layout.
-/

namespace List

variable {α : Type} [DecidableEq α]

lemma getLast?_destutter' (first : α) (rest : List α) :
    (rest.destutter' (· ≠ ·) first).getLast? = (first :: rest).getLast? := by
  induction rest generalizing first with
  | nil => rfl
  | cons second rest ih =>
    rw [getLast?_cons_cons, destutter'_cons]
    split
    · rw [getLast?_cons, ih, getLast?_cons, Option.getD_some]
    · next h => rw [ih, not_not.mp h]

/-- The last element stays the last when repetitions are left out. -/
theorem getLast?_destutter (list : List α) :
    (list.destutter (· ≠ ·)).getLast? = list.getLast? := by
  cases list with
  | nil => rfl
  | cons first rest => exact getLast?_destutter' first rest

lemma destutter'_concat (first : α) (rest : List α) (next : α) :
    (rest ++ [next]).destutter' (· ≠ ·) first = rest.destutter' (· ≠ ·) first ++
      if (first :: rest).getLast? = some next then [] else [next] := by
  induction rest generalizing first with
  | nil =>
    rw [nil_append, destutter'_singleton, destutter'_nil, getLast?_singleton]
    by_cases h : first = next <;> simp [h]
  | cons second rest ih =>
    rw [cons_append, getLast?_cons_cons, destutter'_cons, destutter'_cons]
    split
    · rw [ih, cons_append]
    · next h => rw [ih, not_not.mp h]

/-- Repetitions may be left out from the front to the back: another element is left out if it equals
the last one. -/
theorem destutter_concat (list : List α) (next : α) :
    (list ++ [next]).destutter (· ≠ ·) = list.destutter (· ≠ ·) ++
      if list.getLast? = some next then [] else [next] := by
  cases list with
  | nil => simp
  | cons first rest => exact destutter'_concat first rest next

end List

namespace FormTree

/-! ## One form -/

/-- The form `id` was created as `created`, and the observer `number` announces its flags. It is
being delivered if `untold` is there, and `untold` lists the snapshot in delivery as long as its
announcer has not had its turn. What has been announced are the flags of all snapshots before, with
repetitions left out. -/
structure Tracks (id : NodeId) (number : Nat) (created : Observable FormState FormReaction)
    (untold : Option (List FormState)) (announced : List FormStatus)
    (state : Observable FormState FormReaction) : Prop where
  isDelivering : state.isDelivering = untold.isSome
  /-- Where no delivery is in progress, everything has been delivered. -/
  pending : untold = none → state.pending = []
  mem : ⟨number, .announce id⟩ ∈ state.observers
  announcer : ∀ observer ∈ state.observers,
    observer.id = number ↔ observer.reaction = .announce id
  nodup : (state.observers.map (·.id)).Nodup
  lt_next : ∀ observer ∈ state.observers, observer.id < state.nextObserver
  log : ∃ told, state.history = created.history ++ (told ++ (untold.getD [] ++ state.pending)) ∧
    (created.value :: (told ++ (untold.getD [] ++ state.pending))).getLast? = some state.value ∧
    announced = (created.value.status :: told.map (·.status)).destutter (· ≠ ·)

namespace Tracks

variable {id : NodeId} {number : Nat} {created state : Observable FormState FormReaction}
  {untold untold' : Option (List FormState)} {announced : List FormStatus} {snapshot : FormState}

/-- Where the observers stay as they are, only the log has to be accounted for. -/
lemma of_observers (h : Tracks id number created untold announced state)
    (state' : Observable FormState FormReaction) (hobservers : state'.observers = state.observers)
    (hnext : state'.nextObserver = state.nextObserver) {announced' : List FormStatus}
    (hdelivering : state'.isDelivering = untold'.isSome)
    (hpending : untold' = none → state'.pending = [])
    (hlog : ∃ told,
      state'.history = created.history ++ (told ++ (untold'.getD [] ++ state'.pending)) ∧
      (created.value :: (told ++ (untold'.getD [] ++ state'.pending))).getLast? =
        some state'.value ∧
      announced' = (created.value.status :: told.map (·.status)).destutter (· ≠ ·)) :
    Tracks id number created untold' announced' state' where
  isDelivering := hdelivering
  pending := hpending
  mem := hobservers ▸ h.mem
  announcer := hobservers ▸ h.announcer
  nodup := hobservers ▸ h.nodup
  lt_next := by
    rw [hobservers, hnext]
    exact h.lt_next
  log := hlog

/-! ### Deliveries -/

/-- What is committed is pending. -/
lemma log_commit (h : Tracks id number created untold announced state) (next : FormState) :
    ∃ told, (state.commit next).history =
        created.history ++ (told ++ (untold.getD [] ++ (state.commit next).pending)) ∧
      (created.value :: (told ++ (untold.getD [] ++ (state.commit next).pending))).getLast? =
        some (state.commit next).value ∧
      announced = (created.value.status :: told.map (·.status)).destutter (· ≠ ·) := by
  obtain ⟨told, hhistory, hlast, hannounced⟩ := h.log
  refine ⟨told, ?_, ?_, hannounced⟩
  · rw [Observable.history_commit, Observable.pending_commit, hhistory]
    simp only [List.append_assoc]
  · rw [Observable.pending_commit, Observable.value_commit, Observable.added]
    split
    · next hsame => rw [List.append_nil, hlast, hsame]
    · simp only [← List.append_assoc, ← List.cons_append, List.getLast?_concat]

/-- **While the form is being delivered**, another commit waits. -/
theorem commit (h : Tracks id number created untold announced state) (hsome : untold.isSome)
    (next : FormState) : Tracks id number created untold announced (state.commit next) :=
  h.of_observers _ (Observable.observers_commit _ _) (Observable.nextObserver_commit _ _)
    ((Observable.isDelivering_commit _ _).trans h.isDelivering)
    (fun hnone => by rw [hnone] at hsome; cases hsome) (h.log_commit next)

/-- **Otherwise its delivery starts.** -/
theorem start (h : Tracks id number created none announced state) (next : FormState) :
    Tracks id number created (some []) announced { state.commit next with isDelivering := true } :=
  h.of_observers { state.commit next with isDelivering := true } (Observable.observers_commit _ _)
    (Observable.nextObserver_commit _ _) rfl nofun (h.log_commit next)

/-- **When a round starts**, its snapshot is in delivery. -/
theorem pop (h : Tracks id number created (some []) announced state) {pending : List FormState}
    (hpending : state.pending = snapshot :: pending) :
    Tracks id number created (some [snapshot]) announced { state with pending } := by
  refine h.of_observers { state with pending } rfl rfl h.isDelivering nofun ?_
  have hlog := h.log
  rw [hpending] at hlog
  exact hlog

/-- **When nothing is pending any more**, everything has been told. -/
theorem rest (h : Tracks id number created (some []) announced state)
    (hpending : state.pending = []) :
    Tracks id number created none announced { state with isDelivering := false } :=
  h.of_observers { state with isDelivering := false } rfl rfl rfl (fun _ => hpending) h.log

/-- **The announcer announces the flags of the snapshot in delivery**, unless these are the flags
that it announced last. -/
theorem announce (h : Tracks id number created (some [snapshot]) announced state) :
    Tracks id number created (some [])
      (announced ++ if announced.getLast? = some snapshot.status then [] else [snapshot.status])
      state := by
  refine h.of_observers _ rfl rfl h.isDelivering nofun ?_
  obtain ⟨told, hhistory, hlast, hannounced⟩ := h.log
  refine ⟨told ++ [snapshot], ?_, ?_, ?_⟩
  · rw [hhistory]
    simp
  · rw [← hlast]
    simp
  · rw [List.map_append, List.map_singleton, ← List.cons_append, List.destutter_concat, hannounced,
      List.getLast?_destutter]

/-! ### Observers -/

/-- Somebody else observes the form. -/
theorem watch (h : Tracks id number created untold announced state) {reaction : FormReaction}
    (hreaction : reaction ≠ .announce id) :
    Tracks id number created untold announced (state.watch reaction) where
  isDelivering := h.isDelivering
  pending := h.pending
  mem := List.mem_append_left _ h.mem
  announcer observer hobserver := by
    rcases List.mem_append.mp hobserver with hobserver | hobserver
    · exact h.announcer observer hobserver
    · obtain rfl := List.mem_singleton.mp hobserver
      have hlt : number < state.nextObserver := h.lt_next _ h.mem
      exact iff_of_false (Nat.ne_of_gt hlt) hreaction
  nodup := by
    rw [Observable.watch, List.map_append, List.nodup_append]
    refine ⟨h.nodup, by simp, ?_⟩
    rintro first hfirst second hsecond rfl
    obtain ⟨observer, hobserver, rfl⟩ := List.mem_map.mp hfirst
    exact Nat.ne_of_lt (h.lt_next observer hobserver) (by simpa using hsecond)
  lt_next observer hobserver := by
    show observer.id < state.nextObserver + 1
    rcases List.mem_append.mp hobserver with hobserver | hobserver
    · exact Nat.lt_succ_of_lt (h.lt_next observer hobserver)
    · obtain rfl := List.mem_singleton.mp hobserver
      exact Nat.lt_succ_self _
  log := h.log

/-- An observer leaves that is not the announcer. -/
theorem unwatch (h : Tracks id number created untold announced state) {other : Nat}
    (hne : other ≠ number) : Tracks id number created untold announced (state.unwatch other) where
  isDelivering := h.isDelivering
  pending := h.pending
  mem := List.mem_filter.mpr ⟨h.mem, by simpa using Ne.symm hne⟩
  announcer observer hobserver := h.announcer observer (List.mem_of_mem_filter hobserver)
  nodup := h.nodup.sublist (List.filter_sublist.map _)
  lt_next observer hobserver := h.lt_next observer (List.mem_of_mem_filter hobserver)
  log := h.log

end Tracks

namespace Layout

/-! ## One form in a layout -/

/-- The form `id` of the tree was created as `created`, the observer `number` announces its flags,
and nobody announces them elsewhere. -/
structure Echoes (tree : Tree) (id : NodeId) (number : Nat)
    (created : Observable FormState FormReaction) (untold : Option (List FormState))
    (layout : Layout) : Prop where
  tree_eq : layout.tree = tree
  downward : layout.Downward
  elsewhere : ∀ form, (tree.form? form).isSome → form ≠ id →
    ∀ observer ∈ (layout.form form).observers, observer.reaction ≠ .announce id
  tracks : Tracks id number created untold (layout.announced.get id) (layout.form id)

variable {layout layout' : Layout} {tree : Tree} {id : NodeId} {number : Nat}
  {created : Observable FormState FormReaction} {untold : Option (List FormState)}

/-- Guests change nothing by themselves. -/
lemma Downward.watchForm (h : layout.Downward) (id : NodeId) :
    ((formPlace id).modify layout (·.watch .guest)).Downward where
  forms hsome observer hobserver := by
    rcases observers_watchForm hobserver with hobserver | hguest
    · exact h.forms hsome observer hobserver
    · rw [hguest]
      trivial
  pagers := h.pagers

lemma Downward.watchPager (h : layout.Downward) (id : NodeId) :
    ((pagerPlace id).modify layout (·.watch .guest)).Downward where
  forms := h.forms
  pagers hpager observer hobserver := by
    rcases observers_watchPager hobserver with hobserver | hguest
    · exact h.pagers hpager observer hobserver
    · rw [hguest]
      trivial

namespace Echoes

/-- Forms, pagers and what was announced are all that matters. -/
lemma congr (h : Echoes tree id number created untold layout)
    (htree : layout'.tree = layout.tree) (hforms : ∀ form, layout'.form form = layout.form form)
    (hannounced : layout'.announced.get id = layout.announced.get id)
    (hpagers : ∀ pager, layout'.pager pager = layout.pager pager) :
    Echoes tree id number created untold layout' where
  tree_eq := htree.trans h.tree_eq
  downward := h.downward.congr htree (fun form => by rw [hforms]; exact List.Subset.refl _)
    fun pager => by rw [hpagers]; exact List.Subset.refl _
  elsewhere form hsome hne := by
    rw [hforms]
    exact h.elsewhere form hsome hne
  tracks := by
    rw [hforms, hannounced]
    exact h.tracks

/-- Another form that gets no new observers. -/
lemma modifyOther (h : Echoes tree id number created untold layout) {other : NodeId}
    (hne : other ≠ id)
    (change : Observable FormState FormReaction → Observable FormState FormReaction)
    (hobservers : ∀ state, (change state).observers ⊆ state.observers) :
    Echoes tree id number created untold ((formPlace other).modify layout change) where
  tree_eq := h.tree_eq
  downward := h.downward.modify other change hobservers
  elsewhere form hsome hform := by
    rw [form_modify]
    split
    · next heq =>
      subst heq
      exact fun observer hmem => h.elsewhere other hsome hform observer (hobservers _ hmem)
    · exact h.elsewhere form hsome hform
  tracks := by
    rw [form_modify, if_neg hne]
    exact h.tracks

/-- The form itself, as far as this is tracked. -/
lemma modifySelf {untold' : Option (List FormState)}
    (h : Echoes tree id number created untold layout)
    (change : Observable FormState FormReaction → Observable FormState FormReaction)
    (hdownward : ((formPlace id).modify layout change).Downward)
    (htracks : Tracks id number created untold' (layout.announced.get id)
      (change (layout.form id))) :
    Echoes tree id number created untold' ((formPlace id).modify layout change) where
  tree_eq := h.tree_eq
  downward := hdownward
  elsewhere form hsome hform := by
    rw [form_modify, if_neg (Ne.symm hform)]
    exact h.elsewhere form hsome hform
  tracks := by
    rw [form_modify, if_pos rfl]
    exact htracks

lemma modifyPager (h : Echoes tree id number created untold layout) (pager : NodeId)
    (change : Observable PagerState PagerReaction → Observable PagerState PagerReaction)
    (hdownward : ((pagerPlace pager).modify layout change).Downward) :
    Echoes tree id number created untold ((pagerPlace pager).modify layout change) where
  tree_eq := h.tree_eq
  downward := hdownward
  elsewhere := h.elsewhere
  tracks := h.tracks

/-- A commit to another form, or to the form while it is being delivered. -/
lemma commit (h : Echoes tree id number created untold layout) (form : NodeId)
    (change : FormState → FormState) (hself : form = id → untold.isSome) :
    Echoes tree id number created untold
      ((formPlace form).modify layout fun state => state.commit (change state.value)) := by
  have hobservers : ∀ state : Observable FormState FormReaction,
      (state.commit (change state.value)).observers ⊆ state.observers := fun state => by
    rw [Observable.observers_commit]
    exact List.Subset.refl _
  by_cases hform : form = id
  · subst hform
    exact h.modifySelf _ (h.downward.modify form _ hobservers) (h.tracks.commit (hself rfl) _)
  · exact h.modifyOther hform _ hobservers

/-- An observer leaves that is not the announcer of the form. -/
lemma unwatchForm (h : Echoes tree id number created untold layout) (form : NodeId) {other : Nat}
    (hself : form = id → other ≠ number) :
    Echoes tree id number created untold ((formPlace form).modify layout (·.unwatch other)) := by
  have hobservers : ∀ state : Observable FormState FormReaction,
      (state.unwatch other).observers ⊆ state.observers :=
    fun _ _ hmem => List.mem_of_mem_filter hmem
  by_cases hform : form = id
  · subst hform
    exact h.modifySelf _ (h.downward.modify form _ hobservers) (h.tracks.unwatch (hself rfl))
  · exact h.modifyOther hform _ hobservers

lemma unwatchPager (h : Echoes tree id number created untold layout) (pager : NodeId)
    (other : Nat) :
    Echoes tree id number created untold ((pagerPlace pager).modify layout (·.unwatch other)) :=
  h.modifyPager pager _
    (h.downward.modifyPager pager _ fun _ _ hmem => List.mem_of_mem_filter hmem)

lemma watchForm (h : Echoes tree id number created untold layout) (form : NodeId) :
    Echoes tree id number created untold ((formPlace form).modify layout (·.watch .guest)) := by
  by_cases hform : form = id
  · subst hform
    exact h.modifySelf _ (h.downward.watchForm form) (h.tracks.watch nofun)
  · refine ⟨h.tree_eq, h.downward.watchForm form,
      fun other hsome hother observer hobserver => ?_, ?_⟩
    · rcases observers_watchForm hobserver with hobserver | hguest
      · exact h.elsewhere other hsome hother observer hobserver
      · rw [hguest]
        nofun
    · rw [form_modify, if_neg hform]
      exact h.tracks

/-- Another form announces its flags. -/
lemma announceOther (h : Echoes tree id number created untold layout) {form : NodeId}
    (hne : form ≠ id) (status : FormStatus) :
    Echoes tree id number created untold (layout.announce form status) :=
  h.congr rfl (fun _ => rfl)
    (by rw [announced_announce, if_neg hne, List.append_nil]) fun _ => rfl

/-! ### Deeds and reactions -/

section Reactions

variable {Ends : Errand → Layout → Layout → Prop}
  (hends : ∀ {untold : Option (List FormState)} {errand : Errand} {layout layout' : Layout},
    errand.IsIn tree → Echoes tree id number created untold layout →
    Ends errand layout layout' → Echoes tree id number created untold layout')
include hends

/-- **Whatever somebody outside does** keeps it, if the changes do. -/
theorem deed (h : Echoes tree id number created untold layout) (hdeed : Deed Ends layout layout') :
    Echoes tree id number created untold layout' := by
  cases hdeed with
  | run hin hrun =>
    rw [h.tree_eq] at hin
    exact hends hin h hrun
  | watchForm form => exact h.watchForm form
  | watchPager pager => exact h.modifyPager pager _ (h.downward.watchPager pager)
  | releaseForm hguest =>
    refine h.unwatchForm _ ?_
    rintro rfl rfl
    exact absurd (hguest _ h.tracks.mem rfl) nofun
  | releasePager _ => exact h.unwatchPager _ _
  | followForm form queues nextQueue =>
    have hobservers : ∀ state : Observable FormState FormReaction,
        ({ state with queues, nextQueue } : Observable FormState FormReaction).observers ⊆
          state.observers := fun _ => List.Subset.refl _
    by_cases hform : form = id
    · subst hform
      exact h.modifySelf _ (h.downward.modify form _ hobservers)
        (h.tracks.of_observers { layout.form form with queues, nextQueue } rfl rfl
          h.tracks.isDelivering h.tracks.pending h.tracks.log)
    · exact h.modifyOther hform _ hobservers
  | followPager pager queues nextQueue =>
    exact h.modifyPager pager _ (h.downward.modifyPager pager _ fun _ => List.Subset.refl _)
  | aside htree hforms hannounced hpagers =>
    exact h.congr htree (fun form => congrArg (·.get form) hforms) (congrArg (·.get id) hannounced)
      fun pager => congrArg (·.get pager) hpagers

theorem deeds (h : Echoes tree id number created untold layout)
    (hdeeds : Deeds Ends layout layout') : Echoes tree id number created untold layout' := by
  induction hdeeds with
  | refl => exact h
  | tail _ hdeed ih => exact ih.deed hends hdeed

/-- **The observers of forms keep it**, but for the announcer of the form. -/
theorem formAnswers (h : Echoes tree id number created untold layout)
    {observer : Observer FormReaction} {snapshot : FormState} {result : Layout × Flow}
    (hwithin : observer.reaction.Within fun target => (tree.form? target).isSome)
    (hother : observer.reaction ≠ .announce id)
    (hanswers : FormAnswers Ends observer snapshot layout result) :
    Echoes tree id number created untold result.1 := by
  cases hanswers with
  | guest _ hdeeds _ => exact h.deeds hends hdeeds
  | own hreacts =>
    cases hreacts with
    | inherit hreaction hchange =>
      rw [hreaction] at hwithin
      exact hends (.form hwithin) h hchange
    | reported _ _ => exact h
    | unseen _ _ _ => exact h
    | @display form _ hreaction _ _ hchange =>
      rw [hreaction] at hwithin
      have hpushed : Echoes tree id number created untold
          (layout.push (.bubble form (.formDisplay (.ofForm snapshot.context)))) :=
        h.congr rfl (fun _ => rfl) rfl fun _ => rfl
      exact hends (.form hwithin) hpushed hchange
    | refresh hreaction hchange =>
      rw [hreaction] at hwithin
      exact hends (.form hwithin) h hchange
    | unchanged _ _ => exact h
    | announce hreaction _ => exact h.announceOther (fun heq => hother (heq ▸ hreaction)) _
    | guest _ => exact h

/-- So do the observers of pagers. -/
theorem pagerAnswers (h : Echoes tree id number created untold layout)
    {observer : Observer PagerReaction} {snapshot : PagerState} {result : Layout × Flow}
    (hwithin : observer.reaction.Within fun target => (tree.form? target).isSome)
    (hanswers : PagerAnswers Ends observer snapshot layout result) :
    Echoes tree id number created untold result.1 := by
  cases hanswers with
  | guest _ hdeeds _ => exact h.deeds hends hdeeds
  | own hreacts =>
    cases hreacts with
    | announce _ => exact h.congr rfl (fun _ => rfl) rfl fun _ => rfl
    | refresh hreaction hchange =>
      rw [hreaction] at hwithin
      exact hends (.form hwithin) h hchange
    | guest _ => exact h

/-! ### Deliveries -/

omit hends in
/-- The announcer takes the snapshot in delivery. -/
theorem announces {snapshot : FormState}
    (h : Echoes tree id number created (some [snapshot]) layout)
    {observer : Observer FormReaction} (hreaction : observer.reaction = .announce id)
    {result : Layout × Flow} (hanswers : FormAnswers Ends observer snapshot layout result) :
    Echoes tree id number created (some []) result.1 ∧ result.2 = .stay := by
  have hannounced := h.tracks.announce
  cases hanswers with
  | guest hguest _ _ => exact absurd (hreaction.symm.trans hguest) nofun
  | own hreacts =>
    cases hreacts with
    | unchanged hform hsame =>
      cases hreaction.symm.trans hform
      rw [if_pos hsame, List.append_nil] at hannounced
      exact ⟨⟨h.tree_eq, h.downward, h.elsewhere, hannounced⟩, rfl⟩
    | announce hform hnew =>
      cases hreaction.symm.trans hform
      rw [if_neg hnew] at hannounced
      refine ⟨⟨h.tree_eq, h.downward.congr rfl (fun _ => List.Subset.refl _)
        fun _ => List.Subset.refl _, h.elsewhere, ?_⟩, rfl⟩
      rw [announced_announce, if_pos rfl]
      exact hannounced
    | inherit hother _ => exact absurd (hreaction.symm.trans hother) nofun
    | reported hother _ => exact absurd (hreaction.symm.trans hother) nofun
    | unseen hother _ _ => exact absurd (hreaction.symm.trans hother) nofun
    | display hother _ _ _ => exact absurd (hreaction.symm.trans hother) nofun
    | refresh hother _ => exact absurd (hreaction.symm.trans hother) nofun
    | guest hother => exact absurd (hreaction.symm.trans hother) nofun

/-- A reaction that is not the announcer's, and the removal of the observer if it leaves. -/
lemma formAnswers_leave (h : Echoes tree id number created untold layout) {form : NodeId}
    {observer : Observer FormReaction} {snapshot : FormState} {next : Layout} {flow : Flow}
    (hwithin : observer.reaction.Within fun target => (tree.form? target).isSome)
    (hother : observer.reaction ≠ .announce id) (hid : form = id → observer.id ≠ number)
    (hanswers : FormAnswers Ends observer snapshot layout (next, flow)) :
    Echoes tree id number created untold next ∧
      (flow = .leave → Echoes tree id number created untold
        ((formPlace form).modify next (·.unwatch observer.id))) := by
  have hnext := h.formAnswers hends hwithin hother hanswers
  exact ⟨hnext, fun _ => hnext.unwatchForm form hid⟩

/-- **A round takes its snapshot to the announcer.**

**Proof sketch.** Induction on the observers. Those before the announcer keep that it is still to
come; it is there when its turn comes, since nobody removes it; and it has only one turn. -/
theorem round {snapshot : FormState} {observers : List (Observer FormReaction)} {last : Layout}
    (hobservers : ∀ observer ∈ observers,
      (observer.reaction.Within fun target => (tree.form? target).isSome) ∧
        (observer.id = number ↔ observer.reaction = .announce id))
    (hnodup : (observers.map (·.id)).Nodup) (hmem : ⟨number, .announce id⟩ ∈ observers)
    (hround : (formPlace id).RoundEnds (FormAnswers Ends) snapshot observers layout last)
    (h : Echoes tree id number created (some [snapshot]) layout) :
    Echoes tree id number created (some []) last := by
  induction hround with
  | nil _ => cases hmem
  | @gone observer rest world last hgone _ ih =>
    refine ih (fun other hother => hobservers other (List.mem_cons_of_mem _ hother))
      (List.nodup_cons.mp hnodup).2 ((List.mem_cons.mp hmem).resolve_left ?_) h
    rintro rfl
    have hactive := Observable.isActive_of_mem h.tracks.mem
    exact Bool.false_ne_true (hgone.symm.trans hactive)
  | @stay observer rest world next last _ hanswers hrest ih =>
    obtain ⟨hwithin, hnumber⟩ := hobservers observer List.mem_cons_self
    by_cases hself : observer.id = number
    · -- nobody announces the flags again in this round
      have hothers : ∀ other ∈ rest, other.id ≠ number := fun other hother heq =>
        (List.nodup_cons.mp hnodup).1 (List.mem_map.mpr ⟨other, hother, heq.trans hself.symm⟩)
      refine hrest.keeps (fun other hother world next flow hworld hnext => ?_)
        (h.announces (hnumber.mp hself) hanswers).1
      obtain ⟨hwithin', hnumber'⟩ := hobservers other (List.mem_cons_of_mem _ hother)
      exact hworld.formAnswers_leave hends hwithin'
        (fun heq => hothers other hother (hnumber'.mpr heq)) (fun _ => hothers other hother) hnext
    · refine ih (fun other hother => hobservers other (List.mem_cons_of_mem _ hother))
        (List.nodup_cons.mp hnodup).2 ((List.mem_cons.mp hmem).resolve_left ?_)
        (h.formAnswers hends hwithin (fun heq => hself (hnumber.mpr heq)) hanswers)
      rintro rfl
      exact hself rfl
  | @leave observer rest world next last _ hanswers _ ih =>
    obtain ⟨hwithin, hnumber⟩ := hobservers observer List.mem_cons_self
    have hself : observer.id ≠ number := fun heq =>
      absurd (h.announces (hnumber.mp heq) hanswers).2 nofun
    refine ih (fun other hother => hobservers other (List.mem_cons_of_mem _ hother))
      (List.nodup_cons.mp hnodup).2 ((List.mem_cons.mp hmem).resolve_left ?_)
      ((h.formAnswers_leave hends hwithin (fun heq => hself (hnumber.mpr heq)) (fun _ => hself)
        hanswers).2 rfl)
    rintro rfl
    exact hself rfl

/-- **A delivery takes all that is pending to the announcer.** -/
theorem rounds (hsome : (tree.form? id).isSome) {last : Layout}
    (hrounds : (formPlace id).RoundsEnd (FormAnswers Ends) layout last)
    (h : Echoes tree id number created (some []) layout) :
    Echoes tree id number created none last := by
  induction hrounds with
  | done hpending =>
    exact h.modifySelf (fun state => { state with isDelivering := false })
      (h.downward.modify id _ fun _ => List.Subset.refl _) (h.tracks.rest hpending)
  | @round world next last snapshot pending hpending hround _ ih =>
    have hpopped : Echoes tree id number created (some [snapshot])
        ((formPlace id).pop world pending) :=
      h.modifySelf (fun state => { state with pending })
        (h.downward.modify id _ fun _ => List.Subset.refl _) (h.tracks.pop hpending)
    refine ih (hpopped.round hends (fun observer hobserver => ⟨?_, ?_⟩) hpopped.tracks.nodup
      hpopped.tracks.mem hround)
    · have hwithin := hpopped.downward.forms (hpopped.tree_eq ▸ hsome) observer hobserver
      rw [hpopped.tree_eq] at hwithin
      exact FormReaction.Within.mono hwithin fun _ hlive => hlive.1
    · exact hpopped.tracks.announcer observer hobserver

end Reactions

/-- When the form is changed and rests, a delivery starts. -/
lemma start (h : Echoes tree id number created none layout) (change : FormState → FormState) :
    Echoes tree id number created (some []) ((formPlace id).start
      ((formPlace id).modify layout fun state => state.commit (change state.value))) where
  tree_eq := h.tree_eq
  downward := (h.downward.modify id _ fun _ => by
    rw [Observable.observers_commit]
    exact List.Subset.refl _).modify id _ fun _ => List.Subset.refl _
  elsewhere form hsome hform := by
    rw [Place.start, form_modify, if_neg (Ne.symm hform), form_modify, if_neg (Ne.symm hform)]
    exact h.elsewhere form hsome hform
  tracks := by
    rw [Place.start, form_modify, if_pos rfl, form_modify, if_pos rfl]
    exact h.tracks.start _

/-- **Changes with all that follows keep it**, also in the middle of a delivery of the form.

**Proof sketch.** Induction on the depth. A change of the form while it is being delivered is left
to that delivery; otherwise a delivery starts, at whose end everything has been told. A change of
another form, or of a pager, is delivered to observers that do not announce the flags of the form,
and these change forms and pagers in their turn, nested one level deeper. -/
theorem errandEnds (hsome : (tree.form? id).isSome) : ∀ (depth : Nat)
    {untold : Option (List FormState)} {errand : Errand} {layout layout' : Layout},
    errand.IsIn tree → Echoes tree id number created untold layout →
    ErrandEnds depth errand layout layout' → Echoes tree id number created untold layout' := by
  intro depth
  induction depth with
  | zero => exact fun _ _ hends => hends.elim
  | succ depth ih =>
    intro untold errand layout layout' hin h hends
    cases hin with
    | @form form change hform =>
      by_cases hself : form = id
      · subst hself
        have hdelivering : ((formPlace form).get ((formPlace form).modify layout fun state =>
            state.commit (change state.value))).isDelivering = untold.isSome := by
          show (((formPlace form).modify layout fun state =>
            state.commit (change state.value)).form form).isDelivering = _
          rw [form_modify, if_pos rfl, Observable.isDelivering_commit, h.tracks.isDelivering]
        cases hends with
        | busy hbusy => exact h.commit form change fun _ => hdelivering.symm.trans hbusy
        | idle hidle hrounds =>
          obtain rfl : untold = none := by
            simpa using hdelivering.symm.trans hidle
          exact (h.start change).rounds ih hform hrounds
      · refine Place.FlushEnds.keeps hends
          (fun before hbefore observer hmem snapshot world next flow hworld hanswers => ?_)
          (fun world mark hmark hworld => hworld.modifyOther hself mark fun state => ?_)
          (h.commit form change fun heq => absurd heq hself)
        · have hwithin := hbefore.downward.forms (hbefore.tree_eq ▸ hform) observer hmem
          rw [hbefore.tree_eq] at hwithin
          exact hworld.formAnswers_leave ih
            (FormReaction.Within.mono hwithin fun _ hlive => hlive.1)
            (hbefore.elsewhere form hform hself observer hmem) (fun heq => absurd heq hself)
            hanswers
        · rw [hmark]
          exact List.Subset.refl _
    | @pager pager change hpager =>
      refine Place.FlushEnds.keeps hends
        (fun before hbefore observer hmem snapshot world next flow hworld hanswers => ?_)
        (fun world mark hmark hworld => hworld.modifyPager pager mark
          (hworld.downward.modifyPager pager mark fun state => ?_))
        (h.modifyPager pager _ (h.downward.modifyPager pager _ fun state => ?_))
      · have hwithin := hbefore.downward.pagers (hbefore.tree_eq ▸ hpager) observer hmem
        rw [hbefore.tree_eq] at hwithin
        have hnext := hworld.pagerAnswers ih hwithin hanswers
        exact ⟨hnext, fun _ => hnext.unwatchPager pager _⟩
      · rw [hmark]
        exact List.Subset.refl _
      · rw [Observable.observers_commit]
        exact List.Subset.refl _

/-- **All that may happen to a layout keeps it.** -/
theorem undergoes (hsome : (tree.form? id).isSome)
    (h : Echoes tree id number created untold layout) (hundergoes : Undergoes layout layout') :
    Echoes tree id number created untold layout' := by
  induction hundergoes with
  | refl => exact h
  | tail _ hdeed ih =>
    obtain ⟨depth, hdeed⟩ := hdeed
    exact ih.deed (errandEnds hsome depth) hdeed

end Echoes

end Layout

end FormTree

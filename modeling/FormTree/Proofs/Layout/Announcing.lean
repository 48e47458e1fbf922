import FormTree.Proofs.Layout.Run
import Mathlib.Logic.Function.Basic
import Mathlib.Tactic.Choose

set_option autoImplicit false

/-!
# What forms announce

A form announces its flags whenever they changed. One of its observers does so, its *announcer*,
which compares each snapshot with the last announcement. Snapshots come late: while one of them is
delivered the form may have committed others, and the changes that observers ask for are nested in
each other. But a snapshot is either announced, or in delivery with the announcer still to come, or
pending, and the flags in the last one of all of them are those that the form has. So once nothing
is under way the last announcement holds the flags of the form.

## Main definitions

* `FormTree.Observer.Aims` — an observer serves certain forms, or announces the flags of its own.
* `FormTree.Layout.Announces` — the last of what is announced, in delivery and pending holds the
  flags of the form.
* `FormTree.Layout.Told` — the last announcement of every form holds its flags.

## Main results

* `FormTree.Layout.Announces.updateForm` — this is kept by changes of forms with all that follows.
* `FormTree.Layout.Sound.told_changeForm`, `FormTree.Layout.Sound.told_updatePager` — after a change
  every form has announced its flags.
-/

namespace FormTree

/-- The reaction changes live forms only, and announces nothing. -/
def FormReaction.Serves (live : NodeId → Prop) : FormReaction → Prop
  | .inherit form | .reportDisplay form | .refresh form => live form
  | .announce _ => False
  | .guest => True

/-- The observer of the form `id` serves live forms, or it announces the flags of the form and has
the given number. -/
def Observer.Aims (live : NodeId → Prop) (id : NodeId) (number : Nat)
    (observer : Observer FormReaction) : Prop :=
  observer.reaction.Serves live ∨ observer.reaction = .announce id ∧ observer.id = number

theorem FormReaction.Serves.ne_announce {live : NodeId → Prop} {reaction : FormReaction}
    (h : reaction.Serves live) (id : NodeId) : reaction ≠ .announce id := by
  rintro rfl
  exact h

namespace Layout

/-! ## Announcements that are still to come -/

/-- The flags that a form announces stand behind those that it announced before. -/
theorem announced_announce (layout : Layout) (id other : NodeId) (status : FormStatus) :
    (layout.announce id status).announced.get other =
      layout.announced.get other ++ if id = other then [status] else [] := by
  simp only [Layout.announce, push, Table.get_modify]
  split
  · next heq => rw [heq]
  · rw [List.append_nil]

/-- The live forms announce their flags: their announcers are the observers with the given numbers.
The form `id` is being delivered if `untold id` is there, and `untold id` lists the snapshot in
delivery as long as its announcer has not had its turn. Forms that are not live announced what is
given. -/
structure Announces (live : NodeId → Prop) (number : NodeId → Nat)
    (quiet : NodeId → List FormStatus) (untold : NodeId → Option (List FormState))
    (layout : Layout) : Prop where
  isDelivering : ∀ id, (untold id).isSome → (layout.form id).isDelivering = true
  aims : ∀ id, live id → ∀ observer ∈ (layout.form id).observers, observer.Aims live id (number id)
  last : ∀ id, live id →
    (∃ observer ∈ (layout.form id).observers, observer.reaction = .announce id) →
    (layout.announced.get id ++
      ((untold id).getD [] ++ (layout.form id).pending).map (·.status)).getLast? =
        some (layout.form id).value.status
  quiet : ∀ id, ¬ live id → layout.announced.get id = quiet id

namespace Announces

variable {live : NodeId → Prop} {number : NodeId → Nat} {quiet : NodeId → List FormStatus}
  {untold untold' : NodeId → Option (List FormState)} {layout : Layout} {id : NodeId}

/-- Nothing but the forms and their announcements matters. -/
theorem congr (h : Announces live number quiet untold layout) {layout' : Layout}
    (hforms : ∀ id, layout'.form id = layout.form id)
    (hannounced : layout'.announced = layout.announced) :
    Announces live number quiet untold layout' where
  isDelivering id := by
    rw [hforms]
    exact h.isDelivering id
  aims id := by
    rw [hforms]
    exact h.aims id
  last id := by
    rw [hforms, hannounced]
    exact h.last id
  quiet id := by
    rw [hannounced]
    exact h.quiet id

/-- A form whose container changes in how far it is delivered and who observes it. -/
theorem modify (h : Announces live number quiet untold layout)
    (hothers : ∀ other, other ≠ id → untold' other = untold other)
    {change : Observable FormState FormReaction → Observable FormState FormReaction}
    (hdelivering : (untold' id).isSome → (change (layout.form id)).isDelivering = true)
    (hobservers : ∀ observer ∈ (change (layout.form id)).observers,
      observer ∈ (layout.form id).observers)
    (hvalue : (change (layout.form id)).value = (layout.form id).value)
    (hlast : (untold' id).getD [] ++ (change (layout.form id)).pending =
      (untold id).getD [] ++ (layout.form id).pending) :
    Announces live number quiet untold' ((formPlace id).modify layout change) where
  isDelivering other hsome := by
    rw [form_modify]
    split
    · next heq =>
      subst heq
      exact hdelivering hsome
    · next hne => exact h.isDelivering other (hothers other (Ne.symm hne) ▸ hsome)
  aims other hlive := by
    rw [form_modify]
    split
    · next heq =>
      subst heq
      exact fun observer hobserver => h.aims id hlive observer (hobservers observer hobserver)
    · exact h.aims other hlive
  last other hlive := by
    rw [form_modify]
    split
    · next heq =>
      subst heq
      rintro ⟨observer, hobserver, hreaction⟩
      rw [hlast, hvalue]
      exact h.last id hlive ⟨observer, hobservers observer hobserver, hreaction⟩
    · next hne =>
      rw [hothers other (Ne.symm hne)]
      exact h.last other hlive
  quiet := h.quiet

/-- What is committed is pending. -/
theorem commitForm (h : Announces live number quiet untold layout) (intent : FormIntent) :
    Announces live number quiet untold (layout.commitForm id intent) where
  isDelivering other hsome := by
    have := h.isDelivering other hsome
    rw [form_commitForm]
    split
    · next heq => rwa [Observable.isDelivering_commit, heq]
    · exact this
  aims other hlive := by
    rw [form_commitForm]
    split
    · next heq =>
      rw [Observable.observers_commit, heq]
      exact h.aims other hlive
    · exact h.aims other hlive
  last other hlive := by
    rw [form_commitForm]
    split
    · next heq =>
      subst heq
      rw [Observable.observers_commit, Observable.pending_commit, Observable.value_commit]
      intro hannouncer
      have hlast := h.last id hlive hannouncer
      unfold Observable.added
      split
      · next hsame => rwa [List.append_nil, hsame]
      · simp
    · exact h.last other hlive
  quiet := h.quiet

/-- A form gets another observer that announces nothing. -/
theorem watchForm (h : Announces live number quiet untold layout) {reaction : FormReaction}
    (hserves : live id → reaction.Serves live) :
    Announces live number quiet untold (layout.watchForm id reaction) where
  isDelivering other hsome := by
    rw [form_watchForm]
    split
    · next heq => exact heq ▸ h.isDelivering other hsome
    · exact h.isDelivering other hsome
  aims other hlive := by
    rw [form_watchForm]
    split
    · next heq =>
      subst heq
      intro observer hobserver
      rcases List.mem_append.mp hobserver with hobserver | hobserver
      · exact h.aims id hlive observer hobserver
      · obtain rfl := List.mem_singleton.mp hobserver
        exact .inl (hserves hlive)
    · exact h.aims other hlive
  last other hlive := by
    rw [form_watchForm]
    split
    · next heq =>
      subst heq
      rintro ⟨observer, hobserver, hreaction⟩
      rcases List.mem_append.mp hobserver with hobserver | hobserver
      · exact h.last id hlive ⟨observer, hobserver, hreaction⟩
      · obtain rfl := List.mem_singleton.mp hobserver
        exact absurd hreaction ((hserves hlive).ne_announce id)
    · exact h.last other hlive
  quiet := h.quiet

/-- A form without an announcer has nothing to announce. -/
theorem mute (h : Announces live number quiet untold layout)
    (hothers : ∀ other, other ≠ id → untold' other = untold other)
    (hsome : (untold' id).isSome → (untold id).isSome)
    (hmute : ∀ observer ∈ (layout.form id).observers, observer.reaction ≠ .announce id) :
    Announces live number quiet untold' layout where
  isDelivering other hother := by
    by_cases hne : other = id
    · subst hne
      exact h.isDelivering other (hsome hother)
    · exact h.isDelivering other (hothers other hne ▸ hother)
  aims := h.aims
  last other hlive hannouncer := by
    by_cases hne : other = id
    · subst hne
      obtain ⟨observer, hobserver, hreaction⟩ := hannouncer
      exact absurd hreaction (hmute observer hobserver)
    · rw [hothers other hne]
      exact h.last other hlive hannouncer
  quiet := h.quiet

/-! ### Deliveries -/

section Delivery

variable {snapshot : FormState}

/-- The form `id` is being delivered, and its announcer is still to come for the given snapshots. -/
def holding (untold : NodeId → Option (List FormState)) (id : NodeId) (list : List FormState) :
    NodeId → Option (List FormState) :=
  Function.update untold id (some list)

@[simp] theorem holding_self (untold : NodeId → Option (List FormState)) (id : NodeId)
    (list : List FormState) : holding untold id list id = some list :=
  Function.update_self ..

theorem holding_of_ne (untold : NodeId → Option (List FormState)) (list : List FormState)
    (other : NodeId) (hne : other ≠ id) : holding untold id list other = untold other :=
  Function.update_of_ne hne ..

/-- What is left for one announcer does not concern other forms. -/
theorem holding_agree (untold : NodeId → Option (List FormState)) (first second : List FormState)
    (other : NodeId) (hne : other ≠ id) :
    holding untold id first other = holding untold id second other := by
  rw [holding_of_ne untold first other hne, holding_of_ne untold second other hne]

/-- When its turn comes the announcer takes the snapshot in delivery; another announcer that came
later would find it announced. -/
theorem announce
    (h : Announces live number quiet (holding untold id [snapshot]) layout)
    (hlive : live id) {rest : List FormState} (hrest : rest = [] ∨ rest = [snapshot])
    (update : FormUpdate) {observer : Observer FormReaction}
    (hreaction : observer.reaction = .announce id) :
    Announces live number quiet (holding untold id rest)
      (reactForm update observer snapshot layout).1 := by
  obtain ⟨more, hannounced, hlog, hforms⟩ : ∃ more,
      (∀ other, (reactForm update observer snapshot layout).1.announced.get other =
        layout.announced.get other ++ if id = other then more else []) ∧
      (layout.announced.get id ++ more).getLast? = some snapshot.status ∧
      ∀ other, (reactForm update observer snapshot layout).1.form other = layout.form other := by
    simp only [reactForm, hreaction]
    split
    · next hsame => exact ⟨[], by simp, by rwa [List.append_nil], fun _ => rfl⟩
    · exact ⟨[snapshot.status], (layout.announced_announce id · _), by simp, fun _ => rfl⟩
  refine ⟨fun other hsome => ?_, fun other => ?_, fun other hother => ?_, fun other hother => ?_⟩
  · rw [hforms]
    refine h.isDelivering other ?_
    by_cases hne : other = id
    · rw [hne, holding_self]
      rfl
    · rw [holding_of_ne _ _ _ hne] at hsome ⊢
      exact hsome
  · rw [hforms]
    exact h.aims other
  · rw [hforms, hannounced]
    intro hannouncer
    have hlast := h.last other hother hannouncer
    by_cases hne : other = id
    · subst hne
      rw [holding_self, Option.getD_some] at hlast ⊢
      rw [if_pos rfl]
      rcases hrest with rfl | rfl
      · simp only [List.getLast?_append, List.map_append, List.map_cons, List.map_nil,
          List.getLast?_singleton, List.nil_append, hlog] at hlast ⊢
        simpa using hlast
      · simpa [List.getLast?_append] using hlast
    · rw [holding_of_ne _ _ _ hne] at hlast ⊢
      rwa [if_neg (Ne.symm hne), List.append_nil]
  · rw [hannounced, if_neg (by rintro rfl; exact hother hlive), List.append_nil]
    exact h.quiet other hother

/-- An observer that announces nothing changes live forms, or puts the display into the outbox. -/
theorem react {update : FormUpdate}
    (hupdate : ∀ (form : NodeId) (intent : FormIntent) (layout : Layout), live form →
      Announces live number quiet untold layout →
      Announces live number quiet untold (update form intent layout))
    (h : Announces live number quiet untold layout) {observer : Observer FormReaction}
    (hserves : observer.reaction.Serves live) :
    Announces live number quiet untold (reactForm update observer snapshot layout).1 := by
  unfold reactForm
  cases hreaction : observer.reaction with
  | announce form => exact absurd hreaction (hserves.ne_announce form)
  | guest => exact h
  | reportDisplay form =>
    rw [hreaction] at hserves
    dsimp only
    split
    · exact h
    · split
      · exact h
      · exact hupdate _ _ _ hserves (h.congr (fun _ => rfl) rfl)
  | _ =>
    rw [hreaction] at hserves
    exact hupdate _ _ _ hserves h

/-- No observer of a form fails. -/
theorem reactForm_ne_fail (update : FormUpdate) (observer : Observer FormReaction)
    (snapshot : FormState) (layout : Layout) :
    (reactForm update observer snapshot layout).2 ≠ .fail := by
  unfold reactForm
  split
  · nofun
  · split
    · nofun
    · split <;> nofun
  · nofun
  · split <;> nofun
  · nofun

/-- The snapshot that is left for an announcer among the observers. -/
def left (id : NodeId) (snapshot : FormState) (observers : List (Observer FormReaction)) :
    List FormState :=
  if observers.any (·.reaction = .announce id) then [snapshot] else []

theorem left_of_serves {observer : Observer FormReaction} (h : observer.reaction.Serves live)
    (rest : List (Observer FormReaction)) :
    left id snapshot (observer :: rest) = left id snapshot rest := by
  simp [left, h.ne_announce id]

/-- **A snapshot is announced when it is delivered.**

**Proof sketch.** Induction on the observers. Those that announce nothing keep what is announced,
in delivery and pending; the announcer takes the snapshot in delivery. If it was removed before
its turn, the form announces nothing any more. -/
theorem deliver {update : FormUpdate}
    (hupdate : ∀ (untold : NodeId → Option (List FormState)) (form : NodeId) (intent : FormIntent)
      (layout : Layout), live form → Announces live number quiet untold layout →
      Announces live number quiet untold (update form intent layout)) (hlive : live id) :
    ∀ (observers : List (Observer FormReaction)) (layout : Layout),
      (∀ observer ∈ observers, observer.Aims live id (number id)) →
      Announces live number quiet
        (holding untold id (left id snapshot observers)) layout →
      ∃ layout', (formPlace id).deliver (reactForm update) snapshot observers layout =
          (layout', true) ∧
        Announces live number quiet (holding untold id []) layout' := by
  intro observers
  induction observers with
  | nil => exact fun layout _ h => ⟨layout, rfl, h⟩
  | cons observer rest ih =>
    intro layout haims h
    have hhead := haims observer (by simp)
    have hrest : ∀ layout, Announces live number quiet
        (holding untold id (left id snapshot rest)) layout → _ :=
      fun layout => ih layout fun other hother => haims other (by simp [hother])
    rw [Place.deliver_cons]
    cases hactive : ((formPlace id).get layout).isActive observer.id with
    | false =>
      rw [if_neg Bool.false_ne_true]
      refine hrest layout ?_
      rcases hhead with hserves | ⟨hreaction, hnumber⟩
      · rwa [left_of_serves hserves] at h
      · -- the announcer is gone, and there is no other one
        refine h.mute (holding_agree untold _ _) (fun _ => by simp)
          fun other hother hannounces => ?_
        have hsame : other.id = observer.id := by
          rcases h.aims id hlive other hother with hserves | ⟨-, hfirst⟩
          · exact absurd hannounces (hserves.ne_announce id)
          · rw [hfirst, hnumber]
        have hstill : (layout.form id).isActive other.id = true :=
          Observable.isActive_of_mem hother
        rw [hsame] at hstill
        exact absurd hstill (by simpa [formPlace] using hactive)
    | true =>
      rw [if_pos rfl]
      have hreacted : Announces live number quiet
          (holding untold id (left id snapshot rest))
          (reactForm update observer snapshot layout).1 := by
        rcases hhead with hserves | ⟨hreaction, -⟩
        · rw [left_of_serves hserves] at h
          exact h.react (hupdate _) hserves
        · have hleft : left id snapshot (observer :: rest) = [snapshot] := by
            simp [left, hreaction]
          rw [hleft] at h
          exact h.announce hlive (by unfold left; split <;> simp) update hreaction
      have hflow := reactForm_ne_fail update observer snapshot layout
      generalize reactForm update observer snapshot layout = reacted at hreacted hflow
      obtain ⟨layout', flow⟩ := reacted
      cases flow with
      | stay => exact hrest layout' hreacted
      | leave =>
        refine hrest _ (hreacted.modify (fun _ _ => rfl) (fun _ => ?_) (fun other hother => ?_) rfl
          rfl)
        · exact hreacted.isDelivering id (by simp)
        · exact (List.mem_filter.mp hother).1
      | fail => exact absurd rfl hflow

/-- **All that is pending is announced** once it has been delivered.

**Proof sketch.** Induction on the rounds. When a round starts its snapshot is no longer pending
but in delivery. If the rounds run out, what is pending stays so. -/
theorem drain {update : FormUpdate}
    (hupdate : ∀ (untold : NodeId → Option (List FormState)) (form : NodeId) (intent : FormIntent)
      (layout : Layout), live form → Announces live number quiet untold layout →
      Announces live number quiet untold (update form intent layout)) (hlive : live id)
    (hnone : untold id = none) : ∀ (rounds : Nat) (layout : Layout),
      Announces live number quiet (holding untold id []) layout →
      Announces live number quiet untold
        ((formPlace id).drain (reactForm update) rounds layout).1 := by
  intro rounds
  induction rounds with
  | zero =>
    intro layout h
    refine ⟨fun other hsome => h.isDelivering other ?_, h.aims, fun other hother hannouncer => ?_,
      h.quiet⟩
    · by_cases heq : other = id
      · simp [heq]
      · rwa [holding_of_ne _ _ _ heq]
    · have hlast := h.last other hother hannouncer
      by_cases heq : other = id
      · subst heq
        rw [holding_self, Option.getD_some] at hlast
        rw [hnone, Option.getD_none]
        exact hlast
      · rwa [holding_of_ne _ _ _ heq] at hlast
  | succ rounds ih =>
    intro layout h
    cases hpending : (layout.form id).pending with
    | nil =>
      rw [(formPlace id).drain_rest _ hpending]
      dsimp only [Place.rest]
      refine h.modify (fun other heq => (holding_of_ne _ _ _ heq).symm) (fun hsome => ?_)
        (fun _ h => h) rfl ?_
      · simp [hnone] at hsome
      · simp [hnone, hpending]
    | cons snapshot pending =>
      have hpopped : Announces live number quiet (holding untold id [snapshot])
          ((formPlace id).pop layout pending) := by
        refine h.modify (holding_agree untold _ _)
          (fun _ => h.isDelivering id (by simp)) (fun _ h => h) rfl ?_
        simp [hpending]
      -- without an announcer there is nothing left for it
      have hleft : Announces live number quiet (holding untold id
          (left id snapshot (((formPlace id).pop layout pending).form id).observers))
          ((formPlace id).pop layout pending) := by
        unfold left
        split
        · exact hpopped
        · next hmute =>
          refine hpopped.mute (holding_agree untold _ _) (by simp)
            fun observer hobserver hreaction => hmute ?_
          exact List.any_eq_true.mpr ⟨observer, hobserver, by simpa using hreaction⟩
      obtain ⟨layout', hdeliver, hdelivered⟩ := deliver hupdate hlive _ _
        (fun observer => hpopped.aims id hlive observer) hleft
      rw [(formPlace id).drain_round (reactForm update) hpending hdeliver]
      exact ih layout' hdelivered

end Delivery

/-- **Changes of forms with all that follows** keep that the last of what is announced, in delivery
and pending holds the flags of each form.

**Proof sketch.** Induction on the depth. A change is committed first, so that it is pending; then
all that is pending is delivered, unless a delivery is in progress. -/
theorem updateForm : ∀ (depth : Nat) (untold : NodeId → Option (List FormState)) (id : NodeId)
    (intent : FormIntent) (layout : Layout), live id → Announces live number quiet untold layout →
    Announces live number quiet untold (updateForm depth id intent layout) := by
  intro depth
  induction depth with
  | zero => exact fun _ _ _ _ _ h => h
  | succ depth ih =>
    intro untold id intent layout hlive h
    have hcommitted : Announces live number quiet untold (layout.commitForm id intent) :=
      h.commitForm intent
    rw [Layout.updateForm]
    cases hdelivering : ((formPlace id).get (layout.commitForm id intent)).isDelivering with
    | true => rwa [(formPlace id).flush_of_delivering _ hdelivering]
    | false =>
      have hnone : untold id = none := by
        cases hsome : untold id with
        | none => rfl
        | some list =>
          have := hcommitted.isDelivering id (by simp [hsome])
          exact absurd this (by simpa [formPlace] using hdelivering)
      rw [(formPlace id).flush_of_resting _ hdelivering]
      refine drain ih hlive hnone _ _ (hcommitted.modify (fun other hne => ?_) (fun _ => rfl)
        (fun _ h => h) rfl ?_)
      · exact holding_of_ne _ _ _ hne
      · simp [hnone]

end Announces

/-! ## Forms that rest -/

/-- The last announcement of every form holds its flags. -/
def Told (layout : Layout) : Prop := ∀ id, (layout.tree.form? id).isSome →
  (layout.announced.get id).getLast? = some (layout.form id).value.status

end Layout

theorem Tree.mem_ties {tree : Tree} {id : NodeId} {reaction : FormReaction}
    (h : reaction ∈ tree.ties id) : reaction = .inherit id ∨ reaction = .refresh id := by
  unfold Tree.ties at h
  rcases List.mem_append.mp h with h | h
  · split at h
    · exact .inl (List.mem_singleton.mp h)
    · simp at h
  · split at h
    · simp at h
    · exact .inr (List.mem_singleton.mp h)

/-- A fully wired form has one announcer, and its other observers concern the form itself and those
right inside it. -/
theorem Wired.announcer {tree : Tree} {id : NodeId} {reporting : Bool}
    {state : Observable FormState FormReaction} (h : Wired tree id (tree.wiring id) reporting state)
    (hsome : (tree.form? id).isSome) :
    ∃ announcer ∈ state.observers, announcer.reaction = .announce id ∧
      ∀ observer ∈ state.observers,
        observer.Aims (fun form => (tree.form? form).isSome) id announcer.id := by
  obtain ⟨own, inside, hobservers, hown, hinside⟩ := List.map_eq_append_iff.mp h.reactions
  obtain ⟨first, own, rfl, hfirst, hown⟩ := List.map_eq_append_iff.mp hown
  obtain ⟨second, third, rfl, hsecond, hthird⟩ := List.map_eq_append_iff.mp hown
  obtain ⟨announcer, rfl, hreaction⟩ : ∃ announcer, third = [announcer] ∧
      announcer.reaction = .announce id := by
    simpa [Tree.wiring, List.map_eq_singleton_iff] using hthird
  refine ⟨announcer, by simp [hobservers], hreaction, fun observer hobserver => ?_⟩
  rw [hobservers] at hobserver
  simp only [List.mem_append, List.mem_singleton] at hobserver
  rcases hobserver with (hmem | hmem | rfl) | hmem
  · have hr : observer.reaction ∈ first.map (·.reaction) := List.mem_map_of_mem hmem
    rw [hfirst] at hr
    split at hr
    · rw [Observer.Aims, List.mem_singleton.mp hr]
      exact .inl hsome
    · simp at hr
  · have hr : observer.reaction ∈ second.map (·.reaction) := List.mem_map_of_mem hmem
    rw [hsecond] at hr
    split at hr
    · rw [Observer.Aims, List.mem_singleton.mp hr]
      exact .inl hsome
    · simp at hr
  · exact .inr ⟨hreaction, rfl⟩
  · have hr : observer.reaction ∈ inside.map (·.reaction) := List.mem_map_of_mem hmem
    rw [hinside] at hr
    obtain ⟨inner, hinner, hr⟩ := List.mem_flatMap.mp hr
    have hinnerSome := (Tree.mem_inside.mp hinner).1
    rcases Tree.mem_ties hr with hr | hr
    · rw [Observer.Aims, hr]
      exact .inl hinnerSome
    · rw [Observer.Aims, hr]
      exact .inl hinnerSome

namespace Layout

variable {layout : Layout} {id : NodeId}

/-- Where no change is under way, forms whose last announcements hold their flags announce what is
to come. -/
theorem Sound.announces (h : layout.Sound) (htold : layout.Told) :
    ∃ number, Announces (fun id => (layout.tree.form? id).isSome) number layout.announced.get
      (fun _ => none) layout := by
  have hannouncer : ∀ id, ∃ number, (layout.tree.form? id).isSome →
      ∀ observer ∈ (layout.form id).observers,
        observer.Aims (fun form => (layout.tree.form? form).isSome) id number := by
    intro id
    by_cases hsome : (layout.tree.form? id).isSome
    · obtain ⟨announcer, -, -, haims⟩ := (h.rests id hsome).wired.announcer hsome
      exact ⟨announcer.id, fun _ => haims⟩
    · exact ⟨0, fun hs => absurd hs hsome⟩
  choose number haims using hannouncer
  refine ⟨number, by simp, haims, fun id hsome _ => ?_, fun _ _ => rfl⟩
  rw [(h.rests id hsome).pending]
  simpa using htold id hsome

/-- Where no change is under way, forms have announced their flags. -/
theorem Announces.told {number : NodeId → Nat} {quiet : NodeId → List FormStatus}
    (h : Announces (fun id => (layout.tree.form? id).isSome) number quiet (fun _ => none) layout)
    (hsound : layout.Sound) : layout.Told := by
  intro id hsome
  obtain ⟨announcer, hmem, hreaction, -⟩ := (hsound.rests id hsome).wired.announcer hsome
  have := h.last id hsome ⟨announcer, hmem, hreaction⟩
  rw [(hsound.rests id hsome).pending] at this
  simpa using this

/-- **After a change of a form** every form has announced its flags. -/
theorem Sound.told_changeForm (h : layout.Sound) (hsome : (layout.tree.form? id).isSome)
    (intent : FormIntent) (htold : layout.Told) : (layout.changeForm id intent).Told := by
  obtain ⟨number, hannounces⟩ := h.announces htold
  have htree := (h.change hsome intent).tree_eq
  have hchanged : Announces (fun id => (layout.tree.form? id).isSome) number
      layout.announced.get (fun _ => none) (layout.changeForm id intent) :=
    Announces.updateForm layout.depth _ id intent layout hsome hannounces
  rw [← htree] at hchanged
  exact hchanged.told (h.changeForm hsome intent)

/-- **What a pager brings about** when it gets a new state: it announces its position, and then the
forms that look at it are changed, which keeps what is kept by any change of a form. -/
theorem Sound.updatePager_induction {P : Layout → Prop} (h : layout.Sound)
    (hpager : layout.tree.isPager id = true) {change : PagerState → PagerState}
    (hchanged : change (layout.pager id).value ≠ (layout.pager id).value)
    (hannounced : P ((layout.holdPager id (change (layout.pager id).value)).announcePosition id
      (change (layout.pager id).value)))
    (hrefresh : ∀ (form : NodeId) (isEnabled : Bool) (world : Layout),
      layout.tree.rules form ≠ [] → P world →
      P (updateForm layout.depth form (.setEnabled isEnabled) world))
    (hmodify : ∀ (world : Layout)
      (change : Observable PagerState PagerReaction → Observable PagerState PagerReaction),
      (∀ state, (change state).value = state.value ∧ (change state).history = state.history) →
      P world → P ((pagerPlace id).modify world change)) :
    P (layout.updatePager id change) := by
  have hrests := h.pagers id hpager
  obtain ⟨layout', hdeliver, hrest, -, -, -⟩ :=
    deliver_holdPager h hpager (change (layout.pager id).value)
  have hpending : (layout'.pager id).pending = [] := by
    rw [pager_of_rest hrest, pager_holdPager, if_pos rfl]
  rw [updatePager_of_changed hrests hchanged hdeliver hpending]
  refine hmodify _ _ (fun _ => ⟨rfl, rfl⟩) ?_
  -- the announcement comes first
  obtain ⟨announcer, lookers, hobservers, hreaction, hlookers⟩ :=
    List.map_eq_cons_iff.mp hrests.reactions
  have hactive : ((pagerPlace id).get
      (layout.holdPager id (change (layout.pager id).value))).isActive announcer.id = true := by
    refine Observable.isActive_of_mem ?_
    show announcer ∈ ((layout.holdPager id (change (layout.pager id).value)).pager id).observers
    rw [pager_holdPager, if_pos rfl]
    show announcer ∈ ((layout.pager id).commit _).observers
    simp [hobservers]
  rw [hobservers, (pagerPlace id).deliver_stay _ hactive (by
    simp only [reactPager, hreaction]
    rfl)] at hdeliver
  have hserved : P ((pagerPlace id).deliver (reactPager (updateForm layout.depth))
      (change (layout.pager id).value) lookers
      ((layout.holdPager id (change (layout.pager id).value)).announcePosition id
        (change (layout.pager id).value))).1 := by
    refine (pagerPlace id).deliver_induction _ (fun observer hobserver world hworld => ?_)
      (fun _ _ world => hmodify world _ fun _ => ⟨rfl, rfl⟩) hannounced
    have hmem : observer.reaction ∈ lookers.map (·.reaction) := List.mem_map_of_mem hobserver
    rw [hlookers] at hmem
    obtain ⟨form, hform, hreaction⟩ := List.mem_map.mp hmem
    unfold reactPager
    rw [← hreaction]
    refine hrefresh form _ world (fun hnil => ?_) hworld
    have hlooks := (Tree.mem_lookers.mp hform).1
    rw [hnil] at hlooks
    exact absurd hlooks (by simp [EnableRules.hasPager])
  rwa [hdeliver] at hserved

/-- **After a change of a pager** every form has announced its flags. -/
theorem Sound.told_updatePager (h : layout.Sound) (hpager : layout.tree.isPager id = true)
    (change : PagerState → PagerState) (htold : layout.Told) :
    (layout.updatePager id change).Told := by
  obtain ⟨number, hannounces⟩ := h.announces htold
  have hchange := h.pagerChange hpager change
  have hkept : Announces (fun id => (layout.tree.form? id).isSome) number layout.announced.get
      (fun _ => none) (layout.updatePager id change) := by
    by_cases hsame : change (layout.pager id).value = (layout.pager id).value
    · rw [(updatePager_of_same (h.pagers id hpager) hsame).1]
      exact hannounces.congr (fun _ => rfl) rfl
    · exact h.updatePager_induction hpager hsame (hannounces.congr (fun _ => rfl) rfl)
        (fun form isEnabled world hrules hworld =>
          hworld.updateForm layout.depth _ form _ world (Tree.isSome_form?_of_rules hrules))
        fun world _ _ hworld => hworld.congr (fun _ => rfl) rfl
  rw [← hchange.aftermath.tree_eq] at hkept
  exact hkept.told hchange.sound

end Layout

end FormTree

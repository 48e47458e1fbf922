import FormTree.Proofs.Layout.Lasting

set_option autoImplicit false

/-!
# Who holds the observers

Every observer of a container belongs to somebody: to the layout, which keeps a watch for each one
that it registered, or to somebody outside. An observer of the layout may leave by itself, and then
the watch that is kept for it is about nothing; but there never is one without a watch. Observers
from outside stay until they are released.

## Main definitions

* `FormTree.Observable.Owned` — the observers of a container belong to two given lists of numbers.
* `FormTree.Layout.Accounted` — so do those of all containers of a layout.
* `FormTree.Layout.Registered` — the first nodes are set up, and the watches are about them.

## Main results

* `FormTree.Layout.isLasting_accounted` — whatever is done to a layout, this lasts.
* `FormTree.Layout.accounted_of_activate` — it holds for an active layout.
-/

namespace FormTree

/-! ## Containers -/

namespace Observable

variable {σ κ : Type} [DecidableEq κ] {guest reaction : κ} {own held : List Nat}
  {state state' : Observable σ κ} {number : Nat}

/-- **Every observer belongs to somebody**: those that are no guests to the owner, who knows the
numbers `own`, and the guests to somebody else, who knows the numbers `held`. -/
structure Owned (guest : κ) (own held : List Nat) (state : Observable σ κ) : Prop where
  nodup : (state.observers.map (·.id)).Nodup
  lt_next : ∀ observer ∈ state.observers, observer.id < state.nextObserver
  /-- What is no guest is known to the owner. -/
  known : ∀ observer ∈ state.observers, observer.reaction ≠ guest → observer.id ∈ own
  /-- The guests are known one by one, in the order of their registration. -/
  guests : state.observers.filter (·.reaction = guest) = held.map (⟨·, guest⟩)
  own_lt : ∀ number ∈ own, number < state.nextObserver
  /-- Nobody knows a number of the other. -/
  disjoint : ∀ number ∈ own, number ∉ held

namespace Owned

/-- A container without observers. -/
theorem of_nil (h : state.observers = []) : Owned guest [] [] state where
  nodup := by simp [h]
  lt_next := by simp [h]
  known := by simp [h]
  guests := by simp [h]
  own_lt := by simp
  disjoint := by simp

/-- What leaves the observers alone. -/
theorem congr (h : Owned guest own held state) (hobservers : state'.observers = state.observers)
    (hnext : state'.nextObserver = state.nextObserver) : Owned guest own held state' where
  nodup := hobservers ▸ h.nodup
  lt_next := by rw [hobservers, hnext]; exact h.lt_next
  known := hobservers ▸ h.known
  guests := hobservers ▸ h.guests
  own_lt := hnext ▸ h.own_lt
  disjoint := h.disjoint

/-- A guest has a number of those that somebody else knows. -/
theorem mem_held (h : Owned guest own held state) {observer : Observer κ}
    (hmem : observer ∈ state.observers) (hguest : observer.reaction = guest) :
    observer.id ∈ held := by
  have hfilter : observer ∈ state.observers.filter (·.reaction = guest) :=
    List.mem_filter.mpr ⟨hmem, by simpa using hguest⟩
  rw [h.guests] at hfilter
  obtain ⟨number, hnumber, rfl⟩ := List.mem_map.mp hfilter
  exact hnumber

/-- What somebody else knows is the number of a guest. -/
theorem mem_observers (h : Owned guest own held state) (hmem : number ∈ held) :
    ⟨number, guest⟩ ∈ state.observers := by
  have hguest : ⟨number, guest⟩ ∈ held.map (Observer.mk · guest) :=
    List.mem_map.mpr ⟨number, hmem, rfl⟩
  rw [← h.guests] at hguest
  exact List.mem_of_mem_filter hguest

/-- The owner knows the numbers of what is no guest, and of no other observer. -/
theorem mem_own (h : Owned guest own held state) {observer : Observer κ}
    (hmem : observer ∈ state.observers) : observer.id ∈ own ↔ observer.reaction ≠ guest :=
  ⟨fun hown hguest => h.disjoint _ hown (h.mem_held hmem hguest), h.known observer hmem⟩

/-- No observer but a guest has a number that somebody else knows. -/
theorem guest_of_mem (h : Owned guest own held state) (hheld : number ∈ held) :
    ∀ observer ∈ state.observers, observer.id = number → observer.reaction = guest := by
  rintro observer hobserver rfl
  by_contra hne
  exact h.disjoint _ ((h.mem_own hobserver).mpr hne) hheld

/-- A new number is known to nobody. -/
theorem next_notMem (h : Owned guest own held state) :
    state.nextObserver ∉ own ∧ state.nextObserver ∉ held :=
  ⟨fun hown => Nat.lt_irrefl _ (h.own_lt _ hown),
    fun hheld => Nat.lt_irrefl _ (h.lt_next _ (h.mem_observers hheld))⟩

/-- One more observer has a number of its own. -/
theorem nodup_watch (h : Owned guest own held state) (reaction : κ) :
    ((state.watch reaction).observers.map (·.id)).Nodup := by
  rw [Observable.watch, List.map_append, List.nodup_append]
  refine ⟨h.nodup, by simp, ?_⟩
  rintro first hfirst second hsecond rfl
  obtain ⟨observer, hobserver, rfl⟩ := List.mem_map.mp hfirst
  have hlt := h.lt_next observer hobserver
  have hid : observer.id = state.nextObserver := by simpa using hsecond
  omega

theorem lt_next_watch (h : Owned guest own held state) (reaction : κ) :
    ∀ observer ∈ (state.watch reaction).observers,
      observer.id < (state.watch reaction).nextObserver := by
  intro observer hobserver
  show observer.id < state.nextObserver + 1
  rcases List.mem_append.mp hobserver with hobserver | hobserver
  · exact Nat.lt_succ_of_lt (h.lt_next observer hobserver)
  · obtain rfl := List.mem_singleton.mp hobserver
    exact Nat.lt_succ_self _

/-- The owner registers an observer. -/
theorem watch (h : Owned guest own held state) (hreaction : reaction ≠ guest) :
    Owned guest (own ++ [state.nextObserver]) held (state.watch reaction) where
  nodup := h.nodup_watch reaction
  lt_next := h.lt_next_watch reaction
  known observer hobserver hne := by
    rcases List.mem_append.mp hobserver with hobserver | hobserver
    · exact List.mem_append_left _ (h.known observer hobserver hne)
    · obtain rfl := List.mem_singleton.mp hobserver
      exact List.mem_append_right _ (by simp)
  guests := by
    rw [Observable.watch, List.filter_append, h.guests]
    simp [hreaction]
  own_lt number hnumber := by
    show number < state.nextObserver + 1
    rcases List.mem_append.mp hnumber with hnumber | hnumber
    · exact Nat.lt_succ_of_lt (h.own_lt number hnumber)
    · rw [List.mem_singleton.mp hnumber]
      exact Nat.lt_succ_self _
  disjoint number hnumber := by
    rcases List.mem_append.mp hnumber with hnumber | hnumber
    · exact h.disjoint number hnumber
    · rw [List.mem_singleton.mp hnumber]
      exact h.next_notMem.2

/-- Somebody else registers a guest. -/
theorem watch_guest (h : Owned guest own held state) :
    Owned guest own (held ++ [state.nextObserver]) (state.watch guest) where
  nodup := h.nodup_watch guest
  lt_next := h.lt_next_watch guest
  known observer hobserver hne := by
    rcases List.mem_append.mp hobserver with hobserver | hobserver
    · exact h.known observer hobserver hne
    · obtain rfl := List.mem_singleton.mp hobserver
      exact absurd rfl hne
  guests := by
    rw [Observable.watch, List.filter_append, h.guests, List.map_append]
    simp
  own_lt number hnumber := Nat.lt_succ_of_lt (h.own_lt number hnumber)
  disjoint number hnumber hheld := by
    rcases List.mem_append.mp hheld with hheld | hheld
    · exact h.disjoint number hnumber hheld
    · rw [List.mem_singleton.mp hheld] at hnumber
      exact h.next_notMem.1 hnumber

/-- When an observer leaves, the others stay as they are. -/
theorem unwatch_of_guests (h : Owned guest own held state) {held' : List Nat}
    (hsub : ∀ number ∈ held', number ∈ held)
    (hguests : (state.unwatch number).observers.filter (·.reaction = guest) =
      held'.map (⟨·, guest⟩)) : Owned guest own held' (state.unwatch number) where
  nodup := h.nodup.sublist (List.filter_sublist.map _)
  lt_next observer hobserver := h.lt_next observer (List.mem_of_mem_filter hobserver)
  known observer hobserver := h.known observer (List.mem_of_mem_filter hobserver)
  guests := hguests
  own_lt := h.own_lt
  disjoint number hnumber hheld := h.disjoint number hnumber (hsub number hheld)

/-- An observer of the owner leaves, if it is still there. -/
theorem unwatch (h : Owned guest own held state) (hmem : number ∈ own) :
    Owned guest own held (state.unwatch number) := by
  refine h.unwatch_of_guests (fun _ hheld => hheld) ?_
  rw [Observable.unwatch, List.filter_filter, ← h.guests]
  refine List.filter_congr fun observer hobserver => ?_
  by_cases hguest : observer.reaction = guest
  · have hne : observer.id ≠ number := fun heq =>
      h.disjoint number hmem (heq ▸ h.mem_held hobserver hguest)
    simp [hguest, hne]
  · simp [hguest]

/-- A guest is released. -/
theorem unwatch_guest (h : Owned guest own held state) (number : Nat) :
    Owned guest own (held.filter (· ≠ number)) (state.unwatch number) := by
  refine h.unwatch_of_guests (fun _ hheld => List.mem_of_mem_filter hheld) ?_
  rw [Observable.unwatch, List.filter_filter]
  calc state.observers.filter (fun observer => (observer.reaction = guest : Bool) &&
        (observer.id ≠ number : Bool))
      = (state.observers.filter (·.reaction = guest)).filter (·.id ≠ number) := by
        rw [List.filter_filter]
        exact List.filter_congr fun observer _ => Bool.and_comm _ _
    _ = (held.filter (· ≠ number)).map (⟨·, guest⟩) := by
        rw [h.guests, List.filter_map]
        rfl

/-- The owner gives up all that it knows: what remains are the guests. -/
theorem detach (h : Owned guest own held state)
    (hobservers : state'.observers = state.observers.filter (·.id ∉ own))
    (hnext : state'.nextObserver = state.nextObserver) : Owned guest [] held state' := by
  have hguest : ∀ observer ∈ state.observers, (observer.id ∉ own ↔ observer.reaction = guest) :=
    fun observer hobserver => by rw [h.mem_own hobserver, not_not]
  have hall : state'.observers = state.observers.filter (·.reaction = guest) := by
    rw [hobservers]
    exact List.filter_congr fun observer hobserver => by simp [hguest observer hobserver]
  constructor
  · rw [hall]
    exact h.nodup.sublist (List.filter_sublist.map _)
  · rw [hall, hnext]
    exact fun observer hobserver => h.lt_next observer (List.mem_of_mem_filter hobserver)
  · rw [hall]
    exact fun observer hobserver hne =>
      absurd (by simpa using (List.mem_filter.mp hobserver).2) hne
  · rw [hall, List.filter_filter, ← h.guests]
    simp
  · simp
  · simp

/-- Where the owner knows none, all observers are guests. -/
theorem observers_eq (h : Owned guest [] held state) :
    state.observers = held.map (⟨·, guest⟩) := by
  rw [← h.guests, eq_comm, List.filter_eq_self]
  intro observer hobserver
  by_contra hne
  exact List.not_mem_nil (h.known observer hobserver (by simpa using hne))

end Owned

end Observable

/-! ## Layouts -/

/-- The container of a form or of a pager. -/
inductive Container where
  | form (id : NodeId)
  | pager (id : NodeId)
  deriving DecidableEq

/-- The node whose container it is. -/
def Container.node : Container → NodeId
  | .form id | .pager id => id

/-- The hold on the observer of the container with the given number. -/
abbrev Container.watch : Container → Nat → Watch
  | .form id, observer => .form id observer
  | .pager id, observer => .pager id observer

namespace Watch

/-- The observed container. -/
def container : Watch → Container
  | .form id _ => .form id
  | .pager id _ => .pager id

/-- The number of the observer. -/
def observer : Watch → Nat
  | .form _ observer | .pager _ observer => observer

variable {watches : List Watch} {container other : Container} {number : Nat}

/-- The numbers of the observers of one container. -/
def numbers (container : Container) (watches : List Watch) : List Nat :=
  (watches.filter (·.container = container)).map Watch.observer

@[simp] theorem container_watch (container : Container) (number : Nat) :
    (container.watch number).container = container := by cases container <;> rfl

@[simp] theorem observer_watch (container : Container) (number : Nat) :
    (container.watch number).observer = number := by cases container <;> rfl

theorem watch_container_observer (watch : Watch) :
    watch.container.watch watch.observer = watch := by
  cases watch <;> rfl

theorem mem_numbers : number ∈ numbers container watches ↔ container.watch number ∈ watches := by
  rw [numbers, List.mem_map]
  constructor
  · rintro ⟨watch, hmem, rfl⟩
    obtain ⟨hwatch, hcontainer⟩ := List.mem_filter.mp hmem
    obtain rfl : watch.container = container := by simpa using hcontainer
    rwa [watch_container_observer]
  · exact fun h => ⟨container.watch number, List.mem_filter.mpr ⟨h, by simp⟩, by simp⟩

/-- One more observer of the container. -/
theorem numbers_concat_self (watches : List Watch) (container : Container) (number : Nat) :
    numbers container (watches ++ [container.watch number]) =
      numbers container watches ++ [number] := by
  simp [numbers]

/-- One more observer of another container. -/
theorem numbers_concat_of_ne (h : container ≠ other) (watches : List Watch) (number : Nat) :
    numbers other (watches ++ [container.watch number]) = numbers other watches := by
  simp [numbers, h]

/-- One observer less of the container. -/
theorem numbers_filter_self (watches : List Watch) (container : Container) (number : Nat) :
    numbers container (watches.filter (· ≠ container.watch number)) =
      (numbers container watches).filter (· ≠ number) := by
  rw [numbers, numbers, List.filter_filter, List.filter_map, List.filter_filter]
  refine congrArg (List.map observer) (List.filter_congr fun watch _ => ?_)
  by_cases hcontainer : watch.container = container
  · subst hcontainer
    have heq : watch = watch.container.watch number ↔ watch.observer = number :=
      ⟨fun h => by rw [h, observer_watch], fun h => by rw [← h, watch_container_observer]⟩
    simp [heq]
  · simp [hcontainer]

/-- One observer less of another container. -/
theorem numbers_filter_of_ne (h : container ≠ other) (watches : List Watch) (number : Nat) :
    numbers other (watches.filter (· ≠ container.watch number)) = numbers other watches := by
  rw [numbers, numbers, List.filter_filter]
  refine congrArg (List.map observer) (List.filter_congr fun watch _ => ?_)
  by_cases heq : watch = container.watch number
  · simp [heq, h]
  · simp [heq]

end Watch

namespace Layout

variable {layout layout' : Layout} {watches held held' : List Watch} {id : NodeId}

/-- **Every observer of the layout's containers belongs to somebody**: to the layout, which keeps
`watches`, or to those who hold `held`. -/
structure Accounted (watches held : List Watch) (layout : Layout) : Prop where
  kept : layout.watches = watches
  forms : ∀ id, (layout.form id).Owned .guest (Watch.numbers (.form id) watches)
    (Watch.numbers (.form id) held)
  pagers : ∀ id, (layout.pager id).Owned .guest (Watch.numbers (.pager id) watches)
    (Watch.numbers (.pager id) held)

namespace Accounted

/-- What leaves containers and watches alone. -/
theorem of_same (h : Accounted watches held layout) (hwatches : layout'.watches = layout.watches)
    (hforms : layout'.forms = layout.forms) (hpagers : layout'.pagers = layout.pagers) :
    Accounted watches held layout' where
  kept := hwatches.trans h.kept
  forms id := by rw [form, hforms]; exact h.forms id
  pagers id := by rw [pager, hpagers]; exact h.pagers id

/-- The container of one form changes. -/
theorem modifyForm (h : Accounted watches held layout) (id : NodeId)
    (change : Observable FormState FormReaction → Observable FormState FormReaction)
    (hchange : (change (layout.form id)).Owned .guest (Watch.numbers (.form id) watches)
      (Watch.numbers (.form id) held'))
    (hothers : ∀ other, .form id ≠ other → Watch.numbers other held' = Watch.numbers other held) :
    Accounted watches held' ((formPlace id).modify layout change) where
  kept := h.kept
  forms other := by
    rw [form_modify]
    split
    · next heq =>
      subst heq
      exact hchange
    · next hne =>
      rw [hothers _ (by simpa using hne)]
      exact h.forms other
  pagers other := by
    rw [hothers _ (by simp)]
    exact h.pagers other

/-- The container of one pager changes. -/
theorem modifyPager (h : Accounted watches held layout) (id : NodeId)
    (change : Observable PagerState PagerReaction → Observable PagerState PagerReaction)
    (hchange : (change (layout.pager id)).Owned .guest (Watch.numbers (.pager id) watches)
      (Watch.numbers (.pager id) held'))
    (hothers : ∀ other, .pager id ≠ other → Watch.numbers other held' = Watch.numbers other held) :
    Accounted watches held' ((pagerPlace id).modify layout change) where
  kept := h.kept
  forms other := by
    rw [hothers _ (by simp)]
    exact h.forms other
  pagers other := by
    rw [pager_modify]
    split
    · next heq =>
      subst heq
      exact hchange
    · next hne =>
      rw [hothers _ (by simpa using hne)]
      exact h.pagers other

/-- The layout registers an observer of a form. -/
theorem watchForm (h : Accounted watches held layout) (id : NodeId) {reaction : FormReaction}
    (hreaction : reaction ≠ .guest) :
    Accounted (watches ++ [.form id (layout.form id).nextObserver]) held
      (layout.watchForm id reaction) where
  kept := congrArg (· ++ [Watch.form id (layout.form id).nextObserver]) h.kept
  forms other := by
    show ((layout.forms.set id ((layout.form id).watch reaction)).get other).Owned _ _ _
    rw [Table.get_set]
    split
    · next heq =>
      subst heq
      rw [Watch.numbers_concat_self _ (.form id)]
      exact (h.forms id).watch hreaction
    · next hne =>
      rw [Watch.numbers_concat_of_ne (show Container.form id ≠ .form other by simpa using hne)]
      exact h.forms other
  pagers other := by
    rw [Watch.numbers_concat_of_ne (show Container.form id ≠ .pager other by simp)]
    exact h.pagers other

/-- The layout registers an observer of a pager. -/
theorem watchPager (h : Accounted watches held layout) (id : NodeId) {reaction : PagerReaction}
    (hreaction : reaction ≠ .guest) :
    Accounted (watches ++ [.pager id (layout.pager id).nextObserver]) held
      (layout.watchPager id reaction) where
  kept := congrArg (· ++ [Watch.pager id (layout.pager id).nextObserver]) h.kept
  forms other := by
    rw [Watch.numbers_concat_of_ne (show Container.pager id ≠ .form other by simp)]
    exact h.forms other
  pagers other := by
    show ((layout.pagers.set id ((layout.pager id).watch reaction)).get other).Owned _ _ _
    rw [Table.get_set]
    split
    · next heq =>
      subst heq
      rw [Watch.numbers_concat_self _ (.pager id)]
      exact (h.pagers id).watch hreaction
    · next hne =>
      rw [Watch.numbers_concat_of_ne (show Container.pager id ≠ .pager other by simpa using hne)]
      exact h.pagers other

end Accounted

/-- **Nothing that is done to a layout breaks the account**: containers keep their observers when
they commit, and what leaves belongs to the layout. -/
theorem isLasting_accounted (watches held : List Watch) : IsLasting (Accounted watches held) where
  commitForm _ id next h :=
    h.modifyForm id (·.commit next) ((h.forms id).congr (Observable.observers_commit _ _)
      (Observable.nextObserver_commit _ _)) fun _ _ => rfl
  markForm _ id change hchange h :=
    h.modifyForm id change ((h.forms id).congr (hchange _).1 (hchange _).2) fun _ _ => rfl
  leave _ _ id observer hbefore hmem hguest h :=
    h.modifyForm id (·.unwatch observer.id)
      ((h.forms id).unwatch ((hbefore.forms id).known observer hmem hguest)) fun _ _ => rfl
  announce _ _ _ h := h.of_same rfl rfl rfl
  push _ _ h := h.of_same rfl rfl rfl
  commitPager _ id next h :=
    h.modifyPager id (·.commit next) ((h.pagers id).congr (Observable.observers_commit _ _)
      (Observable.nextObserver_commit _ _)) fun _ _ => rfl
  markPager _ id change hchange h :=
    h.modifyPager id change ((h.pagers id).congr (hchange _).1 (hchange _).2) fun _ _ => rfl
  aside _ _ h hsame :=
    h.of_same (congrArg Layout.watches hsame :) (congrArg Layout.forms hsame :)
      (congrArg Layout.pagers hsame :)

/-! ## Activation -/

/-- The nodes before `bound` are set up: every observer belongs to the layout, and its watches are
about these nodes. -/
structure Registered (bound : NodeId) (layout : Layout) : Prop where
  accounted : Accounted layout.watches [] layout
  lt_bound : ∀ watch ∈ layout.watches, watch.container.node < bound

namespace Registered

variable {bound : NodeId}

/-- What the layout keeps, and nothing else, is about the nodes that are set up. -/
theorem of_accounted (h : Registered bound layout) (h' : Accounted layout.watches [] layout') :
    Registered bound layout' where
  accounted := by rw [h'.kept]; exact h'
  lt_bound := by rw [h'.kept]; exact h.lt_bound

theorem mono (h : Registered bound layout) {bound' : NodeId} (hle : bound ≤ bound') :
    Registered bound' layout where
  accounted := h.accounted
  lt_bound watch hwatch := Nat.lt_of_lt_of_le (h.lt_bound watch hwatch) hle

theorem watchForm (h : Registered bound layout) (hlt : id < bound) {reaction : FormReaction}
    (hreaction : reaction ≠ .guest) : Registered bound (layout.watchForm id reaction) where
  accounted := h.accounted.watchForm id hreaction
  lt_bound watch hwatch := by
    rcases List.mem_append.mp hwatch with hwatch | hwatch
    · exact h.lt_bound watch hwatch
    · rw [List.mem_singleton.mp hwatch]
      exact hlt

theorem watchPager (h : Registered bound layout) (hlt : id < bound) {reaction : PagerReaction}
    (hreaction : reaction ≠ .guest) : Registered bound (layout.watchPager id reaction) where
  accounted := h.accounted.watchPager id hreaction
  lt_bound watch hwatch := by
    rcases List.mem_append.mp hwatch with hwatch | hwatch
    · exact h.lt_bound watch hwatch
    · rw [List.mem_singleton.mp hwatch]
      exact hlt

/-- The next node gets a container of its own, which nobody observes yet. -/
theorem startForm (h : Registered id layout) (state : FormState) :
    Registered (id + 1) { layout with forms := layout.forms.set id { value := state } } := by
  have hnone : Watch.numbers (.form id) layout.watches = [] := by
    refine List.eq_nil_iff_forall_not_mem.mpr fun number hnumber => ?_
    exact Nat.lt_irrefl id (h.lt_bound _ (Watch.mem_numbers.mp hnumber))
  refine (h.mono (Nat.le_succ id)).of_accounted ⟨rfl, fun other => ?_, h.accounted.pagers⟩
  show ((layout.forms.set id { value := state }).get other).Owned _ _ _
  rw [Table.get_set]
  split
  · next heq =>
    subst heq
    rw [hnone]
    exact .of_nil rfl
  · exact h.accounted.forms other

theorem startPager (h : Registered id layout) (state : PagerState) :
    Registered (id + 1) { layout with pagers := layout.pagers.set id { value := state } } := by
  have hnone : Watch.numbers (.pager id) layout.watches = [] := by
    refine List.eq_nil_iff_forall_not_mem.mpr fun number hnumber => ?_
    exact Nat.lt_irrefl id (h.lt_bound _ (Watch.mem_numbers.mp hnumber))
  refine (h.mono (Nat.le_succ id)).of_accounted ⟨rfl, h.accounted.forms, fun other => ?_⟩
  show ((layout.pagers.set id { value := state }).get other).Owned _ _ _
  rw [Table.get_set]
  split
  · next heq =>
    subst heq
    rw [hnone]
    exact .of_nil rfl
  · exact h.accounted.pagers other

/-- A form is tied to the form around it. -/
theorem setUpInheritance (h : Registered bound layout) (hlt : id < bound) (spec : FormSpec)
    {scope : Scope} (hscope : ∀ parent, scope.form = some parent → parent < bound) :
    Registered bound (layout.setUpInheritance id spec scope) := by
  unfold Layout.setUpInheritance
  split
  · next parent _ hparent =>
    have hchanged : Registered bound (layout.changeForm id (.inherit
        (layout.form parent).value.isSubmitted (layout.form parent).value.isEnabled)) :=
      h.of_accounted ((isLasting_accounted _ []).updateForm _ _ _ _ h.accounted)
    exact hchanged.watchForm (hscope parent hparent) (by simp)
  · exact h.watchForm hlt (by simp)

/-- A form with rules evaluates them. -/
theorem setUpRules (h : Registered bound layout) (hlt : id < bound) (rules : EnableRules)
    {scope : Scope} (hform : ∀ parent, scope.form = some parent → parent < bound)
    (hpager : ∀ pager, scope.pager = some pager → pager < bound) :
    Registered bound (layout.setUpRules id rules scope) := by
  unfold Layout.setUpRules
  split
  · exact h
  · have hrefresh : ∀ world : Layout, Registered bound world →
        Registered bound (refresh (Layout.updateForm world.depth) id world) :=
      fun world hworld =>
        hworld.of_accounted ((isLasting_accounted _ []).updateForm _ _ _ _ hworld.accounted)
    have hown : Registered bound (if rules.hasForm then layout.watchForm id (.refresh id)
        else layout) := by
      split
      · exact h.watchForm hlt (by simp)
      · exact h
    dsimp only
    generalize (if rules.hasForm then layout.watchForm id (.refresh id) else layout) = world
      at hown
    have hturned : ∀ pager, scope.pager = some pager → Registered bound
        (if rules.hasPager then world.watchPager pager (.refresh id) else world) := by
      intro pager heq
      split
      · exact hown.watchPager (hpager pager heq) (by simp)
      · exact hown
    cases hp : scope.pager with
    | none =>
      cases hf : scope.form with
      | none => exact hrefresh _ hown
      | some parent => exact hrefresh _ (hown.watchForm (hform parent hf) (by simp))
    | some pager =>
      cases hf : scope.form with
      | none => exact hrefresh _ (hturned pager hp)
      | some parent => exact hrefresh _ ((hturned pager hp).watchForm (hform parent hf) (by simp))

/-- **Setting up the next node.** -/
theorem setUp (h : Registered id layout) (linked : layout.tree.Linked) :
    Registered (id + 1) (layout.setUp id) := by
  unfold Layout.setUp
  split
  · exact h.mono (Nat.le_succ id)
  · next node hnode =>
    have hform : ∀ parent, node.scope.form = some parent → parent < id + 1 :=
      fun parent hparent => Nat.lt_succ_of_lt
        (linked.formAround_lt (by rw [Tree.formAround, hnode]; exact hparent))
    have hpager : ∀ pager, node.scope.pager = some pager → pager < id + 1 :=
      fun pager hpager => Nat.lt_succ_of_lt
        (linked.pagerAround_spec (by rw [Tree.pagerAround, hnode]; exact hpager)).1
    split
    · next spec _ =>
      have hanswered : Accounted layout.watches []
          { layout with answers := layout.answers.set id spec.kind.emptyAnswer } :=
        h.accounted.of_same rfl rfl rfl
      exact (h.mono (Nat.le_succ id)).of_accounted ((isLasting_accounted _ []).pushAll hanswered _)
    · next spec _ =>
      have htied := (h.startForm (.start spec.id spec.formType spec.responseType)).setUpInheritance
        (Nat.lt_succ_self id) spec hform
      have hruled := htied.setUpRules (Nat.lt_succ_self id) (node.formRules spec) hform hpager
      unfold setUpForm
      dsimp only
      generalize (Layout.setUpInheritance _ id spec node.scope).setUpRules id _ _ = world
        at hruled ⊢
      have hannounced : Registered (id + 1) (world.announce id (world.form id).value.status) :=
        hruled.of_accounted (hruled.accounted.of_same rfl rfl rfl)
      have hwatched : Registered (id + 1) (Layout.watchForm _ id (.announce id)) :=
        hannounced.watchForm (Nat.lt_succ_self id) (by simp)
      split
      · exact hwatched.of_accounted (hwatched.accounted.of_same rfl rfl rfl)
      · exact hwatched
    · next spec _ =>
      have hstarted := h.startPager (.start spec.id (UInt64.ofNat node.children.length))
      have hannounced : Registered (id + 1) (Layout.announcePosition _ id _) :=
        hstarted.of_accounted ((isLasting_accounted _ []).push _
          (.trickle id (.pagerUpdate id (.start spec.id (UInt64.ofNat node.children.length))))
          hstarted.accounted)
      exact hannounced.watchPager (Nat.lt_succ_self id) (by simp)
    all_goals exact h.mono (Nat.le_succ id)

/-- After setting up the first nodes, the watches are about these. -/
theorem upTo (environment : Environment) {tree : Tree} (wf : tree.WellFormed) {bound : Nat}
    (hle : bound ≤ tree.size) :
    Registered bound ((List.range bound).foldl Layout.setUp { tree, environment }) := by
  induction bound with
  | zero => exact ⟨⟨rfl, fun _ => .of_nil rfl, fun _ => .of_nil rfl⟩, by simp⟩
  | succ bound ih =>
    have htree := (assembled_upTo environment wf (Nat.le_of_succ_le hle)).tree_eq
    rw [List.range_succ, List.foldl_append]
    exact (ih (Nat.le_of_succ_le hle)).setUp (by rw [htree]; exact wf.linked)

end Registered

/-- **In an active layout every observer belongs to the layout.** -/
theorem accounted_of_activate {environment : Environment} {root : Spec}
    (h : activate environment root = .ok layout) : Accounted layout.watches [] layout := by
  obtain ⟨hviolation, rfl⟩ := activate_eq_ok.mp h
  have wf := Tree.wellFormed_of_violation? (Tree.linked_ofSpec root) hviolation
  have hbuild : Registered (Tree.ofSpec root).size (build environment (Tree.ofSpec root)) :=
    .upTo environment wf (Nat.le_refl _)
  have hsettled := (isLasting_accounted _ []).settle hbuild.accounted
  rw [hsettled.kept]
  exact hsettled

end Layout

end FormTree

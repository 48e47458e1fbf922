import FormTree.Proofs.Observable.Turnover

set_option autoImplicit false

/-!
# Removing observers

What a removal takes away is one number of the list of registered observers, and the flag of that
observer. A round of delivery looks at the flag before each call, though not at the list. So a
removal takes effect at once, also for what is pending and in the round that is underway, and the
other observers neither disappear with it nor miss anything.

That is, as long as the run goes on. If it is blocked by the removal, then the round that is
underway goes no further, and whoever was still to be called in it misses the snapshot.

## Main definitions

* `FormTree.Session.Moment.Spares` — nothing changes but who is registered, and who has which
  handle.
* `FormTree.Session.Gone` — an observer was registered, and is not any more.

## Main results

* `FormTree.Session.Gone.passage` — whoever is gone does not come back, nor is it called.
* `FormTree.Session.Point.Tracked.callsOf_after` — whoever is removed is not called any more.
* `FormTree.Session.removals_touch_no_other` — what removals do in any run.
* `FormTree.Session.unserved_after_removal` — a removal through which an observer misses a snapshot.
-/

namespace FormTree

variable {σ κ μ : Type}

namespace Session

variable [DecidableEq σ] {session session' : Session σ κ μ} {id : Nat}

/-! ## What a removal leaves alone -/

omit [DecidableEq σ] in
/-- Nothing changes but who is registered, and who has which handle. -/
structure Spares (session session' : Session σ κ μ) : Prop where
  value : session'.state.value = session.state.value
  history : session'.state.history = session.state.history
  queues : session'.state.queues = session.state.queues
  nextQueue : session'.state.nextQueue = session.state.nextQueue
  pending : session'.state.pending = session.state.pending
  isDelivering : session'.state.isDelivering = session.state.isDelivering
  callsOf : ∀ id, session'.callsOf id = session.callsOf id
  owners : session'.owners = session.owners
  subscriptions : session'.subscriptions = session.subscriptions
  memory : session'.memory = session.memory

omit [DecidableEq σ] in
theorem Spares.trans {session'' : Session σ κ μ} (first : Spares session session')
    (second : Spares session' session'') : Spares session session'' where
  value := second.value.trans first.value
  history := second.history.trans first.history
  queues := second.queues.trans first.queues
  nextQueue := second.nextQueue.trans first.nextQueue
  pending := second.pending.trans first.pending
  isDelivering := second.isDelivering.trans first.isDelivering
  callsOf id := (second.callsOf id).trans (first.callsOf id)
  owners := second.owners.trans first.owners
  subscriptions := second.subscriptions.trans first.subscriptions
  memory := second.memory.trans first.memory

omit [DecidableEq σ] in
/-- Handling leaves everything else alone. -/
theorem Handlings.spares (handlings : Handlings session session') : Spares session session' := by
  induction handlings with
  | refl => exact ⟨rfl, rfl, rfl, rfl, rfl, rfl, fun _ => rfl, rfl, rfl, rfl⟩
  | tail _ handling ih =>
    refine ih.trans ?_
    cases handling <;> exact ⟨rfl, rfl, rfl, rfl, rfl, rfl, fun _ => rfl, rfl, rfl, rfl⟩

omit [DecidableEq σ] in
/-- So does noting what is no call. -/
theorem spares_note {incident : Incident σ κ} (h : ∀ id, incident.callOf? id = none) :
    Spares session (session.note incident) := by
  refine ⟨rfl, rfl, rfl, rfl, rfl, rfl, fun id => ?_, rfl, rfl, rfl⟩
  rw [callsOf_note, h, Option.toList_none, List.append_nil]

/-- What is about observers leaves everything else alone. -/
theorem spares_handling {act : Act σ κ} (hhandling : act.isHandling = true) :
    Spares session (session.act (fun session => (session, true)) act).1 := by
  cases act with
  | watch name reaction =>
    have registered : Spares session { session with state := session.state.watch reaction } :=
      ⟨rfl, rfl, rfl, rfl, rfl, rfl, fun _ => rfl, rfl, rfl, rfl⟩
    have noted : Spares _ ({ session with state := session.state.watch reaction }.note
        (.registered session.state.nextObserver)) := spares_note fun _ => rfl
    have cancelled := (handlings_cancel ({ session with state := session.state.watch reaction }.note
      (.registered session.state.nextObserver)) name).spares
    exact (registered.trans noted).trans (cancelled.trans
      ⟨rfl, rfl, rfl, rfl, rfl, rfl, fun _ => rfl, rfl, rfl, rfl⟩)
  | cancel name => exact (handlings_cancel session name).spares
  | entrust name owner => exact (handlings_entrust session name owner).spares
  | recover owner id name => exact (handlings_recover session owner id name).spares
  | _ => cases hhandling

/-- From one moment to a later one nothing changes but who is registered, and who has which
handle. -/
structure Moment.Spares (now later : Moment σ κ μ) : Prop
    extends Session.Spares now.session later.session where
  due : later.due = now.due
  waiting : later.waiting = now.waiting

namespace Point

variable {now : Point σ κ μ}

/-- **A removal leaves everything else alone.** -/
theorem spares_next (hmem : id ∈ now.removed) (client : Client σ κ μ) (rounds : Nat) :
    now.toMoment.Spares (now.next client rounds).toMoment := by
  obtain ⟨hfree, ⟨observer, round, hstage, rfl⟩ | ⟨rest, round, hstage⟩ | ⟨act, hact, hremoved⟩⟩ :=
    mem_removed_cases hmem
  · rw [next_of_call client rounds hfree hstage]
    have returned : Session.Spares now.session (now.session.note (.returned observer.id)) :=
      spares_note fun _ => rfl
    have left := Handlings.spares (.head (.remove observer.id)
      (.single (handling_unhold (place.modify (now.session.note (.returned observer.id))
        (·.unwatch observer.id)) observer.id (round.observers.map (·.id)))))
    exact ⟨returned.trans left, rfl, rfl⟩
  · rw [next_of_release client rounds hfree hstage]
    exact ⟨(handlings_remove now.session id).spares, rfl, rfl⟩
  · have hhandling := Act.isHandling_of_mem_removed hremoved
    rw [next_of_act? hfree hact hhandling client rounds]
    exact ⟨spares_handling hhandling, rfl, rfl⟩

end Point

/-! ## What observers receive -/

/-- The observer `id` was registered, and is not any more. -/
structure Gone (id : Nat) (session : Session σ κ μ) : Prop where
  lt : id < session.state.nextObserver
  notMem : id ∉ session.ids

/-- Whoever is gone does not come back by a move, nor is it called. -/
theorem Gone.move (h : Gone id session) (move : Move session session') :
    Gone id session' ∧ session'.callsOf id = session.callsOf id := by
  refine ⟨⟨Nat.lt_of_lt_of_le h.lt move.nextObserver_le, fun hmem => ?_⟩, ?_⟩
  · cases move with
    | commit _ _ =>
      rw [ids_commit] at hmem
      exact h.notMem hmem
    | register reaction =>
      rw [ids_register] at hmem
      rcases List.mem_append.mp hmem with hmem | hmem
      · exact h.notMem hmem
      · exact Nat.ne_of_lt h.lt (List.mem_singleton.mp hmem)
    | remove other => exact h.notMem ((ids_unwatch session other).subset hmem)
    | note _ _ => exact h.notMem hmem
    | aside aside => exact h.notMem (aside.ids ▸ hmem)
  · cases move with
    | commit _ _ => exact callsOf_commit session _ id
    | register reaction => exact (callsOf_note _ _ id).trans (List.append_nil _)
    | remove _ => rfl
    | note habout _ =>
      rw [callsOf_note, Incident.callOf?_of_about?_eq_none habout, Option.toList_none,
        List.append_nil]
    | aside aside => rw [callsOf, aside.log, callsOf]

/-- **Whoever is gone does not come back, nor is it called**, also in the round that is
underway. -/
theorem Gone.passage {now later : Moment σ κ μ} (h : Gone id now.session)
    (passage : Passage now later) :
    Gone id later.session ∧ later.session.callsOf id = now.session.callsOf id := by
  cases passage with
  | move move => exact h.move move
  | @start session _ _ next _ _ =>
    refine ⟨⟨h.lt.trans_eq (nextObserver_commit session next).symm, fun hmem => ?_⟩,
      callsOf_commit session next id⟩
    exact h.notMem (ids_commit session next ▸ hmem)
  | round _ => exact ⟨⟨h.lt, h.notMem⟩, rfl⟩
  | @call session snapshot observer _ hmem _ =>
    have hne : observer.id ≠ id := fun heq => h.notMem (heq ▸ hmem)
    refine ⟨⟨h.lt, h.notMem⟩, ?_⟩
    simp [callsOf_note, Incident.callOf?, hne]
  | skip _ => exact ⟨h, rfl⟩
  | «return» _ =>
    exact ⟨⟨h.lt, h.notMem⟩, (callsOf_note _ (.returned _) id).trans (List.append_nil _)⟩
  | finish _ => exact ⟨⟨h.lt, h.notMem⟩, rfl⟩

theorem Gone.passages {now later : Moment σ κ μ} (h : Gone id now.session)
    (passages : Passages now later) :
    Gone id later.session ∧ later.session.callsOf id = now.session.callsOf id := by
  induction passages with
  | refl => exact ⟨h, rfl⟩
  | tail _ passage ih =>
    obtain ⟨hgone, hcalls⟩ := ih.1.passage passage
    exact ⟨hgone, hcalls.trans ih.2⟩

namespace Point

variable {now : Point σ κ μ}

/-- Whoever is removed is gone after the step. -/
theorem Tracked.gone_next (h : now.Tracked) (hmem : id ∈ now.removed) (client : Client σ κ μ)
    (rounds : Nat) : Gone id (now.next client rounds).session := by
  have turnover := h.turnover_next client rounds
  have hlt := h.lt_of_mem_removed hmem
  refine ⟨turnover.nextObserver ▸ Nat.lt_of_lt_of_le hlt (Nat.le_add_right _ _), fun hids => ?_⟩
  rw [turnover.ids] at hids
  rcases List.mem_append.mp hids with hids | hadded
  · exact (of_decide_eq_true (List.mem_filter.mp hids).2) hmem
  · exact Nat.ne_of_lt hlt (next_of_mem_added hadded client rounds).1

/-- **Whoever is removed is not called any more.** -/
theorem Tracked.callsOf_after (h : now.Tracked) (client : Client σ κ μ) (rounds : Nat)
    {step later : Nat} (hmem : id ∈ (now.after client rounds step).removed) (hle : step ≤ later) :
    (now.after client rounds later).session.callsOf id =
      (now.after client rounds step).session.callsOf id := by
  rcases hle.eq_or_lt with rfl | hlt
  · rfl
  · have hgone := (h.after client rounds step).gone_next hmem client rounds
    have hspares := spares_next hmem client rounds
    rw [← after_succ] at hgone hspares
    exact (hgone.passages (h.passages_after client rounds hlt)).2.trans (hspares.callsOf id)

/-- A new observer is to be shown what is pending, from the step of its registration on. -/
theorem Tracked.shows_next (h : now.Tracked) (hmem : id ∈ now.added) (client : Client σ κ μ)
    (rounds : Nat) :
    Moment.Shows now.session.state.pending id (now.next client rounds).toMoment := by
  obtain ⟨rfl, name, reaction, hnext⟩ := next_of_mem_added hmem client rounds
  have registered : (now.toMoment.register reaction).Fit :=
    h.fit.passage (.move (.register reaction))
  have moves : Moves (now.toMoment.register reaction).session (now.session.watch name reaction) :=
    (handlings_cancel _ name).moves.tail (.aside ⟨rfl, rfl, rfl, rfl, rfl, rfl⟩)
  rw [hnext]
  exact (h.fit.shows_register reaction).passages registered (moves.passages _ _)

/-- **What an observer receives** does not depend on who else is removed. -/
theorem Tracked.shows_after (h : now.Tracked) (client : Client σ κ μ) (rounds : Nat)
    {step later : Nat} (hmem : id ∈ (now.after client rounds step).added) (hlt : step < later) :
    Moment.Shows (now.after client rounds step).session.state.pending id
      (now.after client rounds later).toMoment := by
  have hshows := (h.after client rounds step).shows_next hmem client rounds
  rw [← after_succ] at hshows
  exact hshows.passages (h.after client rounds (step + 1)).fit (h.passages_after client rounds hlt)

end Point

/-- **Removals take effect at once and touch no other observer, unless they block the run.**
Whatever an owner asks of a fresh session, one request after the other, and whatever the observers
do while they are called — update the container, register others, leave, and have handles cancelled
or dropped, their own or those of others, also such as observers own — take the run apart into its
steps, which end where it does. Then at any point

* the observers are those that were registered so far and have not been removed, in this order, and
  so is their number, and the flags are up of just these; a removal, be it the first of an observer
  or not, removes no other;
* whoever is removed is never called again;
* an observer that is not removed yet was called, and will be, with what was pending at its
  registration and then with the commits since, whoever else is removed; while no delivery is in
  progress it was called with all of them;
* a step that removes an observer changes nothing but who is registered, and who has which handle;
* once the run is blocked nothing happens any more: whoever was still to be called is not;
* a step blocks the run if and only if it removes an observer that is still registered, that owns a
  handle, and that no round holds on to.

**Proof sketch.** A step registers only the next number, and the handles are those of numbers that
were registered before. So those who come are never among those who go, now or earlier, and who is
gone does not come back. A round calls only those whose flag is up at that time; and a commit is to
come for everyone, which is what a call takes its snapshot from. A round holds on to those whom it
has still to serve, so that an observer that leaves at the end of its call is not dropped before the
list is unlocked. -/
theorem removals_touch_no_other (client : Client σ κ μ) (rounds : Nat) (value : σ) (memory : μ)
    (requests : List (Request σ κ)) :
    let start := Point.start value memory requests
    let point := start.after client rounds
    (∃ last, ∀ step ≥ last, (point step).session =
      (Session.run client rounds requests (Session.start value memory)).1) ∧
    (∀ step,
      let registered := start.addedBefore client rounds step
      let removed := start.removedBefore client rounds step
      registered = List.range (point step).session.state.nextObserver ∧
        (point step).session.ids = registered.filter (· ∉ removed) ∧
        (point step).session.state.observers.length =
          (registered.filter (· ∉ removed)).length ∧
        ∀ id, (point step).session.state.isActive id = true ↔ id ∈ registered ∧ id ∉ removed) ∧
    (∀ step, ∀ id ∈ (point step).removed, ∀ later ≥ step,
      (point later).session.callsOf id = (point step).session.callsOf id) ∧
    (∀ step, ∀ id ∈ (point step).added, ∀ later > step,
      id ∉ start.removedBefore client rounds later →
      let late := (point step).session.state.pending
      let since := (point later).session.commitsSince id
      (point later).session.callsOf id ++
          (point later).session.outstanding (point later).due (point later).waiting id =
        late ++ since ∧
      ((point later).session.state.isDelivering = false →
        (point later).session.callsOf id = late ++ since)) ∧
    (∀ step, (point step).removed ≠ [] →
      (point step).toMoment.Spares (point (step + 1)).toMoment) ∧
    (∀ step, (point step).session.isBlocked = true → ∀ later ≥ step, point later = point step) ∧
    (∀ step, (point step).session.isBlocked = false →
      ((point (step + 1)).session.isBlocked = true ↔
        ∃ id ∈ (point step).removed, id ∈ (point step).session.ids ∧
          (point (step + 1)).session.handlesOf id ≠ [] ∧ id ∉ (point step).stage.held)) := by
  intro start point
  have h : start.Tracked := Point.tracked_start value memory requests
  have hids := h.ids_after rfl client rounds
  refine ⟨Point.exists_after_eq_run client rounds value memory requests, fun step => ?_, ?_, ?_, ?_,
    fun step hblocked later hle => Point.after_of_isBlocked client rounds hblocked hle,
    fun step hfree => ?_⟩
  · refine ⟨h.addedBefore_eq rfl client rounds step, hids step, ?_, fun id => ?_⟩
    · rw [← hids step, Session.ids, List.length_map]
    · rw [← mem_ids, hids step, List.mem_filter, decide_eq_true_eq]
  · exact fun step id hmem later hle => h.callsOf_after client rounds hmem hle
  · intro step id hmem later hlt hstays
    have hadded : id ∈ start.addedBefore client rounds later :=
      List.mem_flatMap.mpr ⟨step, List.mem_range.mpr hlt, hmem⟩
    have hregistered : id ∈ (point later).session.ids := by
      rw [hids]
      exact List.mem_filter.mpr ⟨hadded, decide_eq_true hstays⟩
    have hcomplete := (h.shows_after client rounds hmem hlt).complete hregistered
    refine ⟨hcomplete, fun hresting => ?_⟩
    obtain ⟨hpending, hwaiting⟩ := (h.after client rounds later).fit.rests hresting
    rw [← hcomplete, outstanding, hpending, hwaiting]
    simp [point]
  · intro step hne
    obtain ⟨id, hmem⟩ := List.exists_mem_of_ne_nil _ hne
    have hspares := Point.spares_next hmem client rounds
    rwa [← Point.after_succ] at hspares
  · have hstep := h.after client rounds step
    have hblocked := (hstep.turnover_next client rounds).isBlocked hfree
    rw [← Point.after_succ, hstep.held] at hblocked
    refine hblocked.trans (exists_congr fun id => and_congr_right' (and_congr_right' ?_))
    exact and_comm

/-- The first observer owns the handle of the second one; in its only call it adds to the counter
and leaves, and later its own handle is cancelled. The second one is removed with the handle before
it is called at all, the first one is not called again, and the third one is called with both
commits. -/
theorem removals_touch_no_other_counter :
    let requests : List (Request Int64 Counter.Watcher) :=
      [.register "first" ⟨"first", [.mk { equal := some 1 } [.add 1, .leave]]⟩,
        .register "second" ⟨"second", []⟩, .register "third" ⟨"third", []⟩, .entrust "second" 0,
        .update fun value => some (value + 1), .cancel "first"]
    let start := Point.start 0 () requests
    let point := start.after Counter.client 4
    start.removedBefore Counter.client 4 30 = [0, 1, 0] ∧
      (point 30).session.ids = [2] ∧ (point 30).session.state.observers.length = 1 ∧
      (∀ later ≥ 8, (point later).session.callsOf 0 = [1]) ∧
      (∀ later ≥ 9, (point later).session.callsOf 1 = []) ∧
      (point 30).session.callsOf 2 = [1, 2] := by
  intro requests
  have hrun := removals_touch_no_other Counter.client 4 0 () requests
  dsimp only at hrun ⊢
  obtain ⟨-, hregistered, hremoved, hreceived, -⟩ := hrun
  have hbefore : (Point.start 0 () requests).removedBefore Counter.client 4 30 = [0, 1, 0] := by
    decide +kernel
  have hadded : (Point.start 0 () requests).addedBefore Counter.client 4 30 = [0, 1, 2] := by
    decide +kernel
  have hstays : 2 ∉ (Point.start 0 () requests).removedBefore Counter.client 4 30 := by
    rw [hbefore]
    decide
  have hthird := (hreceived 2 2 (by decide +kernel) 30 (by decide) hstays).2 (by decide +kernel)
  obtain ⟨-, hids, hcount, -⟩ := hregistered 30
  rw [hbefore, hadded] at hids hcount
  refine ⟨hbefore, hids.trans (by decide), hcount.trans (by decide), fun later hle => ?_,
    fun later hle => ?_, hthird.trans (by decide +kernel)⟩
  · exact (hremoved 8 0 (by decide +kernel) later hle).trans (by decide +kernel)
  · exact (hremoved 9 1 (by decide +kernel) later hle).trans (by decide +kernel)

/-- Observers that have the handle of a name cancelled, or do nothing. -/
def canceller : Client Nat (Option String) Unit := fun name _ _ =>
  match name with
  | some name => .act (.cancel name) (.done false)
  | none => .done false

/-- **A removal through which an observer misses a snapshot**: the third observer has the handle of
the second one cancelled, which was served already. If the second one owns the handle of the first
one, then the fourth one, which is registered and never removed, is not called with the commit; if
not, it is. -/
theorem unserved_after_removal :
    let requests : List (Request Nat (Option String)) → List (Request Nat (Option String)) :=
      fun entrusting =>
        [.register "first" none, .register "second" none, .register "third" (some "second"),
          .register "fourth" none] ++ entrusting ++ [.update fun value => some (value + 1)]
    let blocked := (Session.run canceller 4 (requests [.entrust "first" 1]) (Session.start 0 ())).1
    let other := (Session.run canceller 4 (requests []) (Session.start 0 ())).1
    blocked.state.history = [1] ∧ 3 ∈ blocked.ids ∧ blocked.callsOf 3 = [] ∧
      other.state.history = [1] ∧ 3 ∈ other.ids ∧ other.callsOf 3 = [1] := by
  decide +kernel

end Session

end FormTree

import FormTree.Proofs.Observable.Subscriptions

set_option autoImplicit false

/-!
# Failing updates

An update whose function fails changes nothing, wherever it is asked for: commits stay, and
subscriptions go on. What becomes of the observers depends on where it was asked for. A failure of
an update from outside, or one that an observer recovers from, does not touch them. But a failure
that comes out of an observer ends the delivery in which the observer was called, and the container
takes it to be in progress for ever: later commits wait behind those that were pending, and no
observer is called any more.

## Main definitions

* `FormTree.Session.Stuck` — what becomes of a session whose delivery does not go on.

## Main results

* `FormTree.Session.stuck_run` — once a delivery is in progress between requests, it stays so.
* `FormTree.Session.Settled.not_quiet_apply`, `FormTree.Session.Settled.stuck_update` — which
  updates lead there.
* `FormTree.Session.failing_updates_contained` — what failing updates do after any requests.
* `FormTree.Session.undelivered_after_failure` — commits that no observer is called with.
-/

namespace FormTree

variable {σ κ μ : Type}

namespace Session

variable [DecidableEq σ] {session session' : Session σ κ μ}

/-! ## What stays -/

/-- **An update whose function fails changes nothing.** -/
theorem apply_of_none {change : σ → Option σ} (h : change session.state.value = none)
    (flush : Session σ κ μ → Session σ κ μ × Bool) :
    session.apply flush change = (session, .error .failed) := by
  rw [apply, h]

/-- An update whose function fails leaves the session alone, as if it had not been asked for. -/
theorem update_of_none {change : σ → Option σ} (h : change session.state.value = none)
    (client : Client σ κ μ) (rounds : Nat) : (session.update client rounds change).1 = session := by
  rw [update_fst, apply_of_none h]
  split <;> rfl

/-- No commit is undone by a step. -/
theorem Step.history (step : Step session session') :
    session.state.history <+: session'.state.history := by
  cases step with
  | commit hne =>
    rw [history_commit_of_ne hne]
    exact List.prefix_append _ _
  | subscribe name =>
    unfold Session.subscribe Session.unsubscribe
    dsimp only
    split <;> exact List.prefix_rfl
  | unsubscribe name =>
    unfold Session.unsubscribe
    split <;> exact List.prefix_rfl
  | take _ _ => exact List.prefix_rfl
  | note _ _ => exact List.prefix_rfl
  | apart apart => rw [apart.history]

/-- **No commit is undone**, whatever happens. -/
theorem Steps.history (steps : Steps session session') :
    session.state.history <+: session'.state.history := by
  induction steps with
  | refl => exact List.prefix_rfl
  | tail _ step ih => exact ih.trans step.history

/-! ## Deliveries that do not go on -/

/-- From one session to a later one no observer is called, and all commits join those that were
pending. -/
structure Stuck (session later : Session σ κ μ) : Prop where
  isDelivering : later.state.isDelivering = true
  callsOf : ∀ id, later.callsOf id = session.callsOf id
  backlog : ∃ commits, later.state.history = session.state.history ++ commits ∧
    later.state.pending = session.state.pending ++ commits

omit [DecidableEq σ] in
theorem Stuck.refl (h : session.state.isDelivering = true) : Stuck session session :=
  ⟨h, fun _ => rfl, [], by simp, by simp⟩

/-- A move calls no observer, and what it commits has to wait. -/
theorem Stuck.move {later later' : Session σ κ μ} (h : Stuck session later)
    (move : Move later later') : Stuck session later' := by
  obtain ⟨commits, hhistory, hpending⟩ := h.backlog
  have hdelivering := move.isDelivering.trans h.isDelivering
  cases move with
  | @commit next _ hne =>
    refine ⟨hdelivering, fun id => ?_, commits ++ [next], ?_, ?_⟩
    · rw [callsOf_commit, h.callsOf]
    · rw [history_commit_of_ne hne, hhistory, List.append_assoc]
    · rw [pending_commit_of_ne hne, hpending, List.append_assoc]
  | register reaction =>
    refine ⟨hdelivering, fun id => ?_, commits, hhistory, hpending⟩
    rw [← h.callsOf, callsOf_note]
    exact List.append_nil _
  | remove id => exact ⟨hdelivering, h.callsOf, commits, hhistory, hpending⟩
  | note habout _ =>
    refine ⟨hdelivering, fun id => ?_, commits, hhistory, hpending⟩
    rw [← h.callsOf, callsOf_note, Incident.callOf?_of_about?_eq_none habout, Option.toList_none,
      List.append_nil]
  | aside aside =>
    refine ⟨hdelivering, fun id => ?_, commits, aside.history.trans hhistory,
      aside.pending.trans hpending⟩
    rw [← h.callsOf, Session.callsOf, aside.log, Session.callsOf]

theorem Stuck.moves {later later' : Session σ κ μ} (h : Stuck session later)
    (moves : Moves later later') : Stuck session later' := by
  induction moves with
  | refl => exact h
  | tail _ move ih => exact ih.move move

/-- While a delivery is in progress, every request comes down to moves. -/
theorem moves_perform (hdelivering : session.state.isDelivering = true) (client : Client σ κ μ)
    (rounds : Nat) (request : Request σ κ) :
    Moves session (session.perform client rounds request).1 := by
  by_cases hupdate : ∃ change, request = .update change
  · obtain ⟨change, rfl⟩ := hupdate
    change Moves session (session.update client rounds change).1
    rw [update_fst]
    split
    · exact moves_apply (fun _ h => flush_of_isDelivering client rounds rounds h) hdelivering change
    · exact .refl
  · exact moves_perform_of_ne client rounds (not_exists.mp hupdate)

/-- **A delivery that is in progress between requests is never taken up again**, whatever is asked
for. -/
theorem stuck_run (client : Client σ κ μ) (rounds : Nat) (h : session.state.isDelivering = true) :
    ∀ more : List (Request σ κ), Stuck session (Session.run client rounds more session).1 := by
  have hrun : ∀ (more : List (Request σ κ)) {later : Session σ κ μ}, Stuck session later →
      Stuck session (Session.run client rounds more later).1 := by
    intro more
    induction more with
    | nil => exact id
    | cons request rest ih =>
      intro later hlater
      unfold Session.run
      split
      · exact hlater
      · exact ih (hlater.moves (moves_perform hlater.isDelivering client rounds request))
  exact fun more => hrun more (.refl h)

/-! ## How they come about -/

/-- **A call stays open if and only if a failure came out of it**: then the function of the update
itself gave a snapshot, and the update fails nevertheless. -/
theorem Settled.not_quiet_apply (h : Settled session)
    (hresting : session.state.isDelivering = false) (client : Client σ κ μ)
    (rounds depth : Nat) (change : σ → Option σ) :
    ¬(session.apply (Session.flush client rounds depth) change).1.Quiet ↔
      (change session.state.value).isSome ∧
        (session.apply (Session.flush client rounds depth) change).2 = .error .failed := by
  have hrests := h.rests hresting
  unfold Session.apply
  cases change session.state.value with
  | none => simp [hrests.quiet]
  | some next =>
    by_cases heq : next = session.state.value
    · simp [heq, hrests.quiet]
    · cases hflush : Session.flush client rounds depth (session.commit next) with
      | mk after ok =>
        have hcommit : (session.commit next).state.isDelivering = false :=
          (Observable.isDelivering_commit _ _).trans hresting
        obtain ⟨-, -, hquiet⟩ :=
          (hrests.toFair.commit heq).flush (hrests.quiet.commit next) hcommit hflush
        cases ok <;> simp [heq, hflush, hquiet]

omit [DecidableEq σ] in
/-- While a call is open, a delivery is in progress. -/
theorem Settled.isDelivering_of_not_quiet (h : Settled session) (hopen : ¬session.Quiet) :
    session.state.isDelivering = true := by
  by_contra hended
  exact hopen (h.rests (Bool.eq_false_iff.mpr hended)).quiet

/-- **An update leaves a delivery in progress if and only if its own function gives a snapshot and
the update fails nevertheless**: an observer failed, or the cascade did not end. -/
theorem Settled.stuck_update (h : Settled session) (hresting : session.state.isDelivering = false)
    (client : Client σ κ μ) (rounds : Nat) (change : σ → Option σ) :
    (session.update client rounds change).1.state.isDelivering = true ↔
      (change session.state.value).isSome ∧
        (session.update client rounds change).2 = .error .failed := by
  have happly := h.apply client rounds rounds change
  have hopen := h.not_quiet_apply hresting client rounds rounds change
  unfold Session.update
  split
  · cases houtcome : session.apply (Session.flush client rounds rounds) change with
    | mk after answer =>
      rw [houtcome] at happly hopen
      cases answer with
      | ok next =>
        have hsome : (change session.state.value).isSome := by
          cases hchange : change session.state.value with
          | none => rw [apply_of_none hchange] at houtcome; cases houtcome
          | some next => rfl
        cases hended : after.state.isDelivering <;> simp [hended, hresting, hsome]
      | error refusal =>
        obtain rfl := eq_failed_of_apply houtcome
        cases hchange : change session.state.value with
        | none =>
          rw [apply_of_none hchange] at houtcome
          cases houtcome
          simp [hresting]
        | some next =>
          have hstuck : after.state.isDelivering = true :=
            happly.isDelivering_of_not_quiet (hopen.mpr ⟨by rw [hchange]; rfl, rfl⟩)
          simp [hstuck]
  · simp [hresting]

/-! ## What failing updates do -/

/-- **Failing updates are contained, unless they fail in an observer.** Whatever an owner asks of a
fresh session, one request after the other, and whatever the observers do while they are called —

* an update whose function fails changes nothing, wherever it is asked for; from outside, the
  session is as if it had not been asked for;
* no commit is undone, whatever follows, and subscriptions yield the commits from their opening on;
* as long as no delivery is left in progress, nothing is pending and every call has returned, and
  everyone who is registered was called with all commits since the registration;
* an update leaves a call open, from which the observer let a failure out, if and only if its own
  function gives a snapshot and it fails nevertheless; then it leaves a delivery in progress, and
  otherwise only if the cascade did not end within its rounds;
* once a delivery is left in progress no observer is called any more, and all commits stay pending.

**Proof sketch.** Observers act by moves, up to the failure, and moves undo no commit. A delivery
that fails is not ended, and one that is asked for later does nothing, since the container takes
the failed one to be in progress. So later updates come down to moves, too. -/
theorem failing_updates_contained (client : Client σ κ μ) (rounds : Nat) (first : σ) (memory : μ)
    (requests : List (Request σ κ)) :
    let session := (Session.run client rounds requests (Session.start first memory)).1
    (∀ (world : Session σ κ μ) flush change, change world.state.value = none →
      world.apply flush change = (world, .error .failed)) ∧
    (∀ change, change session.state.value = none →
      (session.update client rounds change).1 = session) ∧
    (∀ more, session.state.history <+: (Session.run client rounds more session).1.state.history) ∧
    (∀ (name : String) (id : Nat), session.subscriptions[name]? = some id →
      session.takenFrom id ++ session.state.queued id = session.commitsFrom id) ∧
    (session.state.isDelivering = false → session.Quiet ∧ session.state.pending = [] ∧
      ∀ id ∈ session.ids, session.commitsSince id <:+ session.callsOf id ∧
        (session.commitsSince id ≠ [] →
          (session.callsOf id).getLast? = session.state.history.getLast?)) ∧
    (session.state.isDelivering = false → ∀ change,
      ((session.update client rounds change).1.state.isDelivering = true ↔
        (change session.state.value).isSome ∧
          (session.update client rounds change).2 = .error .failed) ∧
      (¬(session.apply (Session.flush client rounds rounds) change).1.Quiet ↔
        (change session.state.value).isSome ∧
          (session.apply (Session.flush client rounds rounds) change).2 = .error .failed)) ∧
    (¬session.Quiet → session.state.isDelivering = true) ∧
    (session.state.isDelivering = true → ∀ more,
      Stuck session (Session.run client rounds more session).1) := by
  intro session
  obtain ⟨hsettled, -⟩ := Settled.run client rounds requests (settled_start (κ := κ) first memory)
  obtain ⟨hledger, hnamed⟩ := (ledger_start first memory).1.steps (ledger_start first memory).2
    (steps_run client rounds requests (Session.start first memory))
  refine ⟨fun world flush change hnone => apply_of_none hnone flush,
    fun change hnone => update_of_none hnone client rounds,
    fun more => (steps_run client rounds more session).history,
    fun name id hname => (hledger.reads hnamed hname).complete, fun hresting => ?_,
    fun hresting change => ⟨hsettled.stuck_update hresting client rounds change,
      hsettled.not_quiet_apply hresting client rounds rounds change⟩,
    hsettled.isDelivering_of_not_quiet, stuck_run client rounds⟩
  have hrests := hsettled.rests hresting
  exact ⟨hrests.quiet, hrests.nothing, fun id hid => hrests.last hid⟩

/-- An update that fails from outside, between two that do not: the observer sees both. -/
theorem failing_updates_contained_counter :
    let requests : List (Request Int64 Counter.Watcher) :=
      [.register "observer" ⟨"observer", []⟩, .update fun value => some (value + 1),
        .update fun _ => none, .update fun value => some (value + 1)]
    let session := (Session.run Counter.client 4 requests (Session.start 0 ())).1
    session.state.history = [1, 2] ∧ session.state.pending = [] ∧
      (session.callsOf 0).getLast? = some 2 := by
  intro requests session
  obtain ⟨-, -, -, -, hserved, -⟩ :=
    failing_updates_contained Counter.client 4 (0 : Int64) () requests
  obtain ⟨-, hpending, hlast⟩ := hserved (by decide +kernel)
  have hhistory : session.state.history = [1, 2] := by decide +kernel
  refine ⟨hhistory, hpending, ?_⟩
  rw [(hlast 0 (by decide +kernel)).2 (by decide +kernel), hhistory]
  rfl

/-- Observers one of which asks for an update that fails, and lets the failure out. -/
def brittle : Client Nat Bool Unit := fun fails _ _ =>
  if fails then .act (.update fun _ => none) (.done false) else .done false

/-- **Commits that no observer is called with**: the first observer lets a failure out when it is
called with the first commit. The second observer is called with neither that commit nor the next
one, of which it would have been told if the update had not been asked for. -/
theorem undelivered_after_failure :
    let requests : Bool → List (Request Nat Bool) := fun fails =>
      [.register "first" fails, .register "second" false,
        .update fun value => some (value + 1), .update fun value => some (value + 1)]
    let failed := (Session.run brittle 4 (requests true) (Session.start 0 ())).1
    let other := (Session.run brittle 4 (requests false) (Session.start 0 ())).1
    failed.state.history = [1, 2] ∧ failed.ids = [0, 1] ∧ failed.callsOf 1 = [] ∧
      other.state.history = [1, 2] ∧ other.ids = [0, 1] ∧ other.callsOf 1 = [1, 2] := by
  decide +kernel

end Session

end FormTree

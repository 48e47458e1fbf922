import FormTree.Proofs.Observable.Subscriptions

set_option autoImplicit false

/-!
# What an observer starts with

An observer may be registered while a delivery is in progress: by another observer, during its call.
A round takes its snapshot to the observers that are registered when it starts, and not to those
that were registered at the commit. So whoever is registered in the meantime is called with what is
pending already, and only then with the commits that follow. A subscription that is opened at the
same moment yields the commits that follow, and nothing else.

What is pending is not in the log. Therefore a run of a session is told as a chain of moments, each
with the round that is underway, so that one can go back to the moment of a registration.

## Main definitions

* `FormTree.Session.Moment` — a session with the round that is underway.
* `FormTree.Session.Passage` — what may happen at a moment, one thing at a time.
* `FormTree.Session.Moment.Fit` — what holds at any moment.
* `FormTree.Session.Moment.Shows` — what an observer is shown from its registration on.

## Main results

* `FormTree.Session.Moment.Fit.passages_run` — whatever an owner asks for comes down to passages.
* `FormTree.Session.Passages.exists_registration` — the moment of a registration.
* `FormTree.Session.Moment.Shows.passage` — what is shown to an observer stays in step.
* `FormTree.Session.observers_start_with_pending` — what observers are shown after any requests.
* `FormTree.Session.observer_called_with_earlier_commit` — an observer that is shown the past.
-/

namespace FormTree

variable {σ κ μ : Type}

namespace Session

/-! ## The log -/

section Log

variable {session : Session σ κ μ} {id : Nat}

/-- A commit is one since the registration of an observer that was registered. -/
theorem commitsSince_note_committed (h : .registered id ∈ session.log) (next : σ) :
    (session.note (.committed next)).commitsSince id = session.commitsSince id ++ [next] := by
  have hsome : (session.log.dropWhile (!·.isRegistrationOf id)).isEmpty = false := by
    refine List.isEmpty_eq_false_iff.mpr fun hnil => ?_
    simpa [Incident.isRegistrationOf] using List.dropWhile_eq_nil_iff.mp hnil _ h
  unfold commitsSince
  rw [log_note, List.dropWhile_append, hsome, if_neg Bool.false_ne_true, List.filterMap_append]
  rfl

/-- The commits since a registration are those that follow it in the log. -/
theorem commitsSince_of_log {before after : List (Incident σ κ)}
    (hlog : session.log = before ++ .registered id :: after) (hfirst : .registered id ∉ before) :
    session.commitsSince id = after.filterMap (·.commit?) := by
  have hbefore : ∀ incident ∈ before, (!incident.isRegistrationOf id) = true := by
    intro incident hmem
    cases incident with
    | registered other =>
      have hne : other ≠ id := fun heq => hfirst (heq ▸ hmem)
      simp [Incident.isRegistrationOf, hne]
    | _ => rfl
  rw [commitsSince, hlog, List.dropWhile_append_of_pos hbefore]
  simp [Incident.isRegistrationOf, Incident.commit?]

/-- The commits from an opening on are those that follow it in the log. -/
theorem commitsFrom_of_log {before after : List (Incident σ κ)}
    (hlog : session.log = before ++ .opened id :: after)
    (honce : session.log.countP (·.isOpeningOf id) ≤ 1) :
    session.commitsFrom id = after.filterMap (·.commit?) := by
  have hbefore : ∀ incident ∈ before, (!incident.isOpeningOf id) = true := by
    have hcount : before.countP (·.isOpeningOf id) = 0 := by
      rw [hlog, List.countP_append, List.countP_cons_of_pos (by simp [Incident.isOpeningOf])]
        at honce
      omega
    simpa using List.countP_eq_zero.mp hcount
  rw [commitsFrom, hlog, List.dropWhile_append_of_pos hbefore]
  simp [Incident.isOpeningOf, Incident.commit?]

end Log

/-! ## Moments -/

/-- A session at some moment, with the round that is underway. -/
structure Moment (σ κ μ : Type) where
  /-- The session as it stands. -/
  session : Session σ κ μ
  /-- The snapshot of the last round; none before the first one. -/
  due : List σ
  /-- The observers that wait for this snapshot, in the order in which they are served. -/
  waiting : List Nat

namespace Moment

/-- The moment before anything happened. -/
def start (value : σ) (memory : μ) : Moment σ κ μ := ⟨Session.start value memory, [], []⟩

/-- The moment after an observer is registered. -/
def register (now : Moment σ κ μ) (reaction : κ) : Moment σ κ μ :=
  { now with
    session := { now.session with state := now.session.state.watch reaction }.note
      (.registered now.session.state.nextObserver) }

end Moment

section Passages

variable [DecidableEq σ]

/-- What may happen at a moment, one thing at a time. -/
inductive Passage : Moment σ κ μ → Moment σ κ μ → Prop
  /-- An observer, or an owner, does something. -/
  | move {session session' : Session σ κ μ} {due : List σ} {waiting : List Nat} :
    Move session session' → Passage ⟨session, due, waiting⟩ ⟨session', due, waiting⟩
  /-- A commit starts a delivery. -/
  | start {session : Session σ κ μ} {due : List σ} {waiting : List Nat} {next : σ} :
    session.state.isDelivering = false → next ≠ session.state.value →
    Passage ⟨session, due, waiting⟩ ⟨place.start (session.commit next), due, waiting⟩
  /-- The oldest pending snapshot is taken to the observers that are registered by then. -/
  | round {session : Session σ κ μ} {due pending : List σ} {snapshot : σ} :
    session.state.pending = snapshot :: pending →
    Passage ⟨session, due, []⟩ ⟨place.pop session pending, [snapshot], session.ids⟩
  /-- The next observer is still registered and is called. -/
  | call {session : Session σ κ μ} {snapshot : σ} {observer : Observer κ} {rest : List Nat} :
    observer.id ∈ session.ids → session.Quiet →
    Passage ⟨session, [snapshot], observer.id :: rest⟩
      ⟨session.note (.called observer snapshot), [snapshot], rest⟩
  /-- The next observer is gone. -/
  | skip {session : Session σ κ μ} {due : List σ} {id : Nat} {rest : List Nat} :
    id ∉ session.ids → Passage ⟨session, due, id :: rest⟩ ⟨session, due, rest⟩
  /-- An observer returns from its call. -/
  | return {session : Session σ κ μ} {due : List σ} {waiting : List Nat} {id : Nat} :
    id < session.state.nextObserver →
    Passage ⟨session, due, waiting⟩ ⟨session.note (.returned id), due, waiting⟩
  /-- Nothing is pending any more, and the delivery ends. -/
  | finish {session : Session σ κ μ} {due : List σ} : session.state.pending = [] →
    Passage ⟨session, due, []⟩ ⟨place.rest session, due, []⟩

variable {session session' : Session σ κ μ} {due : List σ} {waiting : List Nat}
  {now later : Moment σ κ μ} {id : Nat}

/-- Several passages, one after the other. -/
abbrev Passages : Moment σ κ μ → Moment σ κ μ → Prop := Relation.ReflTransGen Passage

/-- Moves are passages. -/
theorem Moves.passages (moves : Moves session session') (due : List σ) (waiting : List Nat) :
    Passages ⟨session, due, waiting⟩ ⟨session', due, waiting⟩ := by
  induction moves with
  | refl => exact .refl
  | tail _ move ih => exact ih.tail (.move move)

/-! ## What holds at any moment -/

/-- What holds at any moment. -/
structure Moment.Fit (now : Moment σ κ μ) : Prop where
  fair : Fair now.due now.waiting now.session
  /-- No observer waits twice. -/
  once : now.waiting.Nodup
  /-- The history is what the log says. -/
  logged : now.session.state.history = now.session.log.filterMap (·.commit?)
  /-- While no delivery is in progress there is nothing to deliver. -/
  rests : now.session.state.isDelivering = false →
    now.session.state.pending = [] ∧ now.waiting = []

omit [DecidableEq σ] in
theorem Moment.fit_start (value : σ) (memory : μ) :
    (Moment.start value memory : Moment σ κ μ).Fit :=
  ⟨((settled_start value memory).rests rfl).toFair, List.nodup_nil, rfl, fun _ => ⟨rfl, rfl⟩⟩

omit [DecidableEq σ] in
/-- What is noted and is no commit, is not in the history. -/
theorem commits_note {incident : Incident σ κ} (h : incident.commit? = none) :
    (session.note incident).log.filterMap (·.commit?) = session.log.filterMap (·.commit?) := by
  simp [h]

/-- A move commits to the history what it commits to the log. -/
theorem Move.logged (move : Move session session')
    (h : session.state.history = session.log.filterMap (·.commit?)) :
    session'.state.history = session'.log.filterMap (·.commit?) := by
  cases move with
  | commit _ hne =>
    rw [history_commit_of_ne hne, h]
    simp [Session.commit, Incident.commit?]
  | register _ => exact h.trans (commits_note rfl).symm
  | remove _ => exact h
  | note _ hcommit => exact h.trans (commits_note hcommit).symm
  | aside aside => rw [aside.history, aside.log, h]

/-- **A passage keeps what holds at any moment.** -/
theorem Moment.Fit.passage (h : now.Fit) (passage : Passage now later) : later.Fit := by
  cases passage with
  | @move session _ _ _ move =>
    refine ⟨h.fair.move move, h.once, move.logged h.logged, fun hresting => ?_⟩
    have hbefore : session.state.isDelivering = false := move.isDelivering.symm.trans hresting
    exact ⟨(Moves.pending_of_resting (.single move) hbefore).trans (h.rests hbefore).1,
      (h.rests hbefore).2⟩
  | start _ hne =>
    refine ⟨(h.fair.commit hne).delivery true, h.once, ?_, nofun⟩
    refine (history_commit_of_ne hne).trans ?_
    rw [h.logged]
    simp [place, Place.start, Place.modify, Session.commit, Incident.commit?]
  | round hpending =>
    refine ⟨h.fair.over.begin hpending, h.fair.nodup, h.logged, fun hresting => ?_⟩
    rw [(h.rests hresting).1] at hpending
    cases hpending
  | call hmem hquiet =>
    obtain ⟨hnot, hrest⟩ := List.nodup_cons.mp h.once
    refine ⟨h.fair.call hmem hnot hquiet, hrest, h.logged.trans (commits_note rfl).symm,
      fun hresting => ?_⟩
    cases (h.rests hresting).2
  | skip hgone =>
    refine ⟨h.fair.skip hgone, (List.nodup_cons.mp h.once).2, h.logged, fun hresting => ?_⟩
    cases (h.rests hresting).2
  | «return» hlt =>
    exact ⟨h.fair.return hlt, h.once, h.logged.trans (commits_note rfl).symm, h.rests⟩
  | finish hnone => exact ⟨h.fair.delivery false, h.once, h.logged, fun _ => ⟨hnone, rfl⟩⟩

theorem Moment.Fit.passages (h : now.Fit) (passages : Passages now later) : later.Fit := by
  induction passages with
  | refl => exact h
  | tail _ passage ih => exact ih.passage passage

/-! ## Runs are chains of moments -/

section Inner

variable {inner : Session σ κ μ → Session σ κ μ × Bool}
  (hinner : ∀ session : Session σ κ μ, session.state.isDelivering = true →
    inner session = (session, true))

include hinner

/-- **One call**: the observer is called, does what it does, and returns unless it fails. -/
theorem Moment.Fit.passages_react {client : Client σ κ μ} {snapshot : σ} {observer : Observer κ}
    {rest : List Nat} (h : Moment.Fit ⟨session, [snapshot], observer.id :: rest⟩)
    (hmem : observer.id ∈ session.ids) (hquiet : session.Quiet)
    (hdelivering : session.state.isDelivering = true) :
    Passages ⟨session, [snapshot], observer.id :: rest⟩
      ⟨(Session.react client inner observer snapshot session).1, [snapshot], rest⟩ := by
  have moves : Moves (session.note (.called observer snapshot)) _ :=
    moves_follow hinner (client observer.reaction snapshot session.memory) hdelivering
  unfold Session.react
  split
  · next hfollow =>
    rw [hfollow] at moves
    exact .head (.call hmem hquiet) (moves.passages _ _)
  · next hfollow =>
    rw [hfollow] at moves
    have hlt := Nat.lt_of_lt_of_le (h.fair.lt observer.id hmem) moves.nextObserver_le
    exact .tail (.head (.call hmem hquiet) (moves.passages _ _)) (.return hlt)

/-- **One round**: if no observer fails and nothing gets blocked, no one waits any more.

**Proof sketch.** By induction on those who wait: the next one is called, or it is gone; and then
the round lets go of it. -/
theorem Moment.Fit.passages_deliver (client : Client σ κ μ) {snapshot : σ} :
    ∀ (list : List (Observer κ)) {session after : Session σ κ μ} {ok : Bool},
      Moment.Fit ⟨session, [snapshot], list.map (·.id)⟩ → session.Quiet →
      session.state.isDelivering = true →
      place.deliver (Session.react client inner) snapshot list session = (after, ok) →
      ∃ waiting, Passages ⟨session, [snapshot], list.map (·.id)⟩ ⟨after, [snapshot], waiting⟩ ∧
        (ok = true → after.isBlocked = false → waiting = []) := by
  intro list
  induction list with
  | nil =>
    intro session after ok _ _ _ hdeliver
    cases hdeliver
    exact ⟨[], .refl, fun _ _ => rfl⟩
  | cons observer rest ih =>
    intro session after ok h hquiet hdelivering hdeliver
    -- once the next one is served, the round lets go of it and goes on
    have hnext : ∀ {served : Session σ κ μ},
        Passages ⟨session, [snapshot], observer.id :: rest.map (·.id)⟩
          ⟨served, [snapshot], rest.map (·.id)⟩ →
        served.Quiet → served.state.isDelivering = true →
        place.deliver (Session.react client inner) snapshot rest
          (place.letGo observer rest served) = (after, ok) →
        ∃ waiting, Passages ⟨session, [snapshot], observer.id :: rest.map (·.id)⟩
            ⟨after, [snapshot], waiting⟩ ∧
          (ok = true → after.isBlocked = false → waiting = []) := by
      intro served passages hquiet' hdelivering' hrest
      have moves : Moves served (place.letGo observer rest served) :=
        (handlings_letGo _ _ _).moves
      have released := passages.trans (moves.passages [snapshot] (rest.map (·.id)))
      obtain ⟨waiting, others, hwaiting⟩ := ih (h.passages released) (hquiet'.moves moves)
        (moves.isDelivering.trans hdelivering') hrest
      exact ⟨waiting, released.trans others, hwaiting⟩
    unfold Place.deliver at hdeliver
    split at hdeliver
    · next hblocked =>
      cases hdeliver
      exact ⟨_, .refl, fun _ hfree => absurd (hfree.symm.trans hblocked) Bool.false_ne_true⟩
    · split at hdeliver
      · next hactive =>
        have hmem : observer.id ∈ session.ids := mem_ids.mpr hactive
        have called : Passages ⟨session, [snapshot], observer.id :: rest.map (·.id)⟩
            ⟨(Session.react client inner observer snapshot session).1, [snapshot],
              rest.map (·.id)⟩ := h.passages_react hinner hmem hquiet hdelivering
        cases hreact : Session.react client inner observer snapshot session with
        | mk served flow =>
          obtain ⟨-, hdelivering', hquiet'⟩ := h.fair.react hinner hmem
            (List.nodup_cons.mp h.once).1 hquiet hdelivering hreact
          rw [hreact] at hdeliver called
          cases flow with
          | stay => exact hnext called (hquiet'.mpr (by decide)) hdelivering' hdeliver
          | leave =>
            exact hnext (called.tail (.move (.remove observer.id))) (hquiet'.mpr (by decide))
              hdelivering' hdeliver
          | fail =>
            cases hdeliver
            exact ⟨_, called.trans ((moves_giveUp (observer :: rest)).passages _ _),
              fun hok => absurd hok Bool.false_ne_true⟩
      · next hgone =>
        exact hnext (.single (.skip fun hmem => hgone (mem_ids.mp hmem))) hquiet hdelivering
          hdeliver

/-- **A delivery**, one round after the other. -/
theorem Moment.Fit.passages_drain (client : Client σ κ μ) :
    ∀ (rounds : Nat) {session : Session σ κ μ} {due : List σ}, Moment.Fit ⟨session, due, []⟩ →
      session.Quiet → session.state.isDelivering = true →
      ∃ later, Passages ⟨session, due, []⟩ later ∧
        later.session = (place.drain (Session.react client inner) rounds session).1 := by
  intro rounds
  induction rounds with
  | zero => exact fun _ _ _ => ⟨_, .refl, rfl⟩
  | succ rounds ih =>
    intro session due h hquiet hdelivering
    cases hfree : session.isBlocked with
    | true => exact ⟨_, .refl, (congrArg Prod.fst (place.drain_of_isBlocked _ hfree _)).symm⟩
    | false =>
      cases hpending : session.state.pending with
      | nil =>
        rw [place.drain_eq_rest _ hfree hpending]
        exact ⟨_, .single (.finish hpending), rfl⟩
      | cons snapshot pending =>
        have begun : Passage ⟨session, due, []⟩
          ⟨place.pop session pending, [snapshot], session.ids⟩ := .round hpending
        have hold : Moves (place.pop session pending) (place.gather session pending) :=
          (handlings_hold _ _).moves
        have held := Relation.ReflTransGen.head begun (hold.passages [snapshot] session.ids)
        have hheld := h.passages held
        cases hdeliver : place.deliver (Session.react client inner) snapshot
            (place.get (place.pop session pending)).observers
            (place.gather session pending) with
        | mk served ok =>
          obtain ⟨waiting, delivered, hwaiting⟩ :=
            hheld.passages_deliver hinner client _ hquiet hdelivering hdeliver
          obtain ⟨-, hdelivering', -, hquiet'⟩ :=
            fair_deliver hinner client _ hheld.fair hheld.once hquiet hdelivering hdeliver
          have passages := held.trans delivered
          rw [place.drain_eq_round _ hfree hpending hdeliver]
          cases ok with
          | true =>
            cases hblocked : served.isBlocked with
            | true =>
              exact ⟨_, passages, (congrArg Prod.fst (place.drain_of_isBlocked _ hblocked _)).symm⟩
            | false =>
              obtain rfl := hwaiting rfl hblocked
              obtain ⟨later, rest, hlater⟩ :=
                ih (h.passages passages) (hquiet'.mpr rfl) hdelivering'
              exact ⟨later, passages.trans rest, hlater⟩
          | false => exact ⟨_, passages, rfl⟩

end Inner

/-- **An update**, with the delivery that it starts unless one is in progress. -/
theorem Moment.Fit.passages_apply (h : now.Fit) (hsettled : Settled now.session)
    (client : Client σ κ μ) (rounds depth : Nat) (change : σ → Option σ) :
    ∃ later, Passages now later ∧
      later.session = (now.session.apply (Session.flush client rounds depth) change).1 := by
  obtain ⟨session, due, waiting⟩ := now
  cases hresting : session.state.isDelivering with
  | true =>
    have moves : Moves session (session.apply (Session.flush client rounds depth) change).1 :=
      moves_apply (fun _ hdelivering => flush_of_isDelivering client rounds depth hdelivering)
        hresting change
    exact ⟨_, moves.passages due waiting, rfl⟩
  | false =>
    unfold Session.apply
    cases change session.state.value with
    | none => exact ⟨_, .refl, rfl⟩
    | some next =>
      dsimp only
      split
      · exact ⟨_, .refl, rfl⟩
      · next hne =>
        obtain ⟨inner, hinner, hflush⟩ := exists_flush client rounds depth
        obtain rfl : waiting = [] := (h.rests hresting).2
        have started : Passage ⟨session, due, []⟩ ⟨place.start (session.commit next), due, []⟩ :=
          .start hresting hne
        obtain ⟨later, passages, hlater⟩ := (h.passage started).passages_drain hinner client rounds
          ((hsettled.rests hresting).quiet.commit next) rfl
        refine ⟨later, .head started passages, hlater.trans ?_⟩
        have hcommit : (place.get (session.commit next)).isDelivering = false :=
          (Observable.isDelivering_commit _ _).trans hresting
        rw [hflush, place.flush_of_resting _ hcommit]
        split <;> next heq => rw [heq]

/-- **Any request comes down to passages.** -/
theorem Moment.Fit.passages_perform (h : now.Fit) (hsettled : Settled now.session)
    (client : Client σ κ μ) (rounds : Nat) (request : Request σ κ) :
    ∃ later, Passages now later ∧
      later.session = (now.session.perform client rounds request).1 := by
  by_cases hupdate : ∃ change, request = .update change
  · obtain ⟨change, rfl⟩ := hupdate
    change ∃ later, Passages now later ∧
      later.session = (now.session.update client rounds change).1
    rw [update_fst]
    split
    · exact h.passages_apply hsettled client rounds rounds change
    · exact ⟨now, .refl, rfl⟩
  · have moves : Moves now.session (now.session.perform client rounds request).1 :=
      moves_perform_of_ne client rounds (not_exists.mp hupdate)
    exact ⟨_, moves.passages now.due now.waiting, rfl⟩

/-- **Whatever an owner asks for comes down to passages.** -/
theorem Moment.Fit.passages_run (client : Client σ κ μ) (rounds : Nat) :
    ∀ (requests : List (Request σ κ)) {now : Moment σ κ μ}, now.Fit → Settled now.session →
      ∃ later, Passages now later ∧
        later.session = (Session.run client rounds requests now.session).1 := by
  intro requests
  induction requests with
  | nil => exact fun _ _ => ⟨_, .refl, rfl⟩
  | cons request rest ih =>
    intro now h hsettled
    unfold Session.run
    split
    · exact ⟨now, .refl, rfl⟩
    · obtain ⟨later, first, hlater⟩ := h.passages_perform hsettled client rounds request
      obtain ⟨last, others, hlast⟩ :=
        ih (h.passages first) (hlater ▸ (hsettled.perform client rounds request).1)
      refine ⟨last, first.trans others, hlast.trans ?_⟩
      rw [hlater]

/-! ## The moment of a registration -/

/-- A passage notes at most one incident; only the registration of an observer is noted as one. -/
theorem Passage.log (passage : Passage now later) :
    later.session.log = now.session.log ∨
      ∃ incident, later.session.log = now.session.log ++ [incident] ∧
        ∀ id, incident = .registered id →
          now.session.state.nextObserver = id ∧ ∃ reaction, later = now.register reaction := by
  cases passage with
  | move move =>
    cases move with
    | commit _ _ => exact .inr ⟨_, rfl, nofun⟩
    | register reaction =>
      exact .inr ⟨_, rfl, fun id heq => ⟨Incident.registered.inj heq, reaction, rfl⟩⟩
    | remove _ => exact .inl rfl
    | note habout _ =>
      refine .inr ⟨_, rfl, fun id heq => ?_⟩
      rw [heq] at habout
      cases habout
    | aside aside => exact .inl aside.log
  | start _ _ => exact .inr ⟨_, rfl, nofun⟩
  | round _ => exact .inl rfl
  | call _ _ => exact .inr ⟨_, rfl, nofun⟩
  | skip _ => exact .inl rfl
  | «return» _ => exact .inr ⟨_, rfl, nofun⟩
  | finish _ => exact .inl rfl

/-- **A registration that the log tells of has its moment.**

**Proof sketch.** By induction on the passages. The last one noted the registration, and then its
own moment is the one; or the registration is in the log of the moment before. -/
theorem Passages.exists_registration {first : Moment σ κ μ} (passages : Passages first now)
    (hfirst : first.session.log = []) :
    ∀ {before after : List (Incident σ κ)},
      now.session.log = before ++ .registered id :: after →
      ∃ world reaction, Passages first world ∧ world.session.log = before ∧
        world.session.state.nextObserver = id ∧ Passages (world.register reaction) now := by
  induction passages with
  | refl =>
    intro before after hlog
    simp [hfirst] at hlog
  | @tail now later passages passage ih =>
    intro before after hlog
    rcases passage.log with hsame | ⟨incident, hnoted, hregister⟩
    · obtain ⟨world, reaction, hworld, hbefore, hid, hrest⟩ := ih (hsame.symm.trans hlog)
      exact ⟨world, reaction, hworld, hbefore, hid, hrest.tail passage⟩
    · rw [hnoted] at hlog
      rcases List.eq_nil_or_concat after with rfl | ⟨earlier, last, rfl⟩
      · obtain ⟨hbefore, hincident⟩ := List.append_inj' hlog rfl
        obtain ⟨hid, reaction, rfl⟩ := hregister id (List.singleton_inj.mp hincident)
        exact ⟨now, reaction, passages, hbefore, hid, .refl⟩
      · have hearlier : now.session.log = before ++ .registered id :: earlier := by
          rw [List.concat_eq_append, ← List.cons_append, ← List.append_assoc] at hlog
          exact (List.append_inj' hlog rfl).1
        obtain ⟨world, reaction, hworld, hbefore, hid, hrest⟩ := ih hearlier
        exact ⟨world, reaction, hworld, hbefore, hid, hrest.tail passage⟩

/-! ## What an observer is shown -/

/-- The observer `id` is registered, and it is shown `late` and then the commits since. -/
structure Moment.Shows (late : List σ) (id : Nat) (now : Moment σ κ μ) : Prop where
  registered : .registered id ∈ now.session.log
  lt : id < now.session.state.nextObserver
  shown : now.session.callsOf id <+: late ++ now.session.commitsSince id
  /-- As long as it is registered, the rest is to come. -/
  complete : id ∈ now.session.ids →
    now.session.callsOf id ++ now.session.outstanding now.due now.waiting id =
      late ++ now.session.commitsSince id

omit [DecidableEq σ] in
/-- **An observer that is registered is to be shown what is pending**, and nothing else so far. -/
theorem Moment.Fit.shows_register (h : now.Fit) (reaction : κ) :
    (now.register reaction).Shows now.session.state.pending now.session.state.nextObserver := by
  obtain ⟨hcalls, hcommits⟩ : now.session.callsOf now.session.state.nextObserver = [] ∧
      now.session.commitsSince now.session.state.nextObserver = [] :=
    eq_nil_of_about?_ne fun incident hmem heq =>
      Nat.lt_irrefl _ (h.fair.fresh incident hmem _ heq)
  have hcalls' : (now.register reaction).session.callsOf now.session.state.nextObserver = [] :=
    (callsOf_note _ _ _).trans ((List.append_nil _).trans hcalls)
  have hcommits' :
      (now.register reaction).session.commitsSince now.session.state.nextObserver = [] :=
    (commitsSince_note_of_commit?_eq_none rfl).trans hcommits
  have hwaits : now.session.state.nextObserver ∉ (now.register reaction).waiting :=
    fun hmem => Nat.lt_irrefl _ (h.fair.waits _ hmem)
  refine ⟨List.mem_append_right _ (List.mem_singleton_self _), Nat.lt_succ_self _, ?_, fun _ => ?_⟩
  · rw [hcalls']
    exact List.nil_prefix
  · rw [hcalls', hcommits', outstanding, if_neg hwaits, List.append_nil]
    rfl

omit [DecidableEq σ] in
/-- Where nothing is committed, no one called and no round proceeds, an observer is shown the
same. -/
theorem Moment.Shows.of_same {late : List σ} (h : Moment.Shows late id ⟨session, due, waiting⟩)
    (hlog : session.log <+: session'.log)
    (hcalls : session'.callsOf id = session.callsOf id)
    (hcommits : session'.commitsSince id = session.commitsSince id)
    (hpending : session'.state.pending = session.state.pending)
    (hnext : session.state.nextObserver ≤ session'.state.nextObserver)
    (hids : id ∈ session'.ids → id ∈ session.ids) :
    Moment.Shows late id ⟨session', due, waiting⟩ := by
  refine ⟨hlog.subset h.registered, Nat.lt_of_lt_of_le h.lt hnext, ?_, fun hmem => ?_⟩
  · rw [hcalls, hcommits]
    exact h.shown
  · rw [hcalls, hcommits, outstanding, hpending]
    exact h.complete (hids hmem)

/-- A commit is to be shown to everyone who is registered. -/
theorem Moment.Shows.commit {late : List σ} (h : Moment.Shows late id ⟨session, due, waiting⟩)
    {next : σ} (hne : next ≠ session.state.value) :
    Moment.Shows late id ⟨session.commit next, due, waiting⟩ := by
  have hcommits : (session.commit next).commitsSince id = session.commitsSince id ++ [next] :=
    commitsSince_note_committed h.registered next
  refine ⟨List.mem_append_left _ h.registered, ?_, ?_, fun hmem => ?_⟩
  · rw [nextObserver_commit]
    exact h.lt
  · rw [callsOf_commit, hcommits, ← List.append_assoc]
    exact h.shown.trans (List.prefix_append _ _)
  · rw [ids_commit] at hmem
    have hcomplete := h.complete hmem
    rw [outstanding] at hcomplete
    rw [callsOf_commit, hcommits, outstanding, pending_commit_of_ne hne, ← List.append_assoc late,
      ← hcomplete]
    simp

omit [DecidableEq σ] in
/-- A call takes the snapshot from what is to come. -/
theorem Moment.Shows.call {late : List σ} {snapshot : σ} {observer : Observer κ} {rest : List Nat}
    (h : Moment.Shows late id ⟨session, [snapshot], observer.id :: rest⟩)
    (hmem : observer.id ∈ session.ids) (hnot : observer.id ∉ rest) :
    Moment.Shows late id ⟨session.note (.called observer snapshot), [snapshot], rest⟩ := by
  have hcommits : (session.note (.called observer snapshot)).commitsSince id =
      session.commitsSince id := commitsSince_note_of_commit?_eq_none rfl
  have hcomplete : id ∈ session.ids → (session.note (.called observer snapshot)).callsOf id ++
      (session.note (.called observer snapshot)).outstanding [snapshot] rest id =
      late ++ (session.note (.called observer snapshot)).commitsSince id := fun hid => by
    rw [come_call hnot, hcommits]
    exact h.complete hid
  refine ⟨List.mem_append_left _ h.registered, h.lt, ?_, hcomplete⟩
  by_cases heq : observer.id = id
  · exact ⟨_, hcomplete (heq ▸ hmem)⟩
  · rw [callsOf_note, hcommits]
    simpa [Incident.callOf?, heq] using h.shown

/-- What an observer, or an owner, does, leaves what is shown in step. -/
theorem Moment.Shows.move {late : List σ} (h : Moment.Shows late id ⟨session, due, waiting⟩)
    (move : Move session session') : Moment.Shows late id ⟨session', due, waiting⟩ := by
  cases move with
  | commit _ hne => exact h.commit hne
  | register reaction =>
    refine h.of_same (List.prefix_append _ _) ((callsOf_note _ _ _).trans (List.append_nil _))
      (commitsSince_note_of_commit?_eq_none rfl) rfl (Nat.le_succ _) fun hmem => ?_
    rw [ids_register] at hmem
    refine (List.mem_append.mp hmem).resolve_right fun hnew => ?_
    exact Nat.ne_of_lt h.lt (List.mem_singleton.mp hnew)
  | remove other =>
    exact h.of_same List.prefix_rfl rfl rfl rfl (Nat.le_refl _)
      fun hmem => (ids_unwatch session other).subset hmem
  | note habout hcommit =>
    refine h.of_same (List.prefix_append _ _) ?_ (commitsSince_note_of_commit?_eq_none hcommit) rfl
      (Nat.le_refl _) fun hmem => hmem
    rw [callsOf_note, Incident.callOf?_of_about?_eq_none habout, Option.toList_none,
      List.append_nil]
  | aside aside =>
    refine h.of_same (aside.log ▸ List.prefix_rfl) ?_ ?_ aside.pending
      (Nat.le_of_eq aside.nextObserver.symm) fun hmem => aside.ids ▸ hmem
    · rw [callsOf, aside.log, callsOf]
    · rw [commitsSince, aside.log, commitsSince]

/-- **What is shown to an observer stays in step**: a commit is to come for it, and a call takes the
snapshot from what is to come. -/
theorem Moment.Shows.passage {late : List σ} (hfit : now.Fit) (h : now.Shows late id)
    (passage : Passage now later) : later.Shows late id := by
  cases passage with
  | move move => exact h.move move
  | start _ hne =>
    have hcommit := h.commit hne
    exact ⟨hcommit.registered, hcommit.lt, hcommit.shown, hcommit.complete⟩
  | round hpending =>
    refine ⟨h.registered, h.lt, h.shown, fun hmem => ?_⟩
    have hcomplete := h.complete hmem
    rw [outstanding, if_neg List.not_mem_nil, hpending] at hcomplete
    rw [outstanding]
    exact (congrArg (_ ++ ·) (congrArg (· ++ _) (if_pos hmem))).trans hcomplete
  | call hmem _ => exact h.call hmem (List.nodup_cons.mp hfit.once).1
  | @skip _ _ other _ hgone =>
    refine ⟨h.registered, h.lt, h.shown, fun hmem => ?_⟩
    have hne : id ≠ other := fun heq => hgone (heq ▸ hmem)
    have hcomplete := h.complete hmem
    simp only [outstanding, List.mem_cons, hne, false_or] at hcomplete ⊢
    exact hcomplete
  | «return» _ =>
    exact h.of_same (List.prefix_append _ _) ((callsOf_note _ _ _).trans (List.append_nil _))
      (commitsSince_note_of_commit?_eq_none rfl) rfl (Nat.le_refl _) fun hmem => hmem
  | finish _ => exact ⟨h.registered, h.lt, h.shown, h.complete⟩

theorem Moment.Shows.passages {late : List σ} (hfit : now.Fit) (h : now.Shows late id)
    (passages : Passages now later) : later.Shows late id := by
  induction passages with
  | refl => exact h
  | tail passages passage ih => exact ih.passage (hfit.passages passages) passage

/-! ## What observers start with -/

/-- **An observer starts with what is pending.** Whatever an owner asks of a fresh session, one
request after the other, and whatever the observers do while they are called: each registration
that the log tells of was made at some moment of this run, and what was pending at that moment are
the last commits before it;

* the observer is called with a first part of these and the commits that follow, in this order, and
  as long as it is registered, the rest is to come for it; at rest it was called with all of them;
* nothing was pending if no delivery was in progress at that moment, and then the observer is called
  with what follows only;
* a subscription that is opened later, but with no commit in between, yields exactly the commits
  that follow.

So an observer is called with a commit from before its registration if and only if one was pending
at that moment and it is called at all.

**Proof sketch.** A run is a chain of moments, on which one goes back to that of the registration.
There all that is pending is to come for the new observer, and nothing else. A commit is to come for
everyone who is registered, and a call takes its snapshot from what is to come. -/
theorem observers_start_with_pending (client : Client σ κ μ) (rounds : Nat) (value : σ) (memory : μ)
    (requests : List (Request σ κ)) :
    let session := (Session.run client rounds requests (Session.start value memory)).1
    ∀ before id after, session.log = before ++ .registered id :: after →
      ∃ (world : Moment σ κ μ) (reaction : κ) (now : Moment σ κ μ),
        Passages (.start value memory) world ∧ world.session.log = before ∧
        Passages (world.register reaction) now ∧ now.session = session ∧
        let late := world.session.state.pending
        let since := after.filterMap (·.commit?)
        late <:+ before.filterMap (·.commit?) ∧
        (world.session.state.isDelivering = false → late = []) ∧
        session.callsOf id <+: late ++ since ∧
        (id ∈ session.ids →
          session.callsOf id ++ session.outstanding now.due now.waiting id = late ++ since ∧
          (session.state.isDelivering = false → session.callsOf id = late ++ since)) ∧
        ∀ between number later, after = between ++ .opened number :: later →
          between.filterMap (·.commit?) = [] →
          ∀ name : String, session.subscriptions[name]? = some number →
            session.takenFrom number ++ session.state.queued number = since := by
  intro session before id after hlog
  have hstart : (Moment.start value memory : Moment σ κ μ).Fit := Moment.fit_start value memory
  obtain ⟨now, passages, hnow⟩ :=
    hstart.passages_run client rounds requests (settled_start value memory)
  have hsession : now.session = session := hnow
  obtain ⟨world, reaction, hworld, hbefore, hid, hrest⟩ :=
    passages.exists_registration rfl ((congrArg _ hsession).trans hlog)
  have hfit := hstart.passages hworld
  have hregistered : (world.register reaction).Fit := hfit.passage (.move (.register reaction))
  have hshows : now.Shows world.session.state.pending id :=
    (hid ▸ hfit.shows_register reaction).passages hregistered hrest
  have hfirst : Incident.registered id ∉ before := fun hmem =>
    Nat.lt_irrefl id (hid ▸ hfit.fair.fresh (.registered id) (hbefore ▸ hmem) id rfl)
  have hsince : session.commitsSince id = after.filterMap (·.commit?) :=
    commitsSince_of_log hlog hfirst
  obtain ⟨-, -, hshown, hcomplete⟩ := hshows
  rw [hsession, hsince] at hshown hcomplete
  refine ⟨world, reaction, now, hworld, hbefore, hrest, hsession, ?_,
    fun hresting => (hfit.rests hresting).1, hshown,
    fun hmem => ⟨hcomplete hmem, fun hresting => ?_⟩, ?_⟩
  · rw [← hbefore, ← hfit.logged]
    exact hfit.fair.pending
  · obtain ⟨hpending, hwaiting⟩ := ((hstart.passages passages).rests) (hsession ▸ hresting)
    have hcalls := hcomplete hmem
    rw [outstanding, hwaiting, ← hsession, hpending] at hcalls
    rw [← hcalls, hsession]
    simp
  · intro between number later hafter hbetween name hname
    obtain ⟨hledger, hnamed⟩ := (ledger_start value memory).1.steps (ledger_start value memory).2
      (steps_run client rounds requests (Session.start value memory))
    have hopened :
        session.log = (before ++ .registered id :: between) ++ .opened number :: later := by
      rw [hlog, hafter]
      simp
    rw [(hledger.reads hnamed hname).complete, commitsFrom_of_log hopened (hledger.once number),
      hafter, List.filterMap_append, hbetween, List.nil_append]
    exact (List.filterMap_cons_none rfl).symm

/-- The first observer adds to the counter while it is called, and then registers another one, which
starts with the commit that is pending. -/
theorem observers_start_with_pending_counter :
    let requests : List (Request Int64 Counter.Watcher) :=
      [.register "first" ⟨"first", [.mk { equal := some 1 } [.add 10, .watch "second" []]]⟩,
        .update fun value => some (value + 1)]
    let session := (Session.run Counter.client 4 requests (Session.start 0 ())).1
    ∃ before after late, session.log = before ++ .registered 1 :: after ∧
      late <:+ before.filterMap (·.commit?) ∧
      session.callsOf 1 = late ++ after.filterMap (·.commit?) := by
  intro requests session
  have hmem : 1 ∈ session.ids := by decide +kernel
  have hregistered : .registered 1 ∈ session.log :=
    (Settled.run Counter.client 4 requests (settled_start 0 ())).1.orderly.registered 1 hmem
  obtain ⟨before, after, hlog⟩ := List.append_of_mem hregistered
  obtain ⟨world, _, _, -, -, -, -, hlate, -, -, hcalls, -⟩ :=
    observers_start_with_pending Counter.client 4 0 () requests before 1 after hlog
  exact ⟨before, after, world.session.state.pending, hlog, hlate,
    (hcalls hmem).2 (by decide +kernel)⟩

/-- **An observer that is shown the past**: the first observer adds to the counter while it is
called, and then registers another one and opens a subscription. The other observer is called with
the 11 that was committed before; nothing is committed since, and the subscription yields
nothing. -/
theorem observer_called_with_earlier_commit :
    let requests : List (Request Int64 Counter.Watcher) :=
      [.register "first" ⟨"first", [.mk { equal := some 1 }
          [.add 10, .watch "second" [], .subscribe "third"]]⟩,
        .update fun value => some (value + 1)]
    let session := (Session.run Counter.client 4 requests (Session.start 0 ())).1
    session.state.history = [1, 11] ∧ session.callsOf 1 = [11] ∧ session.commitsSince 1 = [] ∧
      session.subscriptions["third"]? = some 0 ∧
      session.takenFrom 0 ++ session.state.queued 0 = [] := by
  decide +kernel

end Passages

end Session

end FormTree

import Mathlib.Logic.Function.Iterate
import FormTree.Proofs.Observable.Moments

set_option autoImplicit false

/-!
# The course of a run

The functions that compute a run call one another: requests lead to deliveries, these to rounds, to
calls of observers, and to what each observer does while it is called. To speak of what happens from
some point of a run on, say of the rest of a round after an observer did something, the run is taken
apart into steps, in which nothing of this is nested. A point of a run knows what is left to do.

## Main definitions

* `FormTree.Session.Stage` — what is being done at a point of a run.
* `FormTree.Session.Point` — a moment of a run, with what is left to do.
* `FormTree.Session.Point.next` — the next point.
* `FormTree.Session.Point.after` — the point after some number of steps.
* `FormTree.Session.Point.Sound` — what holds at any point.

## Main results

* `FormTree.Session.Point.exists_after_eq_run` — the course of a run ends where the run does.
* `FormTree.Session.Point.Sound.passages_next` — a step comes down to passages.
* `FormTree.Session.Point.Sound.next` — a step keeps what holds at any point.
-/

namespace FormTree

variable {σ κ μ : Type}

/-- The act is about observers and their handles. -/
def Act.isHandling : Act σ κ → Bool
  | .watch _ _ | .cancel _ | .entrust _ _ | .recover _ _ _ => true
  | _ => false

namespace Session

/-! ## Points -/

/-- A round of delivery that is underway. -/
structure Round (σ κ : Type) where
  /-- Its snapshot. -/
  snapshot : σ
  /-- The observers that wait for the snapshot. -/
  observers : List (Observer κ)
  /-- How many rounds may follow. -/
  left : Nat
  /-- An observer did not return, so that the round only lets go of the observers. -/
  isGivenUp : Bool := false

/-- What is being done at a point of a run. -/
inductive Stage (σ κ μ : Type) where
  /-- No one is at work until the next request. -/
  | idle
  /-- A delivery is between two rounds, and may run this many more. -/
  | rounds (left : Nat)
  /-- The snapshot of a round is taken to the observers. -/
  | serve (round : Round σ κ)
  /-- In a round, an observer is called and has this still to do. -/
  | call (observer : Observer κ) (script : Script σ κ μ) (round : Round σ κ)
  /-- In a round, handles are dropped that an observer owned of which the round let go. -/
  | release (handles : List Nat) (round : Round σ κ)

/-- A moment of a run, with what is left to do. -/
structure Point (σ κ μ : Type) extends Moment σ κ μ where
  /-- What is being done. -/
  stage : Stage σ κ μ
  /-- What will be asked for afterwards. -/
  requests : List (Request σ κ)

/-- The point at which a run starts. -/
def Point.start (value : σ) (memory : μ) (requests : List (Request σ κ)) : Point σ κ μ :=
  { Moment.start value memory with stage := .idle, requests }

section Course

variable [DecidableEq σ]

/-- The snapshot whose commit starts a delivery, if the request is an update that makes one while no
delivery is in progress. -/
def Request.starts? (session : Session σ κ μ) : Request σ κ → Option σ
  | .update change =>
    if session.isAlive && !session.state.isDelivering then
      (change session.state.value).filter (· ≠ session.state.value)
    else none
  | _ => none

namespace Point

/-- A request is performed, up to the delivery that it may start. -/
def ask (client : Client σ κ μ) (rounds : Nat) (now : Point σ κ μ) (request : Request σ κ)
    (rest : List (Request σ κ)) : Point σ κ μ :=
  match request.starts? now.session with
  | some next =>
    { now with
      session := place.start (now.session.commit next)
      stage := .rounds rounds
      requests := rest }
  | none => { now with session := (now.session.perform client rounds request).1, requests := rest }

/-- A round begins with the oldest pending snapshot; where there is none, the delivery ends. -/
def begin (now : Point σ κ μ) (left : Nat) : Point σ κ μ :=
  match now.session.state.pending with
  | [] => { now with session := place.rest now.session, stage := .idle }
  | snapshot :: pending =>
    { now with
      session := place.hold now.session.state.observers (place.pop now.session pending)
      due := [snapshot]
      waiting := now.session.ids
      stage := .serve { snapshot, observers := now.session.state.observers, left } }

/-- A round lets go of an observer. -/
def letGo (now : Point σ κ μ) (observer : Observer κ) (round : Round σ κ) : Point σ κ μ :=
  let others := round.observers.map fun other => other.id
  { now with
    session := (now.session.unhold observer.id others).1
    stage := .release (now.session.unhold observer.id others).2 round }

/-- The next observer of a round is called, unless it is gone. -/
def serve (client : Client σ κ μ) (now : Point σ κ μ) (round : Round σ κ) : Point σ κ μ :=
  match round.observers with
  | [] => { now with stage := if round.isGivenUp then .idle else .rounds round.left }
  | observer :: others =>
    let round := { round with observers := others }
    if round.isGivenUp then now.letGo observer round
    else if now.session.state.isActive observer.id then
      { now with
        session := now.session.note (.called observer round.snapshot)
        waiting := others.map (·.id)
        stage := .call observer
          (client observer.reaction round.snapshot now.session.memory) round }
    else Point.letGo { now with waiting := others.map (·.id) } observer round

/-- A call is over, and the round lets go of the observer; if it did not return, the round is given
up. -/
def answer (now : Point σ κ μ) (observer : Observer κ) (round : Round σ κ)
    (session : Session σ κ μ) : Flow → Point σ κ μ
  | .stay => { now with session := session.note (.returned observer.id) }.letGo observer round
  | .leave =>
    { now with
      session := place.modify (session.note (.returned observer.id))
        (·.unwatch observer.id) }.letGo observer round
  | .fail =>
    { now with
      session
      stage := .serve { round with observers := observer :: round.observers, isGivenUp := true } }

/-- An observer does the next thing of its call; a delivery that it asks for is in progress. -/
def work (now : Point σ κ μ) (observer : Observer κ) (round : Round σ κ) :
    Script σ κ μ → Point σ κ μ
  | .done leaves => now.answer observer round now.session (if leaves then .leave else .stay)
  | .act act next =>
    match now.session.act (fun session => (session, true)) act with
    | (session, true) => { now with session, stage := .call observer next round }
    | (session, false) => now.answer observer round session .fail
  | .look next => { now with stage := .call observer (next now.session.state) round }
  | .remember memory next =>
    { now with session := { now.session with memory }, stage := .call observer next round }

/-- The next point of a run; at the end nothing changes any more, nor once it is blocked. -/
def next (client : Client σ κ μ) (rounds : Nat) (now : Point σ κ μ) : Point σ κ μ :=
  if now.session.isBlocked then now
  else
    match now.stage with
    | .idle =>
      match now.requests with
      | [] => now
      | request :: rest => now.ask client rounds request rest
    | .rounds 0 => { now with stage := .idle }
    | .rounds (left + 1) => now.begin left
    | .serve round => now.serve client round
    | .call observer script round => now.work observer round script
    | .release [] round => { now with stage := .serve round }
    | .release (id :: rest) round =>
      { now with session := now.session.remove id, stage := .release rest round }

/-- The point after some number of steps. -/
def after (client : Client σ κ μ) (rounds : Nat) (now : Point σ κ μ) (steps : Nat) :
    Point σ κ μ :=
  (next client rounds)^[steps] now

end Point

/-! ## The course of a run ends where the run does -/

variable {client : Client σ κ μ} {rounds : Nat} {now later : Point σ κ μ}

/-- After some steps the run is at the later point. -/
def Point.Reaches (client : Client σ κ μ) (rounds : Nat) (now later : Point σ κ μ) : Prop :=
  ∃ steps, now.after client rounds steps = later

namespace Point

theorem Reaches.refl (now : Point σ κ μ) : Reaches client rounds now now := ⟨0, rfl⟩

theorem Reaches.step {middle : Point σ κ μ} (h : now.next client rounds = middle)
    (rest : Reaches client rounds middle later) : Reaches client rounds now later := by
  obtain ⟨steps, hsteps⟩ := rest
  exact ⟨steps + 1, (congrArg (after client rounds · steps) h).trans hsteps⟩

theorem Reaches.trans {last : Point σ κ μ} (first : Reaches client rounds now later)
    (second : Reaches client rounds later last) : Reaches client rounds now last := by
  obtain ⟨steps, rfl⟩ := first
  obtain ⟨more, rfl⟩ := second
  exact ⟨more + steps, Function.iterate_add_apply _ _ _ _⟩

end Point

/-- While a delivery is in progress, it does not matter what a delivery that is asked for would
do. -/
theorem act_of_isDelivering {inner : Session σ κ μ → Session σ κ μ × Bool}
    (hinner : ∀ session : Session σ κ μ, session.state.isDelivering = true →
      inner session = (session, true))
    {session : Session σ κ μ} (hdelivering : session.state.isDelivering = true) (act : Act σ κ) :
    session.act inner act = session.act (fun session => (session, true)) act := by
  have happly : ∀ change, session.apply inner change =
      session.apply (fun session => (session, true)) change := by
    intro change
    unfold Session.apply
    cases change session.state.value with
    | none => rfl
    | some next =>
      have hcommit : (session.commit next).state.isDelivering = true :=
        (Observable.isDelivering_commit _ _).trans hdelivering
      simp only [hinner _ hcommit]
  cases act with
  | update change | attempt change => simp only [Session.act, happly]
  | _ => rfl

/-- While a delivery is in progress, an update changes nothing, or it commits something that has to
wait. -/
theorem apply_of_isDelivering {inner : Session σ κ μ → Session σ κ μ × Bool}
    (hinner : ∀ session : Session σ κ μ, session.state.isDelivering = true →
      inner session = (session, true))
    {session : Session σ κ μ} (hdelivering : session.state.isDelivering = true)
    (change : σ → Option σ) :
    (session.apply inner change).1 = session ∨
      ∃ next, next ≠ session.state.value ∧
        (session.apply inner change).1 = session.commit next := by
  unfold Session.apply
  cases change session.state.value with
  | none => exact .inl rfl
  | some next =>
    dsimp only
    split
    · exact .inl rfl
    · next hne =>
      rw [hinner _ ((Observable.isDelivering_commit _ _).trans hdelivering)]
      exact .inr ⟨next, hne, rfl⟩

/-! ## What leaves observers and handles alone -/

omit [DecidableEq σ] in
/-- The observers and their handles stay as they are. -/
structure Untouched (session session' : Session σ κ μ) : Prop where
  registered : session'.state.observers = session.state.observers
  nextObserver : session'.state.nextObserver = session.state.nextObserver
  observers : session'.observers = session.observers
  owned : session'.owned = session.owned
  held : session'.held = session.held
  isBlocked : session'.isBlocked = session.isBlocked

omit [DecidableEq σ] in
theorem Untouched.refl (session : Session σ κ μ) : Untouched session session :=
  ⟨rfl, rfl, rfl, rfl, rfl, rfl⟩

omit [DecidableEq σ] in
theorem untouched_note (session : Session σ κ μ) (incident : Incident σ κ) :
    Untouched session (session.note incident) :=
  ⟨rfl, rfl, rfl, rfl, rfl, rfl⟩

theorem untouched_commit (session : Session σ κ μ) (next : σ) :
    Untouched session (session.commit next) :=
  ⟨Observable.observers_commit _ _, Observable.nextObserver_commit _ _, rfl, rfl, rfl, rfl⟩

omit [DecidableEq σ] in
theorem untouched_unsubscribe (session : Session σ κ μ) (name : String) :
    Untouched session (session.unsubscribe name) := by
  unfold Session.unsubscribe
  split <;> exact ⟨rfl, rfl, rfl, rfl, rfl, rfl⟩

omit [DecidableEq σ] in
theorem untouched_subscribe (session : Session σ κ μ) (name : String) :
    Untouched session (session.subscribe name) := by
  unfold Session.subscribe Session.unsubscribe
  dsimp only
  split <;> exact ⟨rfl, rfl, rfl, rfl, rfl, rfl⟩

omit [DecidableEq σ] in
theorem untouched_take? (session : Session σ κ μ) (name : String) :
    Untouched session (session.take? name).1 := by
  unfold Session.take? Observable.take?
  split
  · exact .refl session
  · dsimp only
    split <;> exact ⟨rfl, rfl, rfl, rfl, rfl, rfl⟩

omit [DecidableEq σ] in
theorem untouched_drain (session : Session σ κ μ) (name : String) :
    Untouched session (session.drain name).1 := by
  unfold Session.drain Observable.drain
  split
  · exact .refl session
  · dsimp only
    split <;> exact ⟨rfl, rfl, rfl, rfl, rfl, rfl⟩

omit [DecidableEq σ] in
theorem untouched_addOwner (session : Session σ κ μ) : Untouched session session.addOwner := by
  unfold Session.addOwner
  split
  · exact ⟨rfl, rfl, rfl, rfl, rfl, rfl⟩
  · exact .refl session

/-- **What is not about observers leaves them alone**, also an update while a delivery is in
progress. -/
theorem untouched_act {inner : Session σ κ μ → Session σ κ μ × Bool}
    (hinner : ∀ session : Session σ κ μ, session.state.isDelivering = true →
      inner session = (session, true))
    {session : Session σ κ μ} (hdelivering : session.state.isDelivering = true) {act : Act σ κ}
    (h : act.isHandling = false) : Untouched session (session.act inner act).1 := by
  have hupdate : ∀ change, Untouched session (session.apply inner change).1 := by
    intro change
    rcases apply_of_isDelivering hinner hdelivering change with hsame | ⟨next, -, hcommit⟩
    · rw [hsame]
      exact .refl session
    · rw [hcommit]
      exact untouched_commit session next
  cases act with
  | update change =>
    have untouched := hupdate change
    unfold Session.act
    dsimp only
    split <;> next happly => rw [happly] at untouched; exact untouched
  | attempt change => exact hupdate change
  | subscribe name => exact untouched_subscribe session name
  | unsubscribe name => exact untouched_unsubscribe session name
  | take name => exact untouched_take? session name
  | drain name => exact untouched_drain session name
  | share => exact untouched_addOwner session
  | release =>
    unfold Session.act
    dsimp only
    split
    · exact ⟨rfl, rfl, rfl, rfl, rfl, rfl⟩
    · exact .refl session
  | _ => cases h

/-- While a delivery is in progress, a session is blocked only by an act that does not succeed. -/
theorem isBlocked_act {inner : Session σ κ μ → Session σ κ μ × Bool}
    (hinner : ∀ session : Session σ κ μ, session.state.isDelivering = true →
      inner session = (session, true))
    {session after : Session σ κ μ} (hdelivering : session.state.isDelivering = true)
    (hfree : session.isBlocked = false) {act : Act σ κ}
    (hact : session.act inner act = (after, true)) : after.isBlocked = false := by
  have hgoing : ∀ {world : Session σ κ μ}, world.going = (after, true) →
      after.isBlocked = false := fun h => by
    obtain ⟨rfl, hgoes⟩ := Prod.mk.inj h
    simpa using hgoes
  cases hhandling : act.isHandling with
  | false =>
    have untouched := untouched_act hinner hdelivering hhandling
    rw [hact] at untouched
    exact untouched.isBlocked.trans hfree
  | true =>
    cases act with
    | watch _ _ | cancel _ | recover _ _ _ => exact hgoing hact
    | entrust name owner =>
      obtain rfl : session.entrust name owner = after := congrArg Prod.fst hact
      unfold entrust
      split
      · exact hfree
      · split <;> exact hfree
    | _ => cases hhandling

namespace Point

/-- Once a run is blocked nothing changes any more. -/
theorem next_of_isBlocked (client : Client σ κ μ) (rounds : Nat)
    (h : now.session.isBlocked = true) : now.next client rounds = now := by
  rw [next, if_pos h]

/-- At the end of a run nothing changes any more. -/
theorem next_of_end (client : Client σ κ μ) (rounds : Nat) (hstage : now.stage = .idle)
    (hrequests : now.requests = []) : now.next client rounds = now := by
  rw [next, hstage, hrequests]
  split <;> rfl

section Next

variable (client : Client σ κ μ) (rounds : Nat) (hfree : now.session.isBlocked = false)

include hfree

theorem next_of_ask {request : Request σ κ} {rest : List (Request σ κ)}
    (hstage : now.stage = .idle) (hrequests : now.requests = request :: rest) :
    now.next client rounds = now.ask client rounds request rest := by
  rw [next, if_neg (by simp [hfree]), hstage, hrequests]

theorem next_of_stop (h : now.stage = .rounds 0) :
    now.next client rounds = { now with stage := .idle } := by
  rw [next, if_neg (by simp [hfree]), h]

theorem next_of_begin {left : Nat} (h : now.stage = .rounds (left + 1)) :
    now.next client rounds = now.begin left := by
  rw [next, if_neg (by simp [hfree]), h]

theorem next_of_serve {round : Round σ κ} (h : now.stage = .serve round) :
    now.next client rounds = now.serve client round := by
  rw [next, if_neg (by simp [hfree]), h]

theorem next_of_call {observer : Observer κ} {script : Script σ κ μ} {round : Round σ κ}
    (h : now.stage = .call observer script round) :
    now.next client rounds = now.work observer round script := by
  rw [next, if_neg (by simp [hfree]), h]

theorem next_of_resume {round : Round σ κ} (h : now.stage = .release [] round) :
    now.next client rounds = { now with stage := .serve round } := by
  rw [next, if_neg (by simp [hfree]), h]

theorem next_of_release {id : Nat} {rest : List Nat} {round : Round σ κ}
    (h : now.stage = .release (id :: rest) round) :
    now.next client rounds =
      { now with session := now.session.remove id, stage := .release rest round } := by
  rw [next, if_neg (by simp [hfree]), h]

end Next

/-- After some steps the session is as given, and unless it is blocked then, `stage` comes next and
`requests` are left. -/
def LeadsTo (client : Client σ κ μ) (rounds : Nat) (now : Point σ κ μ) (session : Session σ κ μ)
    (stage : Stage σ κ μ) (requests : List (Request σ κ)) : Prop :=
  ∃ later, Reaches client rounds now later ∧ later.session = session ∧
    (session.isBlocked = false → later.stage = stage ∧ later.requests = requests)

variable {session session' : Session σ κ μ} {stage stage' : Stage σ κ μ}
  {requests requests' : List (Request σ κ)}

theorem LeadsTo.of_isBlocked (h : now.session.isBlocked = true) :
    LeadsTo client rounds now now.session stage requests :=
  ⟨now, .refl now, rfl, fun hfree => absurd (hfree.symm.trans h) Bool.false_ne_true⟩

theorem LeadsTo.refl (hstage : now.stage = stage) (hrequests : now.requests = requests) :
    LeadsTo client rounds now now.session stage requests :=
  ⟨now, .refl now, rfl, fun _ => ⟨hstage, hrequests⟩⟩

theorem Reaches.leadsTo (first : Reaches client rounds now later)
    (second : LeadsTo client rounds later session stage requests) :
    LeadsTo client rounds now session stage requests := by
  obtain ⟨last, reached, hlast⟩ := second
  exact ⟨last, first.trans reached, hlast⟩

theorem LeadsTo.step {middle : Point σ κ μ} (h : now.next client rounds = middle)
    (rest : LeadsTo client rounds middle session stage requests) :
    LeadsTo client rounds now session stage requests :=
  (Reaches.step h (.refl middle)).leadsTo rest

/-- Where the one leads to the other begins, unless the session is blocked; but then it stays as it
is. -/
theorem LeadsTo.trans (first : LeadsTo client rounds now session stage requests)
    (hblocked : session.isBlocked = true → session' = session)
    (second : ∀ later : Point σ κ μ, later.session = session → later.stage = stage →
      later.requests = requests → LeadsTo client rounds later session' stage' requests') :
    LeadsTo client rounds now session' stage' requests' := by
  obtain ⟨later, reached, hsession, hgoes⟩ := first
  cases h : session.isBlocked with
  | true =>
    have hsame := hblocked h
    exact ⟨later, reached, hsession.trans hsame.symm,
      fun hfree => absurd ((hsame ▸ hfree).symm.trans h) Bool.false_ne_true⟩
  | false =>
    obtain ⟨hstage, hrequests⟩ := hgoes h
    exact reached.leadsTo (second later hsession hstage hrequests)

/-- **Handles are dropped one after the other**, and then the round goes on.

**Proof sketch.** By induction on the handles. -/
theorem leadsTo_dropHandles {round : Round σ κ} (handles : List Nat) :
    ∀ {now : Point σ κ μ}, now.stage = .release handles round →
      LeadsTo client rounds now (now.session.dropHandles handles) (.serve round) now.requests := by
  induction handles with
  | nil =>
    intro now hstage
    cases hfree : now.session.isBlocked with
    | true => exact .of_isBlocked hfree
    | false => exact .step (next_of_resume client rounds hfree hstage) (.refl rfl rfl)
  | cons id rest ih =>
    intro now hstage
    unfold dropHandles
    split
    · next hblocked => exact .of_isBlocked hblocked
    · next hfree =>
      exact .step (next_of_release client rounds (Bool.eq_false_iff.mpr hfree) hstage) (ih rfl)

/-- A round lets go of an observer, and then it goes on. -/
theorem leadsTo_letGo (hfree : now.session.isBlocked = false) (observer : Observer κ)
    (round : Round σ κ) :
    LeadsTo client rounds (now.letGo observer round)
      (place.letGo observer round.observers now.session) (.serve round) now.requests := by
  have hletGo : place.letGo observer round.observers now.session =
      (now.letGo observer round).session.dropHandles
        (now.session.unhold observer.id (round.observers.map (·.id))).2 := by
    change now.session.letGo _ _ = _
    rw [Session.letGo, if_neg (by simp [hfree])]
    rfl
  rw [hletGo]
  exact leadsTo_dropHandles _ rfl

/-- **A round that is given up lets go of its observers.** -/
theorem leadsTo_giveUp {snapshot : σ} {left : Nat} (list : List (Observer κ)) :
    ∀ {now : Point σ κ μ}, now.stage = .serve ⟨snapshot, list, left, true⟩ →
      LeadsTo client rounds now (place.giveUp list now.session) .idle now.requests := by
  induction list with
  | nil =>
    intro now hstage
    cases hfree : now.session.isBlocked with
    | true => exact .of_isBlocked hfree
    | false => exact .step (next_of_serve client rounds hfree hstage) (.refl rfl rfl)
  | cons observer rest ih =>
    intro now hstage
    cases hfree : now.session.isBlocked with
    | true =>
      rw [giveUp_of_isBlocked hfree]
      exact .of_isBlocked hfree
    | false =>
      refine .step (next_of_serve client rounds hfree hstage) ?_
      refine (leadsTo_letGo hfree observer ⟨snapshot, rest, left, true⟩).trans
        (fun hblocked => giveUp_of_isBlocked hblocked rest) ?_
      rintro later hsession hstage' hrequests
      rw [Place.giveUp, ← hrequests, ← hsession]
      exact ih hstage'

section Inner

variable {inner : Session σ κ μ → Session σ κ μ × Bool}
  (hinner : ∀ session : Session σ κ μ, session.state.isDelivering = true →
    inner session = (session, true))

include hinner

/-- **What an observer does, one thing at a time**, comes to the answer of its call; if it returns,
nothing is blocked.

**Proof sketch.** By induction on what it has still to do. -/
theorem reaches_follow {observer : Observer κ} {round : Round σ κ} (script : Script σ κ μ) :
    ∀ (now : Point σ κ μ) {after : Session σ κ μ} {flow : Flow},
      now.session.isBlocked = false → now.stage = .call observer script round →
      now.session.state.isDelivering = true →
      now.session.follow inner script = (after, flow) →
      Reaches client rounds now (now.answer observer round after flow) ∧
        (flow ≠ .fail → after.isBlocked = false) := by
  induction script with
  | done leaves =>
    intro now after flow hfree hstage _ hfollow
    cases hfollow
    exact ⟨.step (next_of_call client rounds hfree hstage) (.refl _), fun _ => hfree⟩
  | act act rest ih =>
    intro now after flow hfree hstage hdelivering hfollow
    have moves := moves_act hinner hdelivering act
    unfold Session.follow at hfollow
    cases hact : now.session.act inner act with
    | mk session ok =>
      have hnext := next_of_call client rounds hfree hstage
      rw [work, ← act_of_isDelivering hinner hdelivering act, hact] at hnext
      rw [hact] at hfollow moves
      cases ok with
      | true =>
        obtain ⟨reached, hreturned⟩ := ih { now with session, stage := .call observer rest round }
          (isBlocked_act hinner hdelivering hfree hact) rfl
          (moves.isDelivering.trans hdelivering) hfollow
        exact ⟨.step hnext reached, hreturned⟩
      | false =>
        cases hfollow
        exact ⟨.step hnext (.refl _), fun hne => absurd rfl hne⟩
  | look rest ih =>
    intro now after flow hfree hstage hdelivering hfollow
    obtain ⟨reached, hreturned⟩ := ih now.session.state
      { now with stage := .call observer (rest now.session.state) round } hfree rfl hdelivering
      hfollow
    exact ⟨.step (next_of_call client rounds hfree hstage) reached, hreturned⟩
  | remember memory rest ih =>
    intro now after flow hfree hstage hdelivering hfollow
    obtain ⟨reached, hreturned⟩ := ih
      { now with session := { now.session with memory }, stage := .call observer rest round }
      hfree rfl hdelivering hfollow
    exact ⟨.step (next_of_call client rounds hfree hstage) reached, hreturned⟩

/-- **A round, one call after the other**; if no observer fails the delivery goes on.

**Proof sketch.** By induction on those who wait: the next one is called, or it is gone; and then
the round lets go of it. -/
theorem leadsTo_deliver {snapshot : σ} {left : Nat} (list : List (Observer κ)) :
    ∀ {now : Point σ κ μ} {after : Session σ κ μ} {ok : Bool},
      now.stage = .serve ⟨snapshot, list, left, false⟩ → now.session.state.isDelivering = true →
      place.deliver (Session.react client inner) snapshot list now.session = (after, ok) →
      LeadsTo client rounds now after (if ok then .rounds left else .idle) now.requests := by
  induction list with
  | nil =>
    intro now after ok hstage hdelivering hdeliver
    cases hdeliver
    cases hfree : now.session.isBlocked with
    | true => exact .of_isBlocked hfree
    | false => exact .step (next_of_serve client rounds hfree hstage) (.refl rfl rfl)
  | cons observer rest ih =>
    intro now after ok hstage hdelivering hdeliver
    unfold Place.deliver at hdeliver
    split at hdeliver
    · next hblocked =>
      cases hdeliver
      exact .of_isBlocked hblocked
    · next hnot =>
      have hfree : now.session.isBlocked = false := Bool.eq_false_iff.mpr hnot
      have hnext := next_of_serve client rounds hfree hstage
      -- once the round has let go of the observer, the others are served
      have hothers : ∀ {served : Point σ κ μ}, served.session.isBlocked = false →
          served.session.state.isDelivering = true → served.requests = now.requests →
          place.deliver (Session.react client inner) snapshot rest
            (place.letGo observer rest served.session) = (after, ok) →
          LeadsTo client rounds (served.letGo observer ⟨snapshot, rest, left, false⟩) after
            (if ok then .rounds left else .idle) now.requests := by
        intro served hfree' hdelivering' hrequests hrest
        refine (leadsTo_letGo hfree' observer ⟨snapshot, rest, left, false⟩).trans
          (fun hblocked => ?_) fun later hsession hstage' hrequests' => ?_
        · rw [place.deliver_of_isBlocked _ hblocked] at hrest
          exact (congrArg Prod.fst hrest).symm
        · have moves : Moves served.session (place.letGo observer rest served.session) :=
            (handlings_letGo _ _ _).moves
          rw [← hrequests, ← hrequests']
          refine ih hstage' ?_ (hsession ▸ hrest)
          rw [hsession]
          exact moves.isDelivering.trans hdelivering'
      split at hdeliver
      · next hactive =>
        have moves : Moves (now.session.note (.called observer snapshot)) _ :=
          moves_follow hinner (client observer.reaction snapshot now.session.memory) hdelivering
        have hcalled : now.next client rounds = _ := hnext.trans (if_pos hactive)
        cases hfollow : (now.session.note (.called observer snapshot)).follow inner
            (client observer.reaction snapshot now.session.memory) with
        | mk served flow =>
          rw [hfollow] at moves
          have hdelivering' : served.state.isDelivering = true :=
            moves.isDelivering.trans hdelivering
          obtain ⟨answered, hreturned⟩ := reaches_follow hinner _
            { now with
              session := now.session.note (.called observer snapshot)
              waiting := rest.map (·.id)
              stage := .call observer (client observer.reaction snapshot now.session.memory)
                ⟨snapshot, rest, left, false⟩ } hfree rfl hdelivering hfollow
          have called := Reaches.step hcalled answered
          simp only [Session.react, hfollow] at hdeliver
          cases flow with
          | stay =>
            exact called.leadsTo (hothers (hreturned (by decide)) hdelivering' rfl hdeliver)
          | leave =>
            exact called.leadsTo (hothers (hreturned (by decide)) hdelivering' rfl hdeliver)
          | fail =>
            cases hdeliver
            exact called.leadsTo (leadsTo_giveUp (observer :: rest) rfl)
      · next hgone =>
        exact .step (hnext.trans (if_neg hgone)) (hothers hfree hdelivering rfl hdeliver)

/-- A call does not end the delivery. -/
theorem isDelivering_react (observer : Observer κ) (snapshot : σ)
    (h : session.state.isDelivering = true) :
    (Session.react client inner observer snapshot session).1.state.isDelivering = true := by
  have moves : Moves (session.note (.called observer snapshot)) _ :=
    moves_follow hinner (client observer.reaction snapshot session.memory) h
  unfold Session.react
  split <;> next hfollow => rw [hfollow] at moves; exact moves.isDelivering.trans h

/-- A round does not end the delivery. -/
theorem isDelivering_deliver {snapshot : σ} {observers : List (Observer κ)}
    {after : Session σ κ μ} {ok : Bool}
    (hdeliver : place.deliver (Session.react client inner) snapshot observers session = (after, ok))
    (h : session.state.isDelivering = true) : after.state.isDelivering = true := by
  have hkept : (place.deliver (Session.react client inner) snapshot observers
      session).1.state.isDelivering = true :=
    place.deliver_holding (P := fun session => session.state.isDelivering = true) _
    (fun observer _ _ hbefore => isDelivering_react hinner observer snapshot hbefore)
    (fun observer _ _ hbefore _ => isDelivering_react hinner observer snapshot hbefore)
    (fun _ _ _ hbefore => (handlings_letGo _ _ _).moves.isDelivering.trans hbefore) h
  rwa [hdeliver] at hkept

/-- **A delivery, one round after the other.**

**Proof sketch.** By induction on the rounds that are left. -/
theorem leadsTo_drain : ∀ (left : Nat) {now : Point σ κ μ}, now.stage = .rounds left →
    now.session.state.isDelivering = true →
    LeadsTo client rounds now
      (place.drain (Session.react client inner) left now.session).1 .idle now.requests := by
  intro left
  induction left with
  | zero =>
    intro now hstage _
    cases hfree : now.session.isBlocked with
    | true => exact .of_isBlocked hfree
    | false => exact .step (next_of_stop client rounds hfree hstage) (.refl rfl rfl)
  | succ left ih =>
    intro now hstage hdelivering
    cases hfree : now.session.isBlocked with
    | true =>
      rw [place.drain_of_isBlocked _ hfree]
      exact .of_isBlocked hfree
    | false =>
      have hnext := next_of_begin client rounds hfree hstage
      unfold Point.begin at hnext
      cases hpending : now.session.state.pending with
      | nil =>
        rw [hpending] at hnext
        rw [place.drain_eq_rest _ hfree hpending]
        exact .step hnext (.refl rfl rfl)
      | cons snapshot pending =>
        rw [hpending] at hnext
        cases hdeliver : place.deliver (Session.react client inner) snapshot
            (place.get (place.pop now.session pending)).observers
            (place.gather now.session pending) with
        | mk served ok =>
          have hround : LeadsTo client rounds
              { now with
                session := place.gather now.session pending
                due := [snapshot]
                waiting := now.session.ids
                stage := .serve { snapshot, observers := now.session.state.observers, left } }
              _ _ _ :=
            leadsTo_deliver hinner _ rfl hdelivering hdeliver
          have hserved : served.state.isDelivering = true :=
            isDelivering_deliver hinner hdeliver hdelivering
          rw [place.drain_eq_round _ hfree hpending hdeliver]
          refine .step hnext ?_
          cases ok with
          | true =>
            refine hround.trans (fun hblocked => ?_) fun later hsession hstage' hrequests => ?_
            · exact congrArg Prod.fst (place.drain_of_isBlocked _ hblocked left)
            · rw [← hsession, ← hrequests]
              exact ih hstage' (hsession ▸ hserved)
          | false => exact hround

end Inner

/-- An update that starts a delivery, as the request it is. -/
theorem perform_of_starts? (client : Client σ κ μ) (rounds : Nat) {session : Session σ κ μ}
    {request : Request σ κ} {next : σ} (h : request.starts? session = some next) :
    session.state.isDelivering = false ∧ next ≠ session.state.value ∧
      ∃ inner : Session σ κ μ → Session σ κ μ × Bool,
        (∀ session : Session σ κ μ, session.state.isDelivering = true →
          inner session = (session, true)) ∧
        (session.perform client rounds request).1 =
          (place.drain (Session.react client inner) rounds
            (place.start (session.commit next))).1 := by
  cases request with
  | update change =>
    obtain ⟨⟨halive, hresting⟩, hchange, hne⟩ :
        (session.isAlive = true ∧ session.state.isDelivering = false) ∧
          change session.state.value = some next ∧ next ≠ session.state.value := by
      simpa [Request.starts?, Option.filter_eq_some_iff] using h
    obtain ⟨inner, hinner, hflush⟩ := exists_flush client rounds rounds
    have hcommit : (place.get (session.commit next)).isDelivering = false :=
      (Observable.isDelivering_commit _ _).trans hresting
    refine ⟨hresting, hne, inner, hinner, ?_⟩
    change (session.update client rounds change).1 = _
    rw [update_fst, if_pos halive, Session.apply, hchange]
    dsimp only
    rw [if_neg hne, hflush, place.flush_of_resting _ hcommit]
    split <;> next heq => rw [heq]
  | _ => cases h

/-- **A request, one thing at a time.** -/
theorem leadsTo_perform (client : Client σ κ μ) (rounds : Nat) {request : Request σ κ}
    {rest : List (Request σ κ)} (hfree : now.session.isBlocked = false)
    (hstage : now.stage = .idle) (hrequests : now.requests = request :: rest) :
    LeadsTo client rounds now (now.session.perform client rounds request).1 .idle rest := by
  have hnext := next_of_ask client rounds hfree hstage hrequests
  cases hstarts : request.starts? now.session with
  | none =>
    rw [ask, hstarts] at hnext
    exact .step hnext (.refl hstage rfl)
  | some snapshot =>
    rw [ask, hstarts] at hnext
    obtain ⟨-, -, inner, hinner, hperform⟩ := perform_of_starts? client rounds hstarts
    rw [hperform]
    exact .step hnext (leadsTo_drain hinner rounds rfl rfl)

/-- Nothing is asked for once the session is blocked. -/
theorem run_of_isBlocked {session : Session σ κ μ} (h : session.isBlocked = true)
    (client : Client σ κ μ) (rounds : Nat) (requests : List (Request σ κ)) :
    (Session.run client rounds requests session).1 = session := by
  cases requests with
  | nil => rfl
  | cons request rest => rw [Session.run, if_pos h]

/-- All requests, one after the other. -/
theorem leadsTo_run (client : Client σ κ μ) (rounds : Nat) :
    ∀ (requests : List (Request σ κ)) {now : Point σ κ μ}, now.stage = .idle →
      now.requests = requests →
      LeadsTo client rounds now (Session.run client rounds requests now.session).1 .idle [] := by
  intro requests
  induction requests with
  | nil => exact fun hstage hrequests => .refl hstage hrequests
  | cons request rest ih =>
    intro now hstage hrequests
    unfold Session.run
    split
    · next hblocked => exact .of_isBlocked hblocked
    · next hnot =>
      refine (leadsTo_perform client rounds (Bool.eq_false_iff.mpr hnot) hstage hrequests).trans
        (fun hblocked => run_of_isBlocked hblocked client rounds rest)
        fun later hsession hidle hrest => ?_
      dsimp only
      rw [← hsession]
      exact ih hidle hrest

/-- **The course of a run ends where the run does**, and stays there. -/
theorem exists_after_eq_run (client : Client σ κ μ) (rounds : Nat) (value : σ) (memory : μ)
    (requests : List (Request σ κ)) :
    ∃ last, ∀ steps ≥ last, ((start value memory requests).after client rounds steps).session =
      (Session.run client rounds requests (Session.start value memory)).1 := by
  obtain ⟨later, ⟨last, rfl⟩, hlater, hends⟩ :
      LeadsTo client rounds (start value memory requests) _ .idle [] :=
    leadsTo_run client rounds requests rfl rfl
  have hfixed : next client rounds ((start value memory requests).after client rounds last) =
      (start value memory requests).after client rounds last := by
    cases hfree :
        (Session.run client rounds requests (Session.start value memory)).1.isBlocked with
    | true => exact next_of_isBlocked client rounds ((congrArg (·.isBlocked) hlater).trans hfree)
    | false =>
      obtain ⟨hidle, hrequests⟩ := hends hfree
      exact next_of_end client rounds hidle hrequests
  refine ⟨last, fun steps hsteps => ?_⟩
  obtain ⟨more, rfl⟩ := Nat.exists_eq_add_of_le' hsteps
  rw [after, Function.iterate_add_apply]
  exact (congrArg (·.session) (Function.iterate_fixed hfixed more)).trans hlater

end Point

/-! ## What holds at any point -/

omit [DecidableEq σ] in
/-- The round is the one that is underway at the moment. -/
def Moment.Serves (now : Moment σ κ μ) (round : Round σ κ) : Prop :=
  now.due = [round.snapshot] ∧ now.waiting = round.observers.map (·.id)

omit [DecidableEq σ] in
/-- The round is underway, and between two calls, unless it is given up. -/
structure Moment.Between (now : Moment σ κ μ) (round : Round σ κ) : Prop where
  isDelivering : now.session.state.isDelivering = true
  serves : round.isGivenUp = false → now.Serves round
  quiet : round.isGivenUp = false → now.session.Quiet

/-- What is being done fits the moment. -/
def Stage.Fits (now : Moment σ κ μ) : Stage σ κ μ → Prop
  | .idle => now.session.state.isDelivering = false → now.session.Quiet
  | .rounds _ => now.session.state.isDelivering = true ∧ now.waiting = [] ∧ now.session.Quiet
  | .serve round | .release _ round => now.Between round
  | .call observer _ round => now.session.state.isDelivering = true ∧ now.Serves round ∧
    observer.id < now.session.state.nextObserver ∧
    -- the one that is called is the only one at work
    ∀ id, Incident.running now.session.log id = if observer.id = id then 1 else 0

/-- What holds at any point of a run. -/
structure Point.Sound (now : Point σ κ μ) : Prop where
  fit : now.toMoment.Fit
  stage : now.stage.Fits now.toMoment

/-- An update that starts no delivery changes nothing, or it commits something that has to wait. -/
theorem update_of_starts? (client : Client σ κ μ) (rounds : Nat) {session : Session σ κ μ}
    {change : σ → Option σ} (h : (.update change : Request σ κ).starts? session = none) :
    (session.update client rounds change).1 = session ∨
      ∃ next, session.state.isDelivering = true ∧ next ≠ session.state.value ∧
        (session.update client rounds change).1 = session.commit next := by
  rw [update_fst]
  split
  · next halive =>
    cases hdelivering : session.state.isDelivering with
    | true =>
      refine (apply_of_isDelivering ?_ hdelivering change).imp_right ?_
      · exact fun _ hdelivering => flush_of_isDelivering client rounds rounds hdelivering
      · exact fun ⟨next, hne, hcommit⟩ => ⟨next, rfl, hne, hcommit⟩
    | false =>
      have hsame : ∀ next, change session.state.value = some next →
          next = session.state.value := by
        simpa [Request.starts?, halive, hdelivering] using h
      unfold Session.apply
      cases hchange : change session.state.value with
      | none => exact .inl rfl
      | some next =>
        dsimp only
        rw [if_pos (hsame next hchange)]
        exact .inl rfl
  · exact .inl rfl

/-- A request that starts no delivery comes down to moves. -/
theorem moves_perform_of_starts? (client : Client σ κ μ) (rounds : Nat) {session : Session σ κ μ}
    {request : Request σ κ} (h : request.starts? session = none) :
    Moves session (session.perform client rounds request).1 := by
  by_cases hupdate : ∃ change, request = .update change
  · obtain ⟨change, rfl⟩ := hupdate
    change Moves session (session.update client rounds change).1
    rcases update_of_starts? client rounds h with hsame | ⟨next, hdelivering, hne, hcommit⟩
    · rw [hsame]
    · rw [hcommit]
      exact .single (.commit hdelivering hne)
  · exact moves_perform_of_ne client rounds (not_exists.mp hupdate)

namespace Point

/-- A request comes down to passages, up to the delivery that it may start. -/
theorem Sound.ask (h : now.Sound) (hstage : now.stage = .idle) (client : Client σ κ μ)
    (rounds : Nat) (request : Request σ κ) (rest : List (Request σ κ)) :
    Passages now.toMoment (now.ask client rounds request rest).toMoment ∧
      (now.ask client rounds request rest).stage.Fits
        (now.ask client rounds request rest).toMoment := by
  have hquiet := h.stage
  rw [hstage] at hquiet
  unfold Point.ask
  cases hstarts : request.starts? now.session with
  | some next =>
    obtain ⟨hresting, hne, -⟩ := perform_of_starts? client rounds hstarts
    exact ⟨.single (.start hresting hne), rfl, (h.fit.rests hresting).2,
      (hquiet hresting).commit next⟩
  | none =>
    have moves := moves_perform_of_starts? client rounds hstarts
    refine ⟨moves.passages _ _, ?_⟩
    dsimp only
    rw [hstage]
    exact fun hresting id =>
      (moves.running id).trans (hquiet (moves.isDelivering.symm.trans hresting) id)

/-- A round begins, or the delivery ends. -/
theorem Sound.begin (h : now.Sound) {left : Nat} (hstage : now.stage = .rounds (left + 1)) :
    Passages now.toMoment (now.begin left).toMoment ∧
      (now.begin left).stage.Fits (now.begin left).toMoment := by
  obtain ⟨⟨session, due, waiting⟩, stage, requests⟩ := now
  obtain rfl : stage = .rounds (left + 1) := hstage
  obtain ⟨hdelivering, rfl, hquiet⟩ := h.stage
  unfold Point.begin
  split
  · next hnone => exact ⟨.single (.finish hnone), fun _ => hquiet⟩
  · next snapshot pending hpending =>
    have held : Moves (place.pop session pending) _ :=
      (handlings_hold session.state.observers _).moves
    exact ⟨.head (.round hpending) (held.passages _ _), hdelivering, fun _ => ⟨rfl, rfl⟩,
      fun _ => hquiet⟩

/-- Letting go of an observer keeps a round between two calls. -/
theorem between_letGo (now : Point σ κ μ) {round : Round σ κ} (h : now.toMoment.Between round)
    (observer : Observer κ) :
    Passages now.toMoment (now.letGo observer round).toMoment ∧
      (now.letGo observer round).stage.Fits (now.letGo observer round).toMoment := by
  have moves : Moves now.session (now.letGo observer round).session :=
    Handlings.moves (.single (handling_unhold _ _ _))
  exact ⟨moves.passages _ _, moves.isDelivering.trans h.isDelivering, h.serves,
    fun hgoes => (h.quiet hgoes).moves moves⟩

/-- The next observer is called, or it is gone; or the round is over. -/
theorem Sound.serve (h : now.Sound) {round : Round σ κ} (hstage : now.stage = .serve round)
    (client : Client σ κ μ) :
    Passages now.toMoment (now.serve client round).toMoment ∧
      (now.serve client round).stage.Fits (now.serve client round).toMoment := by
  obtain ⟨⟨session, due, waiting⟩, stage, requests⟩ := now
  obtain rfl : stage = .serve round := hstage
  obtain ⟨snapshot, observers, left, isGivenUp⟩ := round
  obtain ⟨hdelivering, hserves, hquiet⟩ := h.stage
  cases isGivenUp with
  | true =>
    cases observers with
    | nil =>
      exact ⟨.refl, fun hresting => absurd (hdelivering.symm.trans hresting) Bool.noConfusion⟩
    | cons observer others =>
      exact between_letGo _ ⟨hdelivering, Bool.noConfusion, Bool.noConfusion⟩ observer
  | false =>
    obtain ⟨rfl, rfl⟩ := hserves rfl
    have hquiet := hquiet rfl
    cases observers with
    | nil => exact ⟨.refl, hdelivering, rfl, hquiet⟩
    | cons observer others =>
      unfold Point.serve
      dsimp only
      rw [if_neg Bool.false_ne_true]
      split
      · next hactive =>
        have hmem : observer.id ∈ session.ids := mem_ids.mpr hactive
        refine ⟨.single (.call hmem hquiet), hdelivering, ⟨rfl, rfl⟩,
          h.fit.fair.lt observer.id hmem, fun id => ?_⟩
        rw [log_note, Incident.running_concat, hquiet id, Int.zero_add, Incident.balance]
      · next hgone =>
        have skipped : Passage ⟨session, [snapshot], observer.id :: others.map (·.id)⟩
          ⟨session, [snapshot], others.map (·.id)⟩ := .skip fun hmem => hgone (mem_ids.mp hmem)
        have hbetween : Moment.Between ⟨session, [snapshot], others.map (·.id)⟩
            ⟨snapshot, others, left, false⟩ :=
          ⟨hdelivering, fun _ => ⟨rfl, rfl⟩, fun _ => hquiet⟩
        obtain ⟨passages, hfits⟩ := between_letGo
          ⟨⟨session, [snapshot], others.map (·.id)⟩, .idle, requests⟩ hbetween observer
        exact ⟨.head skipped passages, hfits⟩

/-- An observer does something, or its call is over. -/
theorem Sound.work (h : now.Sound) {observer : Observer κ} {script : Script σ κ μ}
    {round : Round σ κ} (hstage : now.stage = .call observer script round) :
    Passages now.toMoment (now.work observer round script).toMoment ∧
      (now.work observer round script).stage.Fits (now.work observer round script).toMoment := by
  obtain ⟨⟨session, due, waiting⟩, stage, requests⟩ := now
  obtain rfl : stage = .call observer script round := hstage
  obtain ⟨hdelivering, hserves, hlt, hrunning⟩ := h.stage
  cases script with
  | done leaves =>
    have hquiet : (session.note (.returned observer.id)).Quiet := fun id => by
      rw [log_note, Incident.running_concat, hrunning id]
      by_cases heq : observer.id = id <;> simp [Incident.balance, heq]
    have returned : Passage ⟨session, due, waiting⟩
      ⟨session.note (.returned observer.id), due, waiting⟩ := .return hlt
    cases leaves with
    | false =>
      have hbetween : Moment.Between ⟨session.note (.returned observer.id), due, waiting⟩ round :=
        ⟨hdelivering, fun _ => hserves, fun _ => hquiet⟩
      obtain ⟨passages, hfits⟩ := between_letGo
        ⟨⟨session.note (.returned observer.id), due, waiting⟩, .idle, requests⟩ hbetween observer
      exact ⟨.head returned passages, hfits⟩
    | true =>
      have hbetween : Moment.Between ⟨place.modify (session.note (.returned observer.id))
          (·.unwatch observer.id), due, waiting⟩ round :=
        ⟨hdelivering, fun _ => hserves, fun _ => hquiet⟩
      obtain ⟨passages, hfits⟩ := between_letGo
        ⟨⟨place.modify (session.note (.returned observer.id)) (·.unwatch observer.id), due, waiting⟩,
          .idle, requests⟩ hbetween observer
      exact ⟨.head returned (.head (.move (.remove observer.id)) passages), hfits⟩
  | act act next =>
    have moves : Moves session _ := moves_act (fun _ _ => rfl) hdelivering act
    have hdelivering' := moves.isDelivering.trans hdelivering
    unfold Point.work
    dsimp only
    split
    · next after hact =>
      rw [hact] at moves hdelivering'
      exact ⟨moves.passages _ _, hdelivering', hserves,
        Nat.lt_of_lt_of_le hlt moves.nextObserver_le,
        fun id => (moves.running id).trans (hrunning id)⟩
    · next after hact =>
      rw [hact] at moves hdelivering'
      exact ⟨moves.passages _ _, hdelivering', Bool.noConfusion, Bool.noConfusion⟩
  | look next => exact ⟨.refl, hdelivering, hserves, hlt, hrunning⟩
  | remember memory next =>
    exact ⟨.single (.move (.aside ⟨rfl, rfl, rfl, rfl, rfl, rfl⟩)), hdelivering, hserves, hlt,
      hrunning⟩

/-- The next handle is dropped, or the round goes on. -/
theorem Sound.release (h : now.Sound) {handles : List Nat} {round : Round σ κ}
    (hstage : now.stage = .release handles round) (hfree : now.session.isBlocked = false)
    (client : Client σ κ μ) (rounds : Nat) :
    Passages now.toMoment (now.next client rounds).toMoment ∧
      (now.next client rounds).stage.Fits (now.next client rounds).toMoment := by
  have hfits := h.stage
  rw [hstage] at hfits
  cases handles with
  | nil =>
    rw [next_of_resume client rounds hfree hstage]
    exact ⟨.refl, hfits⟩
  | cons id rest =>
    have moves := (handlings_remove now.session id).moves
    rw [next_of_release client rounds hfree hstage]
    exact ⟨moves.passages _ _, moves.isDelivering.trans hfits.isDelivering, hfits.serves,
      fun hgoes => (hfits.quiet hgoes).moves moves⟩

/-- **A step comes down to passages**, and what is being done then fits the moment. -/
theorem Sound.passages_next (h : now.Sound) (client : Client σ κ μ) (rounds : Nat) :
    Passages now.toMoment (now.next client rounds).toMoment ∧
      (now.next client rounds).stage.Fits (now.next client rounds).toMoment := by
  cases hfree : now.session.isBlocked with
  | true =>
    rw [next_of_isBlocked client rounds hfree]
    exact ⟨.refl, h.stage⟩
  | false =>
    cases hstage : now.stage with
    | idle =>
      cases hrequests : now.requests with
      | nil =>
        rw [next_of_end client rounds hstage hrequests]
        exact ⟨.refl, h.stage⟩
      | cons request rest =>
        rw [next_of_ask client rounds hfree hstage hrequests]
        exact h.ask hstage client rounds request rest
    | rounds left =>
      cases left with
      | zero =>
        have hfits := h.stage
        rw [hstage] at hfits
        rw [next_of_stop client rounds hfree hstage]
        exact ⟨.refl, fun _ => hfits.2.2⟩
      | succ left =>
        rw [next_of_begin client rounds hfree hstage]
        exact h.begin hstage
    | serve round =>
      rw [next_of_serve client rounds hfree hstage]
      exact h.serve hstage client
    | call observer script round =>
      rw [next_of_call client rounds hfree hstage]
      exact h.work hstage
    | release handles round => exact h.release hstage hfree client rounds

/-- **A step keeps what holds at any point.** -/
theorem Sound.next (h : now.Sound) (client : Client σ κ μ) (rounds : Nat) :
    (now.next client rounds).Sound := by
  obtain ⟨passages, hstage⟩ := h.passages_next client rounds
  exact ⟨h.fit.passages passages, hstage⟩

omit [DecidableEq σ] in
theorem sound_start (value : σ) (memory : μ) (requests : List (Request σ κ)) :
    (start value memory requests).Sound :=
  ⟨Moment.fit_start value memory, fun _ _ => rfl⟩

theorem after_succ (client : Client σ κ μ) (rounds : Nat) (now : Point σ κ μ) (steps : Nat) :
    now.after client rounds (steps + 1) = (now.after client rounds steps).next client rounds :=
  Function.iterate_succ_apply' _ _ _

/-- A run that is blocked stays where it is. -/
theorem after_of_isBlocked (client : Client σ κ μ) (rounds : Nat) {step later : Nat}
    (h : (now.after client rounds step).session.isBlocked = true) (hle : step ≤ later) :
    now.after client rounds later = now.after client rounds step := by
  induction later, hle using Nat.le_induction with
  | base => rfl
  | succ later _ ih => rw [after_succ, ih, next_of_isBlocked client rounds h]

/-- What holds at any point holds throughout a run. -/
theorem Sound.after (h : now.Sound) (client : Client σ κ μ) (rounds : Nat) (steps : Nat) :
    (now.after client rounds steps).Sound := by
  induction steps with
  | zero => exact h
  | succ steps ih =>
    rw [after_succ]
    exact ih.next client rounds

/-- Later points are reached by passages. -/
theorem Sound.passages_after (h : now.Sound) (client : Client σ κ μ) (rounds : Nat)
    {first last : Nat} (hle : first ≤ last) :
    Passages (now.after client rounds first).toMoment (now.after client rounds last).toMoment := by
  induction last, hle using Nat.le_induction with
  | base => exact .refl
  | succ last _ ih =>
    rw [after_succ]
    exact ih.trans ((h.after client rounds last).passages_next client rounds).1

end Point

end Course

end Session

end FormTree

import Mathlib.Data.List.Chain
import FormTree.Proofs.Observable.History

set_option autoImplicit false

/-!
# What subscriptions yield

A subscription yields the commits of a container from its opening on: what was taken from it,
followed by what is queued on it, are the commits since it was opened. Nothing else gets into a
queue, however requests, observers and the updates inside them follow one another, and once the
container is gone a subscription yields what it still holds and then ends for ever.

## Main definitions

* `FormTree.Session.takenFrom`, `FormTree.Session.commitsFrom` — what the log says about a
  subscription.
* `FormTree.Session.Step` — what may happen to a session, one thing at a time.
* `FormTree.Session.Ledger` — what holds of the log and the queues at any time.
* `FormTree.Session.Fades` — what becomes of a session without an owner.

## Main results

* `FormTree.Session.steps_run` — whatever an owner asks for comes down to steps.
* `FormTree.Session.Ledger.step` — a step keeps the ledger.
* `FormTree.Session.subscriptions_yield_commits` — what subscriptions yield after any requests.
-/

namespace FormTree

variable {σ κ μ : Type}

/-! ## The log -/

namespace Incident

/-- The snapshot that is taken from the subscription `id`. -/
def takenFrom? (id : Nat) : Incident σ κ → Option σ
  | .taken other snapshot => if other = id then some snapshot else none
  | _ => none

/-- The subscription `id` is opened. -/
def isOpeningOf (id : Nat) : Incident σ κ → Bool
  | .opened other => other = id
  | _ => false

/-- The subscription that the incident is about. -/
def queue? : Incident σ κ → Option Nat
  | .opened id | .taken id _ => some id
  | _ => none

/-- What is about no subscription takes from none. -/
theorem takenFrom?_of_queue?_ne {incident : Incident σ κ} {id : Nat}
    (h : incident.queue? ≠ some id) : incident.takenFrom? id = none := by
  cases incident with
  | taken other snapshot => exact if_neg fun heq => h (congrArg some heq)
  | _ => rfl

/-- What is about no subscription opens none. -/
theorem isOpeningOf_of_queue?_ne {incident : Incident σ κ} {id : Nat}
    (h : incident.queue? ≠ some id) : incident.isOpeningOf id = false := by
  cases incident with
  | opened other => exact decide_eq_false fun heq => h (congrArg some heq)
  | _ => rfl

/-- An opening is no commit. -/
theorem commit?_of_isOpeningOf {incident : Incident σ κ} {id : Nat}
    (h : incident.isOpeningOf id = true) : incident.commit? = none := by
  cases incident with
  | committed snapshot => cases h
  | _ => rfl

end Incident

namespace Session

/-- The snapshots that were taken from the subscription `id`, in this order. -/
def takenFrom (session : Session σ κ μ) (id : Nat) : List σ :=
  session.log.filterMap (·.takenFrom? id)

/-- The snapshots that were committed since the subscription `id` was opened. -/
def commitsFrom (session : Session σ κ μ) (id : Nat) : List σ :=
  (session.log.dropWhile (!·.isOpeningOf id)).filterMap (·.commit?)

/-- The subscription `id` was opened. -/
def hasOpened (session : Session σ κ μ) (id : Nat) : Bool := session.log.any (·.isOpeningOf id)

variable {session session' : Session σ κ μ} {incident : Incident σ κ} {id : Nat}

theorem takenFrom_note (session : Session σ κ μ) (incident : Incident σ κ) (id : Nat) :
    (session.note incident).takenFrom id =
      session.takenFrom id ++ (incident.takenFrom? id).toList := by
  cases h : incident.takenFrom? id <;> simp [takenFrom, h]

theorem hasOpened_note (session : Session σ κ μ) (incident : Incident σ κ) (id : Nat) :
    (session.note incident).hasOpened id =
      (session.hasOpened id || incident.isOpeningOf id) := by
  simp [hasOpened]

/-- A commit counts for the subscriptions that were opened before. -/
theorem commitsFrom_note (session : Session σ κ μ) (incident : Incident σ κ) (id : Nat) :
    (session.note incident).commitsFrom id =
      session.commitsFrom id ++ if session.hasOpened id then incident.commit?.toList else [] := by
  unfold commitsFrom
  rw [log_note, List.dropWhile_append]
  cases hopened : session.hasOpened id with
  | false =>
    have hnone : session.log.dropWhile (!·.isOpeningOf id) = [] :=
      List.dropWhile_eq_nil_iff.mpr fun other hother => by
        simpa using List.any_eq_false.mp hopened other hother
    rw [hnone]
    cases hopening : incident.isOpeningOf id with
    | false => simp [hopening]
    | true => simp [hopening, Incident.commit?_of_isOpeningOf hopening]
  | true =>
    have hsome : (session.log.dropWhile (!·.isOpeningOf id)).isEmpty = false := by
      obtain ⟨other, hother, hopening⟩ := List.any_eq_true.mp hopened
      refine List.isEmpty_eq_false_iff.mpr fun hnil => ?_
      simpa [hopening] using List.dropWhile_eq_nil_iff.mp hnil other hother
    rw [hsome, if_neg Bool.false_ne_true, List.filterMap_append, if_pos rfl]
    cases hcommit : incident.commit? <;> simp [hcommit]

/-- What is no commit leaves the commits from an opening on, also if it is that opening. -/
theorem commitsFrom_note_of_commit?_eq_none (h : incident.commit? = none) :
    (session.note incident).commitsFrom id = session.commitsFrom id := by
  rw [commitsFrom_note, h]
  split <;> exact List.append_nil _

/-- A subscription that the log does not speak of was not opened. -/
theorem eq_nil_of_queue?_ne (h : ∀ incident ∈ session.log, incident.queue? ≠ some id) :
    session.takenFrom id = [] ∧ session.commitsFrom id = [] ∧ session.hasOpened id = false := by
  have hopening : ∀ incident ∈ session.log, incident.isOpeningOf id = false :=
    fun incident hmem => Incident.isOpeningOf_of_queue?_ne (h incident hmem)
  refine ⟨?_, ?_, ?_⟩
  · exact List.filterMap_eq_nil_iff.mpr fun incident hmem =>
      Incident.takenFrom?_of_queue?_ne (h incident hmem)
  · have hnone : session.log.dropWhile (!·.isOpeningOf id) = [] :=
      List.dropWhile_eq_nil_iff.mpr fun incident hmem => by simp [hopening incident hmem]
    rw [commitsFrom, hnone]
    rfl
  · exact List.any_eq_false.mpr fun incident hmem => by simp [hopening incident hmem]

/-- What is taken from a subscription is taken from no other. -/
theorem takenFrom_receive (snapshots : List σ) : ∀ (session : Session σ κ μ) (id other : Nat),
    (session.receive id snapshots).takenFrom other =
      session.takenFrom other ++ if id = other then snapshots else [] := by
  induction snapshots with
  | nil => simp
  | cons snapshot rest ih =>
    intro session id other
    rw [receive_cons, ih, takenFrom_note]
    by_cases heq : id = other <;> simp [Incident.takenFrom?, heq]

/-- Taking commits nothing. -/
theorem commitsFrom_receive (snapshots : List σ) : ∀ (session : Session σ κ μ) (id other : Nat),
    (session.receive id snapshots).commitsFrom other = session.commitsFrom other := by
  induction snapshots with
  | nil => simp
  | cons snapshot rest ih =>
    intro session id other
    rw [receive_cons, ih, commitsFrom_note_of_commit?_eq_none rfl]

/-! ## Steps -/

/-- Nothing changes that concerns the subscriptions. -/
structure Apart (session session' : Session σ κ μ) : Prop where
  log : session'.log = session.log
  value : session'.state.value = session.state.value
  history : session'.state.history = session.state.history
  queues : session'.state.queues = session.state.queues
  nextQueue : session'.state.nextQueue = session.state.nextQueue
  subscriptions : session'.subscriptions = session.subscriptions

/-- Open a subscription that has no name yet. -/
def opened (session : Session σ κ μ) : Session σ κ μ :=
  { session with state := session.state.subscribe }.note (.opened session.state.nextQueue)

/-- Close a subscription, whatever its name. -/
def closed (session : Session σ κ μ) (id : Nat) : Session σ κ μ :=
  { session with state := session.state.unsubscribe id }

/-- Leave `rest` queued on a subscription, and note that `snapshots` are taken from it. -/
def taking (session : Session σ κ μ) (id : Nat) (snapshots rest : List σ) : Session σ κ μ :=
  { session with
    state := { session.state with
      queues := session.state.queues.insert id rest } }.receive id snapshots

theorem take?_of_none {name : String} (h : session.subscriptions[name]? = none) :
    session.take? name = (session, .error .noSubscription) := by
  rw [Session.take?, h]

theorem take?_of_nil {name : String} (h : session.subscriptions[name]? = some id)
    (hqueued : session.state.queued id = []) : session.take? name = (session, .ok none) := by
  simp [Session.take?, h, Observable.take?, hqueued]

/-- The oldest snapshot is taken, and the others stay queued. -/
theorem take?_of_cons {name : String} (h : session.subscriptions[name]? = some id) {snapshot : σ}
    {rest : List σ} (hqueued : session.state.queued id = snapshot :: rest) :
    session.take? name = (session.taking id [snapshot] rest, .ok (some snapshot)) := by
  simp [Session.take?, h, Observable.take?, hqueued, taking]

theorem drain_of_none {name : String} (h : session.subscriptions[name]? = none) :
    session.drain name = (session, .error .noSubscription) := by
  rw [Session.drain, h]

theorem drain_of_nil {name : String} (h : session.subscriptions[name]? = some id)
    (hqueued : session.state.queued id = []) : session.drain name = (session, .ok []) := by
  simp [Session.drain, h, Observable.drain, hqueued]

/-- Everything is taken. -/
theorem drain_of_cons {name : String} (h : session.subscriptions[name]? = some id) {snapshot : σ}
    {rest : List σ} (hqueued : session.state.queued id = snapshot :: rest) :
    session.drain name = (session.taking id (snapshot :: rest) [], .ok (snapshot :: rest)) := by
  simp [Session.drain, h, Observable.drain, hqueued, taking]

/-- The session after waiting for a snapshot is that after taking one. -/
theorem poll_fst (session : Session σ κ μ) (name : String) :
    (session.poll name).1 = (session.take? name).1 := by
  unfold Session.poll
  split <;> next heq => rw [heq]

/-- A subscription on which something is queued is open. -/
theorem mem_queues_of_queued (h : session.state.queued id ≠ []) : id ∈ session.state.queues := by
  by_contra hgone
  exact h (Std.ExtTreeMap.getD_eq_fallback hgone)

section Steps

variable [DecidableEq σ]

/-- What may happen to a session, one thing at a time. -/
inductive Step (session : Session σ κ μ) : Session σ κ μ → Prop
  /-- Another snapshot is committed. -/
  | commit {next : σ} : next ≠ session.state.value → Step session (session.commit next)
  /-- A subscription is opened under a name. -/
  | subscribe (name : String) : Step session (session.subscribe name)
  /-- The subscription of a name is closed. -/
  | unsubscribe (name : String) : Step session (session.unsubscribe name)
  /-- Some of the snapshots that are queued on a subscription are taken, the oldest first. -/
  | take {id : Nat} {snapshots rest : List σ} : id ∈ session.state.queues →
    session.state.queued id = snapshots ++ rest → Step session (session.taking id snapshots rest)
  /-- Something is noted that is about no subscription. -/
  | note {incident : Incident σ κ} : incident.queue? = none → incident.commit? = none →
    Step session (session.note incident)
  /-- Something happens that does not concern the subscriptions. -/
  | apart {session' : Session σ κ μ} : Apart session session' → Step session session'

/-- Several steps, one after the other. -/
abbrev Steps : Session σ κ μ → Session σ κ μ → Prop := Relation.ReflTransGen Step

/-- Handling does not concern the subscriptions. -/
theorem Handlings.steps (handlings : Handlings session session') : Steps session session' := by
  induction handlings with
  | refl => exact .refl
  | tail _ handling ih =>
    refine ih.tail ?_
    cases handling <;> exact .apart ⟨rfl, rfl, rfl, rfl, rfl, rfl⟩

theorem steps_watch (session : Session σ κ μ) (name : String) (reaction : κ) :
    Steps session (session.watch name reaction) := by
  have registered : Step session { session with state := session.state.watch reaction } :=
    .apart ⟨rfl, rfl, rfl, rfl, rfl, rfl⟩
  have noted : Step { session with state := session.state.watch reaction }
      ({ session with state := session.state.watch reaction }.note
        (.registered session.state.nextObserver)) :=
    .note rfl rfl
  have cancelled := (handlings_cancel ({ session with state := session.state.watch reaction }.note
    (.registered session.state.nextObserver)) name).steps
  exact (((Relation.ReflTransGen.single registered).tail noted).trans cancelled).tail
    (.apart ⟨rfl, rfl, rfl, rfl, rfl, rfl⟩)

theorem steps_take? (session : Session σ κ μ) (name : String) :
    Steps session (session.take? name).1 := by
  cases hname : session.subscriptions[name]? with
  | none => rw [take?_of_none hname]
  | some id =>
    cases hqueued : session.state.queued id with
    | nil => rw [take?_of_nil hname hqueued]
    | cons snapshot rest =>
      rw [take?_of_cons hname hqueued]
      exact .single (.take (mem_queues_of_queued (hqueued ▸ List.cons_ne_nil _ _)) hqueued)

theorem steps_drain (session : Session σ κ μ) (name : String) :
    Steps session (session.drain name).1 := by
  cases hname : session.subscriptions[name]? with
  | none => rw [drain_of_none hname]
  | some id =>
    cases hqueued : session.state.queued id with
    | nil => rw [drain_of_nil hname hqueued]
    | cons snapshot rest =>
      rw [drain_of_cons hname hqueued]
      exact .single (.take (mem_queues_of_queued (hqueued ▸ List.cons_ne_nil _ _))
        (hqueued.trans (List.append_nil _).symm))

theorem steps_addOwner (session : Session σ κ μ) : Steps session session.addOwner := by
  unfold Session.addOwner
  split
  · exact .single (.apart ⟨rfl, rfl, rfl, rfl, rfl, rfl⟩)
  · exact .refl

section Inner

variable {inner : Session σ κ μ → Session σ κ μ × Bool}
  (hinner : ∀ session : Session σ κ μ, Steps session (inner session).1)

include hinner

/-- An update comes down to steps if the delivery that it asks for does. -/
theorem steps_apply (session : Session σ κ μ) (change : σ → Option σ) :
    Steps session (session.apply inner change).1 := by
  unfold Session.apply
  cases change session.state.value with
  | none => exact .refl
  | some next =>
    dsimp only
    split
    · exact .refl
    · next hne =>
      have steps := hinner (session.commit next)
      split <;> next hflush => rw [hflush] at steps; exact .head (.commit hne) steps

theorem steps_act (session : Session σ κ μ) (act : Act σ κ) :
    Steps session (session.act inner act).1 := by
  cases act with
  | update change =>
    have steps := steps_apply hinner session change
    unfold Session.act
    dsimp only
    split <;> next happly => rw [happly] at steps; exact steps
  | attempt change => exact steps_apply hinner session change
  | watch name reaction => exact steps_watch session name reaction
  | cancel name => exact (handlings_cancel session name).steps
  | entrust name owner => exact (handlings_entrust session name owner).steps
  | recover owner id name => exact (handlings_recover session owner id name).steps
  | subscribe name => exact .single (.subscribe name)
  | unsubscribe name => exact .single (.unsubscribe name)
  | take name => exact steps_take? session name
  | drain name => exact steps_drain session name
  | share => exact steps_addOwner session
  | release =>
    unfold Session.act
    dsimp only
    split
    · exact .single (.apart ⟨rfl, rfl, rfl, rfl, rfl, rfl⟩)
    · exact .refl

theorem steps_follow (script : Script σ κ μ) : ∀ session : Session σ κ μ,
    Steps session (session.follow inner script).1 := by
  induction script with
  | done leaves => exact fun _ => .refl
  | act act next ih =>
    intro session
    have steps := steps_act hinner session act
    unfold follow
    split
    · next hact =>
      rw [hact] at steps
      exact steps.trans (ih _)
    · next hact =>
      rw [hact] at steps
      exact steps
  | look next ih => exact fun session => ih session.state session
  | remember memory next ih =>
    intro session
    have step : Step session { session with memory } := .apart ⟨rfl, rfl, rfl, rfl, rfl, rfl⟩
    exact .head step (ih { session with memory })

theorem steps_react (client : Client σ κ μ) (observer : Observer κ) (snapshot : σ)
    (session : Session σ κ μ) :
    Steps session (Session.react client inner observer snapshot session).1 := by
  have called : Step session (session.note (.called observer snapshot)) := .note rfl rfl
  have steps := steps_follow hinner (client observer.reaction snapshot session.memory)
    (session.note (.called observer snapshot))
  unfold Session.react
  split
  · next hfollow =>
    rw [hfollow] at steps
    exact .head called steps
  · next hfollow =>
    rw [hfollow] at steps
    exact .tail (.head called steps) (.note rfl rfl)

end Inner

/-- **A delivery comes down to steps**, with all that its observers do.

**Proof sketch.** By induction on how deep deliveries may be asked for inside one another: what the
delivery itself does to the container does not concern the subscriptions. -/
theorem steps_flush (client : Client σ κ μ) (rounds depth : Nat) : ∀ session : Session σ κ μ,
    Steps session (Session.flush client rounds depth session).1 := by
  have deliver : ∀ inner : Session σ κ μ → Session σ κ μ × Bool,
      (∀ session, Steps session (inner session).1) → ∀ session,
        Steps session (place.flush (react client inner) rounds session).1 := by
    intro inner hinner session
    refine place.flush_holding (P := Steps session) _
      (fun _ _ observer _ snapshot world steps =>
        steps.trans (steps_react hinner client observer snapshot world))
      (fun _ _ observer _ snapshot world steps _ =>
        (steps.trans (steps_react hinner client observer snapshot world)).tail ?_)
      (fun observers world steps => steps.trans (handlings_hold observers world).steps)
      (fun observer others world steps => steps.trans (handlings_letGo world _ _).steps)
      (fun world steps => steps.tail ?_) (fun world pending steps => steps.tail ?_)
      (fun world steps => steps.tail ?_) .refl
    all_goals exact .apart ⟨rfl, rfl, rfl, rfl, rfl, rfl⟩
  induction depth with
  | zero => exact deliver _ fun _ => .refl
  | succ depth ih => exact deliver _ ih

theorem steps_update (client : Client σ κ μ) (rounds : Nat) (session : Session σ κ μ)
    (change : σ → Option σ) : Steps session (session.update client rounds change).1 := by
  rw [update_fst]
  split
  · exact steps_apply (steps_flush client rounds rounds) session change
  · exact .refl

theorem steps_perform (client : Client σ κ μ) (rounds : Nat) (session : Session σ κ μ)
    (request : Request σ κ) : Steps session (session.perform client rounds request).1 := by
  cases request with
  | update change => exact steps_update client rounds session change
  | register name reaction =>
    change Steps session (session.register name reaction).1
    unfold Session.register
    split
    · exact steps_watch session name reaction
    · exact .refl
  | cancel name => exact (handlings_cancel session name).steps
  | entrust name owner => exact (handlings_entrust session name owner).steps
  | recover owner id name => exact (handlings_recover session owner id name).steps
  | observe name =>
    change Steps session (session.observe name).1
    unfold Session.observe
    split
    · exact .single (.subscribe name)
    · exact .refl
  | unsubscribe name => exact .single (.unsubscribe name)
  | take name => exact steps_take? session name
  | drain name => exact steps_drain session name
  | poll name =>
    change Steps session (session.poll name).1
    rw [poll_fst]
    exact steps_take? session name
  | addOwner => exact steps_addOwner session
  | dropOwner => exact .single (.apart ⟨rfl, rfl, rfl, rfl, rfl, rfl⟩)

/-- **Whatever an owner asks for comes down to steps.** -/
theorem steps_run (client : Client σ κ μ) (rounds : Nat) :
    ∀ (requests : List (Request σ κ)) (session : Session σ κ μ),
      Steps session (Session.run client rounds requests session).1 := by
  intro requests
  induction requests with
  | nil => exact fun _ => .refl
  | cons request rest ih =>
    intro session
    unfold Session.run
    split
    · exact .refl
    · exact (steps_perform client rounds session request).trans (ih _)

end Steps

/-! ## The ledger -/

/-- What the log, the history and the queues say of one another; `first` is the snapshot that the
container started with. -/
structure Ledger (first : σ) (session : Session σ κ μ) : Prop where
  logged : session.state.history = session.log.filterMap (·.commit?)
  distinct : (first :: session.state.history).IsChain (· ≠ ·)
  latest : (first :: session.state.history).getLast? = some session.state.value
  /-- The log speaks of no subscription that is not opened yet. -/
  fresh : ∀ incident ∈ session.log, ∀ id, incident.queue? = some id →
    id < session.state.nextQueue
  /-- No subscription is opened twice. -/
  once : ∀ id, session.log.countP (·.isOpeningOf id) ≤ 1
  opened : ∀ id ∈ session.state.queues, session.hasOpened id = true
  yields : ∀ id ∈ session.state.queues,
    session.takenFrom id ++ session.state.queued id = session.commitsFrom id
  /-- Also a subscription that is closed yielded the commits from its opening on. -/
  yielded : ∀ id, session.takenFrom id <+: session.commitsFrom id

variable {first : σ}

/-- What is noted of the subscriptions that are opened, keeps the log fresh. -/
theorem Ledger.fresh_concat {bound : Nat} (h : Ledger first session)
    (hle : session.state.nextQueue ≤ bound)
    (hqueue : ∀ id, incident.queue? = some id → id < bound) :
    ∀ other ∈ session.log ++ [incident], ∀ id, other.queue? = some id → id < bound := by
  intro other hother id hid
  rcases List.mem_append.mp hother with hother | hother
  · exact Nat.lt_of_lt_of_le (h.fresh other hother id hid) hle
  · exact hqueue id (List.mem_singleton.mp hother ▸ hid)

/-- The subscriptions that are open have numbers below the next one. -/
theorem Ledger.lt_nextQueue (h : Ledger first session) (hopened : session.hasOpened id = true) :
    id < session.state.nextQueue := by
  obtain ⟨incident, hmem, hopening⟩ := List.any_eq_true.mp hopened
  refine h.fresh incident hmem id ?_
  by_contra hne
  rw [Incident.isOpeningOf_of_queue?_ne hne] at hopening
  cases hopening

/-- The log does not speak of the next subscription. -/
theorem Ledger.eq_nil (h : Ledger first session) :
    session.takenFrom session.state.nextQueue = [] ∧
      session.commitsFrom session.state.nextQueue = [] ∧
        session.hasOpened session.state.nextQueue = false :=
  eq_nil_of_queue?_ne fun incident hmem heq =>
    Nat.lt_irrefl _ (h.fresh incident hmem _ heq)

/-- What is about no subscription and commits nothing keeps the ledger. -/
theorem Ledger.note (h : Ledger first session) (hqueue : incident.queue? = none)
    (hcommit : incident.commit? = none) : Ledger first (session.note incident) := by
  have hne : ∀ id, incident.queue? ≠ some id := fun id heq => by rw [hqueue] at heq; cases heq
  have hopening : ∀ id, incident.isOpeningOf id = false := fun id =>
    Incident.isOpeningOf_of_queue?_ne (hne id)
  have htaken : ∀ id, (session.note incident).takenFrom id = session.takenFrom id := fun id => by
    rw [takenFrom_note, Incident.takenFrom?_of_queue?_ne (hne id), Option.toList_none,
      List.append_nil]
  refine ⟨?_, h.distinct, h.latest, h.fresh_concat (Nat.le_refl _) fun id hid =>
    absurd hid (hne id), fun id => ?_, fun id hid => ?_, fun id hid => ?_, fun id => ?_⟩
  · simpa [hcommit] using h.logged
  · simpa [List.countP_append, hopening id] using h.once id
  · rw [hasOpened_note, h.opened id hid, Bool.true_or]
  · rw [htaken, commitsFrom_note_of_commit?_eq_none hcommit]
    exact h.yields id hid
  · rw [htaken, commitsFrom_note_of_commit?_eq_none hcommit]
    exact h.yielded id

/-- What does not concern the subscriptions keeps the ledger. -/
theorem Ledger.apart (h : Ledger first session) (apart : Apart session session') :
    Ledger first session' := by
  have htaken : ∀ id, session'.takenFrom id = session.takenFrom id := fun id => by
    rw [takenFrom, apart.log, takenFrom]
  have hcommits : ∀ id, session'.commitsFrom id = session.commitsFrom id := fun id => by
    rw [commitsFrom, apart.log, commitsFrom]
  refine ⟨?_, ?_, ?_, ?_, ?_, ?_, ?_, ?_⟩
  · rw [apart.history, apart.log]
    exact h.logged
  · rw [apart.history]
    exact h.distinct
  · rw [apart.history, apart.value]
    exact h.latest
  · rw [apart.log, apart.nextQueue]
    exact h.fresh
  · rw [apart.log]
    exact h.once
  · rw [apart.queues]
    intro id hid
    rw [hasOpened, apart.log]
    exact h.opened id hid
  · rw [apart.queues]
    intro id hid
    rw [htaken, hcommits, Observable.queued, apart.queues]
    exact h.yields id hid
  · intro id
    rw [htaken, hcommits]
    exact h.yielded id

/-- The new subscription has nothing to yield yet. -/
theorem Ledger.open (h : Ledger first session) : Ledger first session.opened := by
  obtain ⟨htaken, hcommits, hopened⟩ := h.eq_nil
  have hcount : session.log.countP (·.isOpeningOf session.state.nextQueue) = 0 :=
    List.countP_eq_zero.mpr fun incident hmem => List.any_eq_false.mp hopened incident hmem
  have htaken' : ∀ id, session.opened.takenFrom id = session.takenFrom id := fun id =>
    (takenFrom_note _ _ _).trans (List.append_nil _)
  have hcommits' : ∀ id, session.opened.commitsFrom id = session.commitsFrom id := fun id =>
    commitsFrom_note_of_commit?_eq_none rfl
  have hqueues : session.opened.state.queues =
    session.state.queues.insert session.state.nextQueue [] := rfl
  refine ⟨?_, h.distinct, h.latest, h.fresh_concat (Nat.le_succ _) fun id hid => ?_, fun id => ?_,
    fun id hid => ?_, fun id hid => ?_, fun id => ?_⟩
  · exact h.logged.trans (by simp [Session.opened, Observable.subscribe, Incident.commit?])
  · exact Option.some.inj hid ▸ Nat.lt_succ_self _
  · change (session.log ++ [Incident.opened session.state.nextQueue]).countP _ ≤ 1
    by_cases heq : session.state.nextQueue = id
    · subst heq
      rw [List.countP_append, hcount]
      simp [Incident.isOpeningOf]
    · simpa [List.countP_append, Incident.isOpeningOf, heq] using h.once id
  · have hnote : session.opened.hasOpened id =
      (session.hasOpened id || decide (session.state.nextQueue = id)) := hasOpened_note _ _ _
    rw [hqueues, Std.ExtTreeMap.mem_insert, Std.LawfulEqCmp.compare_eq_iff_eq] at hid
    rw [hnote]
    rcases hid with heq | hid
    · simp [heq]
    · rw [h.opened id hid, Bool.true_or]
  · rw [htaken', hcommits', Observable.queued, hqueues, Std.ExtTreeMap.getD_insert]
    rw [hqueues, Std.ExtTreeMap.mem_insert] at hid
    split
    · next heq =>
      rw [← Std.LawfulEqCmp.compare_eq_iff_eq.mp heq, htaken, hcommits, List.append_nil]
    · next hne => exact h.yields id (hid.resolve_left hne)
  · rw [htaken', hcommits']
    exact h.yielded id

/-- A subscription that is closed has nothing to yield any more. -/
theorem Ledger.close (h : Ledger first session) (id : Nat) : Ledger first (session.closed id) := by
  have hqueues : (session.closed id).state.queues = session.state.queues.erase id := rfl
  refine ⟨h.logged, h.distinct, h.latest, h.fresh, h.once, fun other hother => ?_,
    fun other hother => ?_, h.yielded⟩
  · exact h.opened other (Std.ExtTreeMap.mem_of_mem_erase hother)
  · obtain ⟨hne, hmem⟩ := Std.ExtTreeMap.mem_erase.mp hother
    rw [Observable.queued, hqueues, Std.ExtTreeMap.getD_erase, if_neg hne]
    exact h.yields other hmem

/-- What is taken is no longer queued. -/
theorem Ledger.take (h : Ledger first session) {snapshots rest : List σ}
    (hmem : id ∈ session.state.queues) (hqueued : session.state.queued id = snapshots ++ rest) :
    Ledger first (session.taking id snapshots rest) := by
  have hcommits : ∀ other, (session.taking id snapshots rest).commitsFrom other =
      session.commitsFrom other := fun other => commitsFrom_receive snapshots _ id other
  have htaken : ∀ other, (session.taking id snapshots rest).takenFrom other =
      session.takenFrom other ++ if id = other then snapshots else [] :=
    fun other => takenFrom_receive snapshots _ id other
  have hlog : (session.taking id snapshots rest).log =
    session.log ++ snapshots.map (.taken id) := rfl
  have hqueues : (session.taking id snapshots rest).state.queues =
    session.state.queues.insert id rest := rfl
  have hyields := h.yields id hmem
  rw [hqueued] at hyields
  refine ⟨?_, h.distinct, h.latest, fun incident hincident other hother => ?_, fun other => ?_,
    fun other hother => ?_, fun other hother => ?_, fun other => ?_⟩
  · have hnone : (snapshots.map (Incident.taken (κ := κ) id)).filterMap (·.commit?) = [] :=
      List.filterMap_eq_nil_iff.mpr fun incident hincident => by
        obtain ⟨snapshot, -, rfl⟩ := List.mem_map.mp hincident
        rfl
    rw [hlog, List.filterMap_append, hnone, List.append_nil]
    exact h.logged
  · rcases List.mem_append.mp hincident with hincident | hincident
    · exact h.fresh incident hincident other hother
    · obtain ⟨snapshot, -, rfl⟩ := List.mem_map.mp hincident
      exact Option.some.inj hother ▸ h.lt_nextQueue (h.opened id hmem)
  · have hnone : (snapshots.map (Incident.taken (κ := κ) id)).countP (·.isOpeningOf other) = 0 :=
      List.countP_eq_zero.mpr fun incident hincident => by
        obtain ⟨snapshot, -, rfl⟩ := List.mem_map.mp hincident
        simp [Incident.isOpeningOf]
    rw [hlog, List.countP_append, hnone, Nat.add_zero]
    exact h.once other
  · have hopened : session.hasOpened other = true := by
      rw [hqueues, Std.ExtTreeMap.mem_insert] at hother
      rcases hother with heq | hother
      · exact Std.LawfulEqCmp.compare_eq_iff_eq.mp heq ▸ h.opened id hmem
      · exact h.opened other hother
    rw [hasOpened, hlog, List.any_append]
    exact Bool.or_eq_true_iff.mpr (.inl hopened)
  · rw [htaken, hcommits, Observable.queued, hqueues, Std.ExtTreeMap.getD_insert]
    rw [hqueues, Std.ExtTreeMap.mem_insert] at hother
    by_cases heq : id = other
    · subst heq
      rw [if_pos rfl, if_pos (Std.LawfulEqCmp.compare_eq_iff_eq.mpr rfl), List.append_assoc]
      exact hyields
    · have hne : compare id other ≠ .eq := fun h => heq (Std.LawfulEqCmp.compare_eq_iff_eq.mp h)
      rw [if_neg heq, if_neg hne, List.append_nil]
      exact h.yields other (hother.resolve_left hne)
  · rw [htaken, hcommits]
    split
    · next heq =>
      subst heq
      rw [← hyields, ← List.append_assoc]
      exact List.prefix_append _ _
    · rw [List.append_nil]
      exact h.yielded other

section Ledger

variable [DecidableEq σ]

/-- A commit is queued on every subscription that is open. -/
theorem Ledger.commit (h : Ledger first session) {next : σ} (hne : next ≠ session.state.value) :
    Ledger first (session.commit next) := by
  have hhistory := history_commit_of_ne hne
  have hqueues : (session.commit next).state.queues =
      session.state.queues.map fun _ queue => queue ++ [next] := by
    change (session.state.commit next).queues = _
    rw [Observable.commit, if_neg hne]
  have hnext : (session.commit next).state.nextQueue = session.state.nextQueue := by
    change (session.state.commit next).nextQueue = _
    rw [Observable.commit, if_neg hne]
  have hlog : (session.commit next).log = session.log ++ [.committed next] := rfl
  have htaken : ∀ id, (session.commit next).takenFrom id = session.takenFrom id := fun id =>
    (takenFrom_note _ _ _).trans (List.append_nil _)
  have hcommits : ∀ id, (session.commit next).commitsFrom id =
      session.commitsFrom id ++ if session.hasOpened id then [next] else [] :=
    fun id => commitsFrom_note _ _ _
  refine ⟨?_, ?_, ?_, ?_, fun id => ?_, fun id hid => ?_, fun id hid => ?_, fun id => ?_⟩
  · rw [hhistory, hlog, List.filterMap_append, h.logged]
    rfl
  · rw [hhistory, ← List.cons_append]
    refine h.distinct.append (List.isChain_singleton next) fun last hlast other hother => ?_
    rw [h.latest, Option.mem_some] at hlast
    rw [List.head?_singleton, Option.mem_some] at hother
    rw [← hlast, ← hother]
    exact hne.symm
  · rw [hhistory, ← List.cons_append, List.getLast?_concat]
    exact congrArg some (Observable.value_commit session.state next).symm
  · rw [hnext]
    refine h.fresh_concat (Nat.le_refl _) fun id hid => ?_
    cases hid
  · rw [hlog, List.countP_append]
    exact h.once id
  · have hnote : (session.commit next).hasOpened id = (session.hasOpened id || false) :=
      hasOpened_note _ _ _
    rw [hqueues, Std.ExtTreeMap.mem_map] at hid
    rw [hnote, h.opened id hid, Bool.true_or]
  · rw [hqueues, Std.ExtTreeMap.mem_map] at hid
    have hqueued : (session.commit next).state.queued id = session.state.queued id ++ [next] := by
      rw [Observable.queued, hqueues, Std.ExtTreeMap.getD_map]
      obtain ⟨queue, hqueue⟩ := Option.isSome_iff_exists.mp
        (Std.ExtTreeMap.mem_iff_isSome_getElem?.mp hid)
      simp [Observable.queued, Std.ExtTreeMap.getD_eq_getD_getElem?, hqueue]
    rw [htaken, hcommits, hqueued, if_pos (h.opened id hid), ← List.append_assoc,
      h.yields id hid]
  · rw [htaken, hcommits]
    exact (h.yielded id).trans (List.prefix_append _ _)

/-! ## Names -/

omit [DecidableEq σ] in
/-- The ledger does not depend on the names of the subscriptions. -/
theorem Ledger.rename (h : Ledger first session)
    (subscriptions : Std.ExtTreeMap String Nat compare) :
    Ledger first { session with subscriptions } :=
  ⟨h.logged, h.distinct, h.latest, h.fresh, h.once, h.opened, h.yields, h.yielded⟩

/-- Every name stands for an open subscription, and no two names for the same one. -/
structure Named (session : Session σ κ μ) : Prop where
  isOpen : ∀ (name : String) (id : Nat), session.subscriptions[name]? = some id →
    id ∈ session.state.queues
  injective : ∀ (name other : String) (id : Nat), session.subscriptions[name]? = some id →
    session.subscriptions[other]? = some id → name = other

omit [DecidableEq σ] in
theorem Ledger.unsubscribe (h : Ledger first session) (name : String) :
    Ledger first (session.unsubscribe name) := by
  unfold Session.unsubscribe
  split
  · exact h
  · next id _ => exact (h.close id).rename _

omit [DecidableEq σ] in
/-- The other names keep their subscriptions. -/
theorem Named.unsubscribe (h : Named session) (name : String) :
    Named (session.unsubscribe name) := by
  unfold Session.unsubscribe
  split
  · exact h
  · next id hid =>
    refine ⟨fun other open' hopen => ?_, fun other other' open' hopen hopen' => ?_⟩
    · rw [Std.ExtTreeMap.getElem?_erase] at hopen
      split at hopen
      · cases hopen
      · next hne =>
        refine Std.ExtTreeMap.mem_erase.mpr ⟨fun heq => hne ?_, h.isOpen other open' hopen⟩
        rw [compare_eq_iff_eq] at heq
        exact Std.LawfulEqCmp.compare_eq_iff_eq.mpr (h.injective name other id hid (heq ▸ hopen))
    · rw [Std.ExtTreeMap.getElem?_erase] at hopen hopen'
      split at hopen
      · cases hopen
      · split at hopen'
        · cases hopen'
        · exact h.injective other other' open' hopen hopen'

omit [DecidableEq σ] in
/-- A name that is given to a new subscription is taken from the older one. -/
theorem Named.subscribe (h : Ledger first session) (named : Named session) (name : String) :
    Named (session.subscribe name) := by
  have hopened : Named session.opened :=
    ⟨fun other id hid => Std.ExtTreeMap.mem_insert.mpr (.inr (named.isOpen other id hid)),
      named.injective⟩
  -- the older names stand for older subscriptions
  have hlt : ∀ (other : String) (id : Nat),
      (session.opened.unsubscribe name).subscriptions[other]? = some id →
      id < session.state.nextQueue := by
    intro other id hid
    refine h.lt_nextQueue (h.opened id (named.isOpen other id ?_))
    unfold Session.unsubscribe at hid
    split at hid
    · exact hid
    · rw [Std.ExtTreeMap.getElem?_erase] at hid
      split at hid
      · cases hid
      · exact hid
  have hnew : session.state.nextQueue ∈ (session.opened.unsubscribe name).state.queues := by
    unfold Session.unsubscribe
    split
    · exact Std.ExtTreeMap.mem_insert_self
    · next id hid =>
      have hold : id < session.state.nextQueue :=
        h.lt_nextQueue (h.opened id (named.isOpen _ _ hid))
      refine Std.ExtTreeMap.mem_erase.mpr ⟨fun heq => ?_, Std.ExtTreeMap.mem_insert_self⟩
      exact Nat.ne_of_lt hold (Std.LawfulEqCmp.compare_eq_iff_eq.mp heq)
  have hclosed := hopened.unsubscribe name
  change Named { session.opened.unsubscribe name with
    subscriptions := (session.opened.unsubscribe name).subscriptions.insert name
      session.state.nextQueue }
  refine ⟨fun other id hid => ?_, fun other other' id hid hid' => ?_⟩
  · rw [Std.ExtTreeMap.getElem?_insert] at hid
    split at hid
    · exact Option.some.inj hid ▸ hnew
    · exact hclosed.isOpen other id hid
  · rw [Std.ExtTreeMap.getElem?_insert] at hid hid'
    split at hid <;> split at hid'
    · next heq heq' =>
      have heq := Std.LawfulEqCmp.compare_eq_iff_eq.mp heq
      exact heq.symm.trans (Std.LawfulEqCmp.compare_eq_iff_eq.mp heq')
    · exact absurd (Option.some.inj hid) (Nat.ne_of_gt (hlt other' id hid'))
    · exact absurd (Option.some.inj hid') (Nat.ne_of_gt (hlt other id hid))
    · exact hclosed.injective other other' id hid hid'

/-- **A step keeps the ledger.** -/
theorem Ledger.step (h : Ledger first session) (step : Step session session') :
    Ledger first session' := by
  cases step with
  | commit hne => exact h.commit hne
  | subscribe name => exact (h.open.unsubscribe name).rename _
  | unsubscribe name => exact h.unsubscribe name
  | take hmem hqueued => exact h.take hmem hqueued
  | note hqueue hcommit => exact h.note hqueue hcommit
  | apart apart => exact h.apart apart

/-- A step keeps that every name stands for an open subscription. -/
theorem Named.step (h : Ledger first session) (named : Named session)
    (step : Step session session') : Named session' := by
  cases step with
  | commit hne =>
    refine ⟨fun name id hid => ?_, named.injective⟩
    change id ∈ (session.state.commit _).queues
    rw [Observable.commit, if_neg hne]
    exact Std.ExtTreeMap.mem_map.mpr (named.isOpen name id hid)
  | subscribe name => exact named.subscribe h name
  | unsubscribe name => exact named.unsubscribe name
  | take hmem hqueued =>
    exact ⟨fun name id hid => Std.ExtTreeMap.mem_insert.mpr (.inr (named.isOpen name id hid)),
      named.injective⟩
  | note _ _ => exact ⟨named.isOpen, named.injective⟩
  | apart apart =>
    refine ⟨?_, ?_⟩
    · rw [apart.subscriptions, apart.queues]
      exact named.isOpen
    · rw [apart.subscriptions]
      exact named.injective

/-- Any steps keep the ledger, and that every name stands for an open subscription. -/
theorem Ledger.steps (h : Ledger first session) (named : Named session)
    (steps : Steps session session') : Ledger first session' ∧ Named session' := by
  induction steps with
  | refl => exact ⟨h, named⟩
  | tail _ step ih => exact ⟨ih.1.step step, Named.step ih.1 ih.2 step⟩

omit [DecidableEq σ] in
/-- The ledger of a fresh session is empty. -/
theorem ledger_start (value : σ) (memory : μ) :
    Ledger value (Session.start value memory : Session σ κ μ) ∧
      Named (Session.start value memory : Session σ κ μ) := by
  refine ⟨⟨rfl, List.isChain_singleton value, rfl, nofun, fun _ => Nat.zero_le _, fun id hid => ?_,
    fun id hid => ?_, fun _ => List.prefix_refl []⟩, fun name id hid => ?_,
    fun name other id hid _ => ?_⟩
  · exact absurd hid Std.ExtTreeMap.not_mem_empty
  · exact absurd hid Std.ExtTreeMap.not_mem_empty
  · simp [Session.start] at hid
  · simp [Session.start] at hid

end Ledger

/-! ## Without an owner -/

/-- A session without an owner commits nothing more, and its subscriptions only lose what they
hold. -/
structure Fades (session session' : Session σ κ μ) : Prop where
  gone : session'.isAlive = false
  commits : session'.log.filterMap (·.commit?) = session.log.filterMap (·.commit?)
  commitsFrom : ∀ id, session'.commitsFrom id = session.commitsFrom id
  names : ∀ (name : String) (id : Nat), session'.subscriptions[name]? = some id →
    session.subscriptions[name]? = some id
  queued : ∀ id, session'.state.queued id <:+ session.state.queued id

theorem Fades.refl (hgone : session.isAlive = false) : Fades session session :=
  ⟨hgone, rfl, fun _ => rfl, fun _ _ hid => hid, fun _ => List.suffix_rfl⟩

theorem Fades.trans {session'' : Session σ κ μ} (h : Fades session session')
    (h' : Fades session' session'') : Fades session session'' :=
  ⟨h'.gone, h'.commits.trans h.commits, fun id => (h'.commitsFrom id).trans (h.commitsFrom id),
    fun name id hid => h.names name id (h'.names name id hid),
    fun id => (h'.queued id).trans (h.queued id)⟩

theorem fades_unsubscribe (hgone : session.isAlive = false) (name : String) :
    Fades session (session.unsubscribe name) := by
  unfold Session.unsubscribe
  split
  · exact .refl hgone
  · refine ⟨hgone, rfl, fun _ => rfl, fun other id hid => ?_, fun id => ?_⟩
    · rw [Std.ExtTreeMap.getElem?_erase] at hid
      split at hid
      · cases hid
      · exact hid
    · change (session.state.queues.erase _).getD id [] <:+ _
      rw [Std.ExtTreeMap.getD_erase]
      split
      · exact List.nil_suffix
      · exact List.suffix_rfl

theorem fades_taking (hgone : session.isAlive = false) {snapshots rest : List σ}
    (hqueued : session.state.queued id = snapshots ++ rest) :
    Fades session (session.taking id snapshots rest) := by
  refine ⟨hgone, ?_, fun other => commitsFrom_receive snapshots _ id other, fun _ _ hid => hid,
    fun other => ?_⟩
  · simp [taking, receive, Incident.commit?]
  · change (session.state.queues.insert id rest).getD other [] <:+ _
    rw [Std.ExtTreeMap.getD_insert]
    split
    · next heq =>
      rw [← Std.LawfulEqCmp.compare_eq_iff_eq.mp heq, hqueued]
      exact List.suffix_append _ _
    · exact List.suffix_rfl

theorem fades_take? (hgone : session.isAlive = false) (name : String) :
    Fades session (session.take? name).1 := by
  cases hname : session.subscriptions[name]? with
  | none =>
    rw [take?_of_none hname]
    exact .refl hgone
  | some id =>
    cases hqueued : session.state.queued id with
    | nil =>
      rw [take?_of_nil hname hqueued]
      exact .refl hgone
    | cons snapshot rest =>
      rw [take?_of_cons hname hqueued]
      exact fades_taking hgone hqueued

theorem fades_drain (hgone : session.isAlive = false) (name : String) :
    Fades session (session.drain name).1 := by
  cases hname : session.subscriptions[name]? with
  | none =>
    rw [drain_of_none hname]
    exact .refl hgone
  | some id =>
    cases hqueued : session.state.queued id with
    | nil =>
      rw [drain_of_nil hname hqueued]
      exact .refl hgone
    | cons snapshot rest =>
      rw [drain_of_cons hname hqueued]
      exact fades_taking hgone (hqueued.trans (List.append_nil _).symm)

/-- Handling commits nothing and queues nothing. -/
theorem Handlings.fades (handlings : Handlings session session') (hgone : session.isAlive = false) :
    Fades session session' := by
  induction handlings with
  | refl => exact .refl hgone
  | tail _ handling ih =>
    refine ih.trans ?_
    cases handling <;>
      exact ⟨ih.gone, rfl, fun _ => rfl, fun _ _ hid => hid, fun _ => List.suffix_rfl⟩

section Fades

variable [DecidableEq σ]

/-- Without an owner, a request commits nothing and queues nothing. -/
theorem fades_perform (hgone : session.isAlive = false) (client : Client σ κ μ) (rounds : Nat)
    (request : Request σ κ) : Fades session (session.perform client rounds request).1 := by
  have hdead : ¬ session.isAlive = true := by rw [hgone]; exact Bool.false_ne_true
  cases request with
  | update change =>
    change Fades session (session.update client rounds change).1
    rw [Session.update, if_neg hdead]
    exact .refl hgone
  | register name reaction =>
    change Fades session (session.register name reaction).1
    rw [Session.register, if_neg hdead]
    exact .refl hgone
  | cancel name => exact (handlings_cancel session name).fades hgone
  | entrust name owner => exact (handlings_entrust session name owner).fades hgone
  | recover owner id name => exact (handlings_recover session owner id name).fades hgone
  | observe name =>
    change Fades session (session.observe name).1
    rw [Session.observe, if_neg hdead]
    exact .refl hgone
  | unsubscribe name => exact fades_unsubscribe hgone name
  | take name => exact fades_take? hgone name
  | drain name => exact fades_drain hgone name
  | poll name =>
    change Fades session (session.poll name).1
    rw [poll_fst]
    exact fades_take? hgone name
  | addOwner =>
    change Fades session session.addOwner
    rw [Session.addOwner, if_neg hdead]
    exact .refl hgone
  | dropOwner =>
    refine ⟨?_, rfl, fun _ => rfl, fun _ _ hid => hid, fun _ => List.suffix_rfl⟩
    have hnone : session.owners = 0 := by simpa [Session.isAlive] using hgone
    simp [Session.perform, Session.dropOwner, Session.isAlive, hnone]

/-- **Once the last owner is gone, nothing is committed or queued any more**, whatever is asked
for. -/
theorem fades_run (client : Client σ κ μ) (rounds : Nat) :
    ∀ (requests : List (Request σ κ)) {session : Session σ κ μ}, session.isAlive = false →
      Fades session (Session.run client rounds requests session).1 := by
  intro requests
  induction requests with
  | nil => exact fun hgone => .refl hgone
  | cons request rest ih =>
    intro session hgone
    unfold Session.run
    split
    · exact .refl hgone
    · have hfirst := fades_perform hgone client rounds request
      exact hfirst.trans (ih hfirst.gone)

end Fades

/-! ## What subscriptions yield -/

/-- What waiting for the next snapshot of a subscription comes to, as its queue stands. -/
def offer (session : Session σ κ μ) (id : Nat) : Poll σ :=
  match session.state.queued id with
  | snapshot :: _ => .ready snapshot
  | [] => if session.isAlive then .pending else .ended

/-- A name stands for a subscription that yields the commits since its opening, and reading under
the name yields them in this order. -/
structure Yields (session : Session σ κ μ) (name : String) (id : Nat) : Prop where
  opened : session.hasOpened id = true
  complete : session.takenFrom id ++ session.state.queued id = session.commitsFrom id
  take : (session.take? name).2 = .ok (session.state.queued id).head?
  taken : (session.take? name).1.takenFrom id =
    session.takenFrom id ++ (session.state.queued id).head?.toList
  drain : (session.drain name).2 = .ok (session.state.queued id)
  drained : (session.drain name).1.takenFrom id = session.takenFrom id ++ session.state.queued id
  poll : (session.poll name).2 = .ok (session.offer id)
  polled : (session.poll name).1 = (session.take? name).1

/-- Who has a name for a subscription, reads from it what the ledger says. -/
theorem Ledger.reads {first : σ} (h : Ledger first session) (named : Named session) {name : String}
    (hname : session.subscriptions[name]? = some id) : Yields session name id := by
  have hmem := named.isOpen name id hname
  have htaking : ∀ snapshots rest, (session.taking id snapshots rest).takenFrom id =
      session.takenFrom id ++ snapshots := fun snapshots rest =>
    (takenFrom_receive snapshots _ id id).trans (by rw [if_pos rfl]; rfl)
  have hpoll := poll_fst session name
  have hcomplete := h.yields id hmem
  cases hqueued : session.state.queued id with
  | nil =>
    rw [hqueued] at hcomplete
    have htake := take?_of_nil hname hqueued
    have hdrain := drain_of_nil hname hqueued
    refine ⟨h.opened id hmem, by rwa [hqueued], ?_, ?_, ?_, ?_, ?_, hpoll⟩
    · rw [htake, hqueued]
      rfl
    · rw [htake, hqueued]
      exact (List.append_nil _).symm
    · rw [hdrain, hqueued]
    · rw [hdrain, hqueued]
      exact (List.append_nil _).symm
    · rw [Session.poll, htake, offer, hqueued]
  | cons snapshot rest =>
    rw [hqueued] at hcomplete
    have htake := take?_of_cons hname hqueued
    have hdrain := drain_of_cons hname hqueued
    refine ⟨h.opened id hmem, by rwa [hqueued], ?_, ?_, ?_, ?_, ?_, hpoll⟩
    · rw [htake, hqueued]
      rfl
    · rw [htake, hqueued]
      exact htaking [snapshot] rest
    · rw [hdrain, hqueued]
    · rw [hdrain, hqueued]
      exact htaking (snapshot :: rest) []
    · rw [Session.poll, htake, offer, hqueued]

/-- A subscription that is opened under a name gets the next number, which is noted. -/
theorem subscribe_eq (session : Session σ κ μ) (name : String) :
    (session.subscribe name).subscriptions[name]? = some session.state.nextQueue ∧
      (session.subscribe name).log = session.log ++ [.opened session.state.nextQueue] := by
  have hlog : (session.opened.unsubscribe name).log = session.opened.log := by
    unfold Session.unsubscribe
    split <;> rfl
  exact ⟨Std.ExtTreeMap.getElem?_insert_self, hlog⟩

/-- A subscription that ended stays so. -/
theorem Fades.offer (h : Fades session session') (hended : session.offer id = .ended) :
    session'.offer id = .ended := by
  have hnone : session.state.queued id = [] := by
    unfold Session.offer at hended
    split at hended
    · cases hended
    · next hnone => exact hnone
  have hqueued : session'.state.queued id = [] := List.suffix_nil.mp (hnone ▸ h.queued id)
  rw [Session.offer, hqueued]
  dsimp only
  rw [h.gone, if_neg Bool.false_ne_true]

/-- **Subscriptions yield the commits.** Whatever an owner asks of a fresh session, one request
after the other, and whatever the observers do while they are called —

* consecutive commits differ, from the first snapshot on; the last one is the current snapshot, and
  the version counts them;
* an update that gives the current snapshot changes nothing, wherever it is asked for;
* a new subscription gets a number of its own, which is noted when it is opened; what was taken from
  any subscription, open or closed, are the first of the commits since then;
* what is taken from a subscription that is open, followed by what is queued on it, are all of them;
  reading yields them one after the other, and waiting on an empty queue is pending as long as
  some owner is left;
* without an owner nothing is committed, the queues only get shorter, and a subscription that ended
  stays so.

**Proof sketch.** All that happens comes down to steps: a commit, which is queued on every open
subscription; opening and closing a subscription; taking from one. Each of them keeps the ledger. -/
theorem subscriptions_yield_commits [DecidableEq σ] (client : Client σ κ μ) (rounds : Nat)
    (first : σ) (memory : μ) (requests : List (Request σ κ)) :
    let session := (Session.run client rounds requests (Session.start first memory)).1
    let commits := session.log.filterMap (·.commit?)
    ((first :: commits).IsChain (· ≠ ·) ∧
      (first :: commits).getLast? = some session.state.value ∧
      session.state.version = commits.length) ∧
    (∀ (world : Session σ κ μ) flush change, change world.state.value = some world.state.value →
      world.apply flush change = (world, .ok world.state.value)) ∧
    (session.hasOpened session.state.nextQueue = false ∧
      ∀ name, (session.subscribe name).subscriptions[name]? = some session.state.nextQueue ∧
        (session.subscribe name).log = session.log ++ [.opened session.state.nextQueue]) ∧
    (∀ id, session.log.countP (·.isOpeningOf id) ≤ 1 ∧
      session.takenFrom id <+: session.commitsFrom id) ∧
    (∀ (name : String) (id : Nat), session.subscriptions[name]? = some id →
      Yields session name id) ∧
    (session.isAlive = false → ∀ more,
      Fades session (Session.run client rounds more session).1 ∧
      ∀ id, session.offer id = .ended →
        (Session.run client rounds more session).1.offer id = .ended) := by
  intro session commits
  obtain ⟨hledger, hnamed⟩ := ledger_start (κ := κ) first memory
  obtain ⟨ledger, named⟩ := hledger.steps hnamed (steps_run client rounds requests _)
  have hcommits : session.state.history = commits := ledger.logged
  have hversion : session.state.version = commits.length :=
    session.state.version_eq.trans (congrArg List.length hcommits)
  refine ⟨⟨?_, ?_, hversion⟩, fun world flush change hsame => ?_,
    ⟨ledger.eq_nil.2.2, subscribe_eq session⟩, fun id => ⟨ledger.once id, ledger.yielded id⟩,
    fun name id hname => ledger.reads named hname, fun hgone more => ?_⟩
  · rw [← hcommits]
    exact ledger.distinct
  · rw [← hcommits]
    exact ledger.latest
  · rw [Session.apply, hsame]
    exact if_pos rfl
  · have hfades := fades_run client rounds more hgone
    exact ⟨hfades, fun id => hfades.offer⟩

/-- A subscription that is opened between two updates, the second of which makes an observer update
once more: it yields both new commits, the second when no owner is left, and then it ends. -/
theorem subscriptions_yield_commits_counter :
    let requests : List (Request Int64 Counter.Watcher) :=
      [.register "observer" ⟨"observer", [.mk { equal := some 2 } [.add 10]]⟩,
        .update fun value => some (value + 1), .observe "late",
        .update fun value => some (value + 1), .take "late", .dropOwner]
    let session := (Session.run Counter.client 4 requests (Session.start 0 ())).1
    session.takenFrom 0 = [2] ∧ (session.drain "late").2 = .ok [12] ∧
      ((session.drain "late").1.poll "late").2 = .ok .ended := by
  intro requests session
  obtain ⟨-, -, -, -, hreads, -⟩ :=
    subscriptions_yield_commits Counter.client 4 (0 : Int64) () requests
  have hyields : Yields session "late" 0 := hreads "late" 0 (by decide +kernel)
  have hqueued : session.state.queued 0 = [12] := by decide +kernel
  refine ⟨by decide +kernel, hyields.drain.trans (congrArg _ hqueued), ?_⟩
  obtain ⟨-, -, -, -, hreads', -⟩ :=
    subscriptions_yield_commits Counter.client 4 (0 : Int64) () (requests ++ [.drain "late"])
  have hlater : Yields (session.drain "late").1 "late" 0 := hreads' "late" 0 (by decide +kernel)
  exact hlater.poll.trans (congrArg _ (by decide +kernel))

end Session

end FormTree

import Mathlib.Logic.Relation
import FormTree.Observable.Counter
import FormTree.Proofs.Observable.Log
import FormTree.Proofs.Observable.Rounds

set_option autoImplicit false

/-!
# What observers see

An observer sees the commits of a container as they follow one another: it is called with a block of
them, in their order, from some commit on. What it does while it is called may change the container
and its observers; the commits that it makes wait behind those that are pending already, and no
other observer is called in the meantime. Once a cascade ends, nothing is pending, and everyone who
is still registered has seen every commit since it was registered.

## Main definitions

* `FormTree.Session.Move` — what an observer may do to a session, one thing at a time.
* `FormTree.Session.run` — requests of an owner, one after the other.
* `FormTree.Session.Settled` — what holds between requests.

## Main results

* `FormTree.Session.moves_follow` — what an observer does comes down to moves.
* `FormTree.Session.fair_deliver`, `FormTree.Session.rests_drain` — one round, and a delivery.
* `FormTree.Session.observers_see_history` — what observers have seen after any requests.
-/

namespace FormTree

variable {σ κ μ : Type}

namespace Session

variable {session session' : Session σ κ μ} {incident : Incident σ κ} {id : Nat}

/-! ## Moves -/

/-- Nothing changes that concerns the observers. -/
structure Aside (session session' : Session σ κ μ) : Prop where
  log : session'.log = session.log
  history : session'.state.history = session.state.history
  observers : session'.state.observers = session.state.observers
  nextObserver : session'.state.nextObserver = session.state.nextObserver
  pending : session'.state.pending = session.state.pending
  isDelivering : session'.state.isDelivering = session.state.isDelivering

theorem Aside.ids (h : Aside session session') : session'.ids = session.ids :=
  congrArg (List.map _) h.observers

/-- The observer that is registered comes last. -/
theorem ids_register (session : Session σ κ μ) (reaction : κ) :
    ({ session with state := session.state.watch reaction }.note
      (.registered session.state.nextObserver)).ids =
      session.ids ++ [session.state.nextObserver] := by
  simp [Session.ids, Observable.watch]

theorem ids_unwatch (session : Session σ κ μ) (id : Nat) :
    ({ session with state := session.state.unwatch id } : Session σ κ μ).ids.Sublist session.ids :=
  List.Sublist.map _ List.filter_sublist

/-! ## Handles -/

/-- What becomes of a session when handles change hands or are dropped, one thing at a time. -/
inductive Handling (session : Session σ κ μ) : Session σ κ μ → Prop
  /-- An observer is removed. -/
  | remove (id : Nat) : Handling session { session with state := session.state.unwatch id }
  /-- It changes who has which handle, which observers a round holds on to, or whether a removal
  waits for itself. -/
  | pass (observers : Std.ExtTreeMap String Nat compare) (owned : List (Nat × Nat))
      (held : List Nat) (isBlocked : Bool) :
    Handling session { session with observers, owned, held, isBlocked }

/-- Several of these, one after the other. -/
abbrev Handlings : Session σ κ μ → Session σ κ μ → Prop := Relation.ReflTransGen Handling

theorem handlings_remove (session : Session σ κ μ) (id : Nat) :
    Handlings session (session.remove id) := by
  unfold remove
  split
  · exact .tail (.single (.remove id)) (.pass _ _ _ _)
  · exact .refl

theorem handlings_dropHandles (ids : List Nat) :
    ∀ session : Session σ κ μ, Handlings session (session.dropHandles ids) := by
  induction ids with
  | nil => exact fun _ => .refl
  | cons id rest ih =>
    intro session
    unfold dropHandles
    split
    · exact .refl
    · exact (handlings_remove session id).trans (ih _)

theorem handling_unhold (session : Session σ κ μ) (observer : Nat) (others : List Nat) :
    Handling session (session.unhold observer others).1 := by
  unfold unhold
  split <;> exact .pass _ _ others _

theorem handlings_letGo (session : Session σ κ μ) (observer : Nat) (others : List Nat) :
    Handlings session (session.letGo observer others) := by
  unfold letGo
  split
  · exact .refl
  · exact .head (handling_unhold session observer others) (handlings_dropHandles _ _)

theorem handlings_cancel (session : Session σ κ μ) (name : String) :
    Handlings session (session.cancel name) := by
  unfold cancel
  split
  · exact .refl
  · exact .head (.pass (session.observers.erase name) _ _ _) (handlings_remove _ _)

theorem handlings_entrust (session : Session σ κ μ) (name : String) (owner : Nat) :
    Handlings session (session.entrust name owner) := by
  unfold entrust
  split
  · exact .refl
  · split
    · exact .single (.pass _ _ _ _)
    · exact .refl

theorem handlings_recover (session : Session σ κ μ) (owner id : Nat) (name : String) :
    Handlings session (session.recover owner id name) := by
  unfold recover
  split
  · exact .tail (.head (.pass _ (session.owned.erase (owner, id)) _ _) (handlings_cancel _ name))
      (.pass _ _ _ _)
  · exact .refl

theorem handlings_hold (observers : List (Observer κ)) (session : Session σ κ μ) :
    Handlings session (place.hold observers session) :=
  .single (.pass _ _ (observers.map (·.id)) _)

section Moves

variable [DecidableEq σ] {due : List σ} {waiting : List Nat}

/-- What an observer may do to a session, one thing at a time. -/
inductive Move (session : Session σ κ μ) : Session σ κ μ → Prop
  /-- It commits another snapshot, which has to wait as long as it is at work. -/
  | commit {next : σ} : session.state.isDelivering = true → next ≠ session.state.value →
    Move session (session.commit next)
  /-- It registers an observer. -/
  | register (reaction : κ) : Move session
    ({ session with state := session.state.watch reaction }.note
      (.registered session.state.nextObserver))
  /-- It removes an observer. -/
  | remove (id : Nat) : Move session { session with state := session.state.unwatch id }
  /-- It opens a subscription or takes from one, which is noted. -/
  | note {incident : Incident σ κ} : incident.about? = none → incident.commit? = none →
    Move session (session.note incident)
  /-- It does something that does not concern the observers. -/
  | aside {session' : Session σ κ μ} : Aside session session' → Move session session'

/-- Several moves, one after the other. -/
abbrev Moves : Session σ κ μ → Session σ κ μ → Prop := Relation.ReflTransGen Move

/-- A move starts and ends no delivery. -/
theorem Move.isDelivering (move : Move session session') :
    session'.state.isDelivering = session.state.isDelivering := by
  cases move with
  | commit _ _ => exact Observable.isDelivering_commit _ _
  | register _ => rfl
  | remove _ => rfl
  | note _ _ => rfl
  | aside h => exact h.isDelivering

theorem Moves.isDelivering (moves : Moves session session') :
    session'.state.isDelivering = session.state.isDelivering := by
  induction moves with
  | refl => rfl
  | tail _ move ih => exact move.isDelivering.trans ih

/-- A move calls no observer, and returns from no call. -/
theorem Move.running (move : Move session session') (id : Nat) :
    Incident.running session'.log id = Incident.running session.log id := by
  cases move with
  | commit _ _ => exact (Incident.running_concat _ _ _).trans (Int.add_zero _)
  | register _ => exact (Incident.running_concat _ _ _).trans (Int.add_zero _)
  | remove _ => rfl
  | note habout _ =>
    refine (Incident.running_concat _ _ _).trans ?_
    rw [Incident.balance_of_about?_eq_none habout, Int.add_zero]
  | aside h => rw [h.log]

theorem Moves.running (moves : Moves session session') (id : Nat) :
    Incident.running session'.log id = Incident.running session.log id := by
  induction moves with
  | refl => rfl
  | tail _ move ih => exact (move.running id).trans ih

/-- Where no one was at work, moves keep it so. -/
theorem Quiet.moves (h : session.Quiet) (moves : Moves session session') : session'.Quiet :=
  fun id => (moves.running id).trans (h id)

/-- A move gives no number back. -/
theorem Move.nextObserver_le (move : Move session session') :
    session.state.nextObserver ≤ session'.state.nextObserver := by
  cases move with
  | commit _ _ => exact Nat.le_of_eq (Observable.nextObserver_commit _ _).symm
  | register _ => exact Nat.le_succ _
  | remove _ => exact Nat.le_refl _
  | note _ _ => exact Nat.le_refl _
  | aside h => exact Nat.le_of_eq h.nextObserver.symm

theorem Moves.nextObserver_le (moves : Moves session session') :
    session.state.nextObserver ≤ session'.state.nextObserver := by
  induction moves with
  | refl => exact Nat.le_refl _
  | tail _ move ih => exact ih.trans move.nextObserver_le

theorem history_commit_of_ne {next : σ} (h : next ≠ session.state.value) :
    (session.commit next).state.history = session.state.history ++ [next] := by
  change (session.state.commit next).history = _
  rw [Observable.history_commit, Observable.added, if_neg h]

theorem pending_commit_of_ne {next : σ} (h : next ≠ session.state.value) :
    (session.commit next).state.pending = session.state.pending ++ [next] := by
  change (session.state.commit next).pending = _
  rw [Observable.pending_commit, Observable.added, if_neg h]

theorem ids_commit (session : Session σ κ μ) (next : σ) :
    (session.commit next).ids = session.ids := by
  change (session.state.commit next).observers.map _ = _
  rw [Observable.observers_commit]
  rfl

theorem callsOf_commit (session : Session σ κ μ) (next : σ) (id : Nat) :
    (session.commit next).callsOf id = session.callsOf id :=
  (callsOf_note _ _ _).trans (List.append_nil _)

theorem nextObserver_commit (session : Session σ κ μ) (next : σ) :
    (session.commit next).state.nextObserver = session.state.nextObserver :=
  Observable.nextObserver_commit _ _

/-- A commit keeps the log orderly. -/
theorem Orderly.commit (h : Orderly session) {next : σ} (hne : next ≠ session.state.value) :
    Orderly (session.commit next) := by
  refine ⟨fun id => ?_, h.alone.concat nofun, ?_, ?_, ?_, ?_⟩
  · rw [callsOf_commit, history_commit_of_ne hne]
    exact (h.blocks id).trans (List.prefix_append _ _).isInfix
  · rw [ids_commit]
    exact h.nodup
  · rw [ids_commit, nextObserver_commit]
    exact h.lt
  · rw [ids_commit]
    exact fun id hid => List.mem_append_left _ (h.registered id hid)
  · rw [nextObserver_commit]
    exact h.fresh_concat (Nat.le_refl _) nofun

omit [DecidableEq σ] in
/-- What is about no observer keeps the log orderly. -/
theorem Orderly.note (h : Orderly session) (habout : incident.about? = none) :
    Orderly (session.note incident) := by
  refine ⟨fun id => ?_, h.alone.concat fun observer snapshot hcall => ?_, h.nodup, h.lt,
    fun id hid => List.mem_append_left _ (h.registered id hid),
    h.fresh_concat (Nat.le_refl _) fun id hid => ?_⟩
  · rw [callsOf_note, Incident.callOf?_of_about?_eq_none habout, Option.toList_none,
      List.append_nil]
    exact h.blocks id
  · rw [hcall] at habout
    cases habout
  · rw [habout] at hid
    cases hid

/-- **A move keeps the log orderly.** -/
theorem Orderly.move (h : Orderly session) (move : Move session session') : Orderly session' := by
  cases move with
  | commit _ hne => exact h.commit hne
  | register reaction =>
    refine ⟨fun id => ?_, h.alone.concat nofun, ?_, ?_, ?_, ?_⟩
    · rw [callsOf_note]
      exact (List.append_nil (session.callsOf id)).symm ▸ h.blocks id
    · rw [ids_register, List.nodup_append]
      refine ⟨h.nodup, List.nodup_singleton _, fun id hid other hother => ?_⟩
      rw [List.mem_singleton.mp hother]
      exact Nat.ne_of_lt (h.lt id hid)
    · rw [ids_register]
      intro id hid
      rcases List.mem_append.mp hid with hid | hid
      · exact Nat.lt_succ_of_lt (h.lt id hid)
      · rw [List.mem_singleton.mp hid]
        exact Nat.lt_succ_self session.state.nextObserver
    · rw [ids_register]
      intro id hid
      rcases List.mem_append.mp hid with hid | hid
      · exact List.mem_append_left _ (h.registered id hid)
      · rw [List.mem_singleton.mp hid]
        exact List.mem_append_right _ (List.mem_singleton_self _)
    · refine h.fresh_concat (Nat.le_succ _) fun id hid => ?_
      exact Option.some.inj hid ▸ Nat.lt_succ_self _
  | remove id =>
    have hids := ids_unwatch session id
    exact ⟨h.blocks, h.alone, h.nodup.sublist hids,
      fun other hother => h.lt other (hids.subset hother),
      fun other hother => h.registered other (hids.subset hother), h.fresh⟩
  | note habout _ => exact h.note habout
  | aside haside =>
    have hids := haside.ids
    have hcalls : ∀ id, session'.callsOf id = session.callsOf id := fun id => by
      rw [callsOf, haside.log, callsOf]
    refine ⟨fun id => ?_, haside.log ▸ h.alone, hids ▸ h.nodup, ?_, ?_, ?_⟩
    · rw [hcalls, haside.history]
      exact h.blocks id
    · rw [hids, haside.nextObserver]
      exact h.lt
    · rw [hids, haside.log]
      exact h.registered
    · rw [haside.log, haside.nextObserver]
      exact h.fresh

/-- A commit is to come for everyone who is registered. -/
theorem Fair.commit (h : Fair due waiting session) {next : σ} (hne : next ≠ session.state.value) :
    Fair due waiting (session.commit next) := by
  have hpending := pending_commit_of_ne hne
  have hhistory := history_commit_of_ne hne
  have hcome : ∀ id, (session.commit next).callsOf id ++
      (session.commit next).outstanding due waiting id =
      (session.callsOf id ++ session.outstanding due waiting id) ++ [next] := fun id => by
    simp [callsOf_commit, outstanding, hpending]
  refine ⟨h.toOrderly.commit hne, ?_, fun id hid => ?_, fun id hid => ?_, fun id hid => ?_⟩
  · rw [hpending, hhistory]
    exact List.suffix_append_self_iff.mpr h.pending
  · rw [nextObserver_commit]
    exact h.waits id hid
  · rw [ids_commit] at hid
    rw [hcome]
    exact (commitsSince_note_committed_suffix _ next id).trans
      (List.suffix_append_self_iff.mpr (h.complete id hid))
  · rw [ids_commit] at hid
    rw [hcome, hhistory]
    exact List.suffix_append_self_iff.mpr (h.block id hid)

/-- **A move keeps that everyone is served.** -/
theorem Fair.move (h : Fair due waiting session) (move : Move session session') :
    Fair due waiting session' := by
  have horderly := h.toOrderly.move move
  cases move with
  | commit _ hne => exact h.commit hne
  | register reaction =>
    refine h.of_same horderly (fun id => ⟨?_, ?_⟩) rfl rfl (Nat.le_succ _) fun id hid => ?_
    · exact (callsOf_note _ _ _).trans (List.append_nil _)
    · exact commitsSince_note_of_commit?_eq_none rfl
    · rw [ids_register] at hid
      rcases List.mem_append.mp hid with hid | hid
      · exact .inl hid
      · exact .inr (List.mem_singleton.mp hid ▸ Nat.le_refl _)
  | remove id =>
    exact h.of_same horderly (fun _ => ⟨rfl, rfl⟩) rfl rfl (Nat.le_refl _)
      fun other hother => .inl ((ids_unwatch session id).subset hother)
  | note habout hcommit =>
    refine h.of_same horderly (fun id => ⟨?_, commitsSince_note_of_commit?_eq_none hcommit⟩) rfl
      rfl (Nat.le_refl _) fun _ hid => .inl hid
    rw [callsOf_note, Incident.callOf?_of_about?_eq_none habout, Option.toList_none,
      List.append_nil]
  | aside haside =>
    refine h.of_same horderly (fun id => ⟨?_, ?_⟩) haside.history haside.pending
      (Nat.le_of_eq haside.nextObserver.symm) fun id hid => .inl (haside.ids ▸ hid)
    · rw [callsOf, haside.log, callsOf]
    · rw [commitsSince, haside.log, commitsSince]

theorem Orderly.moves (h : Orderly session) (moves : Moves session session') :
    Orderly session' := by
  induction moves with
  | refl => exact h
  | tail _ move ih => exact ih.move move

theorem Fair.moves (h : Fair due waiting session) (moves : Moves session session') :
    Fair due waiting session' := by
  induction moves with
  | refl => exact h
  | tail _ move ih => exact ih.move move

/-- Handling comes down to moves. -/
theorem Handlings.moves (handlings : Handlings session session') : Moves session session' := by
  induction handlings with
  | refl => exact .refl
  | tail _ handling ih =>
    cases handling with
    | remove id => exact ih.tail (.remove id)
    | pass _ _ _ _ => exact ih.tail (.aside ⟨rfl, rfl, rfl, rfl, rfl, rfl⟩)

/-! ## What an observer does -/

theorem moves_watch (session : Session σ κ μ) (name : String) (reaction : κ) :
    Moves session (session.watch name reaction) :=
  .trans (.trans (.single (.register reaction)) (handlings_cancel _ name).moves)
    (.single (.aside ⟨rfl, rfl, rfl, rfl, rfl, rfl⟩))

theorem moves_unsubscribe (session : Session σ κ μ) (name : String) :
    Moves session (session.unsubscribe name) := by
  unfold unsubscribe
  split
  · exact .refl
  · exact .single (.aside ⟨rfl, rfl, rfl, rfl, rfl, rfl⟩)

theorem moves_subscribe (session : Session σ κ μ) (name : String) :
    Moves session (session.subscribe name) := by
  have opened : Move session { session with state := session.state.subscribe } :=
    .aside ⟨rfl, rfl, rfl, rfl, rfl, rfl⟩
  have noted : Move { session with state := session.state.subscribe }
      ({ session with state := session.state.subscribe }.note (.opened session.state.nextQueue)) :=
    .note rfl rfl
  have closed := moves_unsubscribe ({ session with state := session.state.subscribe }.note
    (.opened session.state.nextQueue)) name
  exact ((Relation.ReflTransGen.single opened).tail noted).trans closed |>.tail
    (.aside ⟨rfl, rfl, rfl, rfl, rfl, rfl⟩)

/-- Noting what is taken from a subscription comes down to moves. -/
theorem moves_receive (id : Nat) (snapshots : List σ) :
    ∀ session : Session σ κ μ, Moves session (session.receive id snapshots) := by
  induction snapshots with
  | nil =>
    intro session
    rw [receive_nil]
  | cons snapshot rest ih =>
    intro session
    rw [receive_cons]
    exact .head (.note rfl rfl) (ih _)

theorem moves_take? (session : Session σ κ μ) (name : String) :
    Moves session (session.take? name).1 := by
  have taken : ∀ id, Aside session { session with state := (session.state.take? id).2 } := by
    intro id
    unfold Observable.take?
    split <;> exact ⟨rfl, rfl, rfl, rfl, rfl, rfl⟩
  unfold take?
  split
  · exact .refl
  · exact .head (.aside (taken _)) (moves_receive _ _ _)

theorem moves_drain (session : Session σ κ μ) (name : String) :
    Moves session (session.drain name).1 := by
  have drained : ∀ id, Aside session { session with state := (session.state.drain id).2 } := by
    intro id
    unfold Observable.drain
    split <;> exact ⟨rfl, rfl, rfl, rfl, rfl, rfl⟩
  unfold Session.drain
  split
  · exact .refl
  · exact .head (.aside (drained _)) (moves_receive _ _ _)

theorem moves_addOwner (session : Session σ κ μ) : Moves session session.addOwner := by
  unfold Session.addOwner
  split
  · exact .single (.aside ⟨rfl, rfl, rfl, rfl, rfl, rfl⟩)
  · exact .refl

variable {inner : Session σ κ μ → Session σ κ μ × Bool}
  (hinner : ∀ session : Session σ κ μ, session.state.isDelivering = true →
    inner session = (session, true))

include hinner

/-- While a delivery is in progress, an update comes down to its commit. -/
theorem moves_apply (hdelivering : session.state.isDelivering = true) (change : σ → Option σ) :
    Moves session (session.apply inner change).1 := by
  unfold Session.apply
  cases hchange : change session.state.value with
  | none => exact .refl
  | some next =>
    dsimp only
    split
    · exact .refl
    · next hne =>
      have move : Move session (session.commit next) := .commit hdelivering hne
      rw [hinner _ (move.isDelivering.trans hdelivering)]
      exact .single move

/-- What an observer does at a time comes down to moves. -/
theorem moves_act (hdelivering : session.state.isDelivering = true) (act : Act σ κ) :
    Moves session (session.act inner act).1 := by
  cases act with
  | update change =>
    have moves := moves_apply hinner hdelivering change
    unfold Session.act
    dsimp only
    split <;> next happly => rw [happly] at moves; exact moves
  | attempt change => exact moves_apply hinner hdelivering change
  | watch name reaction => exact moves_watch session name reaction
  | cancel name => exact (handlings_cancel session name).moves
  | entrust name owner => exact (handlings_entrust session name owner).moves
  | recover owner id name => exact (handlings_recover session owner id name).moves
  | subscribe name => exact moves_subscribe session name
  | unsubscribe name => exact moves_unsubscribe session name
  | take name => exact moves_take? session name
  | drain name => exact moves_drain session name
  | share => exact moves_addOwner session
  | release =>
    unfold Session.act
    dsimp only
    split
    · exact .single (.aside ⟨rfl, rfl, rfl, rfl, rfl, rfl⟩)
    · exact .refl

/-- **What an observer does comes down to moves**, as far as it gets. -/
theorem moves_follow (script : Script σ κ μ) :
    ∀ {session : Session σ κ μ}, session.state.isDelivering = true →
      Moves session (session.follow inner script).1 := by
  induction script with
  | done leaves => exact fun _ => .refl
  | act act next ih =>
    intro session hdelivering
    have moves := moves_act hinner hdelivering act
    unfold follow
    split
    · next hact =>
      rw [hact] at moves
      exact moves.trans (ih (moves.isDelivering.trans hdelivering))
    · next hact =>
      rw [hact] at moves
      exact moves
  | look next ih => exact fun {session} hdelivering => ih session.state hdelivering
  | remember memory next ih =>
    intro session hdelivering
    have move : Move session { session with memory } := .aside ⟨rfl, rfl, rfl, rfl, rfl, rfl⟩
    exact .head move (ih hdelivering)

omit hinner

/-! ## Deliveries -/

/-- While a delivery is in progress, another one that is asked for does nothing. -/
theorem flush_of_isDelivering (client : Client σ κ μ) (rounds depth : Nat)
    (h : session.state.isDelivering = true) :
    Session.flush client rounds depth session = (session, true) := by
  cases depth <;> exact place.flush_of_delivering _ h

/-- A delivery asks for others inside it in one way or another; while it is in progress they do
nothing. -/
theorem exists_flush (client : Client σ κ μ) (rounds depth : Nat) :
    ∃ inner : Session σ κ μ → Session σ κ μ × Bool,
      (∀ session : Session σ κ μ, session.state.isDelivering = true →
        inner session = (session, true)) ∧
      Session.flush client rounds depth = place.flush (react client inner) rounds := by
  cases depth with
  | zero => exact ⟨_, fun _ _ => rfl, rfl⟩
  | succ depth => exact ⟨_, fun _ h => flush_of_isDelivering client rounds depth h, rfl⟩

include hinner in
/-- **One call**: the observer is served, and it stays at work only if it failed. -/
theorem Fair.react {client : Client σ κ μ} {snapshot : σ} {observer : Observer κ} {rest : List Nat}
    (h : Fair [snapshot] (observer.id :: rest) session) (hmem : observer.id ∈ session.ids)
    (hnot : observer.id ∉ rest) (hquiet : session.Quiet)
    (hdelivering : session.state.isDelivering = true) {after : Session σ κ μ} {flow : Flow}
    (hreact : Session.react client inner observer snapshot session = (after, flow)) :
    Fair [snapshot] rest after ∧ after.state.isDelivering = true ∧
      (after.Quiet ↔ flow ≠ .fail) := by
  have hcall := h.call hmem hnot hquiet
  have moves : Moves (session.note (.called observer snapshot)) _ :=
    moves_follow hinner (client observer.reaction snapshot session.memory) hdelivering
  unfold Session.react at hreact
  split at hreact
  · next final hfollow =>
    cases hreact
    rw [hfollow] at moves
    refine ⟨hcall.moves moves, moves.isDelivering.trans hdelivering, fun hquiet' => ?_,
      fun hne => absurd rfl hne⟩
    -- the call has not returned
    have hrunning := moves.running observer.id
    rw [hquiet' observer.id, log_note, Incident.running_concat, hquiet observer.id] at hrunning
    simp [Incident.balance] at hrunning
  · next final _ hnot hfollow =>
    cases hreact
    rw [hfollow] at moves
    refine ⟨(hcall.moves moves).return ?_, moves.isDelivering.trans hdelivering,
      fun _ => hnot, fun _ id => ?_⟩
    · exact Nat.lt_of_lt_of_le (h.lt observer.id hmem) moves.nextObserver_le
    · rw [log_note, Incident.running_concat, moves.running, log_note, Incident.running_concat,
        hquiet id]
      by_cases heq : observer.id = id <;> simp [Incident.balance, heq]

omit [DecidableEq σ] in
/-- A round that is given up lets go of nothing once the session is blocked. -/
theorem giveUp_of_isBlocked (h : session.isBlocked = true) (observers : List (Observer κ)) :
    place.giveUp observers session = session := by
  induction observers with
  | nil => rfl
  | cons observer rest ih =>
    have hletGo : place.letGo observer rest session = session := if_pos h
    rw [Place.giveUp, hletGo, ih]

theorem moves_giveUp (observers : List (Observer κ)) :
    Moves session (place.giveUp observers session) :=
  place.giveUp_keeps (P := Moves session)
    (fun _ _ _ moves => moves.trans (handlings_letGo _ _ _).moves) observers .refl

include hinner in
/-- **One round**: if no observer fails and nothing gets blocked, all who wait for the snapshot are
served; one that fails stays at work.

**Proof sketch.** By induction on those who wait. One that is still registered is called, and what
it does keeps that the others are served, as does letting go of it; one that is gone does not wait
any more. -/
theorem fair_deliver (client : Client σ κ μ) {snapshot : σ} :
    ∀ (list : List (Observer κ)) {session after : Session σ κ μ} {ok : Bool},
      Fair [snapshot] (list.map (·.id)) session → (list.map (·.id)).Nodup → session.Quiet →
      session.state.isDelivering = true →
      place.deliver (Session.react client inner) snapshot list session = (after, ok) →
      Orderly after ∧ after.state.isDelivering = true ∧
        (ok = true → after.isBlocked = false → Fair [snapshot] [] after) ∧
        (after.Quiet ↔ ok = true) := by
  intro list
  induction list with
  | nil =>
    intro session after ok h _ hquiet hdelivering hdeliver
    cases hdeliver
    exact ⟨h.toOrderly, hdelivering, fun _ _ => h, fun _ => rfl, fun _ => hquiet⟩
  | cons observer rest ih =>
    intro session after ok h hnodup hquiet hdelivering hdeliver
    obtain ⟨hnot, hrest⟩ := List.nodup_cons.mp hnodup
    -- the others are served once the round has let go of this one
    have hnext : ∀ {served : Session σ κ μ}, Fair [snapshot] (rest.map (·.id)) served →
        served.Quiet → served.state.isDelivering = true →
        place.deliver (Session.react client inner) snapshot rest
          (place.letGo observer rest served) = (after, ok) → _ :=
      fun {served} hserved hquiet' hdelivering' =>
        have moves : Moves served (place.letGo observer rest served) :=
          (handlings_letGo _ _ _).moves
        ih (hserved.moves moves) hrest (hquiet'.moves moves)
          (moves.isDelivering.trans hdelivering')
    unfold Place.deliver at hdeliver
    split at hdeliver
    · next hblocked =>
      cases hdeliver
      exact ⟨h.toOrderly, hdelivering,
        fun _ hfree => absurd (hfree.symm.trans hblocked) Bool.false_ne_true,
        fun _ => rfl, fun _ => hquiet⟩
    · split at hdeliver
      · next hactive =>
        cases hreact : Session.react client inner observer snapshot session with
        | mk served flow =>
          obtain ⟨hserved, hdelivering', hquiet'⟩ :=
            h.react hinner (mem_ids.mpr hactive) hnot hquiet hdelivering hreact
          rw [hreact] at hdeliver
          cases flow with
          | stay => exact hnext hserved (hquiet'.mpr (by decide)) hdelivering' hdeliver
          | leave =>
            exact hnext (hserved.move (.remove _)) (hquiet'.mpr (by decide)) hdelivering' hdeliver
          | fail =>
            cases hdeliver
            have moves : Moves served (place.giveUp (observer :: rest) served) :=
              moves_giveUp (observer :: rest)
            refine ⟨hserved.toOrderly.moves moves, moves.isDelivering.trans hdelivering',
              fun hok => absurd hok Bool.false_ne_true, fun hquiet => ?_,
              fun hok => absurd hok Bool.false_ne_true⟩
            exact absurd rfl (hquiet'.mp fun id => (moves.running id).symm.trans (hquiet id))
      · next hgone =>
        exact hnext (h.skip fun hmem => hgone (mem_ids.mp hmem)) hquiet hdelivering hdeliver

include hinner in
/-- **A delivery**: once it ended, everyone is served; it does not end if an observer fails, which
then stays at work.

**Proof sketch.** By induction on the rounds. A round begins with the oldest pending snapshot, for
which all who are registered then wait; when it ends without a failure, no one waits any more,
unless the session is blocked, and then nothing follows. -/
theorem rests_drain (client : Client σ κ μ) :
    ∀ (rounds : Nat) {session after : Session σ κ μ} {ok : Bool}, Fair [] [] session →
      session.Quiet → session.state.isDelivering = true →
      place.drain (Session.react client inner) rounds session = (after, ok) →
      Orderly after ∧ (after.state.isDelivering = false → Rests after) ∧
        (after.Quiet ↔ ok = true) := by
  intro rounds
  induction rounds with
  | zero =>
    intro session after ok h hquiet hdelivering hdrain
    cases hdrain
    exact ⟨h.toOrderly, fun hresting => absurd hresting (by simp [hdelivering]),
      fun _ => rfl, fun _ => hquiet⟩
  | succ rounds ih =>
    intro session after ok h hquiet hdelivering hdrain
    cases hfree : session.isBlocked with
    | true =>
      rw [place.drain_of_isBlocked _ hfree] at hdrain
      cases hdrain
      exact ⟨h.toOrderly, fun hresting => absurd hresting (by simp [hdelivering]),
        fun _ => rfl, fun _ => hquiet⟩
    | false =>
      cases hpending : session.state.pending with
      | nil =>
        rw [place.drain_eq_rest _ hfree hpending] at hdrain
        cases hdrain
        exact ⟨h.toOrderly.delivery _ false, fun _ => h.finish hpending hquiet, fun _ => rfl,
          fun _ => hquiet⟩
      | cons snapshot pending =>
        have hold : Moves (place.pop session pending) (place.gather session pending) :=
          (handlings_hold _ _).moves
        have hbegin : Fair [snapshot] session.ids (place.pop session pending) := h.begin hpending
        cases hdeliver : place.deliver (Session.react client inner) snapshot
            (place.get (place.pop session pending)).observers
            (place.gather session pending) with
        | mk served ok' =>
          obtain ⟨horderly, hdelivering', hserved, hquiet'⟩ :=
            fair_deliver hinner client _ (hbegin.moves hold) h.nodup hquiet hdelivering hdeliver
          rw [place.drain_eq_round _ hfree hpending hdeliver] at hdrain
          cases ok' with
          | true =>
            cases hblocked : served.isBlocked with
            | true =>
              have hdrain : place.drain (Session.react client inner) rounds served = _ := hdrain
              rw [place.drain_of_isBlocked _ hblocked] at hdrain
              cases hdrain
              exact ⟨horderly, fun hresting => absurd hresting (by simp [hdelivering']), hquiet'⟩
            | false =>
              exact ih (hserved rfl hblocked).over (hquiet'.mpr rfl) hdelivering' hdrain
          | false =>
            cases hdrain
            exact ⟨horderly, fun hresting => absurd hresting (by simp [hdelivering']), hquiet'⟩

/-- A commit calls no observer. -/
theorem Quiet.commit (h : session.Quiet) (next : σ) : (session.commit next).Quiet := fun id =>
  ((Incident.running_concat _ _ _).trans (Int.add_zero _)).trans (h id)

/-- A delivery that is asked for at rest, with something pending. -/
theorem Fair.flush (h : Fair [] [] session) (hquiet : session.Quiet)
    (hresting : session.state.isDelivering = false) {client : Client σ κ μ} {rounds depth : Nat}
    {after : Session σ κ μ} {ok : Bool}
    (hdeliver : Session.flush client rounds depth session = (after, ok)) :
    Orderly after ∧ (after.state.isDelivering = false → Rests after) ∧
      (after.Quiet ↔ ok = true) := by
  obtain ⟨nested, hnested, heq⟩ := exists_flush client rounds depth
  rw [heq, place.flush_of_resting _ hresting] at hdeliver
  have hstart : Fair [] [] (place.start session) := h.delivery true
  exact rests_drain hnested client rounds hstart hquiet rfl hdeliver

/-! ## Requests -/

/-- What an owner may ask of a session. -/
inductive Request (σ κ : Type) where
  | update (change : σ → Option σ)
  | register (name : String) (reaction : κ)
  | cancel (name : String)
  | entrust (name : String) (owner : Nat)
  | recover (owner id : Nat) (name : String)
  | observe (name : String)
  | unsubscribe (name : String)
  | take (name : String)
  | drain (name : String)
  | poll (name : String)
  | addOwner
  | dropOwner

/-- The session after a request; `false` if an update function failed, or the cascade that an update
started did not end, or the session is blocked. -/
def perform (client : Client σ κ μ) (rounds : Nat) (session : Session σ κ μ) :
    Request σ κ → Session σ κ μ × Bool
  | .update change =>
    let outcome := session.update client rounds change
    (outcome.1, !(outcome.2 matches .error .failed))
  | .register name reaction => (session.register name reaction).1.going
  | .cancel name => (session.cancel name).going
  | .entrust name owner => (session.entrust name owner, true)
  | .recover owner id name => (session.recover owner id name).going
  | .observe name => ((session.observe name).1, true)
  | .unsubscribe name => (session.unsubscribe name, true)
  | .take name => ((session.take? name).1, true)
  | .drain name => ((session.drain name).1, true)
  | .poll name => ((session.poll name).1, true)
  | .addOwner => (session.addOwner, true)
  | .dropOwner => (session.dropOwner, true)

/-- The session after several requests; `false` if one of them failed, or the session is blocked, so
that what follows is not even asked for. -/
def run (client : Client σ κ μ) (rounds : Nat) :
    List (Request σ κ) → Session σ κ μ → Session σ κ μ × Bool
  | [], session => (session, true)
  | request :: rest, session =>
    if session.isBlocked then (session, false)
    else
      let (after, ok) := session.perform client rounds request
      let (final, oks) := run client rounds rest after
      (final, ok && oks)

/-- Between requests the log is orderly, and if no delivery is stuck then all is at rest. -/
structure Settled (session : Session σ κ μ) : Prop where
  orderly : Orderly session
  rests : session.state.isDelivering = false → Rests session

/-- Moves commit nothing while no delivery is in progress. -/
theorem Moves.pending_of_resting (moves : Moves session session')
    (h : session.state.isDelivering = false) : session'.state.pending = session.state.pending := by
  induction moves with
  | refl => rfl
  | tail moves move ih =>
    cases move with
    | commit hdelivering _ =>
      rw [Moves.isDelivering moves, h] at hdelivering
      cases hdelivering
    | register _ => exact ih
    | remove _ => exact ih
    | note _ _ => exact ih
    | aside haside => exact haside.pending.trans ih

theorem Settled.moves (h : Settled session) (moves : Moves session session') :
    Settled session' where
  orderly := h.orderly.moves moves
  rests hresting := by
    have hbefore : session.state.isDelivering = false := moves.isDelivering.symm.trans hresting
    have hrests := h.rests hbefore
    exact ⟨hrests.toFair.moves moves, fun id => (moves.running id).trans (hrests.quiet id),
      (moves.pending_of_resting hbefore).trans hrests.nothing⟩

/-- **An update leaves the session settled.** -/
theorem Settled.apply (h : Settled session) (client : Client σ κ μ) (rounds depth : Nat)
    (change : σ → Option σ) :
    Settled (session.apply (Session.flush client rounds depth) change).1 := by
  cases hresting : session.state.isDelivering with
  | true =>
    exact h.moves (moves_apply
      (fun _ hdelivering => flush_of_isDelivering client rounds depth hdelivering) hresting change)
  | false =>
    have hrests := h.rests hresting
    unfold Session.apply
    cases change session.state.value with
    | none => exact h
    | some next =>
      dsimp only
      split
      · exact h
      · next hne =>
        cases hdeliver : Session.flush client rounds depth (session.commit next) with
        | mk after ok =>
          have hcommit : (session.commit next).state.isDelivering = false :=
            (Observable.isDelivering_commit _ _).trans hresting
          obtain ⟨horderly, hafter, -⟩ := (hrests.toFair.commit hne).flush
            (hrests.quiet.commit next) hcommit hdeliver
          cases ok <;> exact ⟨horderly, hafter⟩

/-- An update that is not refused from the start can only fail. -/
theorem eq_failed_of_apply {change : σ → Option σ} {after : Session σ κ μ} {refusal : Refusal}
    (h : session.apply inner change = (after, .error refusal)) : refusal = .failed := by
  unfold Session.apply at h
  split at h
  · cases h
    rfl
  · split at h
    · cases h
    · split at h <;> cases h
      rfl

/-- An update from outside does what any update does, as long as the container is there. -/
theorem update_fst (client : Client σ κ μ) (rounds : Nat) (session : Session σ κ μ)
    (change : σ → Option σ) : (session.update client rounds change).1 =
      if session.isAlive then (session.apply (Session.flush client rounds rounds) change).1
      else session := by
  unfold Session.update
  split
  · split
    · next heq =>
      rw [heq]
      split <;> rfl
    · next heq => rw [heq]
  · rfl

/-- What an update answers, tells whether a delivery is stuck. -/
theorem Settled.update (h : Settled session) (client : Client σ κ μ) (rounds : Nat)
    (change : σ → Option σ) : Settled (session.update client rounds change).1 ∧
      (session.state.isDelivering = false →
        (session.update client rounds change).2 ≠ .error .failed →
        (session.update client rounds change).1.state.isDelivering = false) := by
  have happly := h.apply client rounds rounds change
  unfold Session.update
  split
  · split
    · next after next heq =>
      rw [heq] at happly
      split
      · exact ⟨happly, fun _ hne => absurd rfl hne⟩
      · next hended =>
        refine ⟨happly, fun hresting _ => ?_⟩
        simpa [hresting] using hended
    · next after refusal heq =>
      rw [heq] at happly
      exact ⟨happly, fun _ hne => absurd (congrArg _ (eq_failed_of_apply heq)) hne⟩
  · exact ⟨h, fun hresting _ => hresting⟩

theorem moves_register (session : Session σ κ μ) (name : String) (reaction : κ) :
    Moves session (session.register name reaction).1 := by
  unfold Session.register
  split
  · exact moves_watch session name reaction
  · exact .refl

theorem moves_observe (session : Session σ κ μ) (name : String) :
    Moves session (session.observe name).1 := by
  unfold Session.observe
  split
  · exact moves_subscribe session name
  · exact .refl

theorem moves_poll (session : Session σ κ μ) (name : String) :
    Moves session (session.poll name).1 := by
  have moves := moves_take? session name
  unfold Session.poll
  split <;> next heq => rw [heq] at moves; exact moves

/-- Any request but an update comes down to moves. -/
theorem moves_perform_of_ne (client : Client σ κ μ) (rounds : Nat) {request : Request σ κ}
    (h : ∀ change, request ≠ .update change) :
    Moves session (session.perform client rounds request).1 := by
  cases request with
  | update change => exact absurd rfl (h change)
  | register name reaction => exact moves_register session name reaction
  | cancel name => exact (handlings_cancel session name).moves
  | entrust name owner => exact (handlings_entrust session name owner).moves
  | recover owner id name => exact (handlings_recover session owner id name).moves
  | observe name => exact moves_observe session name
  | unsubscribe name => exact moves_unsubscribe session name
  | take name => exact moves_take? session name
  | drain name => exact moves_drain session name
  | poll name => exact moves_poll session name
  | addOwner => exact moves_addOwner session
  | dropOwner => exact .single (.aside ⟨rfl, rfl, rfl, rfl, rfl, rfl⟩)

/-- **A request leaves the session settled**, and no delivery is stuck if it does not fail. -/
theorem Settled.perform (h : Settled session) (client : Client σ κ μ) (rounds : Nat)
    (request : Request σ κ) : Settled (session.perform client rounds request).1 ∧
      (session.state.isDelivering = false → (session.perform client rounds request).2 = true →
        (session.perform client rounds request).1.state.isDelivering = false) := by
  by_cases hupdate : ∃ change, request = .update change
  · obtain ⟨change, rfl⟩ := hupdate
    obtain ⟨hsettled, hended⟩ := h.update client rounds change
    refine ⟨hsettled, fun hresting hok => hended hresting fun hfailed => ?_⟩
    change (!((session.update client rounds change).2 matches .error .failed)) = true at hok
    rw [hfailed] at hok
    cases hok
  · have moves : Moves session (session.perform client rounds request).1 :=
      moves_perform_of_ne client rounds (not_exists.mp hupdate)
    exact ⟨h.moves moves, fun hresting _ => moves.isDelivering.trans hresting⟩

/-- Any requests leave the session settled, and no delivery is stuck if none fails. -/
theorem Settled.run (client : Client σ κ μ) (rounds : Nat) :
    ∀ (requests : List (Request σ κ)) {session : Session σ κ μ}, Settled session →
      Settled (Session.run client rounds requests session).1 ∧
      (session.state.isDelivering = false → (Session.run client rounds requests session).2 = true →
        (Session.run client rounds requests session).1.state.isDelivering = false) := by
  intro requests
  induction requests with
  | nil => exact fun h => ⟨h, fun hresting _ => hresting⟩
  | cons request rest ih =>
    intro session h
    obtain ⟨hsettled, hended⟩ := h.perform client rounds request
    obtain ⟨hrun, hrest⟩ := ih hsettled
    unfold Session.run
    split
    · exact ⟨h, fun hresting _ => hresting⟩
    · refine ⟨hrun, fun hresting hok => ?_⟩
      obtain ⟨hfirst, hothers⟩ := Bool.and_eq_true_iff.mp hok
      exact hrest (hended hresting hfirst) hothers

omit [DecidableEq σ] in
/-- A fresh session is settled. -/
theorem settled_start (value : σ) (memory : μ) :
    Settled (Session.start value memory : Session σ κ μ) := by
  have horderly : Orderly (Session.start value memory : Session σ κ μ) :=
    ⟨fun _ => List.infix_refl [], fun before observer snapshot hprefix => by
      simp [Session.start] at hprefix, List.nodup_nil, List.forall_mem_nil _,
      List.forall_mem_nil _, List.forall_mem_nil _⟩
  exact ⟨horderly, fun _ => ⟨⟨horderly, List.suffix_refl _, List.forall_mem_nil _,
    List.forall_mem_nil _, List.forall_mem_nil _⟩, fun _ => rfl, rfl⟩⟩

/-- **Observers see the history.** Whatever an owner asks of a fresh session, one request after the
other, and whatever the observers do while they are called — update the container, register and
remove observers —

* each observer is called with a block of the commits, in their order and each of them once;
* no observer is called while a call of any observer has not returned;
* if no update function failed and every request ended, then nothing is pending, and everyone who is
  still registered was called with all commits since the registration, the last one last.

**Proof sketch.** While a snapshot is delivered, the calls of an observer and what is to come for it
are the last commits, among them all since its registration. A commit is to come for everyone; who
is registered in the meantime waits for what is pending; and a call moves the snapshot from what is
to come to the calls. A delivery that is asked for while another one is in progress does nothing,
so that an observer is called only when the one before has returned. -/
theorem observers_see_history (client : Client σ κ μ) (rounds : Nat) (value : σ) (memory : μ)
    (requests : List (Request σ κ)) :
    let outcome := Session.run client rounds requests (Session.start value memory)
    let session := outcome.1
    (∀ id, session.callsOf id <:+: session.state.history) ∧
    (∀ before observer snapshot, before ++ [.called observer snapshot] <+: session.log →
      ∀ id, Incident.running before id = 0) ∧
    (outcome.2 = true → session.state.pending = [] ∧
      ∀ id ∈ session.ids, .registered id ∈ session.log ∧
        session.commitsSince id <:+ session.callsOf id ∧
        (session.commitsSince id ≠ [] →
          (session.callsOf id).getLast? = session.state.history.getLast?)) := by
  intro outcome session
  obtain ⟨hsettled, hended⟩ := Settled.run client rounds requests
    (settled_start (κ := κ) value memory)
  refine ⟨hsettled.orderly.blocks, hsettled.orderly.alone, fun hok => ?_⟩
  have hrests := hsettled.rests (hended rfl hok)
  exact ⟨hrests.nothing, fun id hid => ⟨hrests.registered id hid, hrests.last hid⟩⟩

/-- The first observer adds to the counter while it is called, and both see both commits. -/
theorem observers_see_history_counter :
    let requests : List (Request Int64 Counter.Watcher) :=
      [.register "first" ⟨"first", [.mk { equal := some 1 } [.add 10]]⟩,
        .register "second" ⟨"second", []⟩, .update fun value => some (value + 1)]
    let session := (Session.run Counter.client 4 requests (Session.start 0 ())).1
    session.state.history = [1, 11] ∧ session.state.pending = [] ∧
      (session.callsOf 0).getLast? = some 11 ∧ (session.callsOf 1).getLast? = some 11 := by
  intro requests session
  obtain ⟨hpending, hlast⟩ :=
    (observers_see_history Counter.client 4 0 () requests).2.2 (by decide +kernel)
  have hhistory : session.state.history = [1, 11] := by decide +kernel
  have hlast' : session.state.history.getLast? = some 11 := by rw [hhistory]; rfl
  exact ⟨hhistory, hpending, ((hlast 0 (by decide +kernel)).2.2 (by decide +kernel)).trans hlast',
    ((hlast 1 (by decide +kernel)).2.2 (by decide +kernel)).trans hlast'⟩

end Moves

end Session

end FormTree

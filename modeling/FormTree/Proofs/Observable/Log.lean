import Mathlib.Algebra.Ring.Int.Defs
import Mathlib.Data.List.Infix
import Mathlib.Data.List.Nodup
import Mathlib.Data.List.TakeWhile
import FormTree.Observable.Session

set_option autoImplicit false

/-!
# Orderly logs

What the log of a session says about its observers, and what is to hold of it: every observer is
called with a block of the commits and by itself, and what is to come for it completes its calls to
all the commits since it was registered. A round of delivery moves its snapshot, observer by
observer, from what is to come to the calls.

## Main definitions

* `FormTree.Session.callsOf`, `FormTree.Session.commitsSince`, `FormTree.Incident.running` — what
  the log says about an observer.
* `FormTree.Session.Orderly` — what holds of the log at any time.
* `FormTree.Session.Fair` — what holds of it while a snapshot is delivered.
* `FormTree.Session.Rests` — what holds of it between deliveries.

## Main results

* `FormTree.Session.Fair.begin`, `FormTree.Session.Fair.call`, `FormTree.Session.Fair.skip`,
  `FormTree.Session.Fair.over` — what happens in a round.
* `FormTree.Session.Rests.last` — everyone was called with the last commit.
-/

namespace FormTree

variable {σ κ μ : Type}

/-! ## The log -/

namespace Incident

/-- The snapshot with which the observer `id` is called. -/
def callOf? (id : Nat) : Incident σ κ → Option σ
  | .called observer snapshot => if observer.id = id then some snapshot else none
  | _ => none

/-- The snapshot that is committed. -/
def commit? : Incident σ κ → Option σ
  | .committed snapshot => some snapshot
  | _ => none

/-- The observer `id` is registered. -/
def isRegistrationOf (id : Nat) : Incident σ κ → Bool
  | .registered other => other = id
  | _ => false

/-- The observer that the incident is about. -/
def about? : Incident σ κ → Option Nat
  | .registered id | .returned id => some id
  | .called observer _ => some observer.id
  | .committed _ | .opened _ | .taken _ _ => none

/-- What an incident adds to the calls of the observer `id` that have not returned. -/
def balance (id : Nat) : Incident σ κ → Int
  | .called observer _ => if observer.id = id then 1 else 0
  | .returned other => if other = id then -1 else 0
  | _ => 0

/-- What is about no observer is no call. -/
theorem callOf?_of_about?_eq_none {incident : Incident σ κ} (h : incident.about? = none)
    (id : Nat) : incident.callOf? id = none := by
  cases incident with
  | committed _ | opened _ | taken _ _ => rfl
  | registered _ | called _ _ | returned _ => cases h

/-- What is about no observer starts and ends no call. -/
theorem balance_of_about?_eq_none {incident : Incident σ κ} (h : incident.about? = none)
    (id : Nat) : incident.balance id = 0 := by
  cases incident with
  | committed _ | opened _ | taken _ _ => rfl
  | registered _ | called _ _ | returned _ => cases h

/-- The number of calls of the observer `id` that have not returned. -/
def running (log : List (Incident σ κ)) (id : Nat) : Int := (log.map (·.balance id)).sum

theorem running_concat (log : List (Incident σ κ)) (incident : Incident σ κ) (id : Nat) :
    running (log ++ [incident]) id = running log id + incident.balance id := by
  simp [running]

end Incident

namespace Session

/-- The snapshots with which the observer `id` was called, in the order of the calls. -/
def callsOf (session : Session σ κ μ) (id : Nat) : List σ := session.log.filterMap (·.callOf? id)

/-- The snapshots that were committed since the observer `id` was registered. -/
def commitsSince (session : Session σ κ μ) (id : Nat) : List σ :=
  (session.log.dropWhile (!·.isRegistrationOf id)).filterMap (·.commit?)

/-- The numbers of the registered observers. -/
def ids (session : Session σ κ μ) : List Nat := session.state.observers.map (·.id)

variable {session session' : Session σ κ μ} {incident : Incident σ κ} {id : Nat}

@[simp] theorem state_note (session : Session σ κ μ) (incident : Incident σ κ) :
    (session.note incident).state = session.state := rfl

@[simp] theorem log_note (session : Session σ κ μ) (incident : Incident σ κ) :
    (session.note incident).log = session.log ++ [incident] := rfl

@[simp] theorem receive_nil (session : Session σ κ μ) (id : Nat) :
    session.receive id [] = session := by
  simp [receive]

/-- What is taken from a subscription is noted, one snapshot after the other. -/
theorem receive_cons (session : Session σ κ μ) (id : Nat) (snapshot : σ) (rest : List σ) :
    session.receive id (snapshot :: rest) =
      (session.note (.taken id snapshot)).receive id rest := by
  simp [receive, Session.note]

theorem callsOf_note (session : Session σ κ μ) (incident : Incident σ κ) (id : Nat) :
    (session.note incident).callsOf id = session.callsOf id ++ (incident.callOf? id).toList := by
  cases h : incident.callOf? id <;> simp [callsOf, h]

/-- What is no commit leaves the commits since a registration, also if it is that registration. -/
theorem commitsSince_note_of_commit?_eq_none (h : incident.commit? = none) :
    (session.note incident).commitsSince id = session.commitsSince id := by
  unfold commitsSince
  rw [log_note, List.dropWhile_append]
  split
  · next hempty =>
    rw [List.isEmpty_iff.mp hempty]
    cases hreg : incident.isRegistrationOf id <;> simp [hreg, h]
  · simp [h]

/-- A commit is one since the registration, if there was one. -/
theorem commitsSince_note_committed_suffix (session : Session σ κ μ) (next : σ) (id : Nat) :
    (session.note (.committed next)).commitsSince id <:+ session.commitsSince id ++ [next] := by
  unfold commitsSince
  rw [log_note, List.dropWhile_append]
  split
  · next hempty =>
    rw [List.isEmpty_iff.mp hempty]
    simp [Incident.isRegistrationOf]
  · simp [Incident.commit?]

/-- An observer that the log does not speak of was not called, nor was it registered. -/
theorem eq_nil_of_about?_ne (h : ∀ incident ∈ session.log, incident.about? ≠ some id) :
    session.callsOf id = [] ∧ session.commitsSince id = [] := by
  constructor
  · refine List.filterMap_eq_nil_iff.mpr fun incident hmem => ?_
    have hne := h incident hmem
    cases incident with
    | called observer snapshot =>
      have hid : observer.id ≠ id := fun heq => hne (congrArg some heq)
      simp [Incident.callOf?, hid]
    | _ => rfl
  · have hnone : session.log.dropWhile (!·.isRegistrationOf id) = [] := by
      refine List.dropWhile_eq_nil_iff.mpr fun incident hmem => ?_
      have hne := h incident hmem
      cases incident with
      | registered other =>
        have hid : other ≠ id := fun heq => hne (congrArg some heq)
        simp [Incident.isRegistrationOf, hid]
      | _ => rfl
    rw [commitsSince, hnone]
    rfl

/-- The flags tell who is registered. -/
theorem mem_ids : id ∈ session.ids ↔ session.state.isActive id = true := by
  rw [session.state.isActive_iff, ids, List.mem_map]

/-! ## What holds at any time -/

/-- No observer is called while a call of any observer has not returned. -/
def Alone (log : List (Incident σ κ)) : Prop :=
  ∀ before observer snapshot, before ++ [.called observer snapshot] <+: log →
    ∀ id, Incident.running before id = 0

theorem Alone.concat {log : List (Incident σ κ)} (h : Alone log)
    (hcall : ∀ observer snapshot, incident = .called observer snapshot →
      ∀ id, Incident.running log id = 0) : Alone (log ++ [incident]) := by
  intro before observer snapshot hprefix
  rcases List.prefix_concat_iff.mp hprefix with heq | hprefix
  · obtain ⟨rfl, hlast⟩ := List.append_inj' heq rfl
    exact hcall observer snapshot (List.singleton_inj.mp hlast).symm
  · exact h before observer snapshot hprefix

/-- Every observer was called with a block of the commits, one call at a time. -/
structure Orderly (session : Session σ κ μ) : Prop where
  blocks : ∀ id, session.callsOf id <:+: session.state.history
  alone : Alone session.log
  /-- No number is given twice. -/
  nodup : session.ids.Nodup
  lt : ∀ id ∈ session.ids, id < session.state.nextObserver
  registered : ∀ id ∈ session.ids, .registered id ∈ session.log
  /-- The log speaks of no number that is not given yet. -/
  fresh : ∀ incident ∈ session.log, ∀ id, incident.about? = some id →
    id < session.state.nextObserver

/-- What is noted of the numbers that are given, keeps the log fresh. -/
theorem Orderly.fresh_concat {bound : Nat} (h : Orderly session)
    (hle : session.state.nextObserver ≤ bound)
    (habout : ∀ id, incident.about? = some id → id < bound) :
    ∀ other ∈ session.log ++ [incident], ∀ id, other.about? = some id → id < bound := by
  intro other hother id hid
  rcases List.mem_append.mp hother with hother | hother
  · exact Nat.lt_of_lt_of_le (h.fresh other hother id hid) hle
  · exact habout id (List.mem_singleton.mp hother ▸ hid)

/-- What is to come for the observer `id`: what is being delivered, if it waits for that, and then
what is pending. -/
def outstanding (session : Session σ κ μ) (due : List σ) (waiting : List Nat) (id : Nat) : List σ :=
  (if id ∈ waiting then due else []) ++ session.state.pending

/-- While `due` is delivered and the observers of `waiting` wait for it: with what is to come, each
registered observer will have seen all commits since its registration, and the last ones. -/
structure Fair (due : List σ) (waiting : List Nat) (session : Session σ κ μ) : Prop
    extends Orderly session where
  pending : session.state.pending <:+ session.state.history
  waits : ∀ id ∈ waiting, id < session.state.nextObserver
  complete : ∀ id ∈ session.ids,
    session.commitsSince id <:+ session.callsOf id ++ session.outstanding due waiting id
  block : ∀ id ∈ session.ids,
    session.callsOf id ++ session.outstanding due waiting id <:+ session.state.history

/-- Whether a delivery is in progress, and what is pending, is not in the log. -/
theorem Orderly.delivery (h : Orderly session) (pending : List σ) (isDelivering : Bool) :
    Orderly { session with state := { session.state with pending, isDelivering } } :=
  ⟨h.blocks, h.alone, h.nodup, h.lt, h.registered, h.fresh⟩

/-- Whether a delivery is in progress does not matter for what is to come. -/
theorem Fair.delivery {due : List σ} {waiting : List Nat} (h : Fair due waiting session)
    (isDelivering : Bool) :
    Fair due waiting { session with state := { session.state with isDelivering } } :=
  ⟨h.toOrderly.delivery _ isDelivering, h.pending, h.waits, h.complete, h.block⟩

/-- **Where nothing is committed and no one called, everyone stays served**; who is registered anew
is to get what is pending. -/
theorem Fair.of_same {due : List σ} {waiting : List Nat} (h : Fair due waiting session)
    (horderly : Orderly session')
    (hlog : ∀ id, session'.callsOf id = session.callsOf id ∧
      session'.commitsSince id = session.commitsSince id)
    (hhistory : session'.state.history = session.state.history)
    (hpending : session'.state.pending = session.state.pending)
    (hnext : session.state.nextObserver ≤ session'.state.nextObserver)
    (hids : ∀ id ∈ session'.ids, id ∈ session.ids ∨ session.state.nextObserver ≤ id) :
    Fair due waiting session' := by
  have hcome : ∀ id, session'.outstanding due waiting id = session.outstanding due waiting id :=
    fun id => by rw [outstanding, hpending, outstanding]
  -- the log does not speak of an observer that is registered anew, and nothing waits for it
  have hnew : ∀ id, session.state.nextObserver ≤ id → session.callsOf id = [] ∧
      session.commitsSince id = [] ∧
        session.outstanding due waiting id = session.state.pending := by
    intro id hid
    obtain ⟨hcalls, hcommits⟩ := eq_nil_of_about?_ne fun incident hmem heq =>
      Nat.not_lt_of_le hid (h.fresh incident hmem id heq)
    have hwaits : id ∉ waiting := fun hmem => Nat.not_lt_of_le hid (h.waits id hmem)
    exact ⟨hcalls, hcommits, by rw [outstanding, if_neg hwaits, List.nil_append]⟩
  refine ⟨horderly, ?_, fun id hid => Nat.lt_of_lt_of_le (h.waits id hid) hnext,
    fun id hid => ?_, fun id hid => ?_⟩
  · rw [hpending, hhistory]
    exact h.pending
  · rw [(hlog id).1, (hlog id).2, hcome]
    rcases hids id hid with hid | hid
    · exact h.complete id hid
    · rw [(hnew id hid).2.1]
      exact List.nil_suffix
  · rw [(hlog id).1, hcome, hhistory]
    rcases hids id hid with hid | hid
    · exact h.block id hid
    · rw [(hnew id hid).1, (hnew id hid).2.2]
      exact h.pending

/-! ## One call -/

/-- No observer is at work. -/
def Quiet (session : Session σ κ μ) : Prop := ∀ id, Incident.running session.log id = 0

/-- When an observer is called, what is to come for it moves to its calls. -/
theorem come_call {snapshot : σ} {observer : Observer κ} {rest : List Nat}
    (hnot : observer.id ∉ rest) (id : Nat) :
    (session.note (.called observer snapshot)).callsOf id ++
      (session.note (.called observer snapshot)).outstanding [snapshot] rest id =
      session.callsOf id ++ session.outstanding [snapshot] (observer.id :: rest) id := by
  rw [callsOf_note]
  by_cases heq : observer.id = id
  · subst heq
    simp [outstanding, hnot, Incident.callOf?]
  · simp [outstanding, Incident.callOf?, heq, Ne.symm heq]

/-- An observer that waits for a snapshot is called with it. -/
theorem Fair.call {snapshot : σ} {observer : Observer κ} {rest : List Nat}
    (h : Fair [snapshot] (observer.id :: rest) session) (hmem : observer.id ∈ session.ids)
    (hnot : observer.id ∉ rest) (hquiet : session.Quiet) :
    Fair [snapshot] rest (session.note (.called observer snapshot)) := by
  have hcome : ∀ id, (session.note (.called observer snapshot)).callsOf id ++
      (session.note (.called observer snapshot)).outstanding [snapshot] rest id =
      session.callsOf id ++ session.outstanding [snapshot] (observer.id :: rest) id :=
    come_call hnot
  have hblock := h.block observer.id hmem
  refine ⟨⟨fun id => ?_, h.alone.concat fun _ _ _ => hquiet, h.nodup, h.lt,
    fun id hid => List.mem_append_left _ (h.registered id hid), ?_⟩, h.pending,
    fun id hid => h.waits id (List.mem_cons_of_mem _ hid), fun id hid => ?_, fun id hid => ?_⟩
  · by_cases heq : observer.id = id
    · subst heq
      rw [← hcome] at hblock
      exact (List.prefix_append _ _).isInfix.trans hblock.isInfix
    · rw [callsOf_note]
      simpa [Incident.callOf?, heq] using h.blocks id
  · refine h.toOrderly.fresh_concat (Nat.le_refl _) fun id hid => ?_
    exact Option.some.inj hid ▸ h.lt observer.id hmem
  · rw [hcome, commitsSince_note_of_commit?_eq_none rfl]
    exact h.complete id hid
  · rw [hcome]
    exact h.block id hid

/-- An observer that is gone does not wait any more. -/
theorem Fair.skip {due : List σ} {id : Nat} {rest : List Nat} (h : Fair due (id :: rest) session)
    (hgone : id ∉ session.ids) : Fair due rest session := by
  have hcome : ∀ other ∈ session.ids, session.outstanding due rest other =
      session.outstanding due (id :: rest) other := by
    intro other hother
    have hne : other ≠ id := fun heq => hgone (heq ▸ hother)
    simp [outstanding, hne]
  refine ⟨h.toOrderly, h.pending, fun other hother => h.waits other (List.mem_cons_of_mem _ hother),
    fun other hother => ?_, fun other hother => ?_⟩
  · rw [hcome other hother]
    exact h.complete other hother
  · rw [hcome other hother]
    exact h.block other hother

/-- An observer that was called returns. -/
theorem Fair.return {due : List σ} {waiting : List Nat} (h : Fair due waiting session)
    (hmem : id < session.state.nextObserver) :
    Fair due waiting (session.note (.returned id)) := by
  refine h.of_same ⟨fun other => ?_, h.alone.concat nofun, h.nodup, h.lt,
    fun other hother => List.mem_append_left _ (h.registered other hother), ?_⟩
    (fun other => ⟨?_, commitsSince_note_of_commit?_eq_none rfl⟩) rfl rfl (Nat.le_refl _)
    fun _ hid => .inl hid
  · rw [callsOf_note]
    exact (List.append_nil (session.callsOf other)).symm ▸ h.blocks other
  · exact h.toOrderly.fresh_concat (Nat.le_refl _) fun other hother =>
      Option.some.inj hother ▸ hmem
  · exact (callsOf_note _ _ _).trans (List.append_nil _)

/-! ## Rounds -/

/-- When a round begins, all who are registered wait for its snapshot. -/
theorem Fair.begin {snapshot : σ} {pending : List σ} (h : Fair [] [] session)
    (hpending : session.state.pending = snapshot :: pending) :
    Fair [snapshot] session.ids { session with state := { session.state with pending } } := by
  have hcome : ∀ id ∈ session.ids, outstanding
      { session with state := { session.state with pending } } [snapshot] session.ids id =
      session.outstanding [] [] id := by
    intro id hid
    simp [outstanding, hid, hpending]
  refine ⟨h.toOrderly.delivery pending _, ?_, h.lt, fun id hid => ?_, fun id hid => ?_⟩
  · exact (List.suffix_cons snapshot pending).trans (hpending ▸ h.pending)
  · exact (hcome id hid).symm ▸ h.complete id hid
  · exact (hcome id hid).symm ▸ h.block id hid

/-- When a round is over, no one waits. -/
theorem Fair.over {due : List σ} (h : Fair due [] session) : Fair [] [] session := by
  have hcome : ∀ id, session.outstanding [] [] id = session.outstanding due [] id := by
    intro id
    simp [outstanding]
  refine ⟨h.toOrderly, h.pending, h.waits, fun id hid => ?_, fun id hid => ?_⟩
  · rw [hcome]
    exact h.complete id hid
  · rw [hcome]
    exact h.block id hid

/-- At rest everyone is served and no observer is at work, and nothing is pending. -/
structure Rests (session : Session σ κ μ) : Prop extends Fair [] [] session where
  quiet : session.Quiet
  nothing : session.state.pending = []

/-- A delivery ends when nothing is pending. -/
theorem Fair.finish (h : Fair [] [] session) (hnone : session.state.pending = [])
    (hquiet : session.Quiet) :
    Rests { session with state := { session.state with isDelivering := false } } :=
  ⟨h.delivery false, hquiet, hnone⟩

/-- At rest, who was registered before the last commit was called with it last. -/
theorem Rests.last (h : Rests session) (hmem : id ∈ session.ids) :
    session.commitsSince id <:+ session.callsOf id ∧
      (session.commitsSince id ≠ [] →
        (session.callsOf id).getLast? = session.state.history.getLast?) := by
  have hnone : session.callsOf id ++ session.outstanding [] [] id = session.callsOf id := by
    simp [outstanding, h.nothing]
  have hcomplete := h.complete id hmem
  have hblock := h.block id hmem
  rw [hnone] at hcomplete hblock
  refine ⟨hcomplete, fun hsince => ?_⟩
  have hcalls : session.callsOf id ≠ [] := fun hempty =>
    hsince (List.suffix_nil.mp (hempty ▸ hcomplete))
  obtain ⟨earlier, hhistory⟩ := hblock
  rw [← hhistory, List.getLast?_append_of_ne_nil _ hcalls]

end Session

end FormTree

import Std.Data.ExtTreeMap

set_option autoImplicit false

/-!
# Observable state

A container of one immutable snapshot. The snapshot is replaced as a whole, by a *commit*, and a
commit can be followed in two ways: a *subscription* queues every later snapshot until it is
taken, and an *observer* is called with it.

A snapshot that equals the current one is not committed. A committed snapshot is queued on every
subscription at once; for the observers it is pending until it is delivered, see
`FormTree.Observable.Delivery`.

Every observer has a flag, which is up as long as the observer is registered. Whoever took a copy of
the list of observers finds there who was registered then, and at the flags who still is.

## Main definitions

* `FormTree.Observable` — the container, for snapshots of type `σ` and observers whose reactions
  are described by `κ`.
* `FormTree.Observable.commit` — replacing the snapshot.
* `FormTree.Observable.watch`, `FormTree.Observable.unwatch` — adding and removing an observer.
* `FormTree.Observable.subscribe`, `FormTree.Observable.take?`, `FormTree.Observable.drain`,
  `FormTree.Observable.unsubscribe` — the life of a subscription.
-/

namespace FormTree

variable {σ κ : Type}

/-- A registered observer. -/
structure Observer (κ : Type) where
  /-- The number under which it is registered; no two observers of a container share one. -/
  id : Nat
  /-- How it reacts to a snapshot. -/
  reaction : κ
  deriving DecidableEq, Inhabited

/-- Where nothing is committed, the version is zero. -/
theorem Observable.version_eq_of_nil : 0 = ([] : List σ).length := rfl

/-- Where nobody is registered, no flag is up. -/
theorem Observer.isActive_iff_of_nil (id : Nat) :
    (fun _ : Nat => false) id = true ↔ ∃ observer ∈ ([] : List (Observer κ)), observer.id = id := by
  simp

/-- A container of one immutable snapshot. -/
structure Observable (σ κ : Type) where
  /-- The current snapshot. -/
  value : σ
  /-- The number of commits so far. -/
  version : Nat := 0
  /-- The snapshots committed so far, oldest first. -/
  history : List σ := []
  /-- The snapshots queued on each subscription, oldest first. -/
  queues : Std.ExtTreeMap Nat (List σ) compare := ∅
  /-- The number of the next subscription. -/
  nextQueue : Nat := 0
  /-- The registered observers, in the order of their registration. -/
  observers : List (Observer κ) := []
  /-- The flags of all observers that were ever registered, by their numbers. -/
  isActive : Nat → Bool := fun _ => false
  /-- The number of the next observer. -/
  nextObserver : Nat := 0
  /-- The committed snapshots that are not yet delivered to the observers, oldest first. -/
  pending : List σ := []
  /-- A delivery is in progress. -/
  isDelivering : Bool := false
  /-- The version counts the log of the commits. -/
  version_eq : version = history.length := by exact Observable.version_eq_of_nil
  /-- The list and the flags agree. -/
  isActive_iff : ∀ id, isActive id = true ↔ ∃ observer ∈ observers, observer.id = id := by
    exact Observer.isActive_iff_of_nil

namespace Observable

instance [Inhabited σ] : Inhabited (Observable σ κ) := ⟨{ value := default }⟩

/-- Replace the snapshot; an equal one changes nothing. -/
def commit [DecidableEq σ] (state : Observable σ κ) (next : σ) : Observable σ κ :=
  if next = state.value then state
  else
    { state with
      value := next
      version := state.version + 1
      history := state.history ++ [next]
      queues := state.queues.map fun _ queue => queue ++ [next]
      pending := state.pending ++ [next]
      version_eq := by simp [state.version_eq] }

/-! ## Observers -/

/-- Register an observer for the snapshots to come, with its flag up; its number is
`nextObserver`. -/
def watch (state : Observable σ κ) (reaction : κ) : Observable σ κ :=
  { state with
    observers := state.observers ++ [⟨state.nextObserver, reaction⟩]
    isActive := fun id => id = state.nextObserver || state.isActive id
    nextObserver := state.nextObserver + 1
    isActive_iff := fun id => by
      by_cases heq : state.nextObserver = id
      · simp [heq]
      · simpa [heq, Ne.symm heq, or_and_right, exists_or] using state.isActive_iff id }

/-- Take the observer registered under `id` off the list, if it is still there, and its flag
down. -/
def unwatch (state : Observable σ κ) (id : Nat) : Observable σ κ :=
  { state with
    observers := state.observers.filter (·.id ≠ id)
    isActive := fun number => number ≠ id && state.isActive number
    isActive_iff := fun number => by
      have hactive := state.isActive_iff number
      by_cases heq : number = id <;> grind }

/-! ## Subscriptions -/

/-- Open a subscription for the snapshots to come; its number is `nextQueue`. -/
def subscribe (state : Observable σ κ) : Observable σ κ :=
  { state with
    queues := state.queues.insert state.nextQueue []
    nextQueue := state.nextQueue + 1 }

/-- Close a subscription. -/
def unsubscribe (state : Observable σ κ) (id : Nat) : Observable σ κ :=
  { state with queues := state.queues.erase id }

/-- The snapshots queued on a subscription, oldest first. -/
def queued (state : Observable σ κ) (id : Nat) : List σ := state.queues.getD id []

/-- Take the oldest snapshot queued on a subscription. -/
def take? (state : Observable σ κ) (id : Nat) : Option σ × Observable σ κ :=
  match state.queued id with
  | [] => (none, state)
  | snapshot :: rest => (some snapshot, { state with queues := state.queues.insert id rest })

/-- Take everything queued on a subscription. -/
def drain (state : Observable σ κ) (id : Nat) : List σ × Observable σ κ :=
  match state.queued id with
  | [] => ([], state)
  | snapshots => (snapshots, { state with queues := state.queues.insert id [] })

end Observable

end FormTree

import FormTree.Observable.Delivery

set_option autoImplicit false

/-!
# Sessions on an observable state

A session is one container together with its clients: the owners that keep it alive, and the
observers and subscriptions that are known by name. A name holds at most one observer and one
subscription; a new one is registered first and then takes the place of the old one, which is
removed. A session keeps a log of what happens in it.

What is known of an observer by a name is its handle: whoever cancels or drops the handle removes
the observer. An observer may own handles, too, also its own. They are dropped with it, once it is
neither registered nor in the hands of a round of delivery. A removal locks the list of observers,
and an observer that nothing else holds on to is dropped before the list is unlocked. If it owns a
handle then, the removal that this asks for waits for the lock, and so for itself: the session is
blocked, and nothing happens any more.

The reactions of the observers are given by a `FormTree.Client`. While reacting an observer may
act on the session itself: it may update the container, add and remove observers and
subscriptions, and read from subscriptions. Each of its updates asks for delivery just as one from
outside does; but since a delivery is in progress, the commits wait for later rounds of that one.

Once the last owner is gone the container is gone too. What its subscriptions still hold can be
taken, and then they end.

## Main definitions

* `FormTree.Session` — a container with its clients.
* `FormTree.Session.remove`, `FormTree.Session.letGo` — removing observers, and what goes with them.
* `FormTree.Incident` — what the log of a session is made of.
* `FormTree.Act`, `FormTree.Script` — what an observer may do while it reacts.
* `FormTree.Client` — how observers react.
* `FormTree.Session.flush` — a delivery in a session, in which other deliveries may be asked for.
* `FormTree.Session.update` — an update from outside, with the whole cascade that it starts.
-/

namespace FormTree

variable {σ κ μ : Type}

/-- What an observer may do while it reacts to a snapshot. -/
inductive Act (σ κ : Type) where
  /-- Update the container; where the update function gives nothing it failed, and the failure
  goes on to whoever made the outermost update. -/
  | update (change : σ → Option σ)
  /-- Update the container and recover from a failure of the update function. -/
  | attempt (change : σ → Option σ)
  /-- Register an observer under a name. -/
  | watch (name : String) (reaction : κ)
  /-- Remove the observer of a name. -/
  | cancel (name : String)
  /-- Let the observer of a number own the handle of a name. -/
  | entrust (name : String) (owner : Nat)
  /-- Get the handle of the observer `id` back from the one that owns it, under a name. -/
  | recover (owner id : Nat) (name : String)
  /-- Open a subscription under a name. -/
  | subscribe (name : String)
  /-- Close the subscription of a name. -/
  | unsubscribe (name : String)
  /-- Take the oldest snapshot from a subscription. -/
  | take (name : String)
  /-- Take everything from a subscription. -/
  | drain (name : String)
  /-- Become one more owner. -/
  | share
  /-- Be an owner no more; whoever makes the outermost update stays one. -/
  | release

/-- What an observer does while it reacts to a snapshot, one thing after the other. -/
inductive Script (σ κ μ : Type) where
  /-- Nothing more; the observer may leave. -/
  | done (leaves : Bool)
  /-- Do something. -/
  | act (act : Act σ κ) (next : Script σ κ μ)
  /-- Look at the container, and go on as it stands. -/
  | look (next : Observable σ κ → Script σ κ μ)
  /-- Change the memory that the clients keep. -/
  | remember (memory : μ) (next : Script σ κ μ)

/-- How the observers react: a reaction may depend on a memory that all of them share. -/
def Client (σ κ μ : Type) : Type := κ → σ → μ → Script σ κ μ

/-- Something that happens in a session. -/
inductive Incident (σ κ : Type) where
  /-- An observer is registered under this number. -/
  | registered (id : Nat)
  /-- A snapshot is committed. -/
  | committed (snapshot : σ)
  /-- An observer is called with a snapshot. -/
  | called (observer : Observer κ) (snapshot : σ)
  /-- The observer of this number returns from a call. -/
  | returned (id : Nat)
  /-- A subscription is opened under this number. -/
  | opened (id : Nat)
  /-- A snapshot is taken from the subscription of this number. -/
  | taken (id : Nat) (snapshot : σ)

/-- A container with its clients. -/
structure Session (σ κ μ : Type) where
  /-- The container. -/
  state : Observable σ κ
  /-- The owners that keep the container alive. -/
  owners : Nat := 1
  /-- The observers known by name. -/
  observers : Std.ExtTreeMap String Nat compare := ∅
  /-- The handles that observers own: the number of the observer, and that of the handle. -/
  owned : List (Nat × Nat) := []
  /-- The observers in the hands of the round that is underway. -/
  held : List Nat := []
  /-- A removal waits for itself. -/
  isBlocked : Bool := false
  /-- The subscriptions known by name. -/
  subscriptions : Std.ExtTreeMap String Nat compare := ∅
  /-- What happened so far, oldest first. -/
  log : List (Incident σ κ) := []
  /-- The memory that the clients keep. -/
  memory : μ

/-- Why a request to a session is refused. -/
inductive Refusal where
  /-- The container is gone. -/
  | gone
  /-- There is no subscription of that name. -/
  | noSubscription
  /-- An update function failed, or the cascade did not end within the rounds that it was given, or
  it is blocked. -/
  | failed
  deriving DecidableEq, Inhabited

/-- What waiting for the next snapshot of a subscription comes to. -/
inductive Poll (σ : Type) where
  /-- A snapshot was queued and is taken. -/
  | ready (snapshot : σ)
  /-- Nothing is queued, but more may come. -/
  | pending
  /-- Nothing is queued, and nothing will be. -/
  | ended
  deriving DecidableEq, Inhabited

namespace Session

/-- A session on a fresh container. -/
def start (value : σ) (memory : μ) : Session σ κ μ := { state := { value }, memory }

/-- Some owner keeps the container alive. -/
def isAlive (session : Session σ κ μ) : Bool := session.owners ≠ 0

/-- Write something down in the log. -/
def note (session : Session σ κ μ) (incident : Incident σ κ) : Session σ κ μ :=
  { session with log := session.log ++ [incident] }

/-- The calls of observers so far: which one was called with which snapshot. -/
def calls (session : Session σ κ μ) : List (Observer κ × σ) :=
  session.log.filterMap fun
    | .called observer snapshot => some (observer, snapshot)
    | _ => none

/-! ## Owners -/

/-- One owner more, if any is left to share with. -/
def addOwner (session : Session σ κ μ) : Session σ κ μ :=
  if session.isAlive then { session with owners := session.owners + 1 } else session

/-- One owner less. -/
def dropOwner (session : Session σ κ μ) : Session σ κ μ :=
  { session with owners := session.owners - 1 }

/-! ## Observers -/

/-- The numbers of the handles that an observer owns. -/
def handlesOf (session : Session σ κ μ) (owner : Nat) : List Nat :=
  (session.owned.filter (·.1 = owner)).map (·.2)

/-- Remove the observer registered under `id`, if it is still there. If no round holds on to it, it
is dropped while the list of observers is locked; then it must not own a handle. -/
def remove (session : Session σ κ μ) (id : Nat) : Session σ κ μ :=
  if session.isAlive && session.state.observers.any (·.id = id) then
    { session with
      state := session.state.unwatch id
      isBlocked := session.isBlocked || id ∉ session.held && session.handlesOf id ≠ [] }
  else session

/-- Drop handles, one after the other. -/
def dropHandles (session : Session σ κ μ) : List Nat → Session σ κ μ
  | [] => session
  | id :: rest => if session.isBlocked then session else dropHandles (session.remove id) rest

/-- A round holds on to the others only, and no more to an observer: unless that is still
registered, it is dropped, and with it the handles that it owns. -/
def unhold (session : Session σ κ μ) (observer : Nat) (others : List Nat) :
    Session σ κ μ × List Nat :=
  if session.state.observers.any (·.id = observer) then ({ session with held := others }, [])
  else
    ({ session with held := others, owned := session.owned.filter (·.1 ≠ observer) },
      session.handlesOf observer)

/-- A round lets go of an observer, and then the handles are dropped that go with it. -/
def letGo (session : Session σ κ μ) (observer : Nat) (others : List Nat) : Session σ κ μ :=
  if session.isBlocked then session
  else
    let (session, handles) := session.unhold observer others
    session.dropHandles handles

/-- Remove the observer of a name; nothing happens if the name has none. -/
def cancel (session : Session σ κ μ) (name : String) : Session σ κ μ :=
  match session.observers[name]? with
  | none => session
  | some id => { session with observers := session.observers.erase name }.remove id

/-- Register an observer under a name, and then remove the older one of that name. -/
def watch (session : Session σ κ μ) (name : String) (reaction : κ) : Session σ κ μ :=
  let id := session.state.nextObserver
  let session :=
    ({ session with state := session.state.watch reaction }.note (.registered id)).cancel name
  { session with observers := session.observers.insert name id }

/-- The observer is there: it is registered, or in the hands of a round. -/
def isThere (session : Session σ κ μ) (observer : Nat) : Bool :=
  session.isAlive &&
    (session.state.observers.any (·.id = observer) || observer ∈ session.held)

/-- The observer `owner` is there and owns the handle of the observer `id`. -/
def owns (session : Session σ κ μ) (owner id : Nat) : Bool :=
  session.isThere owner && (owner, id) ∈ session.owned

/-- Let an observer own the handle of a name; nothing happens unless both are there. -/
def entrust (session : Session σ κ μ) (name : String) (owner : Nat) : Session σ κ μ :=
  match session.observers[name]? with
  | none => session
  | some id =>
    if session.isThere owner then
      { session with
        observers := session.observers.erase name
        owned := session.owned ++ [(owner, id)] }
    else session

/-- Get the handle of the observer `id` back from the one that owns it, under a name, and then
remove the older observer of that name; nothing happens if it does not own the handle. -/
def recover (session : Session σ κ μ) (owner id : Nat) (name : String) : Session σ κ μ :=
  if session.owns owner id then
    let session := { session with owned := session.owned.erase (owner, id) }.cancel name
    { session with observers := session.observers.insert name id }
  else session

/-! ## Subscriptions -/

/-- Close the subscription of a name; nothing happens if the name has none. -/
def unsubscribe (session : Session σ κ μ) (name : String) : Session σ κ μ :=
  match session.subscriptions[name]? with
  | none => session
  | some id =>
    { session with
      state := session.state.unsubscribe id
      subscriptions := session.subscriptions.erase name }

/-- Open a subscription under a name, in place of an older one. -/
def subscribe (session : Session σ κ μ) (name : String) : Session σ κ μ :=
  let id := session.state.nextQueue
  let session :=
    ({ session with state := session.state.subscribe }.note (.opened id)).unsubscribe name
  { session with subscriptions := session.subscriptions.insert name id }

/-! ## Requests of an owner -/

/-- The current snapshot. -/
def read (session : Session σ κ μ) : Except Refusal σ :=
  if session.isAlive then .ok session.state.value else .error .gone

/-- Register an observer under a name; the answer tells whether it took the place of another. -/
def register (session : Session σ κ μ) (name : String) (reaction : κ) :
    Session σ κ μ × Except Refusal Bool :=
  if session.isAlive then
    (session.watch name reaction, .ok (session.observers.contains name))
  else (session, .error .gone)

/-- Open a subscription under a name; the answer tells whether it took the place of another. -/
def observe (session : Session σ κ μ) (name : String) : Session σ κ μ × Except Refusal Bool :=
  if session.isAlive then
    (session.subscribe name, .ok (session.subscriptions.contains name))
  else (session, .error .gone)

/-! ## Reading subscriptions -/

/-- Write down what is taken from a subscription. -/
def receive (session : Session σ κ μ) (id : Nat) (snapshots : List σ) : Session σ κ μ :=
  { session with log := session.log ++ snapshots.map (.taken id) }

/-- Take the oldest snapshot queued under a name. -/
def take? (session : Session σ κ μ) (name : String) :
    Session σ κ μ × Except Refusal (Option σ) :=
  match session.subscriptions[name]? with
  | none => (session, .error .noSubscription)
  | some id =>
    match session.state.take? id with
    | (snapshot, state) => ({ session with state }.receive id snapshot.toList, .ok snapshot)

/-- Take everything queued under a name. -/
def drain (session : Session σ κ μ) (name : String) : Session σ κ μ × Except Refusal (List σ) :=
  match session.subscriptions[name]? with
  | none => (session, .error .noSubscription)
  | some id =>
    match session.state.drain id with
    | (snapshots, state) => ({ session with state }.receive id snapshots, .ok snapshots)

/-- Wait for the next snapshot under a name, without blocking. -/
def poll (session : Session σ κ μ) (name : String) : Session σ κ μ × Except Refusal (Poll σ) :=
  match session.take? name with
  | (session, .error refusal) => (session, .error refusal)
  | (session, .ok (some snapshot)) => (session, .ok (.ready snapshot))
  | (session, .ok none) => (session, .ok (if session.isAlive then .pending else .ended))

/-! ## Updates -/

variable [DecidableEq σ]

/-- Commit a snapshot that differs from the current one. -/
def commit (session : Session σ κ μ) (next : σ) : Session σ κ μ :=
  { session with state := session.state.commit next }.note (.committed next)

/-- Commit the outcome of an update function, unless it is the current snapshot, and have it
delivered; the answer is what the update function gave. -/
def apply (flush : Session σ κ μ → Session σ κ μ × Bool) (session : Session σ κ μ)
    (change : σ → Option σ) : Session σ κ μ × Except Refusal σ :=
  match change session.state.value with
  | none => (session, .error .failed)
  | some next =>
    if next = session.state.value then (session, .ok next)
    else
      match flush (session.commit next) with
      | (session, true) => (session, .ok next)
      | (session, false) => (session, .error .failed)

/-- The session, and whether anything happens in it any more. -/
def going (session : Session σ κ μ) : Session σ κ μ × Bool := (session, !session.isBlocked)

/-- Do one thing on behalf of an observer; `false` if a failure ends the reaction, or the session is
blocked. -/
def act (flush : Session σ κ μ → Session σ κ μ × Bool) (session : Session σ κ μ) :
    Act σ κ → Session σ κ μ × Bool
  | .update change =>
    match session.apply flush change with
    | (session, .ok _) => (session, true)
    | (session, .error _) => (session, false)
  | .attempt change => ((session.apply flush change).1, true)
  | .watch name reaction => (session.watch name reaction).going
  | .cancel name => (session.cancel name).going
  | .entrust name owner => (session.entrust name owner, true)
  | .recover owner id name => (session.recover owner id name).going
  | .subscribe name => (session.subscribe name, true)
  | .unsubscribe name => (session.unsubscribe name, true)
  | .take name => ((session.take? name).1, true)
  | .drain name => ((session.drain name).1, true)
  | .share => (session.addOwner, true)
  | .release => (if 1 < session.owners then session.dropOwner else session, true)

/-- Do what an observer does, up to the first failure; the answer tells what becomes of it. -/
def follow (flush : Session σ κ μ → Session σ κ μ × Bool) :
    Script σ κ μ → Session σ κ μ → Session σ κ μ × Flow
  | .done leaves, session => (session, if leaves then .leave else .stay)
  | .act act next, session =>
    match session.act flush act with
    | (session, true) => follow flush next session
    | (session, false) => (session, .fail)
  | .look next, session => follow flush (next session.state) session
  | .remember memory next, session => follow flush next { session with memory }

/-- One call of an observer; if it fails or is blocked it does not return. -/
def react (client : Client σ κ μ) (flush : Session σ κ μ → Session σ κ μ × Bool)
    (observer : Observer κ) (snapshot : σ) (session : Session σ κ μ) : Session σ κ μ × Flow :=
  match (session.note (.called observer snapshot)).follow flush
      (client observer.reaction snapshot session.memory) with
  | (session, .fail) => (session, .fail)
  | (session, flow) => (session.note (.returned observer.id), flow)

/-- The container has its place in the session. -/
def place : Place (Session σ κ μ) σ κ where
  get session := session.state
  set session state := { session with state }
  hold observers session := { session with held := observers.map (·.id) }
  letGo observer others session := session.letGo observer.id (others.map (·.id))
  isBlocked session := session.isBlocked

/-- Deliver what is pending, at most `rounds` rounds; observers may ask for deliveries in their
turn, up to `depth` of them inside one another. -/
def flush (client : Client σ κ μ) (rounds : Nat) : Nat → Session σ κ μ → Session σ κ μ × Bool
  | 0, session => place.flush (react client fun session => (session, true)) rounds session
  | depth + 1, session => place.flush (react client (flush client rounds depth)) rounds session

/-- Update the container and run the cascade that this starts, at most `rounds` rounds of
delivery; the answer is what the update function gave. A delivery that was started here and is
still in progress afterwards ran out of rounds, or it is blocked. -/
def update (client : Client σ κ μ) (rounds : Nat) (session : Session σ κ μ)
    (change : σ → Option σ) : Session σ κ μ × Except Refusal σ :=
  if session.isAlive then
    match session.apply (flush client rounds rounds) change with
    | (after, .ok next) =>
      if after.state.isDelivering && !session.state.isDelivering then (after, .error .failed)
      else (after, .ok next)
    | (after, .error refusal) => (after, .error refusal)
  else (session, .error .gone)

end Session

end FormTree

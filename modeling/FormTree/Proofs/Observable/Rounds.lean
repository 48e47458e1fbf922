import FormTree.Observable.Delivery
import Mathlib.Tactic.Lemma

set_option autoImplicit false

/-!
# Rounds of delivery

How a delivery proceeds, one observer and one round at a time, and when it comes to rest: every
round takes one pending snapshot away, so a delivery whose observers commit only finitely often
ends with nothing pending, provided that it is given enough rounds.

In a plain place nothing hangs on the observers that a round holds on to, so that a round is no more
than the calls of its observers.

## Main definitions

* `FormTree.Place.gather` — the start of a round.
* `FormTree.Place.rest` — the end of a delivery.

## Main results

* `FormTree.Place.drain_eq_rest`, `FormTree.Place.drain_eq_round` — a delivery ends, or its next round
  begins.
* `FormTree.Place.deliver_append` — observers are served one after the other.
* `FormTree.Place.drain_of_measure` — a measure that every round shrinks bounds the rounds.
* `FormTree.Place.flush_holding` — what every reaction keeps, and letting go of an observer, is kept
  by a delivery.
* `FormTree.Place.flush_leaving`, `FormTree.Place.flush_keeps`, `FormTree.Place.flush_induction` —
  where nothing hangs on these, what every reaction keeps is kept by a delivery.
-/

namespace FormTree

variable {ω σ κ : Type}

namespace Observable

/-- A commit keeps whether a delivery is in progress. -/
@[simp] theorem isDelivering_commit [DecidableEq σ] (state : Observable σ κ) (next : σ) :
    (state.commit next).isDelivering = state.isDelivering := by
  unfold commit
  split <;> rfl

/-- A commit keeps the observers. -/
@[simp] theorem observers_commit [DecidableEq σ] (state : Observable σ κ) (next : σ) :
    (state.commit next).observers = state.observers := by
  unfold commit
  split <;> rfl

/-- A commit keeps the number of the next observer. -/
@[simp] theorem nextObserver_commit [DecidableEq σ] (state : Observable σ κ) (next : σ) :
    (state.commit next).nextObserver = state.nextObserver := by
  unfold commit
  split <;> rfl

/-- After a commit the container holds the snapshot. -/
@[simp] theorem value_commit [DecidableEq σ] (state : Observable σ κ) (next : σ) :
    (state.commit next).value = next := by
  unfold commit
  split
  · next h => exact h.symm
  · rfl

/-- The snapshots that a commit adds to the log: the new one, unless it equals the current one. -/
def added [DecidableEq σ] (state : Observable σ κ) (next : σ) : List σ :=
  if next = state.value then [] else [next]

/-- A commit logs what it adds. -/
theorem history_commit [DecidableEq σ] (state : Observable σ κ) (next : σ) :
    (state.commit next).history = state.history ++ state.added next := by
  unfold commit added
  split <;> simp

/-- What a commit adds is pending. -/
theorem pending_commit [DecidableEq σ] (state : Observable σ κ) (next : σ) :
    (state.commit next).pending = state.pending ++ state.added next := by
  unfold commit added
  split <;> simp

/-- Committing the current snapshot changes nothing. -/
theorem commit_value [DecidableEq σ] (state : Observable σ κ) :
    state.commit state.value = state := by
  simp [commit]

/-- A container that rests is put to rest. -/
theorem rest_eq {state : Observable σ κ} (h : state.isDelivering = false) :
    { state with isDelivering := false } = state := by
  cases state
  cases h
  rfl

/-- The flag of a registered observer is up. -/
theorem isActive_of_mem {state : Observable σ κ} {observer : Observer κ}
    (h : observer ∈ state.observers) : state.isActive observer.id = true :=
  (state.isActive_iff _).mpr ⟨observer, h, rfl⟩

end Observable

namespace Place

variable (place : Place ω σ κ) (react : Observer κ → σ → ω → ω × Flow)

/-- The end of a delivery: nothing is in progress any more. -/
def rest (world : ω) : ω := place.modify world fun state => { state with isDelivering := false }

/-- The start of a round: its snapshot is no longer pending. -/
def pop (world : ω) (pending : List σ) : ω :=
  place.modify world fun state => { state with pending }

/-- The start of a round that holds on to those whom it has to serve. -/
def gather (world : ω) (pending : List σ) : ω :=
  place.hold (place.get (place.pop world pending)).observers (place.pop world pending)

/-- The state in which a delivery starts. -/
def start (world : ω) : ω := place.modify world fun state => { state with isDelivering := true }

/-! ## Starting to deliver -/

/-- While a delivery is in progress another one does not start. -/
lemma flush_of_delivering {rounds : Nat} {world : ω}
    (h : (place.get world).isDelivering = true) :
    place.flush react rounds world = (world, true) := by
  rw [flush, if_pos h]

/-- Otherwise the delivery starts. -/
lemma flush_of_resting {rounds : Nat} {world : ω}
    (h : (place.get world).isDelivering = false) :
    place.flush react rounds world = place.drain react rounds (place.start world) := by
  rw [flush, if_neg (by simp [h])]
  rfl

/-! ## Rounds that begin, and rounds that do not -/

/-- Where nothing happens any more no one is served. -/
lemma deliver_of_isBlocked {world : ω} (h : place.isBlocked world = true) (snapshot : σ)
    (observers : List (Observer κ)) :
    place.deliver react snapshot observers world = (world, true) := by
  cases observers with
  | nil => rfl
  | cons observer rest => rw [deliver, if_pos h]

/-- Where nothing happens any more no round begins. -/
lemma drain_of_isBlocked {world : ω} (h : place.isBlocked world = true) (rounds : Nat) :
    place.drain react rounds world = (world, true) := by
  cases rounds with
  | zero => rfl
  | succ rounds => rw [drain, if_pos h]

/-- A delivery ends where nothing is pending. -/
lemma drain_eq_rest {rounds : Nat} {world : ω} (hfree : place.isBlocked world = false)
    (h : (place.get world).pending = []) :
    place.drain react (rounds + 1) world = (place.rest world, true) := by
  rw [drain, if_neg (by simp [hfree]), h]
  rfl

/-- Otherwise the next round begins, and the delivery goes on unless an observer fails. -/
lemma drain_eq_round {rounds : Nat} {world served : ω} {snapshot : σ} {pending : List σ}
    {ok : Bool} (hfree : place.isBlocked world = false)
    (h : (place.get world).pending = snapshot :: pending)
    (hround : place.deliver react snapshot (place.get (place.pop world pending)).observers
      (place.gather world pending) = (served, ok)) :
    place.drain react (rounds + 1) world =
      if ok then place.drain react rounds served else (served, false) := by
  unfold gather pop at hround
  rw [drain, if_neg (by simp [hfree]), h]
  dsimp only
  rw [hround]
  cases ok <;> rfl

/-! ## What a delivery keeps -/

section Keeping

variable {P : ω → Prop}

/-- What letting go of an observer keeps is kept when a round is given up. -/
theorem giveUp_keeps (hletGo : ∀ observer others world, P world →
      P (place.letGo observer others world)) :
    ∀ (observers : List (Observer κ)) {world : ω}, P world → P (place.giveUp observers world) := by
  intro observers
  induction observers with
  | nil => exact id
  | cons observer rest ih => exact fun h => ih (hletGo observer rest _ h)

/-- **What is kept by every reaction, by removing an observer that leaves, and by letting go of an
observer**, is kept when a snapshot is taken to observers. -/
theorem deliver_holding {snapshot : σ} {observers : List (Observer κ)}
    (hreact : ∀ observer ∈ observers, ∀ world, P world → P (react observer snapshot world).1)
    (hleave : ∀ observer ∈ observers, ∀ world, P world →
      (react observer snapshot world).2 = .leave →
      P (place.modify (react observer snapshot world).1 (·.unwatch observer.id)))
    (hletGo : ∀ observer others world, P world → P (place.letGo observer others world))
    {world : ω} (h : P world) : P (place.deliver react snapshot observers world).1 := by
  induction observers generalizing world with
  | nil => exact h
  | cons observer rest ih =>
    have hrest : ∀ {world}, P world →
        P (place.deliver react snapshot rest (place.letGo observer rest world)).1 :=
      fun hworld => ih (fun other hother => hreact other (by simp [hother]))
        (fun other hother => hleave other (by simp [hother])) (hletGo observer rest _ hworld)
    have hreacted := hreact observer (by simp) world h
    have hleft := hleave observer (by simp) world h
    rw [deliver]
    split
    · exact h
    · split
      · split
        · next heq => exact hrest (by rwa [heq] at hreacted)
        · next heq => exact hrest (by rw [heq] at hleft; exact hleft rfl)
        · next heq => exact place.giveUp_keeps hletGo _ (by rwa [heq] at hreacted)
      · exact hrest h

/-- **What is kept by the reaction of every observer that may be there, by removing one that leaves,
by holding on to observers and letting go of them, and by starting, ending and going on with a
delivery**, is kept by a delivery. -/
theorem flush_holding
    (hreact : ∀ before, P before → ∀ observer ∈ (place.get before).observers, ∀ snapshot world,
      P world → P (react observer snapshot world).1)
    (hleave : ∀ before, P before → ∀ observer ∈ (place.get before).observers, ∀ snapshot world,
      P world → (react observer snapshot world).2 = .leave →
      P (place.modify (react observer snapshot world).1 (·.unwatch observer.id)))
    (hhold : ∀ observers world, P world → P (place.hold observers world))
    (hletGo : ∀ observer others world, P world → P (place.letGo observer others world))
    (hstart : ∀ world, P world → P (place.start world))
    (hpop : ∀ world pending, P world → P (place.pop world pending))
    (hrest : ∀ world, P world → P (place.rest world))
    {rounds : Nat} {world : ω} (h : P world) : P (place.flush react rounds world).1 := by
  unfold flush
  split
  · exact h
  · have hkept : P (place.start world) := hstart world h
    unfold start at hkept
    generalize place.modify world _ = world at hkept
    clear h
    induction rounds generalizing world with
    | zero => exact hkept
    | succ rounds ih =>
      cases hfree : place.isBlocked world with
      | true => rwa [place.drain_of_isBlocked react hfree]
      | false =>
        cases hpending : (place.get world).pending with
        | nil =>
          rw [place.drain_eq_rest react hfree hpending]
          exact hrest world hkept
        | cons snapshot pending =>
          have hpopped : P (place.pop world pending) := hpop world pending hkept
          have hround : P (place.deliver react snapshot
              (place.get (place.pop world pending)).observers (place.gather world pending)).1 :=
            place.deliver_holding react
              (fun observer hmem => hreact _ hpopped observer hmem snapshot)
              (fun observer hmem => hleave _ hpopped observer hmem snapshot) hletGo
              (hhold _ _ hpopped)
          cases hdeliver : place.deliver react snapshot
              (place.get (place.pop world pending)).observers (place.gather world pending) with
          | mk served ok =>
            rw [hdeliver] at hround
            rw [place.drain_eq_round react hfree hpending hdeliver]
            cases ok with
            | true => exact ih served hround
            | false => exact hround

end Keeping

/-! ## One observer after the other -/

section Plain

variable [place.IsPlain]

/-- In a plain place a round that is given up lets go of nothing. -/
@[simp] lemma giveUp_eq (observers : List (Observer κ)) (world : ω) :
    place.giveUp observers world = world := by
  induction observers with
  | nil => rfl
  | cons observer rest ih => rw [giveUp, IsPlain.letGo, ih]

/-- In a plain place an observer is served, unless its flag is down, and then the others. -/
lemma deliver_cons (snapshot : σ) (observer : Observer κ) (rest : List (Observer κ)) (world : ω) :
    place.deliver react snapshot (observer :: rest) world =
      if (place.get world).isActive observer.id then
        match react observer snapshot world with
        | (world, .stay) => place.deliver react snapshot rest world
        | (world, .leave) =>
          place.deliver react snapshot rest (place.modify world (·.unwatch observer.id))
        | (world, .fail) => (world, false)
      else place.deliver react snapshot rest world := by
  rw [deliver, IsPlain.isBlocked, if_neg Bool.false_ne_true]
  generalize react observer snapshot world = served
  obtain ⟨after, flow⟩ := served
  cases flow <;> simp only [IsPlain.letGo, giveUp_eq]

/-- In a plain place a delivery ends where nothing is pending, or the next round begins. -/
lemma drain_succ (rounds : Nat) (world : ω) :
    place.drain react (rounds + 1) world =
      match (place.get world).pending with
      | [] => (place.rest world, true)
      | snapshot :: pending =>
        match place.deliver react snapshot (place.get (place.pop world pending)).observers
            (place.pop world pending) with
        | (world, true) => place.drain react rounds world
        | (world, false) => (world, false) := by
  rw [drain, IsPlain.isBlocked, if_neg Bool.false_ne_true]
  simp only [IsPlain.hold]
  rfl

/-- An observer that is still there and stays hands over to the next one. -/
lemma deliver_stay {snapshot : σ} {observer : Observer κ} {rest : List (Observer κ)}
    {world world' : ω} (hactive : (place.get world).isActive observer.id = true)
    (h : react observer snapshot world = (world', .stay)) :
    place.deliver react snapshot (observer :: rest) world =
      place.deliver react snapshot rest world' := by
  rw [deliver_cons, if_pos hactive, h]

/-- An observer that is still there and leaves is removed before the next one is served. -/
lemma deliver_leave {snapshot : σ} {observer : Observer κ} {rest : List (Observer κ)}
    {world world' : ω} (hactive : (place.get world).isActive observer.id = true)
    (h : react observer snapshot world = (world', .leave)) :
    place.deliver react snapshot (observer :: rest) world =
      place.deliver react snapshot rest (place.modify world' (·.unwatch observer.id)) := by
  rw [deliver_cons, if_pos hactive, h]

/-- **Observers are served one after the other**: once the first ones are served without a
failure, the delivery goes on with the others. -/
lemma deliver_append {snapshot : σ} {first second : List (Observer κ)} {world world' : ω}
    (h : place.deliver react snapshot first world = (world', true)) :
    place.deliver react snapshot (first ++ second) world =
      place.deliver react snapshot second world' := by
  induction first generalizing world with
  | nil =>
    cases h
    rfl
  | cons observer rest ih =>
    rw [List.cons_append, deliver_cons]
    rw [deliver_cons] at h
    split at h
    · next hw =>
      rw [if_pos hw]
      split at h <;> simp_all
    · next hw =>
      rw [if_neg hw]
      exact ih h

/-- **What is kept by every reaction, and by removing an observer that leaves**, is kept when a
snapshot is taken to observers. -/
theorem deliver_leaving {P : ω → Prop} {snapshot : σ} {observers : List (Observer κ)}
    (hreact : ∀ observer ∈ observers, ∀ world, P world → P (react observer snapshot world).1)
    (hleave : ∀ observer ∈ observers, ∀ world, P world →
      (react observer snapshot world).2 = .leave →
      P (place.modify (react observer snapshot world).1 (·.unwatch observer.id)))
    {world : ω} (h : P world) : P (place.deliver react snapshot observers world).1 :=
  place.deliver_holding react hreact hleave (fun _ _ _ hworld => by rwa [IsPlain.letGo]) h

/-- **What is kept by every reaction and by removing an observer** is kept when a snapshot is
taken to observers. -/
theorem deliver_induction {P : ω → Prop} {snapshot : σ} {observers : List (Observer κ)}
    (hreact : ∀ observer ∈ observers, ∀ world, P world → P (react observer snapshot world).1)
    (hunwatch : ∀ observer ∈ observers, ∀ world, P world →
      P (place.modify world (·.unwatch observer.id)))
    {world : ω} (h : P world) : P (place.deliver react snapshot observers world).1 :=
  place.deliver_leaving react hreact
    (fun observer hmem _ hworld _ => hunwatch observer hmem _ (hreact observer hmem _ hworld)) h

/-! ## One round after the other -/

/-- A delivery ends with the round that finds nothing pending. -/
lemma drain_rest {rounds : Nat} {world : ω} (h : (place.get world).pending = []) :
    place.drain react (rounds + 1) world = (place.rest world, true) :=
  place.drain_eq_rest react (IsPlain.isBlocked world) h

/-- A round without a failure hands over to the next one. -/
lemma drain_round {rounds : Nat} {world world' : ω} {snapshot : σ} {pending : List σ}
    (h : (place.get world).pending = snapshot :: pending)
    (hround : place.deliver react snapshot (place.get (place.pop world pending)).observers
      (place.pop world pending) = (world', true)) :
    place.drain react (rounds + 1) world = place.drain react rounds world' := by
  have hserved : place.deliver react snapshot (place.get (place.pop world pending)).observers
      (place.gather world pending) = (world', true) := by
    rw [gather, IsPlain.hold]
    exact hround
  exact (place.drain_eq_round react (IsPlain.isBlocked world) h hserved).trans (if_pos rfl)

/-- **A measure that every round shrinks bounds the rounds.** If every round that starts in a
state with `Inv` ends in one, without a failure and with a smaller measure, then a delivery with
more rounds than the measure comes to rest with nothing pending.

**Proof sketch.** Induction on the rounds: either nothing is pending and the delivery ends, or
one round is run and the measure of what follows is smaller. -/
theorem drain_of_measure (Inv : ω → Prop) (measure : ω → Nat)
    (hround : ∀ world snapshot pending, Inv world →
      (place.get world).pending = snapshot :: pending →
      ∃ world', place.deliver react snapshot (place.get (place.pop world pending)).observers
          (place.pop world pending) = (world', true) ∧
        Inv world' ∧ measure world' < measure world) :
    ∀ (rounds : Nat) (world : ω), Inv world → measure world < rounds →
      ∃ world', place.drain react rounds world = (place.rest world', true) ∧
        Inv world' ∧ (place.get world').pending = [] := by
  intro rounds
  induction rounds with
  | zero => intro world _ hlt; omega
  | succ rounds ih =>
    intro world hinv hlt
    cases hp : (place.get world).pending with
    | nil => exact ⟨world, place.drain_rest react hp, hinv, hp⟩
    | cons snapshot pending =>
      obtain ⟨world', hdeliver, hinv', hsmaller⟩ := hround world snapshot pending hinv hp
      rw [place.drain_round react hp hdeliver]
      exact ih world' hinv' (by omega)

/-! ## Whole deliveries -/

/-- **What is kept by the reaction of every observer that may be there, by removing one that leaves,
and by starting, ending and going on with a delivery**, is kept by a delivery. -/
theorem flush_leaving {P : ω → Prop}
    (hreact : ∀ before, P before → ∀ observer ∈ (place.get before).observers, ∀ snapshot world,
      P world → P (react observer snapshot world).1)
    (hleave : ∀ before, P before → ∀ observer ∈ (place.get before).observers, ∀ snapshot world,
      P world → (react observer snapshot world).2 = .leave →
      P (place.modify (react observer snapshot world).1 (·.unwatch observer.id)))
    (hstart : ∀ world, P world → P (place.start world))
    (hpop : ∀ world pending, P world → P (place.pop world pending))
    (hrest : ∀ world, P world → P (place.rest world))
    {rounds : Nat} {world : ω} (h : P world) : P (place.flush react rounds world).1 :=
  place.flush_holding react hreact hleave (fun _ _ hworld => by rwa [IsPlain.hold])
    (fun _ _ _ hworld => by rwa [IsPlain.letGo]) hstart hpop hrest h

/-- **What is kept by the reaction of every observer that may be there, and by starting, ending and
going on with a delivery**, is kept by a delivery. -/
theorem flush_keeps {P : ω → Prop}
    (hreact : ∀ before, P before → ∀ observer ∈ (place.get before).observers, ∀ snapshot world,
      P world → P (react observer snapshot world).1)
    (hunwatch : ∀ world id, P world → P (place.modify world (·.unwatch id)))
    (hstart : ∀ world, P world → P (place.start world))
    (hpop : ∀ world pending, P world → P (place.pop world pending))
    (hrest : ∀ world, P world → P (place.rest world))
    {rounds : Nat} {world : ω} (h : P world) : P (place.flush react rounds world).1 :=
  place.flush_leaving react hreact
    (fun before hbefore observer hmem snapshot world hworld _ =>
      hunwatch _ _ (hreact before hbefore observer hmem snapshot world hworld))
    hstart hpop hrest h

/-- **Where no observer reacts**, a delivery only notes how far it got. -/
theorem flush_of_stay {P : ω → Prop}
    (hstay : ∀ before, P before → ∀ observer ∈ (place.get before).observers, ∀ snapshot world,
      react observer snapshot world = (world, .stay))
    (hmark : ∀ world change, (∀ state, (change state).observers = state.observers) → P world →
      P (place.modify world change))
    {rounds : Nat} {world : ω} (h : P world) : P (place.flush react rounds world).1 := by
  refine place.flush_leaving react (fun before hbefore observer hmem snapshot world hworld => ?_)
    (fun before hbefore observer hmem snapshot world _ hleave => ?_)
    (fun world => hmark world _ fun _ => rfl) (fun world _ => hmark world _ fun _ => rfl)
    (fun world => hmark world _ fun _ => rfl) h
  · rwa [hstay before hbefore observer hmem]
  · rw [hstay before hbefore observer hmem] at hleave
    cases hleave

/-- **What is kept by every reaction, and by changes in the place that keep the snapshot and the
log**, is kept by a delivery. -/
theorem flush_induction {P : ω → Prop}
    (hreact : ∀ observer snapshot world, P world → P (react observer snapshot world).1)
    (hmodify : ∀ world change,
      (∀ state, (change state).value = state.value ∧ (change state).history = state.history) →
      P world → P (place.modify world change))
    {rounds : Nat} {world : ω} (h : P world) : P (place.flush react rounds world).1 :=
  place.flush_keeps react (fun _ _ observer _ => hreact observer)
    (fun _ _ => hmodify _ _ fun _ => ⟨rfl, rfl⟩) (fun _ => hmodify _ _ fun _ => ⟨rfl, rfl⟩)
    (fun _ _ => hmodify _ _ fun _ => ⟨rfl, rfl⟩) (fun _ => hmodify _ _ fun _ => ⟨rfl, rfl⟩) h

end Plain

end Place

end FormTree

import FormTree.Observable.Basic

set_option autoImplicit false

/-!
# Delivery to observers

Pending snapshots are delivered in the order of their commits. One *round* takes the oldest
pending snapshot to the observers that are registered when the round starts; an observer whose flag
is down when its turn comes is skipped. A snapshot committed by an observer waits for a later round,
because only the outermost commit delivers.

An observer may reach beyond the container that it observes, so delivery acts on a larger state
`ω` in which the container has its place. A round holds on to the observers that it has still to
serve, also if they are removed meanwhile; what becomes of those that it lets go of is a matter of
the place, too.

## Main definitions

* `FormTree.Place` — the place of a container in a larger state.
* `FormTree.Place.IsPlain` — nothing hangs on the observers that a round holds on to.
* `FormTree.Flow` — what becomes of an observer after its reaction.
* `FormTree.Place.deliver` — taking one snapshot to a list of observers.
* `FormTree.Place.drain`, `FormTree.Place.flush` — delivering until nothing is pending.
-/

namespace FormTree

variable {ω σ κ : Type}

/-- The place of a container in a larger state. -/
structure Place (ω σ κ : Type) where
  /-- The container as it stands. -/
  get : ω → Observable σ κ
  /-- The larger state with another container in this place. -/
  set : ω → Observable σ κ → ω
  /-- A round starts, which holds on to these observers. -/
  hold : List (Observer κ) → ω → ω := fun _ world => world
  /-- A round lets go of an observer, and still holds on to these others. -/
  letGo : Observer κ → List (Observer κ) → ω → ω := fun _ _ world => world
  /-- Nothing happens any more. -/
  isBlocked : ω → Bool := fun _ => false

/-- What becomes of an observer after its reaction. -/
inductive Flow where
  /-- It stays registered. -/
  | stay
  /-- It is removed. -/
  | leave
  /-- It did not return: it failed, and the failure goes on to whoever made the outermost commit, or
  it is blocked. -/
  | fail
  deriving DecidableEq, Inhabited

namespace Place

/-- Nothing hangs on the observers that a round holds on to, and nothing gets blocked. -/
class IsPlain (place : Place ω σ κ) : Prop where
  hold (observers : List (Observer κ)) (world : ω) : place.hold observers world = world
  letGo (observer : Observer κ) (others : List (Observer κ)) (world : ω) :
    place.letGo observer others world = world
  isBlocked (world : ω) : place.isBlocked world = false

variable (place : Place ω σ κ)

/-- Change the container in its place. -/
def modify (world : ω) (change : Observable σ κ → Observable σ κ) : ω :=
  place.set world (change (place.get world))

/-- A round is given up: it lets go of one observer after the other. -/
def giveUp : List (Observer κ) → ω → ω
  | [], world => world
  | observer :: rest, world => giveUp rest (place.letGo observer rest world)

variable (react : Observer κ → σ → ω → ω × Flow)

/-- Take a snapshot to the given observers, one after the other; `false` if one of them did not
return, which ends the delivery. -/
def deliver (snapshot : σ) : List (Observer κ) → ω → ω × Bool
  | [], world => (world, true)
  | observer :: rest, world =>
    if place.isBlocked world then (world, true)
    else if (place.get world).isActive observer.id then
      match react observer snapshot world with
      | (world, .stay) => deliver snapshot rest (place.letGo observer rest world)
      | (world, .leave) =>
        deliver snapshot rest
          (place.letGo observer rest (place.modify world (·.unwatch observer.id)))
      | (world, .fail) => (place.giveUp (observer :: rest) world, false)
    else deliver snapshot rest (place.letGo observer rest world)

/-- Run rounds until nothing is pending, at most `rounds` of them counting the one that finds
nothing. A failure leaves the container as it is at that moment. -/
def drain : Nat → ω → ω × Bool
  | 0, world => (world, true)
  | rounds + 1, world =>
    if place.isBlocked world then (world, true)
    else
      match (place.get world).pending with
      | [] => (place.modify world fun state => { state with isDelivering := false }, true)
      | snapshot :: rest =>
        let world := place.modify world fun state => { state with pending := rest }
        let observers := (place.get world).observers
        match place.deliver react snapshot observers (place.hold observers world) with
        | (world, true) => drain rounds world
        | (world, false) => (world, false)

/-- Deliver what is pending, unless a delivery is in progress already. -/
def flush (rounds : Nat) (world : ω) : ω × Bool :=
  if (place.get world).isDelivering then (world, true)
  else
    place.drain react rounds (place.modify world fun state => { state with isDelivering := true })

end Place

end FormTree

import FormTree.Observable.Session

set_option autoImplicit false

/-!
# Counters with rules

Sessions on a single 64-bit counter, whose observers react by rules: a rule has conditions on the
counter and a list of acts, and a reaction goes through the acts of every rule that applies.

## Main definitions

* `FormTree.Counter.Guard` — the conditions of a rule.
* `FormTree.Counter.Rule`, `FormTree.Counter.RuleAct` — rules and their acts.
* `FormTree.Counter.client` — how an observer with rules reacts.
-/

namespace FormTree.Counter

/-- Conditions on the counter; each holds if it is absent. -/
structure Guard where
  /-- The counter equals this. -/
  equal : Option Int64 := none
  /-- The counter is below this. -/
  below : Option Int64 := none
  /-- The counter is above this. -/
  above : Option Int64 := none
  deriving DecidableEq, Inhabited

/-- All conditions that are there hold. -/
def Guard.holds (guard : Guard) (value : Int64) : Bool :=
  guard.equal.all (value = ·) && guard.below.all (value < ·) && guard.above.all (· < value)

mutual

/-- An act of a rule. -/
inductive RuleAct where
  /-- Add to the counter, wrapping around at 64 bits. -/
  | add (amount : Int64)
  /-- Set the counter. -/
  | set (value : Int64)
  /-- An update function that fails; the observer recovers. -/
  | fail
  /-- Register an observer with rules under a name. -/
  | watch (name : String) (rules : List Rule)
  /-- Remove the observer of a name. -/
  | cancel (name : String)
  /-- Open a subscription under a name. -/
  | subscribe (name : String)
  /-- Close the subscription of a name. -/
  | unsubscribe (name : String)
  /-- Take the oldest value from a subscription. -/
  | take (name : String)
  /-- Take everything from a subscription. -/
  | drain (name : String)
  /-- Look without changing anything. -/
  | look
  /-- Leave once all rules are done. -/
  | leave

/-- A rule of an observer. -/
inductive Rule where
  | mk (guard : Guard) (acts : List RuleAct)

end

instance : Inhabited RuleAct := ⟨.look⟩

instance : Inhabited Rule := ⟨.mk {} []⟩

/-- An observer of a counter. -/
structure Watcher where
  /-- The name under which it reports its calls. -/
  name : String
  /-- Its rules, in order. -/
  rules : List Rule

/-- A session on a counter; the observers keep no memory. -/
abbrev Session : Type := FormTree.Session Int64 Watcher Unit

/-- The acts that a rule asks for when it is called with `value`. -/
def Rule.actsOn (value : Int64) : Rule → List RuleAct
  | .mk guard acts => if guard.holds value then acts else []

/-- What an act does to the session; leaving is not done by an act. -/
def RuleAct.toAct? : RuleAct → Option (Act Int64 Watcher)
  | .add amount => some (.attempt fun value => some (value + amount))
  | .set value => some (.attempt fun _ => some value)
  | .fail => some (.attempt fun _ => none)
  | .watch name rules => some (.watch name ⟨name, rules⟩)
  | .cancel name => some (.cancel name)
  | .subscribe name => some (.subscribe name)
  | .unsubscribe name => some (.unsubscribe name)
  | .take name => some (.take name)
  | .drain name => some (.drain name)
  | .look | .leave => none

/-- The act is the one that makes the observer leave. -/
def RuleAct.isLeave : RuleAct → Bool
  | .leave => true
  | _ => false

/-- An observer goes through its rules in order. -/
def client : Client Int64 Watcher Unit := fun watcher value _ =>
  let acts := watcher.rules.flatMap (·.actsOn value)
  (acts.filterMap (·.toAct?)).foldr .act (.done (acts.any (·.isLeave)))

end FormTree.Counter

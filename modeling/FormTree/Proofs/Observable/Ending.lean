import FormTree.Proofs.Observable.Rounds
import Mathlib.Order.Defs.PartialOrder

set_option autoImplicit false

/-!
# Deliveries that end

A delivery goes on for as long as something is pending, whatever its observers commit meanwhile.
This module says what it means that it ends, without any bound on the rounds, and when a delivery
with a bounded number of rounds is one that ends.

The rounds are those of a plain place, where nothing hangs on the observers that they hold on to.
That the rounds were enough can be told from the end: a delivery that breaks off leaves its
container marked as being delivered. So what is marked can only grow along the way, and where
nothing more is marked at the end than at the start, everything on the way has ended.

## Main definitions

* `FormTree.Place.RoundEnds`, `FormTree.Place.RoundsEnd`, `FormTree.Place.FlushEnds` — one round,
  all rounds of a delivery, and a delivery that is asked for, come to an end.

## Main results

* `FormTree.Place.FlushEnds.unique` — a delivery ends in one way only.
* `FormTree.Place.flush_ends` — a delivery with a bound that leaves no mark behind is one that ends.
-/

namespace FormTree.Place

variable {ω σ κ : Type} (place : Place ω σ κ)

/-! ## Endings -/

section Endings

variable (Reacts : Observer κ → σ → ω → ω × Flow → Prop)

/-- A snapshot is taken to observers, one after the other, and each reaction comes to an end. -/
inductive RoundEnds (snapshot : σ) : List (Observer κ) → ω → ω → Prop
  /-- All observers have been served. -/
  | nil (world : ω) : RoundEnds snapshot [] world world
  /-- An observer that has left is skipped. -/
  | gone {observer : Observer κ} {rest : List (Observer κ)} {world last : ω} :
    (place.get world).isActive observer.id = false → RoundEnds snapshot rest world last →
    RoundEnds snapshot (observer :: rest) world last
  /-- An observer reacts, and stays. -/
  | stay {observer : Observer κ} {rest : List (Observer κ)} {world next last : ω} :
    (place.get world).isActive observer.id = true →
    Reacts observer snapshot world (next, .stay) → RoundEnds snapshot rest next last →
    RoundEnds snapshot (observer :: rest) world last
  /-- An observer reacts, and leaves. -/
  | leave {observer : Observer κ} {rest : List (Observer κ)} {world next last : ω} :
    (place.get world).isActive observer.id = true →
    Reacts observer snapshot world (next, .leave) →
    RoundEnds snapshot rest (place.modify next (·.unwatch observer.id)) last →
    RoundEnds snapshot (observer :: rest) world last

/-- Round follows round until nothing is pending. -/
inductive RoundsEnd : ω → ω → Prop
  /-- Nothing is pending. -/
  | done {world : ω} : (place.get world).pending = [] → RoundsEnd world (place.rest world)
  /-- The oldest pending snapshot is taken to the observers. -/
  | round {world next last : ω} {snapshot : σ} {pending : List σ} :
    (place.get world).pending = snapshot :: pending →
    place.RoundEnds Reacts snapshot (place.get (place.pop world pending)).observers
      (place.pop world pending) next →
    RoundsEnd next last → RoundsEnd world last

/-- Delivery is asked for, and comes to an end. -/
inductive FlushEnds (world : ω) : ω → Prop
  /-- A delivery is in progress already, and takes care of it. -/
  | busy : (place.get world).isDelivering = true → FlushEnds world world
  /-- What is pending is delivered. -/
  | idle {last : ω} : (place.get world).isDelivering = false →
    place.RoundsEnd Reacts (place.start world) last → FlushEnds world last

end Endings

/-! ## More reactions that end -/

section Mono

variable {place} {Reacts Reacts' : Observer κ → σ → ω → ω × Flow → Prop}
  (hreacts : ∀ observer snapshot world result,
    Reacts observer snapshot world result → Reacts' observer snapshot world result)
include hreacts

theorem RoundEnds.mono {snapshot : σ} {observers : List (Observer κ)} {world last : ω}
    (h : place.RoundEnds Reacts snapshot observers world last) :
    place.RoundEnds Reacts' snapshot observers world last := by
  induction h with
  | nil world => exact .nil world
  | gone hgone _ ih => exact .gone hgone ih
  | stay hactive hreact _ ih => exact .stay hactive (hreacts _ _ _ _ hreact) ih
  | leave hactive hreact _ ih => exact .leave hactive (hreacts _ _ _ _ hreact) ih

theorem RoundsEnd.mono {world last : ω} (h : place.RoundsEnd Reacts world last) :
    place.RoundsEnd Reacts' world last := by
  induction h with
  | done hnone => exact .done hnone
  | round hpending hround _ ih => exact .round hpending (hround.mono hreacts) ih

/-- A delivery that ends still does so if more reactions end. -/
theorem FlushEnds.mono {world last : ω} (h : place.FlushEnds Reacts world last) :
    place.FlushEnds Reacts' world last := by
  cases h with
  | busy hbusy => exact .busy hbusy
  | idle hidle hrounds => exact .idle hidle (hrounds.mono hreacts)

end Mono

/-! ## One end only -/

section Unique

variable {place} {Reacts : Observer κ → σ → ω → ω × Flow → Prop}
  (hreacts : ∀ observer snapshot world result result',
    Reacts observer snapshot world result → Reacts observer snapshot world result' →
      result = result')
include hreacts

/-- A round ends in one way only. -/
theorem RoundEnds.unique {snapshot : σ} {observers : List (Observer κ)} {world last last' : ω}
    (h : place.RoundEnds Reacts snapshot observers world last)
    (h' : place.RoundEnds Reacts snapshot observers world last') : last = last' := by
  induction h with
  | nil world =>
    cases h'
    rfl
  | gone hgone _ ih =>
    cases h' with
    | gone _ hrest => exact ih hrest
    | stay hactive _ _ => exact absurd (hgone.symm.trans hactive) nofun
    | leave hactive _ _ => exact absurd (hgone.symm.trans hactive) nofun
  | stay hactive hreact _ ih =>
    cases h' with
    | gone hgone _ => exact absurd (hgone.symm.trans hactive) nofun
    | stay _ hreact' hrest =>
      cases hreacts _ _ _ _ _ hreact hreact'
      exact ih hrest
    | leave _ hreact' _ => cases hreacts _ _ _ _ _ hreact hreact'
  | leave hactive hreact _ ih =>
    cases h' with
    | gone hgone _ => exact absurd (hgone.symm.trans hactive) nofun
    | stay _ hreact' _ => cases hreacts _ _ _ _ _ hreact hreact'
    | leave _ hreact' hrest =>
      cases hreacts _ _ _ _ _ hreact hreact'
      exact ih hrest

/-- The rounds of a delivery end in one way only. -/
theorem RoundsEnd.unique {world last last' : ω} (h : place.RoundsEnd Reacts world last)
    (h' : place.RoundsEnd Reacts world last') : last = last' := by
  induction h with
  | done hnone =>
    cases h' with
    | done _ => rfl
    | round hpending _ _ => exact absurd (hnone.symm.trans hpending) nofun
  | round hpending hround _ ih =>
    cases h' with
    | done hnone => exact absurd (hnone.symm.trans hpending) nofun
    | round hpending' hround' hrest =>
      cases hpending.symm.trans hpending'
      cases hround.unique hreacts hround'
      exact ih hrest

/-- **A delivery ends in one way only.** -/
theorem FlushEnds.unique {world last last' : ω} (h : place.FlushEnds Reacts world last)
    (h' : place.FlushEnds Reacts world last') : last = last' := by
  cases h with
  | busy hbusy =>
    cases h' with
    | busy _ => rfl
    | idle hidle _ => exact absurd (hidle.symm.trans hbusy) nofun
  | idle hidle hrounds =>
    cases h' with
    | busy hbusy => exact absurd (hidle.symm.trans hbusy) nofun
    | idle _ hrounds' => exact hrounds.unique hreacts hrounds'

end Unique

/-! ## What endings keep -/

section Keeping

variable {place} {Reacts : Observer κ → σ → ω → ω × Flow → Prop} {P : ω → Prop}

/-- What every reaction keeps that comes to an end, and the removal of an observer that leaves then,
is kept by a round. -/
theorem RoundEnds.keeps {snapshot : σ} {observers : List (Observer κ)} {world last : ω}
    (hround : place.RoundEnds Reacts snapshot observers world last)
    (hreact : ∀ observer ∈ observers, ∀ world next flow, P world →
      Reacts observer snapshot world (next, flow) →
      P next ∧ (flow = .leave → P (place.modify next (·.unwatch observer.id))))
    (h : P world) : P last := by
  induction hround with
  | nil _ => exact h
  | gone _ _ ih => exact ih (fun other hother => hreact other (List.mem_cons_of_mem _ hother)) h
  | stay _ hreacts _ ih =>
    exact ih (fun other hother => hreact other (List.mem_cons_of_mem _ hother))
      (hreact _ List.mem_cons_self _ _ _ h hreacts).1
  | leave _ hreacts _ ih =>
    exact ih (fun other hother => hreact other (List.mem_cons_of_mem _ hother))
      ((hreact _ List.mem_cons_self _ _ _ h hreacts).2 rfl)

/-- **What every reaction keeps that comes to an end, and what does not look at how far the delivery
got**, is kept by a delivery. -/
theorem FlushEnds.keeps {world last : ω} (hflush : place.FlushEnds Reacts world last)
    (hreact : ∀ before, P before → ∀ observer ∈ (place.get before).observers,
      ∀ snapshot world next flow, P world → Reacts observer snapshot world (next, flow) →
      P next ∧ (flow = .leave → P (place.modify next (·.unwatch observer.id))))
    (hmark : ∀ world change, (∀ state, (change state).observers = state.observers) → P world →
      P (place.modify world change))
    (h : P world) : P last := by
  cases hflush with
  | busy _ => exact h
  | idle _ hrounds =>
    have hstarted : P (place.start world) := hmark world _ (fun _ => rfl) h
    generalize place.start world = world at hrounds hstarted
    induction hrounds with
    | done _ => exact hmark _ _ (fun _ => rfl) hstarted
    | @round world next last snapshot pending _ hround _ ih =>
      have hpopped : P (place.pop world pending) := hmark world _ (fun _ => rfl) hstarted
      exact ih (hround.keeps (fun observer hmem => hreact _ hpopped observer hmem _) hpopped)

end Keeping

/-! ## Endings of bounded deliveries -/

section Bounded

variable [place.IsPlain] {α : Type} [Preorder α] {react : Observer κ → σ → ω → ω × Flow}
  {Reacts : Observer κ → σ → ω → ω × Flow → Prop} {Inv : ω → Prop} {marked : ω → α}

/-- A reaction that leads from one good state to another, and does not fail. What is marked only
grows, and if it does not, then the reaction has come to an end. -/
structure Settles (Reacts : Observer κ → σ → ω → ω × Flow → Prop) (Inv : ω → Prop)
    (marked : ω → α) (observer : Observer κ) (snapshot : σ) (world : ω) (result : ω × Flow) :
    Prop where
  inv : Inv result.1
  grows : marked world ≤ marked result.1
  succeeds : result.2 ≠ .fail
  ends : marked result.1 ≤ marked world → Reacts observer snapshot world result

/-- A change in the place that concerns neither what is good nor what is marked. -/
def Unmarked (Inv : ω → Prop) (marked : ω → α) (world world' : ω) : Prop :=
  Inv world → Inv world' ∧ marked world' = marked world

/-- **A round in which nothing more is marked is one that ends.** -/
theorem deliver_ends {snapshot : σ} {observers : List (Observer κ)}
    (hreact : ∀ observer ∈ observers, ∀ world, Inv world →
      Settles Reacts Inv marked observer snapshot world (react observer snapshot world))
    (hunwatch : ∀ world id, Unmarked Inv marked world (place.modify world (·.unwatch id)))
    {world : ω} (h : Inv world) :
    ∃ last, place.deliver react snapshot observers world = (last, true) ∧ Inv last ∧
      marked world ≤ marked last ∧
      (marked last ≤ marked world → place.RoundEnds Reacts snapshot observers world last) := by
  induction observers generalizing world with
  | nil => exact ⟨world, rfl, h, le_refl _, fun _ => .nil world⟩
  | cons observer rest ih =>
    replace ih : ∀ {world}, Inv world → _ :=
      fun hworld => ih (fun other hother => hreact other (by simp [hother])) hworld
    rw [deliver_cons]
    cases hactive : (place.get world).isActive observer.id with
    | false =>
      obtain ⟨last, hdeliver, hlast, hgrows, hends⟩ := ih h
      refine ⟨last, by simpa using hdeliver, hlast, hgrows, fun hback => ?_⟩
      exact .gone hactive (hends hback)
    | true =>
      have hreacted := hreact observer (by simp) world h
      rw [if_pos rfl]
      generalize react observer snapshot world = result at hreacted ⊢
      obtain ⟨next, flow⟩ := result
      obtain ⟨hnext, hmore, hsucceeds, hreacts⟩ := hreacted
      dsimp only at hnext hmore hsucceeds hreacts ⊢
      cases flow with
      | fail => exact absurd rfl hsucceeds
      | stay =>
        obtain ⟨last, hdeliver, hlast, hgrows, hends⟩ := ih hnext
        refine ⟨last, hdeliver, hlast, le_trans hmore hgrows, fun hback => ?_⟩
        -- nothing more is marked at the end, so nothing more was marked on the way
        exact .stay hactive (hreacts (le_trans hgrows hback)) (hends (le_trans hback hmore))
      | leave =>
        obtain ⟨hleft, hsame⟩ := hunwatch next observer.id hnext
        obtain ⟨last, hdeliver, hlast, hgrows, hends⟩ := ih hleft
        rw [hsame] at hgrows hends
        refine ⟨last, hdeliver, hlast, le_trans hmore hgrows, fun hback => ?_⟩
        exact .leave hactive (hreacts (le_trans hgrows hback)) (hends (le_trans hback hmore))

variable (hreact : ∀ before, Inv before → ∀ observer ∈ (place.get before).observers,
    ∀ snapshot world, Inv world →
      Settles Reacts Inv marked observer snapshot world (react observer snapshot world))
  (hunwatch : ∀ world id, Unmarked Inv marked world (place.modify world (·.unwatch id)))
  (hpop : ∀ world pending, Unmarked Inv marked world (place.pop world pending))
include hreact hunwatch hpop

/-- Rounds break off in a good state; or they come to their end, and then in the way in which they
do without a bound, provided that nothing more is marked. -/
theorem drain_ends : ∀ (rounds : Nat) {world : ω}, Inv world →
    ∃ last, Inv last ∧ marked world ≤ marked last ∧
      (place.drain react rounds world = (last, true) ∨
        place.drain react rounds world = (place.rest last, true) ∧
          (marked last ≤ marked world → place.RoundsEnd Reacts world (place.rest last))) := by
  intro rounds
  induction rounds with
  | zero => exact fun {world} h => ⟨world, h, le_refl _, .inl rfl⟩
  | succ rounds ih =>
    intro world h
    cases hpending : (place.get world).pending with
    | nil =>
      exact ⟨world, h, le_refl _, .inr ⟨place.drain_rest react hpending, fun _ => .done hpending⟩⟩
    | cons snapshot pending =>
      obtain ⟨hpopped, hsame⟩ := hpop world pending h
      obtain ⟨next, hdeliver, hnext, hmore, hround⟩ := place.deliver_ends
        (fun observer hobserver => hreact _ hpopped observer hobserver snapshot) hunwatch hpopped
      rw [hsame] at hmore hround
      obtain ⟨last, hlast, hgrows, hends⟩ := ih hnext
      rw [place.drain_round react hpending hdeliver]
      refine ⟨last, hlast, le_trans hmore hgrows, hends.imp_right fun ⟨hdrain, hrounds⟩ => ?_⟩
      refine ⟨hdrain, fun hback => ?_⟩
      exact .round hpending (hround (le_trans hgrows hback)) (hrounds (le_trans hback hmore))

/-- **A delivery that starts** breaks off in a good state; or it comes to its end, and then in the
way in which it does without a bound, provided that nothing more is marked. -/
theorem flush_ends (rounds : Nat) {world : ω} (hidle : (place.get world).isDelivering = false)
    (h : Inv (place.start world)) :
    ∃ last, Inv last ∧ marked (place.start world) ≤ marked last ∧
      (place.flush react rounds world = (last, true) ∨
        place.flush react rounds world = (place.rest last, true) ∧
          (marked last ≤ marked (place.start world) →
            place.FlushEnds Reacts world (place.rest last))) := by
  obtain ⟨last, hlast, hgrows, hends⟩ := place.drain_ends hreact hunwatch hpop rounds h
  rw [place.flush_of_resting react hidle]
  exact ⟨last, hlast, hgrows, hends.imp_right fun ⟨hdrain, hrounds⟩ =>
    ⟨hdrain, fun hback => .idle hidle (hrounds hback)⟩⟩

end Bounded

/-- **A measure that every round shrinks bounds the rounds**, and then the delivery is one that
ends. -/
theorem drain_ends_of_measure [place.IsPlain] {react : Observer κ → σ → ω → ω × Flow}
    {Reacts : Observer κ → σ → ω → ω × Flow → Prop} (Inv : ω → Prop) (measure : ω → Nat)
    (hround : ∀ world snapshot pending, Inv world →
      (place.get world).pending = snapshot :: pending →
      ∃ next, place.deliver react snapshot (place.get (place.pop world pending)).observers
          (place.pop world pending) = (next, true) ∧
        place.RoundEnds Reacts snapshot (place.get (place.pop world pending)).observers
          (place.pop world pending) next ∧
        Inv next ∧ measure next < measure world) :
    ∀ (rounds : Nat) (world : ω), Inv world → measure world < rounds →
      ∃ last, place.drain react rounds world = (place.rest last, true) ∧
        place.RoundsEnd Reacts world (place.rest last) ∧
        Inv last ∧ (place.get last).pending = [] := by
  intro rounds
  induction rounds with
  | zero => intro world _ hlt; omega
  | succ rounds ih =>
    intro world hinv hlt
    cases hpending : (place.get world).pending with
    | nil =>
      exact ⟨world, place.drain_rest react hpending, .done hpending, hinv, hpending⟩
    | cons snapshot pending =>
      obtain ⟨next, hdeliver, hends, hnext, hsmaller⟩ :=
        hround world snapshot pending hinv hpending
      obtain ⟨last, hdrain, hrounds, hlast, hnone⟩ := ih next hnext (by omega)
      rw [place.drain_round react hpending hdeliver]
      exact ⟨last, hdrain, .round hpending hends hrounds, hlast, hnone⟩

end FormTree.Place

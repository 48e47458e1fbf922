import FormTree.Proofs.Layout.Occasions
import FormTree.Proofs.Quiescence

set_option autoImplicit false

/-!
# Where the limit cuts routing off

Without a limit, the dispatches that wait are routed one after the other, the oldest first, together
with those that are added behind them meanwhile. A pass with a limit routes the same dispatches, as
many as the limit allows for, and what waits then is dropped: so a pass with a limit is a prefix of
routing without one, and it is all of it if the limit is not below the number of dispatches.

## Main definitions

* `FormTree.Layout.Routes` — dispatches that are routed one after the other, without a limit.
* `FormTree.Layout.cut` — a layout after what waits is dropped.

## Main results

* `FormTree.Layout.Empties.exists_routes`, `FormTree.Layout.Routes.eq_of_idle` — routing without a
  limit comes to rest, in one way only.
* `FormTree.Layout.routes_append` — routing can be broken off and taken up again anywhere.
* `FormTree.Layout.Routes.drain_add_length`, `FormTree.Layout.Routes.occasionsDrain_add_length` — a
  pass begins as routing without a limit does.
* `FormTree.Layout.settle_eq_cut` — a pass is a prefix of routing without a limit.
-/

namespace FormTree.Layout

variable {layout layout' reached final : Layout} {all more : List Dispatch} {dispatch : Dispatch}

/-- The dispatches are routed one after the other, each the oldest of what waits then, and there is
no limit. None of them is stray. -/
inductive Routes : List Dispatch → Layout → Layout → Prop
  /-- Nothing is routed. -/
  | none {layout : Layout} : Routes [] layout layout
  /-- The oldest dispatch is routed first. -/
  | next {layout final : Layout} {oldest : Dispatch} {rest later : List Dispatch} :
    layout.outbox.queue = oldest :: rest → layout.isStray oldest = false →
    Routes later ({ layout with outbox := ⟨rest⟩ }.route oldest) final →
    Routes (oldest :: later) layout final

/-- The layout after what waits is dropped. -/
def cut (layout : Layout) : Layout :=
  { layout with outbox := {}, dropped := layout.dropped ++ layout.outbox.queue }

/-- Where nothing waits nothing is dropped. -/
lemma cut_of_idle (h : layout.outbox.queue = []) : layout.cut = layout := by
  have houtbox : layout.outbox = {} := congrArg Outbox.mk h
  rw [cut, h, List.append_nil, ← houtbox]

/-! ## Routing without a limit -/

/-- Dispatches that empty the outbox are routed one after the other. -/
theorem Empties.exists_routes {count : Nat} (h : Empties count layout final) :
    ∃ all, all.length = count ∧ Routes all layout final := by
  induction h with
  | done _ => exact ⟨[], rfl, .none⟩
  | route hqueue hstray _ _ ih =>
    obtain ⟨later, hlength, hroutes⟩ := ih
    exact ⟨_, by rw [List.length_cons, hlength], .next hqueue hstray hroutes⟩

/-- **Routing can be broken off and taken up again** after any number of dispatches. -/
theorem routes_append :
    Routes (all ++ more) layout final ↔ ∃ reached, Routes all layout reached ∧
      Routes more reached final := by
  induction all generalizing layout with
  | nil =>
    refine ⟨fun h => ⟨layout, .none, h⟩, ?_⟩
    rintro ⟨_, ⟨⟩, h⟩
    exact h
  | cons oldest all ih =>
    constructor
    · rintro (_ | ⟨hqueue, hstray, h⟩)
      obtain ⟨reached, hall, hmore⟩ := ih.mp h
      exact ⟨reached, .next hqueue hstray hall, hmore⟩
    · rintro ⟨reached, _ | ⟨hqueue, hstray, hall⟩, hmore⟩
      exact .next hqueue hstray (ih.mpr ⟨reached, hall, hmore⟩)

/-- The same dispatches lead to the same layout. -/
theorem Routes.unique (h : Routes all layout final) (h' : Routes all layout layout') :
    final = layout' := by
  induction h with
  | none => cases h' with | none => rfl
  | next hqueue _ _ ih =>
    cases h' with
    | next hqueue' _ hrest =>
      obtain ⟨-, rfl⟩ := List.cons.inj (hqueue.symm.trans hqueue')
      exact ih hrest

/-- **Routing without a limit comes to rest in one way only.** -/
theorem Routes.eq_of_idle (h : Routes all layout final) (hidle : final.outbox.queue = [])
    (h' : Routes more layout layout') (hidle' : layout'.outbox.queue = []) :
    all = more ∧ final = layout' := by
  induction h generalizing more with
  | none =>
    cases h' with
    | none => exact ⟨rfl, rfl⟩
    | next hqueue _ _ => rw [hidle] at hqueue; cases hqueue
  | next hqueue _ _ ih =>
    cases h' with
    | none => rw [hidle'] at hqueue; cases hqueue
    | next hqueue' _ hrest =>
      obtain ⟨rfl, rfl⟩ := List.cons.inj (hqueue.symm.trans hqueue')
      obtain ⟨rfl, rfl⟩ := ih hidle hrest
      exact ⟨rfl, rfl⟩

/-- Routing leaves the ground alone. -/
theorem Routes.ground_eq (h : Routes all layout final) : final.ground = layout.ground := by
  induction h with
  | none => rfl
  | next _ _ _ ih => exact ih.trans (ground_route _ _)

/-- Routing without a limit does not notice the limit of the settings. -/
theorem Routes.withLimit (h : Routes all layout final) (limit : Nat) :
    Routes all (layout.withLimit limit) (final.withLimit limit) := by
  induction h with
  | none => exact .none
  | @next layout final oldest rest later hqueue hstray _ ih =>
    have hunnoticed := isUnnoticed_limit limit
    have hqueue' : (layout.withLimit limit).outbox.queue = oldest :: rest := hqueue
    refine .next hqueue' ((isStray_alter layout hunnoticed oldest).trans hstray) ?_
    have hroute : ({ layout.withLimit limit with outbox := ⟨rest⟩ } : Layout).route oldest =
        ({ layout with outbox := ⟨rest⟩ }.route oldest).withLimit limit :=
      route_alter { layout with outbox := ⟨rest⟩ } hunnoticed oldest
    rw [hroute]
    exact ih

/-! ## Routing with a limit -/

/-- **A pass begins as routing without a limit does**: after some dispatches it goes on with what is
left of its limit. -/
theorem Routes.drain_add_length (h : Routes all layout reached) (left : Nat) :
    layout.drain (left + all.length) = reached.drain left := by
  induction h with
  | none => rfl
  | next hqueue hstray _ ih => exact (drain_cons hqueue hstray _).trans ih

/-- The dispatches that are routed in a pass are those that are routed without a limit. -/
theorem Routes.occasionsDrain_add_length (h : Routes all layout reached) (left : Nat) :
    (occasionsDrain (left + all.length) layout).map (·.2) =
      all ++ (occasionsDrain left reached).map (·.2) := by
  induction h with
  | none => rfl
  | @next layout final oldest rest later hqueue hstray _ ih =>
    have hpop : layout.outbox.pop? = some (oldest, ⟨rest⟩) := by rw [Outbox.pop?, hqueue]
    rw [List.length_cons, ← Nat.add_assoc, occasionsDrain, hpop]
    dsimp only
    rw [hstray, if_neg Bool.false_ne_true, List.map_cons, ih, List.cons_append]

/-- Where nothing waits nothing is routed. -/
lemma occasionsDrain_of_idle (h : layout.outbox.queue = []) (limit : Nat) :
    occasionsDrain limit layout = [] := by
  have hpop : layout.outbox.pop? = Option.none := by rw [Outbox.pop?, h]
  cases limit with
  | zero => rfl
  | succ limit => rw [occasionsDrain, hpop]

/-- What is routed in a pass is routed in the same order without a limit. -/
theorem exists_routes_occasionsDrain (limit : Nat) (layout : Layout) :
    ∃ reached, Routes ((occasionsDrain limit layout).map (·.2)) layout reached := by
  induction limit generalizing layout with
  | zero => exact ⟨layout, .none⟩
  | succ limit ih =>
    cases hqueue : layout.outbox.queue with
    | nil => exact ⟨layout, by rw [occasionsDrain_of_idle hqueue]; exact .none⟩
    | cons oldest rest =>
      have hpop : layout.outbox.pop? = some (oldest, ⟨rest⟩) := by rw [Outbox.pop?, hqueue]
      rw [occasionsDrain, hpop]
      dsimp only
      split
      · exact ⟨layout, .none⟩
      · next hstray =>
        obtain ⟨reached, h⟩ := ih ({ layout with outbox := ⟨rest⟩ }.route oldest)
        exact ⟨reached, .next hqueue (Bool.eq_false_iff.mpr hstray) h⟩

/-- If dispatches are left when the limit is reached, some are waiting. -/
lemma Routes.exists_waiting (h : Routes more reached final) (hne : more ≠ []) :
    ∃ oldest rest, reached.outbox.queue = oldest :: rest := by
  cases h with
  | none => exact absurd rfl hne
  | next hqueue _ _ => exact ⟨_, _, hqueue⟩

/-- **The limit of a pass cuts off a prefix.** Let dispatches be routed one after the other without
a limit, from any layout with anything in its outbox, until nothing waits any more or at least for
as long as the limit allows for. Then, for any limit, zero included,

* a pass with this limit routes the first of these dispatches, as many as the limit allows for. It
  leaves the layout that routing without a limit reaches with them, but for the outbox: it is empty,
  and what waits is dropped;
* if the limit is not below the number of dispatches, and nothing waits after them, the pass leaves
  the same layout as routing without a limit, and nothing is dropped;
* if the limit is below that number, something waits when it is reached, and all of that is dropped.

**Proof sketch.** Without a limit, routing can be broken off where the limit is reached. Up to there
the pass does the same, dispatch by dispatch, and then it has nothing left of its limit, unless
nothing waits. -/
theorem settle_eq_cut (h : Routes all layout final) (limit : Nat)
    (hends : limit ≤ all.length ∨ final.outbox.queue = []) :
    let pass := layout.withLimit limit
    ∃ reached, Routes (all.take limit) layout reached ∧ Routes (all.drop limit) reached final ∧
      pass.occasionsSettle.map (·.2) = all.take limit ∧
      pass.settle = reached.cut.withLimit limit ∧ pass.settle.outbox.queue = [] ∧
      pass.settle.dropped = layout.dropped ++ reached.outbox.queue ∧
      (all.length ≤ limit → final.outbox.queue = [] →
        pass.settle = final.withLimit limit ∧ pass.settle.dropped = layout.dropped) ∧
      (limit < all.length → ∃ oldest rest, reached.outbox.queue = oldest :: rest) := by
  intro pass
  obtain ⟨reached, htake, hdrop⟩ := routes_append.mp ((all.take_append_drop limit).symm ▸ h)
  have hpass := htake.withLimit limit
  have hdropped : reached.dropped = layout.dropped :=
    (congrArg Layout.dropped htake.ground_eq :)
  -- the pass goes the way up to where the limit is reached, or to where nothing waits
  have hreached : (limit = (all.take limit).length) ∨ reached.outbox.queue = [] := by
    rw [List.length_take]
    rcases hends with hle | hidle
    · exact .inl (by omega)
    · by_cases hle : limit ≤ all.length
      · exact .inl (by omega)
      · rw [List.drop_eq_nil_of_le (by omega)] at hdrop
        cases hdrop
        exact .inr hidle
  have hlength : limit = limit - (all.take limit).length + (all.take limit).length := by
    rw [List.length_take]
    omega
  have hsettle : pass.settle = reached.cut.withLimit limit := by
    rw [settle_withLimit, hlength, htake.drain_add_length, ← hlength]
    rcases hreached with hlimit | hidle
    · rw [← hlimit, Nat.sub_self]
      rfl
    · rw [drain_of_queue _ hidle, cut_of_idle hidle]
  have hoccasions : pass.occasionsSettle.map (·.2) = all.take limit := by
    show (occasionsDrain limit pass).map (·.2) = all.take limit
    rw [hlength, hpass.occasionsDrain_add_length, ← hlength]
    rcases hreached with hlimit | hidle
    · rw [← hlimit, Nat.sub_self]
      exact List.append_nil _
    · have hidle' : (reached.withLimit limit).outbox.queue = [] := hidle
      rw [occasionsDrain_of_idle hidle']
      exact List.append_nil _
  refine ⟨reached, htake, hdrop, hoccasions, hsettle, by rw [hsettle]; rfl, ?_, ?_, ?_⟩
  · rw [hsettle, ← hdropped]
    rfl
  · intro hle hidle
    rw [List.drop_eq_nil_of_le hle] at hdrop
    cases hdrop
    rw [hsettle, cut_of_idle hidle]
    exact ⟨rfl, hdropped⟩
  · intro hlt
    exact hdrop.exists_waiting (by simpa using hlt)

/-- A button submits a form and closes the layout, and submission is asked for by another dispatch
as well: the submission is reported and the layout is dismissed by the last of five dispatches, and
by none of the first two. -/
theorem settle_eq_cut_leaflet :
    let waiting : Layout := { build {} (Tree.ofSpec leaflet) with
      outbox := ⟨[.bubble 1 (.buttonSubmit 1 "close" [.dismiss]),
        .trickle 0 (.layoutSubmit none)]⟩ }
    ∃ all final reached, Routes all waiting final ∧ Routes (all.take 2) waiting reached ∧
      all.map (·.event.kind) =
        [.buttonSubmit, .layoutSubmit, .validationUpdate, .formResult, .dismiss] ∧
      (waiting.withLimit 2).settle = reached.cut.withLimit 2 ∧
      (waiting.withLimit 2).settle.dropped = reached.outbox.queue ∧
      reached.outbox.queue ≠ [] := by
  intro waiting
  obtain ⟨final, hroutes⟩ := exists_routes_occasionsDrain 5 waiting
  have hkinds : ((occasionsDrain 5 waiting).map (·.2)).map (·.event.kind) =
      [.buttonSubmit, .layoutSubmit, .validationUpdate, .formResult, .dismiss] := by
    decide +kernel
  have hlength : 2 < ((occasionsDrain 5 waiting).map (·.2)).length := by decide +kernel
  have hdropped : waiting.dropped = [] := by decide +kernel
  obtain ⟨reached, htake, -, -, hsettle, -, hcut, -, hwaiting⟩ :=
    settle_eq_cut hroutes 2 (.inl hlength.le)
  obtain ⟨oldest, rest, hqueue⟩ := hwaiting hlength
  refine ⟨_, final, reached, hroutes, htake, hkinds, hsettle, ?_, by rw [hqueue]; nofun⟩
  rw [hcut, hdropped, List.nil_append]

end FormTree.Layout

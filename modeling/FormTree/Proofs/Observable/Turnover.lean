import FormTree.Proofs.Observable.Course

set_option autoImplicit false

/-!
# Who is registered

Observers come when they are registered. They go when they leave at the end of a call, and when
their handle is cancelled or dropped; a handle is dropped when another observer takes its name, and
with the observer that owns it. An observer may have gone before, as when the handle of one that
left is cancelled.

An observer that goes while no round holds on to it is dropped while the list of observers is
locked, and then the run is blocked if it owns a handle.

## Main definitions

* `FormTree.Session.HasHandle` — there is a handle of an observer.
* `FormTree.Session.Point.added`, `FormTree.Session.Point.removed` — the observers that the next
  step registers and removes.
* `FormTree.Session.Point.addedBefore`, `FormTree.Session.Point.removedBefore` — those of all steps
  so far.
* `FormTree.Session.Turnover` — how the observers and their handles change.
* `FormTree.Session.Point.Tracked` — what holds of the handles at any point.

## Main results

* `FormTree.Session.turnover_remove` — a removal, and when it blocks the session.
* `FormTree.Session.Point.Tracked.proceeds_next` — a step registers and removes whom it is said to.
* `FormTree.Session.Point.Tracked.ids_after` — who is registered at any point of a run.
-/

namespace FormTree

variable {σ κ μ : Type}

namespace Session

/-! ## Who comes and who goes -/

/-- Whoever goes when a handle of the observer `id` is cancelled or dropped: that observer, as long
as the container is there. -/
def goes (session : Session σ κ μ) (id : Nat) : List Nat := if session.isAlive then [id] else []

/-- Whoever goes when the handle of a name is cancelled or dropped. -/
def named (session : Session σ κ μ) (name : String) : List Nat :=
  session.observers[name]?.elim [] session.goes

/-- There is a handle of the observer `id`: it has a name, or another observer owns it. -/
def HasHandle (session : Session σ κ μ) (id : Nat) : Prop :=
  (∃ name : String, session.observers[name]? = some id) ∨ ∃ owner, (owner, id) ∈ session.owned

theorem mem_goes {session : Session σ κ μ} {id other : Nat} :
    other ∈ session.goes id ↔ session.isAlive = true ∧ other = id := by
  unfold goes
  split <;> simp_all

/-- Whoever goes with a name has a handle. -/
theorem hasHandle_of_mem_named {session : Session σ κ μ} {name : String} {id : Nat}
    (h : id ∈ session.named name) : session.HasHandle id := by
  unfold named at h
  cases hname : session.observers[name]? with
  | none =>
    rw [hname] at h
    cases h
  | some other =>
    rw [hname] at h
    obtain ⟨-, rfl⟩ := mem_goes.mp h
    exact .inl ⟨name, hname⟩

end Session

/-- The numbers of the observers that an act registers. -/
def Act.added (session : Session σ κ μ) : Act σ κ → List Nat
  | .watch _ _ => [session.state.nextObserver]
  | _ => []

/-- The numbers of the observers whose handles an act cancels or drops. -/
def Act.removed (session : Session σ κ μ) : Act σ κ → List Nat
  | .watch name _ | .cancel name => session.named name
  | .recover owner id name => if session.owns owner id then session.named name else []
  | _ => []

/-- An act registers one observer at most. -/
theorem Act.added_cases (session : Session σ κ μ) (act : Act σ κ) :
    act.added session = [] ∨
      act.added session = [session.state.nextObserver] ∧
        ∃ name reaction, act = .watch name reaction := by
  cases act with
  | watch name reaction => exact .inr ⟨rfl, name, reaction, rfl⟩
  | _ => exact .inl rfl

/-- An act that removes observers is about them. -/
theorem Act.isHandling_of_mem_removed {session : Session σ κ μ} {act : Act σ κ} {id : Nat}
    (h : id ∈ act.removed session) : act.isHandling = true := by
  cases act with
  | watch _ _ | cancel _ | recover _ _ _ => rfl
  | _ => cases h

/-- An act removes an observer by its handle. -/
theorem Act.hasHandle_of_mem_removed {session : Session σ κ μ} {act : Act σ κ} {id : Nat}
    (h : id ∈ act.removed session) : session.HasHandle id := by
  cases act with
  | watch name reaction => exact Session.hasHandle_of_mem_named h
  | cancel name => exact Session.hasHandle_of_mem_named h
  | recover owner other name =>
    unfold Act.removed at h
    dsimp only at h
    split at h
    · exact Session.hasHandle_of_mem_named h
    · cases h
  | _ => cases h

namespace Session

/-- The act that a request comes down to, if it is about observers and their handles. -/
def Request.act? (session : Session σ κ μ) : Request σ κ → Option (Act σ κ)
  | .register name reaction => if session.isAlive then some (.watch name reaction) else none
  | .cancel name => some (.cancel name)
  | .entrust name owner => some (.entrust name owner)
  | .recover owner id name => some (.recover owner id name)
  | _ => none

/-- The observers that are still in the hands of a round. -/
def Stage.held : Stage σ κ μ → List Nat
  | .idle | .rounds _ => []
  | .serve round | .release _ round => round.observers.map (·.id)
  | .call observer _ round => observer.id :: round.observers.map (·.id)

/-- The handles that are being dropped. -/
def Stage.dropped : Stage σ κ μ → List Nat
  | .release handles _ => handles
  | _ => []

namespace Point

/-- The act that the next step comes down to, if it is one that is about observers and their
handles. -/
def act? (now : Point σ κ μ) : Option (Act σ κ) :=
  match now.stage with
  | .idle => now.requests.head?.bind (·.act? now.session)
  | .call _ (.act act _) _ => some act
  | _ => none

/-- The numbers of the observers that the next step registers. -/
def added (now : Point σ κ μ) : List Nat :=
  if now.session.isBlocked then [] else now.act?.elim [] (·.added now.session)

/-- The numbers of the observers that the next step removes: of one that leaves, and of those whose
handles are cancelled or dropped. -/
def removed (now : Point σ κ μ) : List Nat :=
  if now.session.isBlocked then []
  else
    match now.stage with
    | .call observer (.done true) _ => [observer.id]
    | .release (id :: _) _ => now.session.goes id
    | _ => now.act?.elim [] (·.removed now.session)

variable [DecidableEq σ]

/-- The numbers of the observers that were registered in the first steps. -/
def addedBefore (client : Client σ κ μ) (rounds : Nat) (now : Point σ κ μ) (steps : Nat) :
    List Nat :=
  (List.range steps).flatMap fun step => (now.after client rounds step).added

/-- The numbers of the observers that were removed in the first steps. -/
def removedBefore (client : Client σ κ μ) (rounds : Nat) (now : Point σ κ μ) (steps : Nat) :
    List Nat :=
  (List.range steps).flatMap fun step => (now.after client rounds step).removed

end Point

variable {session session' : Session σ κ μ} {added removed : List Nat} {id : Nat}

/-! ## Turnover -/

/-- The observers `removed` go and the observers `added` come. -/
structure Turnover (removed added : List Nat) (session session' : Session σ κ μ) : Prop where
  ids : session'.ids = session.ids.filter (· ∉ removed) ++ added
  nextObserver : session'.state.nextObserver = session.state.nextObserver + added.length
  /-- There may be a handle of an observer that is registered already. -/
  handles : ∀ id, session'.HasHandle id →
    session.HasHandle id ∨ id < session'.state.nextObserver
  /-- The session gets blocked by an observer that is dropped at once and owns a handle. -/
  isBlocked : session.isBlocked = false → (session'.isBlocked = true ↔
    ∃ id ∈ removed, id ∈ session.ids ∧ id ∉ session.held ∧ session'.handlesOf id ≠ [])

theorem Untouched.turnover (h : Untouched session session') : Turnover [] [] session session' where
  ids := by simp [Session.ids, h.registered]
  nextObserver := h.nextObserver
  handles id hhandle := .inl (by rwa [HasHandle, h.observers, h.owned] at hhandle)
  isBlocked hfree := by simp [h.isBlocked, hfree]

theorem Turnover.refl (session : Session σ κ μ) : Turnover [] [] session session :=
  (Untouched.refl session).turnover

theorem ids_unwatch_eq (session : Session σ κ μ) (id : Nat) :
    ({ session with state := session.state.unwatch id } : Session σ κ μ).ids =
      session.ids.filter (· ∉ [id]) := by
  simp [Session.ids, Observable.unwatch, List.filter_map, Function.comp_def]

theorem any_eq_true_iff (session : Session σ κ μ) (id : Nat) :
    session.state.observers.any (·.id = id) = true ↔ id ∈ session.ids := by
  simp [Session.ids]

/-- **A removal**: the observer goes, and it blocks the session if it is dropped at once and owns a
handle. -/
theorem turnover_remove (session : Session σ κ μ) (id : Nat) :
    Turnover (session.goes id) [] session (session.remove id) := by
  by_cases h : session.isAlive = true ∧ id ∈ session.ids
  · obtain ⟨halive, hmem⟩ := h
    have hgoes : session.goes id = [id] := if_pos halive
    rw [remove, halive, (any_eq_true_iff session id).mpr hmem, hgoes]
    refine ⟨(ids_unwatch_eq session id).trans (List.append_nil _).symm, rfl, fun _ => .inl,
      fun hfree => ?_⟩
    have hblocked : (session.isBlocked ||
        id ∉ session.held && session.handlesOf id ≠ []) = true ↔
        id ∉ session.held ∧ session.handlesOf id ≠ [] := by simp [hfree]
    refine hblocked.trans ⟨fun howns => ⟨id, List.mem_singleton_self id, hmem, howns⟩, ?_⟩
    rintro ⟨other, hother, -, howns⟩
    obtain rfl := List.mem_singleton.mp hother
    exact howns
  · have hsame : session.remove id = session := by
      refine if_neg fun hcond => h ?_
      obtain ⟨halive, hany⟩ := Bool.and_eq_true_iff.mp hcond
      exact ⟨halive, (any_eq_true_iff session id).mp hany⟩
    have hnone : ∀ other ∈ session.goes id, other ∉ session.ids := by
      intro other hother hmem
      obtain ⟨halive, rfl⟩ := mem_goes.mp hother
      exact h ⟨halive, hmem⟩
    rw [hsame]
    refine ⟨?_, rfl, fun _ => .inl, fun hfree => ?_⟩
    · rw [List.append_nil, eq_comm, List.filter_eq_self]
      exact fun other hmem => decide_eq_true fun hother => hnone other hother hmem
    · rw [hfree]
      exact ⟨nofun, fun ⟨other, hother, hmem, _⟩ => absurd hmem (hnone other hother)⟩

/-- A handle that is left when one is gone, was there before. -/
theorem HasHandle.of_erase {name : String}
    (h : HasHandle { session with observers := session.observers.erase name } id) :
    session.HasHandle id := by
  refine h.imp_left fun ⟨other, hother⟩ => ⟨other, ?_⟩
  rw [Std.ExtTreeMap.getElem?_erase] at hother
  split at hother
  · cases hother
  · exact hother

theorem turnover_cancel (session : Session σ κ μ) (name : String) :
    Turnover (session.named name) [] session (session.cancel name) := by
  unfold Session.cancel named
  cases hname : session.observers[name]? with
  | none => exact .refl session
  | some id =>
    obtain ⟨hids, hnext, hhandles, hblocked⟩ :=
      turnover_remove { session with observers := session.observers.erase name } id
    exact ⟨hids, hnext, fun other hother => (hhandles other hother).imp_left .of_erase, hblocked⟩

/-- A handle that is there when one is put under a name, is that one or was there before. -/
theorem HasHandle.of_insert {name : String} {other : Nat}
    (h : ({ session with observers := session.observers.insert name other } :
      Session σ κ μ).HasHandle id) : id = other ∨ session.HasHandle id := by
  rcases h with ⟨name', hname⟩ | howned
  · rw [Std.ExtTreeMap.getElem?_insert] at hname
    split at hname
    · exact .inl (Option.some.inj hname).symm
    · exact .inr (.inl ⟨name', hname⟩)
  · exact .inr (.inr howned)

/-- A new observer comes, and the older one of its name goes. -/
theorem turnover_watch (session : Session σ κ μ) (name : String) (reaction : κ)
    (h : ∀ id, session.HasHandle id → id < session.state.nextObserver) :
    Turnover (session.named name) [session.state.nextObserver] session
      (session.watch name reaction) := by
  have hlt : ∀ id ∈ session.named name, id < session.state.nextObserver :=
    fun id hid => h id (hasHandle_of_mem_named hid)
  have hnew : session.state.nextObserver ∉ session.named name :=
    fun hmem => Nat.lt_irrefl _ (hlt _ hmem)
  have hregistered := ids_register session reaction
  obtain ⟨hids, hnext, hhandles, hblocked⟩ := turnover_cancel
    ({ session with state := session.state.watch reaction }.note
      (.registered session.state.nextObserver)) name
  refine ⟨hids.trans ?_, hnext, fun other hother => ?_, fun hfree => (hblocked hfree).trans ?_⟩
  · rw [hregistered, List.filter_append]
    have hstays : [session.state.nextObserver].filter (· ∉ session.named name) =
        [session.state.nextObserver] := by simp [hnew]
    exact (List.append_nil _).trans (congrArg (_ ++ ·) hstays)
  · rcases hother.of_insert with rfl | hother
    · exact .inr (Nat.lt_of_lt_of_eq (Nat.lt_succ_self _) hnext.symm)
    · exact hhandles other hother
  · refine exists_congr fun other => and_congr_right fun hother => and_congr_left' ?_
    rw [hregistered, List.mem_append, List.mem_singleton]
    exact or_iff_left (Nat.ne_of_lt (hlt other hother))

/-- A handle goes from a name to an observer. -/
theorem turnover_entrust (session : Session σ κ μ) (name : String) (owner : Nat) :
    Turnover [] [] session (session.entrust name owner) := by
  unfold entrust
  split
  · exact .refl session
  · next id hname =>
    split
    · refine ⟨by simp [Session.ids], rfl, fun other hother => .inl ?_, fun hfree => by simp [hfree]⟩
      rcases hother with hother | ⟨owner', howned⟩
      · exact HasHandle.of_erase (.inl hother)
      · rcases List.mem_append.mp howned with howned | hnew
        · exact .inr ⟨owner', howned⟩
        · obtain ⟨-, rfl⟩ := Prod.mk.inj (List.mem_singleton.mp hnew)
          exact .inl ⟨name, hname⟩
    · exact .refl session

/-- A handle comes back from the observer that owns it, and the older observer of its new name
goes. -/
theorem turnover_recover (session : Session σ κ μ) (owner id : Nat) (name : String) :
    Turnover ((.recover owner id name : Act σ κ).removed session) [] session
      (session.recover owner id name) := by
  unfold recover Act.removed
  dsimp only
  split
  · next h =>
    have howned : (owner, id) ∈ session.owned := by simpa using (Bool.and_eq_true_iff.mp h).2
    obtain ⟨hids, hnext, hhandles, hblocked⟩ :=
      turnover_cancel { session with owned := session.owned.erase (owner, id) } name
    refine ⟨hids, hnext, fun other hother => ?_, hblocked⟩
    rcases hother.of_insert with rfl | hother
    · exact .inl (.inr ⟨owner, howned⟩)
    · refine (hhandles other hother).imp_left (Or.imp_right ?_)
      exact fun ⟨owner', hmem⟩ => ⟨owner', List.mem_of_mem_erase hmem⟩
  · exact .refl session

/-- What a round lets go of may take its handles with it. -/
theorem turnover_unhold (session : Session σ κ μ) (observer : Nat) (others : List Nat) :
    Turnover [] [] session (session.unhold observer others).1 := by
  unfold unhold
  split
  · exact ⟨by simp [Session.ids], rfl, fun _ => .inl, fun hfree => by simp [hfree]⟩
  · refine ⟨by simp [Session.ids], rfl, fun id hid => .inl (hid.imp_right ?_),
      fun hfree => by simp [hfree]⟩
    exact Exists.imp fun owner => List.mem_of_mem_filter

/-- The handles that a round drops with an observer were there. -/
theorem hasHandle_of_mem_unhold {observer : Nat} {others : List Nat}
    (h : id ∈ (session.unhold observer others).2) : session.HasHandle id := by
  unfold unhold at h
  split at h
  · cases h
  · obtain ⟨⟨owner, other⟩, howned, rfl⟩ := List.mem_map.mp h
    exact .inr ⟨owner, List.mem_of_mem_filter howned⟩

/-! ## Whom a round holds on to -/

@[simp] theorem held_remove (session : Session σ κ μ) (id : Nat) :
    (session.remove id).held = session.held := by
  unfold remove
  split <;> rfl

@[simp] theorem held_cancel (session : Session σ κ μ) (name : String) :
    (session.cancel name).held = session.held := by
  unfold Session.cancel
  split
  · rfl
  · exact held_remove _ _

@[simp] theorem held_watch (session : Session σ κ μ) (name : String) (reaction : κ) :
    (session.watch name reaction).held = session.held :=
  held_cancel _ name

@[simp] theorem held_entrust (session : Session σ κ μ) (name : String) (owner : Nat) :
    (session.entrust name owner).held = session.held := by
  unfold entrust
  split
  · rfl
  · split <;> rfl

@[simp] theorem held_recover (session : Session σ κ μ) (owner id : Nat) (name : String) :
    (session.recover owner id name).held = session.held := by
  unfold recover
  split
  · exact held_cancel _ name
  · rfl

@[simp] theorem held_unhold (session : Session σ κ μ) (observer : Nat) (others : List Nat) :
    (session.unhold observer others).1.held = others := by
  unfold unhold
  split <;> rfl

section Updates

variable [DecidableEq σ]

/-- A request about observers does what the act does. -/
theorem perform_of_act? {request : Request σ κ} {act : Act σ κ}
    (h : request.act? session = some act) (client : Client σ κ μ) (rounds : Nat)
    (flush : Session σ κ μ → Session σ κ μ × Bool) :
    (session.perform client rounds request).1 = (session.act flush act).1 := by
  cases request with
  | register name reaction =>
    obtain ⟨halive, rfl⟩ : session.isAlive = true ∧ .watch name reaction = act := by
      simpa [Request.act?] using h
    simp [perform, Session.register, halive, Session.act, going]
  | cancel _ | entrust _ _ | recover _ _ _ =>
    obtain rfl := Option.some.inj h
    rfl
  | _ => cases h

/-- Any other request that starts no delivery leaves observers and handles alone. -/
theorem untouched_perform (client : Client σ κ μ) (rounds : Nat) {request : Request σ κ}
    (hstarts : request.starts? session = none) (h : request.act? session = none) :
    Untouched session (session.perform client rounds request).1 := by
  cases request with
  | update change =>
    change Untouched session (session.update client rounds change).1
    rcases update_of_starts? client rounds hstarts with hsame | ⟨next, -, -, hcommit⟩
    · rw [hsame]
      exact .refl session
    · rw [hcommit]
      exact untouched_commit session next
  | register name reaction =>
    have hdead : ¬session.isAlive = true := by simpa [Request.act?] using h
    change Untouched session (session.register name reaction).1
    rw [Session.register, if_neg hdead]
    exact .refl session
  | observe name =>
    unfold Session.perform Session.observe
    dsimp only
    split
    · exact untouched_subscribe session name
    · exact .refl session
  | unsubscribe name => exact untouched_unsubscribe session name
  | take name => exact untouched_take? session name
  | drain name => exact untouched_drain session name
  | poll name =>
    change Untouched session (session.poll name).1
    rw [poll_fst]
    exact untouched_take? session name
  | addOwner => exact untouched_addOwner session
  | dropOwner => exact ⟨rfl, rfl, rfl, rfl, rfl, rfl⟩
  | _ => cases h

/-- A request that is about observers starts no delivery. -/
theorem starts?_of_act? {request : Request σ κ} {act : Act σ κ}
    (h : request.act? session = some act) : request.starts? session = none := by
  cases request with
  | update change => cases h
  | _ => rfl

/-- **What is about observers** registers and removes whom it is said to. -/
theorem turnover_handling {act : Act σ κ} (hhandling : act.isHandling = true)
    (h : ∀ id, session.HasHandle id → id < session.state.nextObserver) :
    Turnover (act.removed session) (act.added session) session
      (session.act (fun session => (session, true)) act).1 := by
  cases act with
  | watch name reaction => exact turnover_watch session name reaction h
  | cancel name => exact turnover_cancel session name
  | entrust name owner => exact turnover_entrust session name owner
  | recover owner id name => exact turnover_recover session owner id name
  | _ => cases hhandling

/-- **What an observer does** registers and removes whom it is said to. -/
theorem turnover_act (hdelivering : session.state.isDelivering = true)
    (h : ∀ id, session.HasHandle id → id < session.state.nextObserver) (act : Act σ κ) :
    Turnover (act.removed session) (act.added session) session
      (session.act (fun session => (session, true)) act).1 := by
  cases hhandling : act.isHandling with
  | false =>
    have untouched := untouched_act (fun _ _ => rfl) hdelivering hhandling
    cases act with
    | watch _ _ | cancel _ | entrust _ _ | recover _ _ _ => cases hhandling
    | _ => exact untouched.turnover
  | true => exact turnover_handling hhandling h

/-- What is about observers does not change whom a round holds on to. -/
theorem held_handling {act : Act σ κ} (hhandling : act.isHandling = true) :
    (session.act (fun session => (session, true)) act).1.held = session.held := by
  cases act with
  | watch name reaction => exact held_watch session name reaction
  | cancel name => exact held_cancel session name
  | entrust name owner => exact held_entrust session name owner
  | recover owner id name => exact held_recover session owner id name
  | _ => cases hhandling

/-- Nothing that an observer does changes whom the round holds on to. -/
theorem held_act (hdelivering : session.state.isDelivering = true) (act : Act σ κ) :
    (session.act (fun session => (session, true)) act).1.held = session.held := by
  cases hhandling : act.isHandling with
  | false => exact (untouched_act (fun _ _ => rfl) hdelivering hhandling).held
  | true => exact held_handling hhandling

omit [DecidableEq σ] in
/-- The act of a request is about observers and their handles. -/
theorem isHandling_of_act? {request : Request σ κ} {act : Act σ κ}
    (h : request.act? session = some act) : act.isHandling = true := by
  cases request with
  | register name reaction =>
    obtain ⟨-, rfl⟩ : session.isAlive = true ∧ .watch name reaction = act := by
      simpa [Request.act?] using h
    rfl
  | cancel _ | entrust _ _ | recover _ _ _ =>
    obtain rfl := Option.some.inj h
    rfl
  | _ => cases h

/-- **A request that starts no delivery** registers and removes whom it is said to. -/
theorem turnover_perform (client : Client σ κ μ) (rounds : Nat) {request : Request σ κ}
    (hstarts : request.starts? session = none)
    (h : ∀ id, session.HasHandle id → id < session.state.nextObserver) :
    Turnover ((request.act? session).elim [] (·.removed session))
      ((request.act? session).elim [] (·.added session)) session
      (session.perform client rounds request).1 := by
  cases hact : request.act? session with
  | none => exact (untouched_perform client rounds hstarts hact).turnover
  | some act =>
    rw [perform_of_act? hact client rounds fun session => (session, true)]
    exact turnover_handling (isHandling_of_act? hact) h

/-- A request that starts no delivery does not change whom a round holds on to. -/
theorem held_perform (client : Client σ κ μ) (rounds : Nat) {request : Request σ κ}
    (hstarts : request.starts? session = none) :
    (session.perform client rounds request).1.held = session.held := by
  cases hact : request.act? session with
  | none => exact (untouched_perform client rounds hstarts hact).held
  | some act =>
    rw [perform_of_act? hact client rounds fun session => (session, true)]
    exact held_handling (isHandling_of_act? hact)

/-! ## Points -/

namespace Point

variable {now : Point σ κ μ}

omit [DecidableEq σ] in
theorem held_letGo (now : Point σ κ μ) (observer : Observer κ) (round : Round σ κ) :
    (now.letGo observer round).session.held = (now.letGo observer round).stage.held :=
  held_unhold _ _ _

omit [DecidableEq σ] in
theorem hasHandle_of_mem_letGo {observer : Observer κ} {round : Round σ κ}
    (h : id ∈ (now.letGo observer round).stage.dropped) : now.session.HasHandle id :=
  hasHandle_of_mem_unhold h

/-- What holds at any point: every handle is one of an observer that was registered, and a round
holds on to those whom it has still to serve. -/
structure Tracked (now : Point σ κ μ) : Prop extends now.Sound where
  handles : ∀ id, now.session.HasHandle id → id < now.session.state.nextObserver
  dropped : ∀ id ∈ now.stage.dropped, id < now.session.state.nextObserver
  held : now.session.held = now.stage.held

omit [DecidableEq σ] in
theorem tracked_start (value : σ) (memory : μ) (requests : List (Request σ κ)) :
    (start value memory requests).Tracked := by
  refine ⟨sound_start value memory requests, fun id h => ?_, nofun, rfl⟩
  simp [HasHandle, start, Moment.start, Session.start] at h

/-- What a step comes to: who comes and goes, whose handles are dropped next, and whom a round holds
on to. -/
structure Proceeds (now later : Point σ κ μ) : Prop where
  turnover : Turnover now.removed now.added now.session later.session
  dropped : ∀ id ∈ later.stage.dropped, now.session.HasHandle id ∨ id ∈ now.stage.dropped
  held : later.session.held = later.stage.held

/-- The next step neither registers nor removes anyone. -/
structure Idles (now : Point σ κ μ) : Prop where
  removed : now.removed = []
  added : now.added = []

omit [DecidableEq σ] in
/-- Where no one comes or goes, a step leaves everyone where they are. -/
theorem Idles.proceeds {later : Point σ κ μ} (h : now.Idles)
    (untouched : Untouched now.session later.session) (hdropped : later.stage.dropped = [])
    (hheld : later.session.held = later.stage.held) : Proceeds now later where
  turnover := by
    rw [h.removed, h.added]
    exact untouched.turnover
  dropped := by
    rw [hdropped]
    exact List.forall_mem_nil _
  held := hheld

omit [DecidableEq σ] in
/-- Where no one comes or goes, a step that lets go of an observer drops its handles next. -/
theorem Idles.proceeds_letGo {middle : Point σ κ μ} (h : now.Idles)
    (untouched : Untouched now.session middle.session) (observer : Observer κ)
    (round : Round σ κ) : Proceeds now (middle.letGo observer round) := by
  have turnover : Turnover [] [] middle.session (middle.letGo observer round).session :=
    turnover_unhold _ _ _
  have hhandle : ∀ id, middle.session.HasHandle id → now.session.HasHandle id := fun id h => by
    rwa [HasHandle, untouched.observers, untouched.owned] at h
  refine ⟨?_, fun id hid => .inl (hhandle id (hasHandle_of_mem_letGo hid)), held_letGo _ _ _⟩
  rw [h.removed, h.added]
  refine ⟨?_, turnover.nextObserver.trans untouched.nextObserver,
    fun id hid => (turnover.handles id hid).imp_left (hhandle id), fun hfree => ?_⟩
  · rw [turnover.ids, Session.ids, untouched.registered, Session.ids]
  · refine (turnover.isBlocked (untouched.isBlocked.trans hfree)).trans ?_
    simp

/-- A request registers and removes whom it is said to. -/
theorem Tracked.proceeds_ask (h : now.Tracked) (hfree : now.session.isBlocked = false)
    (hstage : now.stage = .idle) {request : Request σ κ} {rest : List (Request σ κ)}
    (hrequests : now.requests = request :: rest) (client : Client σ κ μ) (rounds : Nat) :
    Proceeds now (now.ask client rounds request rest) := by
  have hheld : now.session.held = [] := by rw [h.held, hstage]; rfl
  have hremoved : now.removed = (request.act? now.session).elim [] (·.removed now.session) := by
    simp [removed, act?, hfree, hstage, hrequests]
  have hadded : now.added = (request.act? now.session).elim [] (·.added now.session) := by
    simp [added, act?, hfree, hstage, hrequests]
  unfold Point.ask
  cases hstarts : request.starts? now.session with
  | none =>
    refine ⟨?_, ?_, ?_⟩
    · rw [hremoved, hadded]
      exact turnover_perform client rounds hstarts h.handles
    · simp [hstage, Stage.dropped]
    · exact (held_perform client rounds hstarts).trans (hheld.trans (by rw [hstage]; rfl))
  | some next =>
    have hnone : request.act? now.session = none := by
      cases request with
      | update change => rfl
      | _ => cases hstarts
    rw [hnone] at hremoved hadded
    have untouched := untouched_commit now.session next
    exact Idles.proceeds ⟨hremoved, hadded⟩
      ⟨untouched.registered, untouched.nextObserver, rfl, rfl, rfl, rfl⟩ rfl hheld

omit [DecidableEq σ] in
/-- A round begins, or the delivery ends. -/
theorem Tracked.proceeds_begin (h : now.Tracked) (hfree : now.session.isBlocked = false)
    {left : Nat} (hstage : now.stage = .rounds (left + 1)) : Proceeds now (now.begin left) := by
  have hheld : now.session.held = [] := by rw [h.held, hstage]; rfl
  have idles : now.Idles :=
    ⟨by simp [removed, act?, hfree, hstage], by simp [added, act?, hfree, hstage]⟩
  unfold Point.begin
  split
  · exact idles.proceeds ⟨rfl, rfl, rfl, rfl, rfl, rfl⟩ rfl hheld
  · refine ⟨?_, List.forall_mem_nil _, rfl⟩
    rw [idles.removed, idles.added]
    exact ⟨by simp [Session.ids, place, Place.pop, Place.modify], rfl, fun _ => .inl,
      fun _ => by simp [place, Place.pop, Place.modify, hfree]⟩

omit [DecidableEq σ] in
/-- The next observer of a round is called, or it is gone. -/
theorem Tracked.proceeds_serve (h : now.Tracked) (hfree : now.session.isBlocked = false)
    {round : Round σ κ} (hstage : now.stage = .serve round) (client : Client σ κ μ) :
    Proceeds now (now.serve client round) := by
  have hheld : now.session.held = round.observers.map (·.id) := by rw [h.held, hstage]; rfl
  have idles : now.Idles :=
    ⟨by simp [removed, act?, hfree, hstage], by simp [added, act?, hfree, hstage]⟩
  unfold Point.serve
  split
  · next hnone =>
    refine idles.proceeds (.refl _) ?_ ?_
    · split <;> rfl
    · rw [hheld, hnone]
      split <;> rfl
  · next observer others hsome =>
    dsimp only
    split
    · exact idles.proceeds_letGo (.refl _) observer _
    · split
      · exact idles.proceeds (untouched_note _ _) rfl (hheld.trans (by rw [hsome]; rfl))
      · refine idles.proceeds_letGo ?_ observer _
        exact .refl now.session

/-- An observer leaves at the end of its call. It is not dropped before the list is unlocked, as the
round still holds on to it. -/
theorem Tracked.proceeds_leave (h : now.Tracked) (hfree : now.session.isBlocked = false)
    {observer : Observer κ} {round : Round σ κ}
    (hstage : now.stage = .call observer (.done true) round) :
    Proceeds now (now.work observer round (.done true)) := by
  have hheld : now.session.held = observer.id :: round.observers.map (·.id) := by
    rw [h.held, hstage]
    rfl
  have hremoved : now.removed = [observer.id] := by simp [removed, hfree, hstage]
  have hadded : now.added = [] := by simp [added, act?, hfree, hstage]
  have turnover : Turnover [] [] (place.modify (now.session.note (.returned observer.id))
      (·.unwatch observer.id)) (now.work observer round (.done true)).session :=
    turnover_unhold _ _ _
  have hdropped : ∀ id ∈ (now.work observer round (.done true)).stage.dropped,
      now.session.HasHandle id := by
    intro id hid
    have hhandle := hasHandle_of_mem_letGo hid
    exact hhandle
  refine ⟨?_, fun id hid => .inl (hdropped id hid), held_letGo _ _ _⟩
  rw [hremoved, hadded]
  refine ⟨?_, turnover.nextObserver, turnover.handles, fun _ => ?_⟩
  · rw [← ids_unwatch_eq]
    exact turnover.ids.trans (by simp [Session.ids, place, Place.modify])
  · refine (turnover.isBlocked hfree).trans ?_
    simp [hheld]

/-- An observer does something, or its call is over. -/
theorem Tracked.proceeds_work (h : now.Tracked) (hfree : now.session.isBlocked = false)
    {observer : Observer κ} {script : Script σ κ μ} {round : Round σ κ}
    (hstage : now.stage = .call observer script round) :
    Proceeds now (now.work observer round script) := by
  have hheld : now.session.held = observer.id :: round.observers.map (·.id) := by
    rw [h.held, hstage]
    rfl
  cases script with
  | done leaves =>
    cases leaves with
    | false =>
      have idles : now.Idles :=
        ⟨by simp [removed, act?, hfree, hstage], by simp [added, act?, hfree, hstage]⟩
      exact idles.proceeds_letGo (untouched_note _ _) observer round
    | true => exact h.proceeds_leave hfree hstage
  | act act next =>
    have hdelivering : now.session.state.isDelivering = true := by
      have hfits := h.stage
      rw [hstage] at hfits
      exact hfits.1
    have turnover := turnover_act hdelivering h.handles act
    have hkept := held_act hdelivering act
    have hremoved : now.removed = act.removed now.session := by
      simp [removed, act?, hfree, hstage]
    have hadded : now.added = act.added now.session := by simp [added, act?, hfree, hstage]
    rw [← hremoved, ← hadded] at turnover
    unfold Point.work
    dsimp only
    split <;> next hact =>
      rw [hact] at turnover hkept
      exact ⟨turnover, List.forall_mem_nil _, hkept.trans hheld⟩
  | look next =>
    have idles : now.Idles :=
      ⟨by simp [removed, act?, hfree, hstage], by simp [added, act?, hfree, hstage]⟩
    exact idles.proceeds (.refl _) rfl hheld
  | remember memory next =>
    have idles : now.Idles :=
      ⟨by simp [removed, act?, hfree, hstage], by simp [added, act?, hfree, hstage]⟩
    exact idles.proceeds ⟨rfl, rfl, rfl, rfl, rfl, rfl⟩ rfl hheld

/-- The next handle is dropped, or the round goes on. -/
theorem Tracked.proceeds_release (h : now.Tracked) (hfree : now.session.isBlocked = false)
    {handles : List Nat} {round : Round σ κ} (hstage : now.stage = .release handles round)
    (client : Client σ κ μ) (rounds : Nat) : Proceeds now (now.next client rounds) := by
  have hheld : now.session.held = round.observers.map (·.id) := by rw [h.held, hstage]; rfl
  have hadded : now.added = [] := by simp [added, act?, hfree, hstage]
  cases handles with
  | nil =>
    have hremoved : now.removed = [] := by simp [removed, act?, hfree, hstage]
    rw [next_of_resume client rounds hfree hstage]
    exact Idles.proceeds ⟨hremoved, hadded⟩ (.refl _) rfl hheld
  | cons id rest =>
    have hremoved : now.removed = now.session.goes id := by simp [removed, hfree, hstage]
    rw [next_of_release client rounds hfree hstage]
    refine ⟨?_, fun other hother => .inr ?_, (held_remove _ _).trans hheld⟩
    · rw [hremoved, hadded]
      exact turnover_remove now.session id
    · rw [hstage]
      exact List.mem_cons_of_mem _ hother

/-- **What a step comes to.** -/
theorem Tracked.proceeds_next (h : now.Tracked) (client : Client σ κ μ) (rounds : Nat) :
    Proceeds now (now.next client rounds) := by
  have hsame : now.Idles → Proceeds now now := fun idles =>
    ⟨by rw [idles.removed, idles.added]; exact .refl _, fun _ => .inr, h.held⟩
  cases hfree : now.session.isBlocked with
  | true =>
    rw [next_of_isBlocked client rounds hfree]
    exact hsame ⟨if_pos hfree, if_pos hfree⟩
  | false =>
    cases hstage : now.stage with
    | idle =>
      cases hrequests : now.requests with
      | nil =>
        rw [next_of_end client rounds hstage hrequests]
        exact hsame ⟨by simp [removed, act?, hfree, hstage, hrequests],
          by simp [added, act?, hfree, hstage, hrequests]⟩
      | cons request rest =>
        rw [next_of_ask client rounds hfree hstage hrequests]
        exact h.proceeds_ask hfree hstage hrequests client rounds
    | rounds left =>
      cases left with
      | zero =>
        rw [next_of_stop client rounds hfree hstage]
        have idles : now.Idles :=
          ⟨by simp [removed, act?, hfree, hstage], by simp [added, act?, hfree, hstage]⟩
        exact idles.proceeds (.refl _) rfl (h.held.trans (by rw [hstage]; rfl))
      | succ left =>
        rw [next_of_begin client rounds hfree hstage]
        exact h.proceeds_begin hfree hstage
    | serve round =>
      rw [next_of_serve client rounds hfree hstage]
      exact h.proceeds_serve hfree hstage client
    | call observer script round =>
      rw [next_of_call client rounds hfree hstage]
      exact h.proceeds_work hfree hstage
    | release handles round => exact h.proceeds_release hfree hstage client rounds

/-- **A step registers and removes whom it is said to.** -/
theorem Tracked.turnover_next (h : now.Tracked) (client : Client σ κ μ) (rounds : Nat) :
    Turnover now.removed now.added now.session (now.next client rounds).session :=
  (h.proceeds_next client rounds).turnover

theorem Tracked.next (h : now.Tracked) (client : Client σ κ μ) (rounds : Nat) :
    (now.next client rounds).Tracked := by
  obtain ⟨turnover, hdropped, hheld⟩ := h.proceeds_next client rounds
  have hle : ∀ {id}, id < now.session.state.nextObserver →
      id < (now.next client rounds).session.state.nextObserver := fun hlt =>
    Nat.lt_of_lt_of_le hlt (turnover.nextObserver ▸ Nat.le_add_right _ _)
  refine ⟨h.toSound.next client rounds, fun id hid => ?_, fun id hid => ?_, hheld⟩
  · exact (turnover.handles id hid).elim (fun hhandle => hle (h.handles id hhandle)) fun hlt => hlt
  · exact (hdropped id hid).elim (fun hhandle => hle (h.handles id hhandle))
      fun hmem => hle (h.dropped id hmem)

/-- What holds at any point holds throughout a run. -/
theorem Tracked.after (h : now.Tracked) (client : Client σ κ μ) (rounds steps : Nat) :
    (now.after client rounds steps).Tracked := by
  induction steps with
  | zero => exact h
  | succ steps ih =>
    rw [after_succ]
    exact ih.next client rounds

/-- A step that comes down to an act about observers does nothing else. -/
theorem next_of_act? {act : Act σ κ} (hfree : now.session.isBlocked = false)
    (hact : now.act? = some act) (hhandling : act.isHandling = true) (client : Client σ κ μ)
    (rounds : Nat) : (now.next client rounds).toMoment =
      { now.toMoment with
        session := (now.session.act (fun session => (session, true)) act).1 } := by
  unfold act? at hact
  split at hact
  · next hstage =>
    cases hrequests : now.requests with
    | nil =>
      rw [hrequests] at hact
      cases hact
    | cons request rest =>
      rw [hrequests] at hact
      have hact : request.act? now.session = some act := hact
      rw [next_of_ask client rounds hfree hstage hrequests, ask, starts?_of_act? hact]
      rw [← perform_of_act? hact client rounds]
  · next observer act' next round hstage =>
    obtain rfl := Option.some.inj hact
    rw [next_of_call client rounds hfree hstage]
    unfold work
    dsimp only
    split
    · next heq => rw [heq]
    · next heq =>
      rw [heq]
      rfl
  · cases hact

/-- **A step registers one observer at most**, under some name. -/
theorem added_cases (client : Client σ κ μ) (rounds : Nat) (now : Point σ κ μ) :
    now.added = [] ∨
      now.added = [now.session.state.nextObserver] ∧
        ∃ name reaction, (now.next client rounds).toMoment =
          { now.toMoment with session := now.session.watch name reaction } := by
  unfold added
  split
  · exact .inl rfl
  · next hnot =>
    cases hact : now.act? with
    | none => exact .inl rfl
    | some act =>
      refine (act.added_cases now.session).imp_right ?_
      rintro ⟨hadded, name, reaction, rfl⟩
      exact ⟨hadded, name, reaction,
        next_of_act? (Bool.eq_false_iff.mpr hnot) hact rfl client rounds⟩

theorem next_of_mem_added (hmem : id ∈ now.added) (client : Client σ κ μ) (rounds : Nat) :
    id = now.session.state.nextObserver ∧ ∃ name reaction, (now.next client rounds).toMoment =
      { now.toMoment with session := now.session.watch name reaction } := by
  rcases now.added_cases client rounds with hnone | ⟨hadded, hnext⟩
  · rw [hnone] at hmem
    cases hmem
  · exact ⟨List.mem_singleton.mp (hadded ▸ hmem), hnext⟩

omit [DecidableEq σ] in
/-- **A step that removes an observer**: the observer leaves at the end of its call, or the round
drops a handle of it, or an act cancels or drops one. -/
theorem mem_removed_cases (hmem : id ∈ now.removed) :
    now.session.isBlocked = false ∧
      ((∃ observer round, now.stage = .call observer (.done true) round ∧ observer.id = id) ∨
        (∃ rest round, now.stage = .release (id :: rest) round) ∨
        ∃ act, now.act? = some act ∧ id ∈ act.removed now.session) := by
  unfold removed at hmem
  split at hmem
  · cases hmem
  · next hnot =>
    refine ⟨Bool.eq_false_iff.mpr hnot, ?_⟩
    split at hmem
    · next observer round hstage =>
      exact .inl ⟨observer, round, hstage, (List.mem_singleton.mp hmem).symm⟩
    · next other rest round hstage =>
      obtain ⟨-, rfl⟩ := mem_goes.mp hmem
      exact .inr (.inl ⟨rest, round, hstage⟩)
    · cases hact : now.act? with
      | none =>
        rw [hact] at hmem
        cases hmem
      | some act =>
        rw [hact] at hmem
        exact .inr (.inr ⟨act, rfl, hmem⟩)

omit [DecidableEq σ] in
/-- Whoever is removed was registered before. -/
theorem Tracked.lt_of_mem_removed (h : now.Tracked) (hmem : id ∈ now.removed) :
    id < now.session.state.nextObserver := by
  obtain ⟨-, ⟨observer, round, hstage, rfl⟩ | ⟨rest, round, hstage⟩ | ⟨act, -, hact⟩⟩ :=
    mem_removed_cases hmem
  · have hfits := h.stage
    rw [hstage] at hfits
    exact hfits.2.2.1
  · refine h.dropped id ?_
    rw [hstage]
    exact List.mem_cons_self
  · exact h.handles id (Act.hasHandle_of_mem_removed hact)

/-- Numbers are never given back. -/
theorem Tracked.nextObserver_mono (h : now.Tracked) (client : Client σ κ μ) (rounds : Nat)
    {first last : Nat} (hle : first ≤ last) :
    (now.after client rounds first).session.state.nextObserver ≤
      (now.after client rounds last).session.state.nextObserver := by
  induction last, hle using Nat.le_induction with
  | base => exact Nat.le_refl _
  | succ last _ ih =>
    rw [after_succ, ((h.after client rounds last).turnover_next client rounds).nextObserver]
    exact ih.trans (Nat.le_add_right _ _)

theorem Tracked.lt_of_mem_removedBefore (h : now.Tracked) {client : Client σ κ μ} {rounds : Nat}
    {steps : Nat} (hmem : id ∈ now.removedBefore client rounds steps) :
    id < (now.after client rounds steps).session.state.nextObserver := by
  obtain ⟨step, hstep, hremoved⟩ := List.mem_flatMap.mp hmem
  exact Nat.lt_of_lt_of_le ((h.after client rounds step).lt_of_mem_removed hremoved)
    (h.nextObserver_mono client rounds (List.mem_range.mp hstep).le)

theorem addedBefore_succ (client : Client σ κ μ) (rounds : Nat) (now : Point σ κ μ)
    (steps : Nat) : now.addedBefore client rounds (steps + 1) =
      now.addedBefore client rounds steps ++ (now.after client rounds steps).added := by
  simp [addedBefore, List.range_succ]

theorem removedBefore_succ (client : Client σ κ μ) (rounds : Nat) (now : Point σ κ μ)
    (steps : Nat) : now.removedBefore client rounds (steps + 1) =
      now.removedBefore client rounds steps ++ (now.after client rounds steps).removed := by
  simp [removedBefore, List.range_succ]

/-- Observers are numbered in the order of their registration. -/
theorem Tracked.addedBefore_eq (h : now.Tracked) (hfirst : now.session.state.nextObserver = 0)
    (client : Client σ κ μ) (rounds steps : Nat) :
    now.addedBefore client rounds steps =
      List.range (now.after client rounds steps).session.state.nextObserver := by
  induction steps with
  | zero =>
    change [] = List.range now.session.state.nextObserver
    rw [hfirst]
    rfl
  | succ steps ih =>
    have hnext := ((h.after client rounds steps).turnover_next client rounds).nextObserver
    rw [after_succ, hnext, addedBefore_succ, ih]
    rcases (now.after client rounds steps).added_cases client rounds with hnone | ⟨hadded, -⟩
    · rw [hnone]
      simp
    · rw [hadded, List.length_singleton, List.range_succ]

/-- **Who is registered**: all that were registered so far and were not removed, in the order of
their registration.

**Proof sketch.** By induction on the steps. Those who come in a step have new numbers, so that they
are not among those who go, now or earlier. -/
theorem Tracked.ids_after (h : now.Tracked) (hnone : now.session.ids = []) (client : Client σ κ μ)
    (rounds steps : Nat) :
    (now.after client rounds steps).session.ids =
      (now.addedBefore client rounds steps).filter
        (· ∉ now.removedBefore client rounds steps) := by
  induction steps with
  | zero => exact hnone
  | succ steps ih =>
    have htracked := h.after client rounds steps
    have hnew : (now.after client rounds steps).added.filter
        (· ∉ now.removedBefore client rounds (steps + 1)) =
        (now.after client rounds steps).added := by
      refine List.filter_eq_self.mpr fun id hid => decide_eq_true fun hmem => ?_
      have heq := (next_of_mem_added hid client rounds).1
      rw [removedBefore_succ] at hmem
      rcases List.mem_append.mp hmem with hmem | hmem
      · exact Nat.ne_of_lt (h.lt_of_mem_removedBefore hmem) heq
      · exact Nat.ne_of_lt (htracked.lt_of_mem_removed hmem) heq
    rw [after_succ, (htracked.turnover_next client rounds).ids, ih, addedBefore_succ,
      List.filter_append, hnew, removedBefore_succ, List.filter_filter]
    simp [Bool.and_comm]

end Point

end Updates

end Session

end FormTree

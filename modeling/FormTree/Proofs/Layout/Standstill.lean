import FormTree.Proofs.DataChain
import FormTree.Proofs.Layout.Steady
import FormTree.Proofs.Layout.Telling

set_option autoImplicit false

/-!
# Changes that change nothing

A change that asks for what is there already leaves the whole layout as it is: no container commits,
and so nothing is delivered, announced or reported. This takes that the place that is written was
written before; a place that is written once goes on being written.

## Main definitions

* `FormTree.Table.IsWritten` — a place of a table was written.
* `FormTree.Layout.IsMarked` — it is noted whether the view of a node is attached.

## Main results

* `FormTree.Layout.changeForm_of_same`, `FormTree.Layout.changePager_of_same` — a change that asks
  for what is there.
* `FormTree.Layout.isWritten_changeForm`, `FormTree.Layout.isWritten_changePager` — what is changed
  is written.
* `FormTree.Layout.isMarked_settle` — routing announcements and notices leaves marks alone.
-/

namespace FormTree

/-! ## Tables -/

namespace Table

variable {α : Type}

/-- The place was written. -/
def IsWritten (table : Table α) (place : Nat) : Prop := place ∈ table.entries

theorem isWritten_set (table : Table α) (place : Nat) (value : α) :
    (table.set place value).IsWritten place := Std.ExtTreeMap.mem_insert_self

/-- What is written stays written. -/
theorem IsWritten.set {table : Table α} {place : Nat} (h : table.IsWritten place) (other : Nat)
    (value : α) : (table.set other value).IsWritten place :=
  Std.ExtTreeMap.mem_insert.mpr (.inr h)

/-- Of two writes to one place the first one is lost. -/
theorem set_set (table : Table α) (place : Nat) (value value' : α) :
    (table.set place value).set place value' = table.set place value' := by
  refine congrArg Table.mk (Std.ExtTreeMap.ext_getElem? fun other => ?_)
  simp only [set, Std.ExtTreeMap.getElem?_insert]
  split <;> rfl

variable [Inhabited α]

/-- To write what is there changes nothing, if the place was written. -/
theorem set_get {table : Table α} {place : Nat} (h : table.IsWritten place) :
    table.set place (table.get place) = table := by
  refine congrArg Table.mk (Std.ExtTreeMap.ext_getElem? fun other => ?_)
  rw [Std.ExtTreeMap.getElem?_insert]
  split
  · next heq =>
    rw [Std.LawfulEqCmp.eq_of_compare heq] at h ⊢
    exact (Std.ExtTreeMap.getElem?_eq_some_getD h).symm
  · rfl

end Table

/-! ## Containers in their places -/

/-- What is written to the place last can be read there, and what is there now was written. -/
structure Place.IsWritten {ω σ κ : Type} (place : Place ω σ κ) (world : ω) : Prop where
  set_get : place.set world (place.get world) = world
  set_set : ∀ state state', place.set (place.set world state) state' = place.set world state'
  get_set : ∀ state, place.get (place.set world state) = state

/-- To commit what is there changes nothing. -/
lemma Place.IsWritten.commit {ω σ κ : Type} [DecidableEq σ] {place : Place ω σ κ} {world : ω}
    (h : place.IsWritten world) {next : σ} (hsame : next = (place.get world).value) :
    place.modify world (·.commit next) = world := by
  calc place.modify world (·.commit next)
      = place.set world ((place.get world).commit (place.get world).value) := by rw [hsame]; rfl
    _ = place.set world (place.get world) := by rw [Observable.commit_value]
    _ = world := h.set_get

/-- **Where nothing is pending and nothing is being delivered, to deliver changes nothing.** -/
theorem Place.IsWritten.flush {ω σ κ : Type} {place : Place ω σ κ} [place.IsPlain] {world : ω}
    (h : place.IsWritten world) (hpending : (place.get world).pending = [])
    (hresting : (place.get world).isDelivering = false)
    (react : Observer κ → σ → ω → ω × Flow) (rounds : Nat) :
    place.flush react (rounds + 1) world = (world, true) := by
  have hstart : place.get (place.start world) = { place.get world with isDelivering := true } :=
    h.get_set _
  have hstate : ({ place.get world with isDelivering := false } : Observable σ κ) =
      place.get world := Observable.rest_eq hresting
  have hrest : place.rest (place.start world) = world := by
    calc place.rest (place.start world)
        = place.set (place.start world)
            { place.get (place.start world) with isDelivering := false } := rfl
      _ = place.set (place.start world) (place.get world) := by rw [hstart, hstate]
      _ = place.set world (place.get world) := h.set_set _ _
      _ = world := h.set_get
  rw [place.flush_of_resting react hresting,
    place.drain_rest react (by rw [hstart]; exact hpending), hrest]

namespace Layout

variable {layout layout' : Layout} {id other : NodeId} {intent : FormIntent}

/-! ## Forms -/

lemma isWritten_formPlace (h : layout.forms.IsWritten id) : (formPlace id).IsWritten layout where
  set_get := congrArg (fun forms => { layout with forms }) (Table.set_get h)
  set_set _ _ := congrArg (fun forms => { layout with forms }) (Table.set_set _ _ _ _)
  get_set _ := Table.get_set_self _ _ _

/-- **A change of a form that asks for what is there changes nothing.** -/
theorem changeForm_of_same (h : layout.Rests id) (hwritten : layout.forms.IsWritten id)
    (hsame : (layout.form id).value.reduce intent = (layout.form id).value) :
    layout.changeForm id intent = layout := by
  have hplace := isWritten_formPlace hwritten
  have hcommit : layout.commitForm id intent = layout := hplace.commit hsame
  unfold changeForm depth updateForm
  rw [hcommit]
  exact congrArg Prod.fst (hplace.flush h.pending h.isDelivering _ 3)

/-- That a form was written is broken by nothing that a change is made of. -/
lemma isKept_isWritten (id : NodeId) : IsKept fun world => world.forms.IsWritten id where
  commitForm _ _ _ h := h.set _ _
  markForm _ _ _ _ h := h.set _ _
  leave _ _ _ _ _ _ _ h := h.set _ _
  announce _ _ _ h := h
  push _ _ h := h
  commitPager _ _ _ h := h
  markPager _ _ _ _ h := h

/-- **A form that is changed is written**, and stays so. -/
theorem isWritten_changeForm (layout : Layout) (id : NodeId) (intent : FormIntent) :
    (layout.changeForm id intent).forms.IsWritten id :=
  (isKept_isWritten id).flushForm ((isKept_isWritten id).updateForm _) id formRounds
    (Table.isWritten_set layout.forms id _)

lemma IsWritten.changeForm (h : layout.forms.IsWritten other) (id : NodeId)
    (intent : FormIntent) : (layout.changeForm id intent).forms.IsWritten other :=
  (isKept_isWritten other).updateForm _ id intent layout h

/-! ## Pagers -/

lemma isWritten_pagerPlace (h : layout.pagers.IsWritten id) :
    (pagerPlace id).IsWritten layout where
  set_get := congrArg (fun pagers => { layout with pagers }) (Table.set_get h)
  set_set _ _ := congrArg (fun pagers => { layout with pagers }) (Table.set_set _ _ _ _)
  get_set _ := Table.get_set_self _ _ _

/-- **A move of a pager to where it is changes nothing.** -/
theorem changePager_of_same {intent : PagerIntent} (h : layout.PagerRests id)
    (hwritten : layout.pagers.IsWritten id)
    (hsame : (layout.pager id).value.reduce intent = (layout.pager id).value) :
    layout.changePager id intent = layout := by
  have hplace := isWritten_pagerPlace hwritten
  have hcommit : layout.commitPager id intent = layout := hplace.commit hsame
  unfold changePager
  rw [hcommit]
  exact congrArg Prod.fst (hplace.flush h.pending h.isDelivering _ 1)

/-- **A pager that moves is written.** -/
theorem isWritten_changePager (layout : Layout) (id : NodeId) (intent : PagerIntent) :
    (layout.changePager id intent).pagers.IsWritten id := by
  refine (pagerPlace id).flush_induction (reactPager (updateForm layout.depth))
    (P := fun world => world.pagers.IsWritten id) (fun observer snapshot world hworld => ?_)
    (fun world other _ hworld => hworld.set _ _) (Table.isWritten_set layout.pagers id _)
  unfold reactPager
  split
  · exact hworld
  · rw [refresh, pagers_updateForm]
    exact hworld
  · exact hworld

/-! ## Marks -/

/-- It is noted whether the view of the node is attached. -/
structure IsMarked (id : NodeId) (isAttached : Bool) (states : Table NodeState) : Prop where
  isWritten : states.IsWritten id
  isAttached_eq : (states.get id).isAttached = isAttached

variable {isAttached : Bool} {states : Table NodeState}

lemma isMarked_modify (states : Table NodeState) (id : NodeId) (isAttached : Bool) :
    IsMarked id isAttached (states.modify id ({ · with isAttached })) where
  isWritten := Table.isWritten_set _ _ _
  isAttached_eq := by rw [Table.get_modify, if_pos rfl]

/-- To note what is noted changes nothing. -/
theorem IsMarked.modify_eq (h : IsMarked id isAttached states) :
    states.modify id ({ · with isAttached }) = states := by
  have hstate : ({ states.get id with isAttached } : NodeState) = states.get id := by
    rw [← h.isAttached_eq]
  rw [Table.modify, hstate, Table.set_get h.isWritten]

/-- To note something else leaves marks alone. -/
lemma IsMarked.modifyState (h : IsMarked id isAttached layout.states)
    {change : NodeState → NodeState}
    (hchange : ∀ state, (change state).isAttached = state.isAttached) (other : NodeId) :
    IsMarked id isAttached (layout.modifyState other change).states where
  isWritten := h.isWritten.set _ _
  isAttached_eq := by
    show ((layout.states.modify other change).get id).isAttached = _
    rw [Table.get_modify]
    split
    · next heq => rw [hchange, heq, h.isAttached_eq]
    · exact h.isAttached_eq

lemma IsMarked.refreshNode (h : IsMarked id isAttached layout.states) (other : NodeId)
    (node : Node) : IsMarked id isAttached (layout.refreshNode other node).states := by
  unfold Layout.refreshNode
  split
  · exact h
  · refine h.modifyState ?_ other
    exact fun _ => rfl

/-- Nodes that hear of flags and positions leave marks alone. -/
lemma IsMarked.receive {event : Event} (hupdate : event.isUpdate = true)
    (h : IsMarked id isAttached layout.states) (other : NodeId) :
    IsMarked id isAttached (layout.receive event other).states := by
  unfold Layout.receive
  split
  · exact h
  · next node hnode =>
    cases event with
    | validationUpdate form status =>
      dsimp only
      split
      · refine IsMarked.refreshNode (h.modifyState ?_ other) other node
        exact fun _ => rfl
      · exact h
    | pagerUpdate pager state =>
      dsimp only
      split
      · refine IsMarked.refreshNode (h.modifyState ?_ other) other node
        exact fun _ => rfl
      · exact h
    | _ => cases hupdate

lemma IsMarked.trickle {event : Event} (hupdate : event.isUpdate = true)
    (h : IsMarked id isAttached layout.states) (origin : NodeId) :
    IsMarked id isAttached (layout.trickle origin event).states := by
  unfold Layout.trickle
  generalize layout.tree.descendants origin = list
  induction list generalizing layout with
  | nil => exact h
  | cons first rest ih => exact ih (h.receive hupdate first)

/-- Routing an announcement or a notice leaves marks alone. -/
lemma IsMarked.route {dispatch : Dispatch}
    (hdispatch : dispatch.IsAnnouncement layout.tree ∨ dispatch.isReport = true)
    (h : IsMarked id isAttached layout.states) :
    IsMarked id isAttached (layout.route dispatch).states := by
  rcases hdispatch with hannouncement | hreport
  · unfold Dispatch.IsAnnouncement at hannouncement
    split at hannouncement
    · exact h.trickle rfl _
    · exact h.trickle rfl _
    · exact hannouncement.elim
  · obtain ⟨reports, hroute⟩ := route_report layout hreport
    rw [hroute]
    exact h

/-- **Where only announcements and notices wait, routing them leaves marks alone.** -/
theorem isMarked_settle (hqueue : ∀ dispatch ∈ layout.outbox.queue,
      dispatch.IsAnnouncement layout.tree ∨ dispatch.isReport = true)
    (h : IsMarked id isAttached layout.states) : IsMarked id isAttached layout.settle.states := by
  refine drain_induction
    (P := fun world => world.tree = layout.tree ∧ IsMarked id isAttached world.states ∧
      ∀ dispatch ∈ world.outbox.queue,
        dispatch.IsAnnouncement layout.tree ∨ dispatch.isReport = true)
    (Q := fun world => IsMarked id isAttached world.states)
    (fun world dispatch rest hworld hrest _ => ?_) (fun world hworld _ => hworld.2.1)
    (fun world hworld => hworld.2.1) (fun world dispatch rest hworld _ _ => hworld.2.1) _ layout
    ⟨rfl, h, hqueue⟩
  obtain ⟨htree, hmarked, hwaiting⟩ := hworld
  have hfirst := hwaiting dispatch (by rw [hrest]; exact List.mem_cons_self)
  rw [← htree] at hfirst
  obtain ⟨hbeside, houtbox⟩ := route_beside { world with outbox := ⟨rest⟩ } hfirst
  refine ⟨hbeside.tree.trans htree, IsMarked.route hfirst hmarked, fun other hother => ?_⟩
  rw [houtbox] at hother
  exact hwaiting other (by rw [hrest]; exact List.mem_cons_of_mem _ hother)

end Layout

end FormTree

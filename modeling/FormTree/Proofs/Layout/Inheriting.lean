import Mathlib.Data.List.Nodup
import FormTree.Proofs.Layout.Announcing

set_option autoImplicit false

/-!
# What nested forms take over

A nested form takes over submission and disablement from the form around it. One of the observers of
the latter does so, its *tie*, once for every snapshot that is committed there. Snapshots come late:
while one of them is delivered the form around may have committed others, and the changes that
observers ask for are nested in each other. But nothing is lost: a snapshot has been taken over, or
it is in delivery with the tie still to come, or it is pending. So the flags of the nested form,
together with those of the snapshots that are still to come, are what the log of the form around it
makes of them.

## Main definitions

* `FormTree.TakesOver` — the flags of a form and what is still to come make up what a log says.
* `FormTree.Layout.Enrolled` — the observers among which those of the forms are.
* `FormTree.Layout.Inherits` — nested forms take over what the forms around them commit, while
  changes are under way.
* `FormTree.Layout.Inheriting` — the same, while none is.

## Main results

* `FormTree.Layout.Inherits.flush` — a delivery keeps that nested forms take over.
* `FormTree.Layout.Sound.inheriting_changeForm`, `FormTree.Layout.Sound.inheriting_updatePager` — so
  does a change of a form, and of a pager, with all that follows.
-/

namespace FormTree

/-! ## Flags and logs -/

/-- The change is none by which a form takes over anything; `isFree` says that no rules enable and
disable the form. -/
def FormIntent.Spares (isFree : Prop) : FormIntent → Prop
  | .submit | .inherit _ _ => False
  | .setEnabled _ => ¬ isFree
  | _ => True

theorem FormIntent.Spares.isSubmitted {isFree : Prop} {intent : FormIntent}
    (h : intent.Spares isFree) (state : FormState) :
    (state.reduce intent).isSubmitted = state.isSubmitted := by
  cases intent with
  | submit => exact h.elim
  | inherit _ _ => exact h.elim
  | _ => rfl

theorem FormIntent.Spares.isEnabled {isFree : Prop} {intent : FormIntent} (h : intent.Spares isFree)
    (hfree : isFree) (state : FormState) : (state.reduce intent).isEnabled = state.isEnabled := by
  cases intent with
  | setEnabled _ => exact absurd hfree h
  | inherit _ _ => exact h.elim
  | _ => rfl

/-- What a form has taken over and the snapshots that are still to come make up what the log of
another form says: it is submitted if a snapshot was, and if it is free of rules then it is enabled
if it started so and every snapshot was that came after those of `past`. -/
structure TakesOver (start : Bool) (past : List FormState) (isFree : Prop) (state : FormState)
    (waiting log : List FormState) : Prop where
  isSubmitted : (state.isSubmitted || waiting.any (·.isSubmitted)) = log.any (·.isSubmitted)
  isEnabled : ∃ since, log = past ++ since ∧
    (isFree → (state.isEnabled && waiting.all (·.isEnabled)) =
      (start && since.all (·.isEnabled)))

namespace TakesOver

variable {start : Bool} {past : List FormState} {isFree : Prop} {state snapshot : FormState}
  {waiting log : List FormState}

/-- What is committed is still to come. -/
theorem commit (h : TakesOver start past isFree state waiting log) (more : List FormState) :
    TakesOver start past isFree state (waiting ++ more) (log ++ more) where
  isSubmitted := by rw [List.any_append, List.any_append, ← Bool.or_assoc, h.isSubmitted]
  isEnabled := by
    obtain ⟨since, hlog, hfree⟩ := h.isEnabled
    refine ⟨since ++ more, by rw [hlog, List.append_assoc], fun hf => ?_⟩
    rw [List.all_append, List.all_append, ← Bool.and_assoc, hfree hf, Bool.and_assoc]

/-- The oldest snapshot that is still to come is taken over. -/
theorem take (h : TakesOver start past isFree state (snapshot :: waiting) log) :
    TakesOver start past isFree
      (state.reduce (.inherit snapshot.isSubmitted snapshot.isEnabled)) waiting log where
  isSubmitted := by
    rw [← h.isSubmitted, List.any_cons, ← Bool.or_assoc]
    rfl
  isEnabled := by
    obtain ⟨since, hlog, hfree⟩ := h.isEnabled
    refine ⟨since, hlog, fun hf => ?_⟩
    rw [← hfree hf, List.all_cons, ← Bool.and_assoc]
    rfl

/-- Other changes take over nothing. -/
theorem change (h : TakesOver start past isFree state waiting log) {intent : FormIntent}
    (hspares : intent.Spares isFree) :
    TakesOver start past isFree (state.reduce intent) waiting log where
  isSubmitted := by rw [hspares.isSubmitted, h.isSubmitted]
  isEnabled := by
    obtain ⟨since, hlog, hfree⟩ := h.isEnabled
    refine ⟨since, hlog, fun hf => ?_⟩
    rw [hspares.isEnabled hf, hfree hf]

end TakesOver

/-! ## Observers -/

/-- The reaction is one that an observer of the form `id` may have. -/
def FormReaction.Concerns (tree : Tree) (id : NodeId) : FormReaction → Prop
  | .inherit child => tree.isChild child = true ∧ tree.formAround child = some id
  | .reportDisplay form => form = id
  | .refresh form => tree.rules form ≠ [] ∧ (form = id ∨ tree.formAround form = some id)
  | .announce _ | .guest => True

namespace Layout

/-- Among the given observers those of every form are: they concern the form, no two of them share a
number, and every nested form has one tie. -/
structure Enrolled (tree : Tree) (roster : NodeId → List (Observer FormReaction)) : Prop where
  concerns : ∀ id, ∀ observer ∈ roster id, observer.reaction.Concerns tree id
  numbered : ∀ id, ((roster id).map (·.id)).Nodup
  tie : ∀ child parent, tree.isChild child = true → tree.formAround child = some parent →
    ∃ observer ∈ roster parent, observer.reaction = .inherit child
  single : ∀ id, ∀ first ∈ roster id, ∀ second ∈ roster id, ∀ child,
    first.reaction = .inherit child → second.reaction = .inherit child → first = second

/-! ## Snapshots that are still to come -/

/-- What is in delivery at a form: a snapshot, and the observers to which it is still to be
taken. -/
abbrev Underway : Type := Option (FormState × List (Observer FormReaction))

/-- The snapshot in delivery, if the tie of the given form is among those to which it is still to be
taken. -/
def Underway.owed (underway : Underway) (child : NodeId) : List FormState :=
  match underway with
  | none => []
  | some (snapshot, rest) =>
    if rest.any (·.reaction = .inherit child) then [snapshot] else []

/-- An observer that is not the tie of a form has nothing to hand over to it. -/
theorem Underway.owed_cons_of_ne {snapshot : FormState} {observer : Observer FormReaction}
    {child : NodeId} (hne : observer.reaction ≠ .inherit child)
    (rest : List (Observer FormReaction)) :
    Underway.owed (some (snapshot, observer :: rest)) child =
      Underway.owed (some (snapshot, rest)) child := by
  simp [Underway.owed, hne]

/-- Nested forms take over what the forms around them commit. The form `id` is being delivered if
`underway id` is there, which then tells what is in delivery. -/
structure Inherits (tree : Tree) (roster : NodeId → List (Observer FormReaction))
    (start : NodeId → Bool) (past : NodeId → List FormState) (underway : NodeId → Underway)
    (layout : Layout) : Prop where
  isDelivering : ∀ id, (underway id).isSome → (layout.form id).isDelivering = true
  listed : ∀ id, (tree.form? id).isSome → (layout.form id).observers.Sublist (roster id)
  tied : ∀ id, (tree.form? id).isSome → ∀ observer ∈ roster id, ∀ child,
    observer.reaction = .inherit child → observer ∈ (layout.form id).observers
  takesOver : ∀ child parent, tree.isChild child = true → tree.formAround child = some parent →
    TakesOver (start child) (past child) (tree.rules child = []) (layout.form child).value
      ((underway parent).owed child ++ (layout.form parent).pending) (layout.form parent).history

namespace Inherits

variable {tree : Tree} {roster : NodeId → List (Observer FormReaction)} {start : NodeId → Bool}
  {past : NodeId → List FormState} {underway underway' : NodeId → Underway}
  {layout layout' : Layout} {id : NodeId}

/-- A form whose container changes in how far it is delivered and who observes it. -/
theorem of_container (h : Inherits tree roster start past underway layout) (id : NodeId)
    (hothers : ∀ other, other ≠ id →
      layout'.form other = layout.form other ∧ underway' other = underway other)
    (hdelivering : (underway' id).isSome → (layout'.form id).isDelivering = true)
    (hobservers : (layout'.form id).observers.Sublist (layout.form id).observers)
    (hties : ∀ observer ∈ (layout.form id).observers, ∀ child,
      observer.reaction = .inherit child → observer ∈ (layout'.form id).observers)
    (hvalue : (layout'.form id).value = (layout.form id).value)
    (hhistory : (layout'.form id).history = (layout.form id).history)
    (hwaiting : ∀ child, tree.isChild child = true → tree.formAround child = some id →
      (underway' id).owed child ++ (layout'.form id).pending =
        (underway id).owed child ++ (layout.form id).pending) :
    Inherits tree roster start past underway' layout' := by
  have hvalues : ∀ other, (layout'.form other).value = (layout.form other).value := by
    intro other
    by_cases heq : other = id
    · rw [heq, hvalue]
    · rw [(hothers other heq).1]
  have hhistories : ∀ other, (layout'.form other).history = (layout.form other).history := by
    intro other
    by_cases heq : other = id
    · rw [heq, hhistory]
    · rw [(hothers other heq).1]
  refine ⟨fun other hsome => ?_, fun other hform => ?_,
    fun other hform observer hobserver child hreaction => ?_,
    fun child parent hchild haround => ?_⟩
  · by_cases heq : other = id
    · rw [heq] at hsome ⊢
      exact hdelivering hsome
    · obtain ⟨hsame, hunderway⟩ := hothers other heq
      rw [hunderway] at hsome
      rw [hsame]
      exact h.isDelivering other hsome
  · by_cases heq : other = id
    · rw [heq] at hform ⊢
      exact hobservers.trans (h.listed id hform)
    · rw [(hothers other heq).1]
      exact h.listed other hform
  · have htied := h.tied other hform observer hobserver child hreaction
    by_cases heq : other = id
    · rw [heq] at htied ⊢
      exact hties observer htied child hreaction
    · rwa [(hothers other heq).1]
  · have htakes := h.takesOver child parent hchild haround
    rw [hvalues, hhistories]
    by_cases heq : parent = id
    · subst heq
      rwa [hwaiting child hchild haround]
    · obtain ⟨hsame, hunderway⟩ := hothers parent heq
      rwa [hsame, hunderway]

/-- Where no container changes, it is enough that nothing of what is in delivery is lost. -/
theorem of_forms (h : Inherits tree roster start past underway layout) (id : NodeId)
    (hforms : ∀ other, layout'.form other = layout.form other)
    (hothers : ∀ other, other ≠ id → underway' other = underway other)
    (hsome : (underway' id).isSome → (underway id).isSome)
    (howed : ∀ child, tree.isChild child = true → tree.formAround child = some id →
      (underway' id).owed child = (underway id).owed child) :
    Inherits tree roster start past underway' layout' := by
  refine h.of_container id (fun other hne => ⟨hforms other, hothers other hne⟩) (fun hs => ?_)
    ?_ (fun observer hobserver _ _ => ?_) ?_ ?_ fun child hchild haround => ?_
  · rw [hforms]
    exact h.isDelivering id (hsome hs)
  · rw [hforms]
  · rwa [hforms]
  · rw [hforms]
  · rw [hforms]
  · rw [hforms, howed child hchild haround]

/-- **What a form commits is still to come** for the nested forms right inside it; what it changes
itself by is not lost. -/
theorem commitForm (h : Inherits tree roster start past underway layout) (linked : tree.Linked)
    {intent : FormIntent} (hsome : ∀ other, (underway' other).isSome → (underway other).isSome)
    (howed : ∀ child parent, tree.isChild child = true → tree.formAround child = some parent →
      child ≠ id → (underway' parent).owed child = (underway parent).owed child)
    (hself : ∀ parent, tree.isChild id = true → tree.formAround id = some parent →
      TakesOver (start id) (past id) (tree.rules id = []) ((layout.form id).value.reduce intent)
        ((underway' parent).owed id ++ (layout.form parent).pending)
        (layout.form parent).history) :
    Inherits tree roster start past underway' (layout.commitForm id intent) := by
  have hform : (layout.commitForm id intent).form id =
      (layout.form id).commit ((layout.form id).value.reduce intent) := by
    rw [form_commitForm, if_pos rfl]
  have hothers : ∀ other, other ≠ id →
      (layout.commitForm id intent).form other = layout.form other := fun other hne => by
    rw [form_commitForm, if_neg (Ne.symm hne)]
  have hobservers : ∀ other, ((layout.commitForm id intent).form other).observers =
      (layout.form other).observers := by
    intro other
    by_cases heq : other = id
    · rw [heq, hform, Observable.observers_commit]
    · rw [hothers other heq]
  refine ⟨fun other hs => ?_, fun other hlive => ?_, fun other hlive => ?_,
    fun child parent hchild haround => ?_⟩
  · have hdelivering := h.isDelivering other (hsome other hs)
    by_cases heq : other = id
    · rw [heq] at hdelivering ⊢
      rwa [hform, Observable.isDelivering_commit]
    · rwa [hothers other heq]
  · rw [hobservers]
    exact h.listed other hlive
  · rw [hobservers]
    exact h.tied other hlive
  · have hlt := linked.formAround_lt haround
    by_cases heq : child = id
    · subst heq
      rw [hform, Observable.value_commit, hothers parent (Nat.ne_of_lt hlt)]
      exact hself parent hchild haround
    · have htakes := h.takesOver child parent hchild haround
      rw [hothers child heq, howed child parent hchild haround heq]
      by_cases hparent : parent = id
      · subst hparent
        rw [hform, Observable.pending_commit, Observable.history_commit, ← List.append_assoc]
        exact htakes.commit _
      · rwa [hothers parent hparent]

/-! ### Deliveries -/

section Delivery

variable {snapshot : FormState} {observer : Observer FormReaction}
  {rest : List (Observer FormReaction)} {depth : Nat}

/-- While a snapshot of the form `id` is in delivery. -/
def during (underway : NodeId → Underway) (id : NodeId) (snapshot : FormState)
    (rest : List (Observer FormReaction)) : NodeId → Underway :=
  Function.update underway id (some (snapshot, rest))

@[simp] theorem during_self (underway : NodeId → Underway) (id : NodeId) (snapshot : FormState)
    (rest : List (Observer FormReaction)) :
    during underway id snapshot rest id = some (snapshot, rest) :=
  Function.update_self ..

theorem during_of_ne (underway : NodeId → Underway) (snapshot : FormState)
    (rest : List (Observer FormReaction)) {other : NodeId} (hne : other ≠ id) :
    during underway id snapshot rest other = underway other :=
  Function.update_of_ne hne ..

/-- An observer that is no tie need not have its turn. -/
theorem skip (h : Inherits tree roster start past (during underway id snapshot (observer :: rest))
      layout)
    (hforms : ∀ other, layout'.form other = layout.form other)
    (hne : ∀ child, tree.isChild child = true → tree.formAround child = some id →
      observer.reaction ≠ .inherit child) :
    Inherits tree roster start past (during underway id snapshot rest) layout' := by
  refine h.of_forms id hforms (fun other hother => ?_) (fun _ => by simp)
    fun child hchild haround => ?_
  · rw [during_of_ne _ _ _ hother, during_of_ne _ _ _ hother]
  · rw [during_self, during_self, Underway.owed_cons_of_ne (hne child hchild haround)]

/-- Deliveries keep that nested forms take over, as far as changes may be nested. -/
def Flushes (tree : Tree) (roster : NodeId → List (Observer FormReaction)) (start : NodeId → Bool)
    (past : NodeId → List FormState) (depth : Nat) : Prop :=
  ∀ (underway : NodeId → Underway) (id : NodeId) (layout : Layout), (tree.form? id).isSome →
    tree.size ≤ depth + id ∨ (layout.form id).isDelivering = true →
    Inherits tree roster start past underway layout →
    Inherits tree roster start past underway
      ((formPlace id).flush (reactForm (updateForm depth)) formRounds layout).1

/-- A change that takes over nothing. -/
theorem change (hflush : Flushes tree roster start past depth) (linked : tree.Linked)
    (h : Inherits tree roster start past underway layout) (hsome : (tree.form? id).isSome)
    (hdepth : tree.size ≤ depth + id ∨ (layout.form id).isDelivering = true)
    {intent : FormIntent}
    (hspares : tree.isChild id = true → intent.Spares (tree.rules id = [])) :
    Inherits tree roster start past underway (updateForm (depth + 1) id intent layout) := by
  have hcommitted : Inherits tree roster start past underway (layout.commitForm id intent) :=
    h.commitForm linked (fun _ hs => hs) (fun _ _ _ _ _ => rfl) fun parent hchild haround =>
      (h.takesOver id parent hchild haround).change (hspares hchild)
  refine hflush underway id _ hsome (hdepth.imp_right fun hdelivering => ?_) hcommitted
  rwa [form_commitForm, if_pos rfl, Observable.isDelivering_commit]

/-- **When its turn comes, the tie of a nested form takes over the snapshot in delivery.** -/
theorem take (hflush : Flushes tree roster start past depth) (linked : tree.Linked)
    {child : NodeId} (hchild : tree.isChild child = true)
    (haround : tree.formAround child = some id) (hdepth : tree.size ≤ depth + child)
    (hreaction : observer.reaction = .inherit child)
    (hrest : ∀ other ∈ rest, other.reaction ≠ .inherit child)
    (h : Inherits tree roster start past (during underway id snapshot (observer :: rest))
      layout) :
    Inherits tree roster start past (during underway id snapshot rest)
      (updateForm (depth + 1) child (.inherit snapshot.isSubmitted snapshot.isEnabled)
        layout) := by
  have hcommitted : Inherits tree roster start past (during underway id snapshot rest)
      (layout.commitForm child (.inherit snapshot.isSubmitted snapshot.isEnabled)) := by
    refine h.commitForm linked (fun other hs => ?_) (fun other parent hother hparent hne => ?_)
      fun parent _ hparent => ?_
    · by_cases heq : other = id
      · rw [heq, during_self]
        rfl
      · rw [during_of_ne _ _ _ heq] at hs ⊢
        exact hs
    · by_cases heq : parent = id
      · subst heq
        have hother : observer.reaction ≠ .inherit other := by
          rw [hreaction]
          rintro ⟨⟩
          exact hne rfl
        rw [during_self, during_self, Underway.owed_cons_of_ne hother]
      · rw [during_of_ne _ _ _ heq, during_of_ne _ _ _ heq]
    · obtain rfl : id = parent := Option.some.inj (haround.symm.trans hparent)
      have htakes := h.takesOver child id hchild haround
      have hfirst : Underway.owed (some (snapshot, observer :: rest)) child = [snapshot] := by
        simp [Underway.owed, hreaction]
      have hnone : Underway.owed (some (snapshot, rest)) child = [] := by
        simpa [Underway.owed] using hrest
      rw [during_self, hfirst] at htakes
      rw [during_self, hnone]
      exact htakes.take
  exact hflush _ child _ (Tree.isSome_form?_of_isChild hchild) (.inl hdepth) hcommitted

/-- **An observer has its turn.** -/
theorem react (hflush : Flushes tree roster start past depth) (linked : tree.Linked)
    (hdepth : tree.size ≤ depth + 1 + id)
    (hsome : (tree.form? id).isSome) (hconcerns : observer.reaction.Concerns tree id)
    (hrest : ∀ child, observer.reaction = .inherit child →
      ∀ other ∈ rest, other.reaction ≠ .inherit child)
    (h : Inherits tree roster start past (during underway id snapshot (observer :: rest))
      layout) :
    Inherits tree roster start past (during underway id snapshot rest)
      (reactForm (updateForm (depth + 1)) observer snapshot layout).1 := by
  have hdelivering : (layout.form id).isDelivering = true := h.isDelivering id (by simp)
  have hinside : ∀ form, tree.formAround form = some id → tree.size ≤ depth + form :=
    fun form haround => by
      have := linked.formAround_lt haround
      omega
  have hskip : (∀ child, observer.reaction ≠ .inherit child) → ∀ world : Layout,
      (∀ other, world.form other = layout.form other) →
        Inherits tree roster start past (during underway id snapshot rest) world :=
    fun hne world hforms => h.skip hforms fun child _ _ => hne child
  unfold reactForm
  cases hreaction : observer.reaction with
  | inherit child =>
    rw [hreaction] at hconcerns
    exact take hflush linked hconcerns.1 hconcerns.2 (hinside child hconcerns.2) hreaction
      (hrest child hreaction) h
  | reportDisplay form =>
    rw [hreaction] at hconcerns
    obtain rfl : form = id := hconcerns
    have hskipped := hskip (by rw [hreaction]; nofun)
    dsimp only
    split
    · exact hskipped layout fun _ => rfl
    · split
      · exact hskipped layout fun _ => rfl
      · have hspares : FormIntent.displayReported.Spares (tree.rules form = []) := trivial
        have hpushed := hskipped
          (layout.push (.bubble form (.formDisplay (.ofForm snapshot.context)))) fun _ => rfl
        exact change hflush linked hpushed hsome (.inr hdelivering) fun _ => hspares
  | refresh form =>
    rw [hreaction] at hconcerns
    obtain ⟨hrules, hplace⟩ := hconcerns
    have hskipped := hskip (by rw [hreaction]; nofun) layout fun _ => rfl
    refine change hflush linked hskipped (Tree.isSome_form?_of_rules hrules) ?_ fun _ => hrules
    rcases hplace with rfl | haround
    · exact .inr hdelivering
    · exact .inl (hinside form haround)
  | announce form =>
    have hskipped := hskip (by rw [hreaction]; nofun)
    dsimp only
    split
    · exact hskipped layout fun _ => rfl
    · exact hskipped _ fun _ => rfl
  | guest => exact hskip (by rw [hreaction]; nofun) layout fun _ => rfl

/-- Only the observer that reports the display leaves. -/
theorem reaction_of_leave {update : FormUpdate}
    (h : (reactForm update observer snapshot layout).2 = .leave) (child : NodeId) :
    observer.reaction ≠ .inherit child := by
  intro hreaction
  simp only [reactForm, hreaction] at h
  cases h

/-- An observer that is no tie may leave. -/
theorem unwatch (h : Inherits tree roster start past underway layout)
    (enrolled : Enrolled tree roster) (hsome : (tree.form? id).isSome)
    (hmem : observer ∈ roster id) (hleaves : ∀ child, observer.reaction ≠ .inherit child) :
    Inherits tree roster start past underway
      ((formPlace id).modify layout (·.unwatch observer.id)) := by
  have hform : ((formPlace id).modify layout (·.unwatch observer.id)).form id =
      (layout.form id).unwatch observer.id := by
    rw [form_modify, if_pos rfl]
  refine h.of_container id (fun other hne => ⟨?_, rfl⟩) (fun hs => ?_) ?_
    (fun other hother child hreaction => ?_) ?_ ?_ fun child _ _ => ?_
  · rw [form_modify, if_neg (Ne.symm hne)]
  · rw [hform]
    exact h.isDelivering id hs
  · rw [hform]
    exact List.filter_sublist
  · rw [hform]
    refine List.mem_filter.mpr ⟨hother, decide_eq_true fun hid => ?_⟩
    have hsame : other = observer :=
      List.inj_on_of_nodup_map (enrolled.numbered id) ((h.listed id hsome).subset hother)
        hmem hid
    exact hleaves child (hsame ▸ hreaction)
  all_goals rw [hform]; rfl

/-- **A snapshot is taken over when it is delivered.**

**Proof sketch.** Induction on the observers. A tie takes the snapshot in delivery, and the others
have nothing to take; a tie is there when its turn comes, for only the observer that reports the
display ever leaves. -/
theorem deliver (hflush : Flushes tree roster start past depth) (linked : tree.Linked)
    (enrolled : Enrolled tree roster) (hdepth : tree.size ≤ depth + 1 + id)
    (hsome : (tree.form? id).isSome) :
    ∀ (observers : List (Observer FormReaction)) (layout : Layout),
      (∀ observer ∈ observers, observer ∈ roster id) → (observers.map (·.id)).Nodup →
      Inherits tree roster start past (during underway id snapshot observers) layout →
      ∃ layout', (formPlace id).deliver (reactForm (updateForm (depth + 1))) snapshot observers
          layout = (layout', true) ∧
        Inherits tree roster start past (during underway id snapshot []) layout' := by
  intro observers
  induction observers with
  | nil => exact fun layout _ _ h => ⟨layout, rfl, h⟩
  | cons observer rest ih =>
    intro layout hlisted hnodup h
    obtain ⟨hnot, hnodup'⟩ := List.nodup_cons.mp hnodup
    have hmem : observer ∈ roster id := hlisted observer (by simp)
    have hconcerns := enrolled.concerns id observer hmem
    have hrest : ∀ layout, Inherits tree roster start past (during underway id snapshot rest)
        layout → _ :=
      fun layout => ih layout (fun other hother => hlisted other (by simp [hother])) hnodup'
    rw [Place.deliver_cons]
    cases hactive : ((formPlace id).get layout).isActive observer.id with
    | false =>
      rw [if_neg Bool.false_ne_true]
      refine hrest layout (h.skip (fun _ => rfl) fun child hchild haround hreaction => ?_)
      -- a tie that waits for its turn is there
      have hstill : (layout.form id).isActive observer.id = true :=
        Observable.isActive_of_mem (h.tied id hsome observer hmem child hreaction)
      exact absurd hstill (by simpa [formPlace] using hactive)
    | true =>
      rw [if_pos rfl]
      have hreacted : Inherits tree roster start past (during underway id snapshot rest)
          (reactForm (updateForm (depth + 1)) observer snapshot layout).1 := by
        refine react hflush linked hdepth hsome hconcerns
          (fun child hreaction other hother hr => ?_) h
        have hsame : observer = other := enrolled.single id observer hmem other
          (hlisted other (by simp [hother])) child hreaction hr
        exact hnot (hsame ▸ List.mem_map_of_mem hother)
      have hflow := Announces.reactForm_ne_fail (updateForm (depth + 1)) observer snapshot layout
      cases hreact : reactForm (updateForm (depth + 1)) observer snapshot layout with
      | mk layout' flow =>
        rw [hreact] at hreacted hflow
        cases flow with
        | stay => exact hrest layout' hreacted
        | leave =>
          have hleaves := reaction_of_leave (congrArg Prod.snd hreact)
          exact hrest _ (hreacted.unwatch enrolled hsome hmem hleaves)
        | fail => exact absurd rfl hflow

/-- What is pending at a form goes into delivery when a round starts. -/
theorem pop (h : Inherits tree roster start past (during underway id snapshot []) layout)
    (enrolled : Enrolled tree roster) (linked : tree.Linked) {next : FormState}
    {pending : List FormState} (hpending : (layout.form id).pending = next :: pending) :
    Inherits tree roster start past (during underway id next (layout.form id).observers)
      ((formPlace id).pop layout pending) := by
  have hform : ((formPlace id).pop layout pending).form id =
      { layout.form id with pending } := by
    rw [Place.pop, form_modify, if_pos rfl]
  refine h.of_container id (fun other hne => ⟨?_, ?_⟩) (fun _ => ?_) ?_
    (fun other hother child hreaction => ?_) ?_ ?_ fun child hchild haround => ?_
  · rw [Place.pop, form_modify, if_neg (Ne.symm hne)]
  · rw [during_of_ne _ _ _ hne, during_of_ne _ _ _ hne]
  · rw [hform]
    exact h.isDelivering id (by simp)
  · rw [hform]
  · rwa [hform]
  · rw [hform]
  · rw [hform]
  · -- the tie of the nested form is there
    obtain ⟨tie, htie, hreaction⟩ := enrolled.tie child id hchild haround
    have hthere := h.tied id (linked.formAround_spec haround).2 tie htie child hreaction
    have howed : Underway.owed (some (next, (layout.form id).observers)) child = [next] := by
      refine if_pos (List.any_eq_true.mpr ⟨tie, hthere, ?_⟩)
      simpa using hreaction
    rw [during_self, during_self, howed, hform, hpending]
    rfl

/-- When a delivery ends nothing is in delivery. -/
theorem ended (h : Inherits tree roster start past (during underway id snapshot []) layout)
    (hnone : underway id = none) :
    Inherits tree roster start past underway ((formPlace id).rest layout) := by
  have hform : ((formPlace id).rest layout).form id =
      { layout.form id with isDelivering := false } := by
    rw [Place.rest, form_modify, if_pos rfl]
  refine h.of_container id (fun other hne => ⟨?_, ?_⟩) (fun hs => ?_) ?_
    (fun other hother child hreaction => ?_) ?_ ?_ fun child hchild haround => ?_
  · rw [Place.rest, form_modify, if_neg (Ne.symm hne)]
  · rw [during_of_ne _ _ _ hne]
  · rw [hnone] at hs
    cases hs
  · rw [hform]
  · rwa [hform]
  · rw [hform]
  · rw [hform]
  · rw [during_self, hnone, hform]
    rfl

/-- **All that is pending is taken over** once it has been delivered.

**Proof sketch.** Induction on the rounds. When a round starts its snapshot is no longer pending
but in delivery. If the rounds run out, what is pending stays so. -/
theorem drain (hflush : Flushes tree roster start past depth) (linked : tree.Linked)
    (enrolled : Enrolled tree roster) (hdepth : tree.size ≤ depth + 1 + id)
    (hsome : (tree.form? id).isSome) (hnone : underway id = none) :
    ∀ (rounds : Nat) (snapshot : FormState) (layout : Layout),
      Inherits tree roster start past (during underway id snapshot []) layout →
      Inherits tree roster start past underway
        ((formPlace id).drain (reactForm (updateForm (depth + 1))) rounds layout).1 := by
  intro rounds
  induction rounds with
  | zero =>
    intro snapshot layout h
    refine h.of_container id (fun other hne => ⟨rfl, ?_⟩) (fun hs => ?_) (.refl _)
      (fun _ hother _ _ => hother) rfl rfl fun child _ _ => ?_
    · rw [during_of_ne _ _ _ hne]
    · rw [hnone] at hs
      cases hs
    · rw [during_self, hnone]
      rfl
  | succ rounds ih =>
    intro snapshot layout h
    cases hpending : (layout.form id).pending with
    | nil =>
      rw [(formPlace id).drain_rest _ hpending]
      exact h.ended hnone
    | cons next pending =>
      have hpopped := h.pop enrolled linked hpending
      have hobservers : (((formPlace id).pop layout pending).form id).observers =
          (layout.form id).observers := by
        rw [Place.pop, form_modify, if_pos rfl]
      obtain ⟨layout', hdeliver, hdelivered⟩ := deliver hflush linked enrolled hdepth hsome
        (layout.form id).observers _ (fun _ hother => (h.listed id hsome).subset hother)
        ((enrolled.numbered id).sublist ((h.listed id hsome).map _)) hpopped
      rw [← hobservers] at hdeliver
      rw [(formPlace id).drain_round (reactForm (updateForm (depth + 1))) hpending hdeliver]
      exact ih next layout' hdelivered

/-- When a delivery starts nothing is in delivery yet. -/
theorem started (h : Inherits tree roster start past underway layout)
    (hnone : underway id = none) (snapshot : FormState) :
    Inherits tree roster start past (during underway id snapshot [])
      ((formPlace id).start layout) := by
  have hform : ((formPlace id).start layout).form id =
      { layout.form id with isDelivering := true } := by
    rw [Place.start, form_modify, if_pos rfl]
  refine h.of_container id (fun other hne => ⟨?_, ?_⟩) (fun hs => ?_) ?_
    (fun other hother child hreaction => ?_) ?_ ?_ fun child hchild haround => ?_
  · rw [Place.start, form_modify, if_neg (Ne.symm hne)]
  · rw [during_of_ne _ _ _ hne]
  · rw [hform]
  · rw [hform]
  · rwa [hform]
  · rw [hform]
  · rw [hform]
  · rw [during_self, hnone, hform]
    rfl

/-- **Deliveries keep that nested forms take over**, however deep changes are nested.

**Proof sketch.** Induction on the depth. Where a delivery is in progress another one does not
start. Otherwise nothing of the form is in delivery; its observers change the form itself, which is
committed only, or forms right inside it, which have larger numbers, so that one level of depth less
suffices for them. -/
theorem flush (linked : tree.Linked) (enrolled : Enrolled tree roster) :
    ∀ depth, Flushes tree roster start past depth := by
  intro depth
  induction depth with
  | zero =>
    intro underway id layout hsome hdepth h
    rcases hdepth with hdepth | hdelivering
    · rw [Nat.zero_add] at hdepth
      exact absurd (Tree.lt_size_of_form? hsome) (Nat.not_lt.mpr hdepth)
    · rwa [(formPlace id).flush_of_delivering _ hdelivering]
  | succ depth ih =>
    intro underway id layout hsome hdepth h
    cases hdelivering : ((formPlace id).get layout).isDelivering with
    | true => rwa [(formPlace id).flush_of_delivering _ hdelivering]
    | false =>
      have hresting : (layout.form id).isDelivering = false := hdelivering
      have hnone : underway id = none := by
        cases hunderway : underway id with
        | none => rfl
        | some delivery =>
          have hbusy := h.isDelivering id (by rw [hunderway]; rfl)
          rw [hresting] at hbusy
          cases hbusy
      have hbound : tree.size ≤ depth + 1 + id := hdepth.resolve_right fun hbusy => by
        rw [hresting] at hbusy
        cases hbusy
      rw [(formPlace id).flush_of_resting _ hdelivering]
      exact drain ih linked enrolled hbound hsome hnone _ _ _ (h.started hnone default)

end Delivery

end Inherits

/-! ## Forms that rest -/

/-- Where no change is under way: a nested form has taken over all that the form around it
committed. -/
def Inheriting (start : NodeId → Bool) (past : NodeId → List FormState) (layout : Layout) : Prop :=
  ∀ child parent, layout.tree.isChild child = true → layout.tree.formAround child = some parent →
    TakesOver (start child) (past child) (layout.tree.rules child = []) (layout.form child).value
      [] (layout.form parent).history

/-- What leaves forms alone keeps what they have taken over. -/
theorem Inheriting.congr {start : NodeId → Bool} {past : NodeId → List FormState}
    {layout layout' : Layout} (h : Inheriting start past layout)
    (htree : layout'.tree = layout.tree) (hforms : ∀ id, layout'.form id = layout.form id) :
    Inheriting start past layout' := by
  intro child parent
  rw [htree, hforms, hforms]
  exact h child parent

end Layout

/-- All that a form is wired for concerns it. -/
theorem Tree.concerns_of_wiring {tree : Tree} {id : NodeId} {reporting : Bool}
    {reaction : FormReaction}
    (h : reaction ∈
      (tree.wiring id).own id reporting ++ (tree.wiring id).inside.flatMap tree.ties) :
    reaction.Concerns tree id := by
  rcases List.mem_append.mp h with hown | hinside
  · rcases List.mem_append.mp hown with hreport | hown
    · split at hreport
      · obtain rfl := List.mem_singleton.mp hreport
        exact rfl
      · cases hreport
    · rcases List.mem_append.mp hown with hrefresh | hannounce
      · split at hrefresh
        · next hform =>
          obtain rfl := List.mem_singleton.mp hrefresh
          refine ⟨fun hnil => ?_, .inl rfl⟩
          change (tree.rules id).hasForm = true at hform
          rw [hnil] at hform
          cases hform
        · cases hrefresh
      · obtain rfl := List.mem_singleton.mp hannounce
        trivial
  · obtain ⟨inner, hinner, hreaction⟩ := List.mem_flatMap.mp hinside
    obtain ⟨-, haround⟩ := Tree.mem_inside.mp hinner
    rcases List.mem_append.mp hreaction with htie | hrefresh
    · split at htie
      · next hchild =>
        obtain rfl := List.mem_singleton.mp htie
        exact ⟨hchild, haround⟩
      · cases htie
    · split at hrefresh
      · cases hrefresh
      · next hrules =>
        obtain rfl := List.mem_singleton.mp hrefresh
        exact ⟨hrules, .inr haround⟩

/-- A form is wired for nothing twice. -/
theorem Tree.nodup_wiring {tree : Tree} (linked : tree.Linked) (id : NodeId) (reporting : Bool) :
    ((tree.wiring id).own id reporting ++ (tree.wiring id).inside.flatMap tree.ties).Nodup := by
  have hties : ∀ inner, (tree.ties inner).Nodup := by
    intro inner
    unfold Tree.ties
    split <;> split <;> simp
  refine List.nodup_append.mpr ⟨?_, ?_, fun reaction hown other hinside heq => ?_⟩
  · unfold Wiring.own
    split <;> split <;> split <;> simp
  · refine List.nodup_flatMap.mpr ⟨fun inner _ => hties inner,
      (tree.nodup_inside id).imp fun hne reaction hfirst hsecond => hne ?_⟩
    rcases Tree.mem_ties hfirst with rfl | rfl
    · rcases Tree.mem_ties hsecond with hsecond | hsecond <;> cases hsecond
      rfl
    · rcases Tree.mem_ties hsecond with hsecond | hsecond <;> cases hsecond
      rfl
  · obtain ⟨inner, hinner, hreaction⟩ := List.mem_flatMap.mp hinside
    have hne : inner ≠ id :=
      Ne.symm (Nat.ne_of_lt (linked.formAround_lt (Tree.mem_inside.mp hinner).2))
    subst heq
    unfold Wiring.own at hown
    rcases Tree.mem_ties hreaction with rfl | rfl
    · split at hown <;> split at hown <;> split at hown <;> simp at hown
    · split at hown <;> split at hown <;> split at hown <;> simp [hne] at hown

namespace Layout

variable {start : NodeId → Bool} {past : NodeId → List FormState} {layout layout' : Layout}
  {id : NodeId}

/-- The observers of the forms of a sound layout. -/
def roster (layout : Layout) (id : NodeId) : List (Observer FormReaction) :=
  if (layout.tree.form? id).isSome then (layout.form id).observers else []

theorem Sound.enrolled (h : layout.Sound) : Enrolled layout.tree layout.roster := by
  have hwired : ∀ id, (layout.tree.form? id).isSome → ∃ reporting,
      (layout.form id).observers.map (·.reaction) =
        (layout.tree.wiring id).own id reporting ++
          (layout.tree.wiring id).inside.flatMap layout.tree.ties ∧
      ((layout.form id).observers.map (·.id)).Nodup := fun id hsome =>
    ⟨_, (h.rests id hsome).wired.reactions, (h.rests id hsome).wired.nodup⟩
  refine ⟨fun id observer hmem => ?_, fun id => ?_, fun child parent hchild haround => ?_,
    fun id first hfirst second hsecond child hreaction hreaction' => ?_⟩
  · unfold roster at hmem
    split at hmem
    · next hsome =>
      obtain ⟨reporting, hreactions, -⟩ := hwired id hsome
      exact Tree.concerns_of_wiring (hreactions ▸ List.mem_map_of_mem hmem)
    · cases hmem
  · unfold roster
    split
    · next hsome => exact (hwired id hsome).choose_spec.2
    · exact List.nodup_nil
  · have hsome := (h.wf.linked.formAround_spec haround).2
    obtain ⟨reporting, hreactions, -⟩ := hwired parent hsome
    have hmem : FormReaction.inherit child ∈
        (layout.form parent).observers.map (·.reaction) := by
      rw [hreactions]
      refine List.mem_append_right _ (List.mem_flatMap.mpr ⟨child, ?_, ?_⟩)
      · exact Tree.mem_inside.mpr ⟨Tree.isSome_form?_of_isChild hchild, haround⟩
      · exact List.mem_append_left _ (by rw [if_pos hchild]; exact List.mem_singleton_self _)
    obtain ⟨tie, htie, hreaction⟩ := List.mem_map.mp hmem
    refine ⟨tie, ?_, hreaction⟩
    rw [roster, if_pos hsome]
    exact htie
  · unfold roster at hfirst hsecond
    split at hfirst
    · next hsome =>
      rw [if_pos hsome] at hsecond
      obtain ⟨reporting, hreactions, -⟩ := hwired id hsome
      refine List.inj_on_of_nodup_map ?_ hfirst hsecond (hreaction.trans hreaction'.symm)
      exact hreactions ▸ Tree.nodup_wiring h.wf.linked id reporting
    · cases hfirst

/-- Where no change is under way, nested forms take over what is to come. -/
theorem Sound.inherits (h : layout.Sound) (hinheriting : Inheriting start past layout) :
    Inherits layout.tree layout.roster start past (fun _ => none) layout := by
  refine ⟨nofun, fun id hsome => ?_, fun id hsome observer hmem _ _ => ?_,
    fun child parent hchild haround => ?_⟩
  · rw [roster, if_pos hsome]
  · rwa [roster, if_pos hsome] at hmem
  · have hsome := (h.wf.linked.formAround_spec haround).2
    rw [(h.rests parent hsome).pending]
    exact hinheriting child parent hchild haround

/-- Where no change is under way any more, nested forms have taken over all of it. -/
theorem Inherits.inheriting {roster : NodeId → List (Observer FormReaction)}
    (h : Inherits layout.tree roster start past (fun _ => none) layout) (hsound : layout.Sound) :
    Inheriting start past layout := by
  intro child parent hchild haround
  have hsome := (hsound.wf.linked.formAround_spec haround).2
  have htakes := h.takesOver child parent hchild haround
  rwa [(hsound.rests parent hsome).pending] at htakes

/-- **After a change of a form** nested forms have taken over all that was committed, unless the
change itself submits, enables or disables a nested form. -/
theorem Sound.inheriting_changeForm (h : layout.Sound) (hsome : (layout.tree.form? id).isSome)
    {intent : FormIntent}
    (hspares : layout.tree.isChild id = true → intent.Spares (layout.tree.rules id = []))
    (hinheriting : Inheriting start past layout) :
    Inheriting start past (layout.changeForm id intent) := by
  have htree := (h.change hsome intent).tree_eq
  have hchanged : Inherits layout.tree layout.roster start past (fun _ => none)
      (layout.changeForm id intent) :=
    Inherits.change (Inherits.flush h.wf.linked h.enrolled layout.tree.size) h.wf.linked
      (h.inherits hinheriting) hsome (.inl (Nat.le_add_right _ _)) hspares
  rw [← htree] at hchanged
  exact hchanged.inheriting (h.changeForm hsome intent)

/-- **After a change of a pager** nested forms have taken over all that was committed. -/
theorem Sound.inheriting_updatePager (h : layout.Sound) (hpager : layout.tree.isPager id = true)
    (change : PagerState → PagerState) (hinheriting : Inheriting start past layout) :
    Inheriting start past (layout.updatePager id change) := by
  have hchange := h.pagerChange hpager change
  have hinherits := h.inherits hinheriting
  have hcongr : ∀ {world world' : Layout},
      Inherits layout.tree layout.roster start past (fun _ => none) world →
      (∀ form, world'.form form = world.form form) →
      Inherits layout.tree layout.roster start past (fun _ => none) world' := by
    intro world world' hworld hforms
    exact hworld.of_forms 0 hforms (fun _ _ => rfl) (fun hs => hs) fun _ _ _ => rfl
  have hkept : Inherits layout.tree layout.roster start past (fun _ => none)
      (layout.updatePager id change) := by
    by_cases hsame : change (layout.pager id).value = (layout.pager id).value
    · rw [(updatePager_of_same (h.pagers id hpager) hsame).1]
      exact hcongr hinherits fun _ => rfl
    · refine h.updatePager_induction hpager hsame (hcongr hinherits fun _ => rfl)
        (fun form isEnabled world hrules hworld => ?_)
        fun _ _ _ hworld => hcongr hworld fun _ => rfl
      exact Inherits.change (Inherits.flush h.wf.linked h.enrolled layout.tree.size) h.wf.linked
        hworld (Tree.isSome_form?_of_rules hrules) (.inl (Nat.le_add_right _ _)) fun _ => hrules
  rw [← hchange.aftermath.tree_eq] at hkept
  exact hkept.inheriting hchange.sound

end Layout

end FormTree

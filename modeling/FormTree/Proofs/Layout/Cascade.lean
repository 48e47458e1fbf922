import FormTree.Proofs.Layout.Wake

set_option autoImplicit false

/-!
# What follows from a change of a form

A committed change of a form is delivered to its observers in rounds. A round serves the form's
own observers first and then, in tree order, the forms right inside it; each of these is changed
in the wake, with all that follows. After a round no display is due, the form and the forms right
inside it carry the verdicts of their rules, and the commits that the round made to the form
itself are pending. There are at most two of these in all, so four rounds suffice; and since
changes are nested only down the tree, its size bounds their depth.

## Main definitions

* `FormTree.Layout.Serving` — a form whose observers are being served.
* `FormTree.Layout.Serves` — how the observers of a form change forms.
* `FormTree.Layout.due` — the rounds that are still to come.
* `FormTree.Layout.Ready` — a form that a change may be made to.
* `FormTree.Layout.Change` — what a change with all that follows comes to.

## Main results

* `FormTree.Layout.exists_round` — what one round does.
* `FormTree.Layout.change_of_ready` — what a change with all that follows does.
-/

namespace FormTree

/-! ## Snapshots -/

/-- A snapshot of a form may be behind the form in the flags that the form itself changes; as long
as the display is still to be reported, it knows about that. -/
structure FormState.Behind (snapshot state : FormState) (reporting : Bool) : Prop where
  /-- Everything else is as it is now. -/
  eq : snapshot = { state with
    isEnabled := snapshot.isEnabled, isDisplayReported := snapshot.isDisplayReported }
  /-- Whether the display has been reported. -/
  isDisplayReported : reporting = true → snapshot.isDisplayReported = state.isDisplayReported

namespace FormState.Behind

variable {snapshot state state' : FormState} {reporting : Bool}

/-- The current state is not behind. -/
theorem refl (state : FormState) (reporting : Bool) : Behind state state reporting := ⟨rfl, by simp⟩

/-- A snapshot falls behind when the form is enabled or disabled. -/
theorem setEnabled (h : Behind snapshot state reporting) (isEnabled : Bool) :
    Behind snapshot { state with isEnabled } reporting where
  eq := h.eq
  isDisplayReported := h.isDisplayReported

/-- A snapshot falls behind when the display has been reported. -/
theorem reported (h : Behind snapshot state reporting) :
    Behind snapshot { state with isDisplayReported := true } false where
  eq := h.eq
  isDisplayReported h' := nomatch h'

/-- A snapshot knows what is on screen. -/
theorem displayed_eq (h : Behind snapshot state reporting) :
    snapshot.displayed = state.displayed := by
  rw [h.eq]

/-- A snapshot knows the context. -/
theorem context_eq (h : Behind snapshot state reporting) : snapshot.context = state.context := by
  rw [h.eq]
  rfl

end FormState.Behind

namespace Wired

variable {tree : Tree} {id : NodeId} {wiring : Wiring} {observer : Observer FormReaction}
  {others : List (Observer FormReaction)} {state : Observable FormState FormReaction}

/-- When the observer that reports the display leaves, the others stay. -/
theorem observers_unwatch (h : Wired tree id wiring true state)
    (hobservers : state.observers = observer :: others) :
    (state.unwatch observer.id).observers = others := by
  have hnodup := h.nodup
  rw [hobservers, List.map_cons, List.nodup_cons] at hnodup
  show state.observers.filter _ = others
  rw [hobservers, List.filter_cons_of_neg (by simp), List.filter_eq_self]
  intro other hother
  have hne : other.id ≠ observer.id := fun heq =>
    hnodup.1 (heq ▸ List.mem_map_of_mem hother)
  simpa using hne

/-- When the observer that reports the display leaves, the form is wired without it. -/
theorem unwatch (h : Wired tree id wiring true state)
    (hobservers : state.observers = observer :: others) :
    Wired tree id wiring false (state.unwatch observer.id) where
  reactions := by
    rw [h.observers_unwatch hobservers]
    have := h.reactions
    rw [hobservers] at this
    simpa [Wiring.own] using (List.cons.inj this).2
  nodup := by
    have := h.nodup
    rw [h.observers_unwatch hobservers]
    rw [hobservers, List.map_cons, List.nodup_cons] at this
    exact this.2
  lt_next other hother := by
    rw [h.observers_unwatch hobservers] at hother
    exact h.lt_next other (hobservers ▸ List.mem_cons_of_mem _ hother)

end Wired

namespace Layout

/-! ## Forms that are served -/

/-- The form `id` is being served: its container is delivered, and the forms right inside it rest
with all that they enclose. The observer that reports its display is there if `reporting`. -/
structure Serving (layout : Layout) (id : NodeId) (wiring : Wiring) (reporting : Bool) : Prop where
  /-- A delivery is in progress. -/
  isDelivering : (layout.form id).isDelivering = true
  /-- The observers are there. -/
  wired : Wired layout.tree id wiring reporting (layout.form id)
  /-- Only a form that submits by itself reports its display. -/
  isChild : reporting = true → layout.tree.isChild id = false
  /-- It stops doing so once that has happened. -/
  reported : reporting = false →
    layout.tree.isChild id = true ∨ (layout.form id).value.isDisplayReported = true
  /-- The pending snapshots may be behind the form. -/
  pending : ∀ snapshot ∈ (layout.form id).pending,
    snapshot.Behind (layout.form id).value reporting
  /-- The forms right inside it rest. -/
  below : ∀ inner ∈ wiring.inside, layout.RestsBelow inner

/-- The observers of the form `id` change forms by `update`: to the form itself, which is being
delivered, a change is committed; the forms right inside it are changed in the wake, with all that
follows. -/
structure Serves (update : FormUpdate) (tree : Tree) (id : NodeId) (inside : List NodeId) :
    Prop where
  /-- A change of the form itself. -/
  own : ∀ (intent : FormIntent) (layout : Layout), (layout.form id).isDelivering = true →
    update id intent layout = layout.commitForm id intent
  /-- A form right inside it is changed in the wake. -/
  wake : ∀ inner ∈ inside, ∀ (intent : FormIntent) (layout : Layout), layout.tree = tree →
    intent.IsFollowing (tree.isChild inner) → layout.RestsBelow inner →
    Wake inner layout (update inner intent layout)
  /-- Such a form carries its verdict if the change itself makes it do so. -/
  ruled : ∀ inner ∈ inside, ∀ (intent : FormIntent) (layout : Layout), layout.tree = tree →
    intent.IsFollowing (tree.isChild inner) → layout.RestsBelow inner →
    (layout.commitForm inner intent).Ruled inner → (update inner intent layout).Ruled inner

/-- The rounds that are still to come: one for each pending snapshot, one if the form is to report
its display, and one if it is to be enabled or disabled by its rules. -/
def due (layout : Layout) (id : NodeId) (refreshes : Bool) : Nat :=
  (layout.form id).pending.length + (layout.owesDisplay id).toNat +
    (refreshes && (layout.form id).value.isEnabled != layout.verdict id).toNat

/-- The rest of a round, after the display: a turn, after which the form is still being served,
by the same observers, with as many rounds to come. -/
structure Phase (id : NodeId) (wiring : Wiring) (reporting : Bool) (layout layout' : Layout) :
    Prop where
  /-- It is a turn. -/
  turn : Turn id layout layout'
  /-- The form is still being served. -/
  serving : layout'.Serving id wiring reporting
  /-- The observers are the same. -/
  observers : (layout'.form id).observers = (layout.form id).observers
  /-- There are as many rounds to come. -/
  due : layout'.due id wiring.refreshes = layout.due id wiring.refreshes

namespace Phase

variable {id : NodeId} {wiring : Wiring} {reporting : Bool} {layout layout' layout'' : Layout}

/-- Doing nothing, if no display is due. -/
theorem refl (hserving : layout.Serving id wiring reporting)
    (howes : layout.owesDisplay id = false) : Phase id wiring reporting layout layout :=
  ⟨.refl howes, hserving, rfl, rfl⟩

/-- One phase after the other. -/
theorem trans (h : Phase id wiring reporting layout layout')
    (h' : Phase id wiring reporting layout' layout'') :
    Phase id wiring reporting layout layout'' :=
  ⟨h.turn.trans h'.turn, h'.serving, h'.observers.trans h.observers, h'.due.trans h.due⟩

end Phase

/-! ## Phases of a round -/

section Phases

variable {update : FormUpdate} {id : NodeId} {wiring : Wiring} {reporting : Bool}
  {snapshot : FormState} {layout layout' : Layout}

/-- As long as only the form `id` changes, the forms right inside it rest. -/
theorem below_of_others (linked : layout.tree.Linked) (fits : wiring.Fits layout.tree id)
    (hbelow : ∀ inner ∈ wiring.inside, layout.RestsBelow inner)
    (htree : layout'.tree = layout.tree)
    (hothers : ∀ other, other ≠ id → layout'.form other = layout.form other) :
    ∀ inner ∈ wiring.inside, layout'.RestsBelow inner := by
  intro inner hinner
  refine (hbelow inner hinner).congr htree fun other hin => hothers other ?_
  rintro rfl
  exact linked.not_encloses_around (Tree.mem_inside.mp (fits.mem_inside inner hinner)).2 hin

/-- An observer of the form is watching. -/
theorem isActive_of_mem {observer : Observer FormReaction}
    (h : observer ∈ (layout.form id).observers) :
    ((formPlace id).get layout).isActive observer.id = true :=
  Observable.isActive_of_mem h

/-- If the observer that reports the display is gone, no display is due. -/
theorem Serving.owesDisplay_of_false (h : layout.Serving id wiring false) :
    layout.owesDisplay id = false := by
  unfold owesDisplay
  rcases h.reported rfl with hc | hr
  · simp [hc]
  · simp [hr]

/-- When the observer that reports the display leaves, the form is served without it. -/
theorem serving_unwatch (linked : layout.tree.Linked) (fits : wiring.Fits layout.tree id)
    {observer : Observer FormReaction} {others : List (Observer FormReaction)}
    (hdelivering : (layout.form id).isDelivering = true)
    (hwired : Wired layout.tree id wiring true (layout.form id))
    (hobservers : (layout.form id).observers = observer :: others)
    (hreported : (layout.form id).value.isDisplayReported = true)
    (hpending : ∀ snapshot ∈ (layout.form id).pending,
      snapshot.Behind (layout.form id).value false)
    (hbelow : ∀ inner ∈ wiring.inside, layout.RestsBelow inner) :
    ((formPlace id).modify layout (·.unwatch observer.id)).Serving id wiring false := by
  have hform : ((formPlace id).modify layout (·.unwatch observer.id)).form id =
      (layout.form id).unwatch observer.id := by rw [form_modify, if_pos rfl]
  refine ⟨?_, ?_, nofun, fun _ => .inr ?_, ?_, ?_⟩
  · rw [hform]
    exact hdelivering
  · rw [hform]
    exact hwired.unwatch hobservers
  · rw [hform]
    exact hreported
  · rw [hform]
    exact hpending
  · exact below_of_others linked fits hbelow rfl fun other hne => by
      rw [form_modify, if_neg (Ne.symm hne)]

/-- The layout once the form `id` has noted that its display is reported. -/
def reportDisplay (layout : Layout) (id : NodeId) : Layout :=
  (layout.push (.bubble id (.formDisplay (.ofForm (layout.form id).value.context)))).commitForm id
    .displayReported

/-- The form is noted to have reported its display. -/
theorem form_reportDisplay (layout : Layout) (id other : NodeId) :
    (layout.reportDisplay id).form other =
      if id = other then
        (layout.form id).commit { (layout.form id).value with isDisplayReported := true }
      else layout.form other := by
  rw [reportDisplay, commitForm, form_modify]
  rfl

/-- Reporting a display keeps the verdict of the form. -/
theorem verdict_reportDisplay (layout : Layout) (id : NodeId) :
    (layout.reportDisplay id).verdict id = layout.verdict id := by
  refine verdict_congr rfl (fun around _ => ?_) ?_ ?_ fun _ pager _ => rfl
  · rw [form_reportDisplay]
    split
    · next heq => rw [Observable.value_commit, heq]
    · rfl
  · rw [form_reportDisplay, if_pos rfl, Observable.value_commit]
  · rw [form_reportDisplay, if_pos rfl, Observable.value_commit]

/-- Reporting a display that is due is a turn. -/
theorem turn_reportDisplay (howes : layout.owesDisplay id = true) :
    Turn id layout (layout.reportDisplay id) := by
  have hform := form_reportDisplay layout id id
  rw [if_pos rfl] at hform
  refine .own rfl (fun other hne => ?_) ?_ ?_ ⟨[], by simp, ?_⟩ fun hruled hne => ?_
  · rw [form_reportDisplay, if_neg (Ne.symm hne)]
  · rw [hform, Observable.value_commit, howes, Bool.or_true]
  · refine ⟨_, by rw [hform, Observable.history_commit], fun state hstate => ?_⟩
    unfold Observable.added at hstate
    split at hstate
    · simp at hstate
    · obtain rfl := List.mem_singleton.mp hstate
      rfl
  · simp [reportDisplay, commitForm, displayNotice, howes]
  · rw [verdict_reportDisplay, hform, Observable.value_commit]
    exact hruled hne

/-- Reporting a display that is due leaves as many rounds to come: the report is no longer due, but
a snapshot is pending. -/
theorem due_reportDisplay (howes : layout.owesDisplay id = true) (refreshes : Bool) :
    (layout.reportDisplay id).due id refreshes = layout.due id refreshes := by
  have hform := form_reportDisplay layout id id
  rw [if_pos rfl] at hform
  have hreported : (layout.form id).value.isDisplayReported = false := by
    simp only [owesDisplay, Bool.and_eq_true, Bool.not_eq_true'] at howes
    exact howes.1.2
  have hadded : (layout.form id).added { (layout.form id).value with isDisplayReported := true } =
      [{ (layout.form id).value with isDisplayReported := true }] := by
    refine if_neg fun heq => ?_
    have := congrArg FormState.isDisplayReported heq
    simp [hreported] at this
  unfold due
  rw [verdict_reportDisplay, (turn_reportDisplay howes).owesDisplay, howes, hform,
    Observable.pending_commit, Observable.value_commit, hadded, List.length_append]
  simp

/-- After the display is reported the observer that does so leaves, and the form is still
served. -/
theorem serving_reportDisplay (linked : layout.tree.Linked) (fits : wiring.Fits layout.tree id)
    (hserving : layout.Serving id wiring true)
    {observer : Observer FormReaction} {others : List (Observer FormReaction)}
    (hobservers : (layout.form id).observers = observer :: others) :
    ((formPlace id).modify (layout.reportDisplay id) (·.unwatch observer.id)).Serving id wiring
        false ∧
      (((formPlace id).modify (layout.reportDisplay id) (·.unwatch observer.id)).form
        id).observers = others := by
  have hform := form_reportDisplay layout id id
  rw [if_pos rfl] at hform
  have hwired : Wired (layout.reportDisplay id).tree id wiring true
      ((layout.reportDisplay id).form id) :=
    hserving.wired.congr (by rw [hform, Observable.observers_commit])
      (by rw [hform, Observable.nextObserver_commit])
  have hobservers' : ((layout.reportDisplay id).form id).observers = observer :: others := by
    rw [hform, Observable.observers_commit, hobservers]
  have linked' : (layout.reportDisplay id).tree.Linked := linked
  have fits' : wiring.Fits (layout.reportDisplay id).tree id := fits
  constructor
  · refine serving_unwatch linked' fits' ?_ hwired hobservers' ?_ ?_ ?_
    · rw [hform, Observable.isDelivering_commit, hserving.isDelivering]
    · rw [hform, Observable.value_commit]
    · rw [hform, Observable.value_commit, Observable.pending_commit]
      intro other hother
      rcases List.mem_append.mp hother with hother | hother
      · exact (hserving.pending other hother).reported
      · unfold Observable.added at hother
        split at hother
        · simp at hother
        · obtain rfl := List.mem_singleton.mp hother
          exact .refl _ _
    · exact below_of_others linked fits hserving.below rfl fun other hne => by
        rw [form_reportDisplay, if_neg (Ne.symm hne)]
  · rw [form_modify, if_pos rfl, hwired.observers_unwatch hobservers']

/-- The first phase: the display is reported if it is due. Afterwards the observer that reports it
is there only if that has not happened. -/
theorem report_phase (linked : layout.tree.Linked) (fits : wiring.Fits layout.tree id)
    (serves : Serves update layout.tree id wiring.inside)
    (hserving : layout.Serving id wiring reporting)
    (hbehind : snapshot.Behind (layout.form id).value reporting)
    {first others : List (Observer FormReaction)}
    (hobservers : (layout.form id).observers = first ++ others)
    (hfirst : first.map (·.reaction) = if reporting then [.reportDisplay id] else []) :
    ∃ (layout' : Layout) (reporting' : Bool),
      (formPlace id).deliver (reactForm update) snapshot first layout = (layout', true) ∧
      Turn id layout layout' ∧ layout'.Serving id wiring reporting' ∧
      (reporting' = true → (layout'.form id).value.isDisplayReported = false) ∧
      (∀ observer ∈ others, observer ∈ (layout'.form id).observers) ∧
      layout'.due id wiring.refreshes = layout.due id wiring.refreshes := by
  cases reporting with
  | false =>
    obtain rfl : first = [] := by simpa using hfirst
    rw [List.nil_append] at hobservers
    exact ⟨layout, false, rfl, .refl hserving.owesDisplay_of_false, hserving, by simp,
      by simp [hobservers], rfl⟩
  | true =>
    obtain ⟨observer, rfl, hreaction⟩ : ∃ observer, first = [observer] ∧
        observer.reaction = .reportDisplay id := by simpa [List.map_eq_singleton_iff] using hfirst
    have hactive : ((formPlace id).get layout).isActive observer.id = true :=
      isActive_of_mem (by simp [hobservers])
    have hchild := hserving.isChild rfl
    have hknown := hbehind.isDisplayReported rfl
    by_cases hreported : snapshot.isDisplayReported = true
    · -- it has been reported before: the observer leaves
      have hvalue := hknown.symm.trans hreported
      have hquiet : Quiet id layout ((formPlace id).modify layout (·.unwatch observer.id)) :=
        quiet_modify layout id (fun _ => rfl) fun _ => rfl
      refine ⟨_, false, (formPlace id).deliver_leave _ hactive
        (by simp [reactForm, hreaction, hreported]), (Turn.refl ?_).after hquiet,
        serving_unwatch linked fits hserving.isDelivering hserving.wired hobservers hvalue
          (fun other hother => ⟨(hserving.pending other hother).eq, nofun⟩) hserving.below,
        nofun, ?_, ?_⟩
      · simp [owesDisplay, hvalue]
      · simp [form_modify, hserving.wired.observers_unwatch hobservers]
      · unfold due
        rw [hquiet.owesDisplay_eq, hquiet.verdict_eq, hquiet.value, form_modify, if_pos rfl]
        rfl
    · have hvalue := hknown.symm.trans (Bool.not_eq_true _ ▸ hreported)
      by_cases hempty : snapshot.displayed.isEmpty = true
      · -- nothing is on screen yet: the observer waits
        refine ⟨layout, true, (formPlace id).deliver_stay _ hactive
          (by simp [reactForm, hreaction, hreported, hempty]), .refl ?_, hserving,
          fun _ => hvalue, by simp +contextual [hobservers], rfl⟩
        rw [hbehind.displayed_eq] at hempty
        simp [owesDisplay, hempty]
      · -- the display is due
        have howes : layout.owesDisplay id = true := by
          rw [hbehind.displayed_eq] at hempty
          simp [owesDisplay, hchild, hvalue, hempty]
        have hquiet : Quiet id (layout.reportDisplay id)
            ((formPlace id).modify (layout.reportDisplay id) (·.unwatch observer.id)) :=
          quiet_modify _ id (fun _ => rfl) fun _ => rfl
        obtain ⟨hserving', hobservers'⟩ := serving_reportDisplay linked fits hserving hobservers
        refine ⟨_, false, (formPlace id).deliver_leave _ hactive ?_,
          (turn_reportDisplay howes).after hquiet, hserving', nofun, ?_, ?_⟩
        · simp only [reactForm, hreaction, hreported, hempty, hbehind.context_eq]
          exact congrArg (·, Flow.leave) (serves.own _ _ hserving.isDelivering)
        · rw [hobservers']
          exact fun _ h => h
        · rw [← due_reportDisplay howes]
          unfold due
          rw [hquiet.owesDisplay_eq, hquiet.verdict_eq, hquiet.value, form_modify, if_pos rfl]
          rfl

/-- A commit reaches its form and no other. -/
theorem form_commitForm (layout : Layout) (id other : NodeId) (intent : FormIntent) :
    (layout.commitForm id intent).form other =
      if id = other then (layout.form id).commit ((layout.form id).value.reduce intent)
      else layout.form other := by
  rw [commitForm, form_modify]

/-- A commit puts nothing into the outbox. -/
@[simp] theorem outbox_commitForm (layout : Layout) (id : NodeId) (intent : FormIntent) :
    (layout.commitForm id intent).outbox = layout.outbox := rfl

/-- Enabling or disabling a form keeps its verdict. -/
theorem verdict_setEnabled (linked : layout.tree.Linked) (isEnabled : Bool) :
    (layout.commitForm id (.setEnabled isEnabled)).verdict id = layout.verdict id := by
  refine verdict_congr rfl (fun around haround => ?_) ?_ ?_ fun _ pager _ => rfl
  · rw [form_commitForm, if_neg (Nat.ne_of_gt (linked.formAround_lt haround))]
  · rw [form_commitForm, if_pos rfl, Observable.value_commit, FormState.reduce]
  · rw [form_commitForm, if_pos rfl, Observable.value_commit, FormState.reduce]

/-- Once its verdict is committed, a form carries it. -/
theorem ruled_setEnabled (linked : layout.tree.Linked) :
    (layout.commitForm id (.setEnabled (layout.verdict id))).Ruled id := by
  intro _
  rw [verdict_setEnabled linked, form_commitForm, if_pos rfl, Observable.value_commit,
    FormState.reduce]

/-- Committing its verdict is a turn at a form. -/
theorem turn_setEnabled (linked : layout.tree.Linked) (howes : layout.owesDisplay id = false) :
    Turn id layout (layout.commitForm id (.setEnabled (layout.verdict id))) := by
  have hform := form_commitForm layout id id (.setEnabled (layout.verdict id))
  rw [if_pos rfl, FormState.reduce] at hform
  refine .own rfl (fun other hne => ?_) ?_ ?_ ⟨[], by simp, ?_⟩ fun _ => ruled_setEnabled linked
  · rw [form_commitForm, if_neg (Ne.symm hne)]
  · rw [hform, Observable.value_commit, howes, Bool.or_false]
  · refine ⟨_, by rw [hform, Observable.history_commit], fun state hstate => ?_⟩
    unfold Observable.added at hstate
    split at hstate
    · simp at hstate
    · obtain rfl := List.mem_singleton.mp hstate
      rfl
  · simp [commitForm, displayNotice, howes]

/-- Committing its verdict leaves as many rounds to come at a form that evaluates its rules. -/
theorem due_setEnabled (linked : layout.tree.Linked) (howes : layout.owesDisplay id = false) :
    (layout.commitForm id (.setEnabled (layout.verdict id))).due id true = layout.due id true := by
  have hform := form_commitForm layout id id (.setEnabled (layout.verdict id))
  rw [if_pos rfl, FormState.reduce] at hform
  unfold due
  rw [verdict_setEnabled linked, (turn_setEnabled linked howes).owesDisplay, howes, hform,
    Observable.pending_commit, Observable.value_commit, List.length_append]
  by_cases heq : (layout.form id).value.isEnabled = layout.verdict id
  · have hadded : (layout.form id).added
        { (layout.form id).value with isEnabled := layout.verdict id } = [] := by
      refine if_pos ?_
      rw [← heq]
    rw [hadded]
    simp [heq]
  · have hadded : (layout.form id).added
        { (layout.form id).value with isEnabled := layout.verdict id } =
        [{ (layout.form id).value with isEnabled := layout.verdict id }] := by
      refine if_neg fun h => heq ?_
      exact (congrArg FormState.isEnabled h).symm
    have hdiffers : ((layout.form id).value.isEnabled != layout.verdict id) = true :=
      bne_iff_ne.mpr heq
    rw [hadded]
    simp [hdiffers]

/-- The second phase: a form that evaluates its rules comes to their verdict. -/
theorem refresh_phase (wf : layout.tree.WellFormed) (fits : wiring.Fits layout.tree id)
    (serves : Serves update layout.tree id wiring.inside)
    (hserving : layout.Serving id wiring reporting) (howes : layout.owesDisplay id = false)
    {observers : List (Observer FormReaction)}
    (hobservers : ∀ observer ∈ observers, observer ∈ (layout.form id).observers)
    (hreactions : observers.map (·.reaction) = if wiring.refreshes then [.refresh id] else []) :
    ∃ layout', (formPlace id).deliver (reactForm update) snapshot observers layout =
        (layout', true) ∧
      Phase id wiring reporting layout layout' ∧ (wiring.refreshes = true → layout'.Ruled id) := by
  cases hrefreshes : wiring.refreshes with
  | false =>
    obtain rfl : observers = [] := by simpa [hrefreshes] using hreactions
    exact ⟨layout, rfl, .refl hserving howes, nofun⟩
  | true =>
    obtain ⟨observer, rfl, hreaction⟩ : ∃ observer, observers = [observer] ∧
        observer.reaction = .refresh id := by
      simpa [hrefreshes, List.map_eq_singleton_iff] using hreactions
    have hactive : ((formPlace id).get layout).isActive observer.id = true :=
      isActive_of_mem (by simpa using hobservers)
    have hne : layout.tree.rules id ≠ [] := by
      intro hnil
      have := fits.hasForm hrefreshes
      simp [hnil, EnableRules.hasForm] at this
    have hform := form_commitForm layout id id (.setEnabled (layout.verdict id))
    rw [if_pos rfl, FormState.reduce] at hform
    refine ⟨_, (formPlace id).deliver_stay _ hactive ?_,
      ⟨turn_setEnabled wf.linked howes, ⟨?_, ?_, hserving.isChild, ?_, ?_, ?_⟩, ?_, ?_⟩,
      fun _ => ruled_setEnabled wf.linked⟩
    · simp only [reactForm, hreaction, refresh]
      rw [serves.own _ _ hserving.isDelivering, rulesHold_eq_verdict wf hne]
    · rw [hform, Observable.isDelivering_commit, hserving.isDelivering]
    · exact hserving.wired.congr (by rw [hform, Observable.observers_commit])
        (by rw [hform, Observable.nextObserver_commit])
    · rw [hform, Observable.value_commit]
      exact hserving.reported
    · rw [hform, Observable.value_commit, Observable.pending_commit]
      intro other hother
      rcases List.mem_append.mp hother with hother | hother
      · exact (hserving.pending other hother).setEnabled _
      · unfold Observable.added at hother
        split at hother
        · simp at hother
        · obtain rfl := List.mem_singleton.mp hother
          exact .refl _ _
    · exact below_of_others wf.linked fits hserving.below rfl fun other hne => by
        rw [form_commitForm, if_neg (Ne.symm hne)]
    · rw [hform, Observable.observers_commit]
    · rw [hrefreshes]
      exact due_setEnabled wf.linked howes

/-- The third phase: the flags of the form are announced if they changed. -/
theorem announce_phase (wf : layout.tree.WellFormed) (hsome : (layout.tree.form? id).isSome)
    (fits : wiring.Fits layout.tree id)
    (hserving : layout.Serving id wiring reporting) (howes : layout.owesDisplay id = false)
    {observers : List (Observer FormReaction)}
    (hobservers : ∀ observer ∈ observers, observer ∈ (layout.form id).observers)
    (hreactions : observers.map (·.reaction) = if wiring.announces then [.announce id] else []) :
    ∃ layout', (formPlace id).deliver (reactForm update) snapshot observers layout =
        (layout', true) ∧ Phase id wiring reporting layout layout' := by
  cases hannounces : wiring.announces with
  | false =>
    obtain rfl : observers = [] := by simpa [hannounces] using hreactions
    exact ⟨layout, rfl, .refl hserving howes⟩
  | true =>
    obtain ⟨observer, rfl, hreaction⟩ : ∃ observer, observers = [observer] ∧
        observer.reaction = .announce id := by
      simpa [hannounces, List.map_eq_singleton_iff] using hreactions
    have hactive : ((formPlace id).get layout).isActive observer.id = true :=
      isActive_of_mem (by simpa using hobservers)
    by_cases hsame : (layout.announced.get id).getLast? = some snapshot.status
    · exact ⟨layout, (formPlace id).deliver_stay _ hactive
        (by simp [reactForm, hreaction, hsame]), .refl hserving howes⟩
    · have hturn : Turn id layout (layout.announce id snapshot.status) := by
        refine .own rfl (fun _ _ => rfl) ?_ ⟨[], by simp, by simp⟩
          ⟨[.trickle id (.validationUpdate id snapshot.status)], ?_, ?_⟩ fun h => h
        · rw [form_announce, howes, Bool.or_false]
        · simpa [Dispatch.IsAnnouncement] using hsome
        · simp [displayNotice, howes]
      exact ⟨_, (formPlace id).deliver_stay _ hactive (by simp [reactForm, hreaction, hsame]),
        hturn, ⟨hserving.isDelivering, hserving.wired, hserving.isChild, hserving.reported,
          hserving.pending, below_of_others wf.linked fits hserving.below rfl fun _ _ => rfl⟩,
        rfl, rfl⟩

/-- A change of a form right inside, in the wake of the form. -/
theorem phase_of_wake (wf : layout.tree.WellFormed) (fits : wiring.Fits layout.tree id)
    (hserving : layout.Serving id wiring reporting) (howes : layout.owesDisplay id = false)
    {inner : NodeId} (hinner : inner ∈ wiring.inside) (hwake : Wake inner layout layout') :
    Phase id wiring reporting layout layout' := by
  have haround := (Tree.mem_inside.mp (fits.mem_inside inner hinner)).2
  have hform := hwake.form_around wf.linked haround
  have hturn := hwake.turn wf.linked haround howes
  refine ⟨hturn, ⟨?_, ?_, ?_, ?_, ?_, fun other hother => ?_⟩, ?_, ?_⟩
  · rw [hform, hserving.isDelivering]
  · rw [hform, hwake.tree_eq]
    exact hserving.wired
  · rw [hwake.tree_eq]
    exact hserving.isChild
  · rw [hform, hwake.tree_eq]
    exact hserving.reported
  · rw [hform]
    exact hserving.pending
  · exact hwake.restsBelow (hserving.below other hother)
  · rw [hform]
  · unfold due
    rw [hform, hturn.verdict_eq wf, hturn.owesDisplay, howes]

/-- A form right inside follows by its ties, and comes to its verdict. -/
theorem ties_phase (wf : layout.tree.WellFormed) (fits : wiring.Fits layout.tree id)
    (serves : Serves update layout.tree id wiring.inside)
    (hserving : layout.Serving id wiring reporting) (howes : layout.owesDisplay id = false)
    {inner : NodeId} (hinner : inner ∈ wiring.inside)
    {observers : List (Observer FormReaction)}
    (hobservers : ∀ observer ∈ observers, observer ∈ (layout.form id).observers)
    (hreactions : observers.map (·.reaction) = layout.tree.ties inner) :
    ∃ layout', (formPlace id).deliver (reactForm update) snapshot observers layout =
        (layout', true) ∧
      Phase id wiring reporting layout layout' ∧ layout'.Ruled inner ∧
      ∀ other, other ≠ inner → layout.Ruled other → layout'.Ruled other := by
  unfold Tree.ties at hreactions
  obtain ⟨first, second, rfl, hfirst, hsecond⟩ := List.map_eq_append_iff.mp hreactions
  have haround := (Tree.mem_inside.mp (fits.mem_inside inner hinner)).2
  -- submission and disablement are taken over first
  obtain ⟨middle, hdeliver, hphase, hkept⟩ : ∃ middle,
      (formPlace id).deliver (reactForm update) snapshot first layout = (middle, true) ∧
      Phase id wiring reporting layout middle ∧
      ∀ other, other ≠ inner → layout.Ruled other → middle.Ruled other := by
    by_cases hchild : layout.tree.isChild inner = true
    · obtain ⟨observer, rfl, hreaction⟩ : ∃ observer, first = [observer] ∧
          observer.reaction = .inherit inner := by
        simpa [hchild, List.map_eq_singleton_iff] using hfirst
      have hactive : ((formPlace id).get layout).isActive observer.id = true :=
        isActive_of_mem (hobservers observer (by simp))
      have hwake := serves.wake inner hinner (.inherit snapshot.isSubmitted snapshot.isEnabled)
        layout rfl hchild (hserving.below inner hinner)
      exact ⟨_, (formPlace id).deliver_stay _ hactive (by simp only [reactForm, hreaction]),
        phase_of_wake wf fits hserving howes hinner hwake, hwake.ruled⟩
    · obtain rfl : first = [] := by simpa [hchild] using hfirst
      exact ⟨layout, rfl, .refl hserving howes, fun _ _ h => h⟩
  have htree := hphase.turn.tree_eq
  -- then the rules are evaluated
  by_cases hnil : layout.tree.rules inner = []
  · obtain rfl : second = [] := by simpa [hnil] using hsecond
    rw [List.append_nil]
    exact ⟨middle, hdeliver, hphase, fun hne => absurd (htree ▸ hnil) hne, hkept⟩
  · obtain ⟨observer, rfl, hreaction⟩ : ∃ observer, second = [observer] ∧
        observer.reaction = .refresh inner := by
      simpa [hnil, List.map_eq_singleton_iff] using hsecond
    have hactive : ((formPlace id).get middle).isActive observer.id = true := by
      refine isActive_of_mem ?_
      rw [hphase.observers]
      exact hobservers observer (by simp)
    have hbelow := hphase.serving.below inner hinner
    have hrules : middle.rulesHold inner = middle.verdict inner :=
      rulesHold_eq_verdict (htree ▸ wf) (htree ▸ hnil)
    have hwake := serves.wake inner hinner (.setEnabled (middle.verdict inner)) middle htree trivial
      hbelow
    refine ⟨_, ((formPlace id).deliver_append _ hdeliver).trans
      ((formPlace id).deliver_stay _ hactive ?_), hphase.trans
      (phase_of_wake (htree ▸ wf) (htree ▸ fits) hphase.serving hphase.turn.owesDisplay hinner
        hwake), ?_, fun other hne hr => hwake.ruled other hne (hkept other hne hr)⟩
    · simp only [reactForm, hreaction, refresh, hrules]
    · exact serves.ruled inner hinner _ middle htree trivial hbelow
        (ruled_setEnabled (htree ▸ wf.linked))

/-- The last phase: the forms right inside follow, one after the other, and come to their
verdicts. -/
theorem inside_phase (wf : layout.tree.WellFormed) (fits : wiring.Fits layout.tree id)
    (serves : Serves update layout.tree id wiring.inside)
    (hserving : layout.Serving id wiring reporting) (howes : layout.owesDisplay id = false) :
    ∀ (list : List NodeId), (∀ inner ∈ list, inner ∈ wiring.inside) → list.Nodup →
    ∀ (observers : List (Observer FormReaction)),
      (∀ observer ∈ observers, observer ∈ (layout.form id).observers) →
      observers.map (·.reaction) = list.flatMap layout.tree.ties →
    ∃ layout', (formPlace id).deliver (reactForm update) snapshot observers layout =
        (layout', true) ∧
      Phase id wiring reporting layout layout' ∧ (∀ inner ∈ list, layout'.Ruled inner) ∧
      ∀ other, other ∉ list → layout.Ruled other → layout'.Ruled other := by
  intro list
  induction list generalizing layout with
  | nil =>
    intro _ _ observers _ hreactions
    obtain rfl : observers = [] := by simpa using hreactions
    exact ⟨layout, rfl, .refl hserving howes, by simp, fun _ _ h => h⟩
  | cons inner rest ih =>
    intro hmem hnodup observers hobservers hreactions
    rw [List.flatMap_cons] at hreactions
    obtain ⟨first, second, rfl, hfirst, hsecond⟩ := List.map_eq_append_iff.mp hreactions
    rw [List.nodup_cons] at hnodup
    obtain ⟨middle, hdeliver, hphase, hruled, hkept⟩ := ties_phase wf fits serves hserving howes
      (hmem inner (by simp)) (fun observer h => hobservers observer (by simp [h])) hfirst
    have htree := hphase.turn.tree_eq
    obtain ⟨layout', hdeliver', hphase', hruled', hkept'⟩ := ih (htree ▸ wf) (htree ▸ fits)
      (htree ▸ serves) hphase.serving hphase.turn.owesDisplay
      (fun other hother => hmem other (by simp [hother])) hnodup.2 second
      (fun observer h => hphase.observers ▸ hobservers observer (by simp [h])) (htree ▸ hsecond)
    refine ⟨layout', ((formPlace id).deliver_append _ hdeliver).trans hdeliver',
      hphase.trans hphase', fun other hother => ?_, fun other hother hr => ?_⟩
    · rcases List.mem_cons.mp hother with rfl | hother
      · exact hkept' other hnodup.1 hruled
      · exact hruled' other hother
    · rw [List.mem_cons, not_or] at hother
      exact hkept' other hother.2 (hkept other hother.1 hr)

end Phases

/-! ## Rounds -/

/-- The form `id` has been served: the forms right inside it carry their verdicts, it does so
itself if it evaluates its rules, and it reports its display only if that has not happened. -/
structure Served (layout : Layout) (id : NodeId) (wiring : Wiring) : Prop where
  /-- It is still delivered. -/
  serving : ∃ reporting, layout.Serving id wiring reporting ∧
    (reporting = true → (layout.form id).value.isDisplayReported = false)
  /-- No display is due. -/
  owesDisplay : layout.owesDisplay id = false
  /-- The form carries its verdict. -/
  ruled : wiring.refreshes = true → layout.Ruled id
  /-- So do the forms right inside it. -/
  inside : ∀ inner ∈ wiring.inside, layout.Ruled inner

section Rounds

variable {update : FormUpdate} {id : NodeId} {wiring : Wiring} {reporting : Bool}
  {layout layout' : Layout}

/-- At the start of a round the form is being served, and there is one round less to come. -/
theorem serving_pop (linked : layout.tree.Linked) (fits : wiring.Fits layout.tree id)
    (hserving : layout.Serving id wiring reporting) {snapshot : FormState}
    {pending : List FormState} (hpending : (layout.form id).pending = snapshot :: pending) :
    ((formPlace id).pop layout pending).Serving id wiring reporting ∧
      ((formPlace id).pop layout pending).due id wiring.refreshes + 1 =
        layout.due id wiring.refreshes := by
  have hquiet : Quiet id layout ((formPlace id).pop layout pending) :=
    quiet_modify layout id (fun _ => rfl) fun _ => rfl
  have hform : ((formPlace id).pop layout pending).form id =
      { layout.form id with pending } := by rw [Place.pop, form_modify, if_pos rfl]
  refine ⟨⟨?_, ?_, hserving.isChild, ?_, fun other hother => ?_, ?_⟩, ?_⟩
  · rw [hform]
    exact hserving.isDelivering
  · rw [hform]
    exact hserving.wired.congr rfl rfl
  · rw [hform]
    exact hserving.reported
  · rw [hform] at hother ⊢
    exact hserving.pending other (hpending ▸ List.mem_cons_of_mem _ hother)
  · exact below_of_others linked fits hserving.below hquiet.tree_eq hquiet.others
  · unfold due
    rw [hquiet.owesDisplay_eq, hquiet.verdict_eq, hform, hpending, List.length_cons]
    dsimp only
    omega

/-- **What one round does.** It is a turn, it leaves the form served, and there are fewer rounds
to come.

**Proof sketch.** The observers are served phase by phase: the report of the display, the rules,
the announcement, and then the forms right inside. Every phase but the first keeps the number of
rounds to come and finds no display due, and the first one keeps the number as well; the snapshot
that was delivered is no longer pending. -/
theorem exists_round (wf : layout.tree.WellFormed) (hsome : (layout.tree.form? id).isSome)
    (fits : wiring.Fits layout.tree id) (serves : Serves update layout.tree id wiring.inside)
    (hserving : layout.Serving id wiring reporting) {snapshot : FormState}
    {pending : List FormState} (hpending : (layout.form id).pending = snapshot :: pending) :
    ∃ layout', (formPlace id).deliver (reactForm update) snapshot
        ((formPlace id).get ((formPlace id).pop layout pending)).observers
        ((formPlace id).pop layout pending) = (layout', true) ∧
      Turn id layout layout' ∧ layout'.Served id wiring ∧
      layout'.due id wiring.refreshes < layout.due id wiring.refreshes := by
  obtain ⟨hserving₀, hdue₀⟩ := serving_pop wf.linked fits hserving hpending
  have hbehind := hserving.pending snapshot (hpending ▸ List.mem_cons_self)
  have hquiet : Quiet id layout ((formPlace id).pop layout pending) :=
    quiet_modify layout id (fun _ => rfl) fun _ => rfl
  generalize (formPlace id).pop layout pending = start at *
  have htree₀ := hquiet.tree_eq
  rw [← hquiet.value] at hbehind
  rw [← htree₀] at wf hsome fits serves
  -- the observers in the order of the phases
  have hreactions := hserving₀.wired.reactions
  obtain ⟨own, inside, hobservers, hown, hinside⟩ := List.map_eq_append_iff.mp hreactions
  obtain ⟨first, own, rfl, hfirst, hown⟩ := List.map_eq_append_iff.mp hown
  obtain ⟨second, third, rfl, hsecond, hthird⟩ := List.map_eq_append_iff.mp hown
  rw [List.append_assoc, List.append_assoc] at hobservers
  obtain ⟨layout₁, reporting₁, hdeliver₁, hturn₁, hserving₁, hunreported₁, hactive₁, hdue₁⟩ :=
    report_phase wf.linked fits serves hserving₀ hbehind hobservers hfirst
  have htree₁ := hturn₁.tree_eq
  rw [← htree₁] at wf hsome fits serves hinside
  obtain ⟨layout₂, hdeliver₂, hphase₂, hruled₂⟩ := refresh_phase wf fits serves hserving₁
    hturn₁.owesDisplay (fun observer h => hactive₁ observer (by simp [h])) hsecond
  have htree₂ := hphase₂.turn.tree_eq
  rw [← htree₂] at wf hsome fits serves hinside
  obtain ⟨layout₃, hdeliver₃, hphase₃⟩ := announce_phase wf hsome fits hphase₂.serving
    hphase₂.turn.owesDisplay
    (fun observer h => hphase₂.observers ▸ hactive₁ observer (by simp [h])) hthird
  have htree₃ := hphase₃.turn.tree_eq
  rw [← htree₃] at wf hsome fits serves hinside
  obtain ⟨layout₄, hdeliver₄, hphase₄, hruled₄, hkept₄⟩ := inside_phase wf fits serves
    hphase₃.serving hphase₃.turn.owesDisplay wiring.inside (fun _ h => h) fits.nodup inside
    (fun observer h => (hphase₂.trans hphase₃).observers ▸ hactive₁ observer (by simp [h]))
    hinside
  have hphase := (hphase₂.trans hphase₃).trans hphase₄
  have hself : id ∉ wiring.inside := by
    intro h
    have := wf.linked.formAround_lt (Tree.mem_inside.mp (fits.mem_inside id h)).2
    omega
  refine ⟨layout₄, ?_, (hturn₁.trans hphase.turn).before hquiet,
    ⟨⟨reporting₁, hphase.serving, fun h => ?_⟩, hphase.turn.owesDisplay, fun h => ?_, hruled₄⟩, ?_⟩
  · show (formPlace id).deliver _ _ (start.form id).observers start = _
    rw [hobservers, (formPlace id).deliver_append _ hdeliver₁,
      (formPlace id).deliver_append _ hdeliver₂, (formPlace id).deliver_append _ hdeliver₃,
      hdeliver₄]
  · have hvalue := congrArg FormState.isDisplayReported hphase.turn.value
    rw [hturn₁.owesDisplay, Bool.or_false] at hvalue
    exact hvalue.trans (hunreported₁ h)
  · refine hkept₄ id hself (hphase₃.turn.ruled id ?_ (hruled₂ h))
    intro haround
    have := wf.linked.formAround_lt (htree₃ ▸ haround)
    omega
  · rw [hphase.due, hdue₁]
    omega

/-- There are at most three rounds to come when a single snapshot is pending. -/
theorem due_le {refreshes : Bool} {snapshot : FormState}
    (hpending : (layout.form id).pending = [snapshot]) : layout.due id refreshes ≤ 3 := by
  have howes := Bool.toNat_le (layout.owesDisplay id)
  have hdiffers := Bool.toNat_le
    (refreshes && (layout.form id).value.isEnabled != layout.verdict id)
  unfold due
  rw [hpending, List.length_singleton]
  omega

/-- Rounds are run until nothing is pending; all of them together are a turn, and the form has been
served. -/
theorem exists_drain (wf : layout.tree.WellFormed) (hsome : (layout.tree.form? id).isSome)
    (fits : wiring.Fits layout.tree id) (serves : Serves update layout.tree id wiring.inside)
    (hserving : layout.Serving id wiring reporting) {snapshot : FormState}
    (hpending : (layout.form id).pending = [snapshot]) :
    ∃ last, (formPlace id).drain (reactForm update) formRounds layout =
        ((formPlace id).rest last, true) ∧
      Turn id layout last ∧ last.Served id wiring ∧ (last.form id).pending = [] := by
  have hdue : layout.due id wiring.refreshes ≤ 3 := due_le hpending
  -- after the first round the form has been served, and this is what every other one keeps
  obtain ⟨first, hfirst, hturn, hserved, hless⟩ :=
    exists_round wf hsome fits serves hserving hpending
  have htree := hturn.tree_eq
  obtain ⟨last, hdrain, ⟨hturn', hserved'⟩, hdone⟩ := (formPlace id).drain_of_measure
    (reactForm update) (fun world => Turn id first world ∧ world.Served id wiring)
    (fun world => world.due id wiring.refreshes)
    (fun world snapshot pending ⟨hturn', hserved'⟩ hpending' => by
      have htree' : world.tree = layout.tree := hturn'.tree_eq.trans htree
      obtain ⟨reporting, hserving', -⟩ := hserved'.serving
      obtain ⟨next, hnext, hturn'', hserved'', hless'⟩ := exists_round (htree' ▸ wf)
        (htree' ▸ hsome) (htree' ▸ fits) (htree' ▸ serves) hserving' hpending'
      exact ⟨next, hnext, ⟨hturn'.trans hturn'', hserved''⟩, hless'⟩)
    3 first ⟨.refl hserved.owesDisplay, hserved⟩ (by omega)
  refine ⟨last, ?_, hturn.trans hturn', hserved', hdone⟩
  rw [formRounds, (formPlace id).drain_round _ hpending hfirst, hdrain]

end Rounds

/-! ## Changes -/

/-- The form `id` may be changed, with changes nested up to `depth` levels deep: it rests, wired so
far, and so do the forms right inside it with all that they enclose. -/
structure Ready (depth : Nat) (id : NodeId) (wiring : Wiring) (layout : Layout) : Prop where
  /-- The tree passed the checks. -/
  wf : layout.tree.WellFormed
  /-- The node is a form. -/
  isSome : (layout.tree.form? id).isSome
  /-- The depth suffices. -/
  depth : layout.tree.size + 1 ≤ depth + id
  /-- The wiring is one that the tree calls for. -/
  fits : wiring.Fits layout.tree id
  /-- The form rests. -/
  rests : layout.RestsWith id wiring
  /-- What it encloses rests. -/
  below : ∀ inner ∈ wiring.inside, layout.RestsBelow inner

/-- What a change of the form `id` with all that follows comes to. -/
structure Change (id : NodeId) (intent : FormIntent) (wiring : Wiring) (layout layout' : Layout) :
    Prop where
  /-- After the commit there is a turn. -/
  turn : Turn id (layout.commitForm id intent) layout'
  /-- A change that comes to nothing is not followed by anything. -/
  same : (layout.form id).value.reduce intent = (layout.form id).value →
    (∀ other, layout'.form other = layout.form other) ∧ layout'.outbox = layout.outbox
  /-- The form rests again. -/
  rests : layout'.RestsWith id wiring
  /-- So does what it encloses. -/
  below : ∀ inner ∈ wiring.inside, layout'.RestsBelow inner
  /-- After a change a form that evaluates its rules carries their verdict. -/
  ruled : wiring.refreshes = true →
    (layout.form id).value.reduce intent ≠ (layout.form id).value → layout'.Ruled id
  /-- The forms right inside that carried their verdicts still do. -/
  inside : ∀ inner ∈ wiring.inside, layout.Ruled inner → layout'.Ruled inner

end Layout

/-- Once reported, a display stays so. -/
theorem FormState.isDisplayReported_reduce {state : FormState} {intent : FormIntent}
    (h : state.isDisplayReported = true) : (state.reduce intent).isDisplayReported = true := by
  cases intent <;> simp [reduce, track, putEntry, withdraw, display, recompute, h]

/-- In the wake of another form a form changes nothing but its two flags, and only a nested form is
submitted. -/
theorem FormIntent.IsFollowing.reduce_eq {isChild : Bool} {intent : FormIntent}
    (h : intent.IsFollowing isChild) (state : FormState) :
    ∃ isEnabled isSubmitted, state.reduce intent = { state with isEnabled, isSubmitted } ∧
      (state.isSubmitted = true → isSubmitted = true) ∧
      (isChild = false → isSubmitted = state.isSubmitted) := by
  cases intent with
  | setEnabled isEnabled => exact ⟨isEnabled, state.isSubmitted, rfl, id, fun _ => rfl⟩
  | inherit isSubmitted isEnabled =>
    refine ⟨_, _, rfl, fun hs => by simp [hs], fun hc => ?_⟩
    rw [FormIntent.IsFollowing, hc] at h
    cases h
  | _ => cases h

namespace Layout

section Changes

variable {id : NodeId} {intent : FormIntent} {wiring : Wiring} {layout layout' : Layout}

/-- A change of a form that is being delivered is committed. -/
theorem updateForm_of_delivering (depth : Nat) (h : (layout.form id).isDelivering = true) :
    updateForm (depth + 1) id intent layout = layout.commitForm id intent := by
  rw [updateForm, (formPlace id).flush_of_delivering]
  show ((layout.commitForm id intent).form id).isDelivering = true
  rw [form_commitForm, if_pos rfl, Observable.isDelivering_commit, h]

/-- A commit leaves the verdicts of other forms alone, but for those right inside. -/
theorem Ruled.commitForm {other : NodeId} (h : layout.Ruled other) (hne : other ≠ id)
    (haround : layout.tree.formAround other ≠ some id) :
    (layout.commitForm id intent).Ruled other := by
  refine h.congr rfl ?_ fun around ha => ?_
  · rw [form_commitForm, if_neg (Ne.symm hne)]
  · rw [form_commitForm, if_neg]
    rintro rfl
    exact haround ha

/-- Only forms, announcements and the outbox change. -/
theorem Change.rest (h : Change id intent wiring layout layout') : layout'.rest = layout.rest :=
  h.turn.rest

/-- A change keeps the tree. -/
theorem Change.tree_eq (h : Change id intent wiring layout layout') :
    layout'.tree = layout.tree := h.turn.tree_eq

/-- Forms that the form does not enclose stay as they are. -/
theorem Change.outside {other : NodeId} (h : Change id intent wiring layout layout')
    (hout : ¬ layout.tree.Encloses id other) : layout'.form other = layout.form other := by
  have hne : id ≠ other := by
    rintro rfl
    exact hout .self
  rw [h.turn.outside other hout, form_commitForm, if_neg hne]

/-- Other forms follow. -/
theorem Change.follows {other : NodeId} (h : Change id intent wiring layout layout')
    (hne : other ≠ id) :
    Follows (layout.tree.isChild other) (layout.form other) (layout'.form other) := by
  have := h.turn.follows other hne
  rwa [form_commitForm, if_neg (Ne.symm hne)] at this

/-- Other forms that carried their verdicts still do. -/
theorem Change.ruled_other {other : NodeId}
    (h : Change id intent (layout.tree.wiring id) layout layout') (hne : other ≠ id)
    (hr : layout.Ruled other) : layout'.Ruled other := by
  by_cases haround : layout.tree.formAround other = some id
  · intro hrules
    exact h.inside other (Tree.mem_inside.mpr
      ⟨Tree.isSome_form?_of_rules (h.tree_eq ▸ hrules), haround⟩) hr hrules
  · exact h.turn.ruled other haround (hr.commitForm hne haround)

/-- Forms that rested do so again. -/
theorem Change.rests_other (wf : layout.tree.WellFormed) {other : NodeId}
    (h : Change id intent (layout.tree.wiring id) layout layout')
    (hsome : (layout.tree.form? other).isSome) (hrests : layout.Rests other) :
    layout'.Rests other := by
  have htree := h.tree_eq
  by_cases hin : layout.tree.Encloses id other
  · have hself : layout'.Rests id := by
      rw [Rests, htree]
      exact h.rests
    exact RestsBelow.of_inside (htree ▸ wf) hself
      (fun inner hinner => h.below inner (htree ▸ hinner)) other (htree ▸ hin) (htree ▸ hsome)
  · have := hrests.congr htree (h.outside hin)
    rwa [Rests, htree]

/-- **A change in the wake of another one** is one that is made to a form that rests with all that
it encloses. -/
theorem Change.wake (wf : layout.tree.WellFormed) (hsome : (layout.tree.form? id).isSome)
    (h : Change id intent (layout.tree.wiring id) layout layout')
    (hfollowing : intent.IsFollowing (layout.tree.isChild id)) (hbelow : layout.RestsBelow id) :
    Wake id layout layout' := by
  obtain ⟨isEnabled, isSubmitted, hreduce, hmono, hkept⟩ :=
    hfollowing.reduce_eq (layout.form id).value
  have hform := form_commitForm layout id id intent
  rw [if_pos rfl, hreduce] at hform
  have howes : (layout.commitForm id intent).owesDisplay id = false := by
    have := (hbelow id .self hsome).owesDisplay
    unfold Layout.owesDisplay at this ⊢
    rw [hform, Observable.value_commit]
    exact this
  have hvalue := h.turn.value
  rw [howes, Bool.or_false, hform, Observable.value_commit] at hvalue
  refine ⟨h.rest, fun other hout => h.outside hout, fun other => ?_, ?_,
    fun other hne hr => h.ruled_other hne hr, fun other hother hr => h.rests_other wf hother hr⟩
  · by_cases hne : other = id
    · subst hne
      obtain ⟨more, hmore, hm⟩ := h.turn.history
      rw [hform, Observable.value_commit] at hm
      rw [hform, Observable.history_commit] at hmore
      refine ⟨?_, ?_, ?_, _, by rw [hmore, List.append_assoc], fun hc state hstate => ?_⟩
      · rw [hvalue]
      · rw [hvalue]
        exact hmono
      · rw [hvalue]
        exact hkept
      · rcases List.mem_append.mp hstate with hstate | hstate
        · unfold Observable.added at hstate
          split at hstate
          · simp at hstate
          · obtain rfl := List.mem_singleton.mp hstate
            exact hkept hc
        · rw [hm state hstate, hkept hc]
    · exact h.follows hne
  · obtain ⟨list, hlist, hq⟩ := h.turn.outbox
    exact ⟨list, hlist, by simp [hq, displayNotice, howes]⟩

/-- A form that has been served rests once nothing is pending and the delivery ends. -/
theorem Served.restsWith (h : layout.Served id wiring)
    (hpending : (layout.form id).pending = []) :
    ((formPlace id).rest layout).RestsWith id wiring := by
  have hform : ((formPlace id).rest layout).form id =
      { layout.form id with isDelivering := false } := by
    rw [Place.rest, form_modify, if_pos rfl]
  obtain ⟨reporting, hserving, hunreported⟩ := h.serving
  have hreporting : (!layout.tree.isChild id && !(layout.form id).value.isDisplayReported) =
      reporting := by
    cases reporting with
    | true => simp [hserving.isChild rfl, hunreported rfl]
    | false =>
      rcases hserving.reported rfl with hc | hr
      · simp [hc]
      · simp [hr]
  refine ⟨?_, ?_, ?_, fun hc hr => ?_⟩
  · rw [hform]
    exact hpending
  · rw [hform]
  · rw [hform]
    show Wired layout.tree id wiring
      (!layout.tree.isChild id && !(layout.form id).value.isDisplayReported) _
    rw [hreporting]
    exact hserving.wired.congr rfl rfl
  · rw [hform] at hr ⊢
    have := h.owesDisplay
    unfold Layout.owesDisplay at this
    rw [show layout.tree.isChild id = false from hc, hr] at this
    simpa using this

/-- The change that comes to nothing: nothing is pending, so the delivery ends at once. -/
theorem change_of_same (depth : Nat) (ready : Ready (depth + 1) id wiring layout)
    (hsame : (layout.form id).value.reduce intent = (layout.form id).value) :
    Change id intent wiring layout (updateForm (depth + 1) id intent layout) := by
  have hcommit : (layout.commitForm id intent).form id = layout.form id := by
    rw [form_commitForm, if_pos rfl, hsame, Observable.commit_value]
  have hquiet : Quiet id (layout.commitForm id intent)
      ((formPlace id).rest ((formPlace id).start (layout.commitForm id intent))) :=
    { rest := rfl
      outbox := rfl
      others := fun other hne => by
        simp only [Place.rest, Place.start, form_modify, if_neg (Ne.symm hne)]
      value := by simp only [Place.rest, Place.start, form_modify, if_true]
      history := by simp only [Place.rest, Place.start, form_modify, if_true] }
  have hupdate : updateForm (depth + 1) id intent layout =
      (formPlace id).rest ((formPlace id).start (layout.commitForm id intent)) := by
    have hpending :
        ((formPlace id).get ((formPlace id).start (layout.commitForm id intent))).pending = [] := by
      show (((formPlace id).start (layout.commitForm id intent)).form id).pending = []
      rw [Place.start, form_modify, if_pos rfl, hcommit]
      exact ready.rests.pending
    rw [updateForm, (formPlace id).flush_of_resting, formRounds,
      (formPlace id).drain_rest _ hpending]
    show ((layout.commitForm id intent).form id).isDelivering = false
    rw [hcommit]
    exact ready.rests.isDelivering
  rw [hupdate]
  have hform : ∀ other, ((formPlace id).rest ((formPlace id).start
      (layout.commitForm id intent))).form other = layout.form other := by
    intro other
    by_cases hne : other = id
    · subst hne
      simp only [Place.rest, Place.start, form_modify, if_true, hcommit]
      exact Observable.rest_eq ready.rests.isDelivering
    · rw [hquiet.others other hne, form_commitForm, if_neg (Ne.symm hne)]
  have hrest : ((formPlace id).rest ((formPlace id).start
      (layout.commitForm id intent))).rest = layout.rest := rfl
  refine ⟨(Turn.refl ?_).after hquiet, fun _ => ⟨hform, rfl⟩, ready.rests.congr rfl (hform id),
    fun inner hinner => (ready.below inner hinner).congr rfl fun other _ => hform other,
    fun _ hne => absurd hsame hne, fun inner _ hr => hr.congr hrest (hform inner)
      fun around _ => hform around⟩
  have := ready.rests.owesDisplay
  unfold Layout.owesDisplay at this ⊢
  rw [hcommit]
  exact this

/-- The form is being served once its change is committed and the delivery starts. -/
theorem serving_start (depth : Nat) (ready : Ready depth id wiring layout)
    (hchanged : (layout.form id).value.reduce intent ≠ (layout.form id).value) :
    ((formPlace id).start (layout.commitForm id intent)).Serving id wiring
        (!layout.tree.isChild id && !(layout.form id).value.isDisplayReported) ∧
      (((formPlace id).start (layout.commitForm id intent)).form id).pending =
        [(layout.form id).value.reduce intent] := by
  have hform : ((formPlace id).start (layout.commitForm id intent)).form id =
      { (layout.form id).commit ((layout.form id).value.reduce intent) with
        isDelivering := true } := by
    rw [Place.start, form_modify, if_pos rfl, form_commitForm, if_pos rfl]
  have hpending : (((formPlace id).start (layout.commitForm id intent)).form id).pending =
      [(layout.form id).value.reduce intent] := by
    rw [hform]
    dsimp only
    rw [Observable.pending_commit, ready.rests.pending, Observable.added, if_neg hchanged]
    rfl
  refine ⟨⟨by rw [hform], ?_, fun h => ?_, fun h => ?_, fun snapshot hsnapshot => ?_, ?_⟩, hpending⟩
  · rw [hform]
    exact ready.rests.wired.congr (Observable.observers_commit _ _)
      (Observable.nextObserver_commit _ _)
  · simp only [Bool.and_eq_true, Bool.not_eq_true'] at h
    exact h.1
  · rw [hform]
    show layout.tree.isChild id = true ∨ _
    rw [Observable.value_commit]
    cases hc : layout.tree.isChild id with
    | true => exact .inl rfl
    | false =>
      right
      refine FormState.isDisplayReported_reduce ?_
      simpa [hc] using h
  · rw [hpending, List.mem_singleton] at hsnapshot
    subst hsnapshot
    rw [hform]
    dsimp only
    rw [Observable.value_commit]
    exact .refl _ _
  · refine below_of_others ready.wf.linked ready.fits ready.below rfl fun other hne => ?_
    rw [Place.start, form_modify, if_neg (Ne.symm hne), form_commitForm, if_neg (Ne.symm hne)]

/-- A change that comes to something: rounds are run until nothing is pending. -/
theorem change_of_changed (depth : Nat) (ready : Ready (depth + 1) id wiring layout)
    (serves : Serves (updateForm depth) layout.tree id wiring.inside)
    (hchanged : (layout.form id).value.reduce intent ≠ (layout.form id).value) :
    Change id intent wiring layout (updateForm (depth + 1) id intent layout) := by
  have hstart : Quiet id (layout.commitForm id intent)
      ((formPlace id).start (layout.commitForm id intent)) :=
    quiet_modify _ id (fun _ => rfl) fun _ => rfl
  obtain ⟨hserving, hpending⟩ := serving_start (depth + 1) ready hchanged
  have hresting : ((formPlace id).get (layout.commitForm id intent)).isDelivering = false := by
    show ((layout.commitForm id intent).form id).isDelivering = false
    rw [form_commitForm, if_pos rfl, Observable.isDelivering_commit]
    exact ready.rests.isDelivering
  have htree : ((formPlace id).start (layout.commitForm id intent)).tree = layout.tree := rfl
  obtain ⟨last, hdrain, hturn, hserved, hdone⟩ := exists_drain (htree ▸ ready.wf)
    (htree ▸ ready.isSome) (htree ▸ ready.fits) (htree ▸ serves) hserving hpending
  rw [updateForm, (formPlace id).flush_of_resting _ hresting, hdrain]
  have hrest : Quiet id last ((formPlace id).rest last) :=
    quiet_modify _ id (fun _ => rfl) fun _ => rfl
  refine ⟨(hturn.before hstart).after hrest, fun h => absurd h hchanged,
    hserved.restsWith hdone, fun inner hinner => ?_, fun h _ => hrest.ruled (hserved.ruled h),
    fun inner hinner _ => hrest.ruled (hserved.inside inner hinner)⟩
  obtain ⟨reporting, hserving', -⟩ := hserved.serving
  have htree' : last.tree = layout.tree := hturn.tree_eq
  exact below_of_others (htree' ▸ ready.wf.linked) (htree' ▸ ready.fits) hserving'.below
    hrest.tree_eq hrest.others inner hinner

/-- **What a change of a form with all that follows comes to**, at a form that is ready for it.

**Proof sketch.** Induction on the depth. A change that comes to nothing is not delivered.
Otherwise rounds are run until nothing is pending; in these, the forms right inside are changed by
the induction hypothesis, for their numbers are larger and one level of depth less suffices. -/
theorem change_of_ready : ∀ (depth : Nat) {id : NodeId} (intent : FormIntent) {wiring : Wiring}
    {layout : Layout}, Ready depth id wiring layout →
    Change id intent wiring layout (updateForm depth id intent layout) := by
  intro depth
  induction depth with
  | zero =>
    intro id intent wiring layout ready
    have hlt := Tree.lt_size_of_form? ready.isSome
    have hdepth := ready.depth
    unfold NodeId at *
    omega
  | succ depth ih =>
    intro id intent wiring layout ready
    by_cases hsame : (layout.form id).value.reduce intent = (layout.form id).value
    · exact change_of_same depth ready hsame
    have hlt := Tree.lt_size_of_form? ready.isSome
    have hdepth := ready.depth
    -- a form right inside is ready one level further down
    have hinner : ∀ inner ∈ wiring.inside, ∀ (intent : FormIntent) (world : Layout),
        world.tree = layout.tree → world.RestsBelow inner →
        Change inner intent (world.tree.wiring inner) world (updateForm depth inner intent world) ∧
          (world.tree.form? inner).isSome := by
      intro inner hmem intent world htree hbelow
      obtain ⟨hsome, haround⟩ := Tree.mem_inside.mp (ready.fits.mem_inside inner hmem)
      have hafter := ready.wf.linked.formAround_lt haround
      refine ⟨ih intent ⟨htree ▸ ready.wf, htree ▸ hsome, ?_, world.tree.fits_wiring inner,
        hbelow inner .self (htree ▸ hsome), fun _ h => hbelow.inside h⟩, htree ▸ hsome⟩
      rw [htree]
      unfold NodeId at *
      omega
    refine change_of_changed depth ready ⟨?_, ?_, ?_⟩ hsame
    · intro intent world hdelivering
      obtain ⟨depth, rfl⟩ : ∃ n, depth = n + 1 := ⟨depth - 1, by unfold NodeId at *; omega⟩
      exact updateForm_of_delivering depth hdelivering
    · intro inner hmem intent world htree hfollowing hbelow
      obtain ⟨hchange, hsome⟩ := hinner inner hmem intent world htree hbelow
      exact hchange.wake (htree ▸ ready.wf) hsome (htree ▸ hfollowing) hbelow
    · intro inner hmem intent world htree _ hbelow hruled
      obtain ⟨hchange, hsome⟩ := hinner inner hmem intent world htree hbelow
      refine hchange.turn.ruled inner (fun haround => ?_) hruled
      have := ready.wf.linked.formAround_lt (htree ▸ haround)
      omega

end Changes

end Layout

end FormTree

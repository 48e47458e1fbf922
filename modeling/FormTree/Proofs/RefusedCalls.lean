import FormTree.Layout.InPlace
import FormTree.Proofs.Layout.Hearing
import FormTree.Proofs.Layout.Interventions
import FormTree.Proofs.Layout.Steady

set_option autoImplicit false

/-!
# Refused calls

When a call is refused, and what a refused call leaves behind although it writes to the layout in
place: nothing. In particular the answer that an input holds is always one of its own kind.

## Main definitions

* `FormTree.Answer.kind?` — the kind of the inputs that an answer is for.
* `FormTree.Call.IsRefused` — the reason why a call is refused.
* `FormTree.Layout.Reachable` — what an activated layout can become.
* `FormTree.Layout.HoldsOwnKinds` — every input holds an answer of its own kind.

## Main results

* `FormTree.Layout.perform_eq_error` — when a call is refused, and why.
* `FormTree.Layout.undergo_eq_perform` — a call that is carried out in place does what the call
  does, and leaves nothing behind if it is refused.
* `FormTree.Layout.HoldsOwnKinds.intervene` — whatever is done from outside, inputs hold answers of
  their own kinds.
* `FormTree.Layout.refused_calls_leave_no_trace` — refused calls leave no trace.
-/

namespace FormTree

/-! ## Kinds -/

/-- The kind of the inputs that an answer is for; there is none for the answers that forms give. -/
def Answer.kind? : Answer → Option InputKind
  | .textInput _ => some .textInput
  | .toggle _ => some .toggle
  | .checkbox _ => some .checkbox
  | .multipleChoice _ => some .multipleChoice
  | .singleChoice _ => some .singleChoice
  | .score _ => some .score
  | .form _ _ | .nps _ _ _ => none

/-- An input accepts the answers of its own kind. -/
theorem InputSpec.accepts_iff {spec : InputSpec} {answer : Answer} :
    spec.accepts answer = true ↔ answer.kind? = some spec.kind := by
  unfold InputSpec.accepts
  cases answer <;> cases spec.kind <;>
    simp [Answer.kind?, Answer.typeName, InputKind.emptyAnswer]

/-- The answer that an input starts with is of its own kind. -/
theorem InputKind.kind?_emptyAnswer (kind : InputKind) : kind.emptyAnswer.kind? = some kind := by
  cases kind <;> rfl

namespace Call

/-- The node that a call names. -/
def node : Call → NodeId
  | .attach id | .detach id | .setDisplayed id _ | .setAnswer id _ | .withdraw id | .click id
  | .scrollTo id _ => id
  | .dispatch origin _ _ => origin

/-- The kind of node that a call needs, unless it takes every node. -/
def kind? : Call → Option NodeKind
  | .setAnswer _ _ | .withdraw _ => some .input
  | .click _ => some .button
  | .scrollTo _ _ => some .pager
  | .attach _ | .detach _ | .setDisplayed _ _ | .dispatch _ _ _ => none

/-- The reason why a call is refused. -/
inductive IsRefused (tree : Tree) : Call → LayoutError → Prop
  /-- The call names no node. -/
  | unknownNode {call : Call} :
    tree.node? call.node = none → IsRefused tree call (.unknownNode call.node)
  /-- The node is not of the kind that the call needs. -/
  | wrongNodeKind {call : Call} {view : View} {kind : NodeKind} :
    tree.view? call.node = some view → call.kind? = some kind → view.kind ≠ kind →
    IsRefused tree call (.wrongNodeKind call.node kind)
  /-- The answer is not of the kind of the input. -/
  | valueMismatch {id : NodeId} {spec : InputSpec} {answer : Answer} :
    tree.view? id = some (.input spec) → answer.kind? ≠ some spec.kind →
    IsRefused tree (.setAnswer id answer)
      (.valueMismatch spec.id spec.kind.emptyAnswer.typeName answer.typeName)

end Call

/-- What is done in steps is refused if a step is, and all before it are not. -/
theorem bind_eq_error {ε α β : Type} {first : Except ε α} {rest : α → Except ε β} {error : ε} :
    first >>= rest = .error error ↔
      first = .error error ∨ ∃ value, first = .ok value ∧ rest value = .error error := by
  cases first <;> simp [bind, Except.bind]

namespace Layout

variable {layout layout' : Layout} {call : Call} {error : LayoutError} {id : NodeId}

/-! ## Reasons to refuse a call -/

theorem node_eq_error :
    layout.node id = .error error ↔ layout.tree.node? id = none ∧ .unknownNode id = error := by
  unfold Layout.node
  split
  · next node hnode => simp [hnode]
  · next hnode => simp [hnode]

/-- A node is not taken for something else than its view is. -/
theorem spec_eq_error {α : Type} {take : Node → Except LayoutError α} {kind : NodeKind}
    (htake : ∀ node : Node, take node = .error error ↔
      node.view.kind ≠ kind ∧ .wrongNodeKind id kind = error) :
    layout.node id >>= take = .error error ↔
      layout.tree.node? id = none ∧ .unknownNode id = error ∨
        ∃ view, layout.tree.view? id = some view ∧ view.kind ≠ kind ∧
          .wrongNodeKind id kind = error := by
  rw [bind_eq_error, node_eq_error]
  refine or_congr_right ⟨?_, ?_⟩
  · rintro ⟨node, hnode, herror⟩
    exact ⟨node.view, Option.map_eq_some_iff.mpr ⟨node, node_eq_ok.mp hnode, rfl⟩,
      (htake node).mp herror⟩
  · rintro ⟨view, hview, herror⟩
    obtain ⟨node, hnode, rfl⟩ := Option.map_eq_some_iff.mp hview
    exact ⟨node, node_eq_ok.mpr hnode, (htake node).mpr herror⟩

/-- A call that needs a node of a certain kind, and looks at nothing else, is refused where there is
none. -/
theorem isRefused_of_kind {kind : NodeKind} (hkind : call.kind? = some kind)
    (hanswer : ∀ id answer, call ≠ .setAnswer id answer) :
    call.IsRefused layout.tree error ↔
      layout.tree.node? call.node = none ∧ .unknownNode call.node = error ∨
        ∃ view, layout.tree.view? call.node = some view ∧ view.kind ≠ kind ∧
          .wrongNodeKind call.node kind = error := by
  constructor
  · rintro (hnode | ⟨hview, hother, hne⟩ | ⟨_, _⟩)
    · exact .inl ⟨hnode, rfl⟩
    · obtain rfl := Option.some.inj (hkind.symm.trans hother)
      exact .inr ⟨_, hview, hne, rfl⟩
    · exact absurd rfl (hanswer _ _)
  · rintro (⟨hnode, rfl⟩ | ⟨view, hview, hne, rfl⟩)
    · exact .unknownNode hnode
    · exact .wrongNodeKind hview hkind hne

/-- A call that takes every node is refused where there is none. -/
theorem isRefused_of_kind_none (hkind : call.kind? = none) :
    call.IsRefused layout.tree error ↔
      layout.tree.node? call.node = none ∧ .unknownNode call.node = error := by
  constructor
  · rintro (hnode | ⟨_, hother, _⟩ | ⟨_, _⟩)
    · exact ⟨hnode, rfl⟩
    · rw [hkind] at hother
      cases hother
    · cases hkind
  · rintro ⟨hnode, rfl⟩
    exact .unknownNode hnode

theorem inputSpec_eq_error : layout.inputSpec id = .error error ↔
    layout.tree.node? id = none ∧ .unknownNode id = error ∨
      ∃ view, layout.tree.view? id = some view ∧ view.kind ≠ .input ∧
        .wrongNodeKind id .input = error := by
  refine spec_eq_error fun node => ?_
  cases node.view <;> simp [View.kind, pure, Except.pure, throw, throwThe, MonadExceptOf.throw]

theorem buttonSpec_eq_error : layout.buttonSpec id = .error error ↔
    layout.tree.node? id = none ∧ .unknownNode id = error ∨
      ∃ view, layout.tree.view? id = some view ∧ view.kind ≠ .button ∧
        .wrongNodeKind id .button = error := by
  refine spec_eq_error fun node => ?_
  cases node.view <;> simp [View.kind, pure, Except.pure, throw, throwThe, MonadExceptOf.throw]

theorem pagerSpec_eq_error : layout.pagerSpec id = .error error ↔
    layout.tree.node? id = none ∧ .unknownNode id = error ∨
      ∃ view, layout.tree.view? id = some view ∧ view.kind ≠ .pager ∧
        .wrongNodeKind id .pager = error := by
  refine spec_eq_error fun node => ?_
  cases node.view <;> simp [View.kind, pure, Except.pure, throw, throwThe, MonadExceptOf.throw]

theorem setDisplayed_eq_error {isDisplayed : Bool} :
    layout.setDisplayed id isDisplayed = .error error ↔
      layout.tree.node? id = none ∧ .unknownNode id = error := by
  unfold setDisplayed
  rw [bind_eq_error, node_eq_error]
  refine or_iff_left ?_
  rintro ⟨node, -, h⟩
  cases hview : node.view <;> rw [hview] at h <;> cases h

/-- A node that is there can be attached. -/
theorem setAttached_eq_error {isAttached : Bool} :
    layout.setAttached id isAttached = .error error ↔
      layout.tree.node? id = none ∧ .unknownNode id = error := by
  unfold setAttached
  rw [bind_eq_error, node_eq_error]
  refine or_iff_left ?_
  rintro ⟨node, hnode, h⟩
  have hnone : layout.tree.node? id = none := (setDisplayed_eq_error.mp h).1
  rw [node_eq_ok.mp hnode] at hnone
  cases hnone

/-- An answer is refused where there is no input, and where it is of another kind than the input. -/
theorem setAnswer_eq_error {answer : Answer} : layout.setAnswer id answer = .error error ↔
    (Call.setAnswer id answer).IsRefused layout.tree error := by
  unfold setAnswer
  simp only [bind_eq_error, inputSpec_eq_error, inputSpec_eq_ok]
  constructor
  · rintro ((⟨hnode, rfl⟩ | ⟨view, hview, hne, rfl⟩) | ⟨spec, hview, hchecked | ⟨_, _, h⟩⟩)
    · exact .unknownNode hnode
    · exact .wrongNodeKind hview rfl hne
    · unfold InputNode.setAnswer at hchecked
      split at hchecked
      · cases hchecked
      · next haccepts =>
        cases hchecked
        exact .valueMismatch hview fun hkind => haccepts (InputSpec.accepts_iff.mpr hkind)
    · cases h
  · rintro (hnode | ⟨hview, hkind, hne⟩ | ⟨hview, hne⟩)
    · exact .inl (.inl ⟨hnode, rfl⟩)
    · cases hkind
      exact .inl (.inr ⟨_, hview, hne, rfl⟩)
    · refine .inr ⟨_, hview, .inl ?_⟩
      exact if_neg fun haccepts => hne (InputSpec.accepts_iff.mp haccepts)

/-- **When a call is refused, and why.** -/
theorem perform_eq_error :
    layout.perform call = .error error ↔ call.IsRefused layout.tree error := by
  cases call with
  | attach id =>
    rw [isRefused_of_kind_none rfl]
    exact setAttached_eq_error
  | detach id =>
    rw [isRefused_of_kind_none rfl]
    exact setAttached_eq_error
  | setDisplayed id isDisplayed =>
    rw [isRefused_of_kind_none rfl]
    exact setDisplayed_eq_error
  | setAnswer id answer => exact setAnswer_eq_error
  | withdraw id =>
    rw [isRefused_of_kind (rfl : (Call.withdraw id).kind? = _) (by simp), perform, withdraw,
      bind_eq_error, inputSpec_eq_error]
    refine or_iff_left ?_
    rintro ⟨spec, -, h⟩
    cases h
  | click id =>
    rw [isRefused_of_kind (rfl : (Call.click id).kind? = _) (by simp), perform, click,
      bind_eq_error, buttonSpec_eq_error]
    refine or_iff_left ?_
    rintro ⟨spec, -, h⟩
    cases hactive : layout.isEnabled id <;> cases hsubmits : spec.submits <;>
      simp [hactive, hsubmits, pure, Except.pure] at h
  | scrollTo id position =>
    rw [isRefused_of_kind (rfl : (Call.scrollTo id position).kind? = _) (by simp), perform,
      scrollTo, bind_eq_error, pagerSpec_eq_error]
    refine or_iff_left ?_
    rintro ⟨spec, -, h⟩
    cases h
  | dispatch origin event direction =>
    rw [perform, isRefused_of_kind_none rfl]
    unfold dispatch
    rw [bind_eq_error, node_eq_error]
    refine or_iff_left ?_
    rintro ⟨node, -, h⟩
    cases direction <;> cases h

end Layout

/-! ## Calls in place -/

namespace Edit

variable {α β : Type} (layout : Layout)

/-- A check leaves the layout as it is. -/
theorem run_check (make : Layout → Except LayoutError α) :
    (check make).run.run layout = (make layout, layout) := by
  change (ExceptT.run (MonadExcept.ofExcept (make layout) : Edit α)).run layout = _
  cases make layout <;> rfl

/-- A write is never refused. -/
theorem run_modify (change : Layout → Layout) :
    (modify change : Edit Unit).run.run layout = (.ok (), change layout) := rfl

/-- What is left to do is done to what is written first, unless that breaks off. -/
theorem run_bind (first : Edit α) (rest : α → Edit β) :
    (first >>= rest).run.run layout =
      match first.run.run layout with
      | (.ok value, layout') => (rest value).run.run layout'
      | (.error error, layout') => (.error error, layout') := by
  change (match first layout with
    | (result, layout') => ExceptT.bindCont rest result layout') = _
  rcases hfirst : first layout with ⟨result, layout'⟩
  have hrun : first.run.run layout = (result, layout') := hfirst
  rw [hrun]
  cases result <;> rfl

/-- What comes back when an edit is all or nothing, and the layout that it leaves behind. -/
def allOrNothing (layout : Layout) :
    Except LayoutError Layout → Except LayoutError Unit × Layout
  | .ok layout' => (.ok (), layout')
  | .error error => (.error error, layout)

/-- An input goes on or off screen: nothing is written before the node is looked at. -/
theorem run_setDisplayed (id : NodeId) (isDisplayed : Bool) :
    (setDisplayed id isDisplayed).run.run layout =
      allOrNothing layout (layout.setDisplayed id isDisplayed) := by
  unfold Layout.setDisplayed setDisplayed
  rw [run_bind, run_check]
  cases layout.node id with
  | error error => rfl
  | ok node =>
    dsimp only [bind, Except.bind]
    cases node.view <;> rfl

/-- A view is attached or detached: this is written only if the node is there, so that it is found
again when it is looked at as an input. -/
theorem run_setAttached (id : NodeId) (isAttached : Bool) :
    (setAttached id isAttached).run.run layout =
      allOrNothing layout (layout.setAttached id isAttached) := by
  unfold Layout.setAttached setAttached
  rw [run_bind, run_check]
  cases hnode : layout.node id with
  | error error => rfl
  | ok node =>
    dsimp only
    rw [run_bind, run_modify]
    dsimp only
    rw [run_setDisplayed]
    have hview : (layout.modifyState id ({ · with isAttached })).tree.view? id =
        some node.view :=
      Option.map_eq_some_iff.mpr ⟨node, Layout.node_eq_ok.mp hnode, rfl⟩
    dsimp only [bind, Except.bind]
    rw [Layout.setDisplayed_eq_ok.mpr ⟨_, hview, rfl⟩]
    rfl

end Edit

namespace Layout

variable {layout layout' : Layout} {call : Call} {id : NodeId}

open Edit in
/-- **A call that is carried out in place does what the call does, and leaves nothing behind if it
is refused.** -/
theorem undergo_eq_perform (layout : Layout) (call : Call) :
    layout.undergo call = allOrNothing layout (layout.perform call) := by
  cases call with
  | attach id => exact run_setAttached layout id true
  | detach id => exact run_setAttached layout id false
  | setDisplayed id isDisplayed => exact run_setDisplayed layout id isDisplayed
  | setAnswer id answer =>
    rw [undergo, Call.carryOut, Edit.setAnswer, run_bind, run_check, perform, setAnswer]
    cases layout.inputSpec id with
    | error error => rfl
    | ok spec =>
      dsimp only
      rw [run_bind, run_check]
      dsimp only [bind, Except.bind]
      cases (⟨spec, layout.answers.get id⟩ : InputNode).setAnswer answer <;> rfl
  | withdraw id =>
    rw [undergo, Call.carryOut, Edit.withdraw, run_bind, run_check, perform, withdraw]
    cases layout.inputSpec id <;> rfl
  | click id =>
    rw [undergo, Call.carryOut, Edit.click, run_bind, run_check, perform, click]
    cases layout.buttonSpec id with
    | error error => rfl
    | ok spec =>
      dsimp only [bind, Except.bind]
      change ((if (!layout.isEnabled id) = true then _ else _ : Edit Unit)).run.run layout = _
      cases layout.isEnabled id <;> cases spec.submits <;> rfl
  | scrollTo id position =>
    rw [undergo, Call.carryOut, Edit.scrollTo, run_bind, run_check, perform, scrollTo]
    cases layout.pagerSpec id <;> rfl
  | dispatch origin event direction =>
    cases direction with
    | bubble =>
      rw [undergo, Call.carryOut, Edit.dispatch, run_bind, run_check, perform, dispatch]
      cases layout.node origin <;> rfl
    | trickle =>
      rw [undergo, Call.carryOut, Edit.dispatch, run_bind, run_check, perform, dispatch]
      cases layout.node origin <;> rfl

/-! ## What inputs hold -/

/-- Every input holds an answer of its own kind. -/
def HoldsOwnKinds (layout : Layout) : Prop :=
  ∀ id spec, layout.tree.view? id = some (.input spec) →
    (layout.answers.get id).kind? = some spec.kind

/-- Whether inputs hold answers of their own kinds depends on the fixtures alone. -/
lemma HoldsOwnKinds.of_fixtures (h : layout.HoldsOwnKinds)
    (hsame : layout'.fixtures = layout.fixtures) : layout'.HoldsOwnKinds := by
  have htree : layout'.tree = layout.tree := (congrArg tree hsame :)
  have hanswers : layout'.answers = layout.answers := (congrArg answers hsame :)
  intro id spec hview
  rw [hanswers]
  exact h id spec (htree ▸ hview)

/-- An input is given an answer of its own kind. -/
lemma HoldsOwnKinds.set (h : layout.HoldsOwnKinds) {spec : InputSpec} {answer : Answer}
    (hview : layout.tree.view? id = some (.input spec)) (haccepts : spec.accepts answer = true) :
    HoldsOwnKinds { layout with answers := layout.answers.set id answer } := by
  intro other spec' hother
  rw [Table.get_set]
  split
  · next heq =>
    subst heq
    cases hview.symm.trans hother
    exact InputSpec.accepts_iff.mp haccepts
  · exact h other spec' hother

lemma fixtures_setDisplayed {isDisplayed : Bool}
    (h : layout.setDisplayed id isDisplayed = .ok layout') :
    layout'.fixtures = layout.fixtures := by
  obtain ⟨view, -, rfl⟩ := setDisplayed_eq_ok.mp h
  split
  · exact fixtures_settle_bubble layout id _
  · rfl

/-- A call other than one that answers an input leaves the fixtures alone. -/
theorem fixtures_perform (h : layout.perform call = .ok layout')
    (hanswer : ∀ id answer, call ≠ .setAnswer id answer) : layout'.fixtures = layout.fixtures := by
  cases call with
  | attach id => exact (fixtures_setDisplayed (setAttached_eq_ok.mp h) :)
  | detach id => exact (fixtures_setDisplayed (setAttached_eq_ok.mp h) :)
  | setDisplayed id isDisplayed => exact fixtures_setDisplayed h
  | setAnswer id answer => exact absurd rfl (hanswer id answer)
  | withdraw id =>
    obtain ⟨spec, -, rfl⟩ := withdraw_eq_ok.mp h
    exact fixtures_settle_bubble (layout.modifyState id _) id _
  | click id =>
    obtain ⟨spec, -, rfl⟩ := click_eq_ok.mp h
    split
    · rfl
    · split
      · exact fixtures_settle_bubble layout id _
      · rw [fixtures_settle, pushAll_eq]
        rfl
  | scrollTo id position =>
    obtain ⟨spec, -, rfl⟩ := scrollTo_eq_ok.mp h
    exact (fixtures_settle _).trans (fixtures_of_frame (frame_changePager layout id _))
  | dispatch origin event direction =>
    obtain ⟨node, -, rfl⟩ := dispatch_eq_ok.mp h
    cases direction with
    | bubble => exact fixtures_settle_bubble layout origin event
    | trickle => exact (fixtures_settle _).trans (fixtures_route layout (.trickle origin event))

/-- **A call leaves every input with an answer of its own kind.** -/
theorem HoldsOwnKinds.perform (h : layout.HoldsOwnKinds)
    (hperform : layout.perform call = .ok layout') : layout'.HoldsOwnKinds := by
  by_cases hanswer : ∃ id answer, call = .setAnswer id answer
  · obtain ⟨id, answer, rfl⟩ := hanswer
    obtain ⟨spec, hview, haccepts, rfl⟩ := setAnswer_eq_ok.mp hperform
    exact (h.set hview haccepts).of_fixtures (fixtures_settle_bubble _ id _)
  · exact h.of_fixtures (fixtures_perform hperform fun id answer heq => hanswer ⟨id, answer, heq⟩)

/-- **Whatever is done from outside, every input is left with an answer of its own kind.** -/
theorem HoldsOwnKinds.intervene (h : layout.HoldsOwnKinds) {intervention : Intervention}
    {reply : Reply} (hresult : layout.intervene intervention = .ok (reply, layout')) :
    layout'.HoldsOwnKinds := by
  cases intervention with
  | call call =>
    rw [Layout.intervene] at hresult
    cases hperform : layout.perform call <;> rw [hperform] at hresult <;> cases hresult
    exact h.perform hperform
  | reviseForm id change =>
    rw [Layout.intervene] at hresult
    cases hspec : layout.formSpec id <;> rw [hspec] at hresult <;> cases hresult
    exact h.of_fixtures (fixtures_of_frame (frame_reviseForm layout id change))
  | updatePager id change =>
    rw [Layout.intervene] at hresult
    cases hspec : layout.pagerSpec id <;> rw [hspec] at hresult <;> cases hresult
    exact h.of_fixtures (fixtures_of_frame (frame_updatePager layout id change))
  | push dispatch =>
    cases hresult
    exact h

/-- Inputs start with answers of their own kinds. -/
theorem holdsOwnKinds_of_activate {environment : Environment} {spec : Spec}
    (h : activate environment spec = .ok layout) : layout.HoldsOwnKinds := by
  obtain ⟨hviolation, rfl⟩ := activate_eq_ok.mp h
  have wf := Tree.wellFormed_of_violation? (Tree.linked_ofSpec spec) hviolation
  have hbuild := assembled_build environment wf
  refine HoldsOwnKinds.of_fixtures (fun id input hview => ?_) (fixtures_settle _)
  rw [hbuild.tree_eq] at hview
  obtain ⟨node, hnode, -⟩ := Option.map_eq_some_iff.mp hview
  rw [hbuild.answers id input (Tree.lt_size hnode) hview]
  exact input.kind.kind?_emptyAnswer

/-! ## What an activated layout can become -/

/-- What a layout can become once it is activated: calls are carried out in place, refused or not,
and in between forms and pagers are changed through their handles, and dispatches are put into the
outbox. -/
inductive Reachable (environment : Environment) (spec : Spec) : Layout → Prop
  | activated {layout : Layout} :
    activate environment spec = .ok layout → Reachable environment spec layout
  | called {layout : Layout} (call : Call) :
    Reachable environment spec layout → Reachable environment spec (layout.undergo call).2
  | intervened {layout layout' : Layout} {intervention : Intervention} {reply : Reply} :
    Reachable environment spec layout → layout.intervene intervention = .ok (reply, layout') →
    Reachable environment spec layout'

theorem Reachable.holdsOwnKinds {environment : Environment} {spec : Spec}
    (h : Reachable environment spec layout) : layout.HoldsOwnKinds := by
  induction h with
  | activated h => exact holdsOwnKinds_of_activate h
  | @called layout call _ ih =>
    rw [undergo_eq_perform]
    cases hperform : layout.perform call with
    | ok layout' => exact ih.perform hperform
    | error error => exact ih
  | intervened _ hresult ih => exact ih.intervene hresult

/-- **Refused calls leave no trace.** Let calls be carried out in place.

* In every layout, whatever state it is in, a call is refused exactly if it names no node, or a node
  of another kind than the call needs, or gives an input an answer of another kind than its own.
* All is then as it was before the call, although writes may come before checks.
* In all that an activated layout can become, every input holds an answer of its own kind.

**Proof sketch.** Every write of a call comes after all of its checks, but for one: a view is noted
to be attached before its node is looked at as an input. The node was found before, and this check
asks for nothing else. So in place a call does all that it does, or nothing. Answers change only
where one is accepted, since neither routing nor changes of forms and pagers reach them. -/
theorem refused_calls_leave_no_trace :
    (∀ (layout : Layout) (call : Call) (error : LayoutError),
      ((layout.undergo call).1 = .error error ↔ call.IsRefused layout.tree error) ∧
        ((layout.undergo call).1 = .error error → (layout.undergo call).2 = layout)) ∧
      ∀ (environment : Environment) (spec : Spec) (layout : Layout),
        Reachable environment spec layout → layout.HoldsOwnKinds := by
  refine ⟨fun layout call error => ?_, fun _ _ _ => Reachable.holdsOwnKinds⟩
  rw [undergo_eq_perform, ← perform_eq_error]
  cases layout.perform call with
  | ok layout' => exact ⟨⟨nofun, nofun⟩, nofun⟩
  | error other => exact ⟨by simp [Edit.allOrNothing], fun _ => rfl⟩

/-- A form with a switch. -/
def consent : Spec :=
  ⟨.form { id := "consent" }, [], [⟨.input { id := "agree", kind := .toggle }, [], []⟩]⟩

/-- A text is not an answer for a switch: it is refused, the layout stays as it is, and the switch
holds an answer of its own kind once it is given one. -/
theorem refused_calls_leave_no_trace_consent :
    ∃ layout : Layout, activate {} consent = .ok layout ∧
      (layout.undergo (.setAnswer 1 (.textInput (some "yes")))).1 =
        .error (.valueMismatch "agree" "toggle" "text_input") ∧
      (layout.undergo (.setAnswer 1 (.textInput (some "yes")))).2 = layout ∧
      (layout.undergo (.setAnswer 1 (.toggle true))).2.HoldsOwnKinds := by
  obtain ⟨layout, hactive⟩ : ∃ layout, activate {} consent = .ok layout :=
    ⟨_, activate_eq_ok.mpr ⟨by decide, rfl⟩⟩
  have hview : layout.tree.view? 1 = some (.input { id := "agree", kind := .toggle }) := by
    rw [(sound_of_activate hactive).2.1]
    decide
  have hkind : (Answer.textInput (some "yes")).kind? ≠ some .toggle := by decide
  have hrefused := (refused_calls_leave_no_trace.1 layout _ _).1.mpr
    (.valueMismatch hview hkind)
  exact ⟨layout, hactive, hrefused, (refused_calls_leave_no_trace.1 layout _ _).2 hrefused,
    refused_calls_leave_no_trace.2 _ _ _ (.called _ (.activated hactive))⟩

end Layout

end FormTree

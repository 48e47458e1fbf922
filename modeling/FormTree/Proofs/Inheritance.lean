import FormTree.Proofs.Display
import FormTree.Proofs.Layout.Inheriting
import FormTree.Proofs.Layout.Logging

set_option autoImplicit false

/-!
# What nested forms inherit

Whenever control is back with the caller, a nested form is submitted if and only if the form around
it is, at any depth. A nested form without rules is enabled as long as the form around it has been,
from the moment on at which the nested form was set up: a disabled snapshot of the form around it
disables the nested form for good.

## Main definitions

* `FormTree.Action.changesForm` — a form is changed through its handle.

## Main results

* `FormTree.Layout.Sound.inheriting_moves` — whatever happens, nested forms take over.
* `FormTree.Layout.inheriting_build` — they do so when they are set up.
* `FormTree.Layout.forms_inherit` — what nested forms inherit.
-/

namespace FormTree

/-- A form is changed through its handle. -/
def Action.changesForm : Action → Bool
  | .changeForm _ _ => true
  | _ => false

namespace Layout

variable {start : NodeId → Bool} {past : NodeId → List FormState} {layout layout' : Layout}
  {id child parent : NodeId}

/-! ## Whatever happens -/

/-- Only forms that submit by themselves are submitted, and these take over nothing. -/
theorem Sound.inheriting_submitForm (h : layout.Sound) {node : Node} {spec : FormSpec}
    (hform : layout.tree.form? id = some (node, spec)) (button : Option String)
    (hinheriting : Inheriting start past layout) :
    Inheriting start past (layout.submitForm id spec button) := by
  unfold submitForm
  dsimp only
  split
  · exact hinheriting
  · next hopen =>
    have hisChild : layout.tree.isChild id = spec.isChild := Tree.isChild_of_form? hform
    have hsubmitted : Inheriting start past (layout.changeForm id .submit) :=
      h.inheriting_changeForm (by rw [hform]; rfl)
        (fun hchild => absurd (.inl (hisChild ▸ hchild)) hopen) hinheriting
    split
    · exact hsubmitted.congr rfl fun _ => rfl
    · unfold applyUpdate
      split
      · exact hsubmitted.congr rfl fun _ => rfl
      · exact hsubmitted.congr rfl fun _ => rfl

theorem Sound.inheriting_step (h : layout.Sound) {allow : Allowance}
    (step : Step allow layout layout') (hinheriting : Inheriting start past layout) :
    Inheriting start past layout' := by
  cases step with
  | @change id intent htakes hsome =>
    refine h.inheriting_changeForm hsome (fun _ => ?_) hinheriting
    cases intent with
    | track _ _ | input _ | withdraw _ | display _ _ => trivial
    | _ => exact htakes.elim
  | @page _ intent hpager =>
    exact h.inheriting_updatePager hpager (·.reduce intent) hinheriting
  | note id change => exact hinheriting.congr rfl fun _ => rfl
  | submit button _ hform => exact h.inheriting_submitForm hform button hinheriting
  | follow _ _ => exact hinheriting.congr rfl fun _ => rfl
  | dismiss dismissal => exact hinheriting.congr rfl fun _ => rfl
  | reportDismissal _ _ _ _ =>
    unfold Layout.report
    split
    · exact hinheriting.congr rfl fun _ => rfl
    · exact hinheriting

/-- **Whatever happens, nested forms take over** what the forms around them commit. -/
theorem Sound.inheriting_moves (h : layout.Sound) (moves : Moves layout layout')
    (hinheriting : Inheriting start past layout) : Inheriting start past layout' := by
  induction moves with
  | refl => exact hinheriting
  | @tail world world' moves move ih =>
    have hworld : world.Sound := (keeps_moves moves h).1
    cases move with
    | step step => exact hworld.inheriting_step step ih
    | updatePager change hpager => exact hworld.inheriting_updatePager hpager change ih
    | aside htree hforms _ => exact ih.congr htree fun id => congrArg (·.get id) hforms

/-- What happens from outside goes in moves, unless a form is changed through its handle. -/
theorem moves_act (layout : Layout) {action : Action} (h : action.changesForm = false) :
    Moves layout (layout.act action) := by
  cases action with
  | call call => exact moves_after layout call
  | changeForm id intent => cases h
  | updatePager id change =>
    rw [act]
    split
    · next hspec => exact .single (.updatePager change (isPager_of_pagerSpec hspec))
    · exact .refl

theorem moves_acts (layout : Layout) {actions : List Action}
    (h : ∀ action ∈ actions, action.changesForm = false) : Moves layout (layout.acts actions) := by
  induction actions generalizing layout with
  | nil => exact .refl
  | cons action actions ih =>
    have hfirst := moves_act layout (h action (by simp))
    exact hfirst.trans (ih _ fun other hother => h other (by simp [hother]))

/-! ## Setting up -/

section SetUp

variable {environment : Environment} {tree : Tree} {bound bound' form : NodeId} {node : Node}
  {spec : FormSpec}

/-- Forms that are set up keep their snapshots and logs while the next node is set up. -/
theorem Assembled.form_setUp (h : Assembled environment tree id layout) (wf : tree.WellFormed)
    (hlt : form < id) : ((layout.setUp id).form form).value = (layout.form form).value ∧
      ((layout.setUp id).form form).history = (layout.form form).history := by
  unfold Layout.setUp
  split
  · exact ⟨rfl, rfl⟩
  · next node hnode =>
    split
    · exact ⟨rfl, rfl⟩
    · next spec hview =>
      have hform : tree.form? id = some (node, spec) :=
        Tree.form?_eq_some.mpr ⟨h.tree_eq ▸ hnode, hview⟩
      have hsetUp := h.formSetUp wf hform
      rw [hsetUp.before form hlt, Observable.value_watchAll, Observable.history_watchAll]
      exact ⟨rfl, rfl⟩
    · exact ⟨rfl, rfl⟩
    all_goals exact ⟨rfl, rfl⟩

theorem setUpTo_succ (environment : Environment) (tree : Tree) (bound : NodeId) :
    setUpTo environment tree (bound + 1) = (setUpTo environment tree bound).setUp bound := by
  rw [setUpTo, List.range_succ, List.foldl_append]
  rfl

/-- Forms that are set up keep their snapshots and logs until all nodes are. -/
theorem form_setUpTo (environment : Environment) (wf : tree.WellFormed) (hlt : form < bound)
    (hle : bound ≤ bound') (hsize : bound' ≤ tree.size) :
    ((setUpTo environment tree bound').form form).value =
        ((setUpTo environment tree bound).form form).value ∧
      ((setUpTo environment tree bound').form form).history =
        ((setUpTo environment tree bound).form form).history := by
  induction hle with
  | refl => exact ⟨rfl, rfl⟩
  | step hle ih =>
    have hbefore := Nat.le_of_succ_le hsize
    obtain ⟨hvalue, hhistory⟩ :=
      (assembled_upTo environment wf hbefore).form_setUp wf (Nat.lt_of_lt_of_le hlt hle)
    obtain ⟨hvalue', hhistory'⟩ := ih hbefore
    rw [setUpTo_succ]
    exact ⟨hvalue.trans hvalue', hhistory.trans hhistory'⟩

/-- A form that nobody observes changes by itself only. -/
theorem value_updateForm_of_unobserved (hnone : (layout.form id).observers = []) (depth : Nat)
    (intent : FormIntent) : ((updateForm (depth + 1) id intent layout).form id).value =
      (layout.form id).value.reduce intent := by
  have hmodify : ∀ (world : Layout)
      (change : Observable FormState FormReaction → Observable FormState FormReaction),
      (change (world.form id)).observers = [] →
      (change (world.form id)).value = (layout.form id).value.reduce intent →
      (((formPlace id).modify world change).form id).observers = [] ∧
        (((formPlace id).modify world change).form id).value =
          (layout.form id).value.reduce intent := by
    intro world change hobservers hvalue
    rw [form_modify, if_pos rfl]
    exact ⟨hobservers, hvalue⟩
  refine ((formPlace id).flush_keeps (reactForm (updateForm depth))
    (P := fun world => (world.form id).observers = [] ∧
      (world.form id).value = (layout.form id).value.reduce intent)
    (fun before hbefore observer hmem => ?_) (fun world other hworld => hmodify world _ ?_ hworld.2)
    (fun world hworld => hmodify world _ hworld.1 hworld.2)
    (fun world pending hworld => hmodify world _ hworld.1 hworld.2)
    (fun world hworld => hmodify world _ hworld.1 hworld.2) (hmodify layout _ ?_ ?_)).2
  · have hnobody : ((formPlace id).get before).observers = [] := hbefore.1
    rw [hnobody] at hmem
    cases hmem
  · exact congrArg (List.filter (·.id ≠ other)) hworld.1
  · rw [Observable.observers_commit, hnone]
  · rw [Observable.value_commit]

/-- **A nested form without rules is set up as enabled as the form around it.** -/
theorem Assembled.isEnabled_setUp (h : Assembled environment tree id layout)
    (linked : tree.Linked) (hisChild : tree.isChild id = true)
    (haround : tree.formAround id = some parent) (hfree : tree.rules id = []) :
    ((layout.setUp id).form id).value.isEnabled = (layout.form parent).value.isEnabled := by
  obtain ⟨⟨node, spec⟩, hform⟩ :=
    Option.isSome_iff_exists.mp (Tree.isSome_form?_of_isChild hisChild)
  have hchild : spec.isChild = true := by rwa [Tree.isChild, hform] at hisChild
  obtain ⟨hnode, hview⟩ := Tree.form?_eq_some.mp hform
  have hsetUp : layout.setUp id = layout.setUpForm id node spec := by
    rw [Layout.setUp, h.tree_eq, hnode]
    dsimp only
    rw [hview]
  have hlt : parent < id := linked.formAround_lt haround
  have hscope : node.scope.form = some parent := by
    rw [← haround, Tree.formAround, hnode]
    rfl
  have hrules : node.formRules spec = [] := by
    rw [← hfree, Tree.rules, hform]
  have habove : (layout.raise id spec).form parent = layout.form parent := by
    rw [form_raise, if_neg (Nat.ne_of_gt hlt)]
  have hraised : (layout.raise id spec).form id =
      { value := FormState.start spec.id spec.formType spec.responseType } := by
    rw [form_raise, if_pos rfl]
  -- the form is tied to the form around it, and then it only gets observers
  have hties : ((layout.raise id spec).setUpInheritance id spec node.scope).setUpRules id
      (node.formRules spec) node.scope = ((layout.raise id spec).changeForm id
        (.inherit (layout.form parent).value.isSubmitted
          (layout.form parent).value.isEnabled)).watchForm parent (.inherit id) := by
    rw [setUpRules, if_pos hrules, setUpInheritance, hchild, hscope]
    dsimp only
    rw [habove]
  have htied : (((layout.raise id spec).setUpInheritance id spec node.scope).setUpRules id
      (node.formRules spec) node.scope).form id = ((layout.raise id spec).changeForm id
        (.inherit (layout.form parent).value.isSubmitted
          (layout.form parent).value.isEnabled)).form id := by
    rw [hties, form_watchForm, if_neg (Nat.ne_of_lt hlt)]
  have hchanged := value_updateForm_of_unobserved (by rw [hraised])
    (layout.raise id spec).tree.size
    (.inherit (layout.form parent).value.isSubmitted (layout.form parent).value.isEnabled)
  rw [hsetUp, setUpForm_eq rfl, hchild, if_pos rfl]
  have hvalue : ∀ world : Layout, ∀ status reaction event,
      ((((world.announce id status).watchForm id reaction).push event).form id).value =
        (world.form id).value := by
    intro world status reaction event
    show (((world.announce id status).watchForm id reaction).form id).value = _
    rw [form_watchForm, if_pos rfl]
    rfl
  rw [hvalue, htied]
  refine (congrArg FormState.isEnabled hchanged).trans ?_
  rw [hraised]
  exact Bool.true_and _

/-- **Nested forms have taken over what there is when they are set up.** -/
theorem inheriting_build (environment : Environment) (wf : tree.WellFormed) :
    ∃ start past, (∀ child parent, tree.formAround child = some parent →
      start child = ((setUpTo environment tree child).form parent).value.isEnabled ∧
      past child = ((setUpTo environment tree child).form parent).history) ∧
    Inheriting start past (build environment tree) := by
  refine ⟨fun child => (tree.formAround child).all fun parent =>
      ((setUpTo environment tree child).form parent).value.isEnabled,
    fun child => ((tree.formAround child).map fun parent =>
      ((setUpTo environment tree child).form parent).history).getD [],
    fun child parent haround => by simp [haround], fun child parent hchild haround => ?_⟩
  have hassembled := assembled_build environment wf
  rw [hassembled.tree_eq] at hchild haround ⊢
  have hsome : (tree.form? child).isSome := Tree.isSome_form?_of_isChild hchild
  have hparent : (tree.form? parent).isSome := (wf.linked.formAround_spec haround).2
  have hlt : parent < child := wf.linked.formAround_lt haround
  have hsize : child < tree.size := Tree.lt_size_of_form? hsome
  obtain ⟨hvalue, hhistory⟩ := form_setUpTo environment wf hlt (Nat.le_of_lt hsize) (Nat.le_refl _)
  obtain ⟨⟨node, spec⟩, hform⟩ := Option.isSome_iff_exists.mp hsome
  obtain ⟨⟨parentNode, parentSpec⟩, hform'⟩ := Option.isSome_iff_exists.mp hparent
  constructor
  · have hfresh := (hassembled.fresh child node spec hsize hform).isSubmitted
    have hfresh' := (hassembled.fresh parent parentNode parentSpec (Nat.lt_trans hlt hsize)
      hform').isSubmitted
    have hlogged : Logged [] ((build environment tree).form parent) :=
      logged_setUpTo environment wf (Nat.le_refl _) hparent (Nat.lt_trans hlt hsize)
    rw [hfresh, ← hlogged.isSubmitted, hfresh']
    rfl
  · refine ⟨[], ?_, fun hfree => ?_⟩
    · simp only [haround, Option.map_some, Option.getD_some, List.append_nil]
      exact hhistory
    · have hcreated := (assembled_upTo environment wf (Nat.le_of_lt hsize)).isEnabled_setUp
        wf.linked hchild haround hfree
      have hkept := (form_setUpTo environment wf (Nat.lt_succ_self child) hsize (Nat.le_refl _)).1
      rw [setUpTo_succ] at hkept
      simp only [haround, Option.all_some, List.all_nil, Bool.and_true]
      exact (congrArg FormState.isEnabled hkept).trans hcreated

end SetUp

/-! ## Runs -/

/-- A layout that has been active for a while: what its nested forms took over. -/
theorem inheriting_acts {environment : Environment} {spec : Spec}
    (h : activate environment spec = .ok layout) :
    ∃ start past, (∀ child parent, (Tree.ofSpec spec).formAround child = some parent →
      start child =
        ((setUpTo environment (Tree.ofSpec spec) child).form parent).value.isEnabled ∧
      past child = ((setUpTo environment (Tree.ofSpec spec) child).form parent).history) ∧
    ∀ actions : List Action, (∀ action ∈ actions, action.changesForm = false) →
      (layout.acts actions).tree = Tree.ofSpec spec ∧
      Inheriting start past (layout.acts actions) ∧
      ∀ form, ((Tree.ofSpec spec).form? form).isSome →
        Logged [] ((layout.acts actions).form form) := by
  obtain ⟨hviolation, hlayout⟩ := activate_eq_ok.mp h
  have wf := Tree.wellFormed_of_violation? (Tree.linked_ofSpec spec) hviolation
  have hassembled := assembled_build environment wf
  obtain ⟨start, past, hstart, hbuild⟩ := inheriting_build environment wf
  refine ⟨start, past, hstart, fun actions hactions => ?_⟩
  have moves : Moves (build environment (Tree.ofSpec spec)) (layout.acts actions) := by
    rw [hlayout]
    exact (moves_settle _).trans (moves_acts _ hactions)
  refine ⟨?_, (hassembled.sound wf).inheriting_moves moves hbuild, fun form hsome => ?_⟩
  · exact (keeps_moves moves (hassembled.sound wf)).2.1.trans hassembled.tree_eq
  · exact logged_moves moves
      (logged_setUpTo environment wf (Nat.le_refl _) hsome (Tree.lt_size_of_form? hsome))

/-- **What nested forms inherit.** Let a layout be activated, and let any calls, events from
outside and changes of pagers through their handles follow. Let `child` be a nested form in the form
`parent`. Then `child` is submitted if and only if `parent` is, and so if and only if the form that
submits for them is. If `child` has no rules, then it is enabled if and only if `parent` was when
`child` was set up, and is in every snapshot that `parent` committed since. So once `parent` has
been disabled, `child` stays disabled.

**Proof sketch.** A snapshot that is committed at `parent` is taken over by `child` when it is
delivered, and where control is back with the caller all of them have been. So the flags of `child`
are what the log of `parent` makes of them. The log tells the flags of `parent` too: nothing takes a
submission back, and the last snapshot is the present one. -/
theorem forms_inherit {environment : Environment} {spec : Spec}
    (h : activate environment spec = .ok layout) (actions : List Action)
    (hactions : ∀ action ∈ actions, action.changesForm = false)
    (hchild : (Tree.ofSpec spec).isChild child = true)
    (haround : (Tree.ofSpec spec).formAround child = some parent) :
    ((layout.acts actions).form child).value.isSubmitted =
      ((layout.acts actions).form parent).value.isSubmitted ∧
    (∀ top, (Tree.ofSpec spec).Reaches top child →
      ((layout.acts actions).form child).value.isSubmitted =
        ((layout.acts actions).form top).value.isSubmitted) ∧
    ((Tree.ofSpec spec).rules child = [] →
      (∃ since, ((layout.acts actions).form parent).history =
          ((setUpTo environment (Tree.ofSpec spec) child).form parent).history ++ since ∧
        ((layout.acts actions).form child).value.isEnabled =
          (((setUpTo environment (Tree.ofSpec spec) child).form parent).value.isEnabled &&
            since.all (·.isEnabled))) ∧
      ∀ earlier, earlier <+: actions →
        ((layout.acts earlier).form parent).value.isEnabled = false →
        ((layout.acts actions).form child).value.isEnabled = false) := by
  obtain ⟨start, past, hcreated, hacts⟩ := inheriting_acts h
  obtain ⟨htree, hinheriting, hlogged⟩ := hacts actions hactions
  have wf : (Tree.ofSpec spec).WellFormed :=
    Tree.wellFormed_of_violation? (Tree.linked_ofSpec spec) (activate_eq_ok.mp h).1
  obtain ⟨hlt, hparent⟩ := wf.linked.formAround_spec haround
  have hsubmitted : ∀ {form around}, (Tree.ofSpec spec).isChild form = true →
      (Tree.ofSpec spec).formAround form = some around →
      ((layout.acts actions).form form).value.isSubmitted =
        ((layout.acts actions).form around).value.isSubmitted := by
    intro form around hc ha
    have htaken := (hinheriting form around (htree ▸ hc) (htree ▸ ha)).isSubmitted
    have htold := (hlogged around (wf.linked.formAround_spec ha).2).isSubmitted
    rwa [List.any_nil, Bool.or_false, ← htold] at htaken
  refine ⟨hsubmitted hchild haround, fun top hreaches => ?_, fun hfree => ?_⟩
  · clear hchild haround hlt hparent
    induction hreaches with
    | self => rfl
    | through hc ha _ ih => exact (hsubmitted hc ha).trans ih
  · obtain ⟨hstart, hpast⟩ := hcreated child parent haround
    obtain ⟨since, hhistory, htaken⟩ :=
      (hinheriting child parent (htree ▸ hchild) (htree ▸ haround)).isEnabled
    have hisEnabled := htaken (htree ▸ hfree)
    rw [List.all_nil, Bool.and_true, hstart] at hisEnabled
    rw [hpast] at hhistory
    refine ⟨⟨since, hhistory, hisEnabled⟩, fun earlier hprefix hdisabled => ?_⟩
    obtain ⟨later, rfl⟩ := hprefix
    have hearlier : ∀ action ∈ earlier, action.changesForm = false :=
      fun action hmem => hactions action (List.mem_append_left _ hmem)
    obtain ⟨htree', hinheriting', hlogged'⟩ := hacts earlier hearlier
    obtain ⟨soFar, hsoFar, -⟩ :=
      (hinheriting' child parent (htree' ▸ hchild) (htree' ▸ haround)).isEnabled
    have hbefore : Logged ((setUpTo environment (Tree.ofSpec spec) child).form parent).history
        ((layout.acts earlier).form parent) := by
      obtain ⟨-, hsubmittedBefore, henabledBefore⟩ := hlogged' parent hparent
      exact ⟨⟨soFar, by rw [hsoFar, hpast]⟩, hsubmittedBefore, henabledBefore⟩
    have hafter : Logged ((layout.acts earlier).form parent).history
        ((layout.acts (earlier ++ later)).form parent) := by
      have hlater := moves_acts (layout.acts earlier) fun action hmem =>
        hactions action (List.mem_append_right earlier hmem)
      have hsame : layout.acts (earlier ++ later) = (layout.acts earlier).acts later :=
        List.foldl_append
      rw [hsame]
      exact logged_moves hlater hbefore.whole
    have hfirst : Logged [] ((setUpTo environment (Tree.ofSpec spec) child).form parent) :=
      logged_setUpTo environment wf
        (Nat.le_of_lt (Tree.lt_size_of_form? (Tree.isSome_form?_of_isChild hchild))) hparent hlt
    rw [hisEnabled]
    exact hfirst.disabled hbefore hafter hdisabled hhistory

/-- A form that must not be changed once it is submitted, with a form in a form in it. -/
def travelPass : Spec :=
  ⟨.container, [], [
    ⟨.form { id := "pass", formEnabled := [.formSubmission] }, [], [
      ⟨.form { id := "traveller", submit := none }, [], [
        ⟨.form { id := "address", submit := none }, [], [
          ⟨.input { id := "street", kind := .textInput }, [], []⟩]⟩]⟩]⟩,
    ⟨.button { id := "send", behaviors := [.formSubmit] }, [], []⟩]⟩

/-- What the innermost form inherits when the outermost one is submitted, and so disabled: it is
submitted too, and disabled whatever follows. -/
theorem forms_inherit_travelPass :
    ∃ layout sent : Layout, activate {} travelPass = .ok layout ∧
      sent = layout.act (.call (.click 5)) ∧
      (sent.form 1).value.isSubmitted = true ∧ (sent.form 2).value.isEnabled = false ∧
      (sent.form 3).value.isSubmitted = true ∧ ∀ later : List Call,
        let final := sent.acts (later.map .call)
        (final.form 3).value.isSubmitted = (final.form 1).value.isSubmitted ∧
          (final.form 3).value.isEnabled = false := by
  have hactive : activate {} travelPass = .ok (build {} (Tree.ofSpec travelPass)).settle :=
    activate_eq_ok.mpr ⟨by decide, rfl⟩
  have hchild : (Tree.ofSpec travelPass).isChild 3 = true := by decide
  have haround : (Tree.ofSpec travelPass).formAround 3 = some 2 := by decide
  have htop : (Tree.ofSpec travelPass).Reaches 1 3 :=
    .through hchild haround (.through (by decide) (by decide) .self)
  have hsent : (((build {} (Tree.ofSpec travelPass)).settle.act (.call (.click 5))).form
      1).value.isSubmitted = true := by decide +kernel
  have hdisabled : (((build {} (Tree.ofSpec travelPass)).settle.act (.call (.click 5))).form
      2).value.isEnabled = false := by decide +kernel
  generalize (build {} (Tree.ofSpec travelPass)).settle = layout at hactive hsent hdisabled
  have hinherit := fun later : List Call => forms_inherit hactive
    (.call (.click 5) :: later.map .call) (by simp [Action.changesForm]) hchild haround
  refine ⟨layout, _, hactive, rfl, hsent, hdisabled, ((hinherit []).2.1 1 htop).trans hsent,
    fun later => ⟨(hinherit later).2.1 1 htop, ?_⟩⟩
  exact ((hinherit later).2.2 (by decide)).2 [.call (.click 5)] ⟨later.map .call, rfl⟩ hdisabled

end Layout

end FormTree

import FormTree.Proofs.Layout.Introducing
import FormTree.Proofs.Layout.Moves

set_option autoImplicit false

/-!
# What logs tell

A form starts enabled and unsubmitted, and its log tells whether it still is: nothing takes a
submission back, so a form is submitted if any of its snapshots was, and it is enabled if the last
of them is. Logs only grow.

## Main definitions

* `FormTree.Logged` — the log of a form goes on from given snapshots and tells its flags.
* `FormTree.Layout.setUpTo` — a layout with its first nodes set up.

## Main results

* `FormTree.Layout.logged_moves` — whatever happens, logs go on telling the flags of forms.
* `FormTree.Layout.logged_setUpTo` — they do so as soon as a form is set up.
-/

namespace FormTree

/-- Once submitted, a form stays so. -/
theorem FormState.isSubmitted_reduce_of_true {state : FormState} (intent : FormIntent)
    (h : state.isSubmitted = true) : (state.reduce intent).isSubmitted = true := by
  cases intent with
  | submit => rfl
  | inherit isSubmitted isEnabled => exact Bool.or_eq_true_iff.mpr (.inl h)
  | _ => exact h

/-- The log of a form starts with the snapshots `past`, and it tells the flags of the form: the form
is submitted if a snapshot was, and enabled if the last one is, or if there is none. -/
structure Logged (past : List FormState) (state : Observable FormState FormReaction) : Prop where
  past : past <+: state.history
  isSubmitted : state.value.isSubmitted = state.history.any (·.isSubmitted)
  isEnabled : state.value.isEnabled = state.history.getLast?.all (·.isEnabled)

namespace Logged

variable {past : List FormState} {state state' : Observable FormState FormReaction}

theorem congr (h : Logged past state) (hvalue : state'.value = state.value)
    (hhistory : state'.history = state.history) : Logged past state' where
  past := by
    rw [hhistory]
    exact h.past
  isSubmitted := by rw [hvalue, hhistory, h.isSubmitted]
  isEnabled := by rw [hvalue, hhistory, h.isEnabled]

/-- What holds of a log with any beginning holds of it with all of it as the beginning. -/
theorem whole (h : Logged past state) : Logged state.history state where
  past := List.prefix_refl _
  isSubmitted := h.isSubmitted
  isEnabled := h.isEnabled

theorem start (spec : FormSpec) :
    Logged [] { value := FormState.start spec.id spec.formType spec.responseType } where
  past := List.prefix_refl _
  isSubmitted := rfl
  isEnabled := rfl

/-- What is committed is logged. -/
theorem commit (h : Logged past state) (intent : FormIntent) :
    Logged past (state.commit (state.value.reduce intent)) := by
  by_cases hsame : state.value.reduce intent = state.value
  · rwa [hsame, Observable.commit_value]
  · have hhistory : (state.commit (state.value.reduce intent)).history =
        state.history ++ [state.value.reduce intent] := by
      rw [Observable.history_commit, Observable.added, if_neg hsame]
    refine ⟨?_, ?_, ?_⟩
    all_goals rw [hhistory]
    · exact h.past.trans (List.prefix_append _ _)
    all_goals rw [Observable.value_commit]
    · rw [List.any_append, ← h.isSubmitted, List.any_cons, List.any_nil, Bool.or_false]
      cases hbefore : state.value.isSubmitted with
      | false => rw [Bool.false_or]
      | true => rw [FormState.isSubmitted_reduce_of_true intent hbefore, Bool.true_or]
    · rw [List.getLast?_concat, Option.all_some]

/-- A form that is disabled was so from the first, or a snapshot since says so, however long its log
grows from there. -/
theorem disabled {first earlier later : Observable FormState FormReaction}
    (hfirst : Logged [] first) (hearlier : Logged first.history earlier)
    (hlater : Logged earlier.history later)
    (hdisabled : earlier.value.isEnabled = false) {since : List FormState}
    (hsince : later.history = first.history ++ since) :
    (first.value.isEnabled && since.all (·.isEnabled)) = false := by
  obtain ⟨soFar, hsoFar⟩ := hearlier.past
  have hlast := hearlier.isEnabled
  rw [hdisabled, ← hsoFar, List.getLast?_append] at hlast
  cases hgetLast : soFar.getLast? with
  | none =>
    rw [hgetLast, Option.none_or] at hlast
    rw [hfirst.isEnabled, ← hlast, Bool.false_and]
  | some last =>
    rw [hgetLast, Option.some_or, Option.all_some] at hlast
    have hprefix : soFar <+: since := by
      have hgrown := hlater.past
      rwa [hsince, ← hsoFar, List.prefix_append_right_inj] at hgrown
    have hall : since.all (·.isEnabled) = false := by
      rw [List.all_eq_false]
      exact ⟨last, hprefix.subset (List.mem_of_getLast? hgetLast), by simp [← hlast]⟩
    rw [hall, Bool.and_false]

end Logged

namespace Layout

variable {past : List FormState} {layout layout' : Layout} {id form : NodeId}

/-! ## Changes -/

/-- A change of a form, with all that follows, is logged wherever a form changes. -/
theorem logged_updateForm (depth : Nat) (id : NodeId) (intent : FormIntent)
    (h : Logged past (layout.form form)) :
    Logged past ((updateForm depth id intent layout).form form) := by
  refine updateForm_induction (P := fun world => Logged past (world.form form))
    (fun world other intent hworld => ?_) (fun world other change hkeeps hworld => ?_)
    (fun _ _ _ hworld => hworld) (fun _ _ _ hworld => hworld) depth id intent layout h
  · rw [form_commitForm]
    split
    · next heq =>
      subst heq
      exact hworld.commit intent
    · exact hworld
  · rw [form_modify]
    split
    · next heq =>
      subst heq
      exact hworld.congr (hkeeps _).1 (hkeeps _).2
    · exact hworld

/-- So is the change of a pager. -/
theorem logged_updatePager (id : NodeId) (change : PagerState → PagerState)
    (h : Logged past (layout.form form)) :
    Logged past ((layout.updatePager id change).form form) := by
  refine (pagerPlace id).flush_induction (reactPager (updateForm layout.depth))
    (P := fun world => Logged past (world.form form)) (fun observer snapshot world hworld => ?_)
    (fun _ _ _ hworld => hworld) h
  unfold reactPager
  split
  · exact hworld
  · exact logged_updateForm _ _ _ hworld
  · exact hworld

theorem logged_submitForm (id : NodeId) (spec : FormSpec) (button : Option String)
    (h : Logged past (layout.form form)) :
    Logged past ((layout.submitForm id spec button).form form) := by
  have hsubmitted : Logged past ((layout.changeForm id .submit).form form) :=
    logged_updateForm _ _ _ h
  unfold submitForm
  dsimp only
  split
  · exact h
  · split
    · exact hsubmitted
    · unfold applyUpdate
      split
      · exact hsubmitted
      · exact hsubmitted

theorem logged_step {allow : Allowance} (step : Step allow layout layout')
    (h : Logged past (layout.form form)) : Logged past (layout'.form form) := by
  cases step with
  | change _ _ => exact logged_updateForm _ _ _ h
  | @page id intent _ => exact logged_updatePager id (·.reduce intent) h
  | note _ _ => exact h
  | submit button _ _ => exact logged_submitForm _ _ _ h
  | follow _ _ => exact h
  | dismiss _ => exact h
  | reportDismissal _ _ _ _ =>
    unfold Layout.report
    split
    · exact h
    · exact h

/-- **Whatever happens, logs go on telling the flags of forms.** -/
theorem logged_moves (moves : Moves layout layout') (h : Logged past (layout.form form)) :
    Logged past (layout'.form form) := by
  induction moves with
  | refl => exact h
  | tail _ move ih =>
    cases move with
    | step step => exact logged_step step ih
    | updatePager change _ => exact logged_updatePager _ change ih
    | aside _ hforms _ =>
      rw [Layout.form, hforms]
      exact ih

/-! ## Setting up -/

/-- The layout of a tree with the nodes before `bound` set up. -/
def setUpTo (environment : Environment) (tree : Tree) (bound : NodeId) : Layout :=
  (List.range bound).foldl setUp { tree, environment }

/-- A form that is set up starts a log; the logs of others are kept. -/
theorem logged_setUpForm (layout : Layout) (id : NodeId) (node : Node) (spec : FormSpec)
    (h : form ≠ id → Logged [] (layout.form form)) :
    Logged [] ((layout.setUpForm id node spec).form form) := by
  have hwatch : ∀ (world : Layout) (other : NodeId) (reaction : FormReaction),
      Logged [] (world.form form) → Logged [] ((world.watchForm other reaction).form form) := by
    intro world other reaction hworld
    rw [form_watchForm]
    split
    · next heq =>
      subst heq
      exact hworld.congr rfl rfl
    · exact hworld
  have hraised : Logged [] ((layout.raise id spec).form form) := by
    rw [form_raise]
    split
    · exact .start spec
    · next hne => exact h (Ne.symm hne)
  obtain ⟨tied, htied⟩ : ∃ tied, ((layout.raise id spec).setUpInheritance id spec
    node.scope).setUpRules id (node.formRules spec) node.scope = tied := ⟨_, rfl⟩
  have hties : Logged [] (tied.form form) := by
    rw [← htied]
    exact setUpTies_induction (P := fun world => Logged [] (world.form form))
      (fun world other reaction _ => hwatch world other reaction) (fun _ _ hworld => hworld)
      (fun _ intent hworld => logged_updateForm _ id intent hworld) hraised
  rw [setUpForm_eq htied]
  split
  · exact hwatch _ _ _ hties
  · exact hwatch _ _ _ hties

theorem logged_setUp (hsome : (layout.tree.form? form).isSome)
    (h : form ≠ id → Logged [] (layout.form form)) : Logged [] ((layout.setUp id).form form) := by
  by_cases heq : form = id
  · subst heq
    obtain ⟨⟨node, spec⟩, hform⟩ := Option.isSome_iff_exists.mp hsome
    obtain ⟨hnode, hview⟩ := Tree.form?_eq_some.mp hform
    unfold setUp
    rw [hnode]
    dsimp only
    rw [hview]
    exact logged_setUpForm layout form node spec h
  · have hbefore := h heq
    unfold setUp
    split
    · exact hbefore
    · split
      · exact hbefore
      · exact logged_setUpForm layout id _ _ h
      · exact hbefore
      all_goals exact hbefore

/-- **The log of a form tells its flags as soon as it is set up.** -/
theorem logged_setUpTo (environment : Environment) {tree : Tree} (wf : tree.WellFormed)
    {bound : NodeId} (hle : bound ≤ tree.size) (hsome : (tree.form? form).isSome)
    (hlt : form < bound) : Logged [] ((setUpTo environment tree bound).form form) := by
  induction bound with
  | zero => exact absurd hlt (Nat.not_lt_zero _)
  | succ bound ih =>
    have hbefore : bound ≤ tree.size := Nat.le_of_succ_le hle
    have htree : (setUpTo environment tree bound).tree = tree :=
      (assembled_upTo environment wf hbefore).tree_eq
    rw [setUpTo, List.range_succ, List.foldl_append]
    have hsome' : ((setUpTo environment tree bound).tree.form? form).isSome := by rwa [htree]
    exact logged_setUp hsome' fun hne => ih hbefore (lt_of_lt_succ hlt hne)

end Layout

end FormTree

import Mathlib.Data.List.Induction
import FormTree.Proofs.Display
import FormTree.Proofs.Layout.Records

set_option autoImplicit false

/-!
# What forms list of nested forms

A form lists what of it is on screen, nested forms among it. A nested form tells the form around it
when something of it comes on screen, and when the last of it goes off screen. It does not tell when
the last of it is gone for good: then it passes on its data only, and stays listed with nothing of
it on screen, until something of it comes on screen again.

## Main definitions

* `FormTree.Layout.lists` — what a form lists as on screen.
* `FormTree.Layout.Mirrors` — what a nested form tells the form around it.

## Main results

* `FormTree.Layout.Climb.mirrors` — what is displayed is mirrored along the climb.
* `FormTree.Layout.mem_displayed_iff_shows_or_withdrawn` — when a nested form is listed.
-/

namespace FormTree

/-- The call is one that takes an input out for good. -/
def Call.isWithdrawal : Call → Bool
  | .withdraw _ => true
  | _ => false

theorem Call.isWithdrawal_eq {call : Call} {id : NodeId} {act : InputAct}
    (h : call.inputAct? = some (id, act)) :
    call.isWithdrawal = match act with | .withdraw => true | _ => false := by
  cases call <;> cases h <;> rfl

/-- The nested form `child` is kept under `key` by the form `parent` around it. -/
structure Tree.Nests (tree : Tree) (parent child : NodeId) (key : String) : Prop where
  around : tree.formAround child = some parent
  nested : tree.isChild child = true
  key : tree.key? child = some key

theorem Tree.Nests.id_eq {tree : Tree} {parent child : NodeId} {key : String}
    (h : tree.Nests parent child key) {node : Node} {spec : FormSpec}
    (hform : tree.form? child = some (node, spec)) : spec.id = key :=
  Option.some.inj ((Tree.key?_of_isChild hform h.nested).symm.trans h.key)

namespace FormState

variable {state : FormState} {intent : FormIntent} {allow : Allowance} {name key : String}

/-- A change about another identifier leaves what is listed. -/
theorem contains_displayed_reduce (htakes : allow.takes intent) (hid : intent.id? = some name)
    (hne : name ≠ key) :
    (state.reduce intent).displayed.contains key = state.displayed.contains key := by
  cases intent with
  | track id isValid => rfl
  | input entry => rfl
  | withdraw id =>
    cases hid
    simp [reduce, withdraw, recompute, Std.ExtTreeSet.contains_erase, hne]
  | display id isDisplayed =>
    cases hid
    cases isDisplayed with
    | true => simp [reduce, display, Std.ExtTreeSet.contains_insert, hne]
    | false => simp [reduce, display, Std.ExtTreeSet.contains_erase, hne]
  | _ => cases htakes

theorem contains_displayed_display (state : FormState) (key : String) (isDisplayed : Bool) :
    (state.reduce (.display key isDisplayed)).displayed.contains key = isDisplayed := by
  cases isDisplayed <;> simp [reduce, display]

/-- What is displayed changes a form only if something of it is on screen before or after. -/
theorem isOnScreen_of_display_ne {isDisplayed : Bool}
    (hne : state.reduce (.display key isDisplayed) ≠ state) :
    state.isOnScreen = true ∨ (state.reduce (.display key isDisplayed)).isOnScreen = true := by
  cases isDisplayed with
  | true => exact .inr (isOnScreen_reduce_of_isShowing rfl)
  | false =>
    refine .inl (isOnScreen_iff.mpr fun hempty => hne ?_)
    have herase : state.displayed.erase key = state.displayed := by simp [hempty]
    simp [reduce, display, herase]

end FormState

namespace Layout

variable {layout layout' layout'' : Layout} {id form origin parent child : NodeId}
  {intent : FormIntent} {allow : Allowance} {name key : String}

/-- The form `form` lists what is kept under `key` as on screen. -/
def lists (layout : Layout) (form : NodeId) (key : String) : Bool :=
  (layout.form form).value.displayed.contains key

theorem lists_of_gist (h : (layout'.form id).value.gist = (layout.form id).value.gist) :
    layout'.lists id key = layout.lists id key :=
  (congrArg (fun state : FormState => state.displayed.contains key) h :)

/-! ## What climbs -/

/-- A change about one member leaves whether another is listed. -/
theorem Sound.lists_changeForm (hsound : layout.Sound) (hdistinct : layout.tree.HasDistinctKeys)
    (htakes : allow.takes intent) (hid : intent.id? = some name)
    (haround : layout.tree.formAround origin = some form)
    (hname : layout.tree.key? origin = some name) (hnests : layout.tree.Nests parent child key)
    (hne : child ≠ origin) :
    (layout.changeForm form intent).lists parent key = layout.lists parent key := by
  have hsome := (hsound.wf.linked.formAround_spec haround).2
  have hgist := hsound.gist_changeForm hsome intent parent
  split at hgist
  · next heq =>
    subst heq
    have hother : name ≠ key := fun heq =>
      hne (hdistinct.eq hnests.around hnests.key haround (heq ▸ hname))
    calc (layout.changeForm form intent).lists form key
        = ((layout.form form).value.reduce intent).displayed.contains key :=
          (congrArg (fun state : FormState => state.displayed.contains key) hgist :)
      _ = layout.lists form key := FormState.contains_displayed_reduce htakes hid hother
  · exact lists_of_gist hgist

/-- From one layout to the next, either nothing changes about the nested form and how it is listed,
or it told the form around it what it came to. -/
def Mirrors (parent child : NodeId) (key : String) (layout layout' : Layout) : Prop :=
  (layout'.lists parent key = layout.lists parent key ∧
    layout'.isOnScreen child = layout.isOnScreen child) ∨
  (layout'.lists parent key = layout'.isOnScreen child ∧
    (layout.isOnScreen child = true ∨ layout'.isOnScreen child = true))

theorem Mirrors.of_gist (h : ∀ id, (layout'.form id).value.gist = (layout.form id).value.gist) :
    Mirrors parent child key layout layout' :=
  .inl ⟨lists_of_gist (h parent), isOnScreen_of_gist (h child)⟩

theorem Mirrors.gist (h : Mirrors parent child key layout layout')
    (hgist : ∀ id, (layout''.form id).value.gist = (layout'.form id).value.gist) :
    Mirrors parent child key layout layout'' := by
  unfold Mirrors
  rw [lists_of_gist (hgist parent), isOnScreen_of_gist (hgist child)]
  exact h

/-- A nested form that what is displayed changes, tells the form around it what it came to. -/
theorem Climb.mirrors_pass {isDisplayed : Bool} {node : Node} {spec : FormSpec}
    (hsound : layout.Sound) (hform : layout.tree.form? child = some (node, spec))
    (hnests : layout.tree.Nests parent child key)
    (hchanged : (layout.form child).value.reduce (.display name isDisplayed) ≠
      (layout.form child).value)
    (hclimb : Climb child (spec.passOn
      ((layout.form child).value.reduce (.display name isDisplayed)) (.display name isDisplayed))
      (layout.changeForm child (.display name isDisplayed)) layout') :
    Mirrors parent child key layout layout' := by
  have hsome := Tree.isSome_form?_of_isChild hnests.nested
  have hsound' := hsound.changeForm hsome (.display name isDisplayed)
  have haround : (layout.changeForm child (.display name isDisplayed)).tree.formAround child =
      some parent := (hsound.change hsome _).tree_eq ▸ hnests.around
  have hafter : layout'.isOnScreen child =
      ((layout.form child).value.reduce (.display name isDisplayed)).isOnScreen := by
    rw [isOnScreen_of_gist (hclimb.gist_of_le hsound' (Nat.le_refl _)),
      hsound.isOnScreen_changeForm hsome, if_pos rfl]
  refine .inr ⟨?_, ?_⟩
  · calc layout'.lists parent key
        = (((layout.changeForm child (.display name isDisplayed)).form parent).value.reduce
            (spec.passOn ((layout.form child).value.reduce (.display name isDisplayed))
              (.display name isDisplayed))).displayed.contains key :=
          (congrArg (fun state : FormState => state.displayed.contains key)
            (hclimb.gist_around hsound' haround) :)
      _ = ((layout.form child).value.reduce (.display name isDisplayed)).isOnScreen := by
          rw [← hnests.id_eq hform]
          exact FormState.contains_displayed_display _ _ _
      _ = layout'.isOnScreen child := hafter.symm
  · rw [hafter]
    exact FormState.isOnScreen_of_display_ne hchanged

/-- **What is displayed is mirrored along the climb.**

**Proof sketch.** By induction on the climb. If it comes by the nested form and changes it, then the
next thing is that the form around it notes whether something of it is on screen, and no form
behind that changes any more. A form that is passed before keeps what the climb tells it under
another identifier than that of the nested form, which itself stays as it was. -/
theorem Climb.mirrors {isDisplayed : Bool}
    (hclimb : Climb origin (.display name isDisplayed) layout layout') (hsound : layout.Sound)
    (hdistinct : layout.tree.HasDistinctKeys)
    (hname : layout.tree.key? origin = some name) (hnests : layout.tree.Nests parent child key)
    (hne : child ≠ origin) : Mirrors parent child key layout layout' := by
  generalize hintent : FormIntent.display name isDisplayed = intent at hclimb
  induction hclimb generalizing name isDisplayed with
  | top _ => exact .of_gist fun _ => rfl
  | @stop origin form intent layout haround hstop =>
    subst hintent
    have hsome := (hsound.wf.linked.formAround_spec haround).2
    have htakes : Allowance.data.takes (.display name isDisplayed) := trivial
    refine .inl ⟨hsound.lists_changeForm hdistinct htakes rfl haround hname hnests hne, ?_⟩
    rw [hsound.isOnScreen_changeForm hsome]
    split
    · next heq =>
      subst heq
      rw [hstop hnests.nested]
      rfl
    · rfl
  | @pass origin form intent layout layout' node spec haround hform hchild hchanged hclimb ih =>
    subst hintent
    by_cases heq : form = child
    · subst heq
      exact hclimb.mirrors_pass hsound hform hnests hchanged
    · have hsome := (hsound.wf.linked.formAround_spec haround).2
      have htree : (layout.changeForm form (.display name isDisplayed)).tree = layout.tree :=
        (hsound.change hsome _).tree_eq
      have hup := Tree.key?_of_isChild hform hchild
      have htakes : Allowance.data.takes (.display name isDisplayed) := trivial
      have hlists := hsound.lists_changeForm hdistinct htakes rfl haround hname hnests hne
      have hscreen := hsound.isOnScreen_changeForm hsome (.display name isDisplayed) child
      rw [if_neg heq] at hscreen
      have hrest := ih (hsound.changeForm hsome _) (htree ▸ hdistinct) (htree ▸ hup)
        (htree ▸ hnests) (Ne.symm heq) rfl
      unfold Mirrors at hrest
      rw [hlists, hscreen] at hrest
      exact hrest

/-- What of a form is on screen after a change. -/
theorem Sound.displayed_changeForm (h : layout.Sound) (hsome : (layout.tree.form? form).isSome)
    (intent : FormIntent) (id : NodeId) :
    ((layout.changeForm form intent).form id).value.displayed =
      if form = id then ((layout.form form).value.reduce intent).displayed
      else (layout.form id).value.displayed := by
  have hgist := h.gist_changeForm hsome intent id
  split
  · next heq =>
    rw [if_pos heq] at hgist
    exact (congrArg FormState.displayed hgist :)
  · next hne =>
    rw [if_neg hne] at hgist
    exact (congrArg FormState.displayed hgist :)

/-- Data that climbs leaves what is on screen. -/
theorem Climb.displayed_input {entry : Entry} (hclimb : Climb origin (.input entry) layout layout')
    (hsound : layout.Sound) (id : NodeId) :
    (layout'.form id).value.displayed = (layout.form id).value.displayed := by
  generalize hintent : FormIntent.input entry = intent at hclimb
  induction hclimb generalizing entry with
  | top _ => rfl
  | stop haround _ =>
    subst hintent
    have hsome := (hsound.wf.linked.formAround_spec haround).2
    rw [hsound.displayed_changeForm hsome]
    split
    · next heq => rw [← heq]; rfl
    · rfl
  | pass haround _ _ _ _ ih =>
    subst hintent
    have hsome := (hsound.wf.linked.formAround_spec haround).2
    rw [ih (hsound.changeForm hsome _) rfl, hsound.displayed_changeForm hsome]
    split
    · next heq => rw [← heq]; rfl
    · rfl

/-- **What is gone for good goes off screen in the form around it, and nowhere else.** -/
theorem Climb.displayed_withdraw (hclimb : Climb origin (.withdraw name) layout layout')
    (hsound : layout.Sound) (id : NodeId) :
    (layout'.form id).value.displayed =
      if layout.tree.formAround origin = some id then (layout.form id).value.displayed.erase name
      else (layout.form id).value.displayed := by
  have hchange : ∀ form, layout.tree.formAround origin = some form →
      ((layout.changeForm form (.withdraw name)).form id).value.displayed =
        if layout.tree.formAround origin = some id then
          (layout.form id).value.displayed.erase name
        else (layout.form id).value.displayed := by
    intro form haround
    rw [hsound.displayed_changeForm (hsound.wf.linked.formAround_spec haround).2, haround]
    by_cases heq : form = id
    · subst heq
      rw [if_pos rfl, if_pos rfl]
      rfl
    · rw [if_neg heq, if_neg fun h => heq (Option.some.inj h)]
  cases hclimb with
  | top hnone => rw [if_neg (by rw [hnone]; nofun)]
  | stop haround _ => exact hchange _ haround
  | pass haround _ _ _ hrest =>
    have hsome := (hsound.wf.linked.formAround_spec haround).2
    rw [Climb.displayed_input hrest (hsound.changeForm hsome _), hchange _ haround]

/-- An input that is gone for good leaves how nested forms are listed. -/
theorem Climb.lists_withdraw (hclimb : Climb origin (.withdraw name) layout layout')
    (hsound : layout.Sound) (hdistinct : layout.tree.HasDistinctKeys)
    (hname : layout.tree.key? origin = some name) (hnests : layout.tree.Nests parent child key)
    (hne : child ≠ origin) : layout'.lists parent key = layout.lists parent key := by
  rw [lists, hclimb.displayed_withdraw hsound]
  split
  · next haround =>
    have hother : name ≠ key := fun heq =>
      hne (hdistinct.eq hnests.around hnests.key haround (heq ▸ hname))
    simp [lists, Std.ExtTreeSet.contains_erase, hother]
  · rfl

/-- An input that is gone for good brings nothing on screen. -/
theorem Climb.isOnScreen_of_withdraw (hclimb : Climb origin (.withdraw name) layout layout')
    (hsound : layout.Sound) (hscreen : layout'.isOnScreen id = true) :
    layout.isOnScreen id = true := by
  rw [isOnScreen, FormState.isOnScreen_iff, hclimb.displayed_withdraw hsound] at hscreen
  rw [isOnScreen, FormState.isOnScreen_iff]
  split at hscreen
  · exact Std.ExtTreeSet.ne_empty_of_erase_ne_empty hscreen
  · exact hscreen

/-! ## Between calls -/

/-- Where nothing goes on or off screen, nothing has to be told. -/
theorem Mirrors.of_displayed
    (h : ∀ id, (layout'.form id).value.displayed = (layout.form id).value.displayed) :
    Mirrors parent child key layout layout' := by
  refine .inl ⟨?_, ?_⟩
  · rw [lists, h, lists]
  · rw [isOnScreen, FormState.isOnScreen, h]
    rfl

/-- **What a call does to a nested form and how it is listed**: the nested form tells the form
around it what it came to, unless an input is gone for good. Then it stays listed as it is, and
nothing of it comes on screen. -/
theorem Idle.mirrors_after {call : Call} (h : layout.Idle)
    (hdistinct : layout.tree.HasDistinctKeys) (hcall : call.IsOrdinary layout.tree)
    (hnests : layout.tree.Nests parent child key) :
    if call.isWithdrawal then
      (layout.after call).lists parent key = layout.lists parent key ∧
        ((layout.after call).isOnScreen child = true → layout.isOnScreen child = true)
    else Mirrors parent child key layout (layout.after call) := by
  obtain ⟨raised, hraises, hafter⟩ := exists_raises h.queue hcall
  have hcalm := (h.tidy_raised hraises).1.calm_settle
  rw [hafter, lists_of_gist (hcalm.gist parent), isOnScreen_of_gist (hcalm.gist child)]
  suffices
      if call.isWithdrawal then raised.lists parent key = layout.lists parent key ∧
        (raised.isOnScreen child = true → layout.isOnScreen child = true)
      else Mirrors parent child key layout raised by
    split
    · next hwithdrawal => simpa [hwithdrawal] using this
    · next hother => exact Mirrors.gist (by simpa [hother] using this) hcalm.gist
  cases hraises with
  | steps _ hsteps =>
    have hkept := h.sound.calm_steps (Allowance.not_takes id id) (fun _ hb => hb) hsteps
    split
    · exact ⟨lists_of_gist (hkept.gist parent), fun hscreen =>
        (isOnScreen_of_gist (hkept.gist child)).symm.trans hscreen⟩
    · exact .of_gist hkept.gist
  | @input id spec act states hact hinput _ =>
    have hsound : Sound { layout with states, answers := act.answers id layout.answers } :=
      h.sound.congr rfl (fun _ => rfl) fun _ => rfl
    have hname := Tree.key?_of_input? hinput
    have hne : child ≠ id := by
      rintro rfl
      rw [Tree.input?_of_isChild hnests.nested] at hinput
      cases hinput
    obtain ⟨intent, hintent⟩ : ∃ intent, (act.event spec).formIntent? = some intent := by
      cases act <;> exact ⟨_, rfl⟩
    have hclimb := hsound.climb id hintent
    rw [Call.isWithdrawal_eq hact]
    cases act with
    | display isDisplayed =>
      cases hintent
      exact hclimb.mirrors hsound hdistinct hname hnests hne
    | fill answer =>
      cases hintent
      exact .of_displayed (hclimb.displayed_input hsound)
    | withdraw =>
      cases hintent
      exact ⟨hclimb.lists_withdraw hsound hdistinct hname hnests hne,
        hclimb.isOnScreen_of_withdraw hsound⟩

/-! ## Activation -/

/-- Nothing is on screen. -/
def Blank (layout : Layout) : Prop :=
  ∀ id, (layout.tree.form? id).isSome → (layout.form id).value.displayed = ∅

theorem Blank.calm (h : layout.Blank) (hcalm : Calm layout layout') : layout'.Blank := by
  intro id hid
  rw [hcalm.tree] at hid
  exact (congrArg FormState.displayed (hcalm.gist id) :).trans (h id hid)

/-- Steps that bring nothing on screen leave everything off screen. -/
theorem Blank.step (h : layout.Blank) (hsound : layout.Sound) (hdisplays : ¬ allow.displays)
    (hbuttons : ∀ button, ¬ allow.buttons button) (step : Step allow layout layout') :
    layout'.Blank := by
  rcases step.eq_changeForm_or with ⟨form, intent, htakes, hsome, rfl⟩ | hstep
  · intro id hid
    rw [(hsound.change hsome intent).tree_eq] at hid
    have hempty := h form hsome
    rw [hsound.displayed_changeForm hsome]
    split
    · cases intent with
      | track name isValid => exact hempty
      | input entry => exact hempty
      | withdraw name => simp [FormState.reduce, FormState.withdraw, FormState.recompute, hempty]
      | display name isDisplayed => exact absurd htakes hdisplays
      | _ => cases htakes
    · exact h id hid
  · have hsteps : Steps allow.withoutData layout layout' := .single hstep
    have htakes : ∀ intent, ¬ allow.withoutData.takes intent := Allowance.not_takes id id
    exact h.calm (hsound.calm_steps htakes (fun button hb => (hbuttons button hb).elim) hsteps)

/-- **After activation nothing is on screen**, whether or not the limit is reached. -/
theorem blank_of_activate {environment : Environment} {root : Spec}
    (h : activate environment root = .ok layout) : layout.Blank := by
  obtain ⟨hviolation, rfl⟩ := activate_eq_ok.mp h
  have wf := Tree.wellFormed_of_violation? (Tree.linked_ofSpec root) hviolation
  have hbuild := assembled_build environment wf
  generalize build environment (Tree.ofSpec root) = built at hbuild
  have hfresh : ∀ form node spec, built.tree.form? form = some (node, spec) →
      Fresh spec (built.form form) := fun form node spec hform =>
    hbuild.fresh form node spec (Tree.lt_size_of_form? (by rw [← hbuild.tree_eq, hform]; rfl))
      (hbuild.tree_eq ▸ hform)
  have hblank : built.Blank := by
    intro form hsome
    obtain ⟨⟨node, spec⟩, hform⟩ := Option.isSome_iff_exists.mp hsome
    rw [(hfresh form node spec hform).value]
    rfl
  refine ((hbuild.tidy wf).settle_induction (P := Blank) (fun _ hb => hb)
    (fun world world' hworld hp step => hp.step hworld.sound id (fun _ hb => hb) step)
    (fun world dispatch rest hp _ _ => hp.calm (.of_forms rfl rfl fun _ => rfl))
    (fun world dispatch rest hp _ hreport => ?_)
    (fun world hp => hp.calm (.of_forms rfl rfl fun _ => rfl)) hblank).2.1
  obtain ⟨reports, hroute⟩ := route_report { world with outbox := ⟨rest⟩ } hreport
  rw [hroute]
  exact hp.calm (.of_forms rfl rfl fun _ => rfl)

/-! ## Runs -/

/-- Some input was gone for good after which nothing of the nested form was on screen, though
something was before, and nothing of it came on screen since. -/
def Withdrawn (layout : Layout) (child : NodeId) (calls : List Call) : Prop :=
  ∃ before input after, calls = before ++ .withdraw input :: after ∧
    (layout.run before).isOnScreen child = true ∧
    ∀ more, more <+: after →
      (layout.run (before ++ .withdraw input :: more)).isOnScreen child = false

theorem run_concat (layout : Layout) (calls : List Call) (call : Call) :
    layout.run (calls ++ [call]) = (layout.run calls).after call := by
  simp [run]

/-- A call that brings nothing on screen, leaves what was before. -/
theorem withdrawn_concat_iff {calls : List Call} {call : Call}
    (hbefore : (layout.run calls).isOnScreen child = false)
    (hafter : (layout.run (calls ++ [call])).isOnScreen child = false) :
    layout.Withdrawn child (calls ++ [call]) ↔ layout.Withdrawn child calls := by
  constructor
  · rintro ⟨before, input, after, hsplit, hscreen, hnever⟩
    rcases List.eq_nil_or_concat after with rfl | ⟨after, last, rfl⟩
    · obtain ⟨rfl, -⟩ := List.append_inj' hsplit rfl
      rw [hbefore] at hscreen
      cases hscreen
    · have hconcat : calls ++ [call] = (before ++ .withdraw input :: after) ++ [last] := by
        simpa using hsplit
      obtain ⟨rfl, -⟩ := List.append_inj' hconcat rfl
      exact ⟨before, input, after, rfl, hscreen, fun more hmore =>
        hnever more (hmore.trans (by simp))⟩
  · rintro ⟨before, input, after, rfl, hscreen, hnever⟩
    refine ⟨before, input, after ++ [call], by simp, hscreen, fun more hmore => ?_⟩
    rcases List.prefix_concat_iff.mp hmore with rfl | hmore
    · simpa using hafter
    · exact hnever more hmore

/-- A call that is no withdrawal ends what a nested form with something on screen was before. -/
theorem not_withdrawn_concat {calls : List Call} {call : Call}
    (hbefore : (layout.run calls).isOnScreen child = true) (hcall : call.isWithdrawal = false) :
    ¬ layout.Withdrawn child (calls ++ [call]) := by
  rintro ⟨before, input, after, hsplit, -, hnever⟩
  rcases List.eq_nil_or_concat after with rfl | ⟨after, last, rfl⟩
  · obtain ⟨-, heq⟩ := List.append_inj' hsplit rfl
    rw [List.singleton_inj.mp heq] at hcall
    cases hcall
  · have hconcat : calls ++ [call] = (before ++ .withdraw input :: after) ++ [last] := by
      simpa using hsplit
    obtain ⟨rfl, -⟩ := List.append_inj' hconcat rfl
    rw [hnever after (by simp)] at hbefore
    cases hbefore

/-- A withdrawal after which nothing of the nested form is on screen. -/
theorem withdrawn_concat {calls : List Call} {call : Call} (hcall : call.isWithdrawal = true)
    (hbefore : (layout.run calls).isOnScreen child = true)
    (hafter : (layout.run (calls ++ [call])).isOnScreen child = false) :
    layout.Withdrawn child (calls ++ [call]) := by
  cases call with
  | withdraw input =>
    refine ⟨calls, input, [], rfl, hbefore, fun more hmore => ?_⟩
    rw [List.prefix_nil.mp hmore]
    exact hafter
  | _ => cases hcall

/-- **What one more call keeps**: that a nested form is listed exactly if something of it is on
screen, or nothing is because of a withdrawal. -/
theorem lists_concat_iff {calls : List Call} {call : Call}
    (h : (layout.run calls).lists parent key = true ↔
      (layout.run calls).isOnScreen child = true ∨ layout.Withdrawn child calls)
    (hstep : if call.isWithdrawal then
        (layout.run (calls ++ [call])).lists parent key = (layout.run calls).lists parent key ∧
          ((layout.run (calls ++ [call])).isOnScreen child = true →
            (layout.run calls).isOnScreen child = true)
      else Mirrors parent child key (layout.run calls) (layout.run (calls ++ [call]))) :
    (layout.run (calls ++ [call])).lists parent key = true ↔
      (layout.run (calls ++ [call])).isOnScreen child = true ∨
        layout.Withdrawn child (calls ++ [call]) := by
  split at hstep
  · next hwithdrawal =>
    obtain ⟨hlists, hback⟩ := hstep
    rw [hlists]
    cases hafter : (layout.run (calls ++ [call])).isOnScreen child with
    | true => exact iff_of_true (h.mpr (.inl (hback hafter))) (.inl rfl)
    | false =>
      cases hbefore : (layout.run calls).isOnScreen child with
      | true =>
        exact iff_of_true (h.mpr (.inl hbefore))
          (.inr (withdrawn_concat hwithdrawal hbefore hafter))
      | false => rw [h, hbefore, withdrawn_concat_iff hbefore hafter]
  · next hother =>
    rw [Bool.not_eq_true] at hother
    rcases hstep with ⟨hlists, hsame⟩ | ⟨hlists, hscreen⟩
    · rw [hlists, h, hsame]
      cases hbefore : (layout.run calls).isOnScreen child with
      | true => simp
      | false => rw [withdrawn_concat_iff hbefore (hsame.trans hbefore)]
    · rw [hlists]
      cases hafter : (layout.run (calls ++ [call])).isOnScreen child with
      | true => simp
      | false =>
        have hbefore := hscreen.resolve_right (by simp [hafter])
        simp [not_withdrawn_concat hbefore hother]

/-- **What runs keep**: a nested form is listed exactly if something of it is on screen, or nothing
is because of a withdrawal. -/
theorem Idle.lists_run_iff (h : layout.Idle) (hblank : layout.Blank)
    (hdistinct : layout.tree.HasDistinctKeys) (hnests : layout.tree.Nests parent child key)
    (calls : List Call) (hcalls : ∀ call ∈ calls, call.IsOrdinary layout.tree) :
    (layout.run calls).Idle ∧
      ((layout.run calls).lists parent key = true ↔
        (layout.run calls).isOnScreen child = true ∨ layout.Withdrawn child calls) := by
  induction calls using List.reverseRecOn with
  | nil =>
    refine ⟨h, ?_⟩
    have hparent := (h.sound.wf.linked.formAround_spec hnests.around).2
    have hchild := Tree.isSome_form?_of_isChild hnests.nested
    have hnever : ¬ layout.Withdrawn child [] := by
      rintro ⟨before, input, after, hsplit, -⟩
      simp at hsplit
    change layout.lists parent key = true ↔ layout.isOnScreen child = true ∨ _
    simp [lists, isOnScreen, FormState.isOnScreen, hblank parent hparent,
      hblank child hchild, hnever]
  | append_singleton calls call ih =>
    obtain ⟨hidle, hlists⟩ := ih fun other hother => hcalls other (by simp [hother])
    have htree : (layout.run calls).tree = layout.tree := (keeps_run layout calls h.sound).2.1
    have hcall : call.IsOrdinary (layout.run calls).tree := htree ▸ hcalls call (by simp)
    have hstep := hidle.mirrors_after (htree ▸ hdistinct) hcall (htree ▸ hnests)
    rw [← run_concat] at hstep
    exact ⟨run_concat layout calls call ▸ hidle.after hcall, lists_concat_iff hlists hstep⟩

/-- **When a nested form is listed as on screen by the form around it.** Let a layout be activated
in which no two members of a form have the same identifier, and let calls of the renderer and
submissions asked for from outside follow, some of which may be refused. Whether or not the limit of
a pass is reached, a nested form is listed exactly if something of it is on screen, or if the last
of it was taken out for good while on screen, and nothing of it came on screen since.

**Proof sketch.** What goes on or off screen climbs: a nested form that it changes, tells the form
around it whether something of it is on screen. A withdrawal climbs as data only, so that it can
take the last of a nested form off screen without the form around it being told. -/
theorem mem_displayed_iff_shows_or_withdrawn {environment : Environment} {root : Spec} {node : Node}
    {spec : FormSpec} (h : activate environment root = .ok layout)
    (hdistinct : (Tree.ofSpec root).HasDistinctKeys)
    (hform : (Tree.ofSpec root).form? child = some (node, spec)) (hchild : spec.isChild = true)
    (haround : (Tree.ofSpec root).formAround child = some parent) {calls : List Call}
    (hcalls : ∀ call ∈ calls, call.IsOrdinary (Tree.ofSpec root)) :
    let shows := fun calls : List Call => ((layout.run calls).form child).value.displayed ≠ ∅
    spec.id ∈ ((layout.run calls).form parent).value.displayed ↔
      shows calls ∨ ∃ before input after, calls = before ++ .withdraw input :: after ∧
        shows before ∧ ∀ more, more <+: after → ¬ shows (before ++ .withdraw input :: more) := by
  intro shows
  have htree := (sound_of_activate h).2.1
  rw [← htree] at hdistinct hform haround hcalls
  have hnested : layout.tree.isChild child = true := (Tree.isChild_of_form? hform).trans hchild
  have hkey := Tree.key?_of_isChild hform hnested
  have hlists := ((idle_of_activate h).lists_run_iff (blank_of_activate h) hdistinct
    ⟨haround, hnested, hkey⟩ calls hcalls).2
  have hshows : ∀ calls, (layout.run calls).isOnScreen child = true ↔ shows calls := fun calls =>
    FormState.isOnScreen_iff
  have hhidden : ∀ calls, (layout.run calls).isOnScreen child = false ↔ ¬ shows calls := by
    intro calls
    rw [← hshows, Bool.not_eq_true]
  rw [← Std.ExtTreeSet.contains_iff_mem]
  simpa only [Withdrawn, hshows, hhidden, lists] using hlists

/-- The input is taken out for good while it is on screen, and then goes off screen. -/
theorem mem_displayed_iff_shows_or_withdrawn_registration :
    ∃ layout final : Layout, activate {} registration = .ok layout ∧
      final = layout.run [.attach 2, .withdraw 2, .detach 2] ∧
      "address" ∈ (final.form 0).value.displayed := by
  have hactive : activate {} registration = .ok (build {} (Tree.ofSpec registration)).settle :=
    activate_eq_ok.mpr ⟨by decide, rfl⟩
  have hform : (Tree.ofSpec registration).form? 1 = some
      ({ view := .form { id := "address", submit := none }, enable := [], ancestors := [0]
         children := [2], size := 2, scope := ⟨some 0, none⟩ },
        { id := "address", submit := none }) := by decide
  have hcalls : ∀ call ∈ ([.attach 2, .withdraw 2, .detach 2] : List Call),
      call.IsOrdinary (Tree.ofSpec registration) := by
    intro call hcall
    simp only [List.mem_cons, List.not_mem_nil, or_false] at hcall
    rcases hcall with rfl | rfl | rfl <;> trivial
  refine ⟨_, _, hactive, rfl, ?_⟩
  refine (mem_displayed_iff_shows_or_withdrawn hactive (by decide) hform rfl (by decide) hcalls).mpr
    (.inr ⟨[.attach 2], 2, [.detach 2], rfl, by decide +kernel, fun more hmore => ?_⟩)
  rcases List.prefix_cons_iff.mp hmore with rfl | ⟨rest, rfl, hrest⟩
  · decide +kernel
  · rw [List.prefix_nil.mp hrest]
    decide +kernel

/-- Once the only input of a nested form is taken out for good, nothing of the nested form is on
screen, but the form around it lists it. -/
theorem listed_after_withdrawal :
    ∃ layout final : Layout, activate {} registration = .ok layout ∧
      (Tree.ofSpec registration).HasDistinctKeys ∧
      (Tree.ofSpec registration).formAround 1 = some 0 ∧
      final = layout.run [.attach 2, .withdraw 2] ∧
      (final.form 1).value.displayed = ∅ ∧ "address" ∈ (final.form 0).value.displayed := by
  refine ⟨_, _, activate_eq_ok.mpr ⟨by decide, rfl⟩, by decide, by decide, rfl, ?_⟩
  decide +kernel

end Layout

end FormTree

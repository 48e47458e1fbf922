import FormTree.Proofs.Aggregation
import FormTree.Proofs.DataChain
import FormTree.Proofs.LastWord
import FormTree.Proofs.Mirror

set_option autoImplicit false

/-!
# Inputs that are gone for good

When an input is gone for good, the form around it forgets its identifier: it is neither tracked nor
contributes, and it is not on screen. The input itself stays a node of the layout and takes calls as
before, so another answer or another showing brings the identifier back; and so does a nested form
with the same identifier, once it tells the form around it something. Nothing else does.

## Main definitions

* `FormTree.Tree.HasDistinctInputs` — no two inputs of a form have the same identifier.
* `FormTree.FormState.Forgets` — a form knows nothing under an identifier.
* `FormTree.Call.restores` — the calls that bring an input back.
* `FormTree.Layout.TellsNothing` — a nested form told the form around it nothing.

## Main results

* `FormTree.Layout.Climb.forgets_iff` — what climbs from elsewhere brings an identifier back only
  through a nested form that has it.
* `FormTree.Layout.forgets_iff_not_restored` — when a form never knows an identifier again.
-/

namespace FormTree

/-! ## What brings an identifier back -/

/-- No two inputs of a form have the same identifier. -/
def Tree.HasDistinctInputs (tree : Tree) : Prop :=
  ∀ input ∈ tree.ids, ∀ other ∈ tree.ids, (tree.formAround input).isSome →
    tree.formAround input = tree.formAround other → (tree.input? input).isSome →
    (tree.input? input).map (·.id) = (tree.input? other).map (·.id) → input = other

instance (tree : Tree) : Decidable tree.HasDistinctInputs :=
  inferInstanceAs (Decidable (∀ input ∈ tree.ids, ∀ other ∈ tree.ids, _))

theorem Tree.HasDistinctInputs.eq {tree : Tree} (h : tree.HasDistinctInputs)
    {input other form : NodeId} {spec spec' : InputSpec}
    (haround : tree.formAround input = some form) (haround' : tree.formAround other = some form)
    (hinput : tree.input? input = some spec) (hother : tree.input? other = some spec')
    (hid : spec.id = spec'.id) : input = other :=
  h input (mem_ids_of_formAround haround) other (mem_ids_of_formAround haround')
    (by rw [haround]; rfl) (haround.trans haround'.symm) (by rw [hinput]; rfl)
    (by rw [hinput, hother]; exact congrArg some hid)

/-- The call gives the input `id` an answer, or brings it on screen. -/
def Call.restores (id : NodeId) (spec : InputSpec) : Call → Bool
  | .attach node => node = id
  | .setDisplayed node isDisplayed => node = id && isDisplayed
  | .setAnswer node answer => node = id && spec.accepts answer
  | _ => false

/-- The call brings an input on or off screen. -/
def Call.isShowing : Call → Bool
  | .attach _ | .detach _ | .setDisplayed _ _ => true
  | _ => false

/-- The change brings an input on or off screen. -/
def FormIntent.isDisplay : FormIntent → Bool
  | .display _ _ => true
  | _ => false

/-- The change says something of `key` other than that it is gone. -/
def FormIntent.recalls (key : String) : FormIntent → Bool
  | .track id _ => id = key
  | .input entry => entry.id = key
  | .display id isDisplayed => id = key && isDisplayed
  | _ => false

namespace FormState

variable {state after : FormState} {intent : FormIntent} {allow : Allowance} {name key : String}

/-- The form knows nothing under `key`. -/
structure Forgets (state : FormState) (key : String) : Prop where
  validity : state.validity[key]? = none
  inputs : state.inputs[key]? = none
  displayed : key ∉ state.displayed

theorem forgets_of_gist (hgist : after.gist = state.gist) :
    after.Forgets key ↔ state.Forgets key := by
  have hvalidity : after.validity = state.validity := (congrArg FormState.validity hgist :)
  have hinputs : after.inputs = state.inputs := (congrArg FormState.inputs hgist :)
  have hdisplayed : after.displayed = state.displayed := (congrArg FormState.displayed hgist :)
  constructor
  · exact fun h => ⟨hvalidity ▸ h.validity, hinputs ▸ h.inputs, hdisplayed ▸ h.displayed⟩
  · exact fun h => ⟨hvalidity ▸ h.validity, hinputs ▸ h.inputs, hdisplayed ▸ h.displayed⟩

/-- That the display has been reported, does not matter. -/
theorem forgets_reporting (isChild : Bool) :
    (state.reporting isChild).Forgets key ↔ state.Forgets key :=
  ⟨fun h => ⟨h.validity, h.inputs, h.displayed⟩, fun h => ⟨h.validity, h.inputs, h.displayed⟩⟩

theorem forgets_withdraw (state : FormState) (key : String) :
    (state.reduce (.withdraw key)).Forgets key := by
  constructor <;> simp [reduce, withdraw, recompute]

theorem forgets_iff : state.Forgets key ↔ state.validity[key]? = none ∧
    state.inputs[key]? = none ∧ state.displayed.contains key = false := by
  rw [← Bool.not_eq_true, Std.ExtTreeSet.contains_iff_mem]
  exact ⟨fun h => ⟨h.validity, h.inputs, h.displayed⟩, fun ⟨h, h', h''⟩ => ⟨h, h', h''⟩⟩

/-- **A form that knows nothing under an identifier** goes on so, unless a change says something of
it. -/
theorem Forgets.reduce_iff (h : state.Forgets key) (intent : FormIntent) :
    (state.reduce intent).Forgets key ↔ intent.recalls key = false := by
  obtain ⟨hvalidity, hinputs, hdisplayed⟩ := forgets_iff.mp h
  rw [forgets_iff, validity_reduce, inputs_reduce, displayed_reduce, hvalidity, hinputs, hdisplayed]
  cases intent with
  | track id isValid =>
    by_cases heq : id = key <;>
      simp [FormIntent.validity?, FormIntent.contribution?, FormIntent.showing?,
        FormIntent.recalls, heq]
  | input entry =>
    by_cases heq : entry.id = key <;>
      simp [FormIntent.validity?, FormIntent.contribution?, FormIntent.showing?,
        FormIntent.recalls, heq]
  | display id isDisplayed =>
    by_cases heq : id = key <;>
      simp [FormIntent.validity?, FormIntent.contribution?, FormIntent.showing?,
        FormIntent.recalls, heq]
  | withdraw id =>
    by_cases heq : id = key <;>
      simp [FormIntent.validity?, FormIntent.contribution?, FormIntent.showing?,
        FormIntent.recalls, heq]
  | _ => exact iff_of_true ⟨rfl, rfl, rfl⟩ rfl

theorem recalls_eq_false_of_ne (htakes : allow.takes intent) (hid : intent.id? ≠ some key) :
    intent.recalls key = false := by
  cases intent <;> first | cases htakes | simp_all [FormIntent.id?, FormIntent.recalls]

/-- A change about members that changes a form changes its gist. -/
theorem gist_reduce_ne (htakes : allow.takes intent) (hne : state.reduce intent ≠ state) :
    (state.reduce intent).gist ≠ state.gist := by
  intro hgist
  refine hne ?_
  have hkept : (state.reduce intent).isEnabled = state.isEnabled ∧
      (state.reduce intent).isSubmitted = state.isSubmitted := by
    cases intent <;> first | exact ⟨rfl, rfl⟩ | cases htakes
  rw [eq_of_gist hgist hkept.2, hkept.1]

end FormState

namespace FormSpec

/-- A nested form that passes something on says something of itself, unless nothing of it is on
screen any more. -/
theorem recalls_passOn (spec : FormSpec) (state : FormState) (intent : FormIntent) :
    (spec.passOn state intent).recalls spec.id = !(intent.isDisplay && !state.isOnScreen) := by
  cases intent <;>
    simp [passOn, FormIntent.recalls, FormIntent.isDisplay, FormState.isOnScreen, FormSpec.entry]

theorem isDisplay_passOn (spec : FormSpec) (state : FormState) (intent : FormIntent) :
    (spec.passOn state intent).isDisplay = intent.isDisplay := by
  cases intent <;> rfl

end FormSpec

namespace Layout

variable {layout layout' layout'' : Layout} {origin form parent child id : NodeId}
  {intent : FormIntent} {key : String} {call : Call} {isShowing : Bool}

/-! ## Climbing -/

/-- The nested form `child` told the form around it nothing from one layout to the next, or nothing
but that it is off screen, which is told where views come and go. -/
def TellsNothing (isShowing : Bool) (child : NodeId) (layout layout' : Layout) : Prop :=
  (layout'.form child).value.gist = (layout.form child).value.gist ∨
    isShowing = true ∧ (layout'.form child).value.displayed = ∅

theorem TellsNothing.congr
    (hbefore : (layout'.form child).value.gist = (layout.form child).value.gist) :
    TellsNothing isShowing child layout' layout'' ↔
      TellsNothing isShowing child layout layout'' := by
  rw [TellsNothing, TellsNothing, hbefore]

theorem TellsNothing.congr_after
    (hafter : (layout''.form child).value.gist = (layout'.form child).value.gist) :
    TellsNothing isShowing child layout layout'' ↔ TellsNothing isShowing child layout layout' := by
  have hdisplayed : (layout''.form child).value.displayed = (layout'.form child).value.displayed :=
    (congrArg FormState.displayed hafter :)
  rw [TellsNothing, TellsNothing, hafter, hdisplayed]

/-- What climbs from a member of a form does not come by the other members. -/
theorem not_feeds_of_formAround {tree : Tree} (hlinked : tree.Linked)
    (hmember : tree.formAround origin = some parent)
    (hother : tree.formAround child = some parent) : ¬ tree.Feeds origin child := by
  rintro ⟨form, haround, hreaches⟩
  obtain rfl : form = parent := Option.some.inj (haround.symm.trans hmember)
  have hencloses : tree.Encloses child form := by
    clear hmember hother haround
    induction hreaches with
    | self => exact .self
    | through _ haround _ ih => exact .inside haround ih
  exact hlinked.not_encloses_around hother hencloses

/-- A change about other members leaves what is forgotten. -/
theorem Sound.forgets_changeForm (hsound : layout.Sound) (hsome : (layout.tree.form? form).isSome)
    (hother : form = parent → intent.recalls key = false)
    (h : (layout.form parent).value.Forgets key) :
    ((layout.changeForm form intent).form parent).value.Forgets key := by
  have hgist := hsound.gist_changeForm hsome intent parent
  split at hgist
  · next heq =>
    subst heq
    rw [FormState.forgets_of_gist hgist, FormState.forgets_reporting]
    exact (h.reduce_iff intent).mpr (hother rfl)
  · exact (FormState.forgets_of_gist hgist).mpr h

/-- The gist of a nested form after a change is what the change makes of it. -/
theorem Sound.gist_changeForm_self (hsound : layout.Sound)
    (hchild : layout.tree.isChild form = true) (intent : FormIntent) :
    ((layout.changeForm form intent).form form).value.gist =
      ((layout.form form).value.reduce intent).gist := by
  rw [hsound.gist_changeForm (Tree.isSome_form?_of_isChild hchild), if_pos rfl, hchild]
  simp [FormState.reporting]

/-- A nested form that has the identifier and changes brings it back, unless it tells that nothing
of it is on screen. -/
theorem Climb.forgets_pass_iff {node : Node} {spec : FormSpec} (hsound : layout.Sound)
    (hform : layout.tree.form? form = some (node, spec))
    (hnests : layout.tree.Nests parent form key) (htakes : Allowance.data.takes intent)
    (hchanged : (layout.form form).value.reduce intent ≠ (layout.form form).value)
    (hclimb : Climb form (spec.passOn ((layout.form form).value.reduce intent) intent)
      (layout.changeForm form intent) layout')
    (h : (layout.form parent).value.Forgets key) :
    (layout'.form parent).value.Forgets key ↔
      TellsNothing intent.isDisplay form layout layout' := by
  have hsome := Tree.isSome_form?_of_isChild hnests.nested
  have hsound' := hsound.changeForm hsome intent
  have htree : (layout.changeForm form intent).tree = layout.tree :=
    (hsound.change hsome intent).tree_eq
  have hlt := hsound.wf.linked.formAround_lt hnests.around
  have hself : (layout'.form form).value.gist = ((layout.form form).value.reduce intent).gist :=
    (hclimb.gist_of_le hsound' (Nat.le_refl _)).trans
      (hsound.gist_changeForm_self hnests.nested intent)
  have hdisplayed : (layout'.form form).value.displayed =
      ((layout.form form).value.reduce intent).displayed :=
    (congrArg FormState.displayed hself :)
  have hbefore : ((layout.changeForm form intent).form parent).value.Forgets key :=
    hsound.forgets_changeForm hsome (fun heq => absurd heq (Nat.ne_of_gt hlt)) h
  have hrecalls := spec.recalls_passOn ((layout.form form).value.reduce intent) intent
  rw [hnests.id_eq hform] at hrecalls
  rw [FormState.forgets_of_gist (hclimb.gist_around hsound' (htree.symm ▸ hnests.around)),
    FormState.forgets_reporting, hbefore.reduce_iff, hrecalls, TellsNothing, hself, hdisplayed]
  simp [FormState.gist_reduce_ne htakes hchanged, FormState.isOnScreen]

/-- **What climbs from elsewhere brings an identifier back** only through a nested form that has it
and tells something.

**Proof sketch.** By induction on the climb. A form on its way takes over what a member of its own
tells it under the identifier of that member. So nothing is told under the identifier in question
before the climb comes by a nested form that has it and lies in the form in question. If that nested
form changes, then the next thing is that it tells so, and nothing more happens to the form around
it; the other nested forms lie beside the way. -/
theorem Climb.forgets_iff (hclimb : Climb origin intent layout layout') (hsound : layout.Sound)
    (htakes : Allowance.data.takes intent)
    (hother : layout.tree.formAround origin = some parent → intent.id? ≠ some key)
    (h : (layout.form parent).value.Forgets key) :
    (layout'.form parent).value.Forgets key ↔
      ∀ child, layout.tree.Nests parent child key →
        TellsNothing intent.isDisplay child layout layout' := by
  induction hclimb with
  | top _ => exact iff_of_true h fun _ _ => .inl rfl
  | @stop origin form intent layout haround hstop =>
    have hsome := (hsound.wf.linked.formAround_spec haround).2
    refine iff_of_true (hsound.forgets_changeForm hsome (fun heq => ?_) h) fun child hnests => ?_
    · exact FormState.recalls_eq_false_of_ne htakes (hother (heq ▸ haround))
    · left
      by_cases heq : form = child
      · subst heq
        rw [hsound.gist_changeForm_self hnests.nested, hstop hnests.nested]
      · rw [hsound.gist_changeForm hsome, if_neg heq]
  | @pass origin form intent layout layout' node spec haround hform hchild hchanged hclimb ih =>
    have hsome := (hsound.wf.linked.formAround_spec haround).2
    have hsound' := hsound.changeForm hsome intent
    have htree : (layout.changeForm form intent).tree = layout.tree :=
      (hsound.change hsome intent).tree_eq
    have hbeside : ∀ child, form ≠ child →
        ((layout.changeForm form intent).form child).value.gist =
          (layout.form child).value.gist := by
      intro child hne
      rw [hsound.gist_changeForm hsome, if_neg hne]
    by_cases hnests : layout.tree.Nests parent form key
    · rw [hclimb.forgets_pass_iff hsound hform hnests htakes hchanged h]
      constructor
      · intro hsilent child hnests'
        by_cases heq : form = child
        · exact heq ▸ hsilent
        · left
          have hout : ¬ (layout.changeForm form intent).tree.Feeds form child := by
            rw [htree]
            exact not_feeds_of_formAround hsound.wf.linked hnests.around hnests'.around
          rw [hclimb.gist_of_not_feeds hsound' hout, hbeside child heq]
      · exact fun hsilent => hsilent form hnests
    · have hpassed : (layout.changeForm form intent).tree.formAround form = some parent →
          (spec.passOn ((layout.form form).value.reduce intent) intent).id? ≠ some key := by
        rw [htree, FormSpec.id?_passOn]
        intro hparent hkey
        exact hnests ⟨hparent, hchild, (Tree.key?_of_isChild hform hchild).trans hkey⟩
      have hbefore : ((layout.changeForm form intent).form parent).value.Forgets key := by
        refine hsound.forgets_changeForm hsome (fun heq => ?_) h
        exact FormState.recalls_eq_false_of_ne htakes (hother (heq ▸ haround))
      rw [ih hsound' (spec.takes_passOn htakes _) hpassed hbefore, htree,
        FormSpec.isDisplay_passOn]
      refine forall_congr' fun child => imp_congr_right fun hnests' => ?_
      exact TellsNothing.congr (hbeside child fun heq => hnests (heq ▸ hnests'))

/-! ## Calls -/

/-- What a call does to an input says something of it exactly if the call brings it back. -/
theorem restores_eq_recalls {act : InputAct} {spec : InputSpec}
    (hact : call.inputAct? = some (id, act)) (htaken : act.isTaken spec = true)
    (hintent : (act.event spec).formIntent? = some intent) :
    call.restores id spec = intent.recalls spec.id := by
  cases call with
  | setAnswer node answer =>
    cases hact
    cases hintent
    have haccepts : spec.accepts answer = true := htaken
    simp [Call.restores, FormIntent.recalls, InputSpec.entry, haccepts]
  | attach node | detach node | setDisplayed node isDisplayed | withdraw node =>
    cases hact
    cases hintent
    simp [Call.restores, FormIntent.recalls]
  | _ => cases hact

/-- Only what is done to an input, and taken, brings it back. -/
theorem restores_eq_false {spec : InputSpec}
    (h : ∀ act, call.inputAct? = some (id, act) → act.isTaken spec = false) :
    call.restores id spec = false := by
  cases call with
  | attach node =>
    by_cases heq : node = id
    · cases h (.display true) (by rw [← heq]; rfl)
    · simp [Call.restores, heq]
  | setDisplayed node isDisplayed =>
    by_cases heq : node = id
    · cases h (.display isDisplayed) (by rw [← heq]; rfl)
    · simp [Call.restores, heq]
  | setAnswer node answer =>
    by_cases heq : node = id
    · have hrefused : spec.accepts answer = false := h (.fill answer) (by rw [← heq]; rfl)
      simp [Call.restores, hrefused]
    · simp [Call.restores, heq]
  | _ => rfl

theorem isShowing_eq_isDisplay {act : InputAct} {spec : InputSpec}
    (hact : call.inputAct? = some (id, act))
    (hintent : (act.event spec).formIntent? = some intent) :
    call.isShowing = intent.isDisplay := by
  cases call <;> cases hact <;> cases hintent <;> rfl

/-- **What a call tells of an input**: a form that knows nothing of the input goes on so, unless the
call brings it back, or a nested form that has the identifier tells something. -/
theorem Idle.forgets_after_iff {node : NodeId} {spec : InputSpec} (h : layout.Idle)
    (hdistinct : layout.tree.HasDistinctInputs)
    (hcall : call.IsOrdinary layout.tree) (hinput : layout.tree.input? node = some spec)
    (haround : layout.tree.formAround node = some parent)
    (hforgets : (layout.form parent).value.Forgets spec.id) :
    ((layout.after call).form parent).value.Forgets spec.id ↔ call.restores node spec = false ∧
      ∀ child, layout.tree.Nests parent child spec.id →
        TellsNothing call.isShowing child layout (layout.after call) := by
  obtain ⟨raised, hraises, hafter⟩ := exists_raises h.queue hcall
  have hcalm := (h.tidy_raised hraises).1.calm_settle
  have hsilent : ∀ child, TellsNothing call.isShowing child layout raised.settle ↔
      TellsNothing call.isShowing child layout raised := fun child =>
    TellsNothing.congr_after (hcalm.gist child)
  rw [hafter, FormState.forgets_of_gist (hcalm.gist parent)]
  simp only [hsilent]
  cases hraises with
  | steps hnone hsteps =>
    have hkept := h.sound.calm_steps (Allowance.not_takes id id) (fun _ hb => hb) hsteps
    rw [FormState.forgets_of_gist (hkept.gist parent)]
    exact iff_of_true hforgets
      ⟨restores_eq_false fun act hact => hnone node act spec hact hinput,
        fun child _ => .inl (hkept.gist child)⟩
  | @input other spec' act states hact hinput' htaken =>
    obtain ⟨intent, hintent⟩ : ∃ intent, (act.event spec').formIntent? = some intent := by
      cases act <;> exact ⟨_, rfl⟩
    have hsound : Sound { layout with states, answers := act.answers other layout.answers } :=
      h.sound.congr rfl (fun _ => rfl) fun _ => rfl
    have hclimb := hsound.climb other hintent
    have htakes := Event.takes_data hintent
    by_cases heq : other = node
    · subst heq
      obtain rfl := Option.some.inj (hinput'.symm.trans hinput)
      rw [FormState.forgets_of_gist (hclimb.gist_around hsound haround),
        FormState.forgets_reporting]
      refine (hforgets.reduce_iff intent).trans ?_
      rw [restores_eq_recalls hact htaken hintent]
      refine (and_iff_left fun child hnests => ?_).symm
      exact .inl (hclimb.gist_of_not_feeds hsound
        (not_feeds_of_formAround hsound.wf.linked haround hnests.around))
    · have hrestores : call.restores node spec = false := by
        refine restores_eq_false fun act' hact' => ?_
        rw [hact] at hact'
        cases hact'
        exact absurd rfl heq
      have hother : layout.tree.formAround other = some parent → intent.id? ≠ some spec.id := by
        intro haround' hid
        have hown : intent.id? = some spec'.id := by
          cases act <;> cases hintent <;> rfl
        rw [hown] at hid
        exact heq (hdistinct.eq haround' haround hinput' hinput (Option.some.inj hid))
      rw [hrestores, isShowing_eq_isDisplay hact hintent]
      exact (hclimb.forgets_iff hsound htakes hother hforgets).trans
        (and_iff_right rfl).symm

/-- Once an input is gone for good, the form around it knows nothing under its identifier. -/
theorem Idle.forgets_of_withdraw {node : NodeId} {spec : InputSpec} (h : layout.Idle)
    (hinput : layout.tree.input? node = some spec)
    (haround : layout.tree.formAround node = some parent) {gone : Layout}
    (hgone : layout.perform (.withdraw node) = .ok gone) :
    (gone.form parent).value.Forgets spec.id := by
  have hcall : (Call.withdraw node).IsOrdinary layout.tree := trivial
  obtain ⟨raised, hraises, rfl⟩ := raises_of_perform h.queue hcall hgone
  have hcalm := (h.tidy_raised hraises).1.calm_settle
  rw [FormState.forgets_of_gist (hcalm.gist parent)]
  cases hraises with
  | steps hnone _ => cases hnone node .withdraw spec rfl hinput
  | @input other spec' act states hact hinput' _ =>
    cases hact
    obtain rfl := Option.some.inj (hinput'.symm.trans hinput)
    have hsound : Sound { layout with
        states, answers := InputAct.withdraw.answers node layout.answers } :=
      h.sound.congr rfl (fun _ => rfl) fun _ => rfl
    have hintent : (InputAct.withdraw.event spec').formIntent? = some (.withdraw spec'.id) := rfl
    have hclimb := hsound.climb node hintent
    rw [FormState.forgets_of_gist (hclimb.gist_around hsound haround), FormState.forgets_reporting]
    exact FormState.forgets_withdraw _ _

/-! ## Runs -/

/-- What holds of every beginning of a run holds of the whole run and of what came before its last
call. -/
theorem forall_prefix_concat_iff {calls : List Call} {P : List Call → Prop} :
    (∀ more, more <+: calls ++ [call] → P more) ↔
      (∀ more, more <+: calls → P more) ∧ P (calls ++ [call]) := by
  constructor
  · exact fun h => ⟨fun more hmore => h more (hmore.trans (List.prefix_append _ _)),
      h _ List.prefix_rfl⟩
  · rintro ⟨hbefore, hlast⟩ more hmore
    rcases List.prefix_concat_iff.mp hmore with rfl | hmore
    · exact hlast
    · exact hbefore more hmore

/-- What holds of every call of a run holds of its last one and of those before. -/
theorem forall_step_concat_iff {calls : List Call} {P : List Call → Call → Prop} :
    (∀ more last, more ++ [last] <+: calls ++ [call] → P more last) ↔
      (∀ more last, more ++ [last] <+: calls → P more last) ∧ P calls call := by
  constructor
  · exact fun h => ⟨fun more last hmore => h more last (hmore.trans (List.prefix_append _ _)),
      h _ _ List.prefix_rfl⟩
  · rintro ⟨hbefore, hlast⟩ more last hmore
    rcases List.prefix_concat_iff.mp hmore with heq | hmore
    · obtain ⟨rfl, hcall⟩ := List.append_inj' heq rfl
      rwa [List.singleton_inj.mp hcall]
    · exact hbefore more last hmore

/-- **What a run tells of an input**: a form that knows nothing of the input goes on so, as long as
no call brings it back, and no nested form that has the identifier tells something. -/
theorem Idle.forgets_run_iff {node : NodeId} {spec : InputSpec} (h : layout.Idle)
    (hdistinct : layout.tree.HasDistinctInputs)
    (hinput : layout.tree.input? node = some spec)
    (haround : layout.tree.formAround node = some parent)
    (hforgets : (layout.form parent).value.Forgets spec.id) (calls : List Call)
    (hcalls : ∀ call ∈ calls, call.IsOrdinary layout.tree) :
    (layout.run calls).Idle ∧
      ((∀ more, more <+: calls → ((layout.run more).form parent).value.Forgets spec.id) ↔
        (∀ call ∈ calls, call.restores node spec = false) ∧
          ∀ child, layout.tree.Nests parent child spec.id → ∀ more call, more ++ [call] <+: calls →
            TellsNothing call.isShowing child (layout.run more) (layout.run (more ++ [call]))) := by
  induction calls using List.reverseRecOn with
  | nil =>
    refine ⟨h, iff_of_true (fun more hmore => ?_) ⟨by simp, fun _ _ more call hmore => ?_⟩⟩
    · rw [List.prefix_nil.mp hmore]
      exact hforgets
    · simpa using List.prefix_nil.mp hmore
  | append_singleton calls call ih =>
    obtain ⟨hidle, hsofar⟩ := ih fun other hother => hcalls other (by simp [hother])
    have htree : (layout.run calls).tree = layout.tree := (keeps_run layout calls h.sound).2.1
    have hcall : call.IsOrdinary (layout.run calls).tree := htree ▸ hcalls call (by simp)
    have hstep := hidle.forgets_after_iff (htree ▸ hdistinct) hcall (htree ▸ hinput)
      (htree ▸ haround)
    rw [← run_concat, htree] at hstep
    rw [run_concat]
    refine ⟨hidle.after hcall, ?_⟩
    rw [forall_prefix_concat_iff,
      and_congr_right fun hkept => hstep (hkept calls List.prefix_rfl), hsofar]
    simp only [forall_step_concat_iff, List.mem_append, List.mem_singleton, or_imp, forall_and,
      forall_eq]
    exact and_and_and_comm

/-- **When an input that is gone for good never counts again.** Let a layout be activated in which
no two inputs of a form have the same identifier, let calls of the renderer and submissions asked
for from outside follow, and let an input be taken out for good. During the calls that follow, some
of which may be refused, the form around it never knows anything under its identifier, neither that
it is tracked, nor an entry, nor that it is on screen, if and only if no call gives the input an
answer that it accepts or brings it on screen, and no nested form of the form that has the same
identifier tells it something.

**Proof sketch.** A call that concerns the input itself tells the form around it at once; the nested
forms next to it are not on the way up. A call that concerns another input comes by the form in
question with another identifier, or through a nested form that passes on what it comes to. All
other calls and all that is routed tell forms nothing of their members. -/
theorem forgets_iff_not_restored {environment : Environment} {root : Spec} {spec : InputSpec}
    (h : activate environment root = .ok layout)
    (hdistinct : (Tree.ofSpec root).HasDistinctInputs)
    (hinput : (Tree.ofSpec root).input? id = some spec)
    (haround : (Tree.ofSpec root).formAround id = some parent) {before later : List Call}
    (hbefore : ∀ call ∈ before, call.IsOrdinary (Tree.ofSpec root))
    (hlater : ∀ call ∈ later, call.IsOrdinary (Tree.ofSpec root)) {gone : Layout}
    (hgone : (layout.run before).perform (.withdraw id) = .ok gone) :
    (∀ more, more <+: later → ((gone.run more).form parent).value.Forgets spec.id) ↔
      (∀ call ∈ later, call.restores id spec = false) ∧
        ∀ child, (Tree.ofSpec root).Nests parent child spec.id →
          ∀ more call, more ++ [call] <+: later →
            TellsNothing call.isShowing child (gone.run more) (gone.run (more ++ [call])) := by
  obtain ⟨hsound, htree, -⟩ := sound_of_activate h
  have hrun : (layout.run before).tree = Tree.ofSpec root :=
    (keeps_run layout before hsound).2.1.trans htree
  have hidle := ((idle_of_activate h).environment_run (htree ▸ hbefore)).1
  have hwithdraw : (Call.withdraw id).IsOrdinary (layout.run before).tree := trivial
  have hafter : (layout.run before).after (.withdraw id) = gone := by
    rw [after, hgone]
  have hgoneTree : gone.tree = Tree.ofSpec root := by
    rw [← hafter]
    exact (keeps_after _ _ hidle.sound).2.1.trans hrun
  have hforgets := hidle.forgets_of_withdraw (hrun ▸ hinput) (hrun ▸ haround) hgone
  have hidle' : gone.Idle := hafter ▸ hidle.after hwithdraw
  rw [← hgoneTree] at hdistinct hinput haround hlater ⊢
  exact (hidle'.forgets_run_iff hdistinct hinput haround hforgets later hlater).2

/-- Once the name is gone for good, neither the names of others nor going off screen brings it
back. -/
theorem forgets_iff_not_restored_application :
    ∃ layout gone : Layout, activate {} application = .ok layout ∧
      (layout.run [.setAnswer 1 (.textInput (some "Ada"))]).perform (.withdraw 1) = .ok gone ∧
      ∀ more, more <+: [.setAnswer 3 (.textInput (some "Bob")), .detach 1] →
        ((gone.run more).form 0).value.Forgets "name" := by
  have hactive : activate {} application = .ok (build {} (Tree.ofSpec application)).settle :=
    activate_eq_ok.mpr ⟨by decide, rfl⟩
  have hinput : (Tree.ofSpec application).input? 1 =
      some { id := "name", kind := .textInput, isRequired := true } := by decide
  have hbefore : ∀ call ∈ ([.setAnswer 1 (.textInput (some "Ada"))] : List Call),
      call.IsOrdinary (Tree.ofSpec application) := by
    intro call hcall
    obtain rfl := List.mem_singleton.mp hcall
    trivial
  have hlater : ∀ call ∈ ([.setAnswer 3 (.textInput (some "Bob")), .detach 1] : List Call),
      call.IsOrdinary (Tree.ofSpec application) := by
    intro call hcall
    simp only [List.mem_cons, List.not_mem_nil, or_false] at hcall
    rcases hcall with rfl | rfl <;> trivial
  have hnests : ∀ child, ¬ (Tree.ofSpec application).Nests 0 child "name" := by
    intro child hnests
    have hother : ∀ child ∈ (Tree.ofSpec application).ids,
        (Tree.ofSpec application).isChild child = true →
        (Tree.ofSpec application).key? child ≠ some "name" := by decide
    exact hother child (Tree.mem_ids_of_formAround hnests.around) hnests.nested hnests.key
  have hrun : ((build {} (Tree.ofSpec application)).settle.run
      [.setAnswer 1 (.textInput (some "Ada"))]).tree.input? 1 =
        some { id := "name", kind := .textInput, isRequired := true } := by decide +kernel
  have hgone := withdraw_eq_ok.mpr ⟨_, Tree.input?_eq_some.mp hrun, rfl⟩
  refine ⟨_, _, hactive, hgone, ?_⟩
  exact (forgets_iff_not_restored hactive (by decide) hinput (by decide) hbefore hlater hgone).mpr
    ⟨by decide, fun child hchild => (hnests child hchild).elim⟩

/-- A name that is gone for good counts again once it is answered, and is on screen again once it is
attached. -/
theorem restored_after_withdrawal :
    ∃ layout gone final : Layout, activate {} application = .ok layout ∧
      (Tree.ofSpec application).HasDistinctInputs ∧
      (Tree.ofSpec application).formAround 1 = some 0 ∧
      layout.perform (.withdraw 1) = .ok gone ∧
      final = gone.run [.setAnswer 1 (.textInput (some "Ada")), .attach 1] ∧
      (final.form 0).value.validity["name"]? = some true ∧
      (final.form 0).value.inputs["name"]?.isSome ∧ "name" ∈ (final.form 0).value.displayed := by
  have hinput : (build {} (Tree.ofSpec application)).settle.tree.input? 1 =
      some { id := "name", kind := .textInput, isRequired := true } := by decide +kernel
  have hgone := withdraw_eq_ok.mpr ⟨_, Tree.input?_eq_some.mp hinput, rfl⟩
  refine ⟨_, _, _, activate_eq_ok.mpr ⟨by decide, rfl⟩, by decide, by decide, hgone, rfl, ?_⟩
  decide +kernel

end Layout

end FormTree

import FormTree.Proofs.Layout.Climb

set_option autoImplicit false

/-!
# Display

A form that submits by itself reports its display once: as soon as something inside it is on screen
that reaches it through nested forms only, and never again, however often inputs go off screen and
come back. Nested forms report nothing; they tell the form around them that something of them is on
screen, but only when they changed themselves. So a nested form with something on screen must have
told before, which is what carries the proof.

## Main definitions

* `FormTree.Tree.Reaches`, `FormTree.Tree.Feeds` — whose display a form, and a node, counts for.
* `FormTree.Layout.Displays` — what is on screen and what is reported has been shown, and what is
  reported has been told once.
* `FormTree.Layout.TopsReported` — all that a form counts for is reported.

## Main results

* `FormTree.Layout.Climb.displays`, `FormTree.Layout.Climb.topsReported` — both along a climb.
* `FormTree.Layout.display_reported_once` — display is reported exactly once.
-/

namespace FormTree

/-! ## Whose display counts -/

/-- The form `top` is the given form, or there is a way up to it through nested forms only. -/
inductive Tree.Reaches (tree : Tree) (top : NodeId) : NodeId → Prop
  | self : Reaches tree top top
  | through {form around : NodeId} : tree.isChild form = true →
    tree.formAround form = some around → Reaches tree top around → Reaches tree top form

/-- What is on screen of the node `node` counts for the form `top`. -/
def Tree.Feeds (tree : Tree) (node top : NodeId) : Prop :=
  ∃ form, tree.formAround node = some form ∧ tree.Reaches top form

/-- What counts for a nested form counts for the form around it. -/
theorem Tree.Reaches.up {tree : Tree} {form inner around : NodeId} (h : tree.Reaches inner form)
    (hchild : tree.isChild inner = true) (haround : tree.formAround inner = some around) :
    tree.Reaches around form := by
  induction h with
  | self => exact .through hchild haround .self
  | through hc ha _ ih => exact .through hc ha ih

/-- The call brings an input on screen that counts for the form `form`. -/
def Call.Shows (tree : Tree) (form : NodeId) (call : Call) : Prop :=
  ∃ node, call.inputAct? = some (node, .display true) ∧ (tree.input? node).isSome ∧
    tree.Feeds node form

/-- The change says that something is on screen. -/
def FormIntent.isShowing : FormIntent → Bool
  | .display _ isDisplayed => isDisplayed
  | _ => false

namespace FormState

variable {state : FormState} {intent : FormIntent} {allow : Allowance}

/-- Something of the form is on screen. -/
def isOnScreen (state : FormState) : Bool := !state.displayed.isEmpty

theorem isOnScreen_iff : state.isOnScreen = true ↔ state.displayed ≠ ∅ := by
  rw [isOnScreen, Bool.not_eq_true', Std.ExtTreeSet.isEmpty_eq_false_iff]

/-- What is on screen has been shown. -/
theorem isOnScreen_reduce (h : allow.takes intent)
    (hscreen : (state.reduce intent).isOnScreen = true) :
    state.isOnScreen = true ∨ intent.isShowing = true := by
  cases intent with
  | track id isValid => exact .inl hscreen
  | input entry => exact .inl hscreen
  | withdraw id =>
    rw [isOnScreen_iff] at hscreen ⊢
    exact .inl (Std.ExtTreeSet.ne_empty_of_erase_ne_empty hscreen)
  | display id isDisplayed =>
    cases isDisplayed with
    | true => exact .inr rfl
    | false =>
      rw [isOnScreen_iff] at hscreen ⊢
      exact .inl (Std.ExtTreeSet.ne_empty_of_erase_ne_empty hscreen)
  | _ => cases h

theorem isOnScreen_reduce_of_isShowing (h : intent.isShowing = true) :
    (state.reduce intent).isOnScreen = true := by
  cases intent with
  | display id isDisplayed =>
    obtain rfl : isDisplayed = true := h
    rw [isOnScreen_iff]
    show state.displayed.insert id ≠ ∅
    simp
  | _ => cases h

/-- A nested form passes on that something is on screen if and only if something is. -/
theorem isShowing_passOn {spec : FormSpec} (h : (spec.passOn state intent).isShowing = true) :
    state.isOnScreen = true := by
  cases intent <;> first | exact h | cases h

theorem isShowing_passOn_of_isShowing {spec : FormSpec} (h : intent.isShowing = true)
    (hscreen : state.isOnScreen = true) : (spec.passOn state intent).isShowing = true := by
  cases intent <;> first | exact hscreen | cases h

theorem isDisplayReported_reduce_of_takes (h : allow.takes intent) :
    (state.reduce intent).isDisplayReported = state.isDisplayReported := by
  cases intent <;> first | rfl | cases h

end FormState

namespace Layout

variable {layout layout' : Layout} {id form origin : NodeId} {intent : FormIntent}
  {allow : Allowance} {shown : NodeId → Prop}

/-! ## One change -/

/-- Something of the form `id` is on screen. -/
def isOnScreen (layout : Layout) (id : NodeId) : Bool := (layout.form id).value.isOnScreen

/-- The display of the form `id` has been reported. -/
def isReported (layout : Layout) (id : NodeId) : Bool := (layout.form id).value.isDisplayReported

/-- The number of times that the form `id` told of its display. -/
def displays (layout : Layout) (id : NodeId) : Nat := (layout.noticesOf .formDisplay id).length

theorem isOnScreen_of_gist
    (h : (layout'.form id).value.gist = (layout.form id).value.gist) :
    layout'.isOnScreen id = layout.isOnScreen id :=
  (congrArg FormState.isOnScreen h :)

theorem isReported_of_gist
    (h : (layout'.form id).value.gist = (layout.form id).value.gist) :
    layout'.isReported id = layout.isReported id :=
  (congrArg FormState.isDisplayReported h :)

/-- What is on screen after a change. -/
theorem Sound.isOnScreen_changeForm (h : layout.Sound)
    (hsome : (layout.tree.form? form).isSome) (intent : FormIntent) (id : NodeId) :
    (layout.changeForm form intent).isOnScreen id =
      if form = id then ((layout.form form).value.reduce intent).isOnScreen
      else layout.isOnScreen id := by
  have hgist := h.gist_changeForm hsome intent id
  split
  · next heq =>
    rw [if_pos heq] at hgist
    exact (congrArg FormState.isOnScreen hgist :)
  · next hne =>
    rw [if_neg hne] at hgist
    exact isOnScreen_of_gist hgist

/-- What is reported after a change that concerns inputs. -/
theorem Sound.isReported_changeForm (h : layout.Sound)
    (hsome : (layout.tree.form? form).isSome) (htakes : allow.takes intent) (id : NodeId) :
    (layout.changeForm form intent).isReported id =
      if form = id then layout.isReported form || (!layout.tree.isChild form &&
        ((layout.form form).value.reduce intent).isOnScreen)
      else layout.isReported id := by
  have hgist := h.gist_changeForm hsome intent id
  have hkept : ((layout.form form).value.reduce intent).isDisplayReported =
      layout.isReported form := FormState.isDisplayReported_reduce_of_takes htakes
  split
  · next heq =>
    rw [if_pos heq] at hgist
    rw [← hkept]
    exact (congrArg FormState.isDisplayReported hgist :)
  · next hne =>
    rw [if_neg hne] at hgist
    exact isReported_of_gist hgist

/-- Whether the display of a form is due once a change is taken over. -/
theorem owesDisplay_commitForm (layout : Layout) (form : NodeId) (intent : FormIntent) :
    (layout.commitForm form intent).owesDisplay form = (!layout.tree.isChild form &&
      !((layout.form form).value.reduce intent).isDisplayReported &&
      ((layout.form form).value.reduce intent).isOnScreen) := by
  unfold owesDisplay
  rw [form_commitForm, if_pos rfl, Observable.value_commit]
  rfl

/-- What is told of displays by a change. -/
theorem Sound.displays_changeForm (h : layout.Sound)
    (hsome : (layout.tree.form? form).isSome) (intent : FormIntent) (id : NodeId) :
    (layout.changeForm form intent).displays id = layout.displays id +
      if form = id ∧ (layout.commitForm form intent).owesDisplay form = true then 1 else 0 := by
  obtain ⟨announcements, hannouncements, hqueue⟩ := h.queue_changeForm hsome intent
  have hperm := (h.advance_changeForm hsome intent).noticesOf_eq hqueue .formDisplay id
  have hnone : announcements.filterMap (·.notice?) = [] :=
    List.filterMap_eq_nil_iff.mpr fun dispatch hd => (hannouncements dispatch hd).notice?
  rw [displays, hperm.length_eq, List.length_append, List.filterMap_append, hnone, List.append_nil,
    displays]
  congr 1
  unfold displayNotice
  cases howes : (layout.commitForm form intent).owesDisplay form with
  | false => simp
  | true =>
    by_cases heq : form = id
    · simp [heq, Dispatch.notice?, Notice.isOf, ReportedEvent.kind]
    · simp [heq, Dispatch.notice?, Notice.isOf, ReportedEvent.kind]

/-- The submission of a form tells nothing of displays. -/
theorem Sound.displays_submitForm (h : layout.Sound) (hsome : (layout.tree.form? form).isSome)
    (spec : FormSpec) (button : Option String) (id : NodeId) :
    (layout.submitForm form spec button).displays id = layout.displays id := by
  unfold submitForm
  dsimp only
  split
  · rfl
  · have howes : (layout.commitForm form .submit).owesDisplay form = false := by
      rw [owesDisplay_commitForm]
      exact (h.rests form hsome).owesDisplay
    have hchange : (layout.changeForm form .submit).displays id = layout.displays id := by
      rw [h.displays_changeForm hsome, if_neg (by simp [howes]), Nat.add_zero]
    have hpush : ∀ entry attributes context, ((layout.changeForm form .submit).push
        (.bubble form (.formResult entry attributes context))).displays id =
        layout.displays id := by
      intro entry attributes context
      rw [← hchange, displays, noticesOf_push]
      simp [Dispatch.notice?, Notice.isOf, ReportedEvent.kind, displays]
    split
    · exact hpush _ _ _
    · unfold applyUpdate
      split <;> exact hpush _ _ _

/-- **Steps that ask nothing of forms tell nothing of displays.** -/
theorem Sound.displays_step (h : layout.Sound) (htakes : ∀ intent, ¬ allow.takes intent)
    (step : Step allow layout layout') (id : NodeId) :
    layout'.displays id = layout.displays id := by
  cases step with
  | change htaken _ => exact (htakes _ htaken).elim
  | page hpager => exact (h.noticesOf_changePager hpager _ .formDisplay id).length_eq
  | note node change => rfl
  | submit button _ hform => exact h.displays_submitForm (by rw [hform]; rfl) _ button id
  | @follow button event _ hevent =>
    rw [displays, noticesOf_push]
    cases event <;> first | cases hevent; done | simp [Dispatch.notice?, displays]
  | dismiss dismissal => rfl
  | reportDismissal origin button isCancel context =>
    unfold Layout.report
    split
    · simp [displays, noticesOf, notices, Report.notice?, ReportedEvent.kind]
    · rfl

/-! ## What is on screen has been shown -/

/-- What is on screen and what is reported has been shown, only forms that submit by themselves are
reported, and what is reported has been told once. -/
structure Displays (shown : NodeId → Prop) (layout : Layout) : Prop where
  isOnScreen : ∀ id, (layout.tree.form? id).isSome → layout.isOnScreen id = true → shown id
  isReported : ∀ id, (layout.tree.form? id).isSome → layout.isReported id = true →
    layout.tree.isChild id = false ∧ shown id
  displays : ∀ id, (layout.tree.form? id).isSome →
    layout.displays id = (layout.isReported id).toNat

/-- **A change keeps that**, if it says only of what has been shown that it is on screen. -/
theorem Displays.changeForm (h : Displays shown layout) (hsound : layout.Sound)
    (hsome : (layout.tree.form? form).isSome) (htakes : allow.takes intent)
    (hshown : intent.isShowing = true → shown form) :
    Displays shown (layout.changeForm form intent) := by
  have htree : (layout.changeForm form intent).tree = layout.tree :=
    (hsound.change hsome intent).tree_eq
  have hscreen : ((layout.form form).value.reduce intent).isOnScreen = true → shown form := by
    intro hon
    rcases FormState.isOnScreen_reduce htakes hon with hon | hshowing
    · exact h.isOnScreen form hsome hon
    · exact hshown hshowing
  refine ⟨fun id hid hon => ?_, fun id hid hreported => ?_, fun id hid => ?_⟩
  · rw [hsound.isOnScreen_changeForm hsome] at hon
    split at hon
    · next heq => exact heq ▸ hscreen hon
    · exact h.isOnScreen id (htree ▸ hid) hon
  · rw [htree] at hid ⊢
    rw [hsound.isReported_changeForm hsome htakes] at hreported
    split at hreported
    · next heq =>
      subst heq
      rcases Bool.or_eq_true_iff.mp hreported with hreported | hdue
      · exact h.isReported form hid hreported
      · rw [Bool.and_eq_true, Bool.not_eq_true'] at hdue
        exact ⟨hdue.1, hscreen hdue.2⟩
    · exact h.isReported id hid hreported
  · rw [htree] at hid
    have hkept : ((layout.form form).value.reduce intent).isDisplayReported =
        layout.isReported form := FormState.isDisplayReported_reduce_of_takes htakes
    rw [hsound.displays_changeForm hsome, hsound.isReported_changeForm hsome htakes,
      owesDisplay_commitForm, hkept, h.displays id hid]
    by_cases heq : form = id
    · subst heq
      cases layout.isReported form <;> cases layout.tree.isChild form <;>
        cases ((layout.form form).value.reduce intent).isOnScreen <;> simp
    · simp [heq]

/-- **What climbs keeps that.** -/
theorem Climb.displays (hclimb : Climb origin intent layout layout') (hsound : layout.Sound)
    (htakes : allow.takes intent)
    (hup : ∀ form around, layout.tree.isChild form = true →
      layout.tree.formAround form = some around → shown form → shown around)
    (hshown : intent.isShowing = true →
      ∀ form, layout.tree.formAround origin = some form → shown form)
    (h : Displays shown layout) : Displays shown layout' := by
  induction hclimb with
  | top _ => exact h
  | stop haround _ =>
    have hsome := (hsound.wf.linked.formAround_spec haround).2
    exact h.changeForm hsound hsome htakes fun hshowing => hshown hshowing _ haround
  | @pass origin form intent layout layout' node spec haround hform hchild hne hclimb ih =>
    have hsome := (hsound.wf.linked.formAround_spec haround).2
    have htree : (layout.changeForm form intent).tree = layout.tree :=
      (hsound.change hsome intent).tree_eq
    have hchanged := h.changeForm hsound hsome htakes fun hshowing => hshown hshowing _ haround
    refine ih (hsound.changeForm hsome intent) (FormSpec.takes_passOn htakes _ _) (htree ▸ hup) ?_
      hchanged
    intro hpassed around hup'
    rw [htree] at hup'
    have hon : (layout.changeForm form intent).isOnScreen form = true := by
      rw [hsound.isOnScreen_changeForm hsome, if_pos rfl]
      exact FormState.isShowing_passOn hpassed
    exact hup form around hchild hup' (hchanged.isOnScreen form (htree ▸ hsome) hon)

/-! ## What is on screen is reported -/

/-- Every form that the given one counts for and that submits by itself has reported its display. -/
def TopsReported (layout : Layout) (form : NodeId) : Prop :=
  ∀ top, layout.tree.Reaches top form → layout.tree.isChild top = false →
    layout.isReported top = true

/-- What is reported stays so. -/
theorem TopsReported.mono (h : layout.TopsReported form) (htree : layout'.tree = layout.tree)
    (hmono : ∀ id, layout.isReported id = true → layout'.isReported id = true) :
    layout'.TopsReported form := by
  intro top hreaches hown
  rw [htree] at hreaches hown
  exact hmono top (h top hreaches hown)

/-- A form that submits by itself counts for itself only. -/
theorem topsReported_of_isReported (hchild : layout.tree.isChild form = false)
    (hreported : layout.isReported form = true) : layout.TopsReported form := by
  intro top hreaches _
  cases hreaches with
  | self => exact hreported
  | through hnested _ _ =>
    rw [hchild] at hnested
    cases hnested

/-- A nested form counts for what the form around it counts for. -/
theorem TopsReported.through (hchild : layout.tree.isChild form = true)
    (haround : ∀ around, layout.tree.formAround form = some around → layout.TopsReported around) :
    layout.TopsReported form := by
  intro top hreaches hown
  cases hreaches with
  | self =>
    rw [hchild] at hown
    cases hown
  | through _ hup hreaches => exact haround _ hup top hreaches hown

theorem Sound.isReported_changeForm_of_isReported (h : layout.Sound)
    (hsome : (layout.tree.form? form).isSome) (htakes : allow.takes intent)
    (hreported : layout.isReported id = true) :
    (layout.changeForm form intent).isReported id = true := by
  rw [h.isReported_changeForm hsome htakes]
  split
  · next heq => simp [heq, hreported]
  · exact hreported

/-- What climbs takes no report back. -/
theorem Climb.isReported (hclimb : Climb origin intent layout layout') (hsound : layout.Sound)
    (htakes : allow.takes intent) (hreported : layout.isReported id = true) :
    layout'.isReported id = true := by
  induction hclimb with
  | top _ => exact hreported
  | stop haround _ =>
    exact hsound.isReported_changeForm_of_isReported (hsound.wf.linked.formAround_spec haround).2
      htakes hreported
  | pass haround _ _ _ _ ih =>
    have hsome := (hsound.wf.linked.formAround_spec haround).2
    exact ih (hsound.changeForm hsome _) (FormSpec.takes_passOn htakes _ _)
      (hsound.isReported_changeForm_of_isReported hsome htakes hreported)

theorem TopsReported.changeForm {other : NodeId} (h : layout.TopsReported other)
    (hsound : layout.Sound) (hsome : (layout.tree.form? form).isSome)
    (htakes : allow.takes intent) : (layout.changeForm form intent).TopsReported other :=
  h.mono (hsound.change hsome intent).tree_eq fun _ =>
    hsound.isReported_changeForm_of_isReported hsome htakes

theorem TopsReported.climb {other : NodeId} (h : layout.TopsReported other)
    (hclimb : Climb origin intent layout layout') (hsound : layout.Sound)
    (htakes : allow.takes intent) : layout'.TopsReported other :=
  h.mono (hclimb.sound hsound).2 fun _ => hclimb.isReported hsound htakes

/-- A form on screen that has nothing to pass on has it reported: if it is a nested one, it was on
screen before. -/
theorem Sound.topsReported_changeForm (hsound : layout.Sound)
    (hsome : (layout.tree.form? form).isSome) (htakes : allow.takes intent)
    (hstop : layout.tree.isChild form = true →
      (layout.form form).value.reduce intent = (layout.form form).value)
    (hbefore : layout.isOnScreen form = true → layout.TopsReported form)
    (hscreen : ((layout.form form).value.reduce intent).isOnScreen = true) :
    (layout.changeForm form intent).TopsReported form := by
  cases hchild : layout.tree.isChild form with
  | true =>
    rw [hstop hchild] at hscreen
    exact (hbefore hscreen).changeForm hsound hsome htakes
  | false =>
    refine topsReported_of_isReported ((hsound.change hsome intent).tree_eq ▸ hchild) ?_
    rw [hsound.isReported_changeForm hsome htakes, if_pos rfl, hchild, hscreen]
    simp

/-- **What is shown is reported**: let the forms before the origin that have something on screen
have it reported. Then this holds of them after the climb too, and if the climb says that something
is on screen, the form around the origin has it reported.

**Proof sketch.** By induction on the climb. A form that submits by itself reports what it is told.
A nested form that has nothing to pass on had something on screen before, and so had it reported;
otherwise it passes on that something is on screen, and the claim for the form around it applies. -/
theorem Climb.topsReported (hclimb : Climb origin intent layout layout') (hsound : layout.Sound)
    (htakes : allow.takes intent)
    (h : ∀ form, form < origin → (layout.tree.form? form).isSome →
      layout.isOnScreen form = true → layout.TopsReported form) :
    (∀ form, form < origin → (layout.tree.form? form).isSome →
      layout'.isOnScreen form = true → layout'.TopsReported form) ∧
    (intent.isShowing = true → ∀ form, layout.tree.formAround origin = some form →
      layout'.TopsReported form) := by
  induction hclimb with
  | top hnone =>
    refine ⟨h, fun _ form hform => ?_⟩
    rw [hnone] at hform
    cases hform
  | @stop origin form intent layout haround hstop =>
    obtain ⟨hlt, hsome⟩ := hsound.wf.linked.formAround_spec haround
    have hself := hsound.topsReported_changeForm hsome htakes hstop (h form hlt hsome)
    refine ⟨fun other hother hform hscreen => ?_, fun hshowing other hother => ?_⟩
    · rw [hsound.isOnScreen_changeForm hsome] at hscreen
      split at hscreen
      · next heq => exact heq ▸ hself hscreen
      · exact (h other hother hform hscreen).changeForm hsound hsome htakes
    · obtain rfl : form = other := Option.some.inj (haround.symm.trans hother)
      exact hself (FormState.isOnScreen_reduce_of_isShowing hshowing)
  | @pass origin form intent layout layout' node spec haround hform hchild hne hclimb ih =>
    obtain ⟨hlt, hsome⟩ := hsound.wf.linked.formAround_spec haround
    have hchange := hsound.changeForm hsome intent
    have htree : (layout.changeForm form intent).tree = layout.tree :=
      (hsound.change hsome intent).tree_eq
    have htree' : layout'.tree = layout.tree := (hclimb.sound hchange).2.trans htree
    have hpassed := spec.takes_passOn htakes ((layout.form form).value.reduce intent)
    have hmono : ∀ other, layout.TopsReported other → layout'.TopsReported other :=
      fun other hother => (hother.changeForm hsound hsome htakes).climb hclimb hchange hpassed
    have hbefore : ∀ other, form ≠ other →
        (layout.changeForm form intent).isOnScreen other = layout.isOnScreen other :=
      fun other hne => by rw [hsound.isOnScreen_changeForm hsome, if_neg hne]
    obtain ⟨hbelow, habove⟩ := ih hchange hpassed fun other hother hform hscreen => by
      rw [hbefore other (by unfold NodeId at *; omega)] at hscreen
      have htops := h other (Nat.lt_trans hother hlt) (htree ▸ hform) hscreen
      exact htops.changeForm hsound hsome htakes
    have hshown : intent.isShowing = true → layout'.TopsReported form := by
      intro hshowing
      refine .through (htree' ▸ hchild) fun around hup =>
        habove ?_ around (by rw [htree, ← htree', hup])
      exact FormState.isShowing_passOn_of_isShowing hshowing
        (FormState.isOnScreen_reduce_of_isShowing hshowing)
    refine ⟨fun other hother hform hscreen => ?_, fun hshowing other hother => ?_⟩
    · rcases Nat.lt_or_ge other form with hless | hge
      · exact hbelow other hless (htree ▸ hform) hscreen
      · rw [isOnScreen_of_gist (hclimb.gist_of_le hchange hge)] at hscreen
        by_cases heq : form = other
        · subst heq
          rw [hsound.isOnScreen_changeForm hsome, if_pos rfl] at hscreen
          rcases FormState.isOnScreen_reduce htakes hscreen with hscreen | hshowing
          · exact hmono form (h form hlt hsome hscreen)
          · exact hshown hshowing
        · rw [hbefore other heq] at hscreen
          exact hmono other (h other hother hform hscreen)
    · obtain rfl : form = other := Option.some.inj (haround.symm.trans hother)
      exact hshown hshowing

/-! ## Between calls -/

/-- What is on screen has been shown and is reported, and what has been shown is reported once. -/
structure DisplaysOnce (shown : NodeId → Prop) (layout : Layout) : Prop where
  displays : Displays shown layout
  topsReported : ∀ form, (layout.tree.form? form).isSome → layout.isOnScreen form = true →
    layout.TopsReported form
  complete : ∀ form, (layout.tree.form? form).isSome → layout.tree.isChild form = false →
    shown form → layout.isReported form = true
  upward : ∀ form around, layout.tree.isChild form = true →
    layout.tree.formAround form = some around → shown form → shown around

/-- Nothing of what is on screen and what is told of it changes from one layout to the next. -/
structure Undisplayed (layout layout' : Layout) : Prop where
  tree : layout'.tree = layout.tree
  gist : ∀ id, (layout'.form id).value.gist = (layout.form id).value.gist
  displays : ∀ id, layout'.displays id = layout.displays id

theorem Undisplayed.of_alike (h : Alike layout layout') : Undisplayed layout layout' :=
  ⟨h.tree, fun id => by rw [form, h.forms, form], fun _ => (h.notices.filter _).length_eq⟩

theorem Sound.undisplayed_step (h : layout.Sound) (htakes : ∀ intent, ¬ allow.takes intent)
    (step : Step allow layout layout') : Undisplayed layout layout' :=
  ⟨(keeps_step step h).2.1, h.gist_step htakes step, h.displays_step htakes step⟩

theorem Displays.congr (h : Displays shown layout) (hsame : Undisplayed layout layout') :
    Displays shown layout' := by
  refine ⟨fun id hid hon => ?_, fun id hid hreported => ?_, fun id hid => ?_⟩
  · rw [isOnScreen_of_gist (hsame.gist id)] at hon
    exact h.isOnScreen id (hsame.tree ▸ hid) hon
  · rw [isReported_of_gist (hsame.gist id)] at hreported
    rw [hsame.tree]
    exact h.isReported id (hsame.tree ▸ hid) hreported
  · rw [hsame.displays, isReported_of_gist (hsame.gist id), h.displays id (hsame.tree ▸ hid)]

/-- Steps that bring nothing on screen show nothing. -/
theorem Displays.step_of_not_displays (h : Displays shown layout) (hsound : layout.Sound)
    (hdisplays : ¬ allow.displays) (step : Step allow layout layout') : Displays shown layout' := by
  rcases step.eq_changeForm_or with ⟨form, intent, htakes, hsome, rfl⟩ | hstep
  · refine h.changeForm hsound hsome htakes fun hshowing => ?_
    cases intent <;> first | cases hshowing; done | exact absurd htakes hdisplays
  · exact h.congr (hsound.undisplayed_step (Allowance.not_takes id id) hstep)

theorem DisplaysOnce.congr (h : DisplaysOnce shown layout) (hsame : Undisplayed layout layout') :
    DisplaysOnce shown layout' := by
  have hreported : ∀ id, layout'.isReported id = layout.isReported id := fun id =>
    isReported_of_gist (hsame.gist id)
  refine ⟨h.displays.congr hsame, fun form hform hon => ?_, fun form hform hown hshown => ?_,
    hsame.tree ▸ h.upward⟩
  · rw [isOnScreen_of_gist (hsame.gist form)] at hon
    exact (h.topsReported form (hsame.tree ▸ hform) hon).mono hsame.tree fun id hid =>
      (hreported id).trans hid
  · rw [hsame.tree] at hform hown
    rw [hreported]
    exact h.complete form hform hown hshown

/-- What is shown by a call counts for the forms around, too. -/
theorem DisplaysOnce.upward_or (h : DisplaysOnce shown layout) (call : Call) :
    ∀ form around, layout.tree.isChild form = true → layout.tree.formAround form = some around →
      shown form ∨ call.Shows layout.tree form → shown around ∨ call.Shows layout.tree around := by
  rintro form around hchild hup (hshown | ⟨node, hact, hinput, inner, hinner, hreaches⟩)
  · exact .inl (h.upward form around hchild hup hshown)
  · exact .inr ⟨node, hact, hinput, inner, hinner, hreaches.up hchild hup⟩

theorem Displays.mono {shown' : NodeId → Prop} (h : Displays shown layout)
    (hshown : ∀ id, shown id → shown' id) : Displays shown' layout where
  isOnScreen id hid hon := hshown id (h.isOnScreen id hid hon)
  isReported id hid hreported :=
    ⟨(h.isReported id hid hreported).1, hshown id (h.isReported id hid hreported).2⟩
  displays := h.displays

/-- What an act on an input keeps, and what it shows. -/
theorem DisplaysOnce.input {call : Call} {spec : InputSpec} {act : InputAct}
    (h : DisplaysOnce shown layout) (hsound : layout.Sound)
    (hact : call.inputAct? = some (id, act)) (hinput : layout.tree.input? id = some spec) :
    DisplaysOnce (fun form => shown form ∨ call.Shows layout.tree form)
      (layout.bubble id (act.event spec)) := by
  obtain ⟨intent, hintent⟩ : ∃ intent, (act.event spec).formIntent? = some intent := by
    cases act <;> exact ⟨_, rfl⟩
  have htakes := (InputAct.isWithin_event act spec).2.takes intent hintent
  -- only what is displayed shows something
  have hshowing : intent.isShowing = true ↔ act = .display true := by
    cases act with
    | display isDisplayed => cases hintent; cases isDisplayed <;> simp [FormIntent.isShowing]
    | _ => cases hintent; simp [FormIntent.isShowing]
  have hclimb := hsound.climb id hintent
  obtain ⟨hsound', htree⟩ := hclimb.sound hsound
  have hupward := h.upward_or call
  obtain ⟨hbelow, habove⟩ := hclimb.topsReported hsound htakes fun form _ => h.topsReported form
  have hmono : ∀ form, layout.isReported form = true →
      (layout.bubble id (act.event spec)).isReported form = true := fun form =>
    hclimb.isReported hsound htakes
  refine ⟨hclimb.displays hsound htakes hupward (fun hs form hform => ?_)
    (h.displays.mono fun _ => .inl), fun form hform hon => ?_, fun form hform hown hshown => ?_,
    htree ▸ hupward⟩
  · exact .inr ⟨id, hshowing.mp hs ▸ hact, by rw [hinput]; rfl, form, hform, .self⟩
  · rw [htree] at hform
    rcases Nat.lt_or_ge form id with hlt | hge
    · exact hbelow form hlt hform hon
    · rw [isOnScreen_of_gist (hclimb.gist_of_le hsound hge)] at hon
      exact (h.topsReported form hform hon).mono htree hmono
  · rw [htree] at hform hown
    rcases hshown with hshown | ⟨node, hact', -, inner, hinner, hreaches⟩
    · exact hmono form (h.complete form hform hown hshown)
    · rw [hact] at hact'
      obtain ⟨rfl, rfl⟩ := Prod.mk.inj (Option.some.inj hact')
      exact habove (hshowing.mpr rfl) inner hinner form (htree ▸ hreaches) (htree ▸ hown)

/-- What a call keeps, and what it shows. -/
theorem DisplaysOnce.after {call : Call} (h : DisplaysOnce shown layout) (hidle : layout.Idle)
    (hreporting : layout.environment.config.reporting.isEnabled = true)
    (hrecording : layout.environment.isRecording = true) (hcall : call.IsOrdinary layout.tree) :
    DisplaysOnce (fun form => shown form ∨ call.Shows layout.tree form) (layout.after call) ∧
      (layout.after call).environment = layout.environment := by
  obtain ⟨raised, hraises, hafter⟩ := exists_raises hidle.queue hcall
  obtain ⟨htidy, -, henvironment, -⟩ := hidle.tidy_raised hraises
  rw [hafter, ← henvironment]
  refine htidy.settle_alike (henvironment ▸ hreporting) (henvironment ▸ hrecording)
    (fun _ hb => hb) (fun _ _ hworld hp step =>
      hp.congr (hworld.sound.undisplayed_step (Allowance.not_takes id id) step))
    (fun _ _ halike hp => hp.congr (.of_alike halike)) ?_
  cases hraises with
  | @input id spec act states hact hinput _ =>
    have hstart : DisplaysOnce shown
        { layout with states, answers := act.answers id layout.answers } :=
      h.congr (.of_alike ⟨rfl, rfl, rfl, .refl _⟩)
    exact hstart.input (hidle.sound.congr rfl (fun _ => rfl) fun _ => rfl) hact hinput
  | steps hnone hsteps =>
    have hkept : DisplaysOnce shown raised :=
      steps_induction (P := DisplaysOnce shown) (fun _ _ hworld hp step =>
        hp.congr (hworld.undisplayed_step (Allowance.not_takes id id) step)) hidle.sound h hsteps
    have hnever : ∀ form, ¬ call.Shows layout.tree form := by
      rintro form ⟨node, hact, hinput, -⟩
      obtain ⟨spec, hspec⟩ := Option.isSome_iff_exists.mp hinput
      exact Bool.noConfusion (hnone node _ spec hact hspec)
    have hsame : (fun form => shown form ∨ call.Shows layout.tree form) = shown :=
      funext fun form => propext (or_iff_left (hnever form))
    rw [hsame]
    exact hkept

/-- What a run keeps, and what it shows. -/
theorem DisplaysOnce.run {tree : Tree} : ∀ (calls : List Call) {layout : Layout}
    {shown : NodeId → Prop}, DisplaysOnce shown layout → layout.Idle → layout.tree = tree →
    layout.environment.config.reporting.isEnabled = true →
    layout.environment.isRecording = true → (∀ call ∈ calls, call.IsOrdinary tree) →
    (layout.run calls).Idle ∧ DisplaysOnce
      (fun form => shown form ∨ ∃ call ∈ calls, call.Shows tree form) (layout.run calls) := by
  intro calls
  induction calls with
  | nil =>
    intro layout shown h hidle _ _ _ _
    refine ⟨hidle, ?_⟩
    have hsame : (fun form => shown form ∨ ∃ call ∈ ([] : List Call), call.Shows tree form) =
        shown := funext fun form => by simp
    rw [hsame]
    exact h
  | cons call calls ih =>
    intro layout shown h hidle htree hreporting hrecording hcalls
    have hcall : call.IsOrdinary layout.tree := htree ▸ hcalls call (by simp)
    obtain ⟨hafter, henvironment⟩ := h.after hidle hreporting hrecording hcall
    have hrun := ih hafter (hidle.after hcall)
      ((keeps_after layout call hidle.sound).2.1.trans htree) (henvironment ▸ hreporting)
      (henvironment ▸ hrecording) fun other hother => hcalls other (by simp [hother])
    have hsame : (fun form => shown form ∨ ∃ other ∈ call :: calls, other.Shows tree form) =
        fun form => (shown form ∨ call.Shows layout.tree form) ∨
          ∃ other ∈ calls, other.Shows tree form :=
      funext fun form => by simp [htree, or_assoc]
    rw [hsame]
    exact hrun

/-- Once all nodes are set up, nothing has been shown. -/
theorem Assembled.displays {environment : Environment} {tree : Tree}
    (h : Assembled environment tree tree.size layout) : Displays (fun _ => False) layout := by
  have hfresh : ∀ id, (layout.tree.form? id).isSome →
      layout.isOnScreen id = false ∧ layout.isReported id = false := by
    intro id hid
    obtain ⟨⟨node, spec⟩, hform⟩ := Option.isSome_iff_exists.mp (h.tree_eq ▸ hid)
    have hvalue := (h.fresh id node spec (Tree.lt_size_of_form? (by rw [hform]; rfl)) hform).value
    rw [isOnScreen, isReported, hvalue]
    exact ⟨by simp [FormState.isOnScreen, FormState.start], rfl⟩
  refine ⟨fun id hid hon => ?_, fun id hid hreported => ?_, fun id hid => ?_⟩
  · rw [(hfresh id hid).1] at hon
    cases hon
  · rw [(hfresh id hid).2] at hreported
    cases hreported
  · rw [Layout.displays, noticesOf, h.notices, (hfresh id hid).2]
    rfl

/-- After activation nothing has been shown. -/
theorem displaysOnce_of_activate {environment : Environment} {root : Spec}
    (h : activate environment root = .ok layout)
    (hreporting : environment.config.reporting.isEnabled = true)
    (hrecording : environment.isRecording = true) :
    DisplaysOnce (fun _ => False) layout ∧ layout.environment = environment := by
  obtain ⟨hviolation, rfl⟩ := activate_eq_ok.mp h
  have wf := Tree.wellFormed_of_violation? (Tree.linked_ofSpec root) hviolation
  have hbuild := assembled_build environment wf
  generalize build environment (Tree.ofSpec root) = built at hbuild
  have hbuilt : built.environment = environment := (congrArg Layout.environment hbuild.core :)
  obtain ⟨hdisplays, henvironment⟩ := (hbuild.tidy wf).settle_alike
    (P := Displays fun _ => False) (hbuilt ▸ hreporting) (hbuilt ▸ hrecording) (fun _ hb => hb)
    (fun _ _ hworld hp step => hp.step_of_not_displays hworld.sound id step)
    (fun _ _ halike hp => hp.congr (.of_alike halike)) hbuild.displays
  refine ⟨⟨hdisplays, fun form hform hon => (hdisplays.isOnScreen form hform hon).elim,
    fun _ _ _ hshown => hshown.elim, fun _ _ _ _ hshown => hshown⟩, henvironment.trans hbuilt⟩

/-! ## What is reported -/

/-- A display is known as reported if and only if it is one of a form that submits by itself, and
something that counts for the form has been shown. -/
theorem DisplaysOnce.isReported_iff (h : DisplaysOnce shown layout)
    (hsome : (layout.tree.form? id).isSome) :
    layout.isReported id = true ↔ layout.tree.isChild id = false ∧ shown id := by
  constructor
  · exact h.displays.isReported id hsome
  · rintro ⟨hown, hshown⟩
    exact h.complete id hsome hown hshown

/-- What is told of displays, in reports or dropped. -/
theorem DisplaysOnce.length_add (h : DisplaysOnce shown layout) (hidle : layout.Idle)
    (hsome : (layout.tree.form? id).isSome) :
    (layout.reportsOf .formDisplay id).length + (layout.droppedOf .formDisplay id).length =
      (layout.isReported id).toNat := by
  rw [← h.displays.displays id hsome, Layout.displays,
    noticesOf_of_queue (by decide) id hidle.queue, List.length_append, List.length_map]

theorem DisplaysOnce.length_reportsOf_le (h : DisplaysOnce shown layout) (hidle : layout.Idle)
    (hsome : (layout.tree.form? id).isSome) :
    (layout.reportsOf .formDisplay id).length ≤ 1 := by
  have hlength := h.length_add hidle hsome
  have hle := Bool.toNat_le (layout.isReported id)
  omega

/-- What is not known as reported is neither reported nor dropped. -/
theorem DisplaysOnce.of_not_isReported (h : DisplaysOnce shown layout) (hidle : layout.Idle)
    (hsome : (layout.tree.form? id).isSome) (hnot : ¬ layout.isReported id = true) :
    layout.reportsOf .formDisplay id = [] ∧ layout.droppedOf .formDisplay id = [] := by
  have hlength := h.length_add hidle hsome
  rw [Bool.not_eq_true] at hnot
  rw [hnot, Bool.toNat_false] at hlength
  constructor
  · apply List.eq_nil_of_length_eq_zero
    omega
  · apply List.eq_nil_of_length_eq_zero
    omega

/-- If no display was dropped, a report is there if and only if it is known. -/
theorem DisplaysOnce.length_reportsOf_eq (h : DisplaysOnce shown layout) (hidle : layout.Idle)
    (hsome : (layout.tree.form? id).isSome) (hdropped : layout.droppedOf .formDisplay id = []) :
    (layout.reportsOf .formDisplay id).length = 1 ↔ layout.isReported id = true := by
  have hlength := h.length_add hidle hsome
  rw [hdropped, List.length_nil, Nat.add_zero] at hlength
  rw [hlength]
  cases layout.isReported id <;> simp

/-- **Display is reported exactly once.** Let a layout be activated with reporting enabled and
reports kept, and let calls of the renderer and submissions asked for from outside follow. A nested
form never reports its display. For a form that submits by itself

* there is at most one report of its display;
* the form knows its display as reported if and only if some call showed an input that reaches it
  through nested forms only;
* if the limit of a pass was not reached by the calls, there is a report if and only if some call
  did so, and so if and only if the form knows of it.

**Proof sketch.** What is on screen in a form has been shown, and all that the form counts for has
it reported; a report is told when the form first knows of it, and only then. An event that brings
an input on screen climbs through the nested forms: one that has something on screen already ends
the climb, but then all that it counts for has it reported. -/
theorem display_reported_once {environment : Environment} {root : Spec} {node : Node}
    {spec : FormSpec} (h : activate environment root = .ok layout)
    (hreporting : environment.config.reporting.isEnabled = true)
    (hrecording : environment.isRecording = true)
    (hform : (Tree.ofSpec root).form? id = some (node, spec)) {calls : List Call}
    (hcalls : ∀ call ∈ calls, call.IsOrdinary (Tree.ofSpec root)) :
    (spec.isChild = true → (layout.run calls).reportsOf .formDisplay id = []) ∧
    (spec.isChild = false →
      ((layout.run calls).reportsOf .formDisplay id).length ≤ 1 ∧
      (((layout.run calls).form id).value.isDisplayReported = true ↔
        ∃ call ∈ calls, call.Shows (Tree.ofSpec root) id) ∧
      ((layout.run calls).dropped = layout.dropped →
        (((layout.run calls).reportsOf .formDisplay id).length = 1 ↔
          ∃ call ∈ calls, call.Shows (Tree.ofSpec root) id) ∧
        (((layout.run calls).reportsOf .formDisplay id).length = 1 ↔
          ((layout.run calls).form id).value.isDisplayReported = true))) := by
  obtain ⟨hstart, henvironment⟩ := displaysOnce_of_activate h hreporting hrecording
  have hidle := idle_of_activate h
  have htree := (sound_of_activate h).2.1
  rw [← henvironment] at hreporting hrecording
  rw [← htree] at hcalls hform ⊢
  obtain ⟨hfinal, honce⟩ := DisplaysOnce.run calls hstart hidle rfl hreporting hrecording hcalls
  have hsame : (layout.run calls).tree = layout.tree :=
    (keeps_run layout calls hidle.sound).2.1
  have hsome : (layout.tree.form? id).isSome := by
    rw [hform]
    rfl
  have hchild : layout.tree.isChild id = spec.isChild := Tree.isChild_of_form? hform
  have hfinalSome : ((layout.run calls).tree.form? id).isSome := hsame ▸ hsome
  have hiff := honce.isReported_iff hfinalSome
  rw [hsame, hchild, false_or] at hiff
  constructor
  · intro hnested
    refine (honce.of_not_isReported hfinal hfinalSome fun hreported => ?_).1
    have hown := (hiff.mp hreported).1
    rw [hnested] at hown
    cases hown
  · intro hown
    have hshown := hiff.trans (and_iff_right hown)
    refine ⟨honce.length_reportsOf_le hfinal hfinalSome, hshown, fun hdropped => ?_⟩
    have hlost : (layout.run calls).droppedOf .formDisplay id = [] := by
      have hbefore := hstart.of_not_isReported hidle hsome fun hreported =>
        ((hstart.isReported_iff hsome).mp hreported).2
      rw [droppedOf, hdropped]
      exact hbefore.2
    have hcount := honce.length_reportsOf_eq hfinal hfinalSome hlost
    exact ⟨hcount.trans hshown, hcount⟩

/-- A form with an input in a form nested in it. -/
def registration : Spec :=
  ⟨.form { id := "registration" }, [], [
    ⟨.form { id := "address", submit := none }, [], [
      ⟨.input { id := "street", kind := .textInput }, [], []⟩]⟩]⟩

/-- The input comes on screen, is gone for good, and comes on screen again. -/
theorem display_reported_once_registration :
    ∃ layout final : Layout, activate {} registration = .ok layout ∧
      final = layout.run [.attach 2, .withdraw 2, .setDisplayed 2 true] ∧
      final.dropped = layout.dropped ∧ (final.reportsOf .formDisplay 0).length = 1 ∧
      (final.form 0).value.isDisplayReported = true ∧ final.reportsOf .formDisplay 1 = [] := by
  have hactive : activate {} registration = .ok (build {} (Tree.ofSpec registration)).settle :=
    activate_eq_ok.mpr ⟨by decide, rfl⟩
  have houter : (Tree.ofSpec registration).form? 0 = some
      ({ view := .form { id := "registration" }, enable := [], ancestors := [], children := [1]
         size := 3, scope := {} }, { id := "registration" }) := by decide
  have hinner : (Tree.ofSpec registration).form? 1 = some
      ({ view := .form { id := "address", submit := none }, enable := [], ancestors := [0]
         children := [2], size := 2, scope := ⟨some 0, none⟩ },
        { id := "address", submit := none }) := by decide
  have hcalls : ∀ call ∈ ([.attach 2, .withdraw 2, .setDisplayed 2 true] : List Call),
      call.IsOrdinary (Tree.ofSpec registration) := by
    intro call hcall
    simp only [List.mem_cons, List.not_mem_nil, or_false] at hcall
    rcases hcall with rfl | rfl | rfl <;> trivial
  have hshows : ∃ call ∈ ([.attach 2, .withdraw 2, .setDisplayed 2 true] : List Call),
      call.Shows (Tree.ofSpec registration) 0 :=
    ⟨.attach 2, by simp, 2, rfl, by decide, 1, by decide, .through (by decide) (by decide) .self⟩
  have hdropped : ((build {} (Tree.ofSpec registration)).settle.run
      [.attach 2, .withdraw 2, .setDisplayed 2 true]).dropped =
      (build {} (Tree.ofSpec registration)).settle.dropped := by decide +kernel
  refine ⟨_, _, hactive, rfl, hdropped, ?_⟩
  obtain ⟨-, hreported, hcount⟩ := (display_reported_once hactive rfl rfl houter hcalls).2 rfl
  exact ⟨(hcount hdropped).1.mpr hshows, hreported.mpr hshows,
    (display_reported_once hactive rfl rfl hinner hcalls).1 rfl⟩

end Layout

end FormTree

import FormTree.Proofs.Layout.Entrances

set_option autoImplicit false

/-!
# What forms keep of their members

The members of a form are the inputs and nested forms whose nearest form it is. Of each of them the
form keeps the latest validity and, as long as that is true, the latest entry. A nested form that
changes passes on what it comes to; so when an event has climbed as far as it goes, every form on
its way is kept by the form around it as it is now, and nothing else is touched.

## Main definitions

* `FormTree.Tree.key?` — the identifier under which a member is kept.
* `FormTree.FormState.Holds` — what a form keeps under an identifier.
* `FormTree.FormState.Tallies` — a form's flag and attribute updates follow from what it keeps.
* `FormTree.Layout.Recorded` — a member is kept as it is now.

## Main results

* `FormTree.Layout.Climb.tallies` — what climbs keeps the tallies.
* `FormTree.Layout.Climb.recorded` — what climbs keeps records, but for that of its origin.
-/

namespace FormTree

/-! ## Members -/

/-- The identifier under which the node is kept by the form around it, if it is an input or a nested
form. -/
def Tree.key? (tree : Tree) (id : NodeId) : Option String :=
  match tree.view? id with
  | some (.input spec) => some spec.id
  | some (.form spec) => if spec.isChild then some spec.id else none
  | _ => none

/-- No two members of a form have the same identifier. -/
def Tree.HasDistinctKeys (tree : Tree) : Prop :=
  ∀ member ∈ tree.ids, ∀ other ∈ tree.ids, (tree.formAround member).isSome →
    tree.formAround member = tree.formAround other → (tree.key? member).isSome →
    tree.key? member = tree.key? other → member = other

instance (tree : Tree) : Decidable tree.HasDistinctKeys :=
  inferInstanceAs (Decidable (∀ member ∈ tree.ids, ∀ other ∈ tree.ids, _))

theorem Tree.key?_of_input? {tree : Tree} {id : NodeId} {spec : InputSpec}
    (h : tree.input? id = some spec) : tree.key? id = some spec.id := by
  rw [Tree.key?, Tree.input?_eq_some.mp h]

theorem Tree.key?_of_form? {tree : Tree} {id : NodeId} {node : Node} {spec : FormSpec}
    (h : tree.form? id = some (node, spec)) :
    tree.key? id = if tree.isChild id then some spec.id else none := by
  obtain ⟨hnode, hview⟩ := Tree.form?_eq_some.mp h
  simp [Tree.key?, Tree.view?, hnode, hview, Tree.isChild, h]

/-- A nested form is kept under the identifier that it is declared with. -/
theorem Tree.key?_of_isChild {tree : Tree} {id : NodeId} {node : Node} {spec : FormSpec}
    (h : tree.form? id = some (node, spec)) (hchild : tree.isChild id = true) :
    tree.key? id = some spec.id := by
  rw [Tree.key?_of_form? h, if_pos hchild]

/-- What is kept by the form around it, and is no input, is a nested form. -/
theorem Tree.isChild_of_key? {tree : Tree} {id : NodeId} {key : String}
    (hinput : tree.input? id = none) (hkey : tree.key? id = some key) :
    ∃ node spec, tree.form? id = some (node, spec) ∧ tree.isChild id = true := by
  unfold Tree.key? at hkey
  split at hkey
  · next spec hview =>
    rw [Tree.input?_eq_some.mpr hview] at hinput
    cases hinput
  · next spec hview =>
    obtain ⟨node, hnode, hform⟩ := Option.map_eq_some_iff.mp hview
    have hspec := Tree.form?_eq_some.mpr ⟨hnode, hform⟩
    split at hkey
    · next hchild => exact ⟨node, spec, hspec, (Tree.isChild_of_form? hspec).trans hchild⟩
    · cases hkey
  · cases hkey

/-- Nodes below a form are nodes. -/
theorem Tree.mem_ids_of_formAround {tree : Tree} {id form : NodeId}
    (h : tree.formAround id = some form) : id ∈ tree.ids := by
  cases hnode : tree.node? id with
  | none => simp [Tree.formAround, hnode] at h
  | some node => exact List.mem_range.mpr (Tree.lt_size hnode)

theorem Tree.HasDistinctKeys.eq {tree : Tree} (h : tree.HasDistinctKeys)
    {member other form : NodeId} {key : String}
    (hmember : tree.formAround member = some form) (hkey : tree.key? member = some key)
    (hother : tree.formAround other = some form) (hkey' : tree.key? other = some key) :
    member = other :=
  h member (Tree.mem_ids_of_formAround hmember) other (Tree.mem_ids_of_formAround hother)
    (by rw [hmember]; rfl) (hmember.trans hother.symm) (by rw [hkey]; rfl) (hkey.trans hkey'.symm)

/-! ## What a form keeps -/

/-- The identifier that a change is about. -/
def FormIntent.id? : FormIntent → Option String
  | .track id _ | .withdraw id | .display id _ => some id
  | .input entry => some entry.id
  | _ => none

/-- What a nested form passes on is about itself. -/
theorem FormSpec.id?_passOn (spec : FormSpec) (state : FormState) (intent : FormIntent) :
    (spec.passOn state intent).id? = some spec.id := by
  cases intent <;> rfl

namespace FormState

variable {state before after : FormState} {intent : FormIntent} {allow : Allowance}
  {name key : String} {entry : Option Entry}

/-- The form keeps the entry under `key`, or nothing. -/
structure Holds (state : FormState) (key : String) (entry : Option Entry) : Prop where
  validity : state.validity[key]? = entry.map (·.isValid)
  inputs : state.inputs[key]? = entry.filter (·.isValid)

theorem Holds.of_gist (h : before.Holds key entry) (hgist : after.gist = before.gist) :
    after.Holds key entry := by
  have hvalidity : after.validity = before.validity := (congrArg FormState.validity hgist :)
  have hinputs : after.inputs = before.inputs := (congrArg FormState.inputs hgist :)
  exact ⟨by rw [hvalidity, h.validity], by rw [hinputs, h.inputs]⟩

theorem Holds.reporting (h : state.Holds key entry) (isChild : Bool) :
    (state.reporting isChild).Holds key entry :=
  ⟨h.validity, h.inputs⟩

/-- What is kept under other identifiers stays. -/
theorem Holds.reduce_of_ne (h : state.Holds key entry) (htakes : allow.takes intent)
    (hid : intent.id? = some name) (hne : name ≠ key) : (state.reduce intent).Holds key entry := by
  obtain ⟨hvalidity, hinputs⟩ := h
  cases intent with
  | track id isValid =>
    cases hid
    refine ⟨?_, hinputs⟩
    simp [reduce, track, recompute, Std.ExtTreeMap.getElem?_insert, hne, hvalidity]
  | input given =>
    cases hid
    constructor
    · simp [reduce, putEntry, recompute, Std.ExtTreeMap.getElem?_insert, hne, hvalidity]
    · simp only [reduce, putEntry, recompute]
      split
      · simp [Std.ExtTreeMap.getElem?_insert, hne, hinputs]
      · simp [Std.ExtTreeMap.getElem?_erase, hne, hinputs]
  | withdraw id =>
    cases hid
    constructor
    · simp [reduce, withdraw, recompute, Std.ExtTreeMap.getElem?_erase, hne, hvalidity]
    · simp [reduce, withdraw, recompute, Std.ExtTreeMap.getElem?_erase, hne, hinputs]
  | display id isDisplayed => exact ⟨hvalidity, hinputs⟩
  | _ => cases htakes

/-- An entry that is taken over is kept. -/
theorem holds_input (state : FormState) (given : Entry) :
    (state.reduce (.input given)).Holds given.id (some given) := by
  constructor
  · simp [reduce, putEntry, recompute]
  · simp only [reduce, putEntry, recompute]
    split
    · next hvalid => simp [Option.filter, hvalid]
    · next hvalid => simp [Option.filter, hvalid]

/-- What left the form is not kept. -/
theorem holds_withdraw (state : FormState) (key : String) :
    (state.reduce (.withdraw key)).Holds key none := by
  constructor <;> simp [reduce, withdraw, recompute]

/-- What is tracked as not valid is kept as such, if nothing was kept of it before. -/
theorem Holds.track {given : Entry} (h : state.Holds key none) (hvalid : given.isValid = false) :
    (state.reduce (.track key false)).Holds key (some given) := by
  constructor
  · simp [reduce, FormState.track, recompute, hvalid]
  · calc (state.reduce (.track key false)).inputs[key]? = state.inputs[key]? := rfl
      _ = (some given).filter (·.isValid) := by simp [h.inputs, Option.filter, hvalid]

/-- **The form around keeps a nested form as it is once it changed**, if it kept it as it was. -/
theorem Holds.passOn {spec : FormSpec} (htakes : allow.takes intent)
    (hbefore : before.Holds spec.id (some (spec.entry state))) :
    (before.reduce (spec.passOn (state.reduce intent) intent)).Holds spec.id
      (some (spec.entry (state.reduce intent))) := by
  cases intent with
  | display name isDisplayed => exact ⟨hbefore.validity, hbefore.inputs⟩
  | track name isValid => exact holds_input before (spec.entry (state.track name isValid))
  | input given => exact holds_input before (spec.entry (state.putEntry given))
  | withdraw name => exact holds_input before (spec.entry (state.withdraw name))
  | _ => cases htakes

/-- The form `form` is the declared one, its flag and its attribute updates follow from what it
keeps, and it keeps nothing but its members. -/
structure Tallies (tree : Tree) (form : NodeId) (state : FormState) : Prop where
  declared : ∀ node spec, tree.form? form = some (node, spec) → state.identifier = spec.id ∧
    state.formType = spec.formType ∧ state.responseType = spec.responseType
  isValid : state.isValid = (!state.validity.isEmpty && state.validity.values.all id)
  attributes : state.attributes = Entry.mergeAttributes state.inputs.values
  members : ∀ key, state.Holds key none ∨
    ∃ member, tree.formAround member = some form ∧ tree.key? member = some key

theorem Tallies.of_gist {tree : Tree} {form : NodeId} (h : before.Tallies tree form)
    (hgist : after.gist = before.gist) : after.Tallies tree form where
  declared node spec hform := by
    have hidentifier : after.identifier = before.identifier :=
      (congrArg FormState.identifier hgist :)
    have htype : after.formType = before.formType := (congrArg FormState.formType hgist :)
    have hresponse : after.responseType = before.responseType :=
      (congrArg FormState.responseType hgist :)
    rw [hidentifier, htype, hresponse]
    exact h.declared node spec hform
  isValid := by
    have hvalid : after.isValid = before.isValid := (congrArg FormState.isValid hgist :)
    have hvalidity : after.validity = before.validity := (congrArg FormState.validity hgist :)
    rw [hvalid, hvalidity, h.isValid]
  attributes := by
    have hattributes : after.attributes = before.attributes :=
      (congrArg FormState.attributes hgist :)
    have hinputs : after.inputs = before.inputs := (congrArg FormState.inputs hgist :)
    rw [hattributes, hinputs, h.attributes]
  members key := (h.members key).imp_left fun hnone => hnone.of_gist hgist

/-- A change about a member keeps the tally. -/
theorem Tallies.reduce {tree : Tree} {form member : NodeId} (h : state.Tallies tree form)
    (htakes : allow.takes intent) (hid : intent.id? = some name)
    (haround : tree.formAround member = some form) (hkey : tree.key? member = some name) :
    (state.reduce intent).Tallies tree form where
  declared node spec hform := by
    have := h.declared node spec hform
    cases intent <;> exact this
  isValid := by
    cases intent <;> first | exact h.isValid | rfl
  attributes := by
    cases intent <;> first | exact h.attributes | rfl
  members key := by
    by_cases heq : name = key
    · exact .inr ⟨member, haround, heq ▸ hkey⟩
    · exact (h.members key).imp_left fun hnone => hnone.reduce_of_ne htakes hid heq

/-- That the display has been reported, changes no tally. -/
theorem Tallies.reporting {tree : Tree} {form : NodeId} (h : state.Tallies tree form)
    (isChild : Bool) : (state.reporting isChild).Tallies tree form where
  declared := h.declared
  isValid := h.isValid
  attributes := h.attributes
  members key := (h.members key).imp_left fun hnone => hnone.reporting isChild

end FormState

namespace Layout

variable {layout layout' : Layout} {form origin member : NodeId} {intent : FormIntent}
  {key : String}
  {allow : Allowance} {tracked : NodeId → Bool}

/-! ## Tallies along a climb -/

/-- All forms tally. -/
def Tallied (layout : Layout) : Prop :=
  ∀ form, (layout.tree.form? form).isSome → (layout.form form).value.Tallies layout.tree form

theorem Tallied.calm (h : layout.Tallied) (hcalm : Calm layout layout') : layout'.Tallied := by
  intro form hsome
  rw [hcalm.tree] at hsome ⊢
  exact (h form hsome).of_gist (hcalm.gist form)

theorem Tallied.of_forms (h : layout.Tallied) (htree : layout'.tree = layout.tree)
    (hforms : ∀ id, layout'.form id = layout.form id) : layout'.Tallied := by
  intro form hsome
  rw [htree] at hsome ⊢
  rw [hforms]
  exact h form hsome

theorem Tallied.changeForm (h : layout.Tallied) (hsound : layout.Sound)
    (htakes : allow.takes intent) (hid : intent.id? = some key)
    (haround : layout.tree.formAround origin = some form)
    (hkey : layout.tree.key? origin = some key) : (layout.changeForm form intent).Tallied := by
  have hsome := (hsound.wf.linked.formAround_spec haround).2
  intro other hother
  rw [(hsound.change hsome intent).tree_eq] at hother ⊢
  have hgist := hsound.gist_changeForm hsome intent other
  split at hgist
  · next heq =>
    subst heq
    exact (((h form hother).reduce htakes hid haround hkey).reporting _).of_gist hgist
  · exact (h other hother).of_gist hgist

/-- **What climbs keeps the tallies.** -/
theorem Climb.tallies (hclimb : Climb origin intent layout layout') (hsound : layout.Sound)
    (htakes : allow.takes intent) (hid : intent.id? = some key)
    (hkey : layout.tree.key? origin = some key) (h : layout.Tallied) : layout'.Tallied := by
  induction hclimb generalizing key with
  | top _ => exact h
  | stop haround _ => exact h.changeForm hsound htakes hid haround hkey
  | @pass origin form intent layout layout' node spec haround hform hchild _ _ ih =>
    have hsome := (hsound.wf.linked.formAround_spec haround).2
    exact ih (hsound.changeForm hsome intent) (spec.takes_passOn htakes _) (spec.id?_passOn _ _)
      ((hsound.change hsome intent).tree_eq ▸ Tree.key?_of_isChild hform hchild)
      (h.changeForm hsound htakes hid haround hkey)

/-! ## Records along a climb -/

/-- What the node contributes to the form around it as things stand. -/
def contribution (layout : Layout) (id : NodeId) : Option Entry :=
  match layout.tree.view? id with
  | some (.input spec) => some (spec.entry (layout.answers.get id))
  | some (.form spec) => if spec.isChild then some (spec.entry (layout.form id).value) else none
  | _ => none

/-- What the form around the node should keep of it: nothing, if the node is not tracked. -/
def share (layout : Layout) (tracked : NodeId → Bool) (id : NodeId) : Option Entry :=
  if tracked id then layout.contribution id else none

/-- If the node is a member of a form, it is kept there as it is now. -/
def Recorded (tracked : NodeId → Bool) (layout : Layout) (member : NodeId) : Prop :=
  ∀ form key, layout.tree.formAround member = some form → layout.tree.key? member = some key →
    (layout.form form).value.Holds key (layout.share tracked member)

theorem contribution_congr (htree : layout'.tree = layout.tree)
    (hanswers : layout'.answers.get member = layout.answers.get member)
    (hentry : ∀ spec : FormSpec,
      spec.entry (layout'.form member).value = spec.entry (layout.form member).value) :
    layout'.contribution member = layout.contribution member := by
  simp only [contribution, htree, hanswers, hentry]

/-- The share of a nested form is its data. -/
theorem share_of_isChild {node : Node} {spec : FormSpec}
    (hform : layout.tree.form? form = some (node, spec))
    (hchild : layout.tree.isChild form = true) (htracked : tracked form = true) :
    layout.share tracked form = some (spec.entry (layout.form form).value) := by
  obtain ⟨hnode, hview⟩ := Tree.form?_eq_some.mp hform
  have hnested : spec.isChild = true := (Tree.isChild_of_form? hform).symm.trans hchild
  simp [share, htracked, contribution, Tree.view?, hnode, hview, hnested]

theorem entry_of_gist (h : (layout'.form form).value.gist = (layout.form form).value.gist)
    (spec : FormSpec) :
    spec.entry (layout'.form form).value = spec.entry (layout.form form).value :=
  (congrArg spec.entry h :)

theorem Recorded.calm (h : layout.Recorded tracked member) (hcalm : Calm layout layout') :
    layout'.Recorded tracked member := by
  intro form key haround hkey
  rw [hcalm.tree] at haround hkey
  rw [share, contribution_congr hcalm.tree (by rw [hcalm.answers])
    (entry_of_gist (hcalm.gist member))]
  exact (h form key haround hkey).of_gist (hcalm.gist form)

theorem Recorded.of_forms (h : layout.Recorded tracked member) (htree : layout'.tree = layout.tree)
    (hanswer : layout'.answers.get member = layout.answers.get member)
    (hforms : ∀ id, layout'.form id = layout.form id) : layout'.Recorded tracked member := by
  intro form key haround hkey
  rw [htree] at haround hkey
  rw [share, contribution_congr htree hanswer (fun _ => by rw [hforms]), hforms]
  exact h form key haround hkey

/-- Whether other nodes are tracked does not matter. -/
theorem Recorded.of_tracked {tracked' : NodeId → Bool} (h : layout.Recorded tracked member)
    (hsame : tracked' member = tracked member) : layout.Recorded tracked' member := by
  intro form key haround hkey
  rw [share, hsame]
  exact h form key haround hkey

/-- A change about one member keeps the record of another one that it does not change. -/
theorem Recorded.changeForm (h : layout.Recorded tracked member) (hsound : layout.Sound)
    (hdistinct : layout.tree.HasDistinctKeys) (htakes : allow.takes intent)
    (hid : intent.id? = some key) (haround : layout.tree.formAround origin = some form)
    (hkey : layout.tree.key? origin = some key) (hne : member ≠ origin)
    (hsame : form = member → layout.tree.isChild form = true →
      (layout.form form).value.reduce intent = (layout.form form).value) :
    (layout.changeForm form intent).Recorded tracked member := by
  have hsome := (hsound.wf.linked.formAround_spec haround).2
  have htree : (layout.changeForm form intent).tree = layout.tree :=
    (hsound.change hsome intent).tree_eq
  intro around key' haround' hkey'
  rw [htree] at haround' hkey'
  have hentry : ∀ spec : FormSpec,
      spec.entry ((layout.changeForm form intent).form member).value =
        spec.entry (layout.form member).value := by
    have hgist := hsound.gist_changeForm hsome intent member
    split at hgist
    · next heq =>
      subst heq
      have hchild : layout.tree.isChild form = true := by
        obtain ⟨⟨node, spec⟩, hform⟩ := Option.isSome_iff_exists.mp hsome
        rw [Tree.key?_of_form? hform] at hkey'
        split at hkey'
        · assumption
        · cases hkey'
      rw [hsame rfl hchild, hsound.reporting_eq hsome] at hgist
      exact entry_of_gist hgist
    · exact entry_of_gist hgist
  have hanswers := (hsound.advance_changeForm hsome intent).answers
  rw [share, contribution_congr htree (by rw [hanswers]) hentry]
  have hholds := h around key' haround' hkey'
  have hgist := hsound.gist_changeForm hsome intent around
  split at hgist
  · next heq =>
    subst heq
    have hother : key ≠ key' := fun heq =>
      hne (hdistinct.eq haround' hkey' haround (heq ▸ hkey))
    exact ((hholds.reduce_of_ne htakes hid hother).reporting _).of_gist hgist
  · exact hholds.of_gist hgist

/-- What climbs leaves in the form around its origin what the form makes of it. -/
theorem Climb.holds_around {entry : Option Entry} (hclimb : Climb origin intent layout layout')
    (hsound : layout.Sound) (haround : layout.tree.formAround origin = some form)
    (h : ((layout.form form).value.reduce intent).Holds key entry) :
    (layout'.form form).value.Holds key entry :=
  (h.reporting _).of_gist (hclimb.gist_around hsound haround)

/-- **What climbs keeps records**, but for that of its origin: let all nested forms before the
origin be tracked.

**Proof sketch.** By induction on the climb. The form around the origin keeps its other members as
they were. If it is a nested one and changed, then the form around it takes over what it comes to,
and by the induction hypothesis nothing more happens to records. -/
theorem Climb.recorded (hclimb : Climb origin intent layout layout') (hsound : layout.Sound)
    (hdistinct : layout.tree.HasDistinctKeys) (htakes : allow.takes intent)
    (hid : intent.id? = some key) (hkey : layout.tree.key? origin = some key)
    (htallied : layout.Tallied)
    (htracked : ∀ form, form < origin → layout.tree.isChild form = true → tracked form = true)
    (hne : member ≠ origin) (h : layout.Recorded tracked member) :
    layout'.Recorded tracked member := by
  induction hclimb generalizing key with
  | top _ => exact h
  | stop haround hstop =>
    exact h.changeForm hsound hdistinct htakes hid haround hkey hne fun _ => hstop
  | @pass origin form intent layout layout' node spec haround hform hchild hchanged hclimb ih =>
    obtain ⟨hlt, hsome⟩ := hsound.wf.linked.formAround_spec haround
    have hsound' := hsound.changeForm hsome intent
    have htree : (layout.changeForm form intent).tree = layout.tree :=
      (hsound.change hsome intent).tree_eq
    have htree' := (hclimb.sound hsound').2.trans htree
    have hpassed := spec.takes_passOn htakes ((layout.form form).value.reduce intent)
    have hup := Tree.key?_of_isChild hform hchild
    by_cases heq : member = form
    · subst heq
      intro around key' haround' hkey'
      rw [htree'] at haround' hkey'
      obtain rfl : spec.id = key' := Option.some.inj (hup.symm.trans hkey')
      -- the form around keeps the nested form as it was, and takes over what it comes to
      have hbefore := h around _ haround' hkey'
      rw [share_of_isChild hform hchild (htracked member hlt hchild)] at hbefore
      have hother : ((layout.changeForm member intent).form around).value.gist =
          (layout.form around).value.gist := by
        have hlt' := hsound.wf.linked.formAround_lt haround'
        rw [hsound.gist_changeForm hsome, if_neg (by unfold NodeId at *; omega)]
      have hentry : spec.entry (layout'.form member).value =
          spec.entry ((layout.form member).value.reduce intent) := by
        have hgist := hsound.gist_changeForm hsome intent member
        rw [if_pos rfl] at hgist
        rw [entry_of_gist (hclimb.gist_of_le hsound' (Nat.le_refl _))]
        exact (congrArg spec.entry hgist :)
      rw [share_of_isChild (htree' ▸ hform) (htree' ▸ hchild) (htracked member hlt hchild), hentry]
      exact hclimb.holds_around hsound' (htree ▸ haround')
        (FormState.Holds.passOn htakes (hbefore.of_gist hother))
    · refine ih hsound' (htree ▸ hdistinct) hpassed (spec.id?_passOn _ _) (htree ▸ hup)
        (htallied.changeForm hsound htakes hid haround hkey)
        (fun other hother hnested => htracked other (Nat.lt_trans hother hlt) (htree ▸ hnested))
        heq ?_
      exact h.changeForm hsound hdistinct htakes hid haround hkey hne fun hsame =>
        absurd hsame.symm heq

end Layout

end FormTree

import FormTree.Proofs.Encoding
import FormTree.Proofs.LastWord
import FormTree.Proofs.Layout.Standards
import FormTree.Proofs.RefusedCalls
import FormTree.Proofs.ReportContexts

set_option autoImplicit false

/-!
# Form data loses nothing

A form keeps the entries that contribute to it under their own identifiers, whatever identifiers are
declared: of two inputs of one identifier, the one that was answered last contributes. So the data
of a form never has two siblings of one identifier, and since nested forms contribute their data in
the same way, it has none at any level. Each entry then has a place of its own where the data is
encoded, and nothing that is encoded is lost.

## Main definitions

* `FormTree.FormState.KeepsApart` — a form keeps distinct entries under their own identifiers.
* `FormTree.FormState.TellsApart` — so none takes the place of another in its data.
* `FormTree.Standard.distinct` — all forms of a layout do so, and all data is distinct.

## Main results

* `FormTree.FormState.KeepsApart.reduce` — a change of a form.
* `FormTree.FormState.KeepsApart.isDistinct_entry` — the data of a form is distinct.
* `FormTree.FormState.KeepsApart.member?_children` — each entry has a place of its own.
* `FormTree.Layout.form_data_loses_nothing` — what is encoded can be told apart, and the data of
  every form of an active layout is distinct.
-/

namespace FormTree

/-- What was said to be kept under an identifier came in. -/
lemma FormIntent.eq_input_of_contribution? {id : String} {intent : FormIntent} {entry : Entry}
    (h : intent.contribution? id = some (some entry)) : intent = .input entry := by
  unfold contribution? at h
  split at h
  · obtain ⟨-, hgiven⟩ := Option.ite_none_right_eq_some.mp h
    obtain ⟨heq, -⟩ := Option.filter_eq_some_iff.mp (Option.some.inj hgiven)
    rw [Option.some.inj heq]
  · simp at h
  · cases h

namespace FormState

variable {state : FormState}

/-- Every entry that contributes is kept under its own identifier, and has no two siblings of one
identifier below it. -/
structure KeepsApart (state : FormState) : Prop where
  keyed : ∀ (id : String) entry, state.inputs[id]? = some entry → entry.id = id
  distinct : ∀ (id : String) entry, state.inputs[id]? = some entry → entry.IsDistinct

namespace KeepsApart

lemma of_empty (h : state.inputs = ∅) : state.KeepsApart where
  keyed id entry hentry := by simp [h] at hentry
  distinct id entry hentry := by simp [h] at hentry

/-- **A change of a form keeps entries apart**, if an entry that comes in is distinct. -/
theorem reduce (h : state.KeepsApart) {intent : FormIntent}
    (hintent : ∀ entry, intent = .input entry → entry.IsDistinct) :
    (state.reduce intent).KeepsApart := by
  -- an entry is there after the change because it came in, or because it was there before
  have hinputs : ∀ (id : String) entry, (state.reduce intent).inputs[id]? = some entry →
      intent = .input entry ∧ entry.id = id ∨ state.inputs[id]? = some entry := by
    intro id entry hentry
    rw [inputs_reduce] at hentry
    cases hword : intent.contribution? id with
    | none => exact .inr (by rwa [hword] at hentry)
    | some kept =>
      rw [hword, Option.getD_some] at hentry
      subst hentry
      exact .inl ⟨FormIntent.eq_input_of_contribution? hword,
        (FormIntent.id_of_contribution? hword).1⟩
  constructor
  · intro id entry hentry
    exact (hinputs id entry hentry).elim (·.2) (h.keyed id entry)
  · intro id entry hentry
    exact (hinputs id entry hentry).elim (fun hin => hintent entry hin.1) (h.distinct id entry)

/-- The identifiers of the entries that contribute are distinct. -/
lemma nodup_ids (h : state.KeepsApart) : (state.inputs.values.map (·.id)).Nodup :=
  List.pairwise_map.mpr ((ascending_values h.keyed).imp fun hlt heq => by
    rw [heq] at hlt
    exact String.lt_irrefl _ hlt)

/-- **The data of the form is distinct at every level.** -/
theorem isDistinct_entry (h : state.KeepsApart) (spec : FormSpec) :
    (spec.entry state).IsDistinct := by
  have hchildren : (state.inputs.values.map (·.id)).Nodup ∧
      Entry.AreDistinct state.inputs.values := by
    refine ⟨h.nodup_ids, Entry.areDistinct_iff.mpr fun entry hmem => ?_⟩
    exact h.distinct _ entry ((mem_values_iff h.keyed entry).mp hmem)
  have hdata := spec.isDataOf_entry state
  show (spec.entry state).answer.IsDistinct
  cases hkind : spec.formType with
  | form => rwa [hdata.form hkind, Answer.IsDistinct]
  | nps scoreId => rwa [hdata.nps scoreId hkind, Answer.IsDistinct]

/-- The object that holds the entries has the encoding of each under its identifier. -/
lemma object_values (h : state.KeepsApart) : Json.object (Entry.membersOf state.inputs.values) =
    .obj (state.inputs.map fun _ entry => entry.answer.toJson).toList := by
  have hnames : ((Entry.membersOf state.inputs.values).map (·.1)).Nodup := by
    rw [Entry.names_membersOf]
    exact h.nodup_ids
  have hmaps : Std.ExtTreeMap.ofList (Entry.membersOf state.inputs.values) compare =
      state.inputs.map fun _ entry => entry.answer.toJson := by
    refine Std.ExtTreeMap.ext_getElem? fun id => Option.ext fun value => ?_
    rw [← Std.ExtTreeMap.mem_toList_iff_getElem?_eq_some,
      (Json.perm_toList_ofList hnames).mem_iff, Entry.membersOf_eq_map, List.mem_map,
      Std.ExtTreeMap.getElem?_map, Option.map_eq_some_iff]
    constructor
    · rintro ⟨entry, hmem, heq⟩
      rw [Entry.member_eq, Prod.mk.injEq] at heq
      obtain ⟨rfl, rfl⟩ := heq
      exact ⟨entry, (mem_values_iff h.keyed entry).mp hmem, rfl⟩
    · rintro ⟨entry, hentry, rfl⟩
      obtain rfl := h.keyed id entry hentry
      exact ⟨entry, (mem_values_iff h.keyed entry).mpr hentry, entry.member_eq⟩
  rw [Json.object, hmaps]

/-- **Where the data of the form is encoded, every contributing entry has a place of its own**, and
nothing else has one. -/
theorem member?_children (h : state.KeepsApart) (spec : FormSpec) :
    (spec.entry state).answer.toJson.member? "children" =
      some (.obj (state.inputs.map fun _ entry => entry.answer.toJson).toList) := by
  rw [← h.object_values, Answer.toJson_eq_object]
  refine Json.member?_object (Answer.nodup_names _) ?_
  have hdata := spec.isDataOf_entry state
  cases hkind : spec.formType with
  | form => simp [hdata.form hkind, Answer.members]
  | nps scoreId => simp [hdata.nps scoreId hkind, Answer.members]

end KeepsApart

/-- **No entry takes the place of another**: each contributing entry is kept under its own
identifier, the data of the form, whatever it is declared as, has no two siblings of one identifier
at any level, and where it is encoded, the encoding of each contributing entry stands under its
identifier. -/
structure TellsApart (state : FormState) : Prop where
  keyed : ∀ (id : String) entry, state.inputs[id]? = some entry → entry.id = id
  isDistinct (spec : FormSpec) : (spec.entry state).IsDistinct
  member?_children (spec : FormSpec) : (spec.entry state).answer.toJson.member? "children" =
    some (.obj (state.inputs.map fun _ entry => entry.answer.toJson).toList)

lemma KeepsApart.tellsApart (h : state.KeepsApart) : state.TellsApart :=
  ⟨h.keyed, h.isDistinct_entry, h.member?_children⟩

end FormState

/-- All forms keep entries apart, and all data is distinct; nothing is asked of pagers. -/
def Standard.distinct : Standard where
  form := FormState.KeepsApart
  pager _ _ := True
  entry := Entry.IsDistinct

lemma Standard.isClosed_distinct : Standard.distinct.IsClosed where
  form_empty _ hempty := .of_empty hempty
  form_reduce _ _ h hintent := h.reduce hintent
  entry_form spec _ h := h.isDistinct_entry spec
  entry_input spec answer haccepts := by
    have hkind := InputSpec.accepts_iff.mp haccepts
    show answer.IsDistinct
    cases answer with
    | form _ _ => cases hkind
    | nps _ _ _ => cases hkind
    | _ => trivial
  pager_reduce _ _ _ _ _ := trivial

namespace Layout

/-- **Form data loses nothing that is encoded.** Two pieces of form data, each without two siblings
of one identifier at any level, are encoded in the same way only if they are alike: they have the
same identifiers, kinds, values, scores and response types, and so do the entries of nested forms,
in some order.

Let a layout be activated, with whatever identifiers are declared, and let any calls of the renderer
follow. Then every form, and every state that it ever had, keeps each contributing entry under the
identifier of the entry; its data has no two siblings of one identifier at any level, and where it
is encoded, each contributing entry has its encoding under its identifier. In the same way all the
data that was reported has no two siblings of one identifier, and each entry its encoding.

**Proof sketch.** The kind of an answer can be read from its encoding, and then all that it tells;
where siblings are distinct none of them takes the place of another. A form inserts what comes in
under its own identifier, in place of what was there; what comes in is the data of an input, which
has no entries, or that of a nested form, which keeps its entries apart as well. -/
theorem form_data_loses_nothing :
    (∀ entry other : Entry, entry.IsDistinct → other.IsDistinct → entry.toJson = other.toJson →
      entry.Alike other) ∧
    ∀ (environment : Environment) (spec : Spec) (layout : Layout),
      activate environment spec = .ok layout → ∀ calls : List Call,
      (∀ call ∈ calls, call.isRendererCall = true) →
      (∀ id, ((layout.run calls).form id).Always FormState.TellsApart) ∧
      ∀ report ∈ (layout.run calls).reports, ∀ entry attributes,
        report.event = .formResult entry attributes → entry.IsDistinct ∧
        ∀ child ∈ entry.answer.children, ∃ object, entry.answer.toJson.member? "children" =
          some object ∧ object.member? child.id = some child.answer.toJson := by
  refine ⟨fun entry other h h' heq => (Entry.toJson_eq_iff h h').mp heq, ?_⟩
  intro environment spec layout h calls hcalls
  have hupholds := upholds_run h Standard.isClosed_distinct (fun _ _ _ _ _ => trivial) calls
    fun origin event direction hmem => by cases hcalls _ hmem
  constructor
  · intro id
    have hforms := hupholds.forms id
    exact ⟨hforms.value.tellsApart, fun state hmem => (hforms.history state hmem).tellsApart⟩
  · intro report hmem entry attributes hevent
    have hdistinct : entry.IsDistinct := hupholds.reports report hmem entry (by rw [hevent]; rfl)
    exact ⟨hdistinct, fun child hchild =>
      (Entry.isDistinct_iff.mp hdistinct).exists_member?_children hchild⟩

/-- A form with two inputs and a nested form of one identifier, which an input of the nested form
has as well. -/
def twins : Spec :=
  ⟨.form { id := "twins" }, [], [
    ⟨.input { id := "name", kind := .textInput }, [], []⟩,
    ⟨.input { id := "name", kind := .toggle }, [], []⟩,
    ⟨.form { id := "name", submit := none }, [], [
      ⟨.input { id := "name", kind := .score }, [], []⟩]⟩]⟩

/-- The data of a form with two entries, in one order or in the other. -/
def twinData (isSwapped : Bool) : Entry :=
  let toggle : Entry := ⟨"toggle", .toggle true, true, ∅⟩
  let score : Entry := ⟨"score", .score none, true, ∅⟩
  ⟨"form", .form none (if isSwapped then [score, toggle] else [toggle, score]), !isSwapped, ∅⟩

/-- An input and the one in the nested form are answered. -/
def twinCalls : List Call :=
  [.setAnswer 1 (.textInput (some "Ada")), .setAnswer 4 (.score (some 3))]

/-- Where entries stand in another order, and the form is not valid, the data is encoded in the same
way. And of what has the same identifier the nested form contributes, which was answered last. -/
theorem form_data_loses_nothing_twins :
    ((twinData false).toJson = (twinData true).toJson ∧ (twinData false).Alike (twinData true)) ∧
    ∃ layout : Layout, activate {} twins = .ok layout ∧
      ((layout.run twinCalls).form 0).value.TellsApart ∧
      ((layout.run twinCalls).form 0).value.inputs.values.map (·.answer.typeName) = ["form"] := by
  have hdistinct : ∀ isSwapped, (twinData isSwapped).IsDistinct := by
    intro isSwapped
    cases isSwapped <;>
      simp [twinData, Entry.IsDistinct, Answer.IsDistinct, Entry.AreDistinct]
  have hencoded : (twinData false).toJson = (twinData true).toJson := by decide +kernel
  have hactive : activate {} twins = .ok (build {} (Tree.ofSpec twins)).settle :=
    activate_eq_ok.mpr ⟨by decide, rfl⟩
  have hcalls : ∀ call ∈ twinCalls, call.isRendererCall = true := by decide
  have hvalues : (((build {} (Tree.ofSpec twins)).settle.run twinCalls).form
      0).value.inputs.values.map (·.answer.typeName) = ["form"] := by decide +kernel
  have halike := form_data_loses_nothing.1 _ _ (hdistinct false) (hdistinct true) hencoded
  have hforms := (form_data_loses_nothing.2 {} twins _ hactive twinCalls hcalls).1 0
  exact ⟨⟨hencoded, halike⟩, _, hactive, hforms.value, hvalues⟩

end Layout

end FormTree

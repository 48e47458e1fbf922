import FormTree.Proofs.Layout.Records
import Mathlib.Data.List.Basic

set_option autoImplicit false

/-!
# Recounting

The data of a form can be found without it: by going through the inputs and nested forms whose
nearest form it is, recounting the nested forms likewise, and collecting what there is. A form that
keeps each of its members as it is now, and nothing else, has the data of such a recount.

## Main definitions

* `FormTree.FormState.collect` — a form with the given entries.
* `FormTree.Layout.recount` — the data of a form, collected anew from the answers of the inputs.
* `FormTree.Layout.Aggregates` — every form tallies, and every member is kept as it is now.

## Main results

* `FormTree.FormState.holds_collect` — what is collected is kept.
* `FormTree.Layout.Aggregates.data_eq_recount` — every form has the data of a recount.
-/

namespace FormTree

/-! ## Collecting entries -/

/-- The values of a map, in the order of their keys. -/
theorem values_eq_map_toList {β : Type} (map : Std.ExtTreeMap String β compare) :
    map.values = map.toList.map Prod.snd := by
  have hfold : map.values = map.foldr (fun _ value list => value :: list) [] := by
    obtain ⟨⟨inner⟩⟩ := map
    exact Quotient.inductionOn inner fun _ => rfl
  rw [hfold, Std.ExtTreeMap.foldr_eq_foldr_toList]
  induction map.toList with
  | nil => rfl
  | cons pair list ih => rw [List.foldr_cons, ih, List.map_cons]

namespace FormState

/-- What a form comes to that has nothing but the given entries: it has all their validities, and
the entries that are valid; it is valid itself if there are entries and all are valid; and it asks
for the attribute updates of the valid ones. -/
def collect (blank : FormState) (entries : List Entry) : FormState :=
  let inputs : Std.ExtTreeMap String Entry compare :=
    .ofList ((entries.filter (·.isValid)).map fun entry => (entry.id, entry)) compare
  { blank with
    validity := .ofList (entries.map fun entry => (entry.id, entry.isValid)) compare
    isValid := !entries.isEmpty && entries.all (·.isValid)
    inputs
    attributes := Entry.mergeAttributes inputs.values }

/-- The state but for what does not concern data: the flags, and what is on screen. -/
def data (state : FormState) : FormState :=
  { state with isEnabled := true, isSubmitted := false, isDisplayReported := false, displayed := ∅ }

variable {entries : List Entry} {entry : Entry} {key : String}

/-- Of entries with distinct identifiers, each is found under its own. -/
theorem find?_eq_some_of_mem
    (hdistinct : entries.Pairwise fun a b => a.id ≠ b.id) (hmem : entry ∈ entries) :
    entries.find? (·.id = entry.id) = some entry := by
  induction entries with
  | nil => cases hmem
  | cons first rest ih =>
    obtain ⟨hfirst, hrest⟩ := List.pairwise_cons.mp hdistinct
    rcases List.mem_cons.mp hmem with rfl | hmem
    · simp
    · rw [List.find?_cons_of_neg (by simpa using hfirst entry hmem), ih hrest hmem]

/-- **What is collected is kept**: under each identifier, the entry that has it. -/
theorem holds_collect (blank : FormState)
    (hdistinct : entries.Pairwise fun a b => a.id ≠ b.id) (key : String) :
    (blank.collect entries).Holds key (entries.find? (·.id = key)) := by
  have hvalidity : (entries.map fun entry => (entry.id, entry.isValid)).Pairwise
      fun a b => ¬ compare a.1 b.1 = .eq :=
    List.pairwise_map.mpr (hdistinct.imp fun hne => by simpa using hne)
  have hinputs : ((entries.filter (·.isValid)).map fun entry => (entry.id, entry)).Pairwise
      fun a b => ¬ compare a.1 b.1 = .eq :=
    List.pairwise_map.mpr ((hdistinct.filter _).imp fun hne => by simpa using hne)
  cases hfind : entries.find? (·.id = key) with
  | none =>
    have hnone : ∀ entry ∈ entries, entry.id ≠ key := by simpa using hfind
    constructor
    · exact Std.ExtTreeMap.getElem?_ofList_of_contains_eq_false (by simpa using hnone)
    · exact Std.ExtTreeMap.getElem?_ofList_of_contains_eq_false
        (by simpa using fun entry hmem _ => hnone entry hmem)
  | some entry =>
    have hmem := List.mem_of_find?_eq_some hfind
    obtain rfl : entry.id = key := by simpa using List.find?_some hfind
    constructor
    · exact Std.ExtTreeMap.getElem?_ofList_of_mem (by simp) hvalidity
        (List.mem_map.mpr ⟨entry, hmem, rfl⟩)
    · cases hvalid : entry.isValid with
      | true =>
        rw [Option.filter, if_pos hvalid]
        exact Std.ExtTreeMap.getElem?_ofList_of_mem (by simp) hinputs
          (List.mem_map.mpr ⟨entry, List.mem_filter.mpr ⟨hmem, hvalid⟩, rfl⟩)
      | false =>
        rw [Option.filter, if_neg (by simp [hvalid])]
        refine Std.ExtTreeMap.getElem?_ofList_of_contains_eq_false ?_
        simp only [List.map_map, List.contains_eq_mem, List.mem_map, List.mem_filter,
          decide_eq_false_iff_not, not_exists, not_and]
        rintro other ⟨hother, hvalid'⟩ heq
        have hsame : other = entry := by
          have hfound := find?_eq_some_of_mem hdistinct hother
          rw [show other.id = entry.id from heq, find?_eq_some_of_mem hdistinct hmem] at hfound
          exact (Option.some.inj hfound).symm
        rw [hsame, hvalid] at hvalid'
        cases hvalid'

/-- All that is tracked is valid if and only if all entries are. -/
theorem isValid_collect (blank : FormState)
    (hdistinct : entries.Pairwise fun a b => a.id ≠ b.id) :
    (!(blank.collect entries).validity.isEmpty && (blank.collect entries).validity.values.all id) =
      (blank.collect entries).isValid := by
  have hempty : (blank.collect entries).validity.isEmpty = entries.isEmpty := by
    rw [Bool.eq_iff_iff, Std.ExtTreeMap.isEmpty_iff]
    exact Std.ExtTreeMap.ofList_eq_empty_iff.trans (by simp)
  have hall : (blank.collect entries).validity.values.all id = entries.all (·.isValid) := by
    rw [Bool.eq_iff_iff, List.all_eq_true, List.all_eq_true, values_eq_map_toList]
    constructor
    · intro h entry hmem
      have hholds := (holds_collect blank hdistinct entry.id).validity
      rw [find?_eq_some_of_mem hdistinct hmem] at hholds
      exact h _ (List.mem_map.mpr ⟨(entry.id, entry.isValid),
        Std.ExtTreeMap.mem_toList_iff_getElem?_eq_some.mpr hholds, rfl⟩)
    · intro h valid hvalid
      obtain ⟨⟨key, valid⟩, hmem, rfl⟩ := List.mem_map.mp hvalid
      have hheld := Std.ExtTreeMap.mem_toList_iff_getElem?_eq_some.mp hmem
      rw [(holds_collect blank hdistinct key).validity] at hheld
      obtain ⟨entry, hfind, rfl⟩ := Option.map_eq_some_iff.mp hheld
      exact h entry (List.mem_of_find?_eq_some hfind)
  rw [hempty, hall]
  rfl

/-- A form that tallies and keeps the given entries has the data that is collected from them. -/
theorem Tallies.data_eq_collect {tree : Tree} {form : NodeId} {state blank : FormState}
    (h : state.Tallies tree form) (hdistinct : entries.Pairwise fun a b => a.id ≠ b.id)
    (hholds : ∀ key, state.Holds key (entries.find? (·.id = key)))
    (hidentifier : state.identifier = blank.identifier) (htype : state.formType = blank.formType)
    (hresponse : state.responseType = blank.responseType) :
    state.data = (blank.collect entries).data := by
  have hvalidity : state.validity = (blank.collect entries).validity :=
    Std.ExtTreeMap.ext_getElem? fun key => by
      rw [(hholds key).validity, (holds_collect blank hdistinct key).validity]
  have hinputs : state.inputs = (blank.collect entries).inputs :=
    Std.ExtTreeMap.ext_getElem? fun key => by
      rw [(hholds key).inputs, (holds_collect blank hdistinct key).inputs]
  have hvalid : state.isValid = (blank.collect entries).isValid := by
    rw [h.isValid, hvalidity, isValid_collect blank hdistinct]
  have hattributes : state.attributes = (blank.collect entries).attributes := by
    rw [h.attributes, hinputs]
    rfl
  calc state.data = { blank.data with
        identifier := state.identifier, formType := state.formType
        responseType := state.responseType, validity := state.validity, isValid := state.isValid
        inputs := state.inputs, attributes := state.attributes } := rfl
    _ = (blank.collect entries).data := by
      rw [hidentifier, htype, hresponse, hvalidity, hvalid, hinputs, hattributes]
      rfl

end FormState

/-! ## Recounting -/

/-- The nodes whose nearest form is the form `id`. -/
def Tree.members (tree : Tree) (id : NodeId) : List NodeId :=
  tree.ids.filter fun member => id < member && tree.formAround member = some id

/-- The form `id` as it is declared, without any data. -/
def Tree.blank (tree : Tree) (id : NodeId) : FormState :=
  match tree.form? id with
  | some (_, spec) => .start spec.id spec.formType spec.responseType
  | none => {}

theorem Tree.lt_of_mem_members {tree : Tree} {id member : NodeId} (h : member ∈ tree.members id) :
    id < member ∧ member < tree.size := by
  obtain ⟨hids, hmember⟩ := List.mem_filter.mp h
  rw [Bool.and_eq_true, decide_eq_true_eq] at hmember
  exact ⟨hmember.1, List.mem_range.mp hids⟩

namespace Layout

/-- The data of the form `id`, collected anew: from the answers of the tracked inputs whose nearest
form it is, and from the nested forms whose nearest form it is, recounted likewise. -/
def recount (layout : Layout) (tracked : NodeId → Bool) (id : NodeId) : FormState :=
  (layout.tree.blank id).collect <| (layout.tree.members id).attach.filterMap fun member =>
    match layout.tree.view? member.val with
    | some (.input spec) =>
      if tracked member.val then some (spec.entry (layout.answers.get member.val)) else none
    | some (.form spec) =>
      if spec.isChild then some (spec.entry (layout.recount tracked member.val)) else none
    | _ => none
termination_by layout.tree.size - id
decreasing_by
  have hmember := Tree.lt_of_mem_members member.property
  unfold NodeId at *
  omega

variable {layout layout' : Layout} {tracked : NodeId → Bool} {id form member origin : NodeId}
  {key : String} {intent : FormIntent} {entry : Entry}

/-- What a recount collects of the node `id`. -/
def recountedShare (layout : Layout) (tracked : NodeId → Bool) (id : NodeId) : Option Entry :=
  match layout.tree.view? id with
  | some (.input spec) => if tracked id then some (spec.entry (layout.answers.get id)) else none
  | some (.form spec) =>
    if spec.isChild then some (spec.entry (layout.recount tracked id)) else none
  | _ => none

theorem recount_eq (layout : Layout) (tracked : NodeId → Bool) (id : NodeId) :
    layout.recount tracked id = (layout.tree.blank id).collect
      ((layout.tree.members id).filterMap (layout.recountedShare tracked)) := by
  rw [recount]
  congr 1
  rw [List.filterMap_subtype (g := layout.recountedShare tracked) fun _ _ => rfl,
    List.unattach_attach]

/-- Every form tallies, every member is kept as it is now, and all nested forms are tracked. -/
structure Aggregates (tracked : NodeId → Bool) (layout : Layout) : Prop where
  tallied : layout.Tallied
  recorded : ∀ member, layout.Recorded tracked member
  nested : ∀ form, layout.tree.isChild form = true → tracked form = true

/-- The share of a member has its identifier. -/
theorem key?_of_share (hshare : layout.share tracked id = some entry) :
    layout.tree.key? id = some entry.id := by
  unfold share contribution at hshare
  split at hshare
  · split at hshare
    · next spec hview =>
      cases hshare
      exact Tree.key?_of_input? (Tree.input?_eq_some.mpr hview)
    · next spec hview =>
      split at hshare
      · next hchild =>
        cases hshare
        obtain ⟨node, hnode, hform⟩ := Option.map_eq_some_iff.mp hview
        have hspec := Tree.form?_eq_some.mpr ⟨hnode, hform⟩
        exact Tree.key?_of_isChild hspec ((Tree.isChild_of_form? hspec).trans hchild)
      · cases hshare
    · cases hshare
  · cases hshare

theorem mem_members (hlinked : layout.tree.Linked) :
    member ∈ layout.tree.members id ↔ layout.tree.formAround member = some id := by
  unfold Tree.members
  rw [List.mem_filter, Bool.and_eq_true, decide_eq_true_eq, decide_eq_true_eq]
  constructor
  · exact fun h => h.2.2
  · exact fun h => ⟨Tree.mem_ids_of_formAround h, hlinked.formAround_lt h, h⟩

/-- The shares of the members of a form. -/
def shares (layout : Layout) (tracked : NodeId → Bool) (id : NodeId) : List Entry :=
  (layout.tree.members id).filterMap (layout.share tracked)

theorem pairwise_shares (hlinked : layout.tree.Linked)
    (hdistinct : layout.tree.HasDistinctKeys) (tracked : NodeId → Bool) (id : NodeId) :
    (layout.shares tracked id).Pairwise fun a b => a.id ≠ b.id := by
  have hnodup : (layout.tree.members id).Pairwise (· ≠ ·) := List.nodup_range.filter _
  refine List.pairwise_filterMap.mpr (hnodup.imp_of_mem ?_)
  intro member other hmember hother hne entry hentry entry' hentry' heq
  have hkey := key?_of_share hentry
  rw [heq] at hkey
  exact hne (hdistinct.eq ((mem_members hlinked).mp hmember) hkey ((mem_members hlinked).mp hother)
    (key?_of_share hentry'))

/-- A form keeps the shares of its members. -/
theorem Aggregates.holds_shares (h : Aggregates tracked layout) (hlinked : layout.tree.Linked)
    (hform : (layout.tree.form? id).isSome) (key : String) :
    (layout.form id).value.Holds key ((layout.shares tracked id).find? (·.id = key)) := by
  cases hfind : (layout.shares tracked id).find? (·.id = key) with
  | some entry =>
    obtain ⟨member, hmember, hshare⟩ := List.mem_filterMap.mp (List.mem_of_find?_eq_some hfind)
    obtain rfl : entry.id = key := by simpa using List.find?_some hfind
    have hholds := h.recorded member id entry.id ((mem_members hlinked).mp hmember)
      (key?_of_share hshare)
    rwa [hshare] at hholds
  | none =>
    rcases (h.tallied id hform).members key with hnone | ⟨member, haround, hkey⟩
    · exact hnone
    · have hholds := h.recorded member id key haround hkey
      cases hshare : layout.share tracked member with
      | none => rwa [hshare] at hholds
      | some entry =>
        have hid := key?_of_share hshare
        rw [hkey] at hid
        have hmem : entry ∈ layout.shares tracked id :=
          List.mem_filterMap.mpr ⟨member, (mem_members hlinked).mpr haround, hshare⟩
        have hnot := List.find?_eq_none.mp hfind entry hmem
        simp [Option.some.inj hid] at hnot

/-- What a recount collects is what there is to share. -/
theorem Aggregates.recountedShare_eq (h : Aggregates tracked layout)
    (hdata : (layout.tree.form? member).isSome →
      (layout.form member).value.data = (layout.recount tracked member).data) :
    layout.recountedShare tracked member = layout.share tracked member := by
  unfold recountedShare share contribution
  cases hview : layout.tree.view? member with
  | none => simp
  | some view =>
    cases view with
    | form spec =>
      obtain ⟨node, hnode, hspec⟩ := Option.map_eq_some_iff.mp hview
      have hentry : spec.entry (layout.form member).value =
          spec.entry (layout.recount tracked member) :=
        (congrArg spec.entry (hdata (Tree.isSome_form? hnode hspec)) :)
      cases hchild : spec.isChild with
      | false => simp [hchild]
      | true =>
        have hnested : layout.tree.isChild member = true :=
          (Tree.isChild_of_form? (Tree.form?_eq_some.mpr ⟨hnode, hspec⟩)).trans hchild
        simp [hchild, h.nested member hnested, hentry]
    | _ => simp

/-- **Every form has the data of a recount.**

**Proof sketch.** By induction on the number of nodes behind the form: the nested forms among its
members have the data of a recount, so what a recount collects are the shares of the members, and
these are what the form keeps. -/
theorem Aggregates.data_eq_recount (h : Aggregates tracked layout) (hlinked : layout.tree.Linked)
    (hdistinct : layout.tree.HasDistinctKeys) : ∀ (bound : Nat) (id : NodeId),
    layout.tree.size - id ≤ bound → (layout.tree.form? id).isSome →
    (layout.form id).value.data = (layout.recount tracked id).data := by
  intro bound
  induction bound with
  | zero =>
    intro id hbound hform
    have := Tree.lt_size_of_form? hform
    unfold NodeId at *
    omega
  | succ bound ih =>
    intro id hbound hform
    have hcollected : (layout.tree.members id).filterMap (layout.recountedShare tracked) =
        layout.shares tracked id := by
      refine List.filterMap_congr fun member hmember => h.recountedShare_eq fun hsome => ?_
      have hlt := Tree.lt_of_mem_members hmember
      exact ih member (by unfold NodeId at *; omega) hsome
    obtain ⟨⟨node, spec⟩, hspec⟩ := Option.isSome_iff_exists.mp hform
    obtain ⟨hidentifier, htype, hresponse⟩ := (h.tallied id hform).declared node spec hspec
    have hblank : layout.tree.blank id = .start spec.id spec.formType spec.responseType := by
      rw [Tree.blank, hspec]
    rw [recount_eq, hcollected, hblank]
    exact (h.tallied id hform).data_eq_collect
      (pairwise_shares hlinked hdistinct tracked id) (h.holds_shares hlinked hform)
      hidentifier htype hresponse

end Layout

end FormTree

import FormTree.Proofs.Recount
import Mathlib.Data.List.DropRight

set_option autoImplicit false

/-!
# Last words

The state of a form is built up change by change, and some of what it keeps is derived from the
rest and brought up to date by some of the changes only. All the same, nothing but the last word on
each identifier matters: under every identifier the form keeps what was last said of it, and what
is derived follows from that.

## Main definitions

* `FormTree.FormIntent.validity?`, `FormTree.FormIntent.contribution?`,
  `FormTree.FormIntent.showing?` — what a change says of an identifier.
* `FormTree.FormIntent.enabling?` — what a change says of the form's enabled flag.
* `FormTree.FormState.LastWords` — a state in which every last word counts, and nothing else.

## Main results

* `FormTree.findSomeRev?_foldl` — what every step overwrites or leaves is the last word.
* `FormTree.FormState.lastWords_iff` — a form that went through some changes is in the state that
  the last words tell, and in no other.
-/

namespace FormTree

/-! ## What was said last -/

section

variable {α β σ : Type}

/-- What the last element says comes before all that was said earlier. -/
theorem findSomeRev?_concat (word : α → Option β) (list : List α) (last : α) :
    (list ++ [last]).findSomeRev? word = (word last).or (list.findSomeRev? word) := by
  rw [List.findSomeRev?_eq_findSome?_reverse, List.findSomeRev?_eq_findSome?_reverse,
    List.reverse_concat, List.findSome?_cons]
  cases word last <;> rfl

/-- **What every step overwrites or leaves is the last word.** -/
theorem findSomeRev?_foldl (step : σ → α → σ) (read : σ → β) (word : α → Option β)
    (hstep : ∀ state a, read (step state a) = (word a).getD (read state)) (list : List α)
    (state : σ) :
    read (list.foldl step state) = (list.findSomeRev? word).getD (read state) := by
  induction list using List.reverseRecOn with
  | nil => rfl
  | append_singleton list last ih =>
    rw [List.foldl_concat, hstep, ih, findSomeRev?_concat]
    cases word last <;> rfl

end

/-! ## The words of a change -/

namespace FormIntent

/-- What a change says of the validity kept under `id`: a flag, or that there is none any more. -/
def validity? (id : String) : FormIntent → Option (Option Bool)
  | .track key isValid => if key = id then some (some isValid) else none
  | .input entry => if entry.id = id then some (some entry.isValid) else none
  | .withdraw key => if key = id then some none else none
  | _ => none

/-- What a change says of the entry kept under `id`: itself, if it is valid, or that there is
none. -/
def contribution? (id : String) : FormIntent → Option (Option Entry)
  | .input entry => if entry.id = id then some ((some entry).filter (·.isValid)) else none
  | .withdraw key => if key = id then some none else none
  | _ => none

/-- What a change says of `id` being on screen. -/
def showing? (id : String) : FormIntent → Option Bool
  | .display key isDisplayed => if key = id then some isDisplayed else none
  | .withdraw key => if key = id then some false else none
  | _ => none

/-- The enabled flag that a change gives to the form. -/
def enabling? : FormIntent → Option Bool
  | .setEnabled isEnabled => some isEnabled
  | _ => none

/-- An entry that was said to be kept under an identifier is valid, and has that identifier. -/
theorem id_of_contribution? {id : String} {intent : FormIntent} {entry : Entry}
    (h : intent.contribution? id = some (some entry)) : entry.id = id ∧ entry.isValid = true := by
  unfold contribution? at h
  split at h
  · next given =>
    obtain ⟨hid, hgiven⟩ := Option.ite_none_right_eq_some.mp h
    obtain ⟨heq, hvalid⟩ := Option.filter_eq_some_iff.mp (Option.some.inj hgiven)
    obtain rfl : given = entry := Option.some.inj heq
    exact ⟨hid, hvalid⟩
  · next => simp at h
  · cases h

end FormIntent

namespace FormState

variable {identifier : String} {formType : FormType} {responseType : Option String}
  {intents : List FormIntent} {state other : FormState}

/-! ## One change -/

theorem validity_reduce (id : String) (state : FormState) (intent : FormIntent) :
    (state.reduce intent).validity[id]? = (intent.validity? id).getD state.validity[id]? := by
  cases intent with
  | track key isValid =>
    by_cases heq : key = id <;>
      simp [reduce, track, recompute, FormIntent.validity?, Std.ExtTreeMap.getElem?_insert, heq]
  | input entry =>
    by_cases heq : entry.id = id <;>
      simp [reduce, putEntry, recompute, FormIntent.validity?, Std.ExtTreeMap.getElem?_insert, heq]
  | withdraw key =>
    by_cases heq : key = id <;>
      simp [reduce, withdraw, recompute, FormIntent.validity?, Std.ExtTreeMap.getElem?_erase, heq]
  | _ => rfl

theorem inputs_reduce (id : String) (state : FormState) (intent : FormIntent) :
    (state.reduce intent).inputs[id]? = (intent.contribution? id).getD state.inputs[id]? := by
  cases intent with
  | input entry =>
    cases hvalid : entry.isValid <;> by_cases heq : entry.id = id <;>
      simp [reduce, putEntry, recompute, FormIntent.contribution?, Std.ExtTreeMap.getElem?_insert,
        Std.ExtTreeMap.getElem?_erase, hvalid, heq, Option.filter]
  | withdraw key =>
    by_cases heq : key = id <;>
      simp [reduce, withdraw, recompute, FormIntent.contribution?, Std.ExtTreeMap.getElem?_erase,
        heq]
  | _ => rfl

theorem displayed_reduce (id : String) (state : FormState) (intent : FormIntent) :
    (state.reduce intent).displayed.contains id =
      (intent.showing? id).getD (state.displayed.contains id) := by
  cases intent with
  | display key isDisplayed =>
    cases isDisplayed <;> by_cases heq : key = id <;>
      simp [reduce, display, FormIntent.showing?, Std.ExtTreeSet.contains_insert,
        Std.ExtTreeSet.contains_erase, heq]
  | withdraw key =>
    by_cases heq : key = id <;>
      simp [reduce, withdraw, recompute, FormIntent.showing?, Std.ExtTreeSet.contains_erase, heq]
  | input entry =>
    cases hvalid : entry.isValid <;> simp [reduce, putEntry, recompute, FormIntent.showing?]
  | _ => rfl

/-- A change leaves the form what it is. -/
theorem identity_reduce (state : FormState) (intent : FormIntent) :
    (state.reduce intent).identifier = state.identifier ∧
      (state.reduce intent).formType = state.formType ∧
      (state.reduce intent).responseType = state.responseType := by
  cases intent <;> exact ⟨rfl, rfl, rfl⟩

/-- **Attribute updates are merged in order**: of several entries that ask for one, the last one has
its way. -/
theorem getElem?_mergeAttributes (entries : List Entry) (name : AttributeName) :
    (Entry.mergeAttributes entries)[name]? = entries.findSomeRev? (·.attributes[name]?) := by
  induction entries using List.reverseRecOn with
  | nil => simp [Entry.mergeAttributes]
  | append_singleton entries entry ih =>
    have hmerge : Entry.mergeAttributes (entries ++ [entry]) =
        (Entry.mergeAttributes entries).insertMany entry.attributes.toList := by
      simp [Entry.mergeAttributes, Std.ExtTreeMap.ofList_eq_insertMany_empty,
        Std.ExtTreeMap.insertMany_append]
    rw [hmerge, findSomeRev?_concat, ← ih]
    cases hname : entry.attributes[name]? with
    | some value =>
      exact Std.ExtTreeMap.getElem?_insertMany_list_of_mem Std.ReflCmp.compare_self
        Std.ExtTreeMap.distinct_keys_toList
        (Std.ExtTreeMap.mem_toList_iff_getElem?_eq_some.mpr hname)
    | none =>
      refine Std.ExtTreeMap.getElem?_insertMany_list_of_contains_eq_false ?_
      simpa using hname

/-! ## Changes one after another -/

/-- A state in which every last word counts, and nothing else: that of a form declared with the
given identifier, kind and response type, after the given changes. -/
structure LastWords (identifier : String) (formType : FormType) (responseType : Option String)
    (intents : List FormIntent) (state : FormState) : Prop where
  /-- The form is what it was declared as. -/
  identity : state.identifier = identifier ∧ state.formType = formType ∧
    state.responseType = responseType
  /-- An identifier has the validity that was given to it last, if it was not withdrawn since. -/
  validity (id : String) :
    state.validity[id]? = (intents.findSomeRev? (·.validity? id)).join
  /-- An identifier has the entry that was given last, if that is valid and was not withdrawn. -/
  inputs (id : String) :
    state.inputs[id]? = (intents.findSomeRev? (·.contribution? id)).join
  /-- An identifier is on screen if that was said last. -/
  displayed (id : String) :
    id ∈ state.displayed ↔ intents.findSomeRev? (·.showing? id) = some true
  /-- The form is valid if it tracks something, and nothing that is not valid. -/
  isValid : state.isValid = true ↔ state.validity ≠ ∅ ∧
    ∀ (id : String) (flag : Bool), state.validity[id]? = some flag → flag = true
  /-- Every entry is kept under its own identifier. -/
  mem_values (entry : Entry) :
    entry ∈ state.inputs.values ↔ state.inputs[entry.id]? = some entry
  /-- The entries stand in the order of their identifiers. -/
  ascending : state.inputs.values.Pairwise fun entry later => entry.id < later.id
  /-- Of the entries that ask for an attribute update, the last one has its way. -/
  attributes (name : AttributeName) :
    state.attributes[name]? = state.inputs.values.findSomeRev? (·.attributes[name]?)
  /-- The form is submitted if it ever was, itself or along with the form around it. -/
  isSubmitted : state.isSubmitted = true ↔
    .submit ∈ intents ∨ ∃ isEnabled, .inherit true isEnabled ∈ intents
  /-- Its display has been reported if it ever was. -/
  isDisplayReported : state.isDisplayReported = true ↔ .displayReported ∈ intents
  /-- It is enabled if it was set so last, or never set, and not disabled along with the form
  around it since. -/
  isEnabled : state.isEnabled = true ↔ (intents.findSomeRev? (·.enabling?)).getD true = true ∧
    ∀ isSubmitted isEnabled, .inherit isSubmitted isEnabled ∈
      intents.rtakeWhile (·.enabling?.isNone) → isEnabled = true
  /-- The data of a form so declared has its identifier, an answer of its kind with its response
  type and the entries, its validity and its updates. -/
  data (spec : FormSpec) : spec.id = identifier → spec.formType = formType →
    spec.responseType = responseType →
    (spec.entry state).IsDataOf { id := identifier, formType, responseType } state

/-- **What a form takes part in since it was last enabled or disabled** decides whether it is
enabled: every change of the form around it that came since must leave it so. -/
theorem isEnabled_foldl (intents : List FormIntent) (state : FormState) :
    (intents.foldl reduce state).isEnabled = true ↔
      (intents.findSomeRev? (·.enabling?)).getD state.isEnabled = true ∧
        ∀ isSubmitted isEnabled, .inherit isSubmitted isEnabled ∈
          intents.rtakeWhile (·.enabling?.isNone) → isEnabled = true := by
  induction intents using List.reverseRecOn with
  | nil => simp
  | append_singleton intents intent ih =>
    rw [List.foldl_concat, findSomeRev?_concat]
    cases intent with
    | setEnabled isEnabled =>
      -- what came before does not matter any more
      rw [List.rtakeWhile_concat_neg _ _ _ (by simp [FormIntent.enabling?])]
      simp [reduce, FormIntent.enabling?]
    | inherit isSubmitted isEnabled =>
      rw [List.rtakeWhile_concat_pos _ _ _ (by simp [FormIntent.enabling?])]
      simp only [reduce, FormIntent.enabling?, Option.none_or, Bool.and_eq_true, ih,
        List.mem_append, List.mem_singleton, FormIntent.inherit.injEq]
      constructor
      · rintro ⟨⟨hset, hbefore⟩, hlast⟩
        refine ⟨hset, fun submitted enabled hmem => ?_⟩
        rcases hmem with hmem | ⟨_, rfl⟩
        · exact hbefore submitted enabled hmem
        · exact hlast
      · rintro ⟨hset, hall⟩
        exact ⟨⟨hset, fun submitted enabled hmem => hall submitted enabled (.inl hmem)⟩,
          hall isSubmitted isEnabled (.inr ⟨rfl, rfl⟩)⟩
    | _ =>
      rw [List.rtakeWhile_concat_pos _ _ _ (by simp [FormIntent.enabling?])]
      simpa [reduce, track, putEntry, withdraw, display, recompute, FormIntent.enabling?] using ih

theorem isSubmitted_foldl (intents : List FormIntent) (state : FormState) :
    (intents.foldl reduce state).isSubmitted = true ↔ state.isSubmitted = true ∨
      .submit ∈ intents ∨ ∃ isEnabled, .inherit true isEnabled ∈ intents := by
  induction intents using List.reverseRecOn with
  | nil => simp
  | append_singleton intents intent ih =>
    rw [List.foldl_concat]
    cases intent with
    | submit => simp [reduce]
    | inherit isSubmitted isEnabled =>
      cases isSubmitted with
      | false => simpa [reduce] using ih
      | true => simp [reduce]
    | _ => simpa [reduce, track, putEntry, withdraw, display, recompute] using ih

theorem isDisplayReported_foldl (intents : List FormIntent) (state : FormState) :
    (intents.foldl reduce state).isDisplayReported = true ↔
      state.isDisplayReported = true ∨ .displayReported ∈ intents := by
  induction intents using List.reverseRecOn with
  | nil => simp
  | append_singleton intents intent ih =>
    rw [List.foldl_concat]
    cases intent with
    | displayReported => simp [reduce]
    | _ => simpa [reduce, track, putEntry, withdraw, display, recompute] using ih

/-- The flag of a form and its attribute updates follow from what it keeps. -/
def IsCurrent (state : FormState) : Prop :=
  state.isValid = (!state.validity.isEmpty && state.validity.values.all id) ∧
    state.attributes = Entry.mergeAttributes state.inputs.values

theorem isCurrent_start : (start identifier formType responseType).IsCurrent :=
  ⟨by simp [start], rfl⟩

/-- A change that writes what the flag or the updates follow from brings them up to date. -/
theorem IsCurrent.reduce (h : state.IsCurrent) (intent : FormIntent) :
    (state.reduce intent).IsCurrent := by
  cases intent <;> first | exact h | exact ⟨rfl, rfl⟩

theorem IsCurrent.foldl (h : state.IsCurrent) (intents : List FormIntent) :
    (intents.foldl FormState.reduce state).IsCurrent := by
  induction intents generalizing state with
  | nil => exact h
  | cons intent intents ih => exact ih (h.reduce intent)

theorem IsCurrent.isValid_iff (h : state.IsCurrent) : state.isValid = true ↔
    state.validity ≠ ∅ ∧
      ∀ (id : String) (flag : Bool), state.validity[id]? = some flag → flag = true := by
  rw [h.1, Bool.and_eq_true, Bool.not_eq_true', Bool.eq_false_iff, ne_eq,
    Std.ExtTreeMap.isEmpty_iff, values_eq_map_toList]
  simp

theorem identity_foldl (intents : List FormIntent) (state : FormState) :
    (intents.foldl reduce state).identifier = state.identifier ∧
      (intents.foldl reduce state).formType = state.formType ∧
      (intents.foldl reduce state).responseType = state.responseType := by
  induction intents generalizing state with
  | nil => exact ⟨rfl, rfl, rfl⟩
  | cons intent intents ih =>
    obtain ⟨hidentifier, htype, hresponse⟩ := identity_reduce state intent
    rw [List.foldl_cons, ← hidentifier, ← htype, ← hresponse]
    exact ih (state.reduce intent)

theorem validity_foldl (intents : List FormIntent) (id : String) :
    (intents.foldl reduce (start identifier formType responseType)).validity[id]? =
      (intents.findSomeRev? (·.validity? id)).join := by
  rw [findSomeRev?_foldl reduce (·.validity[id]?) (·.validity? id) (validity_reduce id)]
  cases intents.findSomeRev? (·.validity? id) <;> simp [start]

theorem inputs_foldl (intents : List FormIntent) (id : String) :
    (intents.foldl reduce (start identifier formType responseType)).inputs[id]? =
      (intents.findSomeRev? (·.contribution? id)).join := by
  rw [findSomeRev?_foldl reduce (·.inputs[id]?) (·.contribution? id) (inputs_reduce id)]
  cases intents.findSomeRev? (·.contribution? id) <;> simp [start]

theorem mem_displayed_foldl (intents : List FormIntent) (id : String) :
    id ∈ (intents.foldl reduce (start identifier formType responseType)).displayed ↔
      intents.findSomeRev? (·.showing? id) = some true := by
  rw [← Std.ExtTreeSet.contains_iff_mem,
    findSomeRev?_foldl reduce (·.displayed.contains id) (·.showing? id) (displayed_reduce id)]
  cases intents.findSomeRev? (·.showing? id) <;> simp [start]

/-- Every entry is kept under its own identifier. -/
theorem id_of_inputs_foldl {id : String} {entry : Entry}
    (h : (intents.foldl reduce (start identifier formType responseType)).inputs[id]? =
      some entry) : entry.id = id := by
  rw [inputs_foldl, List.findSomeRev?_eq_findSome?_reverse] at h
  obtain ⟨intent, _, hword⟩ := List.exists_of_findSome?_eq_some (Option.join_eq_some_iff.mp h)
  exact (FormIntent.id_of_contribution? hword).1

/-- The entries of a form, if each of them is kept under its own identifier. -/
theorem mem_values_iff
    (hkeyed : ∀ (id : String) entry, state.inputs[id]? = some entry → entry.id = id)
    (entry : Entry) : entry ∈ state.inputs.values ↔ state.inputs[entry.id]? = some entry := by
  rw [values_eq_map_toList, List.mem_map]
  constructor
  · rintro ⟨⟨id, kept⟩, hmem, rfl⟩
    have hkept := Std.ExtTreeMap.mem_toList_iff_getElem?_eq_some.mp hmem
    obtain rfl : kept.id = id := hkeyed id kept hkept
    exact hkept
  · intro h
    exact ⟨(entry.id, entry), Std.ExtTreeMap.mem_toList_iff_getElem?_eq_some.mpr h, rfl⟩

/-- The entries of a form stand in the order of their identifiers, if each of them is kept under its
own. -/
theorem ascending_values
    (hkeyed : ∀ (id : String) entry, state.inputs[id]? = some entry → entry.id = id) :
    state.inputs.values.Pairwise fun entry later => entry.id < later.id := by
  rw [values_eq_map_toList, List.pairwise_map]
  refine Std.ExtTreeMap.ordered_keys_toList.imp_of_mem fun {first second} hfirst hsecond hlt => ?_
  have hid := hkeyed _ _ (Std.ExtTreeMap.mem_toList_iff_getElem?_eq_some.mp hfirst)
  have hid' := hkeyed _ _ (Std.ExtTreeMap.mem_toList_iff_getElem?_eq_some.mp hsecond)
  rw [hid, hid']
  exact compareOfLessAndEq_eq_lt.mp hlt

/-- A form that went through some changes is in the state that the last words tell. -/
theorem lastWords_foldl (identifier : String) (formType : FormType) (responseType : Option String)
    (intents : List FormIntent) :
    (intents.foldl reduce (start identifier formType responseType)).LastWords identifier formType
      responseType intents := by
  have hcurrent : (intents.foldl reduce (start identifier formType responseType)).IsCurrent :=
    isCurrent_start.foldl intents
  have hidentity := identity_foldl intents (start identifier formType responseType)
  have hkeyed (id : String) (entry : Entry)
      (h : (intents.foldl reduce (start identifier formType responseType)).inputs[id]? =
        some entry) : entry.id = id :=
    id_of_inputs_foldl h
  exact
    { identity := hidentity
      validity := validity_foldl intents
      inputs := inputs_foldl intents
      displayed := mem_displayed_foldl intents
      isValid := hcurrent.isValid_iff
      mem_values := mem_values_iff hkeyed
      ascending := ascending_values hkeyed
      attributes := fun name => by rw [hcurrent.2, getElem?_mergeAttributes]
      isSubmitted := by simp [isSubmitted_foldl, start]
      isDisplayReported := by simp [isDisplayReported_foldl, start]
      isEnabled := isEnabled_foldl intents _
      data := by
        rintro spec rfl rfl rfl
        exact { spec.isDataOf_entry _ with } }

/-- The last words tell all about a state. -/
theorem LastWords.eq (h : state.LastWords identifier formType responseType intents)
    (hother : other.LastWords identifier formType responseType intents) : state = other := by
  obtain ⟨hidentifier, htype, hresponse⟩ := h.identity
  obtain ⟨hidentifier', htype', hresponse'⟩ := hother.identity
  have hvalidity : state.validity = other.validity :=
    Std.ExtTreeMap.ext_getElem? fun id => by rw [h.validity, hother.validity]
  have hinputs : state.inputs = other.inputs :=
    Std.ExtTreeMap.ext_getElem? fun id => by rw [h.inputs, hother.inputs]
  have hdisplayed : state.displayed = other.displayed :=
    Std.ExtTreeSet.ext_mem fun id => by rw [h.displayed, hother.displayed]
  have hattributes : state.attributes = other.attributes :=
    Std.ExtTreeMap.ext_getElem? fun name => by rw [h.attributes, hother.attributes, hinputs]
  have hvalid : state.isValid = other.isValid := by
    rw [Bool.eq_iff_iff, h.isValid, hother.isValid, hvalidity]
  have hsubmitted : state.isSubmitted = other.isSubmitted := by
    rw [Bool.eq_iff_iff, h.isSubmitted, hother.isSubmitted]
  have hreported : state.isDisplayReported = other.isDisplayReported := by
    rw [Bool.eq_iff_iff, h.isDisplayReported, hother.isDisplayReported]
  have henabled : state.isEnabled = other.isEnabled := by
    rw [Bool.eq_iff_iff, h.isEnabled, hother.isEnabled]
  cases state
  cases other
  simp_all

/-- **Nothing but the last words matters.** A form that went through some changes is in the state
that the last words tell, and in no other. Under every identifier it keeps the validity that was
given last and the entry that was given last, unless that is not valid or was withdrawn since; an
identifier is on screen if that was said last. The form is valid if it tracks something and all of
it is valid, it asks for the updates of its entries in the order of their identifiers, submission
and the report of its display stay, and it is enabled if it was set so last and the form around it
did not forbid it since.

**Proof sketch.** What a form keeps under an identifier, every change overwrites or leaves, so it is
the last word. Its flag and its updates are up to date at the start, and every change leaves what
they follow from or brings them up to date; entries stand under their own identifiers, so their
order is that of the identifiers. The other flags go by induction on the changes. Conversely, two
states that agree with the same words agree in every part. -/
theorem lastWords_iff (identifier : String) (formType : FormType) (responseType : Option String)
    (intents : List FormIntent) (state : FormState) :
    state.LastWords identifier formType responseType intents ↔
      state = intents.foldl reduce (start identifier formType responseType) := by
  have hrun := lastWords_foldl identifier formType responseType intents
  constructor
  · intro h
    exact h.eq hrun
  · rintro rfl
    exact hrun

end FormState

end FormTree

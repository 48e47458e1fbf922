import FormTree.Context
import FormTree.Spec

set_option autoImplicit false

/-!
# Form states

What a form knows about its inputs and nested forms, and how it changes.

A form remembers the latest validity of everything it tracks, and the entries of what is valid:
an entry that turns invalid is dropped rather than kept with a flag. The form's own validity and
its attribute updates are recomputed from those two. What the form says of itself where it stands
for its data, its identifier, kind and response type, is what it is declared as.

## Main definitions

* `FormTree.FormState` — the state of a form.
* `FormTree.FormStatus` — the three flags that a form announces to its descendants.
* `FormTree.FormIntent` — the changes of a form.
* `FormTree.FormState.reduce` — the state after a change.
* `FormTree.FormSpec.entry` — the data of a declared form as one entry.
* `FormTree.Entry.IsDataOf` — what an entry has to say to be the data of a declared form.

## Main results

* `FormTree.FormSpec.isDataOf_iff` — the entry of a declared form, and no other, is its data.
-/

namespace FormTree

/-- The flags that a form announces to its descendants. -/
structure FormStatus where
  /-- Everything tracked is valid, and something is tracked. -/
  isValid : Bool
  /-- The form accepts input. -/
  isEnabled : Bool
  /-- The form has been submitted. -/
  isSubmitted : Bool
  deriving DecidableEq, Inhabited

/-- State of a form, with or without a submission of its own. -/
structure FormState where
  /-- Identifier of the form. -/
  identifier : String := ""
  /-- Kind of the form. -/
  formType : FormType := .form
  /-- Response type reported with the form's data. -/
  responseType : Option String := none
  /-- Something is tracked, and all of it is valid. -/
  isValid : Bool := false
  /-- The form accepts input. -/
  isEnabled : Bool := true
  /-- The form has been submitted; once set this stays. -/
  isSubmitted : Bool := false
  /-- The display of the form has been reported. -/
  isDisplayReported : Bool := false
  /-- The inputs and nested forms on screen. -/
  displayed : Std.ExtTreeSet String compare := ∅
  /-- The latest validity of everything tracked. -/
  validity : Std.ExtTreeMap String Bool compare := ∅
  /-- The contributing entries. -/
  inputs : Std.ExtTreeMap String Entry compare := ∅
  /-- The attribute updates of the contributing entries. -/
  attributes : Attributes := ∅
  deriving DecidableEq, Inhabited

/-- A change of a form. -/
inductive FormIntent where
  /-- An input or nested form announced itself. -/
  | track (id : String) (isValid : Bool)
  /-- An input or nested form has new data. -/
  | input (entry : Entry)
  /-- An input left the form. -/
  | withdraw (id : String)
  /-- An input or nested form went on or off screen. -/
  | display (id : String) (isDisplayed : Bool)
  /-- The form is submitted. -/
  | submit
  /-- The display of the form has been reported. -/
  | displayReported
  /-- The enable rules give this flag. -/
  | setEnabled (isEnabled : Bool)
  /-- The enclosing form changed: submission is taken over, disablement is forced. -/
  | inherit (isSubmitted isEnabled : Bool)
  deriving DecidableEq, Inhabited

/-- The attribute updates of several entries together, later entries winning. -/
def Entry.mergeAttributes (entries : List Entry) : Attributes :=
  .ofList (entries.flatMap (·.attributes.toList)) compare

namespace FormState

/-- A fresh form. -/
def start (identifier : String) (formType : FormType) (responseType : Option String) : FormState :=
  { identifier, formType, responseType }

/-- The flags that the form announces. -/
def status (state : FormState) : FormStatus where
  isValid := state.isValid
  isEnabled := state.isEnabled
  isSubmitted := state.isSubmitted

/-- The context part of the form. -/
def context (state : FormState) : FormContext where
  identifier := state.identifier
  formType := state.formType.name
  responseType := state.responseType
  isSubmitted := state.isSubmitted

/-! ## Changes -/

/-- Recompute validity and attribute updates from what is tracked and contributed. -/
def recompute (state : FormState) : FormState :=
  { state with
    isValid := !state.validity.isEmpty && state.validity.values.all id
    attributes := Entry.mergeAttributes state.inputs.values }

/-- Track `id` with the given validity. -/
def track (state : FormState) (id : String) (isValid : Bool) : FormState :=
  { state with validity := state.validity.insert id isValid }.recompute

/-- Take over an entry: it contributes if it is valid. -/
def putEntry (state : FormState) (entry : Entry) : FormState :=
  { state with
    validity := state.validity.insert entry.id entry.isValid
    inputs :=
      if entry.isValid then state.inputs.insert entry.id entry
      else state.inputs.erase entry.id }.recompute

/-- Forget `id`. -/
def withdraw (state : FormState) (id : String) : FormState :=
  { state with
    validity := state.validity.erase id
    inputs := state.inputs.erase id
    displayed := state.displayed.erase id }.recompute

/-- Note that `id` is on or off screen. -/
def display (state : FormState) (id : String) (isDisplayed : Bool) : FormState :=
  { state with
    displayed := if isDisplayed then state.displayed.insert id else state.displayed.erase id }

/-- The state after a change. -/
def reduce (state : FormState) : FormIntent → FormState
  | .track id isValid => state.track id isValid
  | .input entry => state.putEntry entry
  | .withdraw id => state.withdraw id
  | .display id isDisplayed => state.display id isDisplayed
  | .submit => { state with isSubmitted := true }
  | .displayReported => { state with isDisplayReported := true }
  | .setEnabled isEnabled => { state with isEnabled }
  | .inherit isSubmitted isEnabled =>
    { state with
      isSubmitted := state.isSubmitted || isSubmitted
      isEnabled := state.isEnabled && isEnabled }

end FormState

/-! ## Data -/

/-- The data of the declared form in the given state, as reported and as forwarded to the enclosing
form. The state has an identifier, a kind and a response type too, which count for contexts only. -/
def FormSpec.entry (spec : FormSpec) (state : FormState) : Entry where
  id := spec.id
  answer :=
    match spec.formType with
    | .form => .form spec.responseType state.inputs.values
    | .nps scoreId => .nps scoreId spec.responseType state.inputs.values
  isValid := state.isValid
  attributes := state.attributes

/-- The entry says what the form is declared as, and what it has in the given state: the
contributing entries in the order of their identifiers, its validity and its attribute updates. -/
structure Entry.IsDataOf (entry : Entry) (spec : FormSpec) (state : FormState) : Prop where
  id : entry.id = spec.id
  form : spec.formType = .form → entry.answer = .form spec.responseType state.inputs.values
  nps (scoreId : String) : spec.formType = .nps scoreId →
    entry.answer = .nps scoreId spec.responseType state.inputs.values
  isValid : entry.isValid = state.isValid
  attributes : entry.attributes = state.attributes

namespace FormSpec

variable {spec : FormSpec} {state : FormState} {entry : Entry}

theorem isDataOf_entry (spec : FormSpec) (state : FormState) :
    (spec.entry state).IsDataOf spec state where
  id := rfl
  form h := by rw [FormSpec.entry, h]
  nps scoreId h := by rw [FormSpec.entry, h]
  isValid := rfl
  attributes := rfl

/-- **The entry of a declared form is its data**, and no other entry is. -/
theorem isDataOf_iff : entry.IsDataOf spec state ↔ entry = spec.entry state := by
  constructor
  · intro h
    have hself := isDataOf_entry spec state
    have hanswer : entry.answer = (spec.entry state).answer := by
      cases hkind : spec.formType with
      | form => rw [h.form hkind, hself.form hkind]
      | nps scoreId => rw [h.nps scoreId hkind, hself.nps scoreId hkind]
    obtain ⟨id, answer, isValid, attributes⟩ := entry
    rw [FormSpec.entry, Entry.mk.injEq]
    exact ⟨h.id, hanswer, h.isValid, h.attributes⟩
  · rintro rfl
    exact isDataOf_entry spec state

end FormSpec

end FormTree

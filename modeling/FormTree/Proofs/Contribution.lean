import Mathlib.Data.List.Induction
import FormTree.Proofs.Layout.Records

set_option autoImplicit false

/-!
# What contributes to a form

A form remembers two things under an identifier: the latest validity, and the entry that
contributes. New data and a withdrawal write both. When something announces itself anew, only its
validity is written, and so an entry goes on contributing although what it came from is known not
to be valid. That is the only way for it.

## Main definitions

* `FormTree.FormIntent.Concerns` — a change writes what is remembered under an identifier.
* `FormTree.FormState.IsStale` — an entry contributes without being known to be valid.

## Main results

* `FormTree.FormState.isStale_reduce_iff` — how one change makes entries stale.
* `FormTree.FormState.isStale_iff_tracked_invalid` — how any changes make entries stale.
-/

namespace FormTree

/-- The change writes what is remembered under `id`. -/
def FormIntent.Concerns (id : String) : FormIntent → Prop
  | .track name _ | .withdraw name => name = id
  | .input entry => entry.id = id
  | _ => False

namespace FormState

variable {state : FormState} {intent : FormIntent} {id : String}

/-- An entry contributes under `id`, but what it came from is not known to be valid. -/
def IsStale (state : FormState) (id : String) : Prop :=
  id ∈ state.inputs ∧ state.validity[id]? ≠ some true

/-- A form just built has no entries. -/
theorem not_isStale_start (identifier : String) (formType : FormType)
    (responseType : Option String) : ¬ (start identifier formType responseType).IsStale id :=
  fun h => Std.ExtTreeMap.not_mem_empty h.1

/-! ## One change -/

/-- A change about other identifiers makes nothing stale, and removes no stale entry. -/
theorem isStale_reduce_of_not_concerns (h : ¬ intent.Concerns id) :
    (state.reduce intent).IsStale id ↔ state.IsStale id := by
  cases intent with
  | track name isValid =>
    have hne : name ≠ id := h
    simp [IsStale, reduce, track, recompute, Std.ExtTreeMap.getElem?_insert, hne]
  | input entry =>
    have hne : entry.id ≠ id := h
    by_cases hvalid : entry.isValid = true <;>
      simp [IsStale, reduce, putEntry, recompute, Std.ExtTreeMap.getElem?_insert, hvalid, hne]
  | withdraw name =>
    have hne : name ≠ id := h
    simp [IsStale, reduce, withdraw, recompute, Std.ExtTreeMap.getElem?_erase, hne]
  | display | submit | displayReported | setEnabled | inherit => exact Iff.rfl

/-- A change about `id` leaves a stale entry exactly if it tracks `id` as not valid while an entry
contributes under it. -/
theorem isStale_reduce_of_concerns (h : intent.Concerns id) :
    (state.reduce intent).IsStale id ↔ intent = .track id false ∧ id ∈ state.inputs := by
  cases intent with
  | track name isValid =>
    obtain rfl : name = id := h
    cases isValid <;> simp [IsStale, reduce, track, recompute]
  | input entry =>
    obtain rfl : entry.id = id := h
    by_cases hvalid : entry.isValid = true <;>
      simp [IsStale, reduce, putEntry, recompute, hvalid]
  | withdraw name =>
    obtain rfl : name = id := h
    simp [IsStale, reduce, withdraw, recompute]
  | display | submit | displayReported | setEnabled | inherit => exact h.elim

/-- **How one change makes entries stale.** -/
theorem isStale_reduce_iff : (state.reduce intent).IsStale id ↔
    (intent = .track id false ∧ id ∈ state.inputs) ∨ (¬ intent.Concerns id ∧ state.IsStale id) := by
  by_cases h : intent.Concerns id
  · simp [isStale_reduce_of_concerns h, h]
  · have hne : intent ≠ .track id false := fun heq => h (heq ▸ rfl)
    simp [isStale_reduce_of_not_concerns h, h, hne]

/-! ## Any changes -/

/-- **How any changes make entries stale.** Whatever the changes of a form just built, an entry
contributes under an identifier that is not known to be valid exactly if, at some point, an entry
contributed and the identifier was tracked as not valid, and nothing was written under it since.

**Proof sketch.** By induction on the changes, from the last one: it either makes the entry stale,
or is about other identifiers and the entry was stale before. -/
theorem isStale_iff_tracked_invalid (identifier : String) (formType : FormType)
    (responseType : Option String) (intents : List FormIntent) (id : String) :
    let run := fun changes : List FormIntent =>
      changes.foldl reduce (start identifier formType responseType)
    (id ∈ (run intents).inputs ∧ (run intents).validity[id]? ≠ some true) ↔
      ∃ before after, intents = before ++ .track id false :: after ∧ id ∈ (run before).inputs ∧
        ∀ intent ∈ after, ¬ intent.Concerns id := by
  intro run
  change (run intents).IsStale id ↔ _
  induction intents using List.reverseRecOn with
  | nil => simp [run, not_isStale_start]
  | append_singleton intents intent ih =>
    have hrun : run (intents ++ [intent]) = (run intents).reduce intent := by simp [run]
    rw [hrun, isStale_reduce_iff, ih]
    constructor
    · rintro (⟨rfl, hmem⟩ | ⟨hother, before, after, rfl, hmem, hafter⟩)
      · exact ⟨intents, [], rfl, hmem, by simp⟩
      · refine ⟨before, after ++ [intent], by simp, hmem, fun other hmem' => ?_⟩
        rcases List.mem_append.mp hmem' with hmem' | hmem'
        · exact hafter other hmem'
        · exact List.mem_singleton.mp hmem' ▸ hother
    · rintro ⟨before, after, hsplit, hmem, hafter⟩
      rcases List.eq_nil_or_concat after with rfl | ⟨after, last, rfl⟩
      · obtain ⟨rfl, heq⟩ := List.append_inj' hsplit rfl
        exact .inl ⟨List.singleton_inj.mp heq, hmem⟩
      · have hconcat : intents ++ [intent] = (before ++ .track id false :: after) ++ [last] := by
          simpa using hsplit
        obtain ⟨rfl, heq⟩ := List.append_inj' hconcat rfl
        obtain rfl := List.singleton_inj.mp heq
        exact .inr ⟨hafter intent (by simp), before, after, rfl, hmem,
          fun other hmem' => hafter other (by simp [hmem'])⟩

/-- An answer that was valid when it was given goes on contributing once the input announces itself
as not valid: it is in the data of the form, and so is its attribute update. -/
theorem contributes_after_tracked_invalid :
    let city : AttributeName := { contact := some "city" }
    let given : Entry :=
      ⟨"home", .textInput (some "Paris"), true, .ofList [(city, .str "Paris")] compare⟩
    let state := [.input given, .track "home" false].foldl reduce (start "form" .form none)
    "home" ∈ state.inputs ∧ state.validity["home"]? = some false ∧
      state.attributes[city]? = some (.str "Paris") ∧
      (FormSpec.entry { id := "form" } state).answer = .form none [given] := by
  decide

end FormState

end FormTree

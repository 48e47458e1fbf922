import FormTree.Attribute
import Std.Data.ExtTreeSet

set_option autoImplicit false

/-!
# Form data

The data that inputs contribute to a form, that nested forms contribute to the form around them,
and that a submitted form reports.

## Main definitions

* `FormTree.Answer` — the answer of an input, or the entries of a nested form.
* `FormTree.Entry` — an answer under an identifier, with its validity and attribute updates.
* `FormTree.Answer.hasValue` — a required input counts as answered.
* `FormTree.Answer.attributeValue` — what an answer writes to an attribute.
* `FormTree.Answer.toJson`, `FormTree.Entry.toJson` — the form in which data is reported.

## Main results

* `FormTree.Answer.eq_of_beq`, `FormTree.Entry.eq_of_beq` — the structural equality test finds
  only equal data; with its converse it decides equality.
-/

namespace FormTree

/-- Kind of a form: a plain one, or a net promoter score form naming its score input. -/
inductive FormType where
  | form
  | nps (scoreId : String)
  deriving DecidableEq, Inhabited

/-- The type of a form with the given score; without a score it is a plain form. -/
def FormType.ofScoreId : Option String → FormType
  | none => .form
  | some scoreId => .nps scoreId

/-- The score of the form, if it has one. -/
def FormType.scoreId? : FormType → Option String
  | .form => none
  | .nps scoreId => some scoreId

/-- Name of the kind in reports. -/
def FormType.name : FormType → String
  | .form => "form"
  | .nps _ => "nps"

mutual

/-- The answer of an input, or the entries of a nested form. -/
inductive Answer where
  | textInput (text : Option String)
  | toggle (isOn : Bool)
  | checkbox (isOn : Bool)
  | multipleChoice (choices : Std.ExtTreeSet String compare)
  | singleChoice (choice : Option String)
  | score (value : Option Int)
  | form (responseType : Option String) (children : List Entry)
  | nps (scoreId : String) (responseType : Option String) (children : List Entry)

/-- One entry of a form's data: an input or a nested form. -/
structure Entry where
  /-- Identifier of the input or of the nested form. -/
  id : String
  /-- What it holds. -/
  answer : Answer
  /-- Whether it counts as valid. -/
  isValid : Bool
  /-- The attribute updates that it asks for. -/
  attributes : Attributes

end

/-! ## Equality -/

mutual

/-- Structural equality test. -/
def Answer.beq : Answer → Answer → Bool
  | .textInput a, .textInput b => a == b
  | .toggle a, .toggle b => a == b
  | .checkbox a, .checkbox b => a == b
  | .multipleChoice a, .multipleChoice b => a == b
  | .singleChoice a, .singleChoice b => a == b
  | .score a, .score b => a == b
  | .form r a, .form s b => r == s && Entry.beqAll a b
  | .nps i r a, .nps j s b => i == j && r == s && Entry.beqAll a b
  | _, _ => false
termination_by structural a => a

/-- Structural equality test of entries. -/
def Entry.beq : Entry → Entry → Bool
  | ⟨i, a, v, m⟩, ⟨j, b, w, n⟩ => i == j && v == w && m == n && a.beq b
termination_by structural a => a

/-- Structural equality test of entry lists. -/
def Entry.beqAll : List Entry → List Entry → Bool
  | [], [] => true
  | a :: as, b :: bs => a.beq b && Entry.beqAll as bs
  | _, _ => false
termination_by structural a => a

end

mutual

/-- The equality test finds only equal answers. -/
theorem Answer.eq_of_beq : ∀ a b : Answer, a.beq b = true → a = b
  | .textInput a, b, h => by cases b <;> simp_all [Answer.beq]
  | .toggle a, b, h => by cases b <;> simp_all [Answer.beq]
  | .checkbox a, b, h => by cases b <;> simp_all [Answer.beq]
  | .multipleChoice a, b, h => by cases b <;> simp_all [Answer.beq]
  | .singleChoice a, b, h => by cases b <;> simp_all [Answer.beq]
  | .score a, b, h => by cases b <;> simp_all [Answer.beq]
  | .form r a, b, h => by
    cases b <;> simp only [Answer.beq, Bool.false_eq_true, Bool.and_eq_true, beq_iff_eq] at h
    rw [h.1, Entry.eq_of_beqAll _ _ h.2]
  | .nps i r a, b, h => by
    cases b <;> simp only [Answer.beq, Bool.false_eq_true, Bool.and_eq_true, beq_iff_eq] at h
    rw [h.1.1, h.1.2, Entry.eq_of_beqAll _ _ h.2]

/-- The equality test finds only equal entries. -/
theorem Entry.eq_of_beq : ∀ a b : Entry, a.beq b = true → a = b
  | ⟨i, a, v, m⟩, ⟨j, b, w, n⟩, h => by
    simp only [Entry.beq, Bool.and_eq_true, beq_iff_eq] at h
    rw [h.1.1.1, h.1.1.2, h.1.2, Answer.eq_of_beq a b h.2]

/-- The equality test finds only equal entry lists. -/
theorem Entry.eq_of_beqAll : ∀ a b : List Entry, Entry.beqAll a b = true → a = b
  | [], b, h => by cases b <;> simp_all [Entry.beqAll]
  | a :: as, b, h => by
    cases b with
    | nil => simp [Entry.beqAll] at h
    | cons b bs =>
      simp only [Entry.beqAll, Bool.and_eq_true] at h
      rw [Entry.eq_of_beq a b h.1, Entry.eq_of_beqAll as bs h.2]

end

mutual

/-- An answer passes the equality test with itself. -/
theorem Answer.beq_self : ∀ a : Answer, a.beq a = true
  | .textInput a => by simp [Answer.beq]
  | .toggle a => by simp [Answer.beq]
  | .checkbox a => by simp [Answer.beq]
  | .multipleChoice a => by simp [Answer.beq]
  | .singleChoice a => by simp [Answer.beq]
  | .score a => by simp [Answer.beq]
  | .form r a => by rw [Answer.beq, Entry.beqAll_self a]; simp
  | .nps i r a => by rw [Answer.beq, Entry.beqAll_self a]; simp

/-- An entry passes the equality test with itself. -/
theorem Entry.beq_self : ∀ a : Entry, a.beq a = true
  | ⟨i, a, v, m⟩ => by rw [Entry.beq, Answer.beq_self a]; simp

/-- An entry list passes the equality test with itself. -/
theorem Entry.beqAll_self : ∀ a : List Entry, Entry.beqAll a a = true
  | [] => by simp [Entry.beqAll]
  | a :: as => by rw [Entry.beqAll, Entry.beq_self a, Entry.beqAll_self as]; rfl

end

instance : DecidableEq Answer := fun a b =>
  decidable_of_iff (a.beq b = true) ⟨Answer.eq_of_beq a b, fun h => h ▸ a.beq_self⟩

instance : DecidableEq Entry := fun a b =>
  decidable_of_iff (a.beq b = true) ⟨Entry.eq_of_beq a b, fun h => h ▸ a.beq_self⟩

instance : Inhabited Answer := ⟨.textInput none⟩

instance : Inhabited Entry := ⟨⟨"", default, false, ∅⟩⟩

/-! ## Reading answers -/

namespace Answer

/-- Name of the kind of an answer, in reports and in messages. -/
def typeName : Answer → String
  | .textInput _ => "text_input"
  | .toggle _ => "toggle"
  | .checkbox _ => "checkbox"
  | .multipleChoice _ => "multiple_choice"
  | .singleChoice _ => "single_choice"
  | .score _ => "score"
  | .form _ _ => "form"
  | .nps _ _ _ => "nps"

/-- Whether a required input holding this answer counts as answered. -/
def hasValue : Answer → Bool
  | .textInput text => text.any (· ≠ "")
  | .toggle isOn | .checkbox isOn => isOn
  | .multipleChoice choices => !choices.isEmpty
  | .singleChoice choice => choice.isSome
  | .score value => value.isSome
  | .form _ _ | .nps _ _ _ => true

/-- What the answer writes to its input's attribute; only a single, given value is written. -/
def attributeValue : Answer → Option Json
  | .textInput text => (text.filter (· ≠ "")).map .str
  | .toggle isOn | .checkbox isOn => some (.bool isOn)
  | .singleChoice choice => choice.map .str
  | .score value => value.map .int
  | .multipleChoice _ | .form _ _ | .nps _ _ _ => none

/-- Entries of a nested form, none for the answer of an input. -/
def children : Answer → List Entry
  | .form _ children | .nps _ _ children => children
  | _ => []

end Answer

/-! ## Reported form -/

mutual

/-- The reported form of an answer; the entries of a form are keyed by their identifiers. -/
def Answer.toJson : Answer → Json
  | .textInput text => .object [("type", .str "text_input"), ("value", .ofText? text)]
  | .toggle isOn => .object [("type", .str "toggle"), ("value", .bool isOn)]
  | .checkbox isOn => .object [("type", .str "checkbox"), ("value", .bool isOn)]
  | .multipleChoice choices =>
    .object [("type", .str "multiple_choice"), ("value", .arr (choices.toList.map .str))]
  | .singleChoice choice => .object [("type", .str "single_choice"), ("value", .ofText? choice)]
  | .score value =>
    .object [("type", .str "score"), ("value", match value with | none => .null | some n => .int n)]
  | .form responseType children =>
    .object [("type", .str "form"), ("response_type", .ofText? responseType),
      ("children", .object (Entry.membersOf children))]
  | .nps scoreId responseType children =>
    .object [("type", .str "nps"), ("score_id", .str scoreId),
      ("response_type", .ofText? responseType), ("children", .object (Entry.membersOf children))]
termination_by structural a => a

/-- One entry as the member of an object: its answer under its identifier. -/
def Entry.member : Entry → String × Json
  | ⟨id, answer, _, _⟩ => (id, answer.toJson)
termination_by structural a => a

/-- The entries as members of one object. -/
def Entry.membersOf : List Entry → List (String × Json)
  | [] => []
  | entry :: rest => entry.member :: Entry.membersOf rest
termination_by structural a => a

end

/-- The reported form of an entry: an object whose only member is the answer, under the
identifier. -/
def Entry.toJson (entry : Entry) : Json :=
  .object [entry.member]

end FormTree

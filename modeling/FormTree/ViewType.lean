set_option autoImplicit false

/-!
# View kinds

The closed set of view kinds and what each of them can do.

## Main definitions

* `FormTree.ViewType` — the view kinds.
* `FormTree.ViewType.renders`, `FormTree.ViewType.handlesEvents`, `FormTree.ViewType.hasChildren`
  — the capabilities of a kind.
-/

namespace FormTree

/-- A view kind. -/
inductive ViewType where
  | container
  | label
  | textInput
  | toggle
  | checkbox
  | multipleChoice
  | singleChoice
  | score
  | button
  | form
  | npsForm
  | pager
  deriving DecidableEq, Inhabited

namespace ViewType

/-- Name of the kind in a decoded layout. -/
def name : ViewType → String
  | .container => "container"
  | .label => "label"
  | .textInput => "text_input"
  | .toggle => "toggle"
  | .checkbox => "checkbox"
  | .multipleChoice => "multiple_choice"
  | .singleChoice => "single_choice"
  | .score => "score"
  | .button => "button"
  | .form => "form"
  | .npsForm => "nps_form"
  | .pager => "pager"

/-- Every view kind. -/
def all : List ViewType :=
  [.container, .label, .textInput, .toggle, .checkbox, .multipleChoice, .singleChoice, .score,
    .button, .form, .npsForm, .pager]

/-- The kind with the given name. -/
def ofName? (name : String) : Option ViewType := all.find? (·.name = name)

/-- How messages spell the kind. -/
def title : ViewType → String
  | .container => "Container"
  | .label => "Label"
  | .textInput => "TextInput"
  | .toggle => "Toggle"
  | .checkbox => "Checkbox"
  | .multipleChoice => "MultipleChoice"
  | .singleChoice => "SingleChoice"
  | .score => "Score"
  | .button => "Button"
  | .form => "Form"
  | .npsForm => "NpsForm"
  | .pager => "Pager"

/-- The kind draws something of its own. -/
def renders : ViewType → Bool
  | .form | .npsForm => false
  | _ => true

/-- The kind takes part in event routing. -/
def handlesEvents : ViewType → Bool
  | .container | .label => false
  | _ => true

/-- Nodes of the kind may have children. -/
def hasChildren : ViewType → Bool
  | .container | .form | .npsForm | .pager => true
  | _ => false

end ViewType

end FormTree

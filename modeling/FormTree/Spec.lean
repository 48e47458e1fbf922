import FormTree.Enablement
import FormTree.Entry
import FormTree.ViewType

set_option autoImplicit false

/-!
# Declared layouts

A layout as it comes out of the decoder: a tree of declared views.

## Main definitions

* `FormTree.Spec` — a declared node with its children.
* `FormTree.View` — what a node is declared to be.
* `FormTree.InputSpec`, `FormTree.ButtonSpec`, `FormTree.FormSpec`, `FormTree.PagerSpec` — the
  declarations of inputs, buttons, forms and pagers.
* `FormTree.InputSpec.entry` — what an input contributes to its form.
-/

namespace FormTree

/-! ## Inputs -/

/-- Kind of an input. -/
inductive InputKind where
  | textInput
  | toggle
  | checkbox
  | multipleChoice
  | singleChoice
  | score
  deriving DecidableEq, Inhabited

namespace InputKind

/-- The view kind of such an input. -/
def viewType : InputKind → ViewType
  | .textInput => .textInput
  | .toggle => .toggle
  | .checkbox => .checkbox
  | .multipleChoice => .multipleChoice
  | .singleChoice => .singleChoice
  | .score => .score

/-- Every kind of an input. -/
def all : List InputKind :=
  [.textInput, .toggle, .checkbox, .multipleChoice, .singleChoice, .score]

/-- The kind whose view kind has the given name. -/
def ofName? (name : String) : Option InputKind := all.find? (·.viewType.name = name)

/-- The answer such an input starts with. -/
def emptyAnswer : InputKind → Answer
  | .textInput => .textInput none
  | .toggle => .toggle false
  | .checkbox => .checkbox false
  | .multipleChoice => .multipleChoice ∅
  | .singleChoice => .singleChoice none
  | .score => .score none

end InputKind

/-- A declared input. -/
structure InputSpec where
  /-- Identifier of the input. -/
  id : String
  /-- Kind of the input. -/
  kind : InputKind
  /-- The input has to be answered. -/
  isRequired : Bool := false
  /-- The attribute that the answer is written to. -/
  target : Option AttributeName := none
  deriving DecidableEq, Inhabited

namespace InputSpec

variable (spec : InputSpec)

/-- An optional input is valid whatever it holds, a required one once it is answered. -/
def isValid (answer : Answer) : Bool := !spec.isRequired || answer.hasValue

/-- The input takes answers of its own kind only. -/
def accepts (answer : Answer) : Bool := answer.typeName = spec.kind.emptyAnswer.typeName

/-- What the input contributes to its form while it holds `answer`. -/
def entry (answer : Answer) : Entry where
  id := spec.id
  answer := answer
  isValid := spec.isValid answer
  attributes :=
    match spec.target, answer.attributeValue with
    | some name, some value => Std.ExtTreeMap.empty.insert name value
    | _, _ => ∅

end InputSpec

/-! ## Buttons, forms and pagers -/

/-- A declared button. -/
structure ButtonSpec where
  /-- Identifier of the button. -/
  id : String
  /-- The declared effects of tapping it. -/
  behaviors : List ClickBehavior := []
  deriving DecidableEq, Inhabited

namespace ButtonSpec

/-- The effects of tapping the button, in the order in which they happen. -/
def effects (spec : ButtonSpec) : List ClickBehavior := ClickBehavior.ordered spec.behaviors

/-- Tapping the button submits. -/
def submits (spec : ButtonSpec) : Bool := spec.effects.contains .formSubmit

end ButtonSpec

/-- A declared form. -/
structure FormSpec where
  /-- Identifier of the form. -/
  id : String
  /-- Kind of the form. -/
  formType : FormType := .form
  /-- Response type reported with the form's data. -/
  responseType : Option String := none
  /-- How the form submits; a form without it belongs to the form around it. -/
  submit : Option SubmitBehavior := some .submitEvent
  /-- The rules for the form's own enabled flag. -/
  formEnabled : EnableRules := []
  deriving DecidableEq, Inhabited

/-- The form leaves submission to the form around it. -/
def FormSpec.isChild (spec : FormSpec) : Bool := spec.submit.isNone

/-- A declared pager. -/
structure PagerSpec where
  /-- Identifier of the pager. -/
  id : String
  deriving DecidableEq, Inhabited

/-! ## Nodes -/

/-- What a node is declared to be. -/
inductive View where
  | container
  | label (text : String)
  | input (spec : InputSpec)
  | button (spec : ButtonSpec)
  | form (spec : FormSpec)
  | pager (spec : PagerSpec)
  deriving DecidableEq, Inhabited

/-- What messages and answers distinguish about nodes. -/
inductive NodeKind where
  | container
  | label
  | input
  | button
  | form
  | pager
  deriving DecidableEq, Inhabited

/-- Name of the kind. -/
def NodeKind.name : NodeKind → String
  | .container => "container"
  | .label => "label"
  | .input => "input"
  | .button => "button"
  | .form => "form"
  | .pager => "pager"

namespace View

/-- The view kind of the node. -/
def viewType : View → ViewType
  | .container => .container
  | .label _ => .label
  | .input spec => spec.kind.viewType
  | .button _ => .button
  | .form spec =>
    match spec.formType with
    | .form => .form
    | .nps _ => .npsForm
  | .pager _ => .pager

/-- The kind of the node. -/
def kind : View → NodeKind
  | .container => .container
  | .label _ => .label
  | .input _ => .input
  | .button _ => .button
  | .form _ => .form
  | .pager _ => .pager

/-- The identifier, which containers and labels do not have. -/
def identifier? : View → Option String
  | .container | .label _ => none
  | .input spec => some spec.id
  | .button spec => some spec.id
  | .form spec => some spec.id
  | .pager spec => some spec.id

end View

/-- A declared node with its children. -/
structure Spec where
  /-- What the node is. -/
  view : View
  /-- The rules for the node's enabled flag. -/
  enable : EnableRules := []
  /-- The children, in order. -/
  children : List Spec := []
  deriving Inhabited

namespace Spec

mutual

/-- The number of nodes of a declared tree. -/
def size : Spec → Nat
  | ⟨_, _, children⟩ => 1 + sizeAll children
termination_by structural spec => spec

/-- The number of nodes of several declared trees. -/
def sizeAll : List Spec → Nat
  | [] => 0
  | spec :: rest => spec.size + sizeAll rest
termination_by structural specs => specs

end

end Spec

end FormTree

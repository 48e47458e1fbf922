set_option autoImplicit false

/-!
# Declared behaviors

What a layout declares about its nodes: rules for their enabled flag, what a button does when it
is tapped, and whether a form submits by itself.

## Main definitions

* `FormTree.EnableBehavior` — a rule tying a node's enabled flag to a form or a pager.
* `FormTree.ClickBehavior` — one effect of tapping a button.
* `FormTree.ClickBehavior.ordered` — the effects in the order in which they happen.
* `FormTree.SubmitBehavior` — how a form submits.
-/

namespace FormTree

/-! ## Enable rules -/

/-- Rule tying a node's enabled flag to the state of its form or of its pager. -/
inductive EnableBehavior where
  | pagerNext
  | pagerPrevious
  | formValidation
  | formSubmission
  deriving DecidableEq, Inhabited

namespace EnableBehavior

/-- Name of the rule in a decoded layout. -/
def name : EnableBehavior → String
  | .pagerNext => "pager_next"
  | .pagerPrevious => "pager_previous"
  | .formValidation => "form_validation"
  | .formSubmission => "form_submission"

/-- The rule with the given name. -/
def ofName? : String → Option EnableBehavior
  | "pager_next" => some .pagerNext
  | "pager_previous" => some .pagerPrevious
  | "form_validation" => some .formValidation
  | "form_submission" => some .formSubmission
  | _ => none

/-- The rule looks at the enclosing form. -/
def isForm : EnableBehavior → Bool
  | .formValidation | .formSubmission => true
  | .pagerNext | .pagerPrevious => false

/-- The rule looks at the enclosing pager. -/
def isPager : EnableBehavior → Bool
  | .pagerNext | .pagerPrevious => true
  | .formValidation | .formSubmission => false

end EnableBehavior

/-! ## Click effects -/

/-- What a button does when it is tapped. -/
inductive ClickBehavior where
  | formSubmit
  | pagerNext
  | pagerPrevious
  | dismiss
  | cancel
  deriving DecidableEq, Inhabited

namespace ClickBehavior

/-- Name of the effect in a decoded layout. -/
def name : ClickBehavior → String
  | .formSubmit => "form_submit"
  | .pagerNext => "pager_next"
  | .pagerPrevious => "pager_previous"
  | .dismiss => "dismiss"
  | .cancel => "cancel"

/-- The effect with the given name. -/
def ofName? : String → Option ClickBehavior
  | "form_submit" => some .formSubmit
  | "pager_next" => some .pagerNext
  | "pager_previous" => some .pagerPrevious
  | "dismiss" => some .dismiss
  | "cancel" => some .cancel
  | _ => none

/-- Every effect, in the order in which effects happen: a form is submitted before the layout
is dismissed or cancelled. -/
def all : List ClickBehavior := [.formSubmit, .pagerNext, .pagerPrevious, .dismiss, .cancel]

/-- The declared effects in the order in which they happen, each once. -/
def ordered (declared : List ClickBehavior) : List ClickBehavior :=
  all.filter declared.contains

end ClickBehavior

/-! ## Submission -/

/-- How a form submits; a form without such a behavior leaves it to the form around it. -/
inductive SubmitBehavior where
  | submitEvent
  deriving DecidableEq, Inhabited

namespace SubmitBehavior

/-- Name of the behavior in a decoded layout. -/
def name : SubmitBehavior → String
  | .submitEvent => "submit_event"

/-- The behavior with the given name. -/
def ofName? : String → Option SubmitBehavior
  | "submit_event" => some .submitEvent
  | _ => none

end SubmitBehavior

end FormTree

import FormTree.Config
import FormTree.Event
import FormTree.Spec

set_option autoImplicit false

/-!
# Errors of layouts

Why a layout cannot be activated, and why a call of the renderer is refused.

## Main definitions

* `FormTree.LayoutError` — the causes.
* `FormTree.LayoutError.message` — their wording.
-/

namespace FormTree

/-- Why a layout cannot be activated, or a call is refused. -/
inductive LayoutError where
  /-- The configuration is refused. -/
  | config (error : ConfigError)
  /-- A form that does not submit by itself has no form around it. -/
  | missingParentForm (form : String)
  /-- Rules look at a pager, but there is none around the node. -/
  | missingPagerState (node : String)
  /-- A pager has no pages. -/
  | emptyPager (pager : String)
  /-- A node has children although its view kind takes none. -/
  | unexpectedChildren (node : NodeId) (viewType : ViewType)
  /-- A handle names no node. -/
  | unknownNode (node : NodeId)
  /-- A node is not of the kind that the call needs. -/
  | wrongNodeKind (node : NodeId) (expected : NodeKind)
  /-- An input is given an answer of another kind. -/
  | valueMismatch (input : String) (expected found : String)
  deriving DecidableEq, Inhabited

/-- How messages spell a node. -/
def NodeId.text (node : NodeId) : String := "#" ++ toString node

namespace LayoutError

/-- The wording of an error. -/
def message : LayoutError → String
  | .config error => "Configuration error: " ++ error.message
  | .missingParentForm form => "Child form '" ++ form ++ "' requires a parent form"
  | .missingPagerState node =>
    "'" ++ node ++ "' declares pager enable behaviors but has no pager state"
  | .emptyPager pager => "Pager '" ++ pager ++ "' has no pages"
  | .unexpectedChildren node viewType =>
    "Node " ++ NodeId.text node ++ " of type " ++ viewType.title ++ " cannot have children"
  | .unknownNode node => "Node " ++ NodeId.text node ++ " does not exist in this layout"
  | .wrongNodeKind node expected =>
    "Node " ++ NodeId.text node ++ " is not a " ++ expected.name
  | .valueMismatch input expected found =>
    "Input '" ++ input ++ "' expects a " ++ expected ++ " value, got " ++ found

end LayoutError

/-! ## Inputs on their own -/

/-- An input with the answer that it holds. -/
structure InputNode where
  /-- The declaration. -/
  spec : InputSpec
  /-- The answer held. -/
  answer : Answer
  deriving DecidableEq, Inhabited

namespace InputNode

/-- A fresh input. -/
def start (spec : InputSpec) : InputNode := ⟨spec, spec.kind.emptyAnswer⟩

/-- Give the input another answer of its own kind. -/
def setAnswer (node : InputNode) (answer : Answer) : Except LayoutError InputNode :=
  if node.spec.accepts answer then .ok { node with answer }
  else .error (.valueMismatch node.spec.id node.spec.kind.emptyAnswer.typeName answer.typeName)

/-- The input is valid as it stands. -/
def isValid (node : InputNode) : Bool := node.spec.isValid node.answer

/-- What the input contributes to its form as it stands. -/
def entry (node : InputNode) : Entry := node.spec.entry node.answer

end InputNode

end FormTree

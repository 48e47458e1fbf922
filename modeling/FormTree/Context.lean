import FormTree.Json
import FormTree.Pager

set_option autoImplicit false

/-!
# Reporting contexts

Where in a layout a reported event happened. The context is filled in while the event bubbles:
the emitting form gives its own part, and the nearest form or pager on the way up fills a part
that is still missing.

## Main definitions

* `FormTree.FormContext`, `FormTree.PagerContext`, `FormTree.ButtonContext` — the three parts.
* `FormTree.LayoutContext` — all of them, each optional.
-/

namespace FormTree

/-- Form part of a context. -/
structure FormContext where
  /-- Identifier of the form. -/
  identifier : String
  /-- Kind of the form, by name. -/
  formType : String
  /-- Response type of the form. -/
  responseType : Option String
  /-- The form had been submitted. -/
  isSubmitted : Bool
  deriving DecidableEq, Inhabited

/-- Pager part of a context. -/
structure PagerContext where
  /-- Identifier of the pager. -/
  identifier : String
  /-- The page shown. -/
  pageIndex : UInt64
  /-- The number of pages. -/
  pageCount : UInt64
  deriving DecidableEq, Inhabited

/-- Button part of a context. -/
structure ButtonContext where
  /-- Identifier of the button. -/
  identifier : String
  deriving DecidableEq, Inhabited

/-- Where in the layout a reported event happened. -/
structure LayoutContext where
  /-- The form concerned. -/
  form : Option FormContext := none
  /-- The pager around it. -/
  pager : Option PagerContext := none
  /-- The button that caused it. -/
  button : Option ButtonContext := none
  deriving DecidableEq, Inhabited

/-- The context part of a pager in the given state. -/
def PagerState.context (state : PagerState) : PagerContext where
  identifier := state.identifier
  pageIndex := state.position
  pageCount := state.pageCount

/-- The form part as JSON. -/
def FormContext.toJson (context : FormContext) : Json :=
  .object ([("identifier", .str context.identifier), ("form_type", .str context.formType),
    ("is_submitted", .bool context.isSubmitted)] ++
    (context.responseType.map fun s => ("response_type", Json.str s)).toList)

/-- The pager part as JSON. -/
def PagerContext.toJson (context : PagerContext) : Json :=
  .object [("identifier", .str context.identifier), ("page_index", .int context.pageIndex.toNat),
    ("page_count", .int context.pageCount.toNat)]

/-- The button part as JSON. -/
def ButtonContext.toJson (context : ButtonContext) : Json :=
  .object [("identifier", .str context.identifier)]

namespace LayoutContext

/-- The context of an event that a form emits. -/
def ofForm (form : FormContext) : LayoutContext := { form := some form }

/-- The context with its button part replaced. -/
def withButton (context : LayoutContext) (identifier : Option String) : LayoutContext :=
  { context with button := identifier.map ButtonContext.mk }

/-- Fill in the form part if it is still missing. -/
def fillForm (context : LayoutContext) (form : FormContext) : LayoutContext :=
  { context with form := context.form.or (some form) }

/-- Fill in the pager part if it is still missing. -/
def fillPager (context : LayoutContext) (pager : PagerContext) : LayoutContext :=
  { context with pager := context.pager.or (some pager) }

/-- The context as JSON, a missing part left out. -/
def toJson (context : LayoutContext) : Json :=
  .object ((context.form.map fun part => ("form", part.toJson)).toList ++
    (context.pager.map fun part => ("pager", part.toJson)).toList ++
    (context.button.map fun part => ("button", part.toJson)).toList)

end LayoutContext

end FormTree

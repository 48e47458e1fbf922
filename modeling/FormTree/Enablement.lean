import FormTree.Behavior
import FormTree.Pager

set_option autoImplicit false

/-!
# Enable rules

How declared rules decide a node's enabled flag from the state of its form and of its pager.

A rule that has nothing to look at does not apply. Every rule that applies must hold, and
whatever is around the node must be enabled.

## Main definitions

* `FormTree.EnableRules` — the declared rules of a node.
* `FormTree.EnableRules.formRule`, `FormTree.EnableRules.pagerRule` — what the rules on forms and
  the rules on pagers ask for.
* `FormTree.EnableRules.evaluate` — the resulting flag.
-/

namespace FormTree

/-- The declared enable rules of a node. -/
abbrev EnableRules := List EnableBehavior

namespace EnableRules

variable (rules : EnableRules)

/-- Some rule looks at the enclosing form. -/
def hasForm : Bool := rules.any (·.isForm)

/-- Some rule looks at the enclosing pager. -/
def hasPager : Bool := rules.any (·.isPager)

/-- What the rules on the form ask for: not submitted, valid, or both. -/
def formRule (isValid isSubmitted : Bool) : Option Bool :=
  if rules.hasForm then
    some ((!rules.contains .formSubmission || !isSubmitted) &&
      (!rules.contains .formValidation || isValid))
  else none

/-- What the rules on the pager ask for: some declared direction has a page. -/
def pagerRule (hasNext hasPrevious : Bool) : Option Bool :=
  if rules.hasPager then
    some ((rules.contains .pagerNext && hasNext) || (rules.contains .pagerPrevious && hasPrevious))
  else none

/-- The enabled flag: `form` holds validity and submission of the enclosing form. Where no rule
applies the flag keeps its `current` value. -/
def evaluate (parentEnabled : Bool) (form : Option (Bool × Bool)) (pager : Option PagerState)
    (current : Bool) : Bool :=
  let ofForm := form.bind fun (isValid, isSubmitted) => rules.formRule isValid isSubmitted
  let ofPager := pager.bind fun state => rules.pagerRule state.hasNext state.hasPrevious
  match ofForm, ofPager with
  | none, none => parentEnabled && current
  | some form, none => parentEnabled && form
  | none, some pager => parentEnabled && pager
  | some form, some pager => parentEnabled && form && pager

/-- The rules of `more` that are not yet there, added in their order. -/
def merge (more : EnableRules) : EnableRules :=
  more.foldl (fun merged rule => if merged.contains rule then merged else merged ++ [rule]) rules

end EnableRules

end FormTree

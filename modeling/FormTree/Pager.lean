set_option autoImplicit false

/-!
# Pagers

Where a pager stands among its pages.

Positions and page counts are 64-bit words. Every move ends in `FormTree.PagerState.moveTo`,
which stops at the last page, so the two flags always follow from position and count. No page is
then at the largest word, and from all others a step to the next page can be counted. A state that
was not made by moves may be at the largest word, though; what a step from there comes to is an
outcome of its own, `FormTree.PagerState.overflows`: it fails where overflows are checked, and leads
to the first page where they are not.

## Main definitions

* `FormTree.PagerState` — position, page count and the two flags.
* `FormTree.PagerIntent` — the moves of a pager.
* `FormTree.PagerState.overflows` — moves behind the largest position.
* `FormTree.PagerState.reduce`, `FormTree.PagerState.reduce?` — the state after a move, where
  overflows wrap around and where they are checked.
-/

namespace FormTree

/-- State of a pager. -/
structure PagerState where
  /-- Identifier of the pager. -/
  identifier : String := ""
  /-- The page shown, counted from zero. -/
  position : UInt64 := 0
  /-- The number of pages. -/
  pageCount : UInt64 := 0
  /-- There is a page after the one shown. -/
  hasNext : Bool := false
  /-- There is a page before the one shown. -/
  hasPrevious : Bool := false
  deriving DecidableEq, Inhabited

/-- A move of a pager. -/
inductive PagerIntent where
  | scroll (position : UInt64)
  | next
  | previous
  | setPageCount (count : UInt64)
  deriving DecidableEq, Inhabited

namespace PagerState

/-- One less, but never below zero. -/
def before (n : UInt64) : UInt64 := if n = 0 then 0 else n - 1

/-- Show the page at `position`, or the last page if there are not that many. -/
def moveTo (state : PagerState) (position : UInt64) : PagerState :=
  let last := before state.pageCount
  let position := if position ≤ last then position else last
  { state with position, hasNext := position < last, hasPrevious := 0 < position }

/-- The first page of a pager with `pageCount` pages. -/
def start (identifier : String) (pageCount : UInt64) : PagerState :=
  ({ identifier, pageCount } : PagerState).moveTo 0

/-- The move asks for the page behind one whose position is the largest word. -/
def overflows (state : PagerState) : PagerIntent → Bool
  | .next => state.position.toNat + 1 = UInt64.size
  | _ => false

/-- The state after a move. Positions are counted as words, so that the page behind the largest one
is the first one. -/
def reduce (state : PagerState) : PagerIntent → PagerState
  | .scroll position => state.moveTo position
  | .next => state.moveTo (state.position + 1)
  | .previous => state.moveTo (before state.position)
  | .setPageCount pageCount => { state with pageCount }.moveTo state.position

/-- The state after a move, where overflows are checked: there is none after one that overflows. -/
def reduce? (state : PagerState) (intent : PagerIntent) : Option PagerState :=
  if state.overflows intent then none else some (state.reduce intent)

end PagerState

end FormTree

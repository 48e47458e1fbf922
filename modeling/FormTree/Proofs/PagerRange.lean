import FormTree.Proofs.Layout.Standards
import FormTree.Proofs.ReportContexts

set_option autoImplicit false

/-!
# Pagers stay in range

Whatever moves a pager makes, the page that it shows is one of those that it counts, or the first
one if it counts none, and its flags say whether there are pages after and before it. No page is
then at the largest word, so the step to the next page can always be counted. In a layout a pager
counts the nodes below it, and nothing that the renderer does changes this.

## Main definitions

* `FormTree.PagerState.InRange` — position and flags go with the number of pages.
* `FormTree.PagerState.standard` — the pagers of a tree are in range and count their pages.
* `FormTree.PagerState.ShowsPage` — what follows for a pager that has pages.

## Main results

* `FormTree.PagerState.reduce_of_overflows` — moves that overflow.
* `FormTree.PagerState.InRange.exists_reduce` — one move of a pager in range.
* `FormTree.PagerState.exists_foldlM` — any number of moves.
* `FormTree.Layout.pagers_stay_in_range` — pagers by themselves, and the pagers of a layout.
-/

namespace FormTree

namespace PagerState

variable {state : PagerState}

/-- **The page shown is in range**, and the flags tell what there is beside it. The comparisons are
those of numbers, not of words. -/
structure InRange (state : PagerState) : Prop where
  position_le : state.position.toNat ≤ max state.pageCount.toNat 1 - 1
  hasNext_iff : state.hasNext = true ↔ state.position.toNat + 1 < state.pageCount.toNat
  hasPrevious_iff : state.hasPrevious = true ↔ 0 < state.position.toNat

/-! ## Words -/

lemma toNat_before (n : UInt64) : (before n).toNat = n.toNat - 1 := by
  unfold before
  split
  · next hzero => rw [hzero]; rfl
  · next hne =>
    have hpos : n.toNat ≠ 0 := fun hzero => hne (UInt64.toNat_inj.mp hzero)
    have hle : (1 : UInt64) ≤ n := UInt64.le_iff_toNat_le.mpr (Nat.pos_of_ne_zero hpos)
    rw [UInt64.toNat_sub_of_le _ _ hle]
    rfl

/-! ## Moves -/

/-- A move shows the page asked for, or the last one. -/
lemma toNat_position_moveTo (state : PagerState) (position : UInt64) :
    (state.moveTo position).position.toNat = min position.toNat (state.pageCount.toNat - 1) := by
  unfold moveTo
  dsimp only
  split
  · next hle =>
    rw [UInt64.le_iff_toNat_le, toNat_before] at hle
    omega
  · next hlt =>
    rw [UInt64.le_iff_toNat_le, toNat_before] at hlt
    rw [toNat_before]
    omega

/-- **A move ends in range**, from whatever state and to whatever page. -/
theorem inRange_moveTo (state : PagerState) (position : UInt64) :
    (state.moveTo position).InRange := by
  have hposition := state.toNat_position_moveTo position
  have hcount : (state.moveTo position).pageCount = state.pageCount := rfl
  constructor
  · rw [hposition, hcount]
    omega
  · have hnext : (state.moveTo position).hasNext = true ↔
        (state.moveTo position).position < before state.pageCount := decide_eq_true_iff
    rw [hnext, UInt64.lt_iff_toNat_lt, toNat_before, hcount]
    omega
  · have hprevious : (state.moveTo position).hasPrevious = true ↔
        0 < (state.moveTo position).position := decide_eq_true_iff
    rw [hprevious, UInt64.lt_iff_toNat_lt]
    rfl

lemma inRange_start (identifier : String) (pageCount : UInt64) :
    (start identifier pageCount).InRange := inRange_moveTo _ 0

/-- **A move that overflows is refused where overflows are checked**, and leads to the first page
where they are not. -/
theorem reduce_of_overflows {intent : PagerIntent} (h : state.overflows intent = true) :
    state.reduce? intent = none ∧ state.reduce intent = state.moveTo 0 := by
  refine ⟨if_pos h, ?_⟩
  cases intent with
  | next =>
    have hlargest : state.position.toNat + 1 = UInt64.size := of_decide_eq_true h
    have hzero : state.position + 1 = 0 := by
      apply UInt64.toNat_inj.mp
      rw [UInt64.toNat_add]
      exact (congrArg (· % 2 ^ 64) hlargest).trans (by decide)
    rw [reduce, hzero]
  | _ => cases h

/-- In range, no move overflows: the next position is a word. -/
lemma InRange.overflows_eq_false (h : state.InRange) (intent : PagerIntent) :
    state.overflows intent = false := by
  cases intent with
  | next =>
    have hle := h.position_le
    have hcount := state.pageCount.toNat_lt_size
    have hsize : 2 ≤ UInt64.size := by decide
    exact decide_eq_false (by omega)
  | _ => rfl

/-- A move ends in range, whether it overflows or not. -/
lemma inRange_reduce (state : PagerState) (intent : PagerIntent) :
    (state.reduce intent).InRange := by
  cases intent <;> exact inRange_moveTo _ _

/-- **One move of a pager in range**: there is a state after it, again in range and of the same
pager; only a move that sets the number of pages changes that number. -/
theorem InRange.exists_reduce (h : state.InRange) (intent : PagerIntent) :
    ∃ next, state.reduce? intent = some next ∧ state.reduce intent = next ∧ next.InRange ∧
      next.identifier = state.identifier ∧
      ((∀ count, intent ≠ .setPageCount count) → next.pageCount = state.pageCount) := by
  have hsome : state.reduce? intent = some (state.reduce intent) :=
    if_neg (by simp [h.overflows_eq_false])
  refine ⟨_, hsome, rfl, inRange_reduce state intent, identifier_reduce state intent,
    fun hother => ?_⟩
  cases intent with
  | setPageCount count => exact absurd rfl (hother count)
  | _ => rfl

/-- **Any number of moves of a pager in range.** -/
theorem exists_foldlM (intents : List PagerIntent) : ∀ {state : PagerState}, state.InRange →
    ∃ final, intents.foldlM reduce? state = some final ∧ intents.foldl reduce state = final ∧
      final.InRange ∧ final.identifier = state.identifier := by
  induction intents with
  | nil => exact fun {state} h => ⟨state, rfl, rfl, h, rfl⟩
  | cons intent intents ih =>
    intro state h
    obtain ⟨next, hnext, hreduce, hrange, hidentifier, -⟩ := h.exists_reduce intent
    obtain ⟨final, hfinal, hfold, hrange', hidentifier'⟩ := ih hrange
    refine ⟨final, ?_, ?_, hrange', hidentifier'.trans hidentifier⟩
    · rw [List.foldlM_cons, hnext]
      exact hfinal
    · rw [List.foldl_cons, hreduce, hfold]

/-! ## Pagers of a layout -/

/-- The pager is in range, has the name that it is declared with, and counts the pages below it. -/
structure Counts (tree : Tree) (id : NodeId) (state : PagerState) : Prop where
  inRange : state.InRange
  declared : ∀ node spec, tree.node? id = some node → node.view = .pager spec →
    state.identifier = spec.id ∧ state.pageCount = UInt64.ofNat node.children.length

/-- The pagers of the tree keep to this; nothing is asked of forms and of data. -/
def standard (tree : Tree) : Standard where
  form _ := True
  pager id := Counts tree id
  entry _ := True

lemma isClosed_standard (tree : Tree) : (standard tree).IsClosed where
  form_empty _ _ := trivial
  form_reduce _ _ _ _ := trivial
  entry_form _ _ _ := trivial
  entry_input _ _ _ := trivial
  pager_reduce id state intent h hintent := by
    obtain ⟨next, -, rfl, hrange, hidentifier, hcount⟩ := h.inRange.exists_reduce intent
    refine ⟨hrange, fun node spec hnode hview => ?_⟩
    obtain ⟨hid, hpages⟩ := h.declared node spec hnode hview
    exact ⟨hidentifier.trans hid, (hcount hintent).trans hpages⟩

lemma starts_standard (tree : Tree) : (standard tree).Starts tree := by
  intro id node spec hnode hview
  refine ⟨inRange_start _ _, fun other otherSpec hother hotherView => ?_⟩
  obtain rfl := Option.some.inj (hnode.symm.trans hother)
  cases hview.symm.trans hotherView
  exact ⟨rfl, rfl⟩

/-- The pager is in range, and there is a state after each move; it has the name that it is declared
with, it counts the given pages, and it shows one of them. -/
structure ShowsPage (spec : PagerSpec) (pages : List NodeId) (state : PagerState) : Prop where
  inRange : state.InRange
  exists_next : ∀ intent, ∃ next, state.reduce? intent = some next ∧ next.InRange
  identifier_eq : state.identifier = spec.id
  pageCount_eq : state.pageCount = UInt64.ofNat pages.length
  /-- Unless there are more pages than words, the count is their number. -/
  toNat_pageCount : pages.length < UInt64.size → state.pageCount.toNat = pages.length
  position_lt : state.position.toNat < pages.length

/-- Where there is a page, a pager that counts its pages shows one. -/
lemma Counts.showsPage {tree : Tree} {id : NodeId} {node : Node} {spec : PagerSpec}
    (h : Counts tree id state) (hnode : tree.node? id = some node)
    (hview : node.view = .pager spec) (hne : node.children ≠ []) :
    state.ShowsPage spec node.children := by
  obtain ⟨hidentifier, hcount⟩ := h.declared node spec hnode hview
  have hnat : state.pageCount.toNat = node.children.length % UInt64.size := by
    rw [hcount, UInt64.toNat_ofNat']
  refine ⟨h.inRange, fun intent => ?_, hidentifier, hcount,
    fun hlt => hnat.trans (Nat.mod_eq_of_lt hlt), ?_⟩
  · obtain ⟨next, hnext, -, hrange, -⟩ := h.inRange.exists_reduce intent
    exact ⟨next, hnext, hrange⟩
  · have hle := h.inRange.position_le
    have hpos := List.length_pos_of_ne_nil hne
    have hmod := Nat.mod_le node.children.length UInt64.size
    omega

end PagerState

/-- A pager that passes the checks has a page. -/
lemma Tree.children_ne_nil_of_pager {tree : Tree} (h : tree.violation? = none) {id : NodeId}
    {node : Node} {spec : PagerSpec} (hnode : tree.node? id = some node)
    (hview : node.view = .pager spec) : node.children ≠ [] := by
  intro hnil
  have hnone := List.findSome?_eq_none_iff.mp h id (List.mem_range.mpr (Tree.lt_size hnode))
  rw [hnode] at hnone
  simp [Node.violation?, hview, hnil] at hnone

namespace Layout

/-- **Pagers stay in range.** Let a pager start with any number of pages, none included, and let it
make any moves, which may set other numbers of pages. Then there is a state after each move, so that
no step to the next page overflows; the page shown is in range, the flags tell whether there are
pages after and before it, and the identifier is the same.

Let a layout be activated, and let any calls follow. Then every pager, and every state that it ever
had, is such a state, so each move from it has a state after it; it has its declared identifier, it
counts the nodes below it, and its position is that of one of these nodes.

**Proof sketch.** Every move ends by stopping at the last page that is counted, which leaves the
state in range, whatever it was before. No position in range is the largest word. In a layout,
pagers move when the renderer scrolls them and when buttons ask for the next or the previous page;
none of these moves sets the number of pages. -/
theorem pagers_stay_in_range :
    (∀ (identifier : String) (pageCount : UInt64) (intents : List PagerIntent),
      ∃ final, intents.foldlM PagerState.reduce? (.start identifier pageCount) = some final ∧
        intents.foldl PagerState.reduce (.start identifier pageCount) = final ∧
        final.InRange ∧ final.identifier = identifier) ∧
    ∀ (environment : Environment) (spec : Spec) (layout : Layout),
      activate environment spec = .ok layout → ∀ (calls : List Call) (id : NodeId) (node : Node)
        (pager : PagerSpec), (Tree.ofSpec spec).node? id = some node → node.view = .pager pager →
      ((layout.run calls).pager id).Always (PagerState.ShowsPage pager node.children) := by
  refine ⟨fun identifier pageCount intents =>
    PagerState.exists_foldlM intents (PagerState.inRange_start identifier pageCount), ?_⟩
  intro environment spec layout h calls id node pager hnode hview
  have hpages := Tree.children_ne_nil_of_pager (activate_eq_ok.mp h).1 hnode hview
  have hupholds := upholds_run h (PagerState.isClosed_standard _) (PagerState.starts_standard _)
    calls fun _ _ _ _ _ _ => trivial
  have hcounts := hupholds.pagers id (Tree.lt_size hnode)
    (by simp [Tree.isPager, Tree.view?, hnode, hview, View.kind])
  exact ⟨hcounts.value.showsPage hnode hview hpages,
    fun state hmem => (hcounts.history state hmem).showsPage hnode hview hpages⟩

/-- A pager with two pages is asked for the last position that there is a word for, and shows the
second page. -/
theorem pagers_stay_in_range_tour :
    ∃ layout : Layout, activate {} tour = .ok layout ∧
      ((layout.run [.scrollTo 3 18446744073709551615]).pager 3).value.position = 1 ∧
      ((layout.run [.scrollTo 3 18446744073709551615]).pager 3).Always
        (PagerState.ShowsPage ⟨"steps"⟩ [4, 5]) := by
  have hactive : activate {} tour = .ok (build {} (Tree.ofSpec tour)).settle :=
    activate_eq_ok.mpr ⟨by decide, rfl⟩
  obtain ⟨node, hnode, hview, hchildren⟩ : ∃ node, (Tree.ofSpec tour).node? 3 = some node ∧
      node.view = .pager ⟨"steps"⟩ ∧ node.children = [4, 5] := ⟨_, rfl, rfl, by decide⟩
  have hshows := pagers_stay_in_range.2 {} tour _ hactive [.scrollTo 3 18446744073709551615] 3 node
    ⟨"steps"⟩ hnode hview
  rw [hchildren] at hshows
  exact ⟨_, hactive, by decide +kernel, hshows⟩

end Layout

end FormTree

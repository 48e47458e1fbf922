import FormTree.Proofs.Recount

set_option autoImplicit false

/-!
# Aggregation

What a form knows of its inputs is brought together piece by piece: inputs announce themselves,
answers change, inputs are gone for good, and every nested form on the way passes on what it comes
to. All the same, a form always knows what one would find by going through the inputs and nested
forms below it and collecting their data anew.

## Main definitions

* `FormTree.Layout.Entered` — the members before some number have announced themselves.
* `FormTree.Tree.tracking` — the inputs that count after some calls.

## Main results

* `FormTree.Layout.aggregates_of_activate` — after activation forms aggregate their members.
* `FormTree.Layout.Aggregates.after` — calls keep that.
* `FormTree.Layout.aggregation_eq_recount` — aggregation equals recounting from the leaves.
-/

namespace FormTree

namespace Layout

variable {layout layout' : Layout} {tracked : NodeId → Bool} {id form member origin : NodeId}
  {key : String} {intent : FormIntent}

/-! ## Activation -/

/-- The members before `bound` have announced themselves, that with number `bound` is doing so, and
those behind have not. -/
structure Entering (bound : NodeId) (layout : Layout) : Prop where
  tallied : layout.Tallied
  recorded : ∀ member, member ≠ bound → layout.Recorded (fun id => decide (id < bound)) member
  blank : ∀ form, bound ≤ form → (layout.tree.form? form).isSome →
    (layout.form form).value.isValid = false
  answers : ∀ id spec, layout.tree.input? id = some spec →
    layout.answers.get id = spec.kind.emptyAnswer

/-- The members before `bound` have announced themselves, and all others have not. -/
def Entered (bound : NodeId) (layout : Layout) : Prop :=
  Entering bound layout ∧ layout.Recorded (fun id => decide (id < bound)) bound

theorem Entering.calm {bound : NodeId} (h : Entering bound layout) (hcalm : Calm layout layout') :
    Entering bound layout' where
  tallied := h.tallied.calm hcalm
  recorded member hne := (h.recorded member hne).calm hcalm
  blank form hle hform := by
    rw [hcalm.tree] at hform
    have hvalid : (layout'.form form).value.isValid = (layout.form form).value.isValid :=
      (congrArg FormState.isValid (hcalm.gist form) :)
    rw [hvalid, h.blank form hle hform]
  answers id spec hinput := by
    rw [hcalm.tree] at hinput
    rw [hcalm.answers, h.answers id spec hinput]

/-- What the member with number `bound` announces, changes nothing about the others. -/
theorem Entering.climb {bound : NodeId} (h : Entering bound layout) (hsound : layout.Sound)
    (hdistinct : layout.tree.HasDistinctKeys) (hclimb : Climb bound intent layout layout')
    (htakes : Allowance.data.takes intent) (hid : intent.id? = some key)
    (hkey : layout.tree.key? bound = some key) : Entering bound layout' where
  tallied := hclimb.tallies hsound htakes hid hkey h.tallied
  recorded member hne := hclimb.recorded hsound hdistinct htakes hid hkey h.tallied
    (fun form hlt _ => decide_eq_true hlt) hne (h.recorded member hne)
  blank form hle hform := by
    rw [(hclimb.sound hsound).2] at hform
    have hvalid : (layout'.form form).value.isValid = (layout.form form).value.isValid :=
      (congrArg FormState.isValid (hclimb.gist_of_le hsound hle) :)
    rw [hvalid, h.blank form hle hform]
  answers id spec hinput := by
    rw [(hclimb.sound hsound).2] at hinput
    rw [hclimb.answers_eq hsound, h.answers id spec hinput]

/-- Once the member with number `bound` is kept as it is, it has announced itself. -/
theorem Entering.entered {bound : NodeId} (h : Entering bound layout)
    (hself : layout.Recorded (fun id => decide (id < bound + 1)) bound) :
    Entered (bound + 1) layout := by
  have hrecorded : ∀ member, layout.Recorded (fun id => decide (id < bound + 1)) member := by
    intro member
    by_cases heq : member = bound
    · exact heq ▸ hself
    · refine (h.recorded member heq).of_tracked ?_
      have hiff : member < bound + 1 ↔ member < bound := by
        unfold NodeId at *
        omega
      simp [hiff]
  exact ⟨⟨h.tallied, fun member _ => hrecorded member,
    fun form hle => h.blank form (Nat.le_of_succ_le hle), h.answers⟩, hrecorded (bound + 1)⟩

/-- What a node announces of itself and its data, asked of the form around it. -/
theorem asks_of_input {tree : Tree} {spec : InputSpec} (h : tree.input? id = some spec) :
    (tree.entrances id).filterMap (·.asks?) =
      [(id, .track spec.id (spec.isValid spec.kind.emptyAnswer)),
        (id, .input (spec.entry spec.kind.emptyAnswer))] := by
  rw [Tree.entrances, Tree.input?_eq_some.mp h]
  rfl

theorem asks_of_isChild {tree : Tree} {node : Node} {spec : FormSpec}
    (h : tree.form? id = some (node, spec)) (hchild : tree.isChild id = true) :
    (tree.entrances id).filterMap (·.asks?) = [(id, .track spec.id false)] := by
  obtain ⟨hnode, hview⟩ := Tree.form?_eq_some.mp h
  have hnested : spec.isChild = true := (Tree.isChild_of_form? h).symm.trans hchild
  rw [Tree.entrances, Tree.view?, hnode, Option.map_some, hview]
  dsimp only
  rw [if_pos hnested]
  rfl

/-- Other nodes do not announce themselves. -/
theorem asks_of_key? {tree : Tree} (h : tree.key? id = none) :
    (tree.entrances id).filterMap (·.asks?) = [] := by
  unfold Tree.key? at h
  unfold Tree.entrances
  cases hview : tree.view? id with
  | none => rfl
  | some view =>
    rw [hview] at h
    cases view with
    | input spec => cases h
    | form spec =>
      cases hchild : spec.isChild with
      | true => simp [hchild] at h
      | false => simp [hchild]
    | _ => rfl

/-- An input announces its validity, and then its data. -/
theorem Entered.enter_input {bound : NodeId} {spec : InputSpec} (h : Entered bound layout)
    (hdistinct : layout.tree.HasDistinctKeys) (hinput : layout.tree.input? bound = some spec)
    (hclimbs : Climbs ((layout.tree.entrances bound).filterMap (·.asks?)) layout layout') :
    Entered (bound + 1) layout' := by
  rw [asks_of_input hinput] at hclimbs
  obtain ⟨tracking, tracked, hcalm, hsound, hclimb, sending, sent, hcalm', hsound', hclimb',
    hcalm''⟩ := hclimbs
  have hkey := Tree.key?_of_input? hinput
  have htree : sending.tree = layout.tree :=
    (hcalm'.tree.trans (hclimb.sound hsound).2).trans hcalm.tree
  have htree' : sent.tree = layout.tree := (hclimb'.sound hsound').2.trans htree
  have hsending : Entering bound sending :=
    ((h.1.calm hcalm).climb hsound (hcalm.tree ▸ hdistinct) hclimb trivial rfl
      (hcalm.tree ▸ hkey)).calm hcalm'
  have hsent := hsending.climb hsound' (htree ▸ hdistinct) hclimb' trivial rfl (htree ▸ hkey)
  refine (hsent.calm hcalm'').entered (.calm (fun form key haround hkey' => ?_) hcalm'')
  rw [htree'] at haround hkey'
  obtain rfl : spec.id = key := Option.some.inj (hkey.symm.trans hkey')
  have hshare : sent.share (fun id => decide (id < bound + 1)) bound =
      some (spec.entry spec.kind.emptyAnswer) := by
    rw [share, if_pos (decide_eq_true (Nat.lt_succ_self bound)), contribution, htree',
      Tree.input?_eq_some.mp hinput]
    dsimp only
    rw [hsent.answers bound spec (htree' ▸ hinput)]
  rw [hshare]
  exact hclimb'.holds_around hsound' (htree ▸ haround) (FormState.holds_input _ _)

/-- A nested form announces that it is not valid; so far it has nothing. -/
theorem Entered.enter_form {bound : NodeId} {node : Node} {spec : FormSpec}
    (h : Entered bound layout) (hdistinct : layout.tree.HasDistinctKeys)
    (hform : layout.tree.form? bound = some (node, spec))
    (hchild : layout.tree.isChild bound = true)
    (hclimbs : Climbs ((layout.tree.entrances bound).filterMap (·.asks?)) layout layout') :
    Entered (bound + 1) layout' := by
  rw [asks_of_isChild hform hchild] at hclimbs
  obtain ⟨tracking, tracked, hcalm, hsound, hclimb, hcalm'⟩ := hclimbs
  have hkey : layout.tree.key? bound = some spec.id := Tree.key?_of_isChild hform hchild
  have htree : tracked.tree = layout.tree := (hclimb.sound hsound).2.trans hcalm.tree
  have hbefore := h.1.calm hcalm
  have hafter :=
    hbefore.climb hsound (hcalm.tree ▸ hdistinct) hclimb trivial rfl (hcalm.tree ▸ hkey)
  refine (hafter.calm hcalm').entered (.calm (fun form key haround hkey' => ?_) hcalm')
  rw [htree] at haround hkey'
  obtain rfl : spec.id = key := Option.some.inj (hkey.symm.trans hkey')
  have hnone := h.2.calm hcalm form spec.id (hcalm.tree ▸ haround) (hcalm.tree ▸ hkey)
  have hshare : tracking.share (fun id => decide (id < bound)) bound = none := by simp [share]
  rw [hshare] at hnone
  have hvalid : (spec.entry (tracking.form bound).value).isValid = false :=
    hbefore.blank bound (Nat.le_refl _) (by rw [hcalm.tree, hform]; rfl)
  rw [share_of_isChild (htree ▸ hform) (htree ▸ hchild) (decide_eq_true (Nat.lt_succ_self bound)),
    entry_of_gist (hclimb.gist_of_le hsound (Nat.le_refl _))]
  exact hclimb.holds_around hsound (hcalm.tree ▸ haround) (hnone.track hvalid)

/-- **A node announces itself**: then it is kept as it is, and all else is as before. -/
theorem Entered.enter {bound : NodeId} (h : Entered bound layout)
    (hdistinct : layout.tree.HasDistinctKeys)
    (hclimbs : Climbs ((layout.tree.entrances bound).filterMap (·.asks?)) layout layout') :
    Entered (bound + 1) layout' := by
  cases hinput : layout.tree.input? bound with
  | some spec => exact h.enter_input hdistinct hinput hclimbs
  | none =>
    cases hkey : layout.tree.key? bound with
    | some key =>
      obtain ⟨node, spec, hform, hchild⟩ := Tree.isChild_of_key? hinput hkey
      exact h.enter_form hdistinct hform hchild hclimbs
    | none =>
      have hcalm : Calm layout layout' := by
        rwa [asks_of_key? hkey] at hclimbs
      refine (h.1.calm hcalm).entered fun form key _ hkey' => ?_
      rw [hcalm.tree, hkey] at hkey'
      cases hkey'

/-- **All nodes announce themselves**, one after the other. -/
theorem Entered.climbs (h : Entered 0 layout) (hdistinct : layout.tree.HasDistinctKeys) :
    ∀ (count : Nat) {layout' : Layout}, Climbs ((List.range count).flatMap fun id =>
      (layout.tree.entrances id).filterMap (·.asks?)) layout layout' → Entered count layout' := by
  intro count
  induction count with
  | zero => exact fun hcalm => ⟨h.1.calm hcalm, h.2.calm hcalm⟩
  | succ count ih =>
    intro layout' hclimbs
    rw [List.range_succ, List.flatMap_append, List.flatMap_singleton] at hclimbs
    obtain ⟨between, hfirst, hlast⟩ := hclimbs.of_append
    have htree := hfirst.tree_eq
    rw [← htree] at hdistinct hlast
    exact (ih hfirst).enter hdistinct hlast

/-- Once all nodes are set up, none has announced itself. -/
theorem Assembled.entered {environment : Environment} {tree : Tree}
    (h : Assembled environment tree tree.size layout) (hlinked : tree.Linked) :
    Entered 0 layout := by
  have hfresh : ∀ form, (tree.form? form).isSome → ∃ node spec,
      tree.form? form = some (node, spec) ∧ Fresh spec (layout.form form) := by
    intro form hform
    obtain ⟨⟨node, spec⟩, hspec⟩ := Option.isSome_iff_exists.mp hform
    exact ⟨node, spec, hspec, h.fresh form node spec (Tree.lt_size_of_form? hform) hspec⟩
  have hnone : ∀ form key, (tree.form? form).isSome → (layout.form form).value.Holds key none := by
    intro form key hform
    obtain ⟨node, spec, -, hstart⟩ := hfresh form hform
    rw [hstart.value]
    constructor <;> simp [FormState.start]
  have hrecorded : ∀ member, layout.Recorded (fun id => decide (id < 0)) member := by
    intro member form key haround _
    have hshare : layout.share (fun id => decide (id < 0)) member = none := by simp [share]
    rw [hshare]
    rw [h.tree_eq] at haround
    exact hnone form key (hlinked.formAround_spec haround).2
  refine ⟨⟨fun form hform => ?_, fun member _ => hrecorded member, fun form _ hform => ?_,
    fun id spec hinput => ?_⟩, hrecorded 0⟩
  · rw [h.tree_eq] at hform ⊢
    refine ⟨fun node spec hspec => ?_, ?_, ?_, fun key => .inl (hnone form key hform)⟩
    · obtain ⟨node', spec', hspec', hstart⟩ := hfresh form hform
      rw [hspec] at hspec'
      cases hspec'
      rw [hstart.value]
      exact ⟨rfl, rfl, rfl⟩
    · obtain ⟨node, spec, -, hstart⟩ := hfresh form hform
      rw [hstart.value]
      simp [FormState.start]
    · obtain ⟨node, spec, -, hstart⟩ := hfresh form hform
      rw [hstart.value]
      rfl
  · rw [h.tree_eq] at hform
    obtain ⟨node, spec, -, hstart⟩ := hfresh form hform
    rw [hstart.value]
    rfl
  · rw [h.tree_eq] at hinput
    have hview := Tree.input?_eq_some.mp hinput
    have hlt : id < tree.size := by
      obtain ⟨node, hnode, -⟩ := Option.map_eq_some_iff.mp hview
      exact Tree.lt_size hnode
    exact h.answers id spec hlt hview

/-- What waits once all nodes are set up, and asks something of forms, is what nodes announce. -/
theorem Assembled.asks {environment : Environment} {tree : Tree}
    (h : Assembled environment tree tree.size layout) :
    layout.outbox.queue.filterMap (·.asks?) =
      (List.range tree.size).flatMap fun id => (tree.entrances id).filterMap (·.asks?) := by
  rw [← List.filterMap_flatMap, ← h.entrances, List.filterMap_filter]
  refine List.filterMap_congr fun dispatch hd => ?_
  cases hentrance : dispatch.isEntrance with
  | true => rfl
  | false => exact (h.announcements dispatch hd hentrance).isTidy.asks?

/-- **After activation every form aggregates its members**, if the limit was not reached. -/
theorem aggregates_of_activate {environment : Environment} {root : Spec}
    (h : activate environment root = .ok layout)
    (hdistinct : (Tree.ofSpec root).HasDistinctKeys) (hdropped : layout.dropped = []) :
    Aggregates (fun _ => true) layout := by
  obtain ⟨hviolation, rfl⟩ := activate_eq_ok.mp h
  have wf := Tree.wellFormed_of_violation? (Tree.linked_ofSpec root) hviolation
  have hbuild := assembled_build environment wf
  generalize build environment (Tree.ofSpec root) = built at hbuild hdropped
  have hclimbs := (hbuild.tidy wf).climbs_settle (fun _ hb => hb) hdropped
  rw [hbuild.asks, ← hbuild.tree_eq] at hclimbs
  have htree := hclimbs.tree_eq
  obtain ⟨hentering, hself⟩ :=
    (hbuild.entered wf.linked).climbs (hbuild.tree_eq ▸ hdistinct) _ hclimbs
  refine ⟨hentering.tallied, fun member form key haround hkey => ?_, fun _ _ => rfl⟩
  have hlt : member < built.tree.size := by
    rw [htree] at haround
    exact List.mem_range.mp (Tree.mem_ids_of_formAround haround)
  exact (hentering.recorded member (Nat.ne_of_lt hlt)).of_tracked (decide_eq_true hlt).symm form key
    haround hkey

end Layout

/-! ## Runs -/

/-- The inputs that count after a call: one that is gone for good does not count any more, until it
takes an answer. -/
def Call.tracking (tree : Tree) (tracked : NodeId → Bool) (call : Call) (id : NodeId) : Bool :=
  match call, tree.input? id with
  | .withdraw node, some _ => tracked id && node ≠ id
  | .setAnswer node answer, some spec => tracked id || (node = id && spec.accepts answer)
  | _, _ => tracked id

/-- The inputs that count after some calls; to begin with all do. -/
def Tree.tracking (tree : Tree) (calls : List Call) : NodeId → Bool :=
  calls.foldl (Call.tracking tree) fun _ => true

/-- Whether an input counts after something is done to it, in place of what it did before. -/
def InputAct.counts (before : Bool) : InputAct → Bool
  | .display _ => before
  | .fill _ => true
  | .withdraw => false

namespace Layout

variable {layout layout' : Layout} {tracked : NodeId → Bool} {id form member origin : NodeId}
  {key : String} {intent : FormIntent} {call : Call}

theorem tracking_of_isChild {tree : Tree} (call : Call) (hchild : tree.isChild form = true)
    (htracked : tracked form = true) : call.tracking tree tracked form = true := by
  have hinput : tree.input? form = none := by
    cases hspec : tree.input? form with
    | none => rfl
    | some spec =>
      have hview := Tree.input?_eq_some.mp hspec
      cases hform : tree.form? form with
      | none => simp [Tree.isChild, hform] at hchild
      | some pair =>
        obtain ⟨hnode, hform⟩ := Tree.form?_eq_some.mp hform
        rw [Tree.view?, hnode, Option.map_some, hform] at hview
        cases hview
  unfold Call.tracking
  rw [hinput]
  cases call <;> exact htracked

theorem Aggregates.calm (h : Aggregates tracked layout) (hcalm : Calm layout layout') :
    Aggregates tracked layout' :=
  ⟨h.tallied.calm hcalm, fun member => (h.recorded member).calm hcalm,
    fun form hchild => h.nested form (hcalm.tree ▸ hchild)⟩

/-- The share of an input is its answer. -/
theorem share_of_input {spec : InputSpec} (h : layout.tree.input? id = some spec) :
    layout.share tracked id =
      if tracked id then some (spec.entry (layout.answers.get id)) else none := by
  rw [share, contribution, Tree.input?_eq_some.mp h]

/-- A call that does something to an input, leaves other inputs alone. -/
theorem tracking_of_ne {act : InputAct} (tree : Tree) (hact : call.inputAct? = some (id, act))
    (hne : member ≠ id) : call.tracking tree tracked member = tracked member := by
  unfold Call.tracking
  cases tree.input? member with
  | none => cases call <;> rfl
  | some spec => cases call <;> cases hact <;> simp [Ne.symm hne]

/-- What is done to an input, makes it count or not. -/
theorem tracking_self {tree : Tree} {act : InputAct} {spec : InputSpec} (tracked : NodeId → Bool)
    (hact : call.inputAct? = some (id, act)) (hinput : tree.input? id = some spec)
    (htaken : act.isTaken spec = true) :
    call.tracking tree tracked id = act.counts (tracked id) := by
  unfold Call.tracking InputAct.counts
  rw [hinput]
  cases call <;> cases hact <;> first | rfl | simp
  exact .inr htaken

/-- A call that does nothing to an input, changes nothing of what counts. -/
theorem tracking_of_not_isTaken {tree : Tree} (hnone : ∀ id act spec,
      call.inputAct? = some (id, act) → tree.input? id = some spec → act.isTaken spec = false) :
    call.tracking tree tracked = tracked := by
  funext id
  unfold Call.tracking
  cases hinput : tree.input? id with
  | none => cases call <;> rfl
  | some spec =>
    cases call with
    | withdraw node =>
      by_cases heq : node = id
      · have := hnone id .withdraw spec (by rw [← heq]; rfl) hinput
        cases this
      · simp [heq]
    | setAnswer node answer =>
      by_cases heq : node = id
      · have hrefused : spec.accepts answer = false :=
          hnone id (.fill answer) spec (by rw [← heq]; rfl) hinput
        simp [hrefused]
      · simp [heq]
    | _ => rfl

/-- **What is done to an input is kept** by the form around it. -/
theorem Climb.recorded_act {tracked' : NodeId → Bool} {spec : InputSpec} {act : InputAct}
    (hclimb : Climb id intent layout layout') (hsound : layout.Sound)
    (hintent : (act.event spec).formIntent? = some intent)
    (hinput : layout.tree.input? id = some spec)
    (hanswer : ∀ answer, act = .fill answer → layout.answers.get id = answer)
    (hbefore : ∀ isDisplayed, act = .display isDisplayed → layout.Recorded tracked id)
    (hcounts : tracked' id = act.counts (tracked id)) : layout'.Recorded tracked' id := by
  have htree := (hclimb.sound hsound).2
  have hown := Tree.key?_of_input? hinput
  intro form key haround hkey
  rw [htree] at haround hkey
  obtain rfl : spec.id = key := Option.some.inj (hown.symm.trans hkey)
  rw [share_of_input (htree ▸ hinput), hcounts, hclimb.answers_eq hsound]
  refine hclimb.holds_around hsound haround ?_
  cases act with
  | display isDisplayed =>
    cases hintent
    have hholds := hbefore isDisplayed rfl form spec.id haround hown
    rw [share_of_input hinput] at hholds
    exact ⟨hholds.validity, hholds.inputs⟩
  | fill answer =>
    cases hintent
    rw [InputAct.counts, if_pos rfl, hanswer answer rfl]
    exact FormState.holds_input _ _
  | withdraw =>
    cases hintent
    exact FormState.holds_withdraw _ _

/-- **What is done to an input, keeps that forms aggregate their members.** -/
theorem Aggregates.input {spec : InputSpec} {act : InputAct} (h : Aggregates tracked layout)
    (hsound : layout.Sound) (hdistinct : layout.tree.HasDistinctKeys) (states : Table NodeState)
    (hact : call.inputAct? = some (id, act)) (hinput : layout.tree.input? id = some spec)
    (htaken : act.isTaken spec = true) :
    Aggregates (call.tracking layout.tree tracked)
      ({ layout with states, answers := act.answers id layout.answers }.bubble id
        (act.event spec)) := by
  obtain ⟨intent, hintent, hid⟩ : ∃ intent, (act.event spec).formIntent? = some intent ∧
      intent.id? = some spec.id := by
    cases act <;> exact ⟨_, rfl, rfl⟩
  generalize hstart : ({ layout with states, answers := act.answers id layout.answers } : Layout) =
    start
  have htree : start.tree = layout.tree := by rw [← hstart]
  have hforms : ∀ form, start.form form = layout.form form := by
    intro form
    rw [← hstart]
    rfl
  have hsound' : start.Sound := hstart ▸ hsound.congr rfl (fun _ => rfl) fun _ => rfl
  have htallied := h.tallied.of_forms htree hforms
  have hclimb := hsound'.climb id hintent
  rw [← htree] at hdistinct hinput ⊢
  have htakes := Event.takes_data hintent
  have hkey := Tree.key?_of_input? hinput
  have htree' := (hclimb.sound hsound').2
  refine ⟨hclimb.tallies hsound' htakes hid hkey htallied, fun member => ?_, fun form hchild => ?_⟩
  · by_cases heq : member = id
    · subst heq
      refine hclimb.recorded_act hsound' hintent hinput ?_ ?_
        (tracking_self tracked hact hinput htaken)
      · intro answer hfill
        rw [← hstart, hfill]
        exact Table.get_set_self ..
      · intro isDisplayed hdisplay
        refine (h.recorded member).of_forms htree ?_ hforms
        rw [← hstart, hdisplay]
        rfl
    · -- the answers of other inputs stay
      have hget : start.answers.get member = layout.answers.get member := by
        rw [← hstart]
        cases act with
        | fill answer => exact Table.get_set_of_ne _ (Ne.symm heq) _
        | _ => rfl
      have hbefore := (h.recorded member).of_forms htree hget hforms
      exact (hclimb.recorded hsound' hdistinct htakes hid hkey htallied
        (fun form _ hchild => h.nested form (htree ▸ hchild)) heq hbefore).of_tracked
        (tracking_of_ne start.tree hact heq)
  · rw [htree'] at hchild
    exact tracking_of_isChild call hchild (h.nested form (htree ▸ hchild))

/-- **A call keeps that forms aggregate their members**, whether or not the limit is reached. -/
theorem Aggregates.after (h : Aggregates tracked layout) (hidle : layout.Idle)
    (hdistinct : layout.tree.HasDistinctKeys) (hcall : call.IsOrdinary layout.tree) :
    Aggregates (call.tracking layout.tree tracked) (layout.after call) := by
  obtain ⟨raised, hraises, hafter⟩ := exists_raises hidle.queue hcall
  have hcalm := (hidle.tidy_raised hraises).1.calm_settle
  rw [hafter]
  refine Aggregates.calm ?_ hcalm
  cases hraises with
  | input states hact hinput htaken =>
    exact h.input hidle.sound hdistinct states hact hinput htaken
  | steps hnone hsteps =>
    rw [tracking_of_not_isTaken hnone]
    exact h.calm (hidle.sound.calm_steps (Allowance.not_takes id id) (fun _ hb => hb) hsteps)

/-- A run keeps that forms aggregate their members. -/
theorem Aggregates.run {tree : Tree} (hdistinct : tree.HasDistinctKeys) :
    ∀ (calls : List Call) {layout : Layout} {tracked : NodeId → Bool}, Aggregates tracked layout →
    layout.Idle → layout.tree = tree → (∀ call ∈ calls, call.IsOrdinary tree) →
    Aggregates (calls.foldl (Call.tracking tree) tracked) (layout.run calls) := by
  intro calls
  induction calls with
  | nil => exact fun h _ _ _ => h
  | cons call calls ih =>
    intro layout tracked h hidle htree hcalls
    have hcall : call.IsOrdinary layout.tree := htree ▸ hcalls call (by simp)
    have hafter := h.after hidle (htree ▸ hdistinct) hcall
    rw [htree] at hafter
    exact ih hafter (hidle.after hcall) ((keeps_after layout call hidle.sound).2.1.trans htree)
      fun other hother => hcalls other (by simp [hother])

/-- **Aggregation equals recounting from the leaves.** Let a layout be activated in which no two
members of a form have the same identifier, without the limit of a pass being reached, and let calls
of the renderer and submissions asked for from outside follow, some of which may be refused. Then
what each form knows of its inputs is what one finds by going through the inputs and nested forms
whose nearest form it is, and recounting these nested forms likewise: the validities of all that is
tracked, the entries of what is valid, whether there is something and all of it is valid, and the
attribute updates of what is valid. So are the data that it contributes to the form around it: they
have the identifier, the kind and the response type that the form is declared with, and below them
stand the recounted entries.

**Proof sketch.** Between calls, every form keeps each of its members as it is now. What an input
tells climbs; a form that takes it over keeps the input as it is then, and what it comes to is taken
over by the form around it, unless it stays as it was. Once activated, the nodes announce themselves
in tree order, so a nested form does so before anything in it changes. -/
theorem aggregation_eq_recount {environment : Environment} {root : Spec}
    (h : activate environment root = .ok layout) (hdistinct : (Tree.ofSpec root).HasDistinctKeys)
    (hdropped : layout.dropped = []) {calls : List Call}
    (hcalls : ∀ call ∈ calls, call.IsOrdinary (Tree.ofSpec root))
    {node : Node} {spec : FormSpec} (hform : (Tree.ofSpec root).form? id = some (node, spec)) :
    let state := ((layout.run calls).form id).value
    let recounted := (layout.run calls).recount ((Tree.ofSpec root).tracking calls) id
    state.validity = recounted.validity ∧ state.isValid = recounted.isValid ∧
      state.inputs = recounted.inputs ∧ state.attributes = recounted.attributes ∧
      spec.entry state = spec.entry recounted ∧ (spec.entry state).IsDataOf spec recounted := by
  intro state recounted
  have hidle := idle_of_activate h
  have htree := (sound_of_activate h).2.1
  obtain ⟨hsound, htree', -⟩ := keeps_run layout calls hidle.sound
  have hrun := (aggregates_of_activate h hdistinct hdropped).run hdistinct calls hidle htree hcalls
  have hdata : state.data = recounted.data := by
    refine hrun.data_eq_recount hsound.wf.linked ?_ _ id (Nat.le_refl _) ?_
    · rw [htree', htree]
      exact hdistinct
    · rw [htree', htree, hform]
      rfl
  have hentry : spec.entry state = spec.entry recounted := (congrArg spec.entry hdata :)
  exact ⟨(congrArg FormState.validity hdata :), (congrArg FormState.isValid hdata :),
    (congrArg FormState.inputs hdata :), (congrArg FormState.attributes hdata :), hentry,
    FormSpec.isDataOf_iff.mpr hentry⟩

/-- A form with an input and a nested form, in which the identifier of the input is used again. -/
def application : Spec :=
  ⟨.form { id := "application" }, [], [
    ⟨.input { id := "name", kind := .textInput, isRequired := true }, [], []⟩,
    ⟨.form { id := "spouse", submit := none }, [], [
      ⟨.input { id := "name", kind := .textInput, isRequired := true }, [], []⟩,
      ⟨.input { id := "consent", kind := .toggle }, [], []⟩]⟩]⟩

/-- The names are given, an answer of another kind is refused, and one input is gone for good. -/
def applicationCalls : List Call :=
  [.setAnswer 3 (.textInput (some "Ada")), .setAnswer 1 (.toggle true), .withdraw 4,
    .setAnswer 1 (.textInput (some "Bob"))]

/-- What the form then has: both names, that of the nested form below its own entry. -/
theorem aggregation_eq_recount_application :
    ∃ layout final : Layout, activate {} application = .ok layout ∧ layout.dropped = [] ∧
      final = layout.run applicationCalls ∧
      let state := (final.form 0).value
      let recounted := final.recount (fun id => id ≠ 4) 0
      let data := FormSpec.entry { id := "application" }
      state.validity = recounted.validity ∧ state.isValid = recounted.isValid ∧
      state.inputs = recounted.inputs ∧ state.attributes = recounted.attributes ∧
      data state = data recounted ∧
      data recounted = ⟨"application", .form none [⟨"name", .textInput (some "Bob"), true, ∅⟩,
        ⟨"spouse", .form none [⟨"name", .textInput (some "Ada"), true, ∅⟩], true, ∅⟩], true,
        ∅⟩ := by
  have hactive : activate {} application = .ok (build {} (Tree.ofSpec application)).settle :=
    activate_eq_ok.mpr ⟨by decide, rfl⟩
  have hdropped : (build {} (Tree.ofSpec application)).settle.dropped = [] := by decide +kernel
  have hdistinct : (Tree.ofSpec application).HasDistinctKeys := by decide
  have hform : (Tree.ofSpec application).form? 0 = some
      ({ view := .form { id := "application" }, enable := [], ancestors := [], children := [1, 2]
         size := 5, scope := {} }, { id := "application" }) := by decide
  have hcalls : ∀ call ∈ applicationCalls, call.IsOrdinary (Tree.ofSpec application) := by
    intro call hcall
    simp only [applicationCalls, List.mem_cons, List.not_mem_nil, or_false] at hcall
    rcases hcall with rfl | rfl | rfl | rfl <;> trivial
  have htracked : (Tree.ofSpec application).tracking applicationCalls =
      fun id => decide (id ≠ 4) := by
    funext id
    by_cases heq : id = 4
    · subst heq
      decide
    · cases hinput : (Tree.ofSpec application).input? id <;>
        simp [Tree.tracking, Call.tracking, applicationCalls, hinput, heq, Ne.symm heq]
  have hdata : FormSpec.entry { id := "application" }
      (((build {} (Tree.ofSpec application)).settle.run applicationCalls).form 0).value =
        ⟨"application", .form none [⟨"name", .textInput (some "Bob"), true, ∅⟩,
          ⟨"spouse", .form none [⟨"name", .textInput (some "Ada"), true, ∅⟩], true, ∅⟩], true,
          ∅⟩ := by
    decide +kernel
  obtain ⟨hvalidity, hvalid, hinputs, hattributes, hentry, -⟩ :=
    aggregation_eq_recount hactive hdistinct hdropped hcalls hform
  rw [htracked] at hvalidity hvalid hinputs hattributes hentry
  exact ⟨_, _, hactive, hdropped, rfl, hvalidity, hvalid, hinputs, hattributes, hentry,
    hentry.symm.trans hdata⟩

end Layout

end FormTree

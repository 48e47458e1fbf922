import FormTree.Entry
import Mathlib.Data.List.Nodup
import Mathlib.Tactic.Lemma

set_option autoImplicit false

/-!
# What the encoding of form data tells

An object says which members it has, but not in which order they were put into it, and of several
members of one name it keeps one. The entries of a form are encoded as an object whose names are
their identifiers. So where no two siblings have the same identifier, the encoding of form data
tells everything but the order of siblings, and but for what is left out of it: whether an entry is
valid, and what it writes to attributes.

## Main definitions

* `FormTree.Entry.IsDistinct` — no two siblings have the same identifier, at any level.
* `FormTree.Entry.Alike` — the same data, but for what is not encoded.

## Main results

* `FormTree.Json.object_eq_object_iff` — objects are equal if they have the same members.
* `FormTree.Answer.IsDistinct.exists_member?_children` — entries have places of their own.
* `FormTree.Entry.toJson_eq_iff` — form data is encoded in the same way if it is alike.
-/

namespace FormTree

/-! ## Objects -/

namespace Json

variable {members members' : List (String × Json)} {name : String} {value : Json}

/-- Where no name occurs twice, an object has all the members that are put into it. -/
theorem perm_toList_ofList (h : (members.map (·.1)).Nodup) :
    (Std.ExtTreeMap.ofList members compare).toList.Perm members := by
  have hpairs : members.Pairwise fun first second => ¬ compare first.1 second.1 = .eq := by
    refine (List.pairwise_map.mp h).imp fun hne heq => hne ?_
    exact Std.LawfulEqCmp.eq_of_compare heq
  have hnodup : (Std.ExtTreeMap.ofList members compare).toList.Nodup :=
    List.Nodup.of_map Prod.fst (by
      rw [Std.ExtTreeMap.map_fst_toList_eq_keys]
      exact Std.ExtTreeMap.nodup_keys)
  refine (List.perm_ext_iff_of_nodup hnodup (List.Nodup.of_map _ h)).mpr ?_
  rintro ⟨name, value⟩
  rw [Std.ExtTreeMap.mem_toList_iff_getElem?_eq_some]
  constructor
  · intro hget
    have hname : name ∈ members.map (·.1) := by
      by_contra hnot
      rw [Std.ExtTreeMap.getElem?_ofList_of_contains_eq_false (by simpa using hnot)] at hget
      cases hget
    obtain ⟨⟨_, other⟩, hmem, rfl⟩ := List.mem_map.mp hname
    have hother := Std.ExtTreeMap.getElem?_ofList_of_mem Std.ReflCmp.compare_self hpairs hmem
    obtain rfl := Option.some.inj (hother.symm.trans hget)
    exact hmem
  · exact Std.ExtTreeMap.getElem?_ofList_of_mem Std.ReflCmp.compare_self hpairs

/-- **Objects are equal if they have the same members**, where no name occurs twice. -/
theorem object_eq_object_iff (h : (members.map (·.1)).Nodup) (h' : (members'.map (·.1)).Nodup) :
    object members = object members' ↔ members.Perm members' := by
  have hlist := perm_toList_ofList h
  have hlist' := perm_toList_ofList h'
  constructor
  · intro heq
    rw [Json.obj.inj heq] at hlist
    exact hlist.symm.trans hlist'
  · intro hperm
    have hmaps : Std.ExtTreeMap.ofList members compare = Std.ExtTreeMap.ofList members' compare :=
      Std.ExtTreeMap.ext_getElem? fun name => Option.ext fun value => ?_
    · rw [object, object, hmaps]
    rw [← Std.ExtTreeMap.mem_toList_iff_getElem?_eq_some,
      ← Std.ExtTreeMap.mem_toList_iff_getElem?_eq_some, hlist.mem_iff, hlist'.mem_iff,
      hperm.mem_iff]

/-- Of objects whose members are put into them in the order of the same names, none are equal but
those of the same members. -/
theorem eq_of_object_eq (hnames : members.map (·.1) = members'.map (·.1))
    (h : (members.map (·.1)).Nodup) (heq : object members = object members') :
    members = members' := by
  have hperm := (object_eq_object_iff h (hnames ▸ h)).mp heq
  clear heq
  induction members generalizing members' with
  | nil => exact (List.map_eq_nil_iff.mp hnames.symm).symm
  | cons first rest ih =>
    cases members' with
    | nil => cases hnames
    | cons first' rest' =>
      obtain ⟨hname, hlater⟩ := List.cons.inj hnames
      obtain ⟨hfirst, hrest⟩ := List.nodup_cons.mp h
      -- the first member is among the others, but none of the later ones has its name
      have hsame : first = first' := by
        rcases List.mem_cons.mp (hperm.mem_iff.mp List.mem_cons_self) with heq | hmem
        · exact heq
        · exact absurd (hlater ▸ List.mem_map_of_mem hmem) hfirst
      subst hsame
      rw [ih hlater hrest hperm.cons_inv]

/-- What is put into an object is found there under its name. -/
theorem member?_object (h : (members.map (·.1)).Nodup) (hmem : (name, value) ∈ members) :
    (object members).member? name = some value := by
  have hlist := perm_toList_ofList h
  have hnodup : ((Std.ExtTreeMap.ofList members compare).toList.map (·.1)).Nodup :=
    (hlist.map _).nodup_iff.mpr h
  obtain ⟨before, after, hsplit⟩ := List.append_of_mem (hlist.mem_iff.mpr hmem)
  refine List.lookup_eq_some_iff.mpr ⟨before, after, hsplit, fun other hother => ?_⟩
  rw [hsplit, List.map_append, List.nodup_append] at hnodup
  rw [bne_iff_ne]
  exact (hnodup.2.2 _ (List.mem_map_of_mem hother) name (by simp)).symm

/-- The texts of a set are told apart from those of any other. -/
theorem strings_inj {texts texts' : Std.ExtTreeSet String compare} :
    texts.toList.map str = texts'.toList.map str ↔ texts = texts' := by
  rw [List.map_inj_right fun _ _ => Json.str.inj, Std.ExtTreeSet.toList_inj]

/-- An optional text is told apart from any other. -/
theorem ofText?_inj {text text' : Option String} : ofText? text = ofText? text' ↔ text = text' := by
  cases text <;> cases text' <;> simp [ofText?]

end Json

/-! ## Distinct siblings -/

mutual

/-- No two siblings among the entries of a nested form have the same identifier, at any level. -/
def Answer.IsDistinct : Answer → Prop
  | .form _ children | .nps _ _ children =>
    (children.map (·.id)).Nodup ∧ Entry.AreDistinct children
  | _ => True
termination_by structural answer => answer

/-- No two siblings below the entry have the same identifier, at any level. -/
def Entry.IsDistinct : Entry → Prop
  | ⟨_, answer, _, _⟩ => answer.IsDistinct
termination_by structural entry => entry

/-- So it is below each of several entries. -/
def Entry.AreDistinct : List Entry → Prop
  | [] => True
  | entry :: rest => entry.IsDistinct ∧ Entry.AreDistinct rest
termination_by structural entries => entries

end

theorem Entry.isDistinct_iff {entry : Entry} : entry.IsDistinct ↔ entry.answer.IsDistinct := by
  cases entry
  rfl

theorem Entry.areDistinct_iff {entries : List Entry} :
    Entry.AreDistinct entries ↔ ∀ entry ∈ entries, entry.IsDistinct := by
  induction entries with
  | nil => simp [Entry.AreDistinct]
  | cons first rest ih => rw [Entry.AreDistinct, ih, List.forall_mem_cons]

/-! ## Alike data -/

mutual

/-- The answers are of one kind and tell the same; the entries of nested forms are alike, in some
order. -/
def Answer.Alike : Answer → Answer → Prop
  | .textInput text, .textInput text' => text = text'
  | .toggle isOn, .toggle isOn' => isOn = isOn'
  | .checkbox isOn, .checkbox isOn' => isOn = isOn'
  | .multipleChoice choices, .multipleChoice choices' => choices = choices'
  | .singleChoice choice, .singleChoice choice' => choice = choice'
  | .score value, .score value' => value = value'
  | .form responseType children, .form responseType' children' =>
    responseType = responseType' ∧ Entry.AllAlike children children'
  | .nps scoreId responseType children, .nps scoreId' responseType' children' =>
    scoreId = scoreId' ∧ responseType = responseType' ∧ Entry.AllAlike children children'
  | _, _ => False
termination_by structural answer => answer

/-- The entries have the same identifier and answers that are alike. -/
def Entry.Alike : Entry → Entry → Prop
  | ⟨id, answer, _, _⟩, other => id = other.id ∧ answer.Alike other.answer
termination_by structural entry => entry

/-- The entries are alike one by one, in some order. -/
def Entry.AllAlike : List Entry → List Entry → Prop
  | [], others => others = []
  | entry :: rest, others => ∃ other others', others.Perm (other :: others') ∧ entry.Alike other ∧
      Entry.AllAlike rest others'
termination_by structural entries => entries

end

/-! ## Encodings -/

theorem Entry.membersOf_eq_map (entries : List Entry) :
    Entry.membersOf entries = entries.map Entry.member := by
  induction entries with
  | nil => rfl
  | cons first rest ih => rw [Entry.membersOf, ih, List.map_cons]

theorem Entry.member_eq (entry : Entry) : entry.member = (entry.id, entry.answer.toJson) := by
  cases entry
  rfl

/-- The members are those of the entries, in whatever order. -/
theorem Entry.perm_membersOf {entries others : List Entry} (h : entries.Perm others) :
    (Entry.membersOf entries).Perm (Entry.membersOf others) := by
  rw [Entry.membersOf_eq_map, Entry.membersOf_eq_map]
  exact h.map Entry.member

/-- The names of the members are the identifiers of the entries. -/
theorem Entry.names_membersOf (entries : List Entry) :
    (Entry.membersOf entries).map (·.1) = entries.map (·.id) := by
  rw [Entry.membersOf_eq_map, List.map_map]
  exact List.map_congr_left fun entry _ => congrArg Prod.fst entry.member_eq

namespace Answer

/-- The members of the object by which an answer is encoded. -/
def members : Answer → List (String × Json)
  | .textInput text => [("type", .str "text_input"), ("value", .ofText? text)]
  | .toggle isOn => [("type", .str "toggle"), ("value", .bool isOn)]
  | .checkbox isOn => [("type", .str "checkbox"), ("value", .bool isOn)]
  | .multipleChoice choices =>
    [("type", .str "multiple_choice"), ("value", .arr (choices.toList.map .str))]
  | .singleChoice choice => [("type", .str "single_choice"), ("value", .ofText? choice)]
  | .score value =>
    [("type", .str "score"), ("value", match value with | none => .null | some n => .int n)]
  | .form responseType children =>
    [("type", .str "form"), ("response_type", .ofText? responseType),
      ("children", .object (Entry.membersOf children))]
  | .nps scoreId responseType children =>
    [("type", .str "nps"), ("score_id", .str scoreId), ("response_type", .ofText? responseType),
      ("children", .object (Entry.membersOf children))]

variable {answer other : Answer}

theorem toJson_eq_object (answer : Answer) : answer.toJson = .object answer.members := by
  cases answer <;> rfl

theorem nodup_names (answer : Answer) : (answer.members.map (·.1)).Nodup := by
  cases answer <;> simp [members]

/-- Answers that are encoded in the same way are of one kind. -/
theorem typeName_eq_of_toJson_eq (h : answer.toJson = other.toJson) :
    answer.typeName = other.typeName := by
  have htype : ∀ answer : Answer, answer.toJson.member? "type" = some (.str answer.typeName) := by
    intro answer
    rw [toJson_eq_object]
    refine Json.member?_object answer.nodup_names ?_
    cases answer <;> simp [members, typeName]
  exact Json.str.inj (Option.some.inj ((htype answer).symm.trans (h ▸ htype other)))

/-- Answers that are encoded in the same way are encoded by the same members, in this order. -/
theorem members_eq_of_toJson_eq (h : answer.toJson = other.toJson) :
    answer.members = other.members := by
  have hkind := typeName_eq_of_toJson_eq h
  have hnames : answer.members.map (·.1) = other.members.map (·.1) := by
    cases answer <;> cases other <;> first | rfl | simp [typeName] at hkind
  rw [toJson_eq_object, toJson_eq_object] at h
  exact Json.eq_of_object_eq hnames answer.nodup_names h

/-- **Answers are encoded in the same way if they are alike**, provided that this holds of their
entries. -/
theorem toJson_eq_iff_of_children
    (hchildren : Json.object (Entry.membersOf answer.children) =
      Json.object (Entry.membersOf other.children) ↔
        Entry.AllAlike answer.children other.children) :
    answer.toJson = other.toJson ↔ answer.Alike other := by
  have hmembers : answer.toJson = other.toJson ↔ answer.members = other.members :=
    ⟨members_eq_of_toJson_eq, fun h => by rw [toJson_eq_object, toJson_eq_object, h]⟩
  rw [hmembers]
  cases answer <;> cases other <;>
    simp_all [members, Alike, children, Json.ofText?_inj, Json.strings_inj]
  case score.score value value' => cases value <;> cases value' <;> simp

end Answer

/-- What is distinct about an answer are its entries. -/
theorem Answer.IsDistinct.children {answer : Answer} (h : answer.IsDistinct) :
    (answer.children.map (·.id)).Nodup ∧ Entry.AreDistinct answer.children := by
  cases answer with
  | form _ _ => exact h
  | nps _ _ _ => exact h
  | _ => exact ⟨List.nodup_nil, trivial⟩

/-- **Where a distinct answer is encoded, each of its entries has a place of its own.** -/
theorem Answer.IsDistinct.exists_member?_children {answer : Answer} (h : answer.IsDistinct)
    {child : Entry} (hmem : child ∈ answer.children) :
    ∃ object, answer.toJson.member? "children" = some object ∧
      object.member? child.id = some child.answer.toJson := by
  refine ⟨.object (Entry.membersOf answer.children), ?_, ?_⟩
  · rw [Answer.toJson_eq_object]
    refine Json.member?_object answer.nodup_names ?_
    cases answer with
    | form _ _ => simp [Answer.members, Answer.children]
    | nps _ _ _ => simp [Answer.members, Answer.children]
    | _ => cases hmem
  · refine Json.member?_object (by rw [Entry.names_membersOf]; exact h.children.1) ?_
    rw [Entry.membersOf_eq_map, ← child.member_eq]
    exact List.mem_map_of_mem hmem

/-- Distinct entries are encoded in the same way if their members are the same. -/
theorem Entry.object_membersOf_eq_iff {entries others : List Entry}
    (h : (entries.map (·.id)).Nodup) (h' : (others.map (·.id)).Nodup) :
    Json.object (Entry.membersOf entries) = Json.object (Entry.membersOf others) ↔
      (Entry.membersOf entries).Perm (Entry.membersOf others) :=
  Json.object_eq_object_iff (by rwa [names_membersOf]) (by rwa [names_membersOf])

/-- An answer without entries is encoded in the same way as those that are alike. -/
theorem Answer.toJson_eq_iff_of_leaf {answer other : Answer} (hleaf : answer.children = [])
    (h : other.IsDistinct) : answer.toJson = other.toJson ↔ answer.Alike other := by
  refine Answer.toJson_eq_iff_of_children ?_
  have hnodup : (([] : List Entry).map (·.id)).Nodup := List.nodup_nil
  rw [hleaf, Entry.object_membersOf_eq_iff hnodup h.children.1,
    Entry.membersOf, Entry.AllAlike, List.nil_perm, Entry.membersOf_eq_map, List.map_eq_nil_iff]

mutual

/-- Answers are encoded in the same way if they are alike, where siblings are distinct. -/
theorem Answer.toJson_eq_iff : ∀ answer other : Answer, answer.IsDistinct → other.IsDistinct →
    (answer.toJson = other.toJson ↔ answer.Alike other)
  | .form _ children, other, h, h' =>
    have hother := h'.children
    Answer.toJson_eq_iff_of_children ((Entry.object_membersOf_eq_iff h.1 hother.1).trans
      (Entry.perm_iff children other.children h.2 hother.2))
  | .nps _ _ children, other, h, h' =>
    have hother := h'.children
    Answer.toJson_eq_iff_of_children ((Entry.object_membersOf_eq_iff h.1 hother.1).trans
      (Entry.perm_iff children other.children h.2 hother.2))
  | .textInput _, _, _, h' => Answer.toJson_eq_iff_of_leaf rfl h'
  | .toggle _, _, _, h' => Answer.toJson_eq_iff_of_leaf rfl h'
  | .checkbox _, _, _, h' => Answer.toJson_eq_iff_of_leaf rfl h'
  | .multipleChoice _, _, _, h' => Answer.toJson_eq_iff_of_leaf rfl h'
  | .singleChoice _, _, _, h' => Answer.toJson_eq_iff_of_leaf rfl h'
  | .score _, _, _, h' => Answer.toJson_eq_iff_of_leaf rfl h'

/-- So are entries, as members of an object. -/
theorem Entry.member_eq_iff : ∀ entry other : Entry, entry.IsDistinct → other.IsDistinct →
    (entry.member = other.member ↔ entry.Alike other)
  | ⟨id, answer, _, _⟩, other, h, h' => by
    rw [Entry.member_eq other, Entry.member, Prod.mk.injEq, Entry.Alike,
      Answer.toJson_eq_iff answer other.answer h (Entry.isDistinct_iff.mp h')]

/-- And so are several entries, in any order. -/
theorem Entry.perm_iff : ∀ entries others : List Entry, Entry.AreDistinct entries →
    Entry.AreDistinct others →
    ((Entry.membersOf entries).Perm (Entry.membersOf others) ↔ Entry.AllAlike entries others)
  | [], others, _, _ => by
    rw [Entry.membersOf, Entry.AllAlike, List.nil_perm, Entry.membersOf_eq_map,
      List.map_eq_nil_iff]
  | entry :: rest, others, h, h' => by
    have hothers := Entry.areDistinct_iff.mp h'
    rw [Entry.membersOf, Entry.AllAlike]
    constructor
    · intro hperm
      have hmem : entry.member ∈ Entry.membersOf others := hperm.mem_iff.mp List.mem_cons_self
      rw [Entry.membersOf_eq_map] at hmem
      obtain ⟨other, hother, heq⟩ := List.mem_map.mp hmem
      obtain ⟨before, after, rfl⟩ := List.append_of_mem hother
      have hrest : Entry.AreDistinct (before ++ after) := Entry.areDistinct_iff.mpr
        fun later hlater => hothers later ((List.perm_middle.mem_iff).mpr
          (List.mem_cons_of_mem _ hlater))
      refine ⟨other, before ++ after, List.perm_middle, ?_, ?_⟩
      · exact (Entry.member_eq_iff entry other h.1 (hothers other hother)).mp heq.symm
      · refine (Entry.perm_iff rest (before ++ after) h.2 hrest).mp ?_
        have hfront : (before ++ other :: after).Perm (other :: (before ++ after)) :=
          List.perm_middle
        have hmiddle := Entry.perm_membersOf hfront
        rw [Entry.membersOf, heq] at hmiddle
        exact (hperm.trans hmiddle).cons_inv
    · rintro ⟨other, others', hperm, halike, hall⟩
      have hdistinct : Entry.AreDistinct (other :: others') := Entry.areDistinct_iff.mpr
        fun later hlater => hothers later (hperm.mem_iff.mpr hlater)
      rw [(Entry.member_eq_iff entry other h.1 hdistinct.1).mpr halike]
      exact (((Entry.perm_iff rest others' h.2 hdistinct.2).mpr hall).cons _).trans
        (Entry.perm_membersOf hperm).symm

end

/-- **Form data is encoded in the same way if it is alike**, where no two siblings have the same
identifier. So nothing is lost but the order of siblings, and what is not encoded.

**Proof sketch.** An answer is encoded as an object, from which its kind can be read, and then all
that it tells. For the entries of nested forms this is so by induction: in the object that holds
them each has a name of its own, so none takes the place of another. -/
theorem Entry.toJson_eq_iff {entry other : Entry} (h : entry.IsDistinct) (h' : other.IsDistinct) :
    entry.toJson = other.toJson ↔ entry.Alike other := by
  rw [← Entry.member_eq_iff entry other h h', Entry.toJson, Entry.toJson,
    Json.object_eq_object_iff (by simp) (by simp), List.perm_singleton, List.singleton_inj]

end FormTree

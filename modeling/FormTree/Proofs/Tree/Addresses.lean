import FormTree.Proofs.Tree.Descent
import Mathlib.Data.List.Infix
import Mathlib.Data.List.Lex
import Mathlib.Data.List.Nodup

set_option autoImplicit false

/-!
# Addresses

Where a node is declared, said without any numbering: the *address* of a node lists, from the root
down, which child to take. The addresses of a declared tree in ascending order, where an address
comes before those that go on from it, are its pre-order; this module relates them to the nodes
that the tree is listed as.

## Main definitions

* `FormTree.Spec.at?` — what is declared at an address.
* `FormTree.Spec.addresses` — the addresses of a declared tree, in pre-order.
* `FormTree.Spec.number` — the place of an address in the pre-order.
* `FormTree.Spec.above`, `FormTree.Spec.nearest?` — the addresses above an address, nearest first,
  and the first of them that is that of a node of a given kind.

## Main results

* `FormTree.Spec.mem_addresses`, `FormTree.Spec.pairwise_addresses` — every address at which
  something is declared is listed, in ascending order.
* `FormTree.Spec.getElem?_nodes_add` — what is declared at an address is listed from the place of
  this address on.
-/

namespace FormTree

namespace Spec

/-! ## Declared at an address -/

/-- What is declared at an address, which lists from the root down which child to take. -/
def at? : Spec → List Nat → Option Spec
  | spec, [] => some spec
  | spec, place :: rest =>
    match spec.children[place]? with
    | some child => child.at? rest
    | none => none

mutual

/-- The addresses of a declared tree: a node comes before what is below it, and this before the
next sibling. -/
def addresses : Spec → List (List Nat)
  | ⟨_, _, children⟩ => [] :: addressesAll 0 children
termination_by structural spec => spec

/-- The addresses of declared siblings, the first of which takes the given place. -/
def addressesAll (place : Nat) : List Spec → List (List Nat)
  | [] => []
  | spec :: rest => spec.addresses.map (place :: ·) ++ addressesAll (place + 1) rest
termination_by structural specs => specs

end

/-- The place of an address in the pre-order. -/
def number : Spec → List Nat → Nat
  | _, [] => 0
  | spec, place :: rest =>
    match spec.children[place]? with
    | some child => 1 + sizeAll (spec.children.take place) + child.number rest
    | none => 0

variable {spec sub child : Spec} {address : List Nat} {place : Nat}

@[simp] lemma at?_nil (spec : Spec) : spec.at? [] = some spec := by
  rw [at?]

@[simp] lemma number_nil (spec : Spec) : spec.number [] = 0 := by
  rw [number]

/-- What is declared below a node is declared below one of its children. -/
lemma at?_cons_eq_some {rest : List Nat} : spec.at? (place :: rest) = some sub ↔
    ∃ child, spec.children[place]? = some child ∧ child.at? rest = some sub := by
  rw [at?]
  split
  · next child hchild => simp [hchild]
  · next hnone => simp [hnone]

lemma number_cons {rest : List Nat} (h : spec.children[place]? = some child) :
    spec.number (place :: rest) =
      1 + sizeAll (spec.children.take place) + child.number rest := by
  rw [number, h]

/-- Going on from an address leads to what is declared there. -/
lemma at?_append (more : List Nat) (h : spec.at? address = some sub) :
    spec.at? (address ++ more) = sub.at? more := by
  induction address generalizing spec with
  | nil =>
    obtain rfl : spec = sub := by simpa using h
    rfl
  | cons place rest ih =>
    obtain ⟨child, hchild, hrest⟩ := at?_cons_eq_some.mp h
    rw [List.cons_append, at?, hchild]
    exact ih hrest

/-- The address of a child goes one step on. -/
lemma at?_concat (h : spec.at? address = some sub) (place : Nat) :
    spec.at? (address ++ [place]) = sub.children[place]? := by
  rw [at?_append _ h, at?]
  split
  · next child hchild => rw [hchild, at?_nil]
  · next hnone => exact hnone.symm

/-- Something is declared wherever the way to an address leads. -/
lemma exists_at?_of_append {more : List Nat} (h : spec.at? (address ++ more) = some sub) :
    ∃ outer, spec.at? address = some outer := by
  induction address generalizing spec with
  | nil => exact ⟨spec, at?_nil spec⟩
  | cons place rest ih =>
    rw [List.cons_append] at h
    obtain ⟨child, hchild, hrest⟩ := at?_cons_eq_some.mp h
    obtain ⟨outer, houter⟩ := ih hrest
    exact ⟨outer, at?_cons_eq_some.mpr ⟨child, hchild, houter⟩⟩

/-! ## Counting -/

/-- A declared tree has as many nodes as it has below its root, and the root. -/
lemma size_eq (spec : Spec) : spec.size = 1 + sizeAll spec.children := by
  obtain ⟨view, enable, children⟩ := spec
  rw [size]

lemma size_pos (spec : Spec) : 0 < spec.size := by
  rw [size_eq]
  omega

/-- Up to a sibling, and with it, there are no more nodes than there are in all. -/
lemma sizeAll_take_add_le {specs : List Spec} (h : specs[place]? = some child) :
    sizeAll (specs.take place) + child.size ≤ sizeAll specs := by
  induction specs generalizing place with
  | nil => simp at h
  | cons spec rest ih =>
    cases place with
    | zero =>
      obtain rfl : spec = child := by simpa using h
      simp [sizeAll]
    | succ place =>
      have hrest := ih (by simpa using h)
      rw [List.take_succ_cons, sizeAll, sizeAll]
      omega

/-- The place of an address in the pre-order is that of a node. -/
lemma number_lt_size (h : spec.at? address = some sub) :
    spec.number address + sub.size ≤ spec.size := by
  induction address generalizing spec with
  | nil =>
    obtain rfl : spec = sub := by simpa using h
    simp
  | cons place rest ih =>
    obtain ⟨child, hchild, hrest⟩ := at?_cons_eq_some.mp h
    have hle := sizeAll_take_add_le hchild
    have hlt := ih hrest
    rw [number_cons hchild, size_eq spec]
    omega

/-- The numbers of what is below a node follow its own. -/
lemma number_append {more : List Nat} {inner : Spec} (h : spec.at? address = some sub)
    (hmore : sub.at? more = some inner) :
    spec.number (address ++ more) = spec.number address + sub.number more := by
  induction address generalizing spec with
  | nil =>
    obtain rfl : spec = sub := by simpa using h
    simp
  | cons place rest ih =>
    obtain ⟨child, hchild, hrest⟩ := at?_cons_eq_some.mp h
    rw [List.cons_append, number_cons hchild, number_cons hchild, ih hrest]
    omega

/-! ## The pre-order -/

mutual

/-- There are as many addresses as nodes. -/
theorem length_addresses : ∀ spec : Spec, spec.addresses.length = spec.size
  | ⟨view, enable, children⟩ => by
    rw [addresses, List.length_cons, length_addressesAll, size]
    omega
termination_by structural spec => spec

theorem length_addressesAll (place : Nat) :
    ∀ specs : List Spec, (addressesAll place specs).length = sizeAll specs
  | [] => rfl
  | spec :: rest => by
    rw [addressesAll, List.length_append, List.length_map, length_addresses, length_addressesAll,
      sizeAll]
termination_by structural specs => specs

end

/-- The addresses of siblings start with the place of one of them. -/
lemma exists_of_mem_addressesAll {specs : List Spec} (h : address ∈ addressesAll place specs) :
    ∃ n child rest, address = (place + n) :: rest ∧ specs[n]? = some child ∧
      rest ∈ child.addresses := by
  induction specs generalizing place with
  | nil => simp [addressesAll] at h
  | cons spec others ih =>
    rw [addressesAll, List.mem_append] at h
    rcases h with h | h
    · obtain ⟨rest, hrest, rfl⟩ := List.mem_map.mp h
      exact ⟨0, spec, rest, rfl, rfl, hrest⟩
    · obtain ⟨n, child, rest, rfl, hchild, hrest⟩ := ih h
      exact ⟨n + 1, child, rest, by rw [Nat.add_right_comm, Nat.add_assoc], hchild, hrest⟩

mutual

/-- **The addresses are listed in ascending order.** -/
theorem pairwise_addresses : ∀ spec : Spec, spec.addresses.Pairwise (· < ·)
  | ⟨view, enable, children⟩ => by
    rw [addresses, List.pairwise_cons]
    refine ⟨fun address h => ?_, pairwise_addressesAll 0 children⟩
    obtain ⟨n, child, rest, rfl, -, -⟩ := exists_of_mem_addressesAll h
    exact List.nil_lt_cons _ _
termination_by structural spec => spec

theorem pairwise_addressesAll (place : Nat) :
    ∀ specs : List Spec, (addressesAll place specs).Pairwise (· < ·)
  | [] => .nil
  | spec :: rest => by
    rw [addressesAll, List.pairwise_append]
    refine ⟨?_, pairwise_addressesAll (place + 1) rest, ?_⟩
    · refine (pairwise_addresses spec).map _ fun a b hlt => ?_
      exact List.cons_lt_cons_iff.mpr (.inr ⟨rfl, hlt⟩)
    · intro a ha b hb
      obtain ⟨a', -, rfl⟩ := List.mem_map.mp ha
      obtain ⟨n, child, b', rfl, -, -⟩ := exists_of_mem_addressesAll hb
      exact List.cons_lt_cons_iff.mpr (.inl (by omega))
termination_by structural specs => specs

end

/-- The addresses of a sibling follow those of the siblings before it. -/
lemma getElem?_addressesAll {specs : List Spec} {first : Nat}
    (h : specs[place]? = some child) {i : Nat} (hi : i < child.size) :
    (addressesAll first specs)[sizeAll (specs.take place) + i]? =
      child.addresses[i]?.map ((first + place) :: ·) := by
  induction specs generalizing place first with
  | nil => simp at h
  | cons spec rest ih =>
    rw [addressesAll]
    cases place with
    | zero =>
      obtain rfl : spec = child := by simpa using h
      have hlen : i < (spec.addresses.map (first :: ·)).length := by
        rwa [List.length_map, length_addresses]
      rw [List.take_zero, sizeAll, Nat.zero_add, List.getElem?_append_left hlen,
        List.getElem?_map, Nat.add_zero]
    | succ place =>
      have hlen : (spec.addresses.map (first :: ·)).length = spec.size := by
        rw [List.length_map, length_addresses]
      rw [List.take_succ_cons, sizeAll, List.getElem?_append_right (by omega), hlen]
      have hindex : spec.size + sizeAll (rest.take place) + i - spec.size =
          sizeAll (rest.take place) + i := by omega
      rw [hindex, ih (by simpa using h), Nat.add_right_comm, Nat.add_assoc]

/-- **An address has its place in the pre-order.** -/
theorem getElem?_addresses_number (h : spec.at? address = some sub) :
    spec.addresses[spec.number address]? = some address := by
  induction address generalizing spec with
  | nil =>
    obtain ⟨view, enable, children⟩ := spec
    rw [number_nil, addresses]
    rfl
  | cons place rest ih =>
    obtain ⟨child, hchild, hrest⟩ := at?_cons_eq_some.mp h
    have hlt := number_lt_size hrest
    have hpos := size_pos sub
    obtain ⟨view, enable, children⟩ := spec
    have hindex : 1 + sizeAll (children.take place) + child.number rest =
        (sizeAll (children.take place) + child.number rest) + 1 := by omega
    rw [number_cons hchild, addresses]
    dsimp only at hchild ⊢
    rw [hindex, List.getElem?_cons_succ, getElem?_addressesAll hchild (by omega), ih hrest,
      Nat.zero_add]
    rfl

/-- At every listed address something is declared. -/
lemma exists_at?_of_mem (h : address ∈ spec.addresses) : ∃ sub, spec.at? address = some sub := by
  induction address generalizing spec with
  | nil => exact ⟨spec, at?_nil spec⟩
  | cons place rest ih =>
    obtain ⟨view, enable, children⟩ := spec
    rw [addresses, List.mem_cons] at h
    rcases h with hnil | h
    · cases hnil
    · obtain ⟨n, child, rest', heq, hchild, hmem⟩ := exists_of_mem_addressesAll h
      obtain ⟨rfl, rfl⟩ := List.cons.inj heq
      obtain ⟨sub, hsub⟩ := ih hmem
      rw [Nat.zero_add]
      exact ⟨sub, at?_cons_eq_some.mpr ⟨child, hchild, hsub⟩⟩

/-- **An address is listed if something is declared there.** -/
theorem mem_addresses : address ∈ spec.addresses ↔ (spec.at? address).isSome := by
  constructor
  · intro h
    exact Option.isSome_iff_exists.mpr (exists_at?_of_mem h)
  · intro h
    obtain ⟨sub, hsub⟩ := Option.isSome_iff_exists.mp h
    exact List.mem_of_getElem? (getElem?_addresses_number hsub)

/-- No address is listed twice. -/
lemma nodup_addresses (spec : Spec) : spec.addresses.Nodup :=
  (pairwise_addresses spec).imp fun hlt => ne_of_lt hlt

/-- The address at a place of the pre-order is one at which something is declared, and has this
place. -/
lemma number_of_getElem? {i : Nat} (h : spec.addresses[i]? = some address) :
    ∃ sub, spec.at? address = some sub ∧ spec.number address = i := by
  obtain ⟨sub, hsub⟩ := exists_at?_of_mem (List.mem_of_getElem? h)
  refine ⟨sub, hsub, ?_⟩
  have hnumber := getElem?_addresses_number hsub
  obtain ⟨hi, -⟩ := List.getElem?_eq_some_iff.mp h
  exact ((List.getElem?_inj hi (nodup_addresses spec)).mp (h.trans hnumber.symm)).symm

/-- Addresses with the same place are the same. -/
lemma eq_of_number_eq {other : List Nat} {outer : Spec} (h : spec.at? address = some sub)
    (hother : spec.at? other = some outer) (heq : spec.number address = spec.number other) :
    address = other := by
  have haddress := getElem?_addresses_number h
  rw [heq, getElem?_addresses_number hother] at haddress
  exact (Option.some.inj haddress).symm

/-- **What is below a node follows it**, and nothing else is in between. -/
theorem number_lt_iff {other : List Nat} {outer : Spec} (h : spec.at? address = some sub)
    (hother : spec.at? other = some outer) :
    spec.number address < spec.number other ∧
        spec.number other < spec.number address + sub.size ↔
      address <+: other ∧ address ≠ other := by
  constructor
  · rintro ⟨hlt, hbound⟩
    -- the node so many places further on in the subtree has the same number
    obtain ⟨more, hmore⟩ : ∃ more,
        sub.addresses[spec.number other - spec.number address]? = some more :=
      ⟨_, List.getElem?_eq_getElem (by rw [length_addresses]; omega)⟩
    obtain ⟨inner, hinner, hnumber⟩ := number_of_getElem? hmore
    have happend := number_append h hinner
    have hat : spec.at? (address ++ more) = some inner := (at?_append more h).trans hinner
    obtain rfl : address ++ more = other := eq_of_number_eq hat hother (by omega)
    refine ⟨List.prefix_append _ _, fun heq => ?_⟩
    rw [← heq] at hlt
    omega
  · rintro ⟨⟨more, rfl⟩, hne⟩
    rw [at?_append more h] at hother
    have happend := number_append h hother
    have hle := number_lt_size hother
    have hpos := size_pos outer
    cases more with
    | nil => exact absurd (List.append_nil _).symm hne
    | cons place rest =>
      obtain ⟨child, hchild, -⟩ := at?_cons_eq_some.mp hother
      rw [number_cons hchild] at happend hle
      omega

/-! ## Above an address -/

/-- The addresses above an address, nearest first. -/
def above (address : List Nat) : List (List Nat) := address.inits.dropLast.reverse

/-- The nearest address above an address at which a node of the given kind is declared. -/
def nearest? (spec : Spec) (kind : NodeKind) (address : List Nat) : Option (List Nat) :=
  (above address).find? fun up => (spec.at? up).any (·.view.kind = kind)

lemma above_cons (place : Nat) (rest : List Nat) :
    above (place :: rest) = (above rest).map (place :: ·) ++ [[]] := by
  have hne : rest.inits.map (place :: ·) ≠ [] := by cases rest <;> simp [List.inits]
  rw [above, List.inits, List.dropLast_cons_of_ne_nil hne, List.reverse_cons, ← List.map_dropLast,
    ← List.map_reverse]
  rfl

/-- The nearest address above leaves out the last step. -/
lemma above_concat (address : List Nat) (place : Nat) :
    above (address ++ [place]) = address :: above address := by
  induction address with
  | nil => rfl
  | cons first rest ih =>
    rw [List.cons_append, above_cons, ih, above_cons]
    rfl

/-- The addresses above an address are those that it goes on from. -/
lemma mem_above {up : List Nat} : up ∈ above address ↔ up <+: address ∧ up ≠ address := by
  induction address generalizing up with
  | nil => simp [above]
  | cons place rest ih =>
    rw [above_cons, List.mem_append, List.mem_map, List.mem_singleton]
    cases up with
    | nil => simp
    | cons first up =>
      simp only [List.cons.injEq, List.cons_prefix_cons, reduceCtorEq, or_false, ne_eq]
      constructor
      · rintro ⟨up', hup, rfl, rfl⟩
        exact ⟨⟨rfl, (ih.mp hup).1⟩, fun h => (ih.mp hup).2 h.2⟩
      · rintro ⟨⟨rfl, hup⟩, hne⟩
        exact ⟨up, ih.mpr ⟨hup, fun h => hne ⟨rfl, h⟩⟩, rfl, rfl⟩

/-- Something is declared at the addresses above one at which something is declared. -/
lemma exists_at?_of_mem_above {up : List Nat} (hmem : up ∈ above address)
    (h : spec.at? address = some sub) : ∃ outer, spec.at? up = some outer := by
  obtain ⟨more, rfl⟩ := (mem_above.mp hmem).1
  exact exists_at?_of_append h

/-! ## The nodes -/

/-- Siblings are numbered in steps of their sizes. -/
lemma numbers_eq (start : NodeId) (specs : List Spec) :
    numbers start specs =
      (List.range specs.length).map fun place => start + sizeAll (specs.take place) := by
  induction specs generalizing start with
  | nil => rfl
  | cons spec rest ih =>
    rw [numbers, ih, List.length_cons, List.range_succ_eq_map, List.map_cons, List.map_map]
    congr 1
    apply List.map_congr_left
    intro place _
    simp only [Function.comp_apply, List.take_succ_cons, sizeAll, Nat.add_assoc]

/-- The nodes of a sibling follow those of the siblings before it. -/
lemma getElem?_nodesAll {specs : List Spec} {ancestors : List NodeId} {scope : Scope}
    (start : NodeId) (h : specs[place]? = some child) {i : Nat} (hi : i < child.size) :
    (nodesAll start ancestors scope specs)[sizeAll (specs.take place) + i]? =
      (child.nodes (start + sizeAll (specs.take place)) ancestors scope)[i]? := by
  induction specs generalizing place start with
  | nil => simp at h
  | cons spec rest ih =>
    have hlen := length_nodes start ancestors scope spec
    rw [nodesAll]
    cases place with
    | zero =>
      obtain rfl : spec = child := by simpa using h
      rw [List.take_zero, sizeAll, Nat.zero_add, List.getElem?_append_left (by omega),
        Nat.add_zero]
    | succ place =>
      rw [List.take_succ_cons, sizeAll, List.getElem?_append_right (by omega), hlen]
      have hindex : spec.size + sizeAll (rest.take place) + i - spec.size =
          sizeAll (rest.take place) + i := by omega
      rw [hindex, ih _ (by simpa using h), Nat.add_assoc]

/-- **What is declared at an address is listed from the place of this address in the pre-order on**,
below the nodes whose addresses are above.

**Proof sketch.** Induction on the address. Further down than the root, the nodes are those at the
rest of the address in the list of one of the children, whose first number is that of the child, and
to whose outside the root is added. -/
theorem getElem?_nodes_add (start : Nat) (ancestors : List NodeId) (scope : Scope)
    (h : spec.at? address = some sub) :
    ∃ inner : Scope, ∀ i < sub.size,
      (spec.nodes start ancestors scope)[spec.number address + i]? =
        (sub.nodes (start + spec.number address)
          ((above address).map (start + spec.number ·) ++ ancestors) inner)[i]? := by
  induction address generalizing spec start ancestors scope with
  | nil =>
    obtain rfl : spec = sub := by simpa using h
    refine ⟨scope, fun i _ => ?_⟩
    rw [number_nil, Nat.zero_add]
    rfl
  | cons place rest ih =>
    obtain ⟨child, hchild, hrest⟩ := at?_cons_eq_some.mp h
    obtain ⟨view, enable, children⟩ := spec
    dsimp only at hchild
    obtain ⟨inner, hinner⟩ := ih (start + 1 + sizeAll (children.take place)) (start :: ancestors)
      (scope.enter start view) hrest
    refine ⟨inner, fun i hi => ?_⟩
    have hlt := number_lt_size hrest
    have hindex : 1 + sizeAll (children.take place) + child.number rest + i =
        (sizeAll (children.take place) + (child.number rest + i)) + 1 := by omega
    have hstart : start + 1 + sizeAll (children.take place) + child.number rest =
        start + (1 + sizeAll (children.take place) + child.number rest) := by omega
    -- the root is the last of the nodes above, and the others are those of the child
    have habove : (above rest).map
          (start + 1 + sizeAll (children.take place) + child.number ·) ++ start :: ancestors =
        (above (place :: rest)).map (start + (⟨view, enable, children⟩ : Spec).number ·) ++
          ancestors := by
      have hmap : (above rest).map
            (start + 1 + sizeAll (children.take place) + child.number ·) =
          ((above rest).map (place :: ·)).map
            (start + (⟨view, enable, children⟩ : Spec).number ·) := by
        rw [List.map_map]
        apply List.map_congr_left
        intro up _
        rw [Function.comp_apply, number_cons hchild]
        dsimp only
        omega
      rw [hmap, above_cons, List.map_append, List.append_assoc]
      rfl
    rw [number_cons hchild, nodes]
    dsimp only
    rw [hindex, List.getElem?_cons_succ, getElem?_nodesAll _ hchild (by omega), hinner i hi,
      habove, hstart]

/-- **The node that is declared at an address**, with the nodes above it and its children as its
links. -/
theorem getElem?_nodes_number (start : Nat) (ancestors : List NodeId) (scope : Scope)
    (h : spec.at? address = some sub) :
    ∃ node, (spec.nodes start ancestors scope)[spec.number address]? = some node ∧
      node.view = sub.view ∧ node.enable = sub.enable ∧ node.size = sub.size ∧
      node.children = numbers (start + spec.number address + 1) sub.children ∧
      node.ancestors = (above address).map (start + spec.number ·) ++ ancestors := by
  obtain ⟨inner, hinner⟩ := getElem?_nodes_add start ancestors scope h
  have hroot := hinner 0 (size_pos sub)
  obtain ⟨view, enable, children⟩ := sub
  rw [Nat.add_zero, nodes, List.getElem?_cons_zero] at hroot
  exact ⟨_, hroot, rfl, rfl, by rw [size_eq], rfl, rfl⟩

/-- The children of a node are numbered as their addresses are. -/
lemma numbers_children (h : spec.at? address = some sub) :
    numbers (spec.number address + 1) sub.children =
      (List.range sub.children.length).map fun place => spec.number (address ++ [place]) := by
  rw [numbers_eq]
  apply List.map_congr_left
  intro place hmem
  have hlt : place < sub.children.length := List.mem_range.mp hmem
  have hchild : sub.children[place]? = some sub.children[place] := List.getElem?_eq_getElem hlt
  have hat : sub.at? [place] = some sub.children[place] :=
    at?_cons_eq_some.mpr ⟨_, hchild, at?_nil _⟩
  rw [number_append h hat, number_cons hchild, number_nil]
  exact Nat.add_assoc _ _ _

end Spec

end FormTree

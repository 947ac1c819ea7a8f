import LintMark.Proofs.Window.Order
import Mathlib.Data.List.Nodup

/-!
# Parents and ancestors

Parents are not stored in an arena; they are read off the lists of children, and ancestors are found
by climbing. In an arena that was laid out from outlines every node is the child of one node at
most, and then the two views of the tree are one: a node is an ancestor of another one exactly when
the other one stands below it (`LaidOut.mem_cons_ancestors_iff`).

## Why a node has one parent

A link leads to every node but the first root. So a node is the first child of one node, or else it
follows one sibling, and the sibling stands further to the front. The induction is on the index.
-/

namespace LintMark.Tree

open Outline

variable {t : Tree}

/-! ## Below a node -/

theorem mem_descendants_self (t : Tree) (i : Nat) : i ∈ t.descendants (some i) := by
  rw [descendants_some]
  exact List.mem_cons_self

/-- What stands below a node is the node, or stands below one of its children. -/
theorem mem_descendants_iff {i j : Nat} :
    j ∈ t.descendants (some i) ↔ j = i ∨ ∃ c ∈ t.children i, j ∈ t.descendants (some c) := by
  rw [← t.cons_subtrees_children i, List.mem_cons, subtrees, List.mem_flatMap]

theorem descendants_trans {i j k : Nat} (hj : j ∈ t.descendants (some k))
    (hk : k ∈ t.descendants (some i)) : j ∈ t.descendants (some i) := by
  rw [descendants] at hk
  obtain rfl | hk := List.mem_cons.1 hk
  · exact hj
  · rw [descendants]
    exact List.mem_cons_of_mem i ((descendants_sublist_walk hk).subset hj)

theorem rank_lt_of_mem_pre {o : Option Nat} {j : Nat} (h : j ∈ t.pre o) : t.rank j < t.depth o := by
  fun_induction pre t o with
  | case1 => cases h
  | case2 i ihChild ihSibling =>
    obtain rfl | h := List.mem_cons.1 h
    · exact Nat.lt_succ_self _
    · obtain h | h := List.mem_append.1 h
      · exact Nat.lt_trans (ihChild h) (t.depth_firstChild_lt i)
      · exact Nat.lt_trans (ihSibling h) (t.depth_nextSibling_lt i)

theorem rank_le_of_mem_descendants {i j : Nat} (h : j ∈ t.descendants (some i)) :
    j = i ∨ t.rank j < t.rank i := by
  rw [descendants_some] at h
  refine (List.mem_cons.1 h).imp_right fun h ↦ ?_
  have hj := rank_lt_of_mem_pre h
  have hchild := t.depth_firstChild_lt i
  rw [depth.eq_2] at hchild
  omega

theorem descendants_antisymm {i j : Nat} (hj : j ∈ t.descendants (some i))
    (hi : i ∈ t.descendants (some j)) : i = j := by
  obtain rfl | hj := rank_le_of_mem_descendants hj
  · rfl
  · obtain rfl | hi := rank_le_of_mem_descendants hi
    · rfl
    · omega

/-- Ranks fall along a chain, so no node stands in it twice. -/
theorem nodup_chain (t : Tree) (o : Option Nat) : (t.chain o).Nodup := by
  fun_induction chain t o with
  | case1 => exact List.nodup_nil
  | case2 i ih =>
    refine List.nodup_cons.2 ⟨fun h ↦ ?_, ih⟩
    have hrank := t.rank_lt_of_mem_chain h
    have hsibling := t.depth_nextSibling_lt i
    rw [depth.eq_2] at hsibling
    omega

theorem nodup_children (t : Tree) (i : Nat) : (t.children i).Nodup := t.nodup_chain _

/-- Nodes that link to each other, from the first one to the last, make up a chain. -/
theorem chain_head?_of_links {t : Tree} {is : List Nat}
    (h : ∀ p ∈ is.zip (is.tail.map some ++ [none]), (t.node p.1).nextSibling = p.2) :
    t.chain is.head? = is := by
  induction is with
  | nil => exact t.chain_none
  | cons i is ih =>
    have hnext : (t.node i).nextSibling = is.head? := by
      cases is with
      | nil => exact h (i, none) List.mem_cons_self
      | cons j is => exact h (i, some j) List.mem_cons_self
    rw [List.head?_cons, chain_some, hnext, ih]
    intro p hp
    cases is with
    | nil => cases hp
    | cons j is => exact h p (List.mem_cons_of_mem _ hp)

/-- The children of a node, read off the links. -/
theorem children_eq_of_links {t : Tree} {c : Nat} {is : List Nat}
    (hfirst : (t.node c).firstChild = is.head?)
    (h : ∀ p ∈ is.zip (is.tail.map some ++ [none]), (t.node p.1).nextSibling = p.2) :
    t.children c = is := by
  rw [children, hfirst, chain_head?_of_links h]

theorem lt_size_of_children_ne_nil {i : Nat} (h : t.children i ≠ []) : i < t.size := by
  by_contra hi
  refine h ?_
  rw [children, t.node_of_size_le (Nat.le_of_not_lt hi)]
  exact t.chain_none

/-! ## Links of an arena that was laid out -/

/-- Links point to the back, and no two of them to the same node. -/
structure LaidOut (t : Tree) : Prop where
  /-- A link points to the back. -/
  lt_of_linksTo : ∀ {i j : Nat}, (t.node i).LinksTo j → i < j
  /-- No two links point to the same node. -/
  nodup_linkTargets : t.linkTargets.Nodup

theorem laidOut_ofOutlines (os : List Outline) : (ofOutlines os).LaidOut where
  lt_of_linksTo := lt_of_linksTo_ofOutlines
  nodup_linkTargets := by
    refine List.nodup_iff_count_le_one.2 fun j ↦ ?_
    rw [count_linkTargets_ofOutlines]
    split_ifs <;> omega

/-- A member of a chain is its first one, or follows another member. -/
theorem mem_chain_cases {o : Option Nat} {j : Nat} (h : j ∈ t.chain o) :
    o = some j ∨ ∃ k ∈ t.chain o, (t.node k).nextSibling = some j := by
  fun_induction chain t o with
  | case1 => cases h
  | case2 i ih =>
    obtain rfl | h := List.mem_cons.1 h
    · exact .inl rfl
    · obtain h | ⟨k, hk, hnext⟩ := ih h
      · exact .inr ⟨i, List.mem_cons_self, h⟩
      · exact .inr ⟨k, List.mem_cons_of_mem i hk, hnext⟩

namespace LaidOut

variable (ht : t.LaidOut)

include ht

theorem eq_of_linksTo {i i' j : Nat} (h : (t.node i).LinksTo j) (h' : (t.node i').LinksTo j) :
    i = i' := by
  have hdisjoint := (List.nodup_flatMap.1 ht.nodup_linkTargets).2
  rw [List.pairwise_iff_getElem] at hdisjoint
  have hi := t.lt_size_of_linksTo h
  have hi' := t.lt_size_of_linksTo h'
  rw [t.node_eq_getElem hi, ← Node.mem_links] at h
  rw [t.node_eq_getElem hi', ← Node.mem_links] at h'
  obtain hlt | heq | hlt := Nat.lt_trichotomy i i'
  · exact absurd h' (hdisjoint i i' hi hi' hlt h)
  · exact heq
  · exact absurd h (hdisjoint i' i hi' hi hlt h')

theorem firstChild_ne_of_nextSibling {i k j : Nat} (h : (t.node k).nextSibling = some j) :
    (t.node i).firstChild ≠ some j := by
  intro h'
  obtain rfl := ht.eq_of_linksTo (.inl h') (.inr h)
  have hi : i < t.nodes.size := t.lt_size_of_linksTo (.inl h')
  have hmem : t.node i ∈ t.nodes.toList := by
    rw [t.node_eq_getElem hi]
    exact Array.mem_def.1 (Array.getElem_mem hi)
  have hnodup := (List.nodup_flatMap.1 ht.nodup_linkTargets).1 _ hmem
  rw [Node.links, h, h'] at hnodup
  exact absurd hnodup (by simp)

/-- **A node is the child of one node at most.** -/
theorem eq_of_mem_children {i i' j : Nat} (h : j ∈ t.children i) (h' : j ∈ t.children i') :
    i = i' := by
  induction j using Nat.strongRecOn with
  | ind j ih =>
    obtain hfirst | ⟨k, hk, hnext⟩ := mem_chain_cases h
    · obtain hfirst' | ⟨k', -, hnext'⟩ := mem_chain_cases h'
      · exact ht.eq_of_linksTo (.inl hfirst) (.inl hfirst')
      · exact absurd hfirst (ht.firstChild_ne_of_nextSibling hnext')
    · obtain hfirst' | ⟨k', hk', hnext'⟩ := mem_chain_cases h'
      · exact absurd hfirst' (ht.firstChild_ne_of_nextSibling hnext)
      · obtain rfl := ht.eq_of_linksTo (.inr hnext) (.inr hnext')
        exact ih k (ht.lt_of_linksTo (.inr hnext)) hk hk'

end LaidOut

/-! ## The table of parents -/

theorem size_foldl_setIfInBounds (js : List Nat) (i : Nat) (table : Array (Option Nat)) :
    (js.foldl (fun table j ↦ table.setIfInBounds j (some i)) table).size = table.size := by
  induction js generalizing table with
  | nil => rfl
  | cons j js ih => rw [List.foldl_cons, ih, Array.size_setIfInBounds]

/-- Once a node is claimed, it stays claimed. -/
theorem isSome_foldl_setIfInBounds (js : List Nat) (i : Nat) {table : Array (Option Nat)} {j : Nat}
    (h : table[j]?.join.isSome = true ∨ j ∈ js ∧ j < table.size) :
    ((js.foldl (fun table j ↦ table.setIfInBounds j (some i)) table)[j]?).join.isSome = true := by
  induction js generalizing table with
  | nil =>
    obtain h | ⟨h, -⟩ := h
    · exact h
    · cases h
  | cons k js ih =>
    refine ih ?_
    rw [Array.size_setIfInBounds, Array.getElem?_setIfInBounds]
    split_ifs with hkj hk
    · exact .inl rfl
    · obtain h | ⟨-, hj⟩ := h
      · rw [← hkj, Array.getElem?_eq_none (Nat.le_of_not_lt hk)] at h
        cases h
      · exact absurd (hkj ▸ hj) hk
    · refine h.imp_right fun ⟨hmem, hj⟩ ↦ ⟨?_, hj⟩
      exact (List.mem_cons.1 hmem).resolve_left (Ne.symm hkj)

theorem isSome_foldl_claimChildren (is : List Nat) {table : Array (Option Nat)} {i j : Nat}
    (h : table[j]?.join.isSome = true ∨ i ∈ is ∧ j ∈ t.children i ∧ j < table.size) :
    ((is.foldl t.claimChildren table)[j]?).join.isSome = true := by
  induction is generalizing table with
  | nil =>
    obtain h | ⟨h, -⟩ := h
    · exact h
    · cases h
  | cons k is ih =>
    refine ih ?_
    obtain h | ⟨hmem, hchild, hj⟩ := h
    · exact .inl (isSome_foldl_setIfInBounds _ k (.inl h))
    · obtain rfl | hmem := List.mem_cons.1 hmem
      · exact .inl (isSome_foldl_setIfInBounds _ i (.inr ⟨hchild, hj⟩))
      · refine .inr ⟨hmem, hchild, ?_⟩
        rw [claimChildren, size_foldl_setIfInBounds]
        exact hj

theorem isSome_parent?_of_mem_children {i j : Nat} (h : j ∈ t.children i) :
    (t.parents.parent? j).isSome = true := by
  have hi : i < t.size := lt_size_of_children_ne_nil (List.ne_nil_of_mem h)
  refine isSome_foldl_claimChildren _ (.inr ⟨List.mem_range.2 hi, h, ?_⟩)
  rw [Array.size_replicate]
  exact lt_size_of_mem_children h

namespace LaidOut

variable (ht : t.LaidOut)

include ht

theorem parent?_eq_some_iff {i j : Nat} :
    t.parents.parent? j = some i ↔ j ∈ t.children i := by
  refine ⟨fun h ↦ (mem_children_of_parent? h).2, fun h ↦ ?_⟩
  obtain ⟨k, hk⟩ := Option.isSome_iff_exists.1 (isSome_parent?_of_mem_children h)
  rw [hk, ht.eq_of_mem_children (mem_children_of_parent? hk).2 h]

/-! ## Climbing -/

/-- The parent of an ancestor is an ancestor. -/
theorem mem_cons_ancestors_of_mem_children {i j k : Nat} (hk : k ∈ j :: t.parents.ancestors j)
    (h : k ∈ t.children i) : i ∈ t.parents.ancestors j := by
  have hparent : t.parents.parent? k = some i := ht.parent?_eq_some_iff.2 h
  fun_induction Parents.ancestors t.parents j with
  | case1 j hnone =>
    obtain rfl := List.mem_singleton.1 hk
    rw [hnone] at hparent
    cases hparent
  | case2 j parent hj ih =>
    obtain rfl | hk := List.mem_cons.1 hk
    · rw [hj] at hparent
      cases hparent
      exact List.mem_cons_self
    · exact List.mem_cons_of_mem parent (ih hk)

/-- **A node and its ancestors are the nodes that it stands below.** -/
theorem mem_cons_ancestors_iff {i j : Nat} :
    i ∈ j :: t.parents.ancestors j ↔ j ∈ t.descendants (some i) := by
  constructor
  · intro h
    fun_induction Parents.ancestors t.parents j with
    | case1 j hnone =>
      obtain rfl := List.mem_singleton.1 h
      exact t.mem_descendants_self i
    | case2 j parent hj ih =>
      obtain rfl | h := List.mem_cons.1 h
      · exact t.mem_descendants_self i
      · have hchild : j ∈ t.descendants (some parent) :=
          mem_descendants_iff.2 (.inr ⟨j, (mem_children_of_parent? hj).2, t.mem_descendants_self j⟩)
        exact descendants_trans hchild (ih h)
  · -- The induction is on the rank of the upper node, which falls on the way down.
    intro h
    induction hrank : t.rank i using Nat.strongRecOn generalizing i with
    | ind rank ih =>
      obtain rfl | ⟨c, hc, hj⟩ := mem_descendants_iff.1 h
      · exact List.mem_cons_self
      · have hmem := ih (t.rank c) (hrank ▸ t.rank_lt_of_mem_children hc) hj rfl
        exact List.mem_cons_of_mem j (ht.mem_cons_ancestors_of_mem_children hmem hc)

/-- Climbing leads outwards. -/
theorem pairwise_cons_ancestors (j : Nat) :
    (j :: t.parents.ancestors j).Pairwise fun i k ↦ i ∈ t.descendants (some k) := by
  have hhead : ∀ k ∈ t.parents.ancestors j, j ∈ t.descendants (some k) := fun k hk ↦
    ht.mem_cons_ancestors_iff.1 (List.mem_cons_of_mem j hk)
  fun_induction Parents.ancestors t.parents j with
  | case1 j hnone => exact List.pairwise_singleton _ j
  | case2 j parent hj ih =>
    refine .cons hhead (ih fun k hk ↦ ?_)
    exact ht.mem_cons_ancestors_iff.1 (List.mem_cons_of_mem parent hk)

end LaidOut

end LintMark.Tree

import LintMark.Proofs.Syntax.Ancestry
import LintMark.Proofs.Syntax.Subtrees
import Mathlib.Data.List.Chain
import Mathlib.Order.Bounds.Basic

/-!
# Ancestors, descendants and the innermost of a kind

An arena that was laid out from outlines counts its nodes in document order. So the subtree of a
node is an interval of indices that starts at the node (`descendants_eq_range'`), the way up goes
through falling indices, and it ends at the top (`mem_chain_root_iff`). The innermost node of some
kinds around a node is therefore the one with the largest index (`LaidOut.enclosing_eq_some_iff`).
-/

namespace LintMark.Tree

open Outline

variable {t : Tree}

/-! ## Subtrees are intervals -/

/-- Every node of a stretch starts a stretch of its own, that of its subtree and its siblings. -/
theorem Holds.exists_holds : (os : List Outline) → (start : Nat) → t.Holds start os →
    ∀ i, start ≤ i → i < start + sizeAll os → ∃ o rest, t.Holds i (o :: rest)
  | [], start, _, i, hle, hlt => by
    rw [sizeAll] at hlt
    omega
  | .node token children :: os, start, h, i, hle, hlt => by
    obtain ⟨-, hchildren, hos⟩ := h.cons
    rw [sizeAll, Outline.size] at hlt
    by_cases hfirst : i = start
    · subst hfirst
      exact ⟨_, os, h⟩
    by_cases hbelow : i < start + 1 + sizeAll children
    · exact Holds.exists_holds children _ hchildren i (by omega) hbelow
    · exact Holds.exists_holds os _ hos i (by omega) (by omega)
termination_by os => sizeAll os
decreasing_by
  · rw [sizeAll, Outline.size]; omega
  · rw [sizeAll, Outline.size]; omega

/-- The subtree of a node is the interval of indices that starts at the node and is as long as the
subtree has nodes. -/
theorem descendants_eq_range' {os : List Outline} {i : Nat} (hi : i < (ofOutlines os).size) :
    (ofOutlines os).descendants (some i) = List.range' i ((ofOutlines os).outline i).size := by
  rw [size_ofOutlines, ← Nat.zero_add (sizeAll os)] at hi
  obtain ⟨o, rest, h⟩ := Holds.exists_holds os 0 (holds_ofOutlines os) i (Nat.zero_le i) hi
  obtain ⟨token, children⟩ := o
  obtain ⟨hnode, hchildren, -⟩ := h.cons
  rw [descendants_some, outline, hnode, pre_of_holds children _ hchildren,
    outlines_of_holds children _ hchildren, Outline.size, List.range'_succ]

/-! ## The top -/

/-- A node that a walk meets stands in the chain that the walk starts from, or below a node. -/
theorem mem_chain_or_exists_mem_children {o : Option Nat} {j : Nat} (h : j ∈ t.pre o) :
    j ∈ t.chain o ∨ ∃ i, j ∈ t.children i := by
  fun_induction pre t o with
  | case1 => cases h
  | case2 i ihChild ihSibling =>
    rw [chain_some]
    obtain rfl | h := List.mem_cons.1 h
    · exact .inl List.mem_cons_self
    · obtain h | h := List.mem_append.1 h
      · exact .inr ((ihChild h).elim (fun h ↦ ⟨i, h⟩) id)
      · exact (ihSibling h).imp_left fun h ↦ List.mem_cons_of_mem i h

namespace LaidOut

variable (ht : t.LaidOut)

include ht

theorem lt_of_mem_chain {o : Option Nat} {i j : Nat} (ho : ∀ k ∈ o, i < k) (h : j ∈ t.chain o) :
    i < j := by
  fun_induction chain t o with
  | case1 => cases h
  | case2 k ih =>
    obtain rfl | h := List.mem_cons.1 h
    · exact ho j rfl
    · exact ih (fun l hl ↦ Nat.lt_trans (ho k rfl) (ht.lt_of_linksTo (.inr hl))) h

/-- A child has a larger index than its parent. -/
theorem lt_of_mem_children {i j : Nat} (h : j ∈ t.children i) : i < j :=
  ht.lt_of_mem_chain (fun _ hk ↦ ht.lt_of_linksTo (.inl hk)) h

/-- A node at the top is nobody's child. -/
theorem notMem_children_of_mem_chain_root {i j : Nat} (hj : j ∈ t.chain t.root) :
    j ∉ t.children i := by
  induction j using Nat.strongRecOn with
  | ind j ih =>
    intro hchild
    obtain hroot | ⟨k, hk, hnext⟩ := mem_chain_cases hj
    · -- Nothing stands in front of the first node.
      have hzero : j = 0 := by
        rw [root] at hroot
        split at hroot
        · cases hroot
        · exact (Option.some_inj.1 hroot).symm
      have hlt := ht.lt_of_mem_children hchild
      omega
    · obtain hfirst | ⟨k', hk', hnext'⟩ := mem_chain_cases hchild
      · exact ht.firstChild_ne_of_nextSibling hnext hfirst
      · obtain rfl := ht.eq_of_linksTo (.inr hnext) (.inr hnext')
        exact ih k (ht.lt_of_linksTo (.inr hnext)) hk hk'

/-! ## The way up -/

/-- Indices fall on the way up. -/
theorem pairwise_gt_cons_ancestors (j : Nat) : (j :: t.parents.ancestors j).Pairwise (· > ·) := by
  rw [← List.isChain_iff_pairwise]
  fun_induction Parents.ancestors t.parents j with
  | case1 j hnone => exact List.isChain_singleton j
  | case2 j parent hj ih =>
    exact List.isChain_cons_cons.2 ⟨ht.lt_of_mem_children (mem_children_of_parent? hj).2, ih⟩

end LaidOut

/-- In a list of falling numbers the first one with a property is the greatest one. -/
theorem find?_eq_some_iff_isGreatest {p : Nat → Bool} {is : List Nat} (his : is.Pairwise (· > ·))
    {i : Nat} : is.find? p = some i ↔ IsGreatest {k | k ∈ is ∧ p k = true} i := by
  rw [List.find?_eq_some_iff_append]
  constructor
  · rintro ⟨hi, front, back, rfl, hfront⟩
    refine ⟨⟨List.mem_append_right _ List.mem_cons_self, hi⟩, ?_⟩
    rintro k ⟨hk, hp⟩
    obtain hk | hk := List.mem_append.1 hk
    · have hnot := hfront k hk
      simp [hp] at hnot
    · obtain rfl | hk := List.mem_cons.1 hk
      · exact Nat.le_refl k
      · have hback := (List.pairwise_append.1 his).2.1
        exact Nat.le_of_lt ((List.pairwise_cons.1 hback).1 k hk)
  · rintro ⟨⟨hmem, hi⟩, hgreatest⟩
    obtain ⟨front, back, rfl⟩ := List.append_of_mem hmem
    refine ⟨hi, front, back, rfl, fun k hk ↦ ?_⟩
    have hlt : k > i := (List.pairwise_append.1 his).2.2 k hk i List.mem_cons_self
    by_contra hp
    have hle : k ≤ i := hgreatest ⟨List.mem_append_left _ hk, by simpa using hp⟩
    omega

namespace LaidOut

variable (ht : t.LaidOut) {kinds : List Kind} {i j : Nat}

include ht

/-- **The innermost node of some kinds around a node** is the one with the largest index. -/
theorem enclosing_eq_some_iff : t.enclosing t.parents j kinds = some i ↔
    IsGreatest {k | t.kind k ∈ kinds ∧ j ∈ t.descendants (some k)} i := by
  rw [enclosing, find?_eq_some_iff_isGreatest (ht.pairwise_gt_cons_ancestors j)]
  have hset : {k | k ∈ j :: t.parents.ancestors j ∧ decide (t.kind k ∈ kinds) = true}
      = {k | t.kind k ∈ kinds ∧ j ∈ t.descendants (some k)} := by
    ext k
    rw [Set.mem_ofPred_eq, Set.mem_ofPred_eq, ht.mem_cons_ancestors_iff, decide_eq_true_iff,
      and_comm]
  rw [hset]

theorem enclosing_eq_none_iff : t.enclosing t.parents j kinds = none ↔
    ∀ k, t.kind k ∈ kinds → j ∉ t.descendants (some k) := by
  rw [enclosing, List.find?_eq_none]
  refine forall_congr' fun k ↦ ?_
  rw [ht.mem_cons_ancestors_iff, decide_eq_true_iff, imp_not_comm]

end LaidOut

/-! ## Arenas that were laid out -/

variable {os : List Outline}

/-- A node stands at the top exactly when climbing finds no parent. -/
theorem mem_chain_root_iff {j : Nat} (hj : j < (ofOutlines os).size) :
    j ∈ (ofOutlines os).chain (ofOutlines os).root ↔ (ofOutlines os).parents.parent? j = none := by
  have ht : (ofOutlines os).LaidOut := laidOut_ofOutlines os
  have hwalk : j ∈ (ofOutlines os).pre (ofOutlines os).root := by
    rw [← walk_eq_pre, walk_ofOutlines]
    exact List.mem_range.2 hj
  rw [Option.eq_none_iff_forall_ne_some]
  constructor
  · intro h i hparent
    exact ht.notMem_children_of_mem_chain_root h (ht.parent?_eq_some_iff.1 hparent)
  · intro h
    obtain htop | ⟨i, hchild⟩ := mem_chain_or_exists_mem_children hwalk
    · exact htop
    · exact absurd (ht.parent?_eq_some_iff.2 hchild) (h i)

/-- The way up ends at the top. -/
theorem getLast_cons_ancestors_mem {j : Nat} (hj : j < (ofOutlines os).size) :
    (j :: (ofOutlines os).parents.ancestors j).getLast (List.cons_ne_nil _ _)
      ∈ (ofOutlines os).chain (ofOutlines os).root := by
  fun_induction Parents.ancestors (ofOutlines os).parents j with
  | case1 j hnone => exact (mem_chain_root_iff hj).2 hnone
  | case2 j parent hparent ih =>
    rw [List.getLast_cons (List.cons_ne_nil _ _)]
    exact ih (mem_children_of_parent? hparent).1

/-- **Ancestors and descendants are two views of one tree.** The subtree of a node is an interval of
indices that starts at the node; a node stands in the subtree of another one exactly when it is that
node or has it among its ancestors; the ancestors of a node have falling indices, they end at the
top, and only a node at the top has none; and the innermost node of some kinds around a node is the
one with the largest index among those of these kinds whose subtrees hold the node. -/
theorem ancestry_ofOutlines (os : List Outline) :
    let t := ofOutlines os
    (∀ i < t.size, t.descendants (some i) = List.range' i (t.outline i).size) ∧
    (∀ i j, j ∈ t.descendants (some i) ↔ i = j ∨ i ∈ t.parents.ancestors j) ∧
    (∀ j < t.size, (j :: t.parents.ancestors j).Pairwise (· > ·) ∧
      (j :: t.parents.ancestors j).getLast (List.cons_ne_nil _ _) ∈ t.chain t.root ∧
      (t.parents.ancestors j = [] ↔ j ∈ t.chain t.root)) ∧
    ∀ j kinds,
      (∀ i, t.enclosing t.parents j kinds = some i ↔
        IsGreatest {k | t.kind k ∈ kinds ∧ j ∈ t.descendants (some k)} i) ∧
      (t.enclosing t.parents j kinds = none ↔
        ∀ k, t.kind k ∈ kinds → j ∉ t.descendants (some k)) := by
  intro t
  have ht : t.LaidOut := laidOut_ofOutlines os
  refine ⟨fun i hi ↦ descendants_eq_range' hi, fun i j ↦ ?_, fun j hj ↦ ⟨?_, ?_, ?_⟩,
    fun j kinds ↦ ⟨fun i ↦ ht.enclosing_eq_some_iff, ht.enclosing_eq_none_iff⟩⟩
  · rw [← ht.mem_cons_ancestors_iff, List.mem_cons]
  · exact ht.pairwise_gt_cons_ancestors j
  · exact getLast_cons_ancestors_mem hj
  · rw [mem_chain_root_iff hj]
    cases hparent : t.parents.parent? j with
    | none => exact iff_of_true (Parents.ancestors_of_parent?_eq_none hparent) rfl
    | some i =>
      rw [Parents.ancestors_of_parent?_eq_some hparent]
      exact iff_of_false (List.cons_ne_nil _ _) (Option.some_ne_none i)

end LintMark.Tree

import LintMark.Proofs.Syntax.Agreement
import LintMark.Proofs.Syntax.Builder

/-!
# Reading a forest back from its arena

The arena of a forest says no more and no less than the forest. Its links unfold to the forest, its
indices count the tokens in document order, and every node but the first root is the target of one
link, which stands further to the front (`readBack_ofOutlines`).

## Stretches of an arena

Each fact is proved for a stretch of an arena that holds the layout of some siblings, whatever stands
around it. Such a stretch starts with the first of the siblings; behind it stand the stretch of its
children and the stretch of the siblings to its right (`Holds.cons`). So the induction follows the
layout, and no index is ever compared with another one.
-/

namespace LintMark.Tree

open Outline

/-! ## Stretches -/

/-- From index `start` on, the arena holds the layout of `os`. -/
def Holds (t : Tree) (start : Nat) (os : List Outline) : Prop :=
  ∃ front back, t.nodes.toList = front ++ (layoutAll start os ++ back) ∧ front.length = start

/-- The link to the first of some siblings that are laid out from `start` on. -/
def linkToFirst (start : Nat) (os : List Outline) : Option Nat :=
  if os.isEmpty then none else some start

theorem linkToFirst_cons (start : Nat) (o : Outline) (os : List Outline) :
    linkToFirst start (o :: os) = some start := rfl

/-- The layout of siblings: the first of them, its children, and the others. -/
theorem layoutAll_cons (start : Nat) (token : Token) (children os : List Outline) :
    layoutAll start (.node token children :: os)
      = ⟨token, linkToFirst (start + 1) children, linkToFirst (start + (sizeAll children + 1)) os⟩
        :: (layoutAll (start + 1) children ++ layoutAll (start + (sizeAll children + 1)) os) := by
  rw [layoutAll, layout, Outline.size]
  cases os <;> rfl

theorem holds_ofOutlines (os : List Outline) : (ofOutlines os).Holds 0 os :=
  ⟨[], [], by rw [List.nil_append, List.append_nil]; rfl, rfl⟩

theorem root_ofOutlines (os : List Outline) : (ofOutlines os).root = linkToFirst 0 os := by
  have hlength := length_layoutAll 0 os
  cases os with
  | nil => rfl
  | cons o os =>
    have hpos : 0 < sizeAll (o :: os) := sizeAll_pos rfl
    rw [root, linkToFirst_cons, ofOutlines, if_neg]
    rw [List.isEmpty_toArray, List.isEmpty_iff, ← List.length_eq_zero_iff]
    omega

theorem size_ofOutlines (os : List Outline) : (ofOutlines os).size = sizeAll os :=
  length_layoutAll 0 os

/-- A stretch is the first sibling, the stretch of its children, and that of the other siblings. -/
theorem Holds.cons {t : Tree} {start : Nat} {token : Token} {children os : List Outline}
    (h : t.Holds start (.node token children :: os)) :
    t.node start = ⟨token, linkToFirst (start + 1) children,
        linkToFirst (start + (sizeAll children + 1)) os⟩ ∧
      t.Holds (start + 1) children ∧ t.Holds (start + (sizeAll children + 1)) os := by
  obtain ⟨front, back, hnodes, hfront⟩ := h
  rw [layoutAll_cons] at hnodes
  generalize (⟨token, linkToFirst (start + 1) children,
    linkToFirst (start + (sizeAll children + 1)) os⟩ : Node) = first at hnodes ⊢
  refine ⟨?_, ?_, ?_⟩
  · have hget : t.nodes[start]? = some first := by
      rw [← Array.getElem?_toList, hnodes, List.getElem?_append_right (Nat.le_of_eq hfront), hfront,
        Nat.sub_self]
      rfl
    rw [Tree.node, hget, Option.getD_some]
  · refine ⟨front ++ [first], layoutAll (start + (sizeAll children + 1)) os ++ back, ?_, ?_⟩
    · rw [hnodes, List.append_assoc, List.cons_append, List.singleton_append, List.append_assoc]
    · rw [List.length_append, hfront, List.length_singleton]
  · refine ⟨front ++ first :: layoutAll (start + 1) children, back, ?_, ?_⟩
    · rw [hnodes, List.append_assoc, List.cons_append, List.cons_append, List.append_assoc]
    · rw [List.length_append, List.length_cons, length_layoutAll, hfront]

/-! ## Unfolding -/

theorem outlines_of_holds {t : Tree} : (os : List Outline) → (start : Nat) → t.Holds start os →
    t.outlines (linkToFirst start os) = os
  | [], _, _ => t.outlines_none
  | .node token children :: os, start, h => by
    obtain ⟨hnode, hchildren, hos⟩ := h.cons
    rw [linkToFirst_cons, outlines_some, hnode, outlines_of_holds children _ hchildren,
      outlines_of_holds os _ hos]
termination_by os => sizeAll os
decreasing_by
  · rw [sizeAll, Outline.size]; omega
  · rw [sizeAll, Outline.size]; omega

theorem pre_of_holds {t : Tree} : (os : List Outline) → (start : Nat) → t.Holds start os →
    t.pre (linkToFirst start os) = List.range' start (sizeAll os)
  | [], _, _ => t.pre_none
  | .node token children :: os, start, h => by
    obtain ⟨hnode, hchildren, hos⟩ := h.cons
    have hsize : sizeAll (.node token children :: os)
        = (sizeAll children + sizeAll os) + 1 := by
      rw [sizeAll, Outline.size]
      omega
    have hnext : start + (sizeAll children + 1) = start + 1 + sizeAll children := by omega
    rw [linkToFirst_cons, pre_some, hnode, pre_of_holds children _ hchildren,
      pre_of_holds os _ hos, hsize, List.range'_succ, hnext, List.range'_append_1]
termination_by os => sizeAll os
decreasing_by
  · rw [sizeAll, Outline.size]; omega
  · rw [sizeAll, Outline.size]; omega

/-- Indices count in document order. -/
theorem walk_ofOutlines (os : List Outline) :
    (ofOutlines os).walk (ofOutlines os).root = List.range (ofOutlines os).size := by
  rw [walk_eq_pre, root_ofOutlines, pre_of_holds os 0 (holds_ofOutlines os), size_ofOutlines,
    List.range_eq_range']

/-! ## Links -/

/-- The targets of all links, one entry for each link. -/
def linkTargets (t : Tree) : List Nat := t.nodes.toList.flatMap Node.links

theorem count_toList_linkToFirst (start j : Nat) (os : List Outline) :
    (linkToFirst start os).toList.count j = if os ≠ [] ∧ j = start then 1 else 0 := by
  cases os with
  | nil => rfl
  | cons o os =>
    rw [linkToFirst_cons, Option.toList_some, List.count_singleton]
    refine if_congr ?_ rfl rfl
    rw [beq_iff_eq, eq_comm]
    exact (and_iff_right (List.cons_ne_nil o os)).symm

/-- Among siblings and what is below them, one link leads to every node but the first. -/
theorem count_links_layoutAll (j : Nat) : (os : List Outline) → (start : Nat) →
    ((layoutAll start os).flatMap Node.links).count j
      = if start < j ∧ j < start + sizeAll os then 1 else 0
  | [], start => by
    rw [layoutAll, sizeAll, List.flatMap_nil, List.count_nil, if_neg (by omega)]
  | .node token children :: os, start => by
    have hnil : ∀ cs : List Outline, cs = [] ↔ sizeAll cs = 0 := by
      intro cs
      cases cs with
      | nil => exact iff_of_true rfl rfl
      | cons c cs =>
        have hpos : 0 < sizeAll (c :: cs) := sizeAll_pos rfl
        exact iff_of_false (List.cons_ne_nil c cs) (by omega)
    have hlinks : (Node.links ⟨token, linkToFirst (start + 1) children,
          linkToFirst (start + (sizeAll children + 1)) os⟩).count j
        = (if children ≠ [] ∧ j = start + 1 then 1 else 0)
          + if os ≠ [] ∧ j = start + (sizeAll children + 1) then 1 else 0 := by
      rw [Node.links, List.count_append, count_toList_linkToFirst, count_toList_linkToFirst]
    rw [layoutAll_cons, List.flatMap_cons, List.flatMap_append, List.count_append, List.count_append,
      hlinks, count_links_layoutAll j children, count_links_layoutAll j os, sizeAll, Outline.size]
    simp only [ne_eq, hnil]
    split_ifs <;> omega
termination_by os => sizeAll os
decreasing_by
  · rw [sizeAll, Outline.size]; omega
  · rw [sizeAll, Outline.size]; omega

theorem count_linkTargets_ofOutlines (os : List Outline) (j : Nat) :
    (ofOutlines os).linkTargets.count j = if 0 < j ∧ j < (ofOutlines os).size then 1 else 0 := by
  rw [size_ofOutlines, ← Nat.zero_add (sizeAll os)]
  exact count_links_layoutAll j os 0

theorem lt_of_linksTo_ofOutlines {os : List Outline} {i j : Nat}
    (h : ((ofOutlines os).node i).LinksTo j) : i < j := by
  have hi := (ofOutlines os).lt_size_of_linksTo h
  rw [node_eq_getElem _ hi, ← Node.mem_links] at h
  have hlinks := bounds_of_mem_links_layoutAll 0 os i
    (by rw [length_layoutAll]; rwa [← size, size_ofOutlines] at hi) j h
  omega

/-! ## Reading back -/

/-- **An arena says what its forest says.** The stack builds the layout, every node with its index;
the links from the root on unfold to the forest; there are as many nodes as tokens, and they come in
document order; and links point to the back, one of them at every node but the first. -/
theorem readBack_ofOutlines (os : List Outline) :
    (Builder.build os).map Builder.IndexedNode.toNode = (ofOutlines os).nodes.toList ∧
    (Builder.build os).map Builder.IndexedNode.index = List.range (ofOutlines os).size ∧
    (ofOutlines os).outlines (ofOutlines os).root = os ∧
    (ofOutlines os).size = sizeAll os ∧
    (ofOutlines os).walk (ofOutlines os).root = List.range (ofOutlines os).size ∧
    (∀ i j, ((ofOutlines os).node i).LinksTo j → i < j ∧ j < (ofOutlines os).size) ∧
    ∀ j, (ofOutlines os).linkTargets.count j
      = if 0 < j ∧ j < (ofOutlines os).size then 1 else 0 := by
  have hnodes := Builder.map_toNode_build os
  have hlength : (Builder.build os).length = (ofOutlines os).size := by
    rw [← List.length_map Builder.IndexedNode.toNode, hnodes]
    rfl
  have houtlines : (ofOutlines os).outlines (ofOutlines os).root = os := by
    rw [root_ofOutlines]
    exact outlines_of_holds os 0 (holds_ofOutlines os)
  refine ⟨hnodes, ?_, houtlines, size_ofOutlines os, walk_ofOutlines os, fun i j h ↦ ?_,
    count_linkTargets_ofOutlines os⟩
  · rw [Builder.map_index_build, hlength]
  · exact ⟨lt_of_linksTo_ofOutlines h, (ofOutlines os).target_lt_size h⟩

end LintMark.Tree

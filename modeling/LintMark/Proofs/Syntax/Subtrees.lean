import LintMark.Proofs.Syntax.Layout

/-!
# The outlines in a forest

`Outline.subtreesAll` lists the outlines that stand anywhere in a forest, in pre-order. A walk over
an arena meets the nodes in the same order (`Tree.map_outline_pre`), so the outline in place `i` of
the list is what node `i` of the laid-out forest unfolds to. This is how a fact about an outline,
wherever it stands in a forest, becomes a fact about a node.
-/

namespace LintMark

namespace Outline

mutual

/-- The outline and all outlines below it, in pre-order. -/
def subtrees : Outline → List Outline
  | node token children => node token children :: subtreesAll children

/-- The outlines in a forest, in pre-order. -/
def subtreesAll : List Outline → List Outline
  | [] => []
  | o :: os => o.subtrees ++ subtreesAll os

end

theorem subtrees_eq (o : Outline) : o.subtrees = o :: subtreesAll o.children := by
  cases o
  rw [subtrees, children]

theorem subtreesAll_eq_flatMap (os : List Outline) : subtreesAll os = os.flatMap subtrees := by
  induction os with
  | nil => rfl
  | cons o os ih => rw [subtreesAll, ih, List.flatMap_cons]

/-- The kind of the token at the top. -/
def kind (o : Outline) : Kind := o.token.kind

end Outline

namespace Tree

open Outline

/-! ## Outlines of nodes -/

@[simp] theorem kind_outline (t : Tree) (i : Nat) : (t.outline i).kind = t.kind i := rfl

theorem children_outline (t : Tree) (i : Nat) :
    (t.outline i).children = (t.children i).map t.outline := t.outlines_eq_map _

theorem map_outline_pre (t : Tree) (o : Option Nat) :
    (t.pre o).map t.outline = subtreesAll (t.outlines o) := by
  fun_induction pre t o with
  | case1 => rw [outlines_none, List.map_nil, subtreesAll]
  | case2 i ihChild ihSibling =>
    rw [List.map_cons, List.map_append, ihChild, ihSibling, outlines_some, subtreesAll,
      Outline.subtrees, List.cons_append, outline]

/-- The nodes of a laid-out forest unfold to the outlines in the forest. -/
theorem map_outline_range (os : List Outline) :
    (List.range (ofOutlines os).size).map (ofOutlines os).outline = subtreesAll os := by
  rw [← walk_ofOutlines, walk_eq_pre, map_outline_pre, root_ofOutlines,
    outlines_of_holds os 0 (holds_ofOutlines os)]

theorem outline_of_getElem?_subtreesAll {os : List Outline} {i : Nat} {o : Outline}
    (h : (subtreesAll os)[i]? = some o) : (ofOutlines os).outline i = o := by
  rw [← map_outline_range, List.getElem?_map] at h
  obtain ⟨j, hj, rfl⟩ := Option.map_eq_some_iff.1 h
  rw [List.getElem?_eq_some_iff] at hj
  obtain ⟨-, rfl⟩ := hj
  rw [List.getElem_range]

theorem outline_mem_subtreesAll {os : List Outline} {i : Nat} (hi : i < (ofOutlines os).size) :
    (ofOutlines os).outline i ∈ subtreesAll os := by
  rw [← map_outline_range]
  exact List.mem_map_of_mem (List.mem_range.2 hi)

end Tree

end LintMark

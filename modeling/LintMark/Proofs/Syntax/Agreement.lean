import LintMark.Proofs.Syntax.Walk
import LintMark.Syntax.Agreement
import LintMark.Syntax.Outline
import Mathlib.Data.List.Forall2

/-!
# Agreement is equality of outlines

`Tree.outline` unfolds the subtree of a node into an ordered tree of tokens, and `Outline.unplaced`
forgets where the tokens stand. Two nodes are `Alike` when their outlines are equal up to places.

The worklist of `Tree.agree` decides this relation (`agree_some_iff`), and nodes that are alike
have descendants that are alike one by one, in document order (`Alike.forall₂_descendants`). The
second fact is what carries a window from one arena to another: the indices of the two arenas have
nothing in common.
-/

namespace LintMark

namespace Outline

mutual

/-- The outline with all places forgotten. -/
def unplaced : Outline → Outline
  | node token children => node ⟨token.kind, token.text, 0, 0⟩ (unplacedAll children)

/-- The outlines of a forest with all places forgotten. -/
def unplacedAll : List Outline → List Outline
  | [] => []
  | o :: os => o.unplaced :: unplacedAll os

end

theorem unplacedAll_eq_map (os : List Outline) : unplacedAll os = os.map unplaced := by
  induction os with
  | nil => rw [unplacedAll, List.map_nil]
  | cons o os ih => rw [unplacedAll, List.map_cons, ih]

end Outline

namespace Tree

/-! ## Outlines of nodes -/

/-- The outline of the subtree that starts at node `i`. -/
def outline (t : Tree) (i : Nat) : Outline :=
  .node (t.node i).toToken (t.outlines (t.node i).firstChild)

theorem outlines_eq_map (t : Tree) (o : Option Nat) :
    t.outlines o = (t.chain o).map t.outline := by
  fun_induction chain t o with
  | case1 => rw [outlines_none, List.map_nil]
  | case2 i ih => rw [outlines_some, List.map_cons, ih, outline]

theorem unplaced_outline (t : Tree) (i : Nat) :
    (t.outline i).unplaced
      = .node ⟨t.kind i, t.text i, 0, 0⟩ ((t.children i).map fun c ↦ (t.outline c).unplaced) := by
  rw [outline, Outline.unplaced, Outline.unplacedAll_eq_map, outlines_eq_map, List.map_map,
    children]
  rfl

/-! ## Nodes that are alike -/

/-- The subtrees of `i` and `j` have the same shape, and the same kinds and texts. -/
def Alike (s t : Tree) (i j : Nat) : Prop := (s.outline i).unplaced = (t.outline j).unplaced

variable {s t : Tree}

theorem alike_iff {i j : Nat} :
    Alike s t i j ↔ s.kind i = t.kind j ∧ s.text i = t.text j ∧
      List.Forall₂ (Alike s t) (s.children i) (t.children j) := by
  have hchildren : List.Forall₂ (Alike s t) (s.children i) (t.children j) ↔
      (s.children i).map (fun c ↦ (s.outline c).unplaced)
        = (t.children j).map fun c ↦ (t.outline c).unplaced := by
    rw [← List.forall₂_eq_eq_eq, List.forall₂_map_left_iff, List.forall₂_map_right_iff]
    rfl
  rw [Alike, unplaced_outline, unplaced_outline, Outline.node.injEq, hchildren, Token.mk.injEq]
  tauto

theorem Alike.kind_eq {i j : Nat} (h : Alike s t i j) : s.kind i = t.kind j := (alike_iff.1 h).1

theorem Alike.text_eq {i j : Nat} (h : Alike s t i j) : s.text i = t.text j := (alike_iff.1 h).2.1

theorem Alike.forall₂_children {i j : Nat} (h : Alike s t i j) :
    List.Forall₂ (Alike s t) (s.children i) (t.children j) := (alike_iff.1 h).2.2

/-! ## The worklist -/

theorem allAgree_iff (pending : List (Nat × Nat)) :
    allAgree s t pending = true ↔ ∀ p ∈ pending, Alike s t p.1 p.2 := by
  fun_induction allAgree s t pending with
  | case1 => simp
  | case2 i j pending hij ih =>
    obtain ⟨hkind, htext, hlength⟩ := hij
    rw [ih, List.forall_mem_append, List.forall_mem_cons]
    refine and_congr_left fun _ ↦ ?_
    rw [alike_iff, List.forall₂_iff_zip]
    constructor
    · intro h
      exact ⟨hkind, htext, hlength, fun hp ↦ h _ hp⟩
    · rintro ⟨-, -, -, h⟩ ⟨a, b⟩ hp
      exact h hp
  | case3 i j pending hij =>
    refine iff_of_false Bool.false_ne_true fun h ↦ hij ?_
    have halike := alike_iff.1 (h (i, j) List.mem_cons_self)
    exact ⟨halike.1, halike.2.1, halike.2.2.length_eq⟩

/-- Agreement of two nodes is equality of their outlines up to places. -/
theorem agree_some_iff {i j : Nat} : agree s t (some i) (some j) = true ↔ Alike s t i j := by
  rw [agree, allAgree_iff, List.forall_mem_singleton]

/-! ## Descendants of nodes that are alike -/

theorem forall₂_alike_pre {o o' : Option Nat}
    (h : List.Forall₂ (Alike s t) (s.chain o) (t.chain o')) :
    List.Forall₂ (Alike s t) (s.pre o) (t.pre o') := by
  fun_induction pre s o generalizing o' with
  | case1 =>
    cases o' with
    | none => simp
    | some j => rw [chain_none, chain_some] at h; cases h
  | case2 i ihChild ihSibling =>
    cases o' with
    | none => rw [chain_none, chain_some] at h; cases h
    | some j =>
      rw [chain_some, chain_some] at h
      obtain ⟨hhead, htail⟩ := List.forall₂_cons.1 h
      rw [pre_some]
      exact .cons hhead (List.rel_append (ihChild hhead.forall₂_children) (ihSibling htail))

theorem Alike.forall₂_pre {i j : Nat} (h : Alike s t i j) :
    List.Forall₂ (Alike s t) (s.pre (s.node i).firstChild) (t.pre (t.node j).firstChild) :=
  forall₂_alike_pre h.forall₂_children

theorem Alike.forall₂_descendants {i j : Nat} (h : Alike s t i j) :
    List.Forall₂ (Alike s t) (s.descendants (some i)) (t.descendants (some j)) := by
  rw [descendants_some, descendants_some]
  exact .cons h h.forall₂_pre

theorem forall₂_alike_subtrees {is js : List Nat} (h : List.Forall₂ (Alike s t) is js) :
    List.Forall₂ (Alike s t) (s.subtrees is) (t.subtrees js) :=
  List.rel_flatMap h fun _ _ h ↦ h.forall₂_descendants

theorem map_text_eq_of_forall₂ {is js : List Nat} (h : List.Forall₂ (Alike s t) is js) :
    is.map s.text = js.map t.text := by
  rw [← List.forall₂_eq_eq_eq, List.forall₂_map_left_iff, List.forall₂_map_right_iff]
  exact h.imp fun _ _ hij ↦ hij.text_eq

end Tree

end LintMark

import LintMark.Syntax.Walk

/-!
# Outlines and their layout

An outline is an ordered tree of tokens, the form in which a tree is described before it has
indices. `Tree.ofOutlines` lays a forest of outlines out in an arena: every outline takes the
next free index, its children follow it, and then the outlines to its right. Indices therefore
rise in document order, and every link points to a larger index.

`Tree.outlines` reads a forest back from an arena.
-/

namespace LintMark

/-- A token with the outlines of its children. -/
inductive Outline where
  | node (token : Token) (children : List Outline)
deriving Inhabited

namespace Outline

/-- The token at the top. -/
def token : Outline → Token
  | node token _ => token

/-- The outlines below the top. -/
def children : Outline → List Outline
  | node _ children => children

mutual

/-- The number of tokens. -/
def size : Outline → Nat
  | node _ children => sizeAll children + 1

/-- The number of tokens of a forest. -/
def sizeAll : List Outline → Nat
  | [] => 0
  | o :: os => o.size + sizeAll os

end

mutual

/-- The nodes of an outline whose first node gets the index `start`. The node at the top links to
a sibling, which then follows directly, if `more` says that there is one. -/
def layout (start : Nat) (more : Bool) : Outline → List Node
  | node token children =>
    { toToken := token
      firstChild := if children.isEmpty then none else some (start + 1)
      nextSibling := if more then some (start + (sizeAll children + 1)) else none } ::
    layoutAll (start + 1) children

/-- The nodes of a chain of siblings of which the first gets the index `start`. -/
def layoutAll (start : Nat) : List Outline → List Node
  | [] => []
  | o :: os => o.layout start (!os.isEmpty) ++ layoutAll (start + o.size) os

end

mutual

theorem length_layout (start : Nat) (more : Bool) : (o : Outline) →
    (o.layout start more).length = o.size
  | node _ children => by
    rw [layout, size, List.length_cons, length_layoutAll (start + 1) children]

theorem length_layoutAll (start : Nat) : (os : List Outline) →
    (layoutAll start os).length = sizeAll os
  | [] => rfl
  | o :: os => by
    rw [layoutAll, sizeAll, List.length_append, length_layout, length_layoutAll]

end

theorem size_pos : (o : Outline) → 0 < o.size
  | node _ children => by rw [size]; omega

theorem sizeAll_pos {os : List Outline} (h : os.isEmpty = false) : 0 < sizeAll os := by
  cases os with
  | nil => cases h
  | cons o os => have := o.size_pos; rw [sizeAll]; omega

mutual

/-- A link from the `k`-th node of an outline points behind that node. It points into the outline,
or just behind it where a sibling follows. -/
theorem bounds_of_mem_links_layout (start : Nat) (more : Bool) : (o : Outline) →
    ∀ k (h : k < (o.layout start more).length), ∀ j ∈ ((o.layout start more)[k]).links,
      start + k < j ∧ j < start + o.size + more.toNat
  | node token children, k, h, j, hj => by
    cases k with
    | zero =>
      simp only [layout, List.getElem_cons_zero, Node.mem_links, Node.LinksTo, size] at hj ⊢
      rcases hj with hj | hj
      · split at hj
        · cases hj
        · next hc =>
          cases hj
          have := sizeAll_pos (Bool.eq_false_iff.2 hc)
          omega
      · split at hj
        · next hm => cases hj; simp [hm]
        · cases hj
    | succ k =>
      simp only [layout, List.getElem_cons_succ, size] at hj ⊢
      have := bounds_of_mem_links_layoutAll (start + 1) children k
        (by simpa [layout] using h) j hj
      omega

/-- A link from the `k`-th node of a chain points behind that node and into the chain. -/
theorem bounds_of_mem_links_layoutAll (start : Nat) : (os : List Outline) →
    ∀ k (h : k < (layoutAll start os).length), ∀ j ∈ ((layoutAll start os)[k]).links,
      start + k < j ∧ j < start + sizeAll os
  | [], k, h, _, _ => by simp [layoutAll] at h
  | o :: os, k, h, j, hj => by
    simp only [layoutAll, sizeAll] at hj ⊢
    rcases Nat.lt_or_ge k (o.layout start (!os.isEmpty)).length with hk | hk
    · rw [List.getElem_append_left hk] at hj
      have := bounds_of_mem_links_layout start (!os.isEmpty) o k hk j hj
      cases hos : os.isEmpty with
      | true => simp [hos] at this; omega
      | false => have := sizeAll_pos hos; simp [hos] at *; omega
    · rw [List.getElem_append_right hk] at hj
      simp only [length_layout] at hj hk
      have := bounds_of_mem_links_layoutAll (start + o.size) os (k - o.size)
        (by simp only [layoutAll, List.length_append, length_layout] at h; omega) j hj
      omega

end

end Outline

namespace Tree

/-- The arena of a forest, laid out in document order. -/
def ofOutlines (os : List Outline) : Tree where
  nodes := (Outline.layoutAll 0 os).toArray
  acyclic := by
    refine ⟨fun i ↦ Outline.sizeAll os - i, fun i hi j hj ↦ ?_⟩
    have hlen := Outline.length_layoutAll 0 os
    simp only [List.size_toArray, List.getElem_toArray] at hi hj ⊢
    have := Outline.bounds_of_mem_links_layoutAll 0 os i hi j hj
    omega

/-- The forest that hangs from `o` and the siblings to its right. -/
def outlines (t : Tree) : Option Nat → List Outline
  | none => []
  | some i =>
    .node (t.node i).toToken (t.outlines (t.node i).firstChild) ::
      t.outlines (t.node i).nextSibling
termination_by o => t.depth o
decreasing_by
  · exact t.depth_firstChild_lt i
  · exact t.depth_nextSibling_lt i

@[simp] theorem outlines_none (t : Tree) : t.outlines none = [] := by rw [outlines]

theorem outlines_some (t : Tree) (i : Nat) :
    t.outlines (some i) =
      .node (t.node i).toToken (t.outlines (t.node i).firstChild) ::
        t.outlines (t.node i).nextSibling := by
  rw [outlines]

end Tree

end LintMark

import LintMark.Syntax.Ancestry
import LintMark.Window.Selection

/-!
# Where walks go

A walk that starts at a node of the arena stays in the arena, and so does everything that is found
on walks: children, descendants, parents and ancestors. The subtrees of a chain of siblings, one
after the other, are the walk from the first of them.
-/

namespace LintMark.Tree

variable {t : Tree}

/-! ## Staying in the arena -/

/-- An optional index that denotes a node of the arena if it denotes anything. -/
def InArena (t : Tree) (o : Option Nat) : Prop := ∀ i ∈ o, i < t.size

theorem inArena_root (t : Tree) : t.InArena t.root := by
  intro i hi
  rw [root] at hi
  split at hi
  · cases hi
  · next hne =>
    cases hi
    exact Array.size_pos_iff.2 fun h ↦ hne (by simp [h])

theorem inArena_firstChild (t : Tree) (i : Nat) : t.InArena (t.node i).firstChild :=
  fun _ hj ↦ t.target_lt_size (.inl hj)

theorem inArena_nextSibling (t : Tree) (i : Nat) : t.InArena (t.node i).nextSibling :=
  fun _ hj ↦ t.target_lt_size (.inr hj)

theorem lt_size_of_mem_pre {o : Option Nat} (ho : t.InArena o) {j : Nat} (hj : j ∈ t.pre o) :
    j < t.size := by
  fun_induction pre t o with
  | case1 => cases hj
  | case2 i ihChild ihSibling =>
    rcases List.mem_cons.1 hj with rfl | hj
    · exact ho j rfl
    · rcases List.mem_append.1 hj with hj | hj
      · exact ihChild (t.inArena_firstChild i) hj
      · exact ihSibling (t.inArena_nextSibling i) hj

theorem lt_size_of_mem_walk {o : Option Nat} (ho : t.InArena o) {j : Nat} (hj : j ∈ t.walk o) :
    j < t.size := by
  rw [walk_eq_pre] at hj
  exact lt_size_of_mem_pre ho hj

theorem lt_size_of_mem_chain {o : Option Nat} (ho : t.InArena o) {j : Nat}
    (hj : j ∈ t.chain o) : j < t.size := by
  fun_induction chain t o with
  | case1 => cases hj
  | case2 i ih =>
    rcases List.mem_cons.1 hj with rfl | hj
    · exact ho j rfl
    · exact ih (t.inArena_nextSibling i) hj

theorem lt_size_of_mem_children {i j : Nat} (hj : j ∈ t.children i) : j < t.size :=
  lt_size_of_mem_chain (t.inArena_firstChild i) hj

theorem lt_size_of_findChild {i j : Nat} {kind : Kind} (h : t.findChild i kind = some j) :
    j < t.size :=
  lt_size_of_mem_children (List.mem_of_find?_eq_some h)

theorem lt_size_of_mem_descendants {i j : Nat} (hi : i < t.size)
    (hj : j ∈ t.descendants (some i)) : j < t.size := by
  rw [descendants] at hj
  rcases List.mem_cons.1 hj with rfl | hj
  · exact hi
  · exact lt_size_of_mem_walk (t.inArena_firstChild i) hj

theorem lt_size_of_mem_subtrees {is : List Nat} (his : ∀ i ∈ is, i < t.size) {j : Nat}
    (hj : j ∈ t.subtrees is) : j < t.size := by
  obtain ⟨i, hi, hj⟩ := List.mem_flatMap.1 hj
  exact lt_size_of_mem_descendants (his i hi) hj

/-! ## Parents and ancestors -/

theorem mem_children_of_parent? {i j : Nat} (h : t.parents.parent? j = some i) :
    i < t.size ∧ j ∈ t.children i := by
  apply t.mem_children_of_parentTable
  rw [Parents.parent?] at h
  exact Option.join_eq_some_iff.1 h

theorem lt_size_of_mem_ancestors {i j : Nat} (h : i ∈ t.parents.ancestors j) : i < t.size := by
  fun_induction Parents.ancestors t.parents j with
  | case1 => cases h
  | case2 j k hk ih =>
    rcases List.mem_cons.1 h with rfl | h
    · exact (mem_children_of_parent? hk).1
    · exact ih h

theorem lt_size_of_enclosing {i j : Nat} {kinds : List Kind} (hj : j < t.size)
    (h : t.enclosing t.parents j kinds = some i) : i < t.size := by
  rcases List.mem_cons.1 (List.mem_of_find?_eq_some h) with rfl | h
  · exact hj
  · exact lt_size_of_mem_ancestors h

/-! ## Subtrees of a chain -/

theorem subtrees_chain (t : Tree) (o : Option Nat) : t.subtrees (t.chain o) = t.pre o := by
  rw [subtrees, flatMap_descendants_chain]

/-- The subtrees of the children of a node are the proper descendants of the node. -/
theorem subtrees_children (t : Tree) (i : Nat) :
    t.subtrees (t.children i) = t.pre (t.node i).firstChild := by
  rw [children, subtrees_chain]

end LintMark.Tree

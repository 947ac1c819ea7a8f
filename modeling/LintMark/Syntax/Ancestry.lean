import LintMark.Syntax.Walk

/-!
# Parents and ancestors

The arena has no links upwards. `Tree.parents` inverts the lists of children once for a whole
tree; where an arena lets two nodes share a child, the parent with the larger index wins.

A table of parents carries the fact that makes climbing end: some height grows with every step
from a node to its parent.
-/

namespace LintMark

/-- For each index the index of a parent, such that climbing from parent to parent ends. -/
structure Parents where
  /-- The parent of each index, by index. -/
  table : Array (Option Nat)
  /-- Some height grows, below a common bound, with every step to a parent. -/
  climbs : ∃ height : Nat → Nat, ∀ j i, table[j]? = some (some i) → height i < height j

namespace Parents

/-- The parent of `j`, if it has one. -/
def parent? (p : Parents) (j : Nat) : Option Nat := p.table[j]?.join

/-- A number that falls with every step from a node to its parent. -/
noncomputable def height (p : Parents) : Nat → Nat := p.climbs.choose

theorem height_lt (p : Parents) {j i : Nat} (h : p.parent? j = some i) :
    p.height i < p.height j := by
  apply p.climbs.choose_spec
  unfold parent? at h
  cases hj : p.table[j]? with
  | none => simp [hj] at h
  | some o => simp [hj] at h; simp [h]

/-- The parent of `j`, the parent of that, and so on to the top. -/
def ancestors (p : Parents) (j : Nat) : List Nat :=
  match _ : p.parent? j with
  | none => []
  | some i => i :: p.ancestors i
termination_by p.height j
decreasing_by exact p.height_lt ‹_›

theorem ancestors_of_parent?_eq_none {p : Parents} {j : Nat} (h : p.parent? j = none) :
    p.ancestors j = [] := by
  rw [ancestors]; split
  · rfl
  · simp_all

theorem ancestors_of_parent?_eq_some {p : Parents} {j i : Nat} (h : p.parent? j = some i) :
    p.ancestors j = i :: p.ancestors i := by
  rw [ancestors]; split
  · simp_all
  · simp_all

/-- The pairs of an index and its parent, by increasing index. -/
def toList (p : Parents) : List (Nat × Nat) :=
  (List.range p.table.size).filterMap fun j ↦ (p.parent? j).map fun i ↦ (j, i)

end Parents

namespace Tree

/-! ## Inverting the lists of children -/

/-- Enters `i` as the parent of each of its children. -/
def claimChildren (t : Tree) (table : Array (Option Nat)) (i : Nat) : Array (Option Nat) :=
  (t.children i).foldl (fun table j ↦ table.setIfInBounds j (some i)) table

/-- The parent of each index; a later claim on a child replaces an earlier one. -/
def parentTable (t : Tree) : Array (Option Nat) :=
  (List.range t.size).foldl t.claimChildren (Array.replicate t.size none)

theorem rank_lt_of_mem_chain (t : Tree) {o : Option Nat} {j : Nat} (h : j ∈ t.chain o) :
    t.rank j < t.depth o := by
  fun_induction chain t o with
  | case1 => cases h
  | case2 i ih =>
    rcases List.mem_cons.1 h with rfl | h
    · exact Nat.lt_succ_self _
    · exact Nat.lt_trans (ih h) (t.depth_nextSibling_lt i)

theorem rank_lt_of_mem_children (t : Tree) {i j : Nat} (h : j ∈ t.children i) :
    t.rank j < t.rank i := by
  have h₁ := t.rank_lt_of_mem_chain h
  have h₂ := t.depth_firstChild_lt i
  simp only [depth] at h₁ h₂
  omega

private theorem foldl_setIfInBounds_claim {i : Nat} (js : List Nat) (table : Array (Option Nat))
    {j k : Nat}
    (h : (js.foldl (fun table j ↦ table.setIfInBounds j (some i)) table)[j]? = some (some k)) :
    table[j]? = some (some k) ∨ (k = i ∧ j ∈ js) := by
  induction js generalizing table with
  | nil => exact .inl h
  | cons j' js ih =>
    rcases ih _ h with h | ⟨hk, hj⟩
    · rw [Array.getElem?_setIfInBounds] at h
      split at h
      · next hj =>
        split at h
        · cases h; exact .inr ⟨rfl, hj ▸ List.mem_cons_self⟩
        · cases h
      · exact .inl h
    · exact .inr ⟨hk, List.mem_cons_of_mem _ hj⟩

private theorem foldl_claimChildren (t : Tree) (is : List Nat) (table : Array (Option Nat))
    {j k : Nat} (h : (is.foldl t.claimChildren table)[j]? = some (some k)) :
    table[j]? = some (some k) ∨ (k ∈ is ∧ j ∈ t.children k) := by
  induction is generalizing table with
  | nil => exact .inl h
  | cons i is ih =>
    rcases ih _ h with h | ⟨h₁, h₂⟩
    · rcases foldl_setIfInBounds_claim _ _ h with h | ⟨rfl, h⟩
      · exact .inl h
      · exact .inr ⟨List.mem_cons_self, h⟩
    · exact .inr ⟨List.mem_cons_of_mem _ h₁, h₂⟩

/-- Whatever the table calls the parent of `j` has `j` among its children. -/
theorem mem_children_of_parentTable (t : Tree) {j i : Nat}
    (h : t.parentTable[j]? = some (some i)) : i < t.size ∧ j ∈ t.children i := by
  rcases foldl_claimChildren t _ _ h with h | ⟨h₁, h₂⟩
  · rw [Array.getElem?_replicate] at h
    split at h <;> simp at h
  · exact ⟨List.mem_range.1 h₁, h₂⟩

/-- The parents of the nodes of a tree. -/
def parents (t : Tree) : Parents where
  table := t.parentTable
  climbs := by
    let bound := ((List.range t.size).map t.rank).max?.getD 0
    refine ⟨fun i ↦ bound - t.rank i, fun j i h ↦ ?_⟩
    obtain ⟨hi, hj⟩ := t.mem_children_of_parentTable h
    have hlt := t.rank_lt_of_mem_children hj
    have hle : t.rank i ≤ bound :=
      List.le_max?_getD_of_mem (List.mem_map_of_mem (List.mem_range.2 hi))
    show bound - t.rank i < bound - t.rank j
    omega

/-- The innermost node among `i` and its ancestors whose kind is one of `kinds`. -/
def enclosing (t : Tree) (p : Parents) (i : Nat) (kinds : List Kind) : Option Nat :=
  (i :: p.ancestors i).find? fun c ↦ t.kind c ∈ kinds

end Tree

end LintMark

import LintMark.Syntax.Walk

/-!
# Agreement of two subtrees

Two nodes, of one tree or of two, agree when their subtrees have the same shape and the same kind
and text at every node. Lines, columns and indices take no part, nor do the siblings of the two
nodes.

The test keeps a list of pairs that must still agree. It ends because the first components of
the pairs start subtrees whose total size falls.
-/

namespace LintMark.Tree

theorem length_descendants_children_lt (t : Tree) (i : Nat) :
    ((t.children i).flatMap fun j ↦ t.descendants (some j)).length
      < (t.descendants (some i)).length := by
  rw [children, flatMap_descendants_chain, descendants_some, List.length_cons]
  exact Nat.lt_succ_self _

theorem length_flatMap_zip_le {α β γ : Type} (f : α → List γ) (as : List α) (bs : List β) :
    ((as.zip bs).flatMap fun p ↦ f p.1).length ≤ (as.flatMap f).length := by
  induction as generalizing bs with
  | nil => simp
  | cons a as ih =>
    cases bs with
    | nil => simp
    | cons b bs =>
      simp only [List.zip_cons_cons, List.flatMap_cons, List.length_append]
      have := ih bs
      omega

/-- Whether the members of every pair start agreeing subtrees of `s` and of `t`. -/
def allAgree (s t : Tree) : List (Nat × Nat) → Bool
  | [] => true
  | (i, j) :: pending =>
    if s.kind i = t.kind j ∧ s.text i = t.text j
        ∧ (s.children i).length = (t.children j).length then
      allAgree s t ((s.children i).zip (t.children j) ++ pending)
    else false
termination_by pending => (pending.flatMap fun p ↦ s.descendants (some p.1)).length
decreasing_by
  have h₁ := s.length_descendants_children_lt i
  have h₂ := length_flatMap_zip_le (fun i ↦ s.descendants (some i)) (s.children i) (t.children j)
  simp only [List.flatMap_append, List.length_append, List.flatMap_cons]
  omega

/-- Whether two optional nodes agree: both are absent, or both are present and start agreeing
subtrees. -/
def agree (s t : Tree) : Option Nat → Option Nat → Bool
  | none, none => true
  | some i, some j => allAgree s t [(i, j)]
  | _, _ => false

end LintMark.Tree

import LintMark.Java.Source
import LintMark.Proofs.Java.Reach

/-!
# Rows that shaping meets

Shaping a row goes down to rows below it. So what a shaped tree can be refused for stands in the
tree: a grammar that gives every increment its sign never has a tree refused for a bare one, and a
file then fails for its source alone.
-/

namespace LintMark

open Java Cst

namespace Java

theorem exists_isBareUpdate_of_meetsBareUpdate (n : ℕ) {row : Cst}
    (h : meetsBareUpdate n row = true) : ∃ c ∈ row.rows, isBareUpdate c = true := by
  induction n generalizing row with
  | zero => cases h
  | succ n ih =>
    rw [meetsBareUpdate, Bool.or_eq_true, List.any_eq_true] at h
    obtain h | ⟨c, hc, h⟩ := h
    · exact ⟨row, row.mem_rows_self, h⟩
    · obtain ⟨d, hd, hbare⟩ := ih h
      exact ⟨d, mem_rows_trans (near_of_mem_shapedBelow hc).mem_rows hd, hbare⟩

end Java

/-! ## Files that fail for their source -/

/-- In what the grammar reads, every increment and every decrement has a sign. -/
def Grammar.SignsUpdates (grammar : Grammar) : Prop :=
  ∀ bytes, ∀ row ∈ (grammar bytes).root.rows, isBareUpdate row = false

theorem Reading.exists_sourceError {r : Reading}
    (h : ∀ row ∈ r.root.rows, isBareUpdate row = false) {path : Text} {strict : Bool}
    {e : ReadError} (he : r.tree path strict = .error e) : ∃ s, e = .source s := by
  rw [Reading.tree] at he
  split at he
  · cases he
    exact ⟨_, rfl⟩
  · split at he
    · cases he
    · cases he
      exact ⟨_, rfl⟩
    · next houtlines =>
      rw [outlines] at houtlines
      split at houtlines
      · cases houtlines
      · split at houtlines
        · next hmeets =>
          obtain ⟨c, hc, hbare⟩ := exists_isBareUpdate_of_meetsBareUpdate _ hmeets
          rw [h c hc] at hbare
          cases hbare
        · cases houtlines

/-- A path that can be handed over gives a tree, or else a fault of the source under that path. -/
theorem Files.exists_sourceError {grammar : Grammar} (hgrammar : grammar.SignsUpdates)
    (fs : Files) {path : Text} (hpath : Path.fault? path = none) {strict : Bool}
    {e : ReadError} (he : fs.tree grammar path strict = .error e) : ∃ s, e = .source s := by
  rw [Files.tree, hpath] at he
  dsimp only at he
  split at he
  · cases he
    exact ⟨_, rfl⟩
  · split at he
    · cases he
      exact ⟨_, rfl⟩
    · exact Reading.exists_sourceError (hgrammar _) he

end LintMark

import LintMark.Proofs.Java.Lines.Statements
import LintMark.Proofs.Window.Fields

/-!
# Lines in document order

Where the rows of a concrete tree are in source order and the detours of its rules ascend, the lines
of its nodes do not descend in document order (`Reading.line_le_line`). Source order alone is not
enough: an operator that starts a line comes before the operand on the line above it
(`Reading.line_wrappedSum`).
-/

namespace LintMark

namespace Java

open Cst Outline

namespace Shaper

variable {s : Shaper} {row : Cst}

/-! ## One level -/

/-- The outlines of a row follow the row and the rows below it. Only a whole file stands on the
first line, wherever its row starts. -/
theorem Orderly.convertRow (h : s.Orderly row) (hprogram : row.type ≠ "program") :
    Follows s.source row.rows (s.convertRow row) := by
  have hdetour : ∀ {os : List Outline} {rows : List Cst}, detour row = rows →
      Follows s.source rows os → Follows s.source row.rows os := by
    rintro os _ rfl hos
    exact h.follows_of_detour hos
  rw [Shaper.convertRow]
  cases hconstruct : Construct.ofType row.type with
  | comment => exact .nil
  | leaf | integer | float => exact .leaf_rows _
  | program =>
    have htype : row.type ∈ ["program"] := Construct.type_mem_of_ofType hconstruct (by decide)
    exact absurd (List.mem_singleton.1 htype) hprogram
  | importDecl => exact hdetour (by rw [detour, hconstruct]) h.importDecl
  | typeDeclaration kind => exact hdetour (by rw [detour, hconstruct]) (h.typeDeclaration kind)
  | method => exact hdetour (by rw [detour, hconstruct]) h.method
  | constructor => exact hdetour (by rw [detour, hconstruct]) h.constructor
  | field => exact hdetour (by rw [detour, hconstruct]) h.field
  | localVariable => exact hdetour (by rw [detour, hconstruct]) h.localVariable
  | parameters => exact hdetour (by rw [detour, hconstruct]) h.parameters
  | arguments => exact hdetour (by rw [detour, hconstruct]) (h.listArguments true)
  | methodCall => exact hdetour (by rw [detour, hconstruct]) h.methodCall
  | binary => exact hdetour (by rw [detour, hconstruct]) (h.operation _ _ _)
  | assignment => exact hdetour (by rw [detour, hconstruct]) (h.operation _ _ _)
  | update => exact hdetour (by rw [detour, hconstruct]) h.update
  | arrayAccess => exact hdetour (by rw [detour, hconstruct]) h.arrayAccess
  | arrayType => exact hdetour (by rw [detour, hconstruct]) h.arrayType
  | enhancedFor => exact hdetour (by rw [detour, hconstruct]) h.enhancedFor
  | package => exact (h.filtered _).node_rows _ _
  | typeBody => exact h.children.node_rows _ _
  | modifiers => exact h.modifiers
  | block => exact (h.filtered _).node_rows _ _
  | expressionStatement => exact h.expressionStatement
  | keywordStatement => exact h.keywordStatement
  | catchClause => exact h.catchClause
  | finallyClause => exact (h.filtered _).node_rows _ _
  | switchLabel => exact h.switchLabel
  | dissolved | annotatedType => exact h.children
  | objectCreation => exact h.objectCreation
  | arrayCreation => exact h.arrayCreation
  | arrayInitializer => exact h.arrayInitializer
  | unary => exact h.unary
  | parenthesized => exact h.parenthesized false
  | dotted | ternary | lambda | methodReference => exact h.withoutSigns _ _ _
  | cast => exact h.cast
  | instanceOf => exact h.instanceOf
  | constructorCall => exact h.constructorCall
  | primitiveType => exact primitiveType
  | scopedType => exact h.scopedType
  | genericType => exact h.genericType
  | generic => exact h.generic

theorem Orderly.typePartsOf (h : s.Orderly row) (hprogram : row.type ≠ "program") :
    Follows s.source row.rows (s.typePartsOf row) := by
  rw [Shaper.typePartsOf]
  split_ifs
  · exact h.typeArguments
  · exact h.convertRow hprogram

end Shaper

/-! ## All levels -/

variable {source : SourceText} {row : Cst}

/-- If no row is a whole file and all detours ascend, the rows are orderly at each level. -/
theorem orderly_shaper (n : Nat) (hprogram : ∀ c ∈ row.rows, c.type ≠ "program")
    (hdetour : ∀ c ∈ row.rows, Ascends source (detour c)) : (shaper source n).Orderly row := by
  induction n generalizing row with
  | zero => exact ⟨fun _ _ ↦ .nil, fun _ _ ↦ .nil, hdetour⟩
  | succ n ih =>
    have hbelow : ∀ c ∈ row.rows, (shaper source n).Orderly c ∧ c.type ≠ "program" :=
      fun c hc ↦ ⟨ih (fun d hd ↦ hprogram d (mem_rows_trans hc hd))
        fun d hd ↦ hdetour d (mem_rows_trans hc hd), hprogram c hc⟩
    refine ⟨fun c hc ↦ ?_, fun c hc ↦ ?_, hdetour⟩
    · have hfollows := (hbelow c hc).1.convertRow (hbelow c hc).2
      rwa [source_shaper] at hfollows
    · have hfollows := (hbelow c hc).1.typePartsOf (hbelow c hc).2
      rwa [source_shaper] at hfollows

/-- The lines of a shaped tree do not descend if its detours ascend. The root may be a whole file,
which stands on the first line. -/
theorem pairwise_lines_convertRow (n : Nat) (hrows : Ascends source row.rows)
    (hprogram : ∀ c ∈ rowsOfAll row.children, c.type ≠ "program")
    (hdetour : ∀ c ∈ row.rows, Ascends source (detour c)) :
    (lines ((shaper source n).convertRow row)).Pairwise (· ≤ ·) := by
  rw [rows_eq] at hrows hdetour
  obtain ⟨hfirst, hbelow⟩ := List.forall_mem_cons.1 hdetour
  by_cases htype : row.type = "program"
  · have hchildren : Follows source (rowsOfAll row.children)
        ((shaper source n).convertAll row.children) := by
      rw [rowsOfAll_eq_flatMap]
      refine .flatMap fun c hc ↦ ?_
      have hchild := (orderly_shaper n
        (fun d hd ↦ hprogram d (mem_rowsOfAll_of_mem hc hd))
        fun d hd ↦ hbelow d (mem_rowsOfAll_of_mem hc hd)).outlines
      rwa [source_shaper] at hchild
    obtain ⟨hsorted, hmem⟩ := hchildren (List.pairwise_cons.1 hrows).2
    have hlines : lines ((shaper source n).convertRow row)
        = 1 :: lines ((shaper source n).convertAll row.children) := by
      rw [Shaper.convertRow, htype]
      change lines [(shaper source n).program row] = _
      rw [lines_cons]
      exact congrArg (List.cons _) (List.append_nil _)
    rw [hlines]
    refine List.pairwise_cons.2 ⟨fun l hl ↦ ?_, hsorted⟩
    obtain ⟨c, -, rfl⟩ := hmem l hl
    exact Int.ofNat_le.2 (Nat.succ_le_succ (Nat.zero_le _))
  · have horderly : (shaper source n).Orderly row := by
      refine orderly_shaper n ?_ ?_
      · rw [rows_eq]
        exact List.forall_mem_cons.2 ⟨htype, hprogram⟩
      · rwa [rows_eq]
    have hfollows := horderly.convertRow htype
    rw [source_shaper, rows_eq] at hfollows
    exact (hfollows hrows).1

end Java

open Java Cst

/-- The lines of the nodes of a laid-out forest are those of the forest. -/
theorem Tree.map_line_range (os : List Outline) :
    (List.range (ofOutlines os).size).map (ofOutlines os).line = Outline.lines os := by
  rw [Outline.lines, ← map_outline_range, List.map_map]
  rfl

namespace Reading

variable {r : Reading} {path : Text} {strict : Bool} {t : Tree}

/-! ## Main result -/

/-- **Lines do not descend in document order**, if the rows of a reading are in source order, none
but the root is a whole file, and each detour of a rule ascends. So in front of the first node on a
line there are only nodes on that line or earlier ones. -/
theorem line_le_line (horder : r.root.InSourceOrder)
    (hprogram : ∀ row ∈ rowsOfAll r.root.children, row.type ≠ "program")
    (hdetour : ∀ row ∈ r.root.rows, Ascends r.source (detour row))
    (ht : r.tree path strict = .ok t) :
    (∀ i j, i < j → j < t.size → t.line i ≤ t.line j) ∧
      ∀ line a, IsLeast {i | i < t.size ∧ t.line i = line} a → ∀ i < a, t.line i ≤ line := by
  have hlines : ∀ i j, i < j → j < t.size → t.line i ≤ t.line j := by
    rw [eq_ofOutlines_of_tree ht]
    intro i j hij hj
    have hsorted := pairwise_lines_convertRow nestingLimit (horder.ascends r.source) hprogram
      hdetour
    rw [← Tree.map_line_range, List.pairwise_map] at hsorted
    have hpair := List.pairwise_iff_getElem.1 hsorted i j
      (by simpa using hij.trans hj) (by simpa using hj) hij
    simpa using hpair
  refine ⟨hlines, fun line a ha i hi ↦ ?_⟩
  rw [← ha.1.2]
  exact hlines i a hi ha.1.1

/-- The enumeration stands on five lines, and so do its nodes, from the first to the last. -/
theorem line_letters :
    letters.root.InSourceOrder ∧
    (∀ row ∈ rowsOfAll letters.root.children, row.type ≠ "program") ∧
    (∀ row ∈ letters.root.rows, Ascends letters.source (detour row)) ∧
    letters.tree "E.java" true = .ok lettersTree ∧
    lettersTree.line 0 = 1 ∧ lettersTree.line 29 = 5 ∧
    ∀ i j, i < j → j < lettersTree.size → lettersTree.line i ≤ lettersTree.line j := by
  have horder : letters.root.InSourceOrder := ⟨by decide +kernel, by decide +kernel⟩
  have hprogram : ∀ row ∈ rowsOfAll letters.root.children, row.type ≠ "program" := by
    decide +kernel
  have hdetour : ∀ row ∈ letters.root.rows, Ascends letters.source (detour row) := by
    decide +kernel
  have hends : lettersTree.line 0 = 1 ∧ lettersTree.line 29 = 5 := by decide +kernel
  exact ⟨horder, hprogram, hdetour, tree_letters, hends.1, hends.2,
    (line_le_line horder hprogram hdetour tree_letters).1⟩

/-! ## An operator on the next line -/

/-- A sum that is broken in front of its sign. -/
def wrappedSumRow : Cst :=
  ⟨"binary_expression", 15, 19, true, false, some "value",
    [⟨"identifier", 15, 16, true, false, some "left", []⟩,
      ⟨"+", 17, 18, false, false, some "operator", []⟩,
      ⟨"identifier", 18, 19, true, false, some "right", []⟩]⟩

/-- A class with a field whose value is the sum. -/
def wrappedSum : Reading where
  source := .ofBytes "class A \x7bint x=a\n+b;\x7d".toUTF8
  root :=
    ⟨"program", 0, 21, true, false, none,
      [⟨"class_declaration", 0, 21, true, false, none,
        [⟨"class", 0, 5, false, false, none, []⟩,
          ⟨"identifier", 6, 7, true, false, some "name", []⟩,
          ⟨"class_body", 8, 21, true, false, some "body",
            [⟨"\x7b", 8, 9, false, false, none, []⟩,
              ⟨"field_declaration", 9, 20, true, false, none,
                [⟨"integral_type", 9, 12, true, false, some "type",
                    [⟨"int", 9, 12, false, false, none, []⟩]⟩,
                  ⟨"variable_declarator", 13, 19, true, false, some "declarator",
                    [⟨"identifier", 13, 14, true, false, some "name", []⟩,
                      ⟨"=", 14, 15, false, false, none, []⟩, wrappedSumRow]⟩,
                  ⟨";", 19, 20, false, false, none, []⟩]⟩,
              ⟨"\x7d", 20, 21, false, false, none, []⟩]⟩]⟩]⟩
  flagged := false

/-- The tree of the class. -/
def wrappedSumTree : Tree :=
  .ofOutlines ((shaper wrappedSum.source nestingLimit).convertRow wrappedSum.root)

theorem tree_wrappedSum : wrappedSum.tree "A.java" true = .ok wrappedSumTree := by rfl

/-- The rows are in source order and the source has no fault, and still the node of the sum, which
stands at the sign on the second line, comes before that of the operand on the first one. -/
theorem line_wrappedSum :
    wrappedSum.root.InSourceOrder ∧ wrappedSum.hasFault = false ∧
    wrappedSum.tree "A.java" true = .ok wrappedSumTree ∧
    wrappedSumTree.kind 14 = ⟨"PLUS"⟩ ∧ wrappedSumTree.text 15 = "a" ∧
    15 < wrappedSumTree.size ∧ wrappedSumTree.line 15 < wrappedSumTree.line 14 := by
  have hnodes : wrappedSumTree.kind 14 = ⟨"PLUS"⟩ ∧ wrappedSumTree.text 15 = "a" ∧
      15 < wrappedSumTree.size ∧ wrappedSumTree.line 15 < wrappedSumTree.line 14 := by
    decide +kernel
  exact ⟨⟨by decide +kernel, by decide +kernel⟩, by decide +kernel, tree_wrappedSum, hnodes⟩

end Reading

end LintMark

import LintMark.Java.Source
import LintMark.Proofs.Java.Comments.Descent
import LintMark.Proofs.Java.Comments.Statements

/-!
# Sources without comments

Deleting the comments of a concrete tree changes neither the syntax tree nor the error that a source
gives: `Reading.tree_withoutComments`.

## The argument

The lemma of each rule says that the rule ignores comments if the shaper below does, so by induction
on the levels every shaper ignores comments. The questions that are asked before shaping do not see
comments either: the levels and the bare increments by `LintMark.Proofs.Java.Comments.Descent`, and
the first fault because a comment is none and has nothing below it.

The root of a file is the one row that may consist of comments alone. It has a rule of its own, so
it cannot become a leaf.
-/

namespace LintMark

open Cst

/-! ## Faults -/

namespace Cst

mutual

/-- The rows of a row without comments are its rows without comments, in the same order. -/
theorem rows_withoutComments : ∀ {row : Cst}, row.isComment = false → row.TidyBelow →
    row.withoutComments.rows = dropComments row.rows
  | ⟨type, start, stop, named, missing, field, children⟩, hrow, h => by
    rw [rows_eq, children_withoutComments_eq, rows_eq, dropComments, if_neg (by rw [hrow]; decide),
      rowsOfAll_dropComments children h]

/-- A comment has no rows below it that could remain. -/
theorem rowsOfAll_dropComments : ∀ cs : List Cst, (∀ c ∈ cs, c.Tidy) →
    rowsOfAll (dropComments cs) = dropComments (rowsOfAll cs)
  | [], _ => rfl
  | c :: cs, h => by
    have ih := rowsOfAll_dropComments cs fun d hd ↦ h d (List.mem_cons_of_mem c hd)
    have hc : c.Tidy := h c List.mem_cons_self
    rw [rowsOfAll, dropComments_append, ← ih, dropComments]
    by_cases hcomment : c.isComment = true
    · obtain ⟨-, -, -, hchildren⟩ := hc.isPlain hcomment
      rw [if_pos hcomment, rows_eq, hchildren, rowsOfAll, dropComments, if_pos hcomment,
        dropComments, List.nil_append]
    · rw [if_neg hcomment, rowsOfAll,
        rows_withoutComments (Bool.not_eq_true _ ▸ hcomment) hc.tidyBelow]

end

/-- A comment is not at fault. -/
theorem isFaulty_of_isComment {row c : Cst} (h : row.TidyBelow) (hrow : row.isComment = false)
    (hc : c ∈ row.rows) (hcomment : c.isComment = true) : c.isFaulty = false := by
  rw [rows_eq, rowsOfAll_eq_flatMap] at hc
  obtain rfl | hc := List.mem_cons.1 hc
  · rw [hrow] at hcomment
    cases hcomment
  obtain ⟨d, hd, hc⟩ := List.mem_flatMap.1 hc
  obtain ⟨-, hmissing, -⟩ := (h d hd c hc).1 hcomment
  rw [isFaulty, hmissing, decide_eq_false (type_ne_of_isComment hcomment (by decide)),
    Bool.or_false]

end Cst

/-! ## Shaping -/

namespace Java

namespace Shaper

variable {s : Shaper}

theorem convertRow_of_isComment {c : Cst} (hc : c.isComment = true) : s.convertRow c = [] := by
  rw [convertRow, Construct.ofType_of_isComment hc]

theorem typePartsOf_of_isComment {c : Cst} (hc : c.isComment = true) : s.typePartsOf c = [] := by
  rw [typePartsOf, if_neg (type_ne_of_isComment hc (by decide)), convertRow_of_isComment hc]

namespace IgnoresComments

variable (hs : s.IgnoresComments) {row : Cst}

include hs

/-- A row gives the outlines of the row without comments, by the lemma of its rule. -/
theorem convertRow_eq (h : row.Tidy) : s.convertRow row.withoutComments = s.convertRow row := by
  have hb : row.TidyBelow := h.tidyBelow
  rw [convertRow, type_withoutComments, convertRow]
  cases Construct.ofType row.type with
  | comment => rfl
  | leaf kind => exact congrArg ([·]) (leaf_withoutComments kind row)
  | integer => exact congrArg ([·]) (number_withoutComments ..)
  | float => exact congrArg ([·]) (number_withoutComments ..)
  | program => exact congrArg ([·]) (hs.program_eq hb)
  | package => exact congrArg ([·]) (hs.package_eq hb)
  | importDecl => exact congrArg ([·]) (hs.importDecl_eq hb)
  | typeDeclaration kind => exact congrArg ([·]) (hs.typeDeclaration_eq kind hb)
  | typeBody => exact congrArg ([·]) (hs.typeBody_eq hb)
  | modifiers => exact congrArg ([·]) (hs.modifiers_eq hb)
  | field => exact hs.field_eq hb
  | localVariable => exact hs.localVariable_eq hb
  | method => exact congrArg ([·]) (hs.method_eq hb)
  | constructor => exact congrArg ([·]) (hs.constructor_eq hb)
  | parameters => exact hs.parameters_eq hb
  | block => exact congrArg ([·]) (hs.block_eq hb)
  | expressionStatement => exact hs.expressionStatement_eq hb
  | keywordStatement => exact hs.keywordStatement_eq hb
  | enhancedFor => exact congrArg ([·]) (hs.enhancedFor_eq hb)
  | catchClause => exact congrArg ([·]) (hs.catchClause_eq hb)
  | finallyClause => exact congrArg ([·]) (hs.finallyClause_eq hb)
  | switchLabel => exact congrArg ([·]) (hs.switchLabel_eq hb)
  | dissolved => exact hs.convertAll_children_eq hb
  | arguments => exact hs.arguments_eq true hb
  | methodCall => exact congrArg ([·]) (hs.methodCall_eq hb)
  | objectCreation => exact congrArg ([·]) (hs.objectCreation_eq hb)
  | arrayCreation => exact congrArg ([·]) (hs.arrayCreation_eq hb)
  | arrayInitializer => exact congrArg ([·]) (hs.arrayInitializer_eq hb)
  | binary => exact congrArg ([·]) (hs.operation_eq binaryOperators "" .binary hb)
  | assignment => exact congrArg ([·]) (hs.operation_eq assignmentOperators "=" .assign hb)
  | unary => exact congrArg ([·]) (hs.unary_eq hb)
  | update => exact congrArg ([·]) (hs.update_eq hb)
  | parenthesized => exact hs.parenthesized_eq false hb
  | dotted => exact congrArg ([·]) (hs.withoutSigns_eq _ _ _ hb)
  | arrayAccess => exact congrArg ([·]) (hs.arrayAccess_eq hb)
  | cast => exact congrArg ([·]) (hs.cast_eq hb)
  | ternary => exact congrArg ([·]) (hs.withoutSigns_eq _ _ _ hb)
  | instanceOf => exact congrArg ([·]) (hs.instanceOf_eq hb)
  | lambda => exact congrArg ([·]) (hs.withoutSigns_eq _ _ _ hb)
  | methodReference => exact congrArg ([·]) (hs.withoutSigns_eq _ _ _ hb)
  | constructorCall => exact congrArg ([·]) (hs.constructorCall_eq hb)
  | primitiveType => exact primitiveType_eq row
  | scopedType => exact hs.scopedType_eq hb
  | genericType => exact hs.genericType_eq hb
  | arrayType => exact hs.arrayType_eq hb
  | annotatedType => exact hs.convertAll_children_eq hb
  | generic => exact congrArg ([·]) (hs.generic_eq h)

theorem typePartsOf_eq (h : row.Tidy) :
    s.typePartsOf row.withoutComments = s.typePartsOf row := by
  rw [typePartsOf, type_withoutComments, hs.typeArguments_eq h.tidyBelow, hs.convertRow_eq h,
    typePartsOf]

end IgnoresComments

end Shaper

/-- The induction is on the levels; the step is one rule. -/
theorem ignoresComments_shaper (source : SourceText) (n : ℕ) :
    (shaper source n).IgnoresComments := by
  induction n with
  | zero => exact ⟨fun _ _ ↦ rfl, fun _ _ ↦ rfl, fun _ _ ↦ rfl, fun _ _ ↦ rfl⟩
  | succ n ih =>
    exact ⟨fun c hc ↦ Shaper.convertRow_of_isComment hc,
      fun c hc ↦ Shaper.typePartsOf_of_isComment hc,
      fun c hc ↦ ih.convertRow_eq hc, fun c hc ↦ ih.typePartsOf_eq hc⟩

theorem outlines_withoutComments (source : SourceText) {root : Cst} (hroot : root.type = "program")
    (h : root.TidyBelow) : outlines source root.withoutComments = outlines source root := by
  have hfits : fitsInto nestingLimit root.withoutComments = fitsInto nestingLimit root :=
    fitsInto_root_withoutComments 998 h
  have hprogram : ∀ s : Shaper, ∀ row : Cst, row.type = "program" →
      s.convertRow row = [s.program row] := by
    intro s row hrow
    rw [Shaper.convertRow, hrow]
    rfl
  rw [outlines, hfits, meetsBareUpdate_withoutComments nestingLimit h,
    hprogram _ _ (root.type_withoutComments.trans hroot), outlines, hprogram _ _ hroot,
    (ignoresComments_shaper source nestingLimit).program_eq h]

end Java

/-! ## Reading -/

namespace Reading

/-- The reading with the comments deleted from its concrete tree. -/
def withoutComments (r : Reading) : Reading := { r with root := r.root.withoutComments }

variable {r : Reading}

theorem hasFault_withoutComments (hroot : r.root.isComment = false) (h : r.root.TidyBelow) :
    r.withoutComments.hasFault = r.hasFault := by
  rw [hasFault, withoutComments, rows_withoutComments hroot h,
    any_dropComments (fun c ↦ isFaulty_of_isComment h hroot) fun c _ ↦ isFaulty_withoutComments c,
    hasFault]

theorem faultLine_withoutComments (hroot : r.root.isComment = false) (h : r.root.TidyBelow) :
    r.withoutComments.faultLine = r.faultLine := by
  rw [faultLine, faultRow_eq, withoutComments, rows_withoutComments hroot h,
    find?_dropComments isFaulty_withoutComments fun c ↦ isFaulty_of_isComment h hroot,
    Option.getD_map, start_withoutComments, faultLine, faultRow_eq]

/-- **Comments leave no trace**: where the grammar keeps its promises about comments, a source gives
the same tree, or the same error, when all comments are deleted from its concrete tree. -/
theorem tree_withoutComments (r : Reading) (hroot : r.root.type = "program")
    (h : r.root.TidyBelow) (path : Text) (strict : Bool) :
    r.withoutComments.tree path strict = r.tree path strict := by
  have hcomment : r.root.isComment = false := by
    rw [isComment, hroot]
    decide
  have houtlines : Java.outlines r.withoutComments.source r.withoutComments.root
      = Java.outlines r.source r.root := Java.outlines_withoutComments r.source hroot h
  rw [tree, hasFault_withoutComments hcomment h, faultLine_withoutComments hcomment h, houtlines,
    tree]

/-- A statement of a program, an increment with a comment in front of its sign and another one
behind it: `x/**/++/**/;`. -/
def commentedIncrement : Reading where
  source := .ofBytes "x/**/++/**/;".toUTF8
  root :=
    ⟨"program", 0, 12, true, false, none,
      [⟨"expression_statement", 0, 12, true, false, none,
        [⟨"update_expression", 0, 11, true, false, none,
          [⟨"identifier", 0, 1, true, false, none, []⟩,
            ⟨"block_comment", 1, 5, true, false, none, []⟩,
            ⟨"++", 5, 7, false, false, none, []⟩,
            ⟨"block_comment", 7, 11, true, false, none, []⟩]⟩,
          ⟨";", 11, 12, false, false, none, []⟩]⟩]⟩
  flagged := false

theorem tree_commentedIncrement :
    commentedIncrement.root.type = "program" ∧ commentedIncrement.root.TidyBelow ∧
      commentedIncrement.withoutComments.root.rows.length < commentedIncrement.root.rows.length ∧
      commentedIncrement.withoutComments.tree "A.java" true
        = commentedIncrement.tree "A.java" true := by
  have htype : commentedIncrement.root.type = "program" := rfl
  have htidy : commentedIncrement.root.TidyBelow := by decide
  exact ⟨htype, htidy, by decide,
    tree_withoutComments commentedIncrement htype htidy "A.java" true⟩

end Reading

end LintMark

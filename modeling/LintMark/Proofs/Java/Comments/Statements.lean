import LintMark.Java.Shape.Statements
import LintMark.Proofs.Java.Comments.Declarations

/-!
# Comments in statements

The rules for statements ignore comments. Most of them start from the content of their row, which is
the same without comments. The parts behind an `else` are cut off by the next `else`, so the lemma
for them follows the recursion of the rule.
-/

namespace LintMark.Java.Shaper

open Cst

variable {s : Shaper} {row : Cst}

/-! ## The two equations of the parts of a statement -/

theorem statementParts_cons_else {c : Cst} (hc : c.type = "else") (rest : List Cst) :
    s.statementParts (c :: rest)
      = s.node .literalElse c "else"
          ((rest.takeWhile fun d ↦ d.type ≠ "else").flatMap s.statementPart) ::
        s.statementParts (rest.dropWhile fun d ↦ d.type ≠ "else") := by
  rw [statementParts, if_pos hc]

theorem statementParts_cons {c : Cst} (hc : c.type ≠ "else") (rest : List Cst) :
    s.statementParts (c :: rest) = s.statementPart c ++ s.statementParts rest := by
  rw [statementParts, if_neg hc]

namespace IgnoresComments

variable (hs : s.IgnoresComments)

include hs

/-! ## Blocks and expressions -/

theorem block_eq (h : row.TidyBelow) : s.block row.withoutComments = s.block row := by
  rw [block, node_withoutComments, hs.convertAll_filter_type_ne "\x7b" h, block]

theorem expressionStatement_eq (h : row.TidyBelow) :
    s.expressionStatement row.withoutComments = s.expressionStatement row := by
  rw [expressionStatement, content_withoutComments, List.map_map, expressionStatement]
  refine List.map_congr_left fun c hc ↦ ?_
  rw [Function.comp_apply, type_withoutComments, leaf_withoutComments,
    hs.expr_eq (h.of_mem_content hc)]

/-! ## Keyword statements -/

theorem statementPart_eq {c : Cst} (hc : c.Tidy) :
    s.statementPart c.withoutComments = s.statementPart c := by
  rw [statementPart, type_withoutComments, named_withoutComments,
    hs.parenthesized_eq true hc.tidyBelow, hs.convert_withoutComments c hc, hs.expr_eq hc,
    statementPart]

theorem statementParts_map (cs : List Cst) (h : ∀ c ∈ cs, c.Tidy) :
    s.statementParts (cs.map withoutComments) = s.statementParts cs := by
  have htest : ((fun d : Cst ↦ decide (d.type ≠ "else")) ∘ withoutComments)
      = fun d ↦ decide (d.type ≠ "else") := by
    funext d
    rw [Function.comp_apply, type_withoutComments]
  induction cs using statementParts.induct with
  | case1 => rfl
  | case2 c rest htype ih =>
    have hrest : ∀ d ∈ rest, d.Tidy := fun d hd ↦ h d (List.mem_cons_of_mem c hd)
    have hown : ((rest.takeWhile fun d ↦ d.type ≠ "else").map withoutComments).flatMap
        s.statementPart = (rest.takeWhile fun d ↦ d.type ≠ "else").flatMap s.statementPart := by
      rw [List.flatMap_map]
      exact List.flatMap_congr fun d hd ↦
        hs.statementPart_eq (hrest d ((List.takeWhile_sublist _).subset hd))
    have ih := ih fun d hd ↦ hrest d ((List.dropWhile_suffix _).subset hd)
    rw [List.map_cons, statementParts_cons_else (c.type_withoutComments.trans htype),
      List.takeWhile_map, List.dropWhile_map, htest, hown, ih, node_withoutComments,
      statementParts_cons_else htype]
  | case3 c rest htype ih =>
    have hrest : ∀ d ∈ rest, d.Tidy := fun d hd ↦ h d (List.mem_cons_of_mem c hd)
    rw [List.map_cons, statementParts_cons (ne_of_eq_of_ne c.type_withoutComments htype), ih hrest,
      hs.statementPart_eq (h c List.mem_cons_self), statementParts_cons htype]

theorem keywordStatement_eq (h : row.TidyBelow) :
    s.keywordStatement row.withoutComments = s.keywordStatement row := by
  rw [keywordStatement, content_withoutComments, keywordStatement]
  cases hcontent : row.content with
  | nil => rfl
  | cons keyword parts =>
    have hparts : ∀ c ∈ parts, c.Tidy :=
      fun c hc ↦ h.of_mem_content (hcontent ▸ List.mem_cons_of_mem keyword hc)
    rw [List.map_cons]
    dsimp only
    rw [text_withoutComments, node_withoutComments, hs.statementParts_map parts hparts]

/-! ## Loops -/

theorem enhancedFor_eq (h : row.TidyBelow) :
    s.enhancedFor row.withoutComments = s.enhancedFor row := by
  have htype : ((row.withoutComments.field? "type").toList.map fun c ↦
      s.typeSpec c (row.withoutComments.field? "dimensions"))
        = (row.field? "type").toList.map fun c ↦ s.typeSpec c (row.field? "dimensions") := by
    refine h.map_field? "type" fun c hc ↦ ?_
    rw [hs.typeSpec_eq hc, h.field?_eq, typeSpec_map]
  have hhead : ∀ clause : Outline, (row.withoutComments.children.flatMap fun c ↦
      if c.type = "(" then [s.leaf .lparen c, clause]
      else if c.type = ")" then [s.leaf .rparen c]
      else []) = row.children.flatMap fun c ↦
      if c.type = "(" then [s.leaf .lparen c, clause]
      else if c.type = ")" then [s.leaf .rparen c]
      else [] := by
    intro clause
    rw [children_withoutComments_eq]
    refine flatMap_dropComments (fun c _ hc ↦ ?_) fun c _ ↦ ?_
    · rw [if_neg (type_ne_of_isComment hc (by decide)),
        if_neg (type_ne_of_isComment hc (by decide))]
    · rw [type_withoutComments, leaf_withoutComments, leaf_withoutComments]
  rw [enhancedFor, htype, h.flatMap_field? "name" hs.convert_withoutComments,
    h.map_field? "value" fun c hc ↦ hs.expr_eq hc, map_leaf_filter_type _ (by decide),
    hs.modifiersOf_eq h, node_withoutComments, node_withoutComments, hhead,
    h.flatMap_field? "body" hs.convert_withoutComments, node_withoutComments, enhancedFor]

/-! ## Clauses and labels -/

theorem catchType_eq (h : row.TidyBelow) : s.catchType row.withoutComments = s.catchType row := by
  rw [catchType, node_withoutComments, catchType]
  congr 1
  refine h.flatMap_content fun c hc ↦ ?_
  rw [type_withoutComments, leaf_withoutComments, hs.typeParts_withoutComments c hc]

theorem catchParameter_eq (h : row.TidyBelow) :
    s.catchParameter row.withoutComments = s.catchParameter row := by
  rw [catchParameter, node_withoutComments, hs.modifiersOf_eq h, catchParameter]
  congr 2
  refine h.flatMap_content fun c hc ↦ ?_
  rw [type_withoutComments, hs.catchType_eq hc.tidyBelow, leaf_withoutComments,
    hs.convert_withoutComments c hc]

theorem catchClause_eq (h : row.TidyBelow) :
    s.catchClause row.withoutComments = s.catchClause row := by
  rw [catchClause, node_withoutComments, children_withoutComments_eq, catchClause]
  congr 1
  refine flatMap_dropComments (fun c _ hc ↦ ?_) fun c hc ↦ ?_
  · rw [if_neg (type_ne_of_isComment hc (by decide)), if_neg (type_ne_of_isComment hc (by decide)),
      hs.convert_comment c hc]
  · rw [type_withoutComments, hs.catchParameter_eq (h c hc).tidyBelow,
      hs.convert_withoutComments c (h c hc)]

theorem finallyClause_eq (h : row.TidyBelow) :
    s.finallyClause row.withoutComments = s.finallyClause row := by
  rw [finallyClause, node_withoutComments, hs.convertAll_filter_type_ne "finally" h, finallyClause]

theorem switchLabel_eq (h : row.TidyBelow) :
    s.switchLabel row.withoutComments = s.switchLabel row := by
  rw [switchLabel, text_withoutComments, node_withoutComments, switchLabel]
  congr 1
  refine h.flatMap_content fun c hc ↦ ?_
  rw [type_withoutComments, named_withoutComments, hs.expr_eq hc, hs.convert_withoutComments c hc]

theorem constructorCall_eq (h : row.TidyBelow) :
    s.constructorCall row.withoutComments = s.constructorCall row := by
  rw [constructorCall, any_type_withoutComments (by decide), node_withoutComments, constructorCall]
  congr 1
  refine h.flatMap_content fun c hc ↦ ?_
  rw [type_withoutComments, hs.arguments_eq true hc.tidyBelow, hs.convert_withoutComments c hc]

end IgnoresComments

end LintMark.Java.Shaper

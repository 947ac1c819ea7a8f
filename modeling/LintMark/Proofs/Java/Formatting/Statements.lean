import LintMark.Java.Shape.Statements
import LintMark.Proofs.Java.Comments.Statements
import LintMark.Proofs.Java.Formatting.Declarations

/-!
# Formatting and statements

The rules for statements keep agreement. Two texts are asked for because of the row that they stand
in: the word that a keyword statement starts with, and the start of a label of a switch.
-/

namespace LintMark.Java.Shaper

open Cst hiding unplacedAll
open Outline (unplacedAll unplacedAll_append unplacedAll_cons unplacedAll_flatMap_eq
  unplacedAll_map_eq)

variable {s s' : Shaper} {c c' : Cst}

namespace Agrees

variable (hs : s.Agrees s') (hc : Matches s.source s'.source c c')

include hs hc

/-! ## Blocks and expressions -/

theorem block_eq : (s.block c).unplaced = (s'.block c').unplaced :=
  node_eq _ _ (hs.convertAll_eq (hc.filter_type_ne "\x7b"))

theorem expressionStatement_eq :
    unplacedAll (s.expressionStatement c) = unplacedAll (s'.expressionStatement c') := by
  refine unplacedAll_map_eq hc.content fun d d' hd ↦ ?_
  rw [hd.type_eq]
  split_ifs with hsemi
  · exact leaf_eq_of_type _ hd hsemi rfl
  · exact hs.expr_eq hd

/-! ## Keyword statements -/

theorem statementPart_eq : unplacedAll (s.statementPart c) = unplacedAll (s'.statementPart c') := by
  rw [statementPart, statementPart, hc.type_eq, hc.named_eq]
  split_ifs
  · exact hs.parenthesized_eq hc true
  · exact hs.convert c c' hc
  · exact singleton_eq (hs.expr_eq hc)

omit hc in
/-- The parts of a statement. An `else` is one on both sides, and what stands below it ends at the
same place. -/
theorem statementParts_eq {cs cs' : List Cst}
    (hcs : List.Forall₂ (Matches s.source s'.source) cs cs') :
    unplacedAll (s.statementParts cs) = unplacedAll (s'.statementParts cs') := by
  have htest : ∀ d d', Matches s.source s'.source d d' →
      decide (d.type ≠ "else") = decide (d'.type ≠ "else") := fun d d' hd ↦ by rw [hd.type_eq]
  induction cs using statementParts.induct generalizing cs' with
  | case1 =>
    cases hcs
    rw [statementParts, statementParts]
  | case2 d rest htype ih =>
    cases hcs with
    | @cons _ d' _ rest' hd hrest =>
      have hown := unplacedAll_flatMap_eq (takeWhile_matches hrest htest)
        fun e e' he ↦ hs.statementPart_eq he
      rw [statementParts_cons_else htype, statementParts_cons_else (hd.type_eq ▸ htype),
        unplacedAll_cons, unplacedAll_cons, node_eq _ _ hown, ih (dropWhile_matches hrest htest)]
  | case3 d rest htype ih =>
    cases hcs with
    | @cons _ d' _ rest' hd hrest =>
      rw [statementParts_cons htype, statementParts_cons (hd.type_eq ▸ htype), unplacedAll_append,
        unplacedAll_append, hs.statementPart_eq hd, ih hrest]

theorem keywordStatement_eq (htype : Construct.ofType c.type = .keywordStatement) :
    unplacedAll (s.keywordStatement c) = unplacedAll (s'.keywordStatement c') := by
  have hword := hc.head.keyword_eq htype
  have hcontent := hc.content
  rw [keywordStatement, keywordStatement]
  generalize c.content = cs, c'.content = cs' at hcontent hword
  cases hcontent with
  | nil => rfl
  | @cons d d' rest rest' hd hrest =>
    have htext : d.text s.source = d'.text s'.source := Option.some.inj hword
    dsimp only
    rw [text, text, htext]
    exact singleton_eq (node_eq _ _ (hs.statementParts_eq hrest))

/-! ## Loops -/

theorem enhancedFor_eq : (s.enhancedFor c).unplaced = (s'.enhancedFor c').unplaced := by
  have hfield (field : String) : unplacedAll ((c.field? field).toList.flatMap s.convert)
      = unplacedAll ((c'.field? field).toList.flatMap s'.convert) :=
    unplacedAll_flatMap_eq (forall₂_toList (hc.field?_rel field)) hs.convert
  have htype := unplacedAll_map_eq (forall₂_toList (hc.field?_rel "type")) fun d d' hd ↦
    hs.typeSpec_eq hd (hc.field?_rel "dimensions")
  have hvalue := unplacedAll_map_eq (forall₂_toList (hc.field?_rel "value")) fun d d' hd ↦
    hs.expr_eq hd
  refine node_eq _ _ ?_
  rw [unplacedAll_append, unplacedAll_append, hfield]
  congr 1
  refine unplacedAll_flatMap_eq hc.children fun d d' hd ↦ ?_
  rw [hd.type_eq]
  split_ifs with hopening hclosing
  · -- The clause: the variable, the colon and the value.
    rw [unplacedAll_cons, unplacedAll_cons, leaf_eq_of_type _ hd hopening rfl]
    congr 1
    refine singleton_eq (node_eq _ _ ?_)
    simp only [List.cons_append]
    rw [unplacedAll_cons, unplacedAll_cons, unplacedAll_append, unplacedAll_append,
      map_leaf_filter_type_eq _ hc rfl, hvalue]
    congr 1
    refine node_eq _ _ (hs.cons_modifiersOf_eq hc ?_)
    rw [unplacedAll_append, unplacedAll_append, htype, hfield]
  · exact singleton_eq (leaf_eq_of_type _ hd hclosing rfl)
  · rfl

/-! ## Handlers -/

theorem catchType_eq : (s.catchType c).unplaced = (s'.catchType c').unplaced := by
  refine node_eq _ _ (unplacedAll_flatMap_eq hc.content fun d d' hd ↦ ?_)
  rw [hd.type_eq]
  split_ifs with hbar
  · exact singleton_eq (leaf_eq_of_type _ hd hbar rfl)
  · exact hs.typeParts d d' hd

theorem catchParameter_eq : (s.catchParameter c).unplaced = (s'.catchParameter c').unplaced := by
  refine node_eq _ _ (hs.cons_modifiersOf_eq hc ?_)
  refine unplacedAll_flatMap_eq hc.content fun d d' hd ↦ ?_
  rw [hd.type_eq]
  split_ifs with htype hidentifier
  · exact singleton_eq (hs.catchType_eq hd)
  · exact singleton_eq (leaf_eq_of_type _ hd hidentifier rfl)
  · rfl
  · exact hs.convert d d' hd

theorem catchClause_eq : (s.catchClause c).unplaced = (s'.catchClause c').unplaced := by
  refine node_eq _ _ (unplacedAll_flatMap_eq hc.children fun d d' hd ↦ ?_)
  rw [hd.type_eq]
  split_ifs
  · rfl
  · exact singleton_eq (hs.catchParameter_eq hd)
  · exact hs.convert d d' hd

theorem finallyClause_eq : (s.finallyClause c).unplaced = (s'.finallyClause c').unplaced :=
  node_eq _ _ (hs.convertAll_eq (hc.filter_type_ne "finally"))

/-! ## Labels and calls of constructors -/

theorem switchLabel_eq (htype : Construct.ofType c.type = .switchLabel) :
    (s.switchLabel c).unplaced = (s'.switchLabel c').unplaced := by
  rw [switchLabel, switchLabel, text, text]
  simp only [hc.head.label_iff htype]
  refine node_eq _ _ (unplacedAll_flatMap_eq hc.content fun d d' hd ↦ ?_)
  rw [hd.type_eq, hd.named_eq]
  split_ifs
  · rfl
  · exact singleton_eq (hs.expr_eq hd)
  · exact hs.convert d d' hd

theorem constructorCall_eq : (s.constructorCall c).unplaced = (s'.constructorCall c').unplaced := by
  rw [constructorCall, constructorCall, hc.any_type_eq]
  refine node_eq _ _ (unplacedAll_flatMap_eq hc.content fun d d' hd ↦ ?_)
  rw [hd.type_eq]
  split_ifs
  · rfl
  · exact hs.arguments_eq hd true
  · exact hs.convert d d' hd

end Agrees

end LintMark.Java.Shaper

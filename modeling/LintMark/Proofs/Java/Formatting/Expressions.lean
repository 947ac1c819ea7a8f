import LintMark.Java.Shape.Expressions
import LintMark.Proofs.Java.Comments.Expressions
import LintMark.Proofs.Java.Formatting.Types

/-!
# Formatting and expressions

The rules for expressions keep agreement. Operators are found by their place among the children,
which is the same on both sides; the row in that place is in the field of operators or has no name,
and so it shows its text. Only the sign of an increment may be a row that does neither.
-/

namespace LintMark.Java.Shaper

open Cst hiding unplacedAll
open Outline (unplacedAll unplacedAll_append unplacedAll_cons unplacedAll_flatMap_eq
  unplacedAll_map_eq)

variable {s s' : Shaper} {c c' : Cst}

/-! ## Signs -/

section Signs

variable {source source' : SourceText} (hc : Matches source source' c c')

include hc

theorem operatorPlace?_eq : operatorPlace? c = operatorPlace? c' := by
  have hunnamed : (c.children.findIdx? fun d ↦ !d.named) = c'.children.findIdx? fun d ↦ !d.named :=
    findIdx?_eq_of_matches hc.children fun _ _ hd ↦ by rw [hd.named_eq]
  rw [operatorPlace?, operatorPlace?, hc.fieldPlace?_eq, hunnamed]

theorem isOperator_eq : isOperator c = isOperator c' := by
  funext d
  rw [isOperator, isOperator, hc.fieldPlace?_eq]

omit hc in
/-- A row that passes as the operator has the field of operators or no name. -/
theorem text_eq_of_isOperator {d d' : Cst} (hd : Matches source source' d d')
    (hoperator : isOperator c' d' = true) : d.text source = d'.text source' := by
  rw [isOperator] at hoperator
  split at hoperator
  · exact hd.text_eq_of_field (of_decide_eq_true hoperator) (.inr rfl)
  · exact hd.text_eq_of_not_named (by simpa using hoperator)

theorem rel_operator? :
    Option.Rel (fun d d' ↦ d.text source = d'.text source')
      ((operatorPlace? c).bind fun i ↦ c.children[i]?)
      ((operatorPlace? c').bind fun i ↦ c'.children[i]?) := by
  rw [operator?_eq_find?, operator?_eq_find?, isOperator_eq hc]
  have hfind := find?_matches (p := isOperator c') hc.children fun d d' hd ↦ by
    rw [isOperator, isOperator, hd.field_eq, hd.named_eq]
  exact rel_imp hfind fun d d' hd ↦ text_eq_of_isOperator hd.1 hd.2

theorem forall₂_parts :
    List.Forall₂ (fun a b ↦ Matches source source' a.1 b.1 ∧ a.2 = b.2) (parts c) (parts c') := by
  refine List.rel_filter (fun a b hab ↦ ?_) (forall₂_zipIdx hc.children 0)
  show (!a.1.isComment) = true ↔ (!b.1.isComment) = true
  rw [hab.1.isComment_eq]

end Signs

theorem updateSign?_eq {first last : Cst × Nat} (hfirst : (parts c).head? = some first)
    (hlast : (parts c).getLast? = some last) :
    c.updateSign? = some (if first.1.named then last.1 else first.1) := by
  rw [updateSign?, ← map_fst_parts, List.head?_map, List.getLast?_map, hfirst, hlast]
  dsimp only [Option.map_some]
  split <;> rfl

namespace Agrees

variable (hs : s.Agrees s') (hc : Matches s.source s'.source c c')

include hs hc

/-! ## Calls and objects -/

theorem arguments_eq (withOpening : Bool) :
    unplacedAll (s.arguments withOpening c) = unplacedAll (s'.arguments withOpening c') := by
  have hopening := filter_matches (p := fun d ↦ withOpening && d.type = "(") hc.children
    fun _ _ hd ↦ by rw [hd.type_eq]
  rw [arguments, arguments]
  rw [unplacedAll_append, unplacedAll_append, unplacedAll_cons, unplacedAll_cons,
    Option.toList_map, Option.toList_map, map_leaf_getLast?_eq _ hc rfl]
  congr 1
  · refine unplacedAll_map_eq hopening fun d d' hd ↦ ?_
    exact leaf_eq_of_type _ hd.1 (of_decide_eq_true (Bool.and_eq_true_iff.1 hd.2).2) rfl
  · congr 1
    refine node_eq _ _ (unplacedAll_flatMap_eq hc.children fun d d' hd ↦ ?_)
    rw [hd.type_eq, hd.isComment_eq]
    split_ifs with hparen hcomma
    · rfl
    · exact singleton_eq (leaf_eq_of_type _ hd hcomma rfl)
    · rfl
    · exact singleton_eq (hs.expr_eq hd)

theorem methodCall_eq : (s.methodCall c).unplaced = (s'.methodCall c').unplaced := by
  refine node_eq _ _ ?_
  rw [unplacedAll_append, unplacedAll_append]
  congr 1
  · obtain ⟨hnone, hnone'⟩ | ⟨d, d', hd, hd', hmatches⟩ := rel_cases (hc.field?_rel "object")
    · rw [hnone, hnone']
      exact map_leaf_name_eq _ hc
    · rw [hd, hd']
      refine singleton_eq (node_eq _ _ ?_)
      rw [unplacedAll_append, unplacedAll_append, hs.convert d d' hmatches, map_leaf_name_eq _ hc]
  · obtain ⟨hnone, hnone'⟩ | ⟨d, d', hd, hd', hmatches⟩ := rel_cases (hc.field?_rel "arguments")
    · rw [hnone, hnone']
    · rw [hd, hd']
      exact hs.arguments_eq hmatches false

theorem objectCreation_eq : (s.objectCreation c).unplaced = (s'.objectCreation c').unplaced := by
  refine node_eq _ _ (flatMap_zipIdx_eq hc.children fun d d' i hd ↦ ?_)
  dsimp only
  rw [hd.type_eq, hd.isComment_eq, hc.fieldPlace?_eq]
  split_ifs
  · rfl
  · exact hs.typeParts d d' hd
  · exact hs.arguments_eq hd true
  · exact hs.convert d d' hd

theorem arrayCreation_eq : (s.arrayCreation c).unplaced = (s'.arrayCreation c').unplaced := by
  refine node_eq _ _ (unplacedAll_flatMap_eq hc.children fun d d' hd ↦ ?_)
  rw [hd.type_eq, hd.isComment_eq]
  split_ifs
  · rfl
  · refine singleton_eq (node_eq _ _ ?_)
    have hlengths := filter_matches (p := fun e ↦ e.named && !e.isComment) hd.children
      fun _ _ he ↦ by rw [he.named_eq, he.isComment_eq]
    rw [unplacedAll_append, unplacedAll_append, map_leaf_filter_type_eq _ hd rfl,
      unplacedAll_map_eq hlengths fun e e' he ↦ hs.expr_eq he.1]
  · refine unplacedAll_map_eq (hd.filter_type "]") fun e e' he ↦ ?_
    exact node_eq _ _ (singleton_eq (leaf_eq_of_type _ he.1 he.2 rfl))
  · exact hs.convert d d' hd

theorem arrayInitializer_eq :
    (s.arrayInitializer c).unplaced = (s'.arrayInitializer c').unplaced := by
  refine node_eq _ _ (unplacedAll_flatMap_eq hc.children fun d d' hd ↦ ?_)
  rw [hd.type_eq, hd.isComment_eq]
  split_ifs with hopening hclosing hcomma
  · rfl
  · exact singleton_eq (leaf_eq_of_type _ hd hclosing rfl)
  · exact singleton_eq (leaf_eq_of_type _ hd hcomma rfl)
  · exact hs.convert d d' hd
  · exact singleton_eq (hs.expr_eq hd)

/-! ## Operators -/

theorem operands_eq (place : Option Nat) :
    unplacedAll (s.operands c place) = unplacedAll (s'.operands c' place) := by
  refine flatMap_zipIdx_eq hc.children fun d d' i hd ↦ ?_
  dsimp only
  split_ifs
  · rfl
  · exact hs.convert d d' hd

theorem operation_eq (kinds : List (String × Kind)) (unsigned : String) (other : Kind) :
    (s.operation kinds unsigned other c).unplaced
      = (s'.operation kinds unsigned other c').unplaced := by
  have hoperands := hs.operands_eq hc (operatorPlace? c')
  rw [operation, operation]
  obtain ⟨hnone, hnone'⟩ | ⟨d, d', hd, hd', htext⟩ := rel_cases (rel_operator? hc)
  · rw [hnone, hnone', operatorPlace?_eq hc]
    exact node_eq _ _ hoperands
  · rw [hd, hd', operatorPlace?_eq hc]
    dsimp only
    rw [text, text, htext]
    exact node_eq _ _ hoperands

theorem unary_eq : (s.unary c).unplaced = (s'.unary c').unplaced := by
  have hoperands := hs.operands_eq hc (operatorPlace? c')
  rw [unary, unary]
  obtain ⟨hnone, hnone'⟩ | ⟨d, d', hd, hd', htext⟩ := rel_cases (rel_operator? hc)
  · rw [hnone, hnone', operatorPlace?_eq hc]
    exact node_eq _ _ hoperands
  · rw [hd, hd', operatorPlace?_eq hc]
    dsimp only
    rw [text, text, htext]
    exact node_eq _ _ hoperands

theorem update_eq (htype : Construct.ofType c.type = .update) :
    (s.update c).unplaced = (s'.update c').unplaced := by
  have hsign := hc.head.updateSign_eq htype
  rw [update, update, ← parts, ← parts]
  dsimp only
  obtain ⟨hnone, hnone'⟩ | ⟨⟨d, i⟩, ⟨d', -⟩, hfirst, hfirst', hd, rfl⟩ :=
    rel_cases (rel_head? (forall₂_parts hc))
  · rw [hnone, hnone']
    exact node_eq _ _ rfl
  · obtain ⟨hnone, hnone'⟩ | ⟨⟨e, j⟩, ⟨e', -⟩, hlast, hlast', he, rfl⟩ :=
      rel_cases (rel_getLast? (forall₂_parts hc))
    · rw [hnone, hnone', hfirst, hfirst']
      exact node_eq _ _ rfl
    · rw [updateSign?_eq hfirst hlast, updateSign?_eq hfirst' hlast', hd.named_eq] at hsign
      rw [hfirst, hfirst', hlast, hlast']
      dsimp only
      rw [hd.named_eq]
      cases hnamed : d'.named with
      | true =>
        have htext : e.text s.source = e'.text s'.source := by simpa [hnamed] using hsign
        simp only [if_true]
        rw [text, text, htext]
        exact node_eq _ _ (hs.operands_eq hc (some j))
      | false =>
        have htext : d.text s.source = d'.text s'.source := by simpa [hnamed] using hsign
        simp only [Bool.false_eq_true, if_false]
        rw [text, text, htext]
        exact node_eq _ _ (hs.operands_eq hc (some i))

/-! ## Other expressions -/

theorem parenthesized_eq (wrap : Bool) :
    unplacedAll (s.parenthesized wrap c) = unplacedAll (s'.parenthesized wrap c') := by
  refine unplacedAll_flatMap_eq hc.children fun d d' hd ↦ ?_
  rw [hd.type_eq, hd.isComment_eq]
  split_ifs with hopening hclosing
  · exact singleton_eq (leaf_eq_of_type _ hd hopening rfl)
  · exact singleton_eq (leaf_eq_of_type _ hd hclosing rfl)
  · rfl
  · exact singleton_eq (hs.expr_eq hd)
  · exact hs.convert d d' hd

theorem withoutSigns_eq (kind : Kind) (text : String) (signs : List String) :
    (s.withoutSigns kind text signs c).unplaced = (s'.withoutSigns kind text signs c').unplaced := by
  have hparts := filter_matches (p := fun d ↦ d.type ∉ signs) hc.content fun _ _ hd ↦ by
    rw [hd.type_eq]
  exact node_eq _ _ (hs.convertAll_eq (hparts.imp fun _ _ hd ↦ hd.1))

theorem arrayAccess_eq : (s.arrayAccess c).unplaced = (s'.arrayAccess c').unplaced := by
  refine node_eq _ _ ?_
  rw [unplacedAll_append, unplacedAll_append, unplacedAll_append, unplacedAll_append,
    map_leaf_filter_type_eq _ hc rfl,
    unplacedAll_map_eq (forall₂_toList (hc.field?_rel "index")) fun d d' hd ↦ hs.expr_eq hd]
  congr 2
  obtain ⟨hnone, hnone'⟩ | ⟨d, d', hd, hd', hmatches⟩ := rel_cases (hc.field?_rel "array")
  · rw [hnone, hnone']
  · rw [hd, hd']
    exact hs.convert d d' hmatches

theorem cast_eq : (s.cast c).unplaced = (s'.cast c').unplaced := by
  refine node_eq _ _ (flatMap_zipIdx_eq hc.children fun d d' i hd ↦ ?_)
  dsimp only
  rw [hd.type_eq, hd.isComment_eq, hc.fieldPlace?_eq]
  split_ifs with hopening hclosing
  · rfl
  · exact singleton_eq (leaf_eq_of_type _ hd hclosing rfl)
  · exact hs.convert d d' hd
  · exact singleton_eq (hs.typeSpec_eq hd .none)
  · exact hs.convert d d' hd

theorem instanceOf_eq : (s.instanceOf c).unplaced = (s'.instanceOf c').unplaced := by
  refine node_eq _ _ (flatMap_zipIdx_eq hc.children fun d d' i hd ↦ ?_)
  dsimp only
  rw [hd.type_eq, hd.isComment_eq, hc.fieldPlace?_eq]
  split_ifs
  · rfl
  · exact singleton_eq (hs.typeSpec_eq hd .none)
  · exact hs.convert d d' hd

end Agrees

end LintMark.Java.Shaper

import LintMark.Java.Shape.Expressions
import LintMark.Proofs.Java.Comments.Types
import Mathlib.Data.List.Sigma

/-!
# Comments in expressions

The rules for expressions ignore comments. An operator is looked for by its field or by its lack of
a name, and a comment has no field and a name. The sign of an increment is looked for at the ends of
the row, so there the rule steps over the comments itself: `update_eq_content` states it by the
content of the row alone.
-/

namespace LintMark.Java.Shaper

open Cst

variable {s : Shaper} {row : Cst}

/-! ## The operator of a row -/

/-- Whether a child of a row passes as its operator: by its field if any child has that field, and
otherwise by its lack of a name. -/
def isOperator (row c : Cst) : Bool :=
  if (row.fieldPlace? "operator").isSome then c.field = some "operator" else !c.named

theorem operatorPlace?_eq_findIdx? (row : Cst) :
    operatorPlace? row = row.children.findIdx? (isOperator row) := by
  cases hplace : row.fieldPlace? "operator" with
  | none =>
    have htest : isOperator row = fun c ↦ !c.named := by
      funext c
      rw [isOperator, hplace, Option.isSome_none, if_neg Bool.false_ne_true]
    rw [operatorPlace?, hplace, htest]
    rfl
  | some i =>
    have htest : isOperator row = fun c ↦ decide (c.field = some "operator") := by
      funext c
      rw [isOperator, hplace, Option.isSome_some, if_pos rfl]
    rw [operatorPlace?, hplace, htest]
    exact hplace.symm

theorem operator?_eq_find? (row : Cst) :
    ((operatorPlace? row).bind fun i ↦ row.children[i]?)
      = row.children.find? (isOperator row) := by
  rw [operatorPlace?_eq_findIdx?, List.find?_eq_bind_findIdx?_getElem?]

theorem operands_operatorPlace? (row : Cst) :
    s.operands row (operatorPlace? row)
      = flatMapFirst (isOperator row) (fun c first ↦ if first then [] else s.convert c)
          row.children := by
  rw [← flatMap_zipIdx_findIdx?, operands, operatorPlace?_eq_findIdx?]
  simp only [decide_eq_true_eq]

theorem isOperator_row_withoutComments (h : row.TidyBelow) :
    isOperator row.withoutComments = isOperator row := by
  funext c
  rw [isOperator, h.isSome_fieldPlace?_eq, isOperator]

theorem isOperator_withoutComments (row c : Cst) :
    isOperator row c.withoutComments = isOperator row c := by
  rw [isOperator, field_withoutComments, named_withoutComments, isOperator]

theorem isOperator_of_isComment {c : Cst} (h : row.TidyBelow) (hc : c ∈ row.children)
    (hcomment : c.isComment = true) : isOperator row c = false := by
  rw [isOperator, h.field_test hc hcomment, h.named_eq_true hc hcomment, Bool.not_true, ite_self]

/-- The operator of a row is that of the row without comments. -/
theorem operator?_withoutComments (h : row.TidyBelow) :
    ((operatorPlace? row.withoutComments).bind fun i ↦ row.withoutComments.children[i]?)
      = ((operatorPlace? row).bind fun i ↦ row.children[i]?).map withoutComments := by
  rw [operator?_eq_find?, operator?_eq_find?, isOperator_row_withoutComments h,
    children_withoutComments_eq]
  exact find?_dropComments (isOperator_withoutComments row) fun c ↦ isOperator_of_isComment h

/-! ## The ends of a row -/

/-- The numbered children that are no comments. -/
def parts (row : Cst) : List (Cst × Nat) := row.children.zipIdx.filter fun (c, _) ↦ !c.isComment

theorem map_fst_parts (row : Cst) : (parts row).map Prod.fst = row.content := by
  have hnumbered :
      row.content = (row.children.zipIdx.map Prod.fst).filter fun c ↦ !c.isComment := by
    rw [List.zipIdx_map_fst, content]
  rw [hnumbered, List.filter_map, parts]
  rfl

theorem nodup_map_snd_parts (row : Cst) : ((parts row).map Prod.snd).Nodup :=
  (List.nodup_zipIdx_map_snd row.children).sublist (List.filter_sublist.map Prod.snd)

/-- An increment or decrement by its sign; `behind` says whether the sign follows the operand. -/
def updateNode (s : Shaper) (behind : Bool) (sign : Cst) (operands : List Outline) : Outline :=
  let kind :=
    if s.text sign = "++" then if behind then Kind.postInc else Kind.inc
    else if behind then Kind.postDec else Kind.dec
  s.node kind sign (s.text sign) operands

theorem updateNode_withoutComments (behind : Bool) (sign : Cst) (operands : List Outline) :
    s.updateNode behind sign.withoutComments operands = s.updateNode behind sign operands := by
  rw [updateNode, text_withoutComments, node_withoutComments, updateNode]

namespace IgnoresComments

variable (hs : s.IgnoresComments)

include hs

/-! ## Calls and objects -/

theorem arguments_eq (withOpening : Bool) (h : row.TidyBelow) :
    s.arguments withOpening row.withoutComments = s.arguments withOpening row := by
  have hopening : (row.withoutComments.children.filter fun c ↦ withOpening && c.type = "(").map
      (s.leaf .lparen)
        = (row.children.filter fun c ↦ withOpening && c.type = "(").map (s.leaf .lparen) := by
    rw [children_withoutComments_eq]
    refine map_filter_dropComments (fun c ↦ by rw [type_withoutComments]) (fun c _ hc ↦ ?_)
      fun c _ ↦ leaf_withoutComments _ c
    rw [decide_eq_false (type_ne_of_isComment hc (by decide)), Bool.and_false]
  rw [arguments, hopening, node_withoutComments, leaf_getLast?_filter_type _ (by decide),
    children_withoutComments_eq, arguments]
  congr 3
  refine flatMap_dropComments (fun c _ hc ↦ ?_) fun c hc ↦ ?_
  · rw [if_neg (type_notMem_of_isComment hc (by decide)),
      if_neg (type_ne_of_isComment hc (by decide)), if_pos hc]
  · rw [type_withoutComments, isComment_withoutComments, leaf_withoutComments, hs.expr_eq (h c hc)]

theorem methodCall_eq (h : row.TidyBelow) :
    s.methodCall row.withoutComments = s.methodCall row := by
  rw [methodCall, node_withoutComments, h.map_field? "name" fun c _ ↦ leaf_withoutComments _ c,
    h.field?_eq, h.field?_eq, methodCall]
  refine congrArg _ (congrArg₂ (· ++ ·) ?_ ?_)
  · cases hobject : row.field? "object" with
    | none => rfl
    | some object =>
      rw [Option.map_some]
      dsimp only
      rw [node_withoutComments, hs.convert_withoutComments object (h.of_field? hobject)]
  · cases harguments : row.field? "arguments" with
    | none => rfl
    | some c => exact hs.arguments_eq false (h.of_field? harguments).tidyBelow

theorem objectCreation_eq (h : row.TidyBelow) :
    s.objectCreation row.withoutComments = s.objectCreation row := by
  rw [objectCreation, node_withoutComments, objectCreation]
  congr 1
  refine h.flatMap_fieldPlace? "type" (fun c isType ↦
    if c.type ∈ ["new", "."] ∨ c.isComment then []
    else if isType then s.typeParts c
    else if c.type = "argument_list" then s.arguments true c
    else s.convert c)
    (fun x ↦ by simp only [decide_eq_true_eq]) (fun x ↦ by simp only [decide_eq_true_eq])
    (fun c hc ↦ if_pos (Or.inr hc)) fun c hc isType ↦ ?_
  rw [type_withoutComments, isComment_withoutComments, hs.typeParts_withoutComments c hc,
    hs.arguments_eq true hc.tidyBelow, hs.convert_withoutComments c hc]

theorem arrayCreation_eq (h : row.TidyBelow) :
    s.arrayCreation row.withoutComments = s.arrayCreation row := by
  rw [arrayCreation, node_withoutComments, children_withoutComments_eq, arrayCreation]
  congr 1
  refine flatMap_dropComments (fun c _ hc ↦ if_pos (Or.inr hc)) fun c hc ↦ ?_
  have hlengths : (c.withoutComments.children.filter fun d ↦ d.named && !d.isComment).map s.expr
      = (c.children.filter fun d ↦ d.named && !d.isComment).map s.expr := by
    rw [children_withoutComments_eq]
    refine map_filter_dropComments
      (fun d ↦ by rw [named_withoutComments, isComment_withoutComments]) (fun d _ hd ↦ ?_)
      fun d hd ↦ hs.expr_eq ((h c hc).of_mem_children hd)
    rw [hd, Bool.not_true, Bool.and_false]
  have hbrackets : ((c.withoutComments.children.filter fun d ↦ d.type = "]").map fun d ↦
      s.node .arrayDeclarator d "[" [s.leaf .rbrack d])
        = (c.children.filter fun d ↦ d.type = "]").map fun d ↦
          s.node .arrayDeclarator d "[" [s.leaf .rbrack d] := by
    rw [children_withoutComments_eq]
    exact map_filter_dropComments (fun d ↦ by rw [type_withoutComments])
      (fun d _ hd ↦ decide_eq_false (type_ne_of_isComment hd (by decide)))
      fun d _ ↦ by rw [node_withoutComments, leaf_withoutComments]
  dsimp only
  rw [type_withoutComments, isComment_withoutComments, node_withoutComments, hlengths,
    map_leaf_filter_type _ (by decide), hbrackets, hs.convert_withoutComments c (h c hc)]

theorem arrayInitializer_eq (h : row.TidyBelow) :
    s.arrayInitializer row.withoutComments = s.arrayInitializer row := by
  rw [arrayInitializer, node_withoutComments, children_withoutComments_eq, arrayInitializer]
  congr 1
  refine flatMap_dropComments (fun c _ hc ↦ if_pos (Or.inr hc)) fun c hc ↦ ?_
  rw [type_withoutComments, isComment_withoutComments, leaf_withoutComments, leaf_withoutComments,
    hs.convert_withoutComments c (h c hc), hs.expr_eq (h c hc)]

/-! ## Operators -/

theorem operands_eq (h : row.TidyBelow) :
    s.operands row.withoutComments (operatorPlace? row.withoutComments)
      = s.operands row (operatorPlace? row) := by
  rw [operands_operatorPlace?, operands_operatorPlace?, isOperator_row_withoutComments h,
    children_withoutComments_eq]
  refine flatMapFirst_dropComments (isOperator_withoutComments row)
    (fun c ↦ isOperator_of_isComment h) (fun c _ hc ↦ hs.convert_comment c hc)
    fun c hc first ↦ ?_
  rw [hs.convert_withoutComments c (h c hc)]

theorem operation_eq (kinds : List (String × Kind)) (unsigned : String) (other : Kind)
    (h : row.TidyBelow) :
    s.operation kinds unsigned other row.withoutComments
      = s.operation kinds unsigned other row := by
  rw [operation, operation]
  rw [operator?_withoutComments h, hs.operands_eq h]
  cases (operatorPlace? row).bind fun i ↦ row.children[i]? with
  | none =>
    rw [Option.map_none, Option.getD_none]
    dsimp only
    rw [node_withoutComments, Option.getD_none]
  | some c =>
    rw [Option.map_some, Option.getD_some]
    dsimp only
    rw [text_withoutComments, node_withoutComments, Option.getD_some]

theorem unary_eq (h : row.TidyBelow) : s.unary row.withoutComments = s.unary row := by
  rw [unary, unary]
  rw [operator?_withoutComments h, hs.operands_eq h, node_withoutComments]
  cases (operatorPlace? row).bind fun i ↦ row.children[i]? with
  | none => rfl
  | some c =>
    rw [Option.map_some]
    dsimp only
    rw [text_withoutComments]

/-! ## Increments -/

theorem operands_eq_flatMap_parts (row : Cst) (place : Option Nat) :
    s.operands row place
      = (parts row).flatMap fun x ↦ if place = some x.2 then [] else s.convert x.1 := by
  rw [operands, parts]
  induction row.children.zipIdx with
  | nil => rfl
  | cons x xs ih =>
    obtain ⟨c, i⟩ := x
    rw [List.flatMap_cons, ih]
    cases hc : c.isComment with
    | true =>
      rw [List.filter_cons_of_neg (by simp [hc])]
      dsimp only
      rw [hs.convert_comment c hc, ite_self, List.nil_append]
    | false =>
      rw [List.filter_cons_of_pos (by simp [hc]), List.flatMap_cons]

/-- Leaving one part of a row out converts the other ones. -/
theorem operands_parts {init rest : List (Cst × Nat)} {x : Cst × Nat}
    (h : parts row = init ++ x :: rest) :
    s.operands row (some x.2)
      = s.convertAll (init.map Prod.fst) ++ s.convertAll (rest.map Prod.fst) := by
  have hother : ∀ ys : List (Cst × Nat), (∀ y ∈ ys, y.2 ≠ x.2) →
      (ys.flatMap fun y ↦ if some x.2 = some y.2 then [] else s.convert y.1)
        = s.convertAll (ys.map Prod.fst) := by
    intro ys hys
    rw [convertAll, List.flatMap_map]
    exact List.flatMap_congr fun y hy ↦ if_neg fun heq ↦ hys y hy (Option.some.inj heq).symm
  have hnodup := nodup_map_snd_parts row
  rw [h, List.map_append, List.map_cons, List.nodup_middle, List.nodup_cons,
    ← List.map_append] at hnodup
  have hne : ∀ y ∈ init ++ rest, y.2 ≠ x.2 :=
    fun y hy heq ↦ hnodup.1 (heq ▸ List.mem_map_of_mem hy)
  rw [hs.operands_eq_flatMap_parts, h, List.flatMap_append, List.flatMap_cons, if_pos rfl,
    List.nil_append, hother init fun y hy ↦ hne y (List.mem_append_left rest hy),
    hother rest fun y hy ↦ hne y (List.mem_append_right init hy)]

/-- An increment by its content: the rule leaves out the sign and converts the other parts. -/
theorem update_eq_content (row : Cst) :
    s.update row = match row.content with
      | [] => s.node .postDec row
      | first :: rest =>
        if first.named then
          s.updateNode true ((first :: rest).getLast (List.cons_ne_nil first rest))
            (s.convertAll (first :: rest).dropLast)
        else s.updateNode false first (s.convertAll rest) := by
  rw [update, ← parts, ← map_fst_parts]
  cases hparts : parts row with
  | nil => rfl
  | cons x rest =>
    rw [List.head?_cons, List.getLast?_eq_some_getLast (List.cons_ne_nil x rest), List.map_cons]
    dsimp only
    by_cases hnamed : x.1.named = true
    · have hends : parts row = (x :: rest).dropLast ++
          [(x :: rest).getLast (List.cons_ne_nil x rest)] := by
        rw [hparts, List.dropLast_append_getLast]
      rw [if_pos hnamed, if_pos hnamed]
      dsimp only
      have hlast : (x.1 :: rest.map Prod.fst).getLast (List.cons_ne_nil _ _)
          = ((x :: rest).getLast (List.cons_ne_nil x rest)).1 := List.getLast_map (l := x :: rest) _
      have hinit : (x.1 :: rest.map Prod.fst).dropLast = (x :: rest).dropLast.map Prod.fst := by
        rw [List.map_dropLast, List.map_cons]
      rw [hs.operands_parts hends, if_pos hnamed, if_pos hnamed, hlast, hinit]
      exact congrArg _ (List.append_nil _)
    · rw [if_neg hnamed, if_neg hnamed]
      dsimp only
      have hends : parts row = [] ++ x :: rest := hparts
      rw [hs.operands_parts hends, if_neg hnamed, if_neg hnamed]
      rfl

theorem update_eq (h : row.TidyBelow) : s.update row.withoutComments = s.update row := by
  have htidy : ∀ c ∈ row.content, c.Tidy := fun c hc ↦ h.of_mem_content hc
  rw [hs.update_eq_content, hs.update_eq_content, content_withoutComments]
  cases hcontent : row.content with
  | nil => exact node_withoutComments ..
  | cons first rest =>
    rw [hcontent] at htidy
    have hlast : (first.withoutComments :: rest.map withoutComments).getLast (List.cons_ne_nil _ _)
        = ((first :: rest).getLast (List.cons_ne_nil first rest)).withoutComments :=
      List.getLast_map (l := first :: rest) _
    have hinit : (first.withoutComments :: rest.map withoutComments).dropLast
        = (first :: rest).dropLast.map withoutComments := by
      rw [List.map_dropLast, List.map_cons]
    rw [List.map_cons]
    dsimp only
    rw [hlast, hinit, named_withoutComments, updateNode_withoutComments, updateNode_withoutComments,
      hs.convertAll_map fun c hc ↦ htidy c (List.dropLast_subset _ hc),
      hs.convertAll_map fun c hc ↦ htidy c (List.mem_cons_of_mem first hc)]

/-! ## Other expressions -/

theorem parenthesized_eq (wrap : Bool) (h : row.TidyBelow) :
    s.parenthesized wrap row.withoutComments = s.parenthesized wrap row := by
  rw [parenthesized, children_withoutComments_eq, parenthesized]
  refine flatMap_dropComments (fun c _ hc ↦ ?_) fun c hc ↦ ?_
  · rw [if_neg (type_ne_of_isComment hc (by decide)), if_neg (type_ne_of_isComment hc (by decide)),
      if_pos hc]
  · rw [type_withoutComments, isComment_withoutComments, leaf_withoutComments, leaf_withoutComments,
      hs.expr_eq (h c hc), hs.convert_withoutComments c (h c hc)]

theorem withoutSigns_eq (kind : Kind) (text : String) (signs : List String) (h : row.TidyBelow) :
    s.withoutSigns kind text signs row.withoutComments = s.withoutSigns kind text signs row := by
  rw [withoutSigns, node_withoutComments, content_withoutComments, List.filter_map, withoutSigns]
  congr 1
  have htest : ((fun c : Cst ↦ decide (c.type ∉ signs)) ∘ withoutComments)
      = fun c ↦ decide (c.type ∉ signs) := by
    funext c
    rw [Function.comp_apply, type_withoutComments]
  rw [htest]
  exact hs.convertAll_map fun c hc ↦ h.of_mem_content (List.mem_filter.1 hc).1

theorem arrayAccess_eq (h : row.TidyBelow) :
    s.arrayAccess row.withoutComments = s.arrayAccess row := by
  rw [arrayAccess, node_withoutComments, h.map_field? "index" fun c hc ↦ hs.expr_eq hc,
    map_leaf_filter_type _ (by decide), h.field?_eq, arrayAccess]
  cases harray : row.field? "array" with
  | none => rfl
  | some array =>
    rw [Option.map_some]
    dsimp only
    rw [hs.convert_withoutComments array (h.of_field? harray)]

theorem cast_eq (h : row.TidyBelow) : s.cast row.withoutComments = s.cast row := by
  rw [cast, node_withoutComments, cast]
  congr 1
  refine h.flatMap_fieldPlace? "value" (fun c isValue ↦
    if c.type = "(" ∨ c.isComment then []
    else if c.type = ")" then [s.leaf .rparen c]
    else if isValue then s.convert c
    else if c.type ∈ typeReferences then [s.typeSpec c none]
    else s.convert c)
    (fun x ↦ by simp only [decide_eq_true_eq]) (fun x ↦ by simp only [decide_eq_true_eq])
    (fun c hc ↦ if_pos (Or.inr hc)) fun c hc isValue ↦ ?_
  rw [type_withoutComments, isComment_withoutComments, leaf_withoutComments,
    hs.convert_withoutComments c hc, hs.typeSpec_eq hc]

theorem instanceOf_eq (h : row.TidyBelow) :
    s.instanceOf row.withoutComments = s.instanceOf row := by
  rw [instanceOf, node_withoutComments, instanceOf]
  congr 1
  refine h.flatMap_fieldPlace? "left" (fun c isLeft ↦
    if c.type = "instanceof" ∨ c.isComment then []
    else if c.type ∈ typeReferences ∧ isLeft = false then [s.typeSpec c none]
    else s.convert c)
    (fun x ↦ by simp only [decide_eq_false_iff_not, ne_eq])
    (fun x ↦ by simp only [decide_eq_false_iff_not, ne_eq])
    (fun c hc ↦ if_pos (Or.inr hc)) fun c hc isLeft ↦ ?_
  rw [type_withoutComments, isComment_withoutComments, hs.typeSpec_eq hc,
    hs.convert_withoutComments c hc]

end IgnoresComments

end LintMark.Java.Shaper

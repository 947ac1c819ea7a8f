import LintMark.Java.Shape.Types
import LintMark.Proofs.Java.Comments.Basic

/-!
# Comments in type references

The rules for type references ignore comments. Dimensions are folded over and not collected: a
comment between two brackets leaves the parts as they are.
-/

namespace LintMark.Java.Shaper

open Cst

variable {s : Shaper}

/-! ## Dimensions -/

theorem wrapBrackets_dropComments (parts : List Outline) (cs : List Cst) :
    s.wrapBrackets parts (dropComments cs) = s.wrapBrackets parts cs := by
  refine foldl_dropComments (fun parts c _ hc ↦ if_neg (type_ne_of_isComment hc (by decide)))
    (fun parts c _ ↦ ?_) parts
  rw [type_withoutComments, node_withoutComments, leaf_withoutComments]

@[simp] theorem wrapDimensions_map (parts : List Outline) (dimensions : Option Cst) :
    s.wrapDimensions parts (dimensions.map withoutComments)
      = s.wrapDimensions parts dimensions := by
  cases dimensions with
  | none => rfl
  | some dimensions =>
    rw [Option.map_some, wrapDimensions, children_withoutComments_eq, wrapBrackets_dropComments,
      wrapDimensions]

namespace IgnoresComments

variable (hs : s.IgnoresComments) {row : Cst}

include hs

/-! ## Type references -/

theorem wildcard_eq (h : row.TidyBelow) : s.wildcard row.withoutComments = s.wildcard row := by
  rw [wildcard, node_withoutComments, children_withoutComments_eq, wildcard]
  congr 1
  refine flatMap_dropComments (fun c _ hc ↦ ?_) fun c hc ↦ ?_
  · rw [if_neg (type_ne_of_isComment hc (by decide)),
      if_neg (type_notMem_of_isComment hc (by decide)), hs.typeParts_comment c hc]
  · rw [type_withoutComments, node_withoutComments, hs.typeParts_withoutComments c (h c hc)]

theorem typeArguments_eq (h : row.TidyBelow) :
    s.typeArguments row.withoutComments = s.typeArguments row := by
  rw [typeArguments, node_withoutComments, children_withoutComments_eq, typeArguments]
  congr 1
  refine flatMap_dropComments (fun c _ hc ↦ ?_) fun c hc ↦ ?_
  · rw [if_neg (type_ne_of_isComment hc (by decide)), if_neg (type_ne_of_isComment hc (by decide)),
      if_neg (type_ne_of_isComment hc (by decide)), if_neg (type_ne_of_isComment hc (by decide)),
      if_pos hc]
  · rw [type_withoutComments, leaf_withoutComments, leaf_withoutComments, leaf_withoutComments,
      hs.wildcard_eq (h c hc).tidyBelow, node_withoutComments, isComment_withoutComments,
      hs.typeParts_withoutComments c (h c hc), node_withoutComments]

omit hs in
theorem primitiveType_eq (row : Cst) :
    s.primitiveType row.withoutComments = s.primitiveType row := by
  rw [primitiveType, node_withoutComments, text_withoutComments, primitiveType]

theorem scopedType_eq (h : row.TidyBelow) :
    s.scopedType row.withoutComments = s.scopedType row := by
  rw [scopedType, node_withoutComments, hs.convertAll_filter_type_ne "." h, scopedType]

theorem genericType_eq (h : row.TidyBelow) :
    s.genericType row.withoutComments = s.genericType row := by
  rw [genericType, children_withoutComments_eq, genericType]
  refine flatMap_dropComments (fun c _ hc ↦ ?_) fun c hc ↦ ?_
  · rw [if_neg (type_ne_of_isComment hc (by decide)), hs.convert_comment c hc]
  · rw [type_withoutComments, hs.typeArguments_eq (h c hc).tidyBelow,
      hs.convert_withoutComments c (h c hc)]

theorem arrayType_eq (h : row.TidyBelow) : s.arrayType row.withoutComments = s.arrayType row := by
  rw [arrayType, h.field?_eq, h.field?_eq, wrapDimensions_map, arrayType]
  cases helement : row.field? "element" with
  | none => rfl
  | some element =>
    rw [Option.map_some]
    dsimp only
    rw [hs.typeParts_withoutComments element (h.of_field? helement)]

omit hs in
@[simp] theorem typeSpec_map (row : Cst) (dimensions : Option Cst) :
    s.typeSpec row (dimensions.map withoutComments) = s.typeSpec row dimensions := by
  rw [typeSpec, wrapDimensions_map, typeSpec]

theorem typeSpec_eq (h : row.Tidy) (dimensions : Option Cst) :
    s.typeSpec row.withoutComments dimensions = s.typeSpec row dimensions := by
  rw [typeSpec, node_withoutComments, hs.typeParts_withoutComments row h, typeSpec]

end IgnoresComments

end LintMark.Java.Shaper

import LintMark.Java.Shape.Basic
import LintMark.Proofs.Java.Comments

/-!
# Shapers that ignore comments

A shaper ignores comments when a comment gives it nothing and the comments below a row make no
difference to it. Each rule keeps this property: asked of a shaper that ignores comments, the rule
ignores them as well. There is one lemma for each rule, here and in the modules
`LintMark.Proofs.Java.Comments.*`; `LintMark.Proofs.Java.Comments.Source` puts them together.

## The shape of the lemmas

A rule that collects over the children of its row does so by a function of one child. Two facts
about that function make the lemma: it gives nothing for a comment, and it gives the same for a
child without comments.
-/

namespace LintMark.Java.Shaper

open Cst

/-- Comments give nothing, and the comments below a row make no difference. -/
structure IgnoresComments (s : Shaper) : Prop where
  convert_comment : ∀ c : Cst, c.isComment = true → s.convert c = []
  typeParts_comment : ∀ c : Cst, c.isComment = true → s.typeParts c = []
  convert_withoutComments : ∀ c : Cst, c.Tidy → s.convert c.withoutComments = s.convert c
  typeParts_withoutComments : ∀ c : Cst, c.Tidy → s.typeParts c.withoutComments = s.typeParts c

variable {s : Shaper}

/-! ## Outlines at the position of a row -/

@[simp] theorem text_withoutComments (row : Cst) : s.text row.withoutComments = s.text row :=
  Cst.text_withoutComments row s.source

@[simp] theorem node_withoutComments (kind : Kind) (row : Cst) (text : String)
    (children : List Outline) :
    s.node kind row.withoutComments text children = s.node kind row text children := by
  rw [node, start_withoutComments, node]

@[simp] theorem leaf_withoutComments (kind : Kind) (row : Cst) :
    s.leaf kind row.withoutComments = s.leaf kind row := by
  rw [leaf, node_withoutComments, text_withoutComments, leaf]

@[simp] theorem leaf_comp_withoutComments (kind : Kind) :
    s.leaf kind ∘ withoutComments = s.leaf kind := funext fun row ↦ leaf_withoutComments kind row

theorem number_withoutComments (short long : Kind) (letters : List Char) (row : Cst) :
    s.number short long letters row.withoutComments = s.number short long letters row := by
  rw [number, text_withoutComments, leaf_withoutComments, number]

/-- The leaves of the children of a type, which is not that of a comment. -/
theorem map_leaf_filter_type (kind : Kind) {type : String} (htype : type ∉ commentTypes)
    (row : Cst) :
    (row.withoutComments.children.filter fun c ↦ c.type = type).map (s.leaf kind)
      = (row.children.filter fun c ↦ c.type = type).map (s.leaf kind) := by
  rw [filter_type_withoutComments htype, List.map_map, leaf_comp_withoutComments]

/-- The leaf of the last child of a type, which is not that of a comment. -/
theorem leaf_getLast?_filter_type (kind : Kind) {type : String} (htype : type ∉ commentTypes)
    (row : Cst) :
    (row.withoutComments.children.filter fun c ↦ c.type = type).getLast?.map (s.leaf kind)
      = (row.children.filter fun c ↦ c.type = type).getLast?.map (s.leaf kind) := by
  rw [← List.getLast?_map, ← List.getLast?_map, map_leaf_filter_type kind htype]

namespace IgnoresComments

variable (hs : s.IgnoresComments) {row : Cst} {cs : List Cst}

include hs

/-! ## Outlines of rows below -/

theorem expr_eq (h : row.Tidy) : s.expr row.withoutComments = s.expr row := by
  rw [expr, node_withoutComments, hs.convert_withoutComments row h, expr]

theorem convertAll_dropComments (h : ∀ c ∈ cs, c.Tidy) :
    s.convertAll (dropComments cs) = s.convertAll cs :=
  flatMap_dropComments (fun c _ ↦ hs.convert_comment c)
    (fun c hc ↦ hs.convert_withoutComments c (h c hc))

theorem convertAll_map (h : ∀ c ∈ cs, c.Tidy) :
    s.convertAll (cs.map withoutComments) = s.convertAll cs := by
  rw [convertAll, List.flatMap_map, convertAll]
  exact List.flatMap_congr fun c hc ↦ hs.convert_withoutComments c (h c hc)

/-- The outlines of the children but for those of a type. -/
theorem convertAll_filter_type_ne (type : String) (h : row.TidyBelow) :
    s.convertAll (row.withoutComments.children.filter fun c ↦ c.type ≠ type)
      = s.convertAll (row.children.filter fun c ↦ c.type ≠ type) := by
  rw [children_withoutComments_eq, filter_dropComments fun c ↦ by rw [type_withoutComments]]
  exact hs.convertAll_dropComments fun c hc ↦ h c (List.mem_filter.1 hc).1

theorem convertAll_children_eq (h : row.TidyBelow) :
    s.convertAll row.withoutComments.children = s.convertAll row.children := by
  rw [children_withoutComments_eq]
  exact hs.convertAll_dropComments h

/-! ## Modifiers -/

theorem modifiers_eq (h : row.TidyBelow) : s.modifiers row.withoutComments = s.modifiers row := by
  rw [modifiers, node_withoutComments, hs.convertAll_children_eq h, modifiers]

theorem modifiersOf_eq (h : row.TidyBelow) :
    s.modifiersOf row.withoutComments = s.modifiersOf row := by
  rw [modifiersOf, find?_type_withoutComments (by decide), modifiersOf]
  cases hc : row.children.find? fun c ↦ c.type = "modifiers" with
  | none => exact node_withoutComments ..
  | some c => exact hs.modifiers_eq (h.of_find? hc).tidyBelow

/-! ## Rows without a rule of their own -/

theorem generic_eq (h : row.Tidy) : s.generic row.withoutComments = s.generic row := by
  -- A row with children has one that is no comment, so that it does not become a leaf.
  have hempty : row.withoutComments.children.isEmpty = row.children.isEmpty := by
    rw [children_withoutComments]
    cases hchildren : row.children with
    | nil => rw [content, hchildren]; rfl
    | cons c cs =>
      have hcontent : row.content ≠ [] :=
        h.content_ne_nil (by rw [hchildren]; exact List.cons_ne_nil c cs)
      rw [List.isEmpty_map, List.isEmpty_cons, List.isEmpty_eq_false_iff]
      exact hcontent
  rw [generic, hempty, hs.convertAll_children_eq h.tidyBelow, named_withoutComments,
    type_withoutComments, text_withoutComments, leaf_withoutComments, node_withoutComments,
    generic]

end IgnoresComments

end LintMark.Java.Shaper

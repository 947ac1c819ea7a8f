import LintMark.Java.Shape.Declarations
import LintMark.Proofs.Java.Comments.Expressions

/-!
# Comments in declarations

The rules for declarations ignore comments. The declarators of a declaration and the separators
between them are counted against each other, so a comment must count as neither.
-/

namespace LintMark.Java.Shaper

open Cst

variable {s : Shaper} {row : Cst}

/-! ## The parts of a declaration of variables -/

theorem declarators_withoutComments (row : Cst) :
    declarators row.withoutComments = (declarators row).map withoutComments :=
  filter_type_withoutComments (by decide) row

theorem separators_withoutComments (row : Cst) :
    s.separators row.withoutComments = s.separators row := by
  have hflat : ∀ r : Cst, s.separators r = r.children.flatMap fun c ↦
      if c.type = "," then [s.leaf .comma c]
      else if c.type = ";" then [s.leaf .semi c]
      else [] := by
    intro r
    rw [separators, List.filterMap_eq_flatMap_toList]
    refine List.flatMap_congr fun c _ ↦ ?_
    by_cases hcomma : c.type = ","
    · rw [if_pos hcomma, if_pos hcomma, Option.toList_some]
    · rw [if_neg hcomma, if_neg hcomma]
      by_cases hsemi : c.type = ";"
      · rw [if_pos hsemi, if_pos hsemi, Option.toList_some]
      · rw [if_neg hsemi, if_neg hsemi, Option.toList_none]
  rw [hflat, hflat, children_withoutComments_eq]
  refine flatMap_dropComments (fun c _ hc ↦ ?_) fun c _ ↦ ?_
  · rw [if_neg (type_ne_of_isComment hc (by decide)), if_neg (type_ne_of_isComment hc (by decide))]
  · rw [type_withoutComments, leaf_withoutComments, leaf_withoutComments]

namespace IgnoresComments

variable (hs : s.IgnoresComments)

include hs

/-! ## Files -/

theorem program_eq (h : row.TidyBelow) : s.program row.withoutComments = s.program row := by
  rw [program, hs.convertAll_children_eq h, program]

theorem package_eq (h : row.TidyBelow) : s.package row.withoutComments = s.package row := by
  rw [package, node_withoutComments, hs.convertAll_filter_type_ne "package" h, package]

omit hs in
theorem importName_of_isComment (name : Option Outline) {c : Cst} (hc : c.isComment = true) :
    s.importName name c = name := by
  rw [importName, if_neg (type_notMem_of_isComment hc (by decide)),
    if_neg (type_ne_of_isComment hc (by decide))]

theorem importName_eq (name : Option Outline) {c : Cst} (hc : c.Tidy) :
    s.importName name c.withoutComments = s.importName name c := by
  rw [importName, type_withoutComments, hs.convert_withoutComments c hc, node_withoutComments,
    leaf_withoutComments, importName]

theorem importDecl_eq (h : row.TidyBelow) :
    s.importDecl row.withoutComments = s.importDecl row := by
  rw [importDecl, any_type_withoutComments (by decide), map_leaf_filter_type _ (by decide),
    node_withoutComments, children_withoutComments_eq,
    filter_dropComments fun c ↦ by rw [type_withoutComments],
    foldl_dropComments (fun name c _ hc ↦ importName_of_isComment name hc)
      fun name c hc ↦ hs.importName_eq name (h c (List.mem_filter.1 hc).1),
    importDecl]

/-! ## Types -/

theorem clause_eq (kind : Kind) (keyword : String) (h : row.TidyBelow) :
    s.clause kind keyword row.withoutComments = s.clause kind keyword row := by
  rw [clause, node_withoutComments, children_withoutComments_eq, clause]
  congr 1
  refine flatMap_dropComments (fun c _ hc ↦ ?_) fun c hc ↦ ?_
  · have htype : c.type ≠ "type_list" := type_ne_of_isComment hc (by decide)
    rw [if_neg htype, hs.convert_comment c hc, ite_self]
  · rw [type_withoutComments, hs.convertAll_children_eq (h c hc).tidyBelow,
      hs.convert_withoutComments c (h c hc)]

theorem typeDeclaration_eq (kind : Kind) (h : row.TidyBelow) :
    s.typeDeclaration kind row.withoutComments = s.typeDeclaration kind row := by
  rw [typeDeclaration, node_withoutComments, hs.modifiersOf_eq h, typeDeclaration]
  congr 2
  refine h.flatMap_content fun c hc ↦ ?_
  rw [type_withoutComments, hs.clause_eq _ _ hc.tidyBelow, hs.clause_eq _ _ hc.tidyBelow,
    hs.convert_withoutComments c hc]

theorem typeBody_eq (h : row.TidyBelow) : s.typeBody row.withoutComments = s.typeBody row := by
  rw [typeBody, node_withoutComments, hs.convertAll_children_eq h, typeBody]

/-! ## Variables -/

theorem initializer_eq (declarator : Cst) {value : Cst} (h : value.Tidy) :
    s.initializer declarator.withoutComments value.withoutComments
      = s.initializer declarator value := by
  rw [initializer, find?_type_withoutComments (by decide), Option.getD_map, node_withoutComments,
    type_withoutComments, hs.arrayInitializer_eq h.tidyBelow, hs.expr_eq h, initializer]

theorem variableDef_eq (terminator : Option Outline) {declarator : Cst} (h : row.TidyBelow)
    (hd : declarator.Tidy) :
    s.variableDef row.withoutComments declarator.withoutComments terminator
      = s.variableDef row declarator terminator := by
  have htype : ((row.withoutComments.field? "type").toList.map fun c ↦
      s.typeSpec c (declarator.withoutComments.field? "dimensions"))
        = (row.field? "type").toList.map fun c ↦
          s.typeSpec c (declarator.field? "dimensions") := by
    refine h.map_field? "type" fun c hc ↦ ?_
    rw [hs.typeSpec_eq hc, hd.tidyBelow.field?_eq, typeSpec_map]
  have hname : (declarator.withoutComments.field? "name").toList.map (s.leaf .ident)
      = (declarator.field? "name").toList.map (s.leaf .ident) :=
    hd.tidyBelow.map_field? "name" fun c _ ↦ leaf_withoutComments _ c
  have hvalue : (declarator.withoutComments.field? "value").toList.map
      (s.initializer declarator.withoutComments)
        = (declarator.field? "value").toList.map (s.initializer declarator) :=
    hd.tidyBelow.map_field? "value" fun c hc ↦ hs.initializer_eq declarator hc
  rw [variableDef, node_withoutComments, hs.modifiersOf_eq h, htype, hname, hvalue, variableDef]

theorem field_eq (h : row.TidyBelow) : s.field row.withoutComments = s.field row := by
  rw [field, declarators_withoutComments, List.zipIdx_map, List.map_map, field]
  refine List.map_congr_left fun ⟨d, i⟩ hx ↦ ?_
  have hd : d.Tidy := h d (List.mem_filter.1 (List.fst_mem_of_mem_zipIdx hx)).1
  rw [Function.comp_apply, separators_withoutComments]
  exact hs.variableDef_eq _ h hd

theorem localVariable_eq (h : row.TidyBelow) :
    s.localVariable row.withoutComments = s.localVariable row := by
  rw [localVariable, declarators_withoutComments, List.zipIdx_map, List.flatMap_map, localVariable]
  refine List.flatMap_congr fun ⟨d, i⟩ hx ↦ ?_
  have hd : d.Tidy := h d (List.mem_filter.1 (List.fst_mem_of_mem_zipIdx hx)).1
  rw [separators_withoutComments]
  exact congrArg (· :: _) (hs.variableDef_eq none h hd)

/-! ## Methods -/

theorem throwsClause_eq (h : row.TidyBelow) :
    s.throwsClause row.withoutComments = s.throwsClause row := by
  rw [throwsClause, node_withoutComments, hs.convertAll_filter_type_ne "throws" h, throwsClause]

theorem method_eq (h : row.TidyBelow) : s.method row.withoutComments = s.method row := by
  rw [method, node_withoutComments, hs.modifiersOf_eq h, method]
  congr 2
  refine h.flatMap_fieldPlace? "type" (fun c isType ↦
    if c.type = "modifiers" ∨ c.isComment then []
    else if isType then [s.typeSpec c none]
    else if c.type = "identifier" then [s.leaf .ident c]
    else if c.type = "throws" then [s.throwsClause c]
    else if c.type = "dimensions" then []
    else s.convert c)
    (fun x ↦ by simp only [decide_eq_true_eq]) (fun x ↦ by simp only [decide_eq_true_eq])
    (fun c hc ↦ if_pos (Or.inr hc)) fun c hc isType ↦ ?_
  rw [type_withoutComments, isComment_withoutComments, hs.typeSpec_eq hc, leaf_withoutComments,
    hs.throwsClause_eq hc.tidyBelow, hs.convert_withoutComments c hc]

theorem constructor_eq (h : row.TidyBelow) :
    s.constructor row.withoutComments = s.constructor row := by
  rw [constructor, node_withoutComments, hs.modifiersOf_eq h, constructor]
  congr 2
  refine h.flatMap_content fun c hc ↦ ?_
  rw [type_withoutComments, hs.throwsClause_eq hc.tidyBelow, hs.convert_withoutComments c hc]

theorem parameter_eq (h : row.TidyBelow) :
    s.parameter row.withoutComments = s.parameter row := by
  have hnone : row.withoutComments.fieldPlace? "type" = none ↔ row.fieldPlace? "type" = none := by
    rw [← Option.not_isSome_iff_eq_none, ← Option.not_isSome_iff_eq_none, h.isSome_fieldPlace?_eq]
  rw [parameter, node_withoutComments, hs.modifiersOf_eq h, h.field?_eq, parameter]
  congr 2
  refine h.flatMap_fieldPlace? "type" (fun c isType ↦
    if c.type = "modifiers" ∨ c.isComment then []
    else if c.type ∈ typeReferences ∧ (row.fieldPlace? "type" = none ∨ isType) then
      [s.typeSpec c (row.field? "dimensions")]
    else if c.type = "identifier" then [s.leaf .ident c]
    else if c.type = "variable_declarator" then (c.field? "name").toList.map (s.leaf .ident)
    else if c.type = "dimensions" then []
    else s.convert c)
    (fun x ↦ by simp only [decide_eq_true_eq, hnone, typeSpec_map])
    (fun x ↦ by simp only [decide_eq_true_eq])
    (fun c hc ↦ if_pos (Or.inr hc)) fun c hc isType ↦ ?_
  rw [type_withoutComments, isComment_withoutComments, hs.typeSpec_eq hc, leaf_withoutComments,
    hc.tidyBelow.map_field? "name" fun d _ ↦ leaf_withoutComments _ d,
    hs.convert_withoutComments c hc]

theorem parameters_eq (h : row.TidyBelow) :
    s.parameters row.withoutComments = s.parameters row := by
  have hmembers : (row.withoutComments.children.flatMap fun c ↦
      if c.type ∈ ["(", ")"] then []
      else if c.type ∈ ["formal_parameter", "spread_parameter"] then [s.parameter c]
      else s.convert c) = row.children.flatMap fun c ↦
      if c.type ∈ ["(", ")"] then []
      else if c.type ∈ ["formal_parameter", "spread_parameter"] then [s.parameter c]
      else s.convert c := by
    rw [children_withoutComments_eq]
    refine flatMap_dropComments (fun c _ hc ↦ ?_) fun c hc ↦ ?_
    · rw [if_neg (type_notMem_of_isComment hc (by decide)),
        if_neg (type_notMem_of_isComment hc (by decide)), hs.convert_comment c hc]
    · rw [type_withoutComments, hs.parameter_eq (h c hc).tidyBelow,
        hs.convert_withoutComments c (h c hc)]
  rw [parameters, hmembers, node_withoutComments, ← Option.toList_map, ← Option.toList_map,
    leaf_getLast?_filter_type _ (by decide), leaf_getLast?_filter_type _ (by decide), parameters,
    Option.toList_map, Option.toList_map]

end IgnoresComments

end LintMark.Java.Shaper

import LintMark.Proofs.Constant.Fields
import LintMark.Proofs.Java.Lines.Expressions

/-!
# The lines of declarations and statements

Declarations read their modifiers first, and those of several variables read themselves and their
type anew for each. Statements read their parts as they stand, but for the head of a loop over a
collection.
-/

namespace LintMark.Java.Shaper.Orderly

open Cst Outline

variable {s : Shaper} {row c : Cst} {os : List Outline}

section Row

variable (h : s.Orderly row)

include h

/-! ## Files -/

theorem filtered (p : Cst → Bool) : Follows s.source row.rows
    (s.convertAll (row.children.filter p)) :=
  (h.convertAll (List.filter_subset_self _)).of_children List.filter_sublist

theorem importName {cs : List Cst} (hcs : cs ⊆ row.children) {rows : List Cst}
    {name : Option Outline} (hname : Follows s.source rows name.toList) :
    Follows s.source (cs.foldl nameDetour rows) (cs.foldl s.importName name).toList := by
  induction cs generalizing rows name with
  | nil => exact hname
  | cons c cs ih =>
    obtain ⟨hc, hcs⟩ := List.cons_subset.1 hcs
    refine ih hcs ?_
    rw [nameDetour, Shaper.importName]
    split_ifs
    · exact (h.child hc).outlines.head?
    · exact .above rfl (hname.append (.leaf _))
    · exact hname

theorem importDecl : Follows s.source (importDetour row) [s.importDecl row] :=
  .above rfl ((h.importName (List.filter_subset_self _) .nil).append (.mapLeaf _ _))

/-! ## Types -/

theorem clause (kind : Kind) (keyword : String) :
    Follows s.source row.rows [s.clause kind keyword row] := by
  refine .node_rows (.of_children (.flatMap fun c hc ↦ ?_) (.refl _)) kind keyword
  split_ifs
  · exact .nil
  · exact (h.child hc).children
  · exact (h.child hc).outlines

/-- A declaration goes on with its other parts, once its modifiers have been read. -/
theorem declaration (kind : Kind) {part : Cst → List Cst}
    (hos : Follows s.source (row.children.flatMap fun c ↦
      if c.type = "modifiers" ∨ c.isComment then [] else part c) os) :
    Follows s.source (declarationDetour part row)
      [s.node kind row "" (s.modifiersOf row :: os)] :=
  .above rfl (h.modifiersOf.append hos)

omit h in
theorem otherParts {f : Cst → List Outline} (hmodifiers : ∀ c, c.type = "modifiers" → f c = [])
    (hpart : ∀ c ∈ row.children, c.type ≠ "modifiers" → Follows s.source c.rows (f c)) :
    Follows s.source (row.children.flatMap fun c ↦
      if c.type = "modifiers" ∨ c.isComment then [] else c.rows) (row.content.flatMap f) := by
  have hcontent : row.content.flatMap f
      = row.children.flatMap fun c ↦ if c.isComment then [] else f c := by
    rw [content]
    induction row.children with
    | nil => rfl
    | cons c cs ih =>
      rw [List.filter_cons, List.flatMap_cons, ← ih]
      cases c.isComment with
      | false => rfl
      | true => rfl
  rw [hcontent]
  refine .flatMap fun c hc ↦ ?_
  by_cases htype : c.type = "modifiers"
  · rw [hmodifiers c htype, ite_self]
    exact .nil
  · split_ifs with hskip hcomment hcomment
    · exact .nil
    · exact absurd hskip (not_or.2 ⟨htype, hcomment⟩)
    · exact .nil
    · exact hpart c hc htype

theorem typeDeclaration (kind : Kind) :
    Follows s.source (declarationDetour Cst.rows row) [s.typeDeclaration kind row] := by
  refine h.declaration kind (otherParts (fun c htype ↦ if_pos htype) fun c hc htype ↦ ?_)
  rw [if_neg htype]
  split_ifs
  · exact (h.child hc).clause _ _
  · exact (h.child hc).clause _ _
  · exact (h.child hc).outlines

/-! ## Variables -/

omit h in
theorem separator (i : Nat) :
    Follows s.source (row.children.filter fun c ↦ c.type ∈ [",", ";"])[i]?.toList
      (s.separators row)[i]?.toList := by
  rw [separators_eq_map, List.getElem?_map, Option.toList_map]
  cases (row.children.filter fun c ↦ c.type ∈ [",", ";"])[i]? with
  | none => exact .nil
  | some c =>
    rw [Option.toList_some, List.map_singleton]
    split_ifs
    · exact .leaf _
    · exact .leaf _

theorem initializer (d : Cst) :
    Follows s.source ((d.children.find? fun c ↦ c.type = "=").getD row :: row.rows)
      [s.initializer d row] := by
  refine .above rfl ?_
  change Follows s.source row.rows [_]
  split_ifs
  · exact h.arrayInitializer
  · exact h.expr

/-- The type of a declaration, in the place of a field, with dimensions that follow elsewhere. -/
theorem typeField (dimensions : Option Cst) :
    Follows s.source ((row.field? "type").toList.flatMap (typeDetour dimensions))
      ((row.field? "type").toList.map fun c ↦ s.typeSpec c dimensions) :=
  .map fun _ hc ↦ (h.child (field?_children_subset _ hc)).typeSpec dimensions

theorem variableDef {d : Cst} (hd : d ∈ declarators row) {rows : List Cst}
    {terminator : Option Outline} (hterminator : Follows s.source rows terminator.toList) :
    Follows s.source (variableDetour row d ++ rows) [s.variableDef row d terminator] := by
  have hvalue : Follows s.source ((d.field? "value").toList.flatMap fun c ↦
      (d.children.find? fun e ↦ e.type = "=").getD c :: c.rows)
      ((d.field? "value").toList.map (s.initializer d)) :=
    .map fun c hc ↦ ((h.child (List.mem_filter.1 hd).1).child
      (field?_children_subset _ hc)).initializer d
  exact .above rfl ((((h.modifiersOf.append (h.typeField _)).append (.mapLeaf _ _)).append
    hvalue).append hterminator)

theorem field : Follows s.source (variablesDetour row) (s.field row) := by
  refine .map ?_
  rintro ⟨d, i⟩ hp
  exact h.variableDef (List.fst_mem_of_mem_zipIdx hp) (separator i)

theorem localVariable : Follows s.source (variablesDetour row) (s.localVariable row) := by
  refine .flatMap ?_
  rintro ⟨d, i⟩ hp
  have hvariable : Follows s.source (variableDetour row d ++ []) [s.variableDef row d none] :=
    h.variableDef (List.fst_mem_of_mem_zipIdx hp) .nil
  rw [List.append_nil] at hvariable
  exact hvariable.append (separator i)

/-! ## Methods -/

theorem throwsClause : Follows s.source row.rows [s.throwsClause row] :=
  (h.filtered _).node_rows .throwsClause "throws"

theorem method : Follows s.source (declarationDetour Cst.rows row) [s.method row] := by
  refine h.declaration .methodDef (.flatMap_zipIdx fun c hc i ↦ ?_)
  dsimp only
  split_ifs
  · exact .nil
  · exact (h.child hc).typeSpec_none
  · exact .leaf_rows _
  · exact (h.child hc).throwsClause
  · exact .nil
  · exact (h.child hc).outlines

theorem constructor : Follows s.source (declarationDetour Cst.rows row) [s.constructor row] := by
  refine h.declaration .ctorDef (otherParts (fun c htype ↦ if_pos htype) fun c hc htype ↦ ?_)
  rw [if_neg htype]
  split_ifs
  · exact (h.child hc).throwsClause
  · exact (h.child hc).outlines

omit h in
theorem rows_sublist_typeDetour (dimensions : Option Cst) :
    row.rows.Sublist (typeDetour dimensions row) :=
  ((List.sublist_append_right _ _).trans (List.sublist_append_left _ _)).cons row

omit h in
theorem field?_sublist (field : String) : (row.field? field).toList.Sublist row.children := by
  cases hfield : row.field? field with
  | none => exact List.nil_sublist _
  | some c => exact List.singleton_sublist.2 (mem_children_of_field? hfield)

theorem parameter (htype : row.type ∈ ["formal_parameter", "spread_parameter"]) :
    Follows s.source row.rows [s.parameter row] := by
  refine h.follows_of_detour ?_
  rw [detour, Construct.ofType_of_parameter htype]
  dsimp only
  rw [if_pos htype]
  refine h.declaration .parameterDef (.flatMap_zipIdx fun c hc i ↦ ?_)
  dsimp only
  by_cases hskip : c.type = "modifiers" ∨ c.isComment
  · rw [if_pos hskip, if_pos hskip]
    exact .nil
  rw [if_neg hskip, if_neg hskip]
  by_cases htype : c.type ∈ typeReferences ∧
      (row.fieldPlace? "type" = none ∨ row.fieldPlace? "type" = some i)
  · rw [if_pos htype, if_pos htype.1]
    exact (h.child hc).typeSpec _
  rw [if_neg htype]
  refine Follows.of_sublist (?_ : Follows s.source c.rows _) ?_
  · split_ifs
    · exact .leaf_rows _
    · exact .of_children (.map fun d _ ↦ .leaf_rows _) (field?_sublist _)
    · exact .nil
    · exact (h.child hc).outlines
  · split_ifs
    · exact rows_sublist_typeDetour _
    · exact .refl _

theorem parameters : Follows s.source (listDetour row) (s.parameters row) := by
  refine list .parameters (getLast?_sublist _) (getLast?_sublist _) (fun c htype ↦ if_pos htype)
    fun c hc ↦ ?_
  split_ifs with _ htype
  · exact .nil
  · exact (h.child hc).parameter htype
  · exact (h.child hc).outlines

/-! ## Statements -/

theorem expressionStatement : Follows s.source row.rows (s.expressionStatement row) := by
  refine .of_children (.map fun c hc ↦ ?_) List.filter_sublist
  split_ifs
  · exact .leaf_rows _
  · exact (h.child (mem_children_of_mem_content hc)).expr

theorem statementPart : Follows s.source row.rows (s.statementPart row) := by
  rw [Shaper.statementPart]
  split_ifs
  · exact h.parenthesized true
  · exact h.outlines
  · exact h.expr

/-- What stands behind an `else` comes below it, and so it stays behind it. -/
theorem statementParts {cs : List Cst} (hcs : cs ⊆ row.children) :
    Follows s.source (cs.flatMap Cst.rows) (s.statementParts cs) := by
  fun_induction Shaper.statementParts s cs with
  | case1 => exact .nil
  | case2 c rest _ own ih =>
    have hrest := (List.cons_subset.1 hcs).2
    have hown : Follows s.source (c.rows ++ own.flatMap Cst.rows)
        [s.node .literalElse c "else" (own.flatMap s.statementPart)] := by
      rw [rows_eq, List.cons_append]
      refine .above rfl (Follows.of_sublist (.flatMap fun d hd ↦ ?_)
        (List.sublist_append_right _ _))
      exact (h.child (hrest ((List.takeWhile_prefix _).subset hd))).statementPart
    have hsplit : (c :: rest).flatMap Cst.rows = c.rows ++ own.flatMap Cst.rows ++
        (rest.dropWhile fun d ↦ d.type ≠ "else").flatMap Cst.rows := by
      rw [List.flatMap_cons, List.append_assoc, ← List.flatMap_append,
        List.takeWhile_append_dropWhile]
    rw [hsplit]
    exact hown.append (ih (List.Subset.trans (List.dropWhile_suffix _).subset hrest))
  | case3 c rest _ ih =>
    obtain ⟨hc, hrest⟩ := List.cons_subset.1 hcs
    exact (h.child hc).statementPart.append (ih hrest)

theorem keywordStatement : Follows s.source row.rows (s.keywordStatement row) := by
  rw [Shaper.keywordStatement]
  split
  · exact .nil
  · next keyword parts hcontent =>
    have hparts : parts.Sublist row.children :=
      (List.sublist_cons_self keyword parts).trans (hcontent ▸ List.filter_sublist)
    exact ((h.statementParts hparts.subset).of_children hparts).node_rows _ _

theorem enhancedFor : Follows s.source (loopDetour row) [s.enhancedFor row] := by
  refine .above rfl (.append (.flatMap fun c hc ↦ ?_) (h.convertField "body"))
  split_ifs
  · -- The clause and its variable stand at the loop, behind the parenthesis.
    refine .append (.leaf _) (.node rfl (.append (.append (.above rfl ?_) (.mapLeaf _ _))
      (h.exprField "value")))
    exact (h.modifiersOf.append (h.typeField _)).append (h.convertField "name")
  · exact .leaf _
  · exact .nil

theorem catchType : Follows s.source row.rows [s.catchType row] := by
  refine .node_rows (.of_children (.flatMap fun c hc ↦ ?_) List.filter_sublist) .type ""
  split_ifs
  · exact .leaf_rows _
  · exact (h.child (mem_children_of_mem_content hc)).parts

theorem catchParameter (htype : row.type = "catch_formal_parameter") :
    Follows s.source row.rows [s.catchParameter row] := by
  have hdetour : detour row = declarationDetour Cst.rows row := by
    rw [detour, htype]
    rfl
  refine h.follows_of_detour ?_
  rw [hdetour]
  refine h.declaration .parameterDef (otherParts (fun c hmodifiers ↦ ?_) fun c hc _ ↦ ?_)
  · rw [hmodifiers]
    rfl
  · split_ifs
    · exact (h.child hc).catchType
    · exact .leaf_rows _
    · exact (h.child hc).outlines

theorem catchClause : Follows s.source row.rows [s.catchClause row] := by
  refine .node_rows (.of_children (.flatMap fun c hc ↦ ?_) (.refl _)) .literalCatch "catch"
  split_ifs with _ htype
  · exact .nil
  · exact (h.child hc).catchParameter htype
  · exact (h.child hc).outlines

theorem switchLabel : Follows s.source row.rows [s.switchLabel row] := by
  refine .node_rows (.of_children (.flatMap fun c hc ↦ ?_) List.filter_sublist) _ _
  have hc := mem_children_of_mem_content hc
  split_ifs
  · exact .nil
  · exact (h.child hc).expr
  · exact (h.child hc).outlines

theorem constructorCall : Follows s.source row.rows [s.constructorCall row] := by
  refine .node_rows (.of_children (.flatMap fun c hc ↦ ?_) List.filter_sublist) _ ""
  have hc := mem_children_of_mem_content hc
  split_ifs with _ htype
  · exact .nil
  · exact (h.child hc).arguments (by rw [htype]; rfl) true
  · exact (h.child hc).outlines

end Row

end LintMark.Java.Shaper.Orderly

import LintMark.Proofs.Java.Lines

/-!
# The lines of types and expressions

Where a rule reads the rows below as they stand, its outlines follow the row with all rows below it.
Where it makes a detour, they follow the detour.
-/

namespace LintMark.Java.Shaper.Orderly

open Cst Outline

variable {s : Shaper} {row c : Cst} {os : List Outline}

/-! ## Rows below -/

section Row

variable (h : s.Orderly row)

include h

theorem outlines : Follows s.source row.rows (s.convert row) := h.convert row row.mem_rows_self

theorem parts : Follows s.source row.rows (s.typeParts row) := h.typeParts row row.mem_rows_self

theorem convertAll {cs : List Cst} (hcs : cs ⊆ row.children) :
    Follows s.source (cs.flatMap Cst.rows) (s.convertAll cs) :=
  .flatMap fun _ hc ↦ (h.child (hcs hc)).outlines

theorem convertField (field : String) :
    Follows s.source ((row.field? field).toList.flatMap Cst.rows)
      ((row.field? field).toList.flatMap s.convert) :=
  h.convertAll (field?_children_subset field)

theorem expr : Follows s.source row.rows [s.expr row] := h.outlines.node_rows .expr ""

theorem exprField (field : String) :
    Follows s.source ((row.field? field).toList.flatMap Cst.rows)
      ((row.field? field).toList.map s.expr) :=
  .map fun _ hc ↦ (h.child (field?_children_subset field hc)).expr

theorem children : Follows s.source row.rows (s.convertAll row.children) :=
  (h.convertAll (List.Subset.refl _)).of_children (.refl _)

theorem modifiers : Follows s.source row.rows [s.modifiers row] :=
  h.children.node_rows .modifiers ""

theorem modifiersOf : Follows s.source (modifierDetour row) [s.modifiersOf row] := by
  rw [modifierDetour, Shaper.modifiersOf]
  cases hfind : row.children.find? fun c ↦ c.type = "modifiers" with
  | none => exact .node rfl .nil
  | some c => exact (h.child (List.mem_of_find?_eq_some hfind)).modifiers

theorem generic : Follows s.source row.rows [s.generic row] := by
  rw [Shaper.generic]
  split
  · exact .leaf_rows _
  · exact h.children.node_rows _ ""

/-! ## Types -/

omit h in
/-- Each bracket wraps what the brackets in front of it have made, at its own place. -/
theorem wrapDimensions {rows : List Cst} (hos : Follows s.source rows os)
    (dimensions : Option Cst) :
    Follows s.source ((closingBrackets dimensions).reverse ++ rows ++ closingBrackets dimensions)
      (s.wrapDimensions os dimensions) := by
  rw [wrapDimensions_eq_foldl]
  induction closingBrackets dimensions generalizing rows os with
  | nil => simpa using hos
  | cons c brackets ih =>
    have hlevel : Follows s.source (c :: (rows ++ [c])) (s.bracketed os c) :=
      .above rfl (hos.append (.leaf .rbrack))
    simpa using ih hlevel

theorem typeSpec (dimensions : Option Cst) :
    Follows s.source (typeDetour dimensions row) [s.typeSpec row dimensions] :=
  .above rfl (wrapDimensions h.parts dimensions)

theorem typeSpec_none : Follows s.source row.rows [s.typeSpec row none] :=
  h.parts.node_rows .type ""

theorem wildcard : Follows s.source row.rows [s.wildcard row] := by
  refine .node_rows (.of_children (.flatMap fun c hc ↦ ?_) (.refl _)) .wildcardType "?"
  split_ifs
  · exact .nil
  · exact .node_rows .nil _ _
  · exact (h.child hc).parts

theorem typeArguments : Follows s.source row.rows [s.typeArguments row] := by
  refine .node_rows (.of_children (.flatMap fun c hc ↦ ?_) (.refl _)) .typeArguments ""
  split_ifs
  · exact .leaf_rows _
  · exact .leaf_rows _
  · exact .leaf_rows _
  · exact (h.child hc).wildcard.node_rows _ _
  · exact .nil
  · exact (h.child hc).parts.node_rows _ _

omit h in
theorem primitiveType : Follows s.source row.rows (s.primitiveType row) := .node_rows .nil _ _

theorem scopedType : Follows s.source row.rows (s.scopedType row) :=
  .node_rows ((h.convertAll (List.filter_subset_self _)).of_children List.filter_sublist) .dot "."

theorem genericType : Follows s.source row.rows (s.genericType row) := by
  refine .of_children (.flatMap fun c hc ↦ ?_) (.refl _)
  split_ifs
  · exact (h.child hc).typeArguments
  · exact (h.child hc).outlines

theorem arrayType : Follows s.source (arrayDetour row) (s.arrayType row) := by
  rw [Shaper.arrayType, arrayDetour]
  refine wrapDimensions ?_ _
  cases hfield : row.field? "element" with
  | none => exact .nil
  | some c =>
    rw [Option.toList_some, List.flatMap_singleton]
    exact (h.child (mem_children_of_field? hfield)).parts

/-! ## Calls and objects -/

omit h in
theorem getLast?_sublist (cs : List Cst) : cs.getLast?.toList.Sublist cs := by
  cases hlast : cs.getLast? with
  | none => exact List.nil_sublist _
  | some c => exact List.singleton_sublist.2 (List.mem_of_getLast? hlast)

omit h in
/-- A list in parentheses, whatever its parts are and whichever of its parentheses are kept. -/
theorem list (kind : Kind) {opening closing : List Cst}
    (hopening : opening.Sublist (row.children.filter fun c ↦ c.type = "("))
    (hclosing : closing.Sublist (row.children.filter fun c ↦ c.type = ")"))
    {f : Cst → List Outline} (hskip : ∀ c, c.type ∈ ["(", ")"] → f c = [])
    (hpart : ∀ c ∈ row.children, Follows s.source c.rows (f c)) :
    Follows s.source (listDetour row) (opening.map (s.leaf .lparen) ++
      s.node kind row "" (row.children.flatMap f) :: closing.map (s.leaf .rparen)) := by
  have hmembers : Follows s.source
      (row :: row.children.flatMap fun c ↦ if c.type ∈ ["(", ")"] then [] else c.rows)
      [s.node kind row "" (row.children.flatMap f)] := by
    refine .above rfl (.flatMap fun c hc ↦ ?_)
    split_ifs with htype
    · rw [hskip c htype]
      exact .nil
    · exact hpart c hc
  rw [listDetour, ← List.cons_append]
  exact ((Follows.mapLeaf _ _).of_sublist hopening).append
    (hmembers.append ((Follows.mapLeaf _ _).of_sublist hclosing))

theorem listArguments (withOpening : Bool) :
    Follows s.source (listDetour row) (s.arguments withOpening row) := by
  have hopening : (row.children.filter fun c ↦ withOpening && c.type = "(").Sublist
      (row.children.filter fun c ↦ c.type = "(") := by
    cases withOpening with
    | false => simp
    | true => simp
  rw [Shaper.arguments, Option.toList_map]
  refine list .elist hopening (getLast?_sublist _) (fun c htype ↦ if_pos htype) fun c hc ↦ ?_
  split_ifs
  · exact .nil
  · exact .leaf_rows _
  · exact .nil
  · exact (h.child hc).expr

/-- The arguments of a call, where the row is one of arguments. -/
theorem arguments (hconstruct : Construct.ofType row.type = .arguments) (withOpening : Bool) :
    Follows s.source row.rows (s.arguments withOpening row) := by
  refine h.follows_of_detour ?_
  rw [detour, hconstruct]
  exact h.listArguments withOpening

theorem methodCall : Follows s.source (callDetour row) [s.methodCall row] := by
  have hname := Follows.mapLeaf (s := s) .ident (row.field? "name").toList
  refine .node rfl (Follows.append (?_ : Follows s.source
    (row :: ((row.field? "object").toList.flatMap Cst.rows ++ (row.field? "name").toList)) _) ?_)
  · split
    · next object hobject =>
      rw [hobject, Option.toList_some, List.flatMap_singleton]
      exact .above rfl ((h.child (mem_children_of_field? hobject)).outlines.append hname)
    · exact hname.of_sublist ((List.sublist_append_right _ _).cons row)
  · split
    · next c hc =>
      rw [hc, Option.toList_some, List.flatMap_singleton]
      exact (h.child (mem_children_of_field? hc)).listArguments false
    · exact .of_sublist .nil (List.nil_sublist _)

theorem objectCreation : Follows s.source row.rows [s.objectCreation row] := by
  refine .node_rows (.of_children (.flatMap_zipIdx fun c hc i ↦ ?_) (.refl _)) .literalNew "new"
  dsimp only
  split_ifs with _ _ htype
  · exact .nil
  · exact (h.child hc).parts
  · exact (h.child hc).arguments (by rw [htype]; rfl) true
  · exact (h.child hc).outlines

/-- A length of an array and its brackets. -/
theorem length (htype : row.type = "dimensions_expr") : Follows s.source row.rows
    [s.node .arrayDeclarator row "["
      ((row.children.filter fun c ↦ c.named && !c.isComment).map s.expr ++
        (row.children.filter fun c ↦ c.type = "]").map (s.leaf .rbrack))] := by
  have hdetour : detour row = lengthDetour row := by
    rw [detour, htype]
    rfl
  refine h.follows_of_detour ?_
  rw [hdetour]
  exact .above rfl (.append (.map fun c hc ↦ (h.child (List.mem_filter.1 hc).1).expr)
    (.mapLeaf _ _))

theorem arrayCreation : Follows s.source row.rows [s.arrayCreation row] := by
  refine .node_rows (.of_children (.flatMap fun c hc ↦ ?_) (.refl _)) .literalNew "new"
  split_ifs with _ htype
  · exact .nil
  · exact (h.child hc).length htype
  · exact .of_children (.map fun d _ ↦ .node_rows (.leaf_rows _) _ _) List.filter_sublist
  · exact (h.child hc).outlines

theorem arrayInitializer : Follows s.source row.rows [s.arrayInitializer row] := by
  refine .node_rows (.of_children (.flatMap fun c hc ↦ ?_) (.refl _)) .arrayInit "\x7b"
  split_ifs
  · exact .nil
  · exact .leaf_rows _
  · exact .leaf_rows _
  · exact (h.child hc).outlines
  · exact (h.child hc).expr

/-! ## Operators -/

theorem operands (place : Option Nat) : Follows s.source
    (row.children.zipIdx.flatMap fun (c, i) ↦ if place = some i then [] else c.rows)
    (s.operands row place) := by
  refine .flatMap ?_
  rintro ⟨c, i⟩ hp
  dsimp only
  split_ifs
  · exact .nil
  · exact (h.child (List.fst_mem_of_mem_zipIdx hp)).outlines

theorem operation (kinds : List (String × Kind)) (unsigned : String) (other : Kind) :
    Follows s.source (operationDetour row (operatorPlace? row))
      [s.operation kinds unsigned other row] :=
  .above rfl (h.operands (operatorPlace? row))

theorem unary : Follows s.source row.rows [s.unary row] := by
  refine .node_rows (.of_children (.flatMap_zipIdx fun c hc i ↦ ?_) (.refl _)) _ _
  dsimp only
  split_ifs
  · exact .nil
  · exact (h.child hc).outlines

/-- An increment stands at its sign, which is found by its place. -/
theorem update : Follows s.source (operationDetour row (signPlace? row)) [s.update row] := by
  have hsign : ∀ {c : Cst} {i : Nat},
      (c, i) ∈ row.children.zipIdx.filter (fun (c, _) ↦ !c.isComment) →
      ∀ kind : Kind, Follows s.source (operationDetour row (some i))
        [s.node kind c (s.text c) (s.operands row (some i))] := by
    intro c i hp kind
    have hc : row.children[i]? = some c :=
      List.mem_zipIdx_iff_getElem?.1 (List.mem_filter.1 hp).1
    rw [operationDetour, Option.bind_some, hc, Option.getD_some]
    exact .above rfl (h.operands (some i))
  rw [Shaper.update, signPlace?]
  cases hfirst : (row.children.zipIdx.filter fun (c, _) ↦ !c.isComment).head? with
  | none => exact .above rfl .nil
  | some p =>
    cases hlast : (row.children.zipIdx.filter fun (c, _) ↦ !c.isComment).getLast? with
    | none =>
      rw [List.getLast?_eq_none_iff.1 hlast] at hfirst
      cases hfirst
    | some q =>
      obtain ⟨first, i⟩ := p
      obtain ⟨last, j⟩ := q
      rw [Option.bind_some]
      dsimp only
      cases first.named with
      | false => exact hsign (List.mem_of_head? hfirst) _
      | true => exact hsign (List.mem_of_getLast? hlast) _

/-! ## Other expressions -/

theorem parenthesized (wrap : Bool) : Follows s.source row.rows (s.parenthesized wrap row) := by
  refine .of_children (.flatMap fun c hc ↦ ?_) (.refl _)
  split_ifs
  · exact .leaf_rows _
  · exact .leaf_rows _
  · exact .nil
  · exact (h.child hc).expr
  · exact (h.child hc).outlines

theorem withoutSigns (kind : Kind) (text : String) (signs : List String) :
    Follows s.source row.rows [s.withoutSigns kind text signs row] := by
  have hcontent : (row.content.filter fun c ↦ c.type ∉ signs).Sublist row.children :=
    List.filter_sublist.trans List.filter_sublist
  exact ((h.convertAll hcontent.subset).of_children hcontent).node_rows kind text

theorem arrayAccess : Follows s.source (accessDetour row) [s.arrayAccess row] := by
  refine .above rfl (.append (.append ?_ (h.exprField "index")) (.mapLeaf _ _))
  split
  · next c hc =>
    rw [hc, Option.toList_some, List.flatMap_singleton]
    exact (h.child (mem_children_of_field? hc)).outlines
  · exact .of_sublist .nil (List.nil_sublist _)

theorem cast : Follows s.source row.rows [s.cast row] := by
  refine .node_rows (.of_children (.flatMap_zipIdx fun c hc i ↦ ?_) (.refl _)) .typecast "("
  dsimp only
  split_ifs
  · exact .nil
  · exact .leaf_rows _
  · exact (h.child hc).outlines
  · exact (h.child hc).typeSpec_none
  · exact (h.child hc).outlines

theorem instanceOf : Follows s.source row.rows [s.instanceOf row] := by
  refine .node_rows (.of_children (.flatMap_zipIdx fun c hc i ↦ ?_) (.refl _)) .literalInstanceof
    "instanceof"
  dsimp only
  split_ifs
  · exact .nil
  · exact (h.child hc).typeSpec_none
  · exact (h.child hc).outlines

end Row

end LintMark.Java.Shaper.Orderly

import LintMark.Proofs.Java.Names.Expressions
import LintMark.Proofs.Java.Origin.Statements

/-!
# Names in declarations and statements

A declaration of several variables is shaped once for each declarator, and each time with all of its
modifiers and its type. So what stands in a declarator is kept by the definition of that declarator,
and what stands in front of the declarators by any of the definitions.
-/

namespace LintMark.Java

open Cst

namespace Shaper

variable {s : Shaper} {row c d e : Cst}

/-! ## Files -/

theorem Shows.foldl_importName {name : Option Outline} (h : s.Shows d name.toList) {cs : List Cst}
    (hcs : ∀ c ∈ cs, c.type ∉ importedTypes) : s.Shows d (cs.foldl s.importName name).toList := by
  induction cs generalizing name with
  | nil => exact h
  | cons c cs ih =>
    obtain ⟨hc, hcs⟩ := List.forall_mem_cons.1 hcs
    rw [List.foldl_cons]
    refine ih ?_ hcs
    rw [importName]
    split_ifs with htype
    · exact absurd htype hc
    · exact .node (.left h)
    · exact h

theorem notMem_of_length_filter {α : Type} {p : α → Bool} {front back : List α} {x : α}
    (h : ((front ++ x :: back).filter p).length ≤ 1) (hx : p x = true) :
    ∀ y ∈ back, ¬ p y = true := by
  rw [List.filter_append, List.filter_cons_of_pos hx, List.length_append, List.length_cons] at h
  have hback : back.filter p = [] := List.length_eq_zero_iff.1 (by omega)
  exact List.filter_eq_nil_iff.1 hback

namespace Keeps

variable (h : s.Keeps row d)

include h

/-- An import keeps its name. -/
theorem importDecl (htype : row.type = "import_declaration")
    (hsingle : ∀ c, c.type ∈ importedTypes → (s.convert c).length ≤ 1) (hc : c ∈ row.children)
    (hlost : row.loses c = false) (he : c.Exposes d) : s.Shows d [s.importDecl row] := by
  obtain hname | ⟨field, hfield, -⟩ := h.selected_cases (p := .importDecl) (by decide) .self
    (by rw [htype]; decide) hc hlost he
  swap
  · cases hfield
  have hasks : Asks row c := by
    refine .of_mem_shapedBelow ?_
    rw [shapedBelow, htype]
    exact List.mem_filter.2 ⟨hc, decide_eq_true hname⟩
  have hmem : c ∈ row.children.filter fun c ↦ c.type ≠ "static" := by
    have hstatic : ∀ type ∈ importedTypes, type ≠ "static" := by decide
    exact List.mem_filter.2 ⟨hc, decide_eq_true (hstatic _ hname)⟩
  obtain ⟨front, back, hsplit⟩ := List.append_of_mem hmem
  have hlength : ((front ++ c :: back).filter fun c ↦ c.type ∈ importedTypes).length ≤ 1 := by
    rw [← hsplit]
    exact Nat.le_trans (List.filter_sublist.filter _).length_le
      ((h.regular row row.mem_rows_self).imported htype)
  have hback := notMem_of_length_filter hlength (decide_eq_true hname)
  have hshows := h.convert hasks he
  refine .node (.left ?_)
  rw [hsplit, List.foldl_append, List.foldl_cons]
  refine .foldl_importName ?_ fun b hb htype ↦ hback b hb (decide_eq_true htype)
  have hname' : c.type ∈ ["identifier", "scoped_identifier"] := hname
  rw [importName, if_pos hname']
  have hone := hsingle c hname
  cases hconvert : s.convert c with
  | nil =>
    rw [hconvert] at hshows
    cases hshows
  | cons o os =>
    rw [hconvert] at hone hshows
    have hos : os = [] := List.length_eq_zero_iff.1 (Nat.le_zero.1 (Nat.le_of_succ_le_succ hone))
    rwa [hos] at hshows

section Files

variable (hrow : Within row row) (hc : c ∈ row.children) (he : c.Exposes d)

include hrow hc he

/-- A rule that converts all children but those of a type that is skipped. -/
theorem convertAll_filter {type : String} (htype : type ∈ skippedTypes) :
    s.Shows d (s.convertAll (row.children.filter fun c ↦ c.type ≠ type)) := by
  have hasks := hrow.asks c hc
  exact .convertAll (List.mem_filter.2 ⟨hc, decide_eq_true (h.type_ne hasks.near he htype)⟩)
    (h.convert hasks he)

theorem program : s.Shows d [s.program row] :=
  .of_children (.convertAll hc (h.convert (hrow.asks c hc) he))

theorem package : s.Shows d [s.package row] :=
  .node (h.convertAll_filter hrow hc he (by decide))

end Files

/-! ## Types and variables -/

theorem clause (hc : Within row c) (he : e ∈ c.children) (hexposes : e.Exposes d) {kind : Kind}
    {keyword : String} (hkeyword : keyword ∈ skippedTypes) :
    s.Shows d [s.clause kind keyword c] := by
  have hasks := hc.asks e he
  refine .node (.flatMap he ?_)
  split_ifs with hskipped hlist
  · exact absurd hskipped (h.type_ne hasks.near hexposes hkeyword)
  · have hwithin : Within row e := hc.child he (by rw [hlist]; decide)
    obtain ⟨f, hf, -, hexposes⟩ := h.exists_child hexposes (by rw [hlist]; decide)
    exact .convertAll hf (h.convert (hwithin.asks f hf) hexposes)
  · exact h.convert hasks hexposes

section Types

variable (hrow : Within row row) (hc : c ∈ row.children) (he : c.Exposes d)

include hrow hc he

theorem typeDeclaration (kind : Kind) : s.Shows d [s.typeDeclaration kind row] := by
  have hclauses : ∀ type ∈ ["superclass", "extends_interfaces"],
      type ∉ nameTypes ∧ Construct.ofType type ∈ handedOn := by decide
  have hasks := hrow.asks c hc
  by_cases hmodifiers : c.type = "modifiers"
  · exact .node (.head (h.modifiersOf_within hrow hc hmodifiers he))
  refine .node (.tail (.flatMap (h.mem_content hasks.near hc he) ?_))
  rw [if_neg hmodifiers]
  split_ifs with hextends himplements
  · obtain ⟨hname, hconstruct⟩ := hclauses _ hextends
    obtain ⟨e, hmem, -, hexposes⟩ := h.exists_child he hname
    exact h.clause (hrow.child hc hconstruct) hmem hexposes (by decide)
  · obtain ⟨e, hmem, -, hexposes⟩ := h.exists_child he (by rw [himplements]; decide)
    exact h.clause (hrow.child hc (by rw [himplements]; decide)) hmem hexposes (by decide)
  · exact h.convert hasks he

theorem typeBody : s.Shows d [s.typeBody row] :=
  .node (.convertAll hc (h.convert (hrow.asks c hc) he))

end Types

theorem initializer {declarator value : Cst} (hvalue : Asks row value) (he : value.Exposes d) :
    s.Shows d [s.initializer declarator value] := by
  refine .node ?_
  split_ifs with hlist
  · obtain ⟨e, hmem, -, hexposes⟩ := h.exists_child he (by rw [hlist]; decide)
    exact h.arrayInitializer (.of_asks hvalue (by rw [hlist]; decide)) hmem hexposes
  · exact h.expr hvalue he

section Variables

variable (hconstruct : Construct.ofType row.type ∈ [.field, .localVariable])
  (hc : c ∈ row.children) (hlost : row.loses c = false) (he : c.Exposes d)

include hconstruct he

omit hlost hc in
/-- The definition of a declarator keeps what stands in its name and in its value. -/
theorem variableDef_of_declarator (hd : c ∈ declarators row) (terminator : Option Outline) :
    s.Shows d [s.variableDef row c terminator] := by
  obtain ⟨hmem, htype⟩ := List.mem_filter.1 hd
  have htype : c.type = "variable_declarator" := of_decide_eq_true htype
  have hnear : row.Near c := .child hmem
  obtain ⟨e, hmem, hlost, hexposes⟩ := h.exists_child he (by rw [htype]; decide)
  obtain ⟨field, hfield, hmem⟩ := h.exists_selected (p := .declarator) (by decide) rfl hnear
    (by rw [htype]; decide) hmem hlost hexposes
  refine .node (.left ?_)
  simp only [Selection.declarator, List.mem_cons, List.not_mem_nil, or_false] at hfield
  obtain rfl | rfl := hfield
  · refine .left (.right ?_)
    rw [hmem]
    exact .of_isAtomic hexposes
      ((h.regular c hnear.mem_rows).name (by rw [htype]; decide) e hmem)
  · refine .right ?_
    rw [hmem]
    refine h.initializer ?_ hexposes
    refine Accounts.asks_of_declarator hconstruct hd e (List.mem_append_right _ ?_)
    exact List.mem_filterMap.2 ⟨"value", List.mem_singleton_self _, hmem⟩

include hc hlost

/-- Every definition of a declaration keeps what stands in front of the declarators. -/
theorem variableDef_of_type_ne (htype : c.type ≠ "variable_declarator") {v : Cst}
    (hv : v ∈ declarators row) (terminator : Option Outline) :
    s.Shows d [s.variableDef row v terminator] := by
  have hasks := Accounts.asks_of_declarator hconstruct hv
  have hrowType : row.type ∈
      ["field_declaration", "constant_declaration", "local_variable_declaration"] := by
    simp only [List.mem_cons, List.not_mem_nil, or_false] at hconstruct
    obtain hconstruct | hconstruct := hconstruct
    · exact Construct.type_mem_of_ofType hconstruct (by decide)
    · exact Construct.type_mem_of_ofType hconstruct (by decide)
  obtain hselected | ⟨field, hfield, hmem⟩ := h.selected_cases (p := .declaration) (by decide) .self
    hrowType hc hlost he
  · have hmodifiers : c.type = "modifiers" := by
      simp only [Selection.declaration, List.mem_cons, List.not_mem_nil, or_false] at hselected
      exact hselected.resolve_right htype
    have hfind := h.find?_modifiers .self hc hmodifiers
    refine .node (.left (.left (.left (.head ?_))))
    refine h.modifiersOf .self hc hmodifiers ⟨.child hc, fun e he ↦ hasks e ?_⟩ he
    rw [modifierParts_of_find? hfind]
    exact List.mem_append_left _ (List.mem_append_left _ he)
  · obtain rfl := List.mem_singleton.1 hfield
    refine .node (.left (.left (.left (.tail ?_))))
    rw [hmem]
    refine .typeSpec (h.typeParts (hasks c ?_) he) _
    refine List.mem_append_left _ (List.mem_append_right _ ?_)
    exact List.mem_filterMap.2 ⟨"type", List.mem_singleton_self _, hmem⟩

/-- Some definition of a declaration keeps the name, whatever stands behind the definition. -/
theorem exists_variableDef : ∃ v ∈ declarators row, ∀ terminator,
    s.Shows d [s.variableDef row v terminator] := by
  by_cases htype : c.type = "variable_declarator"
  · have hd : c ∈ declarators row := List.mem_filter.2 ⟨hc, decide_eq_true htype⟩
    exact ⟨c, hd, h.variableDef_of_declarator hconstruct he hd⟩
  · obtain ⟨v, hv⟩ := List.exists_mem_of_ne_nil _
      ((h.regular row row.mem_rows_self).declared hconstruct)
    exact ⟨v, hv, h.variableDef_of_type_ne hconstruct hc hlost he htype hv⟩

theorem field : s.Shows d (s.field row) := by
  obtain ⟨v, hv, hshows⟩ := h.exists_variableDef hconstruct hc hlost he
  obtain ⟨i, hi⟩ := exists_mem_zipIdx hv
  exact .map hi (hshows _)

theorem localVariable : s.Shows d (s.localVariable row) := by
  obtain ⟨v, hv, hshows⟩ := h.exists_variableDef hconstruct hc hlost he
  obtain ⟨i, hi⟩ := exists_mem_zipIdx hv
  exact .flatMap hi (.head (hshows _))

end Variables

/-! ## Methods -/

theorem throwsClause (hc : Within row c) (htype : c.type = "throws") (he : c.Exposes d) :
    s.Shows d [s.throwsClause c] := by
  obtain ⟨e, hmem, -, hexposes⟩ := h.exists_child he (by rw [htype]; decide)
  refine .node (.convertAll (List.mem_filter.2 ⟨hmem, decide_eq_true fun hword ↦ ?_⟩)
    (h.convert (hc.asks e hmem) hexposes))
  have hmute := (h.regular c hc.near.mem_rows).throws htype e hmem hword
  rw [h.isMute_eq_false hexposes] at hmute
  cases hmute

/-- A method keeps all names but those between the brackets behind its parameters. -/
theorem method (hrow : Within row row) (htype : row.type = "method_declaration")
    (hc : c ∈ row.children) (hlost : row.loses c = false) (he : c.Exposes d) :
    s.Shows d [s.method row] := by
  have hasks := hrow.asks c hc
  by_cases hmodifiers : c.type = "modifiers"
  · exact .node (.head (h.modifiersOf_within hrow hc hmodifiers he))
  obtain ⟨i, hi⟩ := exists_mem_zipIdx hc
  refine .node (.tail (.flatMap hi ?_))
  dsimp only
  split_ifs with hskipped htypePlace hname hthrows hdimensions
  · exact absurd hskipped (not_or.2 ⟨hmodifiers, h.not_comment hasks.near he⟩)
  · exact .typeSpec (h.typeParts hasks he) none
  · exact .of_identifier he hname
  · exact h.throwsClause (hrow.child hc (by rw [hthrows]; decide)) hthrows he
  · rw [loses, htype, hdimensions] at hlost
    cases hlost
  · exact h.convert hasks he

theorem constructor (hrow : Within row row) (hc : c ∈ row.children) (he : c.Exposes d) :
    s.Shows d [s.constructor row] := by
  have hasks := hrow.asks c hc
  by_cases hmodifiers : c.type = "modifiers"
  · exact .node (.head (h.modifiersOf_within hrow hc hmodifiers he))
  refine .node (.tail (.flatMap (h.mem_content hasks.near hc he) ?_))
  rw [if_neg hmodifiers]
  split_ifs with hthrows
  · exact h.throwsClause (hrow.child hc (by rw [hthrows]; decide)) hthrows he
  · exact h.convert hasks he

/-- A parameter keeps all names but those between the brackets behind its own. -/
theorem parameter (hc : Within row c) (htype : c.type ∈ parameterTypes) (he : e ∈ c.children)
    (hlost : c.loses e = false) (hexposes : e.Exposes d) : s.Shows d [s.parameter c] := by
  have hasks := hc.asks e he
  by_cases hmodifiers : e.type = "modifiers"
  · exact .node (.head (h.modifiersOf_within hc he hmodifiers hexposes))
  obtain ⟨i, hi⟩ := exists_mem_zipIdx he
  refine .node (.tail (.flatMap hi ?_))
  dsimp only
  split_ifs with hskipped htypePlace hname hdeclarator hdimensions
  · exact absurd hskipped (not_or.2 ⟨hmodifiers, h.not_comment hasks.near hexposes⟩)
  · exact .typeSpec (h.typeParts hasks hexposes) _
  · exact .of_identifier hexposes hname
  · have hdeclarators : e ∈ declarators c :=
      List.mem_filter.2 ⟨he, decide_eq_true hdeclarator⟩
    obtain ⟨f, hmem, hlost, hexposes⟩ := h.exists_child hexposes (by rw [hdeclarator]; decide)
    obtain ⟨field, hfield, hmem⟩ := h.exists_selected (p := .declarator) (by decide) rfl
      hasks.near (by rw [hdeclarator]; decide) hmem hlost hexposes
    simp only [Selection.declarator, List.mem_cons, List.not_mem_nil, or_false] at hfield
    obtain rfl | rfl := hfield
    · rw [hmem]
      exact .of_isAtomic hexposes
        ((h.regular e hasks.near.mem_rows).name (by rw [hdeclarator]; decide) f hmem)
    · rw [(h.regular c hc.near.mem_rows).parameter htype e hdeclarators] at hmem
      cases hmem
  · have hbare : ∀ type ∈ parameterTypes, type ∈ bareDimensions := by decide
    rw [loses, decide_eq_true hdimensions, decide_eq_true (hbare _ htype), Bool.and_true,
      Bool.or_true] at hlost
    cases hlost
  · exact h.convert hasks hexposes

section Lists

variable (hrow : Within row row) (hc : c ∈ row.children) (he : c.Exposes d)

include hrow hc he

theorem parameters : s.Shows d (s.parameters row) := by
  have hparameters : ∀ type ∈ parameterTypes,
      type ∉ nameTypes ∧ Construct.ofType type ∈ handedOn := by decide
  have hasks := hrow.asks c hc
  refine .right (.head (.node (.flatMap hc ?_)))
  split_ifs with hparenthesis htype
  · exact absurd hparenthesis (h.not_skipped hasks.near he (by decide))
  · obtain ⟨hname, hconstruct⟩ := hparameters _ htype
    obtain ⟨e, hmem, hlost, hexposes⟩ := h.exists_child he hname
    exact h.parameter (hrow.child hc hconstruct) htype hmem hlost hexposes
  · exact h.convert hasks he

/-! ## Statements -/

theorem block : s.Shows d [s.block row] :=
  .node (h.convertAll_filter hrow hc he (by decide))

theorem expressionStatement : s.Shows d (s.expressionStatement row) := by
  have hasks := hrow.asks c hc
  refine .map (h.mem_content hasks.near hc he) ?_
  rw [if_neg (h.type_ne hasks.near he (by decide))]
  exact h.expr hasks he

end Lists

theorem statementPart (hc : Asks row c) (he : c.Exposes d) : s.Shows d (s.statementPart c) := by
  rw [Shaper.statementPart]
  split_ifs with htype
  · obtain ⟨e, hmem, -, hexposes⟩ := h.exists_child he (by rw [htype]; decide)
    exact h.parenthesized (.of_asks hc (by rw [htype]; decide)) hmem hexposes true
  · exact h.convert hc he
  · exact h.expr hc he

/-- What follows an `else` is parted by the next one, and each half keeps its names. -/
theorem statementParts {cs : List Cst} (hcs : ∀ c ∈ cs, Asks row c) (hc : c ∈ cs)
    (he : c.Exposes d) : s.Shows d (s.statementParts cs) := by
  fun_induction Shaper.statementParts s cs with
  | case1 => cases hc
  | case2 keyword rest htype own ih =>
    obtain ⟨hkeyword, hrest⟩ := List.forall_mem_cons.1 hcs
    obtain rfl | hc := List.mem_cons.1 hc
    · exact absurd htype (h.type_ne hkeyword.near he (by decide))
    rw [← List.takeWhile_append_dropWhile (p := fun d : Cst ↦ decide (d.type ≠ "else")) (l := rest),
      List.mem_append] at hc
    obtain hc | hc := hc
    · have hasks := hrest c ((List.takeWhile_prefix _).subset hc)
      exact .head (.node (.flatMap hc (h.statementPart hasks he)))
    · exact .tail (ih (fun d hd ↦ hrest d ((List.dropWhile_suffix _).subset hd)) hc)
  | case3 part rest htype ih =>
    obtain ⟨hpart, hrest⟩ := List.forall_mem_cons.1 hcs
    obtain rfl | hc := List.mem_cons.1 hc
    · exact .left (h.statementPart hpart he)
    · exact .right (ih hrest hc)

/-- The keyword in front is no name, and the statement keeps the names behind it. -/
theorem keywordStatement (hconstruct : Construct.ofType row.type = .keywordStatement)
    (hc : c ∈ row.children) (he : c.Exposes d) : s.Shows d (s.keywordStatement row) := by
  have hmem := h.mem_content (.child hc) hc he
  rw [Shaper.keywordStatement]
  split
  · next hcontent =>
    rw [hcontent] at hmem
    cases hmem
  · next keyword parts hcontent =>
    have hasks : ∀ c ∈ parts, Asks row c := by
      intro c hc
      refine .of_mem_shapedBelow ?_
      rw [shapedBelow, hconstruct]
      rwa [hcontent]
    rw [hcontent] at hmem
    obtain rfl | hmem := List.mem_cons.1 hmem
    · have hmute := (h.regular row row.mem_rows_self).keyword hconstruct c (by rw [hcontent]; rfl)
      rw [h.isMute_eq_false he] at hmute
      cases hmute
    · exact .node (h.statementParts hasks hmem he)

/-- A loop keeps the names in its variable, in what it runs over and in its body. The first two
stand behind the parenthesis that opens the head. -/
theorem enhancedFor (htype : row.type = "enhanced_for_statement") (hc : c ∈ row.children)
    (hlost : row.loses c = false) (he : c.Exposes d) : s.Shows d [s.enhancedFor row] := by
  have hasks : ∀ c ∈ modifierParts row ++ inFields row ["type", "name", "value", "body"],
      Asks row c := by
    intro c hc
    refine .of_mem_shapedBelow ?_
    rw [shapedBelow, htype]
    exact hc
  obtain ⟨opening, hopening, hsign⟩ := (h.regular row row.mem_rows_self).opening htype
  have hhead : ∀ {clause : Outline}, s.Shows d [clause] → s.Shows d (row.children.flatMap fun c ↦
      if c.type = "(" then [s.leaf .lparen c, clause]
      else if c.type = ")" then [s.leaf .rparen c]
      else []) := by
    intro clause hclause
    refine .flatMap hopening ?_
    rw [if_pos hsign]
    exact .tail hclause
  obtain hmodifiers | ⟨field, hfield, hmem⟩ := h.selected_cases (p := .enhancedFor) (by decide)
    .self (by rw [htype]; decide) hc hlost he
  · have hmodifiers := List.mem_singleton.1 hmodifiers
    have hfind := h.find?_modifiers .self hc hmodifiers
    refine .node (.left (hhead (.node (.head (.node (.left (.head ?_)))))))
    refine h.modifiersOf .self hc hmodifiers ⟨.child hc, fun e he ↦ hasks e ?_⟩ he
    rw [modifierParts_of_find? hfind]
    exact List.mem_append_left _ he
  have hasks : Asks row c :=
    hasks c (List.mem_append_right _ (List.mem_filterMap.2 ⟨field, hfield, hmem⟩))
  simp only [Selection.enhancedFor, List.mem_cons, List.not_mem_nil, or_false] at hfield
  obtain rfl | rfl | rfl | rfl := hfield
  · refine .node (.left (hhead (.node (.head (.node (.left (.tail ?_)))))))
    rw [hmem]
    exact .typeSpec (h.typeParts hasks he) _
  · refine .node (.left (hhead (.node (.head (.node (.right ?_))))))
    rw [hmem]
    exact .left (h.convert hasks he)
  · refine .node (.left (hhead (.node (.right ?_))))
    rw [hmem]
    exact h.expr hasks he
  · refine .node (.right ?_)
    rw [hmem]
    exact .left (h.convert hasks he)

/-! ## Clauses and labels -/

theorem catchType (hc : Within row c) (he : e ∈ c.children) (hexposes : e.Exposes d) :
    s.Shows d [s.catchType c] := by
  have hasks := hc.asks e he
  refine .node (.flatMap (h.mem_content hasks.near he hexposes) ?_)
  rw [if_neg (h.type_ne hasks.near hexposes (by decide))]
  exact h.typeParts hasks hexposes

theorem catchParameter (hc : Within row c) (he : e ∈ c.children) (hexposes : e.Exposes d) :
    s.Shows d [s.catchParameter c] := by
  have hasks := hc.asks e he
  by_cases hmodifiers : e.type = "modifiers"
  · exact .node (.head (h.modifiersOf_within hc he hmodifiers hexposes))
  refine .node (.tail (.flatMap (h.mem_content hasks.near he hexposes) ?_))
  split_ifs with htype hname
  · obtain ⟨f, hmem, -, hexposes⟩ := h.exists_child hexposes (by rw [htype]; decide)
    exact h.catchType (hc.child he (by rw [htype]; decide)) hmem hexposes
  · exact .of_identifier hexposes hname
  · exact h.convert hasks hexposes

section Clauses

variable (hrow : Within row row) (hc : c ∈ row.children) (he : c.Exposes d)

include hrow hc he

theorem catchClause : s.Shows d [s.catchClause row] := by
  have hasks := hrow.asks c hc
  refine .node (.flatMap hc ?_)
  split_ifs with hkeyword htype
  · exact absurd hkeyword (h.type_ne hasks.near he (by decide))
  · obtain ⟨e, hmem, -, hexposes⟩ := h.exists_child he (by rw [htype]; decide)
    exact h.catchParameter (hrow.child hc (by rw [htype]; decide)) hmem hexposes
  · exact h.convert hasks he

theorem finallyClause : s.Shows d [s.finallyClause row] :=
  .node (h.convertAll_filter hrow hc he (by decide))

theorem switchLabel : s.Shows d [s.switchLabel row] := by
  have hasks := hrow.asks c hc
  refine .node (.flatMap (h.mem_content hasks.near hc he) ?_)
  rw [if_neg (h.not_skipped hasks.near he (by decide)), if_pos (h.named hasks.near he)]
  exact h.expr hasks he

theorem constructorCall : s.Shows d [s.constructorCall row] := by
  have hasks := hrow.asks c hc
  refine .node (.flatMap (h.mem_content hasks.near hc he) ?_)
  split_ifs with hkeyword htype
  · exact absurd hkeyword (h.not_skipped hasks.near he (by decide))
  · exact h.arguments_of_exposes (hrow.child hc (by rw [htype]; decide)) htype he true
  · exact h.convert hasks he

end Clauses

end Keeps

end Shaper

end LintMark.Java

import LintMark.Proofs.Java.Origin.Expressions

/-!
# Where declarations and statements come from

The rules of declarations make one node of a kind that matters for each declaration, and so do the
rules that loops, catch clauses and parameter lists have for the variables that they declare. Blocks
and the bodies of types make the lists of statements and members.
-/

namespace LintMark.Java.Shaper.Accounts

open Cst

variable {s : Shaper} {row c : Cst}

/-! ## Files -/

theorem importName {name : Option Outline} (hname : Accounts s row name.toList)
    (hc : c ∈ row.children)
    (hasks : c.type ∈ ["identifier", "scoped_identifier"] → Asks row c) :
    Accounts s row (s.importName name c).toList := by
  rw [Shaper.importName]
  split_ifs with htype
  · exact (convert (hasks htype)).of_subset
      fun _ ho ↦ List.mem_of_head? (Option.mem_toList.1 ho)
  · exact node (by decide) (.child hc) (hname.append (leaf (by decide) (.child hc))) "."
  · exact hname

theorem importDecl (hconstruct : Construct.ofType row.type = .importDecl) :
    Accounts s row [s.importDecl row] := by
  have hasks : ∀ c ∈ row.children, c.type ∈ ["identifier", "scoped_identifier"] → Asks row c := by
    intro c hc htype
    refine .of_mem_shapedBelow ?_
    rw [shapedBelow, hconstruct]
    exact List.mem_filter.2 ⟨hc, decide_eq_true htype⟩
  have hname : ∀ cs ⊆ row.children, ∀ name : Option Outline, Accounts s row name.toList →
      Accounts s row (cs.foldl s.importName name).toList := by
    intro cs hcs
    induction cs with
    | nil => exact fun _ hname ↦ hname
    | cons c cs ih =>
      intro name hname
      have hc := hcs List.mem_cons_self
      exact ih (List.subset_of_cons_subset hcs) _ (importName hname hc (hasks c hc))
  refine node ?_ .self ((hname _ (List.filter_subset_self _) none nil).append
    (mapLeaf (by decide) fun c hc ↦ .child (List.mem_filter.1 hc).1)) "import"
  split
  · decide
  · decide

variable (hrow : Within row row)

section Files

include hrow

theorem program : Accounts s row [s.program row] := by
  intro o ho
  obtain rfl := List.mem_singleton.1 ho
  exact .own (.other (by decide : Kind.compilationUnit ∉ Kind.structural)) (.inl rfl)
    (convertAll hrow.asks)

theorem package : Accounts s row [s.package row] :=
  node (by decide) .self (convertAll fun c hc ↦ hrow.asks c (List.mem_filter.1 hc).1) "package"

end Files

/-! ## Types and variables -/

theorem clause (hc : Within row c) {kind : Kind} (hkind : kind ∉ Kind.structural)
    (keyword : String) : Accounts s row [s.clause kind keyword c] := by
  refine node hkind hc.near (flatMap fun d hd ↦ ?_) keyword
  split_ifs with _ htype
  · exact nil
  · exact convertAll (hc.child hd (by rw [htype]; decide)).asks
  · exact convert (hc.asks d hd)

section Types

include hrow

theorem typeDeclaration {kind : Kind}
    (hconstruct : Construct.ofType row.type = .typeDeclaration kind) :
    Accounts s row [s.typeDeclaration kind row] := by
  refine of_makes (.typeDeclaration kind hconstruct) .self ⟨rfl, rfl⟩
    (cons (modifiersOf_within hrow) (flatMap fun c hc ↦ ?_))
  have hc := mem_children_of_mem_content hc
  split_ifs with _ hextends himplements
  · exact nil
  · have hconstruct := Construct.ofType_of_extendsClause hextends
    exact clause (hrow.child hc (by rw [hconstruct]; decide)) (by decide) _
  · exact clause (hrow.child hc (by rw [himplements]; decide)) (by decide) _
  · exact convert (hrow.asks c hc)

theorem typeBody (hconstruct : Construct.ofType row.type = .typeBody) :
    Accounts s row [s.typeBody row] :=
  of_makes (.typeBody hconstruct) .self ⟨rfl, rfl⟩ (convertAll hrow.asks)

end Types

theorem separators : Accounts s row (s.separators row) := by
  rw [Shaper.separators, List.filterMap_eq_flatMap_toList]
  refine flatMap fun c hc ↦ ?_
  split_ifs
  · exact leaf (by decide) (.child hc)
  · exact leaf (by decide) (.child hc)
  · exact nil

theorem separator (i : Nat) : Accounts s row ((s.separators row)[i]?).toList :=
  separators.of_subset fun _ ho ↦ List.mem_of_getElem? (Option.mem_toList.1 ho)

theorem initializer {d value : Cst} (hd : ∀ c ∈ d.children, row.Near c) (hvalue : Asks row value) :
    Accounts s row [s.initializer d value] := by
  refine node (by decide) ?_ ?_ "="
  · cases hequals : d.children.find? fun c ↦ c.type = "=" with
    | none => exact hvalue.near
    | some c => exact hd c (List.mem_of_find?_eq_some hequals)
  · split_ifs with htype
    · exact arrayInitializer (.of_asks hvalue (by rw [htype]; decide))
    · exact expr hvalue

section Variables

variable (hconstruct : Construct.ofType row.type ∈ [.field, .localVariable])

include hconstruct

/-- A declaration asks for the parts of its modifiers, for its type and for the values of its
declarators. -/
theorem asks_of_declarator {d : Cst} (hd : d ∈ declarators row) :
    ∀ c ∈ modifierParts row ++ inFields row ["type"] ++ inFields d ["value"], Asks row c := by
  intro c hc
  refine .of_mem_shapedBelow ?_
  have hmem := List.mem_flatMap_of_mem
    (f := fun d ↦ modifierParts row ++ inFields row ["type"] ++ inFields d ["value"]) hd hc
  simp only [List.mem_cons, List.not_mem_nil, or_false] at hconstruct
  rw [shapedBelow]
  obtain h | h := hconstruct
  · rw [h]
    exact hmem
  · rw [h]
    exact hmem

theorem variableDef {d : Cst} (hd : d ∈ declarators row) {terminator : Option Outline}
    (hterminator : Accounts s row terminator.toList) :
    Accounts s row [s.variableDef row d terminator] := by
  have hasks := asks_of_declarator hconstruct hd
  obtain ⟨hmem, htype⟩ := List.mem_filter.1 hd
  have hbelow : ∀ c ∈ d.children, row.Near c :=
    fun c hc ↦ .inside (.child hmem) (by rw [of_decide_eq_true htype]; decide) hc
  have hmodifiers : Accounts s row [s.modifiersOf row] :=
    modifiersOf .self
      (fun c hc ↦ hasks c (List.mem_append_left _ (List.mem_append_left _ hc)))
      fun c hc _ ↦ .child hc
  refine of_makes (.variableDef d hd terminator hconstruct) .self ⟨rfl, rfl⟩ ?_
  refine append (append (append (cons hmodifiers (map fun c hc ↦ ?_))
    (mapLeaf (by decide) fun c hc ↦ ?_)) (map fun c hc ↦ ?_)) hterminator
  · refine typeSpec (hasks c ?_) fun e he ↦ hbelow e (mem_children_of_field? he)
    exact List.mem_append_left _ (List.mem_append_right _
      (List.mem_filterMap.2 ⟨"type", List.mem_singleton_self _, Option.mem_toList.1 hc⟩))
  · exact hbelow c (mem_children_of_field? (Option.mem_toList.1 hc))
  · refine initializer hbelow (hasks c (List.mem_append_right _ ?_))
    exact List.mem_filterMap.2 ⟨"value", List.mem_singleton_self _, Option.mem_toList.1 hc⟩

theorem field : Accounts s row (s.field row) := by
  refine map ?_
  rintro ⟨d, i⟩ hp
  exact variableDef hconstruct (List.fst_mem_of_mem_zipIdx hp) (separator i)

theorem localVariable : Accounts s row (s.localVariable row) := by
  refine flatMap ?_
  rintro ⟨d, i⟩ hp
  exact cons (variableDef hconstruct (List.fst_mem_of_mem_zipIdx hp) nil) (separator i)

end Variables

/-! ## Methods -/

theorem throwsClause (hc : Within row c) : Accounts s row [s.throwsClause c] :=
  node (by decide) hc.near (convertAll fun d hd ↦ hc.asks d (List.mem_filter.1 hd).1) "throws"

section Methods

include hrow

theorem method (hconstruct : Construct.ofType row.type = .method) :
    Accounts s row [s.method row] := by
  refine of_makes (.method hconstruct) .self ⟨rfl, rfl⟩
    (cons (modifiersOf_within hrow) (flatMap ?_))
  rintro ⟨c, i⟩ hp
  have hc := List.fst_mem_of_mem_zipIdx hp
  dsimp only
  split_ifs with _ _ _ htype
  · exact nil
  · exact typeSpec (hrow.asks c hc) nofun
  · exact leaf (by decide) (.child hc)
  · exact throwsClause (hrow.child hc (by rw [htype]; decide))
  · exact nil
  · exact convert (hrow.asks c hc)

theorem constructor (hconstruct : Construct.ofType row.type = .constructor) :
    Accounts s row [s.constructor row] := by
  refine of_makes (.constructor hconstruct) .self ⟨rfl, rfl⟩
    (cons (modifiersOf_within hrow) (flatMap fun c hc ↦ ?_))
  have hc := mem_children_of_mem_content hc
  split_ifs with _ htype
  · exact nil
  · exact throwsClause (hrow.child hc (by rw [htype]; decide))
  · exact convert (hrow.asks c hc)

end Methods

theorem parameter (hc : Within row c)
    (htype : c.type ∈ ["formal_parameter", "spread_parameter"]) :
    Accounts s row [s.parameter c] := by
  refine of_makes (.parameter hc htype) hc.near ⟨rfl, rfl⟩
    (cons (modifiersOf_within hc) (flatMap ?_))
  rintro ⟨d, i⟩ hp
  have hd := List.fst_mem_of_mem_zipIdx hp
  have hasks := hc.asks d hd
  dsimp only
  split_ifs with _ _ _ htype
  · exact nil
  · exact typeSpec hasks fun e he ↦ (hc.field he).near
  · exact leaf (by decide) hasks.near
  · refine mapLeaf (by decide) fun e he ↦ ?_
    have hwithin : Within row d := hc.child hd (by rw [htype]; decide)
    exact (hwithin.field (Option.mem_toList.1 he)).near
  · exact nil
  · exact convert hasks

section Parameters

include hrow

theorem parameters : Accounts s row (s.parameters row) := by
  have hsign : ∀ {p : Cst → Bool}, ∀ c ∈ (row.children.filter p).getLast?.toList, row.Near c :=
    fun c hc ↦ .child (List.mem_filter.1 (List.mem_of_getLast? (Option.mem_toList.1 hc))).1
  refine (mapLeaf (by decide) hsign).append
    (cons (node (by decide) .self (flatMap fun c hc ↦ ?_) "") (mapLeaf (by decide) hsign))
  split_ifs with _ htype
  · exact nil
  · exact parameter (hrow.child hc (by rw [Construct.ofType_of_parameter htype]; decide)) htype
  · exact convert (hrow.asks c hc)

end Parameters

/-! ## Statements -/

section Blocks

include hrow

theorem block (hconstruct : Construct.ofType row.type = .block) :
    Accounts s row [s.block row] :=
  of_makes (.block hconstruct) .self ⟨rfl, rfl⟩
    (convertAll fun c hc ↦ hrow.asks c (List.mem_filter.1 hc).1)

theorem expressionStatement : Accounts s row (s.expressionStatement row) := by
  refine map fun c hc ↦ ?_
  have hc := hrow.asks c (mem_children_of_mem_content hc)
  split_ifs
  · exact leaf (by decide) hc.near
  · exact expr hc

end Blocks

theorem statementPart (hc : Asks row c) : Accounts s row (s.statementPart c) := by
  rw [Shaper.statementPart]
  split_ifs with htype
  · exact parenthesized (.of_asks hc (by rw [htype]; decide)) true
  · exact convert hc
  · exact expr hc

theorem statementParts {cs : List Cst} (hcs : ∀ c ∈ cs, Asks row c) :
    Accounts s row (s.statementParts cs) := by
  fun_induction Shaper.statementParts s cs with
  | case1 => exact nil
  | case2 c rest _ own ih =>
    obtain ⟨hc, hrest⟩ := List.forall_mem_cons.1 hcs
    refine cons (node (by decide) hc.near (flatMap fun d hd ↦ ?_) "else") (ih fun d hd ↦ ?_)
    · exact statementPart (hrest d ((List.takeWhile_prefix _).subset hd))
    · exact hrest d ((List.dropWhile_suffix _).subset hd)
  | case3 c rest _ ih =>
    obtain ⟨hc, hrest⟩ := List.forall_mem_cons.1 hcs
    exact (statementPart hc).append (ih hrest)

theorem keywordStatement (hconstruct : Construct.ofType row.type = .keywordStatement) :
    Accounts s row (s.keywordStatement row) := by
  rw [Shaper.keywordStatement]
  split
  · exact nil
  · next keyword parts hcontent =>
    refine node (Kind.keyword_notMem_structural _) .self (statementParts fun c hc ↦ ?_) _
    refine .of_mem_shapedBelow ?_
    rw [shapedBelow, hconstruct]
    rwa [hcontent]

theorem enhancedFor (hconstruct : Construct.ofType row.type = .enhancedFor) :
    Accounts s row [s.enhancedFor row] := by
  have hasks : ∀ c ∈ modifierParts row ++ inFields row ["type", "name", "value", "body"],
      Asks row c := fun c hc ↦ .of_mem_shapedBelow (by rwa [shapedBelow, hconstruct])
  have hfield : ∀ field ∈ ["type", "name", "value", "body"], ∀ c ∈ (row.field? field).toList,
      Asks row c := fun field hfield c hc ↦ hasks c (List.mem_append_right _
    (List.mem_filterMap.2 ⟨field, hfield, Option.mem_toList.1 hc⟩))
  have hmodifiers : Accounts s row [s.modifiersOf row] :=
    modifiersOf .self (fun c hc ↦ hasks c (List.mem_append_left _ hc)) fun c hc _ ↦ .child hc
  refine node (by decide) .self (append (flatMap fun c hc ↦ ?_) (flatMap fun c hc ↦ ?_)) "for"
  · split_ifs
    · refine cons (leaf (by decide) (.child hc))
        (node (by decide) .self (cons ?_ (append ?_ ?_)) "")
      · refine of_makes (.loopVariable hconstruct) .self ⟨rfl, rfl⟩
          (cons hmodifiers (append (map fun d hd ↦ ?_) (flatMap fun d hd ↦ ?_)))
        · exact typeSpec (hfield "type" (by decide) d hd) fun e he ↦ .of_field? he
        · exact convert (hfield "name" (by decide) d hd)
      · exact mapLeaf (by decide) fun d hd ↦ .child (List.mem_filter.1 hd).1
      · exact map fun d hd ↦ expr (hfield "value" (by decide) d hd)
    · exact leaf (by decide) (.child hc)
    · exact nil
  · exact convert (hfield "body" (by decide) c hc)

theorem catchType (hc : Within row c) : Accounts s row [s.catchType c] := by
  refine node (by decide) hc.near (flatMap fun d hd ↦ ?_) ""
  have hd := hc.asks d (mem_children_of_mem_content hd)
  split_ifs
  · exact leaf (by decide) hd.near
  · exact typeParts hd

theorem catchParameter (hc : Within row c) (htype : c.type = "catch_formal_parameter") :
    Accounts s row [s.catchParameter c] := by
  refine of_makes (.catchParameter hc htype) hc.near ⟨rfl, rfl⟩
    (cons (modifiersOf_within hc) (flatMap fun d hd ↦ ?_))
  have hd := mem_children_of_mem_content hd
  split_ifs with htype
  · exact catchType (hc.child hd (by rw [htype]; decide))
  · exact leaf (by decide) (hc.asks d hd).near
  · exact nil
  · exact convert (hc.asks d hd)

include hrow

theorem catchClause : Accounts s row [s.catchClause row] := by
  refine node (by decide) .self (flatMap fun c hc ↦ ?_) "catch"
  split_ifs with _ htype
  · exact nil
  · exact catchParameter (hrow.child hc (by rw [htype]; decide)) htype
  · exact convert (hrow.asks c hc)

theorem finallyClause : Accounts s row [s.finallyClause row] :=
  node (by decide) .self (convertAll fun c hc ↦ hrow.asks c (List.mem_filter.1 hc).1) "finally"

theorem switchLabel : Accounts s row [s.switchLabel row] := by
  refine node ?_ .self (flatMap fun c hc ↦ ?_) _
  · split_ifs
    · decide
    · decide
  · have hc := hrow.asks c (mem_children_of_mem_content hc)
    split_ifs
    · exact nil
    · exact expr hc
    · exact convert hc

theorem constructorCall : Accounts s row [s.constructorCall row] := by
  refine node ?_ .self (flatMap fun c hc ↦ ?_) ""
  · split
    · decide
    · decide
  · have hc := mem_children_of_mem_content hc
    split_ifs with _ htype
    · exact nil
    · exact arguments (hrow.child hc (by rw [htype]; decide)) true
    · exact convert (hrow.asks c hc)

end LintMark.Java.Shaper.Accounts

import LintMark.Proofs.Java.Origin.Source

/-!
# Levels to spare

Shaping counts levels, but the number of levels shows in no outline: a row that fits into some
levels is shaped to the same outlines at all of them (`convertRow_shaper_eq`). This is because a
rule makes no use of its shaper but for the source and for the rows that it asks for, and these fit
into a level less.

There is one lemma for each rule. It says that two shapers of the same source give the same outlines
if they agree about the rows that the row asks for (`SameBelow`).
-/

namespace LintMark.Java

open Cst

namespace Shaper

/-- Two shapers of a source have the same outlines for all rows that a row asks for. -/
structure SameBelow (s s' : Shaper) (row : Cst) : Prop where
  source : s.source = s'.source
  convert : ∀ {c : Cst}, Asks row c → s.convert c = s'.convert c
  typeParts : ∀ {c : Cst}, Asks row c → s.typeParts c = s'.typeParts c

namespace SameBelow

variable {s s' : Shaper} {row c : Cst} (h : s.SameBelow s' row)

include h

/-! ## Parts of rules -/

theorem text : s.text = s'.text := by
  funext c
  rw [Shaper.text, Shaper.text, h.source]

theorem node : @Shaper.node s = @Shaper.node s' := by
  funext kind c text children
  rw [Shaper.node, Shaper.node, h.source]

theorem leaf : s.leaf = s'.leaf := by
  funext kind c
  rw [Shaper.leaf, Shaper.leaf, h.node, h.text]

theorem convertAll {cs : List Cst} (hcs : ∀ c ∈ cs, Asks row c) :
    s.convertAll cs = s'.convertAll cs :=
  List.flatMap_congr fun c hc ↦ h.convert (hcs c hc)

theorem expr (hc : Asks row c) : s.expr c = s'.expr c := by
  rw [Shaper.expr, Shaper.expr, h.node, h.convert hc]

theorem modifiers (hc : Within row c) : s.modifiers c = s'.modifiers c := by
  rw [Shaper.modifiers, Shaper.modifiers, h.node, h.convertAll hc.asks]

theorem modifiersOf (hparts : ∀ d ∈ modifierParts c, Asks row d) :
    s.modifiersOf c = s'.modifiersOf c := by
  rw [Shaper.modifiersOf, Shaper.modifiersOf]
  split
  · next d hd =>
    rw [modifierParts_of_find? hd] at hparts
    rw [Shaper.modifiers, Shaper.modifiers, h.node, h.convertAll hparts]
  · rw [h.node]

theorem generic (hrow : Within row row) : s.generic row = s'.generic row := by
  rw [Shaper.generic, Shaper.generic, h.text, h.leaf, h.node, h.convertAll hrow.asks]

theorem number (short long : Kind) (letters : List Char) :
    s.number short long letters = s'.number short long letters := by
  funext c
  rw [Shaper.number, Shaper.number, h.text, h.leaf]

/-! ## Types -/

theorem wrapDimensions : s.wrapDimensions = s'.wrapDimensions := by
  funext parts dimensions
  cases dimensions with
  | none => rfl
  | some d =>
    rw [Shaper.wrapDimensions, Shaper.wrapDimensions, wrapBrackets, wrapBrackets, h.node, h.leaf]

theorem typeSpec (hc : Asks row c) (dimensions : Option Cst) :
    s.typeSpec c dimensions = s'.typeSpec c dimensions := by
  rw [Shaper.typeSpec, Shaper.typeSpec, h.node, h.wrapDimensions, h.typeParts hc]

theorem wildcard (hc : Within row c) : s.wildcard c = s'.wildcard c := by
  rw [Shaper.wildcard, Shaper.wildcard, h.node]
  refine congrArg (s'.node .wildcardType c "?" ·) (List.flatMap_congr fun d hd ↦ ?_)
  rw [h.typeParts (hc.asks d hd)]

theorem typeArguments (hc : Within row c) : s.typeArguments c = s'.typeArguments c := by
  rw [Shaper.typeArguments, Shaper.typeArguments, h.node, h.leaf]
  refine congrArg (s'.node .typeArguments c "" ·) (List.flatMap_congr fun d hd ↦ ?_)
  rw [h.typeParts (hc.asks d hd)]
  split_ifs with _ _ _ htype
  · rfl
  · rfl
  · rfl
  · rw [h.wildcard (hc.child hd (by rw [htype]; decide))]
  · rfl
  · rfl

theorem primitiveType : s.primitiveType row = s'.primitiveType row := by
  rw [Shaper.primitiveType, Shaper.primitiveType, h.node, h.text]

theorem scopedType (hrow : Within row row) : s.scopedType row = s'.scopedType row := by
  rw [Shaper.scopedType, Shaper.scopedType, h.node,
    h.convertAll fun c hc ↦ hrow.asks c (List.mem_filter.1 hc).1]

theorem genericType (hrow : Within row row) : s.genericType row = s'.genericType row := by
  refine List.flatMap_congr fun c hc ↦ ?_
  split_ifs with htype
  · rw [h.typeArguments (hrow.child hc (by rw [htype]; decide))]
  · exact h.convert (hrow.asks c hc)

theorem arrayType (helement : ∀ c ∈ row.field? "element", Asks row c) :
    s.arrayType row = s'.arrayType row := by
  rw [Shaper.arrayType, Shaper.arrayType, h.wrapDimensions]
  split
  · next element hfield => rw [h.typeParts (helement element hfield)]
  · rfl

/-! ## Expressions -/

theorem arguments (hc : Within row c) (withOpening : Bool) :
    s.arguments withOpening c = s'.arguments withOpening c := by
  rw [Shaper.arguments, Shaper.arguments, h.node, h.leaf]
  refine congrArg (_ ++ s'.node .elist c "" · :: _) (List.flatMap_congr fun d hd ↦ ?_)
  rw [h.expr (hc.asks d hd)]

theorem methodCall (hconstruct : Construct.ofType row.type = .methodCall) :
    s.methodCall row = s'.methodCall row := by
  have hasks : ∀ d ∈ inFields row ["object"] ++ (inFields row ["arguments"]).flatMap Cst.children,
      Asks row d := fun d hd ↦ .of_mem_shapedBelow (by rwa [shapedBelow, hconstruct])
  have hobject : ∀ c, row.field? "object" = some c → Asks row c := fun c hc ↦ hasks c
    (List.mem_append_left _ (List.mem_filterMap.2 ⟨"object", List.mem_singleton_self _, hc⟩))
  have harguments : ∀ c, row.field? "arguments" = some c → Within row c := by
    refine fun c hc ↦ ⟨.of_field? hc, fun d hd ↦ hasks d (List.mem_append_right _ ?_)⟩
    exact List.mem_flatMap.2
      ⟨c, List.mem_filterMap.2 ⟨"arguments", List.mem_singleton_self _, hc⟩, hd⟩
  rw [Shaper.methodCall, Shaper.methodCall, h.node, h.leaf]
  refine congrArg (s'.node .methodCall row "(" ·) (congrArg₂ (· ++ ·) ?_ ?_)
  · split
    · next object hc => rw [h.convert (hobject object hc)]
    · rfl
  · split
    · next c hc => exact h.arguments (harguments c hc) false
    · rfl

theorem objectCreation (hrow : Within row row) :
    s.objectCreation row = s'.objectCreation row := by
  rw [Shaper.objectCreation, Shaper.objectCreation, h.node]
  refine congrArg (s'.node .literalNew row "new" ·) (List.flatMap_congr ?_)
  rintro ⟨c, i⟩ hp
  have hc := List.fst_mem_of_mem_zipIdx hp
  dsimp only
  split_ifs with _ _ htype
  · rfl
  · exact h.typeParts (hrow.asks c hc)
  · exact h.arguments (hrow.child hc (by rw [htype]; decide)) true
  · exact h.convert (hrow.asks c hc)

theorem arrayCreation (hrow : Within row row) : s.arrayCreation row = s'.arrayCreation row := by
  rw [Shaper.arrayCreation, Shaper.arrayCreation, h.node, h.leaf]
  refine congrArg (s'.node .literalNew row "new" ·) (List.flatMap_congr fun c hc ↦ ?_)
  split_ifs with _ hlengths _
  · rfl
  · have hwithin : Within row c := hrow.child hc (by rw [hlengths]; decide)
    refine congrArg (fun lengths ↦ [s'.node .arrayDeclarator c "[" (lengths ++ _)])
      (List.map_congr_left fun d hd ↦ ?_)
    exact h.expr (hwithin.asks d (List.mem_filter.1 hd).1)
  · rfl
  · exact h.convert (hrow.asks c hc)

theorem arrayInitializer (hc : Within row c) : s.arrayInitializer c = s'.arrayInitializer c := by
  rw [Shaper.arrayInitializer, Shaper.arrayInitializer, h.node, h.leaf]
  refine congrArg (s'.node .arrayInit c "\x7b" ·) (List.flatMap_congr fun d hd ↦ ?_)
  rw [h.convert (hc.asks d hd), h.expr (hc.asks d hd)]

theorem parenthesized (hc : Within row c) (wrap : Bool) :
    s.parenthesized wrap c = s'.parenthesized wrap c := by
  rw [Shaper.parenthesized, Shaper.parenthesized, h.leaf]
  refine List.flatMap_congr fun d hd ↦ ?_
  rw [h.convert (hc.asks d hd), h.expr (hc.asks d hd)]

theorem arrayAccess (hfields : ∀ c ∈ inFields row ["array", "index"], Asks row c) :
    s.arrayAccess row = s'.arrayAccess row := by
  have hfield : ∀ field ∈ ["array", "index"], ∀ c, row.field? field = some c → Asks row c :=
    fun field hfield c hc ↦ hfields c (List.mem_filterMap.2 ⟨field, hfield, hc⟩)
  have hindex : (row.field? "index").toList.map s.expr = (row.field? "index").toList.map s'.expr :=
    List.map_congr_left fun c hc ↦ h.expr (hfield "index" (by decide) c (Option.mem_toList.1 hc))
  rw [Shaper.arrayAccess, Shaper.arrayAccess, h.node, h.leaf, hindex]
  refine congrArg (fun array ↦ s'.node .indexOp row "[" (array ++ _ ++ _)) ?_
  split
  · next c hc => exact h.convert (hfield "array" (by decide) c hc)
  · rfl

section Children

variable (hrow : Within row row)

include hrow

theorem operands (place : Option Nat) : s.operands row place = s'.operands row place := by
  refine List.flatMap_congr ?_
  rintro ⟨c, i⟩ hp
  dsimp only
  rw [h.convert (hrow.asks c (List.fst_mem_of_mem_zipIdx hp))]

theorem operation (kinds : List (String × Kind)) (unsigned : String) (other : Kind) :
    s.operation kinds unsigned other row = s'.operation kinds unsigned other row := by
  rw [Shaper.operation, Shaper.operation, h.node, h.text, h.operands hrow]

theorem unary : s.unary row = s'.unary row := by
  rw [Shaper.unary, Shaper.unary, h.node, h.text, h.operands hrow]

theorem update : s.update row = s'.update row := by
  have hoperands : s.operands row = s'.operands row := funext (h.operands hrow)
  rw [Shaper.update, Shaper.update, h.node, h.text, hoperands]

theorem withoutSigns (kind : Kind) (text : String) (signs : List String) :
    s.withoutSigns kind text signs row = s'.withoutSigns kind text signs row := by
  rw [Shaper.withoutSigns, Shaper.withoutSigns, h.node, h.convertAll fun c hc ↦ hrow.asks c
    (mem_children_of_mem_content (List.mem_filter.1 hc).1)]

theorem cast : s.cast row = s'.cast row := by
  rw [Shaper.cast, Shaper.cast, h.node, h.leaf]
  refine congrArg (s'.node .typecast row "(" ·) (List.flatMap_congr ?_)
  rintro ⟨c, i⟩ hp
  have hc := hrow.asks c (List.fst_mem_of_mem_zipIdx hp)
  dsimp only
  rw [h.convert hc, h.typeSpec hc]

theorem instanceOf : s.instanceOf row = s'.instanceOf row := by
  rw [Shaper.instanceOf, Shaper.instanceOf, h.node]
  refine congrArg (s'.node .literalInstanceof row "instanceof" ·) (List.flatMap_congr ?_)
  rintro ⟨c, i⟩ hp
  have hc := hrow.asks c (List.fst_mem_of_mem_zipIdx hp)
  dsimp only
  rw [h.convert hc, h.typeSpec hc]

end Children

/-! ## Declarations -/

theorem importDecl (hconstruct : Construct.ofType row.type = .importDecl) :
    s.importDecl row = s'.importDecl row := by
  have hname : ∀ cs ⊆ row.children, ∀ name : Option Outline,
      cs.foldl s.importName name = cs.foldl s'.importName name := by
    intro cs hcs
    induction cs with
    | nil => exact fun _ ↦ rfl
    | cons c cs ih =>
      intro name
      have hstep : s.importName name c = s'.importName name c := by
        rw [Shaper.importName, Shaper.importName, h.node, h.leaf]
        split_ifs with htype
        · rw [h.convert (.of_mem_shapedBelow ?_)]
          rw [shapedBelow, hconstruct]
          exact List.mem_filter.2 ⟨hcs List.mem_cons_self, decide_eq_true htype⟩
        · rfl
        · rfl
      rw [List.foldl_cons, List.foldl_cons, hstep, ih (List.subset_of_cons_subset hcs)]
  rw [Shaper.importDecl, Shaper.importDecl, h.node, h.leaf,
    hname _ (List.filter_subset_self _) none]

theorem clause (hc : Within row c) (kind : Kind) (keyword : String) :
    s.clause kind keyword c = s'.clause kind keyword c := by
  rw [Shaper.clause, Shaper.clause, h.node]
  refine congrArg (s'.node kind c keyword ·) (List.flatMap_congr fun d hd ↦ ?_)
  split_ifs with _ htype
  · rfl
  · exact h.convertAll (hc.child hd (by rw [htype]; decide)).asks
  · exact h.convert (hc.asks d hd)

theorem separators : s.separators row = s'.separators row := by
  rw [Shaper.separators, Shaper.separators, h.leaf]

theorem initializer {d value : Cst} (hvalue : Asks row value) :
    s.initializer d value = s'.initializer d value := by
  rw [Shaper.initializer, Shaper.initializer, h.node]
  refine congrArg (fun initial ↦ s'.node .assign _ "=" [initial]) ?_
  split_ifs with htype
  · exact h.arrayInitializer (.of_asks hvalue (by rw [htype]; decide))
  · exact h.expr hvalue

theorem variableDef {d : Cst}
    (hasks : ∀ c ∈ modifierParts row ++ inFields row ["type"] ++ inFields d ["value"], Asks row c)
    (terminator : Option Outline) :
    s.variableDef row d terminator = s'.variableDef row d terminator := by
  have hmodifiers : s.modifiersOf row = s'.modifiersOf row := h.modifiersOf fun c hc ↦
    hasks c (List.mem_append_left _ (List.mem_append_left _ hc))
  have htype : ((row.field? "type").toList.map fun c ↦ s.typeSpec c (d.field? "dimensions"))
      = (row.field? "type").toList.map fun c ↦ s'.typeSpec c (d.field? "dimensions") := by
    refine List.map_congr_left fun c hc ↦ h.typeSpec (hasks c ?_) _
    exact List.mem_append_left _ (List.mem_append_right _
      (List.mem_filterMap.2 ⟨"type", List.mem_singleton_self _, Option.mem_toList.1 hc⟩))
  have hvalue : (d.field? "value").toList.map (s.initializer d)
      = (d.field? "value").toList.map (s'.initializer d) := by
    refine List.map_congr_left fun c hc ↦ h.initializer (hasks c (List.mem_append_right _ ?_))
    exact List.mem_filterMap.2 ⟨"value", List.mem_singleton_self _, Option.mem_toList.1 hc⟩
  rw [Shaper.variableDef, Shaper.variableDef, h.node, h.leaf, hmodifiers, htype, hvalue]

section Variables

variable (hconstruct : Construct.ofType row.type ∈ [.field, .localVariable])

include hconstruct

theorem field : s.field row = s'.field row := by
  rw [Shaper.field, Shaper.field, h.separators]
  refine List.map_congr_left ?_
  rintro ⟨d, i⟩ hp
  exact h.variableDef (Accounts.asks_of_declarator hconstruct (List.fst_mem_of_mem_zipIdx hp)) _

theorem localVariable : s.localVariable row = s'.localVariable row := by
  rw [Shaper.localVariable, Shaper.localVariable, h.separators]
  refine List.flatMap_congr ?_
  rintro ⟨d, i⟩ hp
  exact congrArg (· :: _) (h.variableDef
    (Accounts.asks_of_declarator hconstruct (List.fst_mem_of_mem_zipIdx hp)) none)

end Variables

theorem throwsClause (hc : Within row c) : s.throwsClause c = s'.throwsClause c := by
  rw [Shaper.throwsClause, Shaper.throwsClause, h.node,
    h.convertAll fun d hd ↦ hc.asks d (List.mem_filter.1 hd).1]

theorem parameter (hc : Within row c) : s.parameter c = s'.parameter c := by
  have hmodifiers : s.modifiersOf c = s'.modifiersOf c := h.modifiersOf hc.modifierParts
  rw [Shaper.parameter, Shaper.parameter, h.node, h.leaf, hmodifiers]
  refine congrArg (s'.node .parameterDef c "" <| _ :: ·) (List.flatMap_congr ?_)
  rintro ⟨d, i⟩ hp
  have hd := hc.asks d (List.fst_mem_of_mem_zipIdx hp)
  dsimp only
  rw [h.convert hd, h.typeSpec hd]

section Members

variable (hrow : Within row row)

include hrow

theorem typeDeclaration (kind : Kind) :
    s.typeDeclaration kind row = s'.typeDeclaration kind row := by
  rw [Shaper.typeDeclaration, Shaper.typeDeclaration, h.node, h.modifiersOf hrow.modifierParts]
  refine congrArg (s'.node kind row "" <| _ :: ·) (List.flatMap_congr fun c hc ↦ ?_)
  have hc := mem_children_of_mem_content hc
  split_ifs with _ hextends himplements
  · rfl
  · rw [h.clause (hrow.child hc (by rw [Construct.ofType_of_extendsClause hextends]; decide))]
  · rw [h.clause (hrow.child hc (by rw [himplements]; decide))]
  · exact h.convert (hrow.asks c hc)

theorem method : s.method row = s'.method row := by
  rw [Shaper.method, Shaper.method, h.node, h.leaf, h.modifiersOf hrow.modifierParts]
  refine congrArg (s'.node .methodDef row "" <| _ :: ·) (List.flatMap_congr ?_)
  rintro ⟨c, i⟩ hp
  have hc := List.fst_mem_of_mem_zipIdx hp
  dsimp only
  split_ifs with _ _ _ htype
  · rfl
  · rw [h.typeSpec (hrow.asks c hc)]
  · rfl
  · rw [h.throwsClause (hrow.child hc (by rw [htype]; decide))]
  · rfl
  · exact h.convert (hrow.asks c hc)

theorem constructor : s.constructor row = s'.constructor row := by
  rw [Shaper.constructor, Shaper.constructor, h.node, h.modifiersOf hrow.modifierParts]
  refine congrArg (s'.node .ctorDef row "" <| _ :: ·) (List.flatMap_congr fun c hc ↦ ?_)
  have hc := mem_children_of_mem_content hc
  split_ifs with _ htype
  · rfl
  · rw [h.throwsClause (hrow.child hc (by rw [htype]; decide))]
  · exact h.convert (hrow.asks c hc)

theorem parameters : s.parameters row = s'.parameters row := by
  rw [Shaper.parameters, Shaper.parameters, h.node, h.leaf]
  refine congrArg (_ ++ s'.node .parameters row "" · :: _) (List.flatMap_congr fun c hc ↦ ?_)
  split_ifs with _ htype
  · rfl
  · rw [h.parameter (hrow.child hc (by rw [Construct.ofType_of_parameter htype]; decide))]
  · exact h.convert (hrow.asks c hc)

/-! ## Statements -/

theorem expressionStatement : s.expressionStatement row = s'.expressionStatement row := by
  rw [Shaper.expressionStatement, Shaper.expressionStatement, h.leaf]
  refine List.map_congr_left fun c hc ↦ ?_
  rw [h.expr (hrow.asks c (mem_children_of_mem_content hc))]

/-- The children but for those of a type, below a node. -/
theorem convertAll_filter (p : Cst → Bool) :
    s.convertAll (row.children.filter p) = s'.convertAll (row.children.filter p) :=
  h.convertAll fun c hc ↦ hrow.asks c (List.mem_filter.1 hc).1

theorem switchLabel : s.switchLabel row = s'.switchLabel row := by
  rw [Shaper.switchLabel, Shaper.switchLabel, h.node, h.text]
  refine congrArg (s'.node _ row _ ·) (List.flatMap_congr fun c hc ↦ ?_)
  have hc := hrow.asks c (mem_children_of_mem_content hc)
  rw [h.convert hc, h.expr hc]

theorem constructorCall : s.constructorCall row = s'.constructorCall row := by
  rw [Shaper.constructorCall, Shaper.constructorCall, h.node]
  refine congrArg (s'.node _ row "" ·) (List.flatMap_congr fun c hc ↦ ?_)
  have hc := mem_children_of_mem_content hc
  split_ifs with _ htype
  · rfl
  · exact h.arguments (hrow.child hc (by rw [htype]; decide)) true
  · exact h.convert (hrow.asks c hc)

end Members

theorem statementPart (hc : Asks row c) : s.statementPart c = s'.statementPart c := by
  rw [Shaper.statementPart, Shaper.statementPart]
  split_ifs with htype
  · exact h.parenthesized (.of_asks hc (by rw [htype]; decide)) true
  · exact h.convert hc
  · rw [h.expr hc]

theorem statementParts {cs : List Cst} (hcs : ∀ c ∈ cs, Asks row c) :
    s.statementParts cs = s'.statementParts cs := by
  fun_induction Shaper.statementParts s cs with
  | case1 => rw [Shaper.statementParts]
  | case2 c rest htype own ih =>
    have hrest := (List.forall_mem_cons.1 hcs).2
    have hown : own.flatMap s.statementPart = own.flatMap s'.statementPart :=
      List.flatMap_congr fun d hd ↦ h.statementPart (hrest d ((List.takeWhile_prefix _).subset hd))
    rw [Shaper.statementParts, if_pos htype, h.node, hown,
      ih fun d hd ↦ hrest d ((List.dropWhile_suffix _).subset hd)]
  | case3 c rest htype ih =>
    obtain ⟨hc, hrest⟩ := List.forall_mem_cons.1 hcs
    rw [Shaper.statementParts, if_neg htype, h.statementPart hc, ih hrest]

theorem keywordStatement (hconstruct : Construct.ofType row.type = .keywordStatement) :
    s.keywordStatement row = s'.keywordStatement row := by
  rw [Shaper.keywordStatement, Shaper.keywordStatement, h.node, h.text]
  split
  · rfl
  · next keyword parts hcontent =>
    rw [h.statementParts fun c hc ↦ .of_mem_shapedBelow ?_]
    rw [shapedBelow, hconstruct]
    rwa [hcontent]

theorem enhancedFor (hconstruct : Construct.ofType row.type = .enhancedFor) :
    s.enhancedFor row = s'.enhancedFor row := by
  have hasks : ∀ c ∈ modifierParts row ++ inFields row ["type", "name", "value", "body"],
      Asks row c := fun c hc ↦ .of_mem_shapedBelow (by rwa [shapedBelow, hconstruct])
  have hfield : ∀ field ∈ ["type", "name", "value", "body"], ∀ c ∈ (row.field? field).toList,
      Asks row c := fun field hfield c hc ↦ hasks c (List.mem_append_right _
    (List.mem_filterMap.2 ⟨field, hfield, Option.mem_toList.1 hc⟩))
  have hmodifiers : s.modifiersOf row = s'.modifiersOf row :=
    h.modifiersOf fun c hc ↦ hasks c (List.mem_append_left _ hc)
  have htype : ((row.field? "type").toList.map fun c ↦ s.typeSpec c (row.field? "dimensions"))
      = (row.field? "type").toList.map fun c ↦ s'.typeSpec c (row.field? "dimensions") :=
    List.map_congr_left fun c hc ↦ h.typeSpec (hfield "type" (by decide) c hc) _
  have hconvert : ∀ field ∈ ["type", "name", "value", "body"],
      (row.field? field).toList.flatMap s.convert = (row.field? field).toList.flatMap s'.convert :=
    fun field hmem ↦ List.flatMap_congr fun c hc ↦ h.convert (hfield field hmem c hc)
  have hvalue : (row.field? "value").toList.map s.expr = (row.field? "value").toList.map s'.expr :=
    List.map_congr_left fun c hc ↦ h.expr (hfield "value" (by decide) c hc)
  rw [Shaper.enhancedFor, Shaper.enhancedFor, h.node, h.leaf, hmodifiers, htype, hvalue,
    hconvert "name" (by decide), hconvert "body" (by decide)]

theorem catchType (hc : Within row c) : s.catchType c = s'.catchType c := by
  rw [Shaper.catchType, Shaper.catchType, h.node, h.leaf]
  refine congrArg (s'.node .type c "" ·) (List.flatMap_congr fun d hd ↦ ?_)
  rw [h.typeParts (hc.asks d (mem_children_of_mem_content hd))]

theorem catchParameter (hc : Within row c) : s.catchParameter c = s'.catchParameter c := by
  rw [Shaper.catchParameter, Shaper.catchParameter, h.node, h.leaf, h.modifiersOf hc.modifierParts]
  refine congrArg (s'.node .parameterDef c "" <| _ :: ·) (List.flatMap_congr fun d hd ↦ ?_)
  have hd := mem_children_of_mem_content hd
  split_ifs with htype
  · rw [h.catchType (hc.child hd (by rw [htype]; decide))]
  · rfl
  · rfl
  · exact h.convert (hc.asks d hd)

theorem catchClause (hrow : Within row row) : s.catchClause row = s'.catchClause row := by
  rw [Shaper.catchClause, Shaper.catchClause, h.node]
  refine congrArg (s'.node .literalCatch row "catch" ·) (List.flatMap_congr fun c hc ↦ ?_)
  split_ifs with _ htype
  · rfl
  · rw [h.catchParameter (hrow.child hc (by rw [htype]; decide))]
  · exact h.convert (hrow.asks c hc)

/-! ## Rows -/

theorem convertRow : s.convertRow row = s'.convertRow row := by
  have hrow : ∀ {construct}, Construct.ofType row.type = construct → construct.asksAll = true →
      Within row row := fun hconstruct hasks ↦ .self (by rwa [hconstruct])
  rw [Shaper.convertRow, Shaper.convertRow]
  cases hconstruct : Construct.ofType row.type with
  | comment => rfl
  | leaf kind => dsimp only; rw [h.leaf]
  | integer => dsimp only; rw [h.number]
  | float => dsimp only; rw [h.number]
  | program =>
    dsimp only
    rw [program, program, h.convertAll (hrow hconstruct rfl).asks]
  | package =>
    dsimp only
    rw [package, package, h.node, h.convertAll_filter (hrow hconstruct rfl)]
  | importDecl => exact congrArg ([·]) (h.importDecl hconstruct)
  | typeDeclaration kind => exact congrArg ([·]) (h.typeDeclaration (hrow hconstruct rfl) kind)
  | typeBody =>
    dsimp only
    rw [typeBody, typeBody, h.node, h.convertAll (hrow hconstruct rfl).asks]
  | modifiers => exact congrArg ([·]) (h.modifiers (hrow hconstruct rfl))
  | field => exact h.field (by rw [hconstruct]; decide)
  | localVariable => exact h.localVariable (by rw [hconstruct]; decide)
  | method => exact congrArg ([·]) (h.method (hrow hconstruct rfl))
  | constructor => exact congrArg ([·]) (h.constructor (hrow hconstruct rfl))
  | parameters => exact h.parameters (hrow hconstruct rfl)
  | block =>
    dsimp only
    rw [block, block, h.node, h.convertAll_filter (hrow hconstruct rfl)]
  | expressionStatement => exact h.expressionStatement (hrow hconstruct rfl)
  | keywordStatement => exact h.keywordStatement hconstruct
  | enhancedFor => exact congrArg ([·]) (h.enhancedFor hconstruct)
  | catchClause => exact congrArg ([·]) (h.catchClause (hrow hconstruct rfl))
  | finallyClause =>
    dsimp only
    rw [finallyClause, finallyClause, h.node, h.convertAll_filter (hrow hconstruct rfl)]
  | switchLabel => exact congrArg ([·]) (h.switchLabel (hrow hconstruct rfl))
  | dissolved => exact h.convertAll (hrow hconstruct rfl).asks
  | arguments => exact h.arguments (hrow hconstruct rfl) true
  | methodCall => exact congrArg ([·]) (h.methodCall hconstruct)
  | objectCreation => exact congrArg ([·]) (h.objectCreation (hrow hconstruct rfl))
  | arrayCreation => exact congrArg ([·]) (h.arrayCreation (hrow hconstruct rfl))
  | arrayInitializer => exact congrArg ([·]) (h.arrayInitializer (hrow hconstruct rfl))
  | binary => exact congrArg ([·]) (h.operation (hrow hconstruct rfl) _ _ _)
  | assignment => exact congrArg ([·]) (h.operation (hrow hconstruct rfl) _ _ _)
  | unary => exact congrArg ([·]) (h.unary (hrow hconstruct rfl))
  | update => exact congrArg ([·]) (h.update (hrow hconstruct rfl))
  | parenthesized => exact h.parenthesized (hrow hconstruct rfl) false
  | dotted => exact congrArg ([·]) (h.withoutSigns (hrow hconstruct rfl) _ _ _)
  | arrayAccess =>
    exact congrArg ([·]) (h.arrayAccess fun c hc ↦ .of_mem_shapedBelow
      (by rwa [shapedBelow, hconstruct]))
  | cast => exact congrArg ([·]) (h.cast (hrow hconstruct rfl))
  | ternary => exact congrArg ([·]) (h.withoutSigns (hrow hconstruct rfl) _ _ _)
  | instanceOf => exact congrArg ([·]) (h.instanceOf (hrow hconstruct rfl))
  | lambda => exact congrArg ([·]) (h.withoutSigns (hrow hconstruct rfl) _ _ _)
  | methodReference => exact congrArg ([·]) (h.withoutSigns (hrow hconstruct rfl) _ _ _)
  | constructorCall => exact congrArg ([·]) (h.constructorCall (hrow hconstruct rfl))
  | primitiveType => exact h.primitiveType
  | scopedType => exact h.scopedType (hrow hconstruct rfl)
  | genericType => exact h.genericType (hrow hconstruct rfl)
  | arrayType =>
    refine h.arrayType fun c hc ↦ .of_mem_shapedBelow ?_
    rw [shapedBelow, hconstruct]
    exact List.mem_filterMap.2 ⟨"element", List.mem_singleton_self _, hc⟩
  | annotatedType => exact h.convertAll (hrow hconstruct rfl).asks
  | generic => exact congrArg ([·]) (h.generic (.self (by rw [hconstruct]; rfl)))

theorem typePartsOf : s.typePartsOf row = s'.typePartsOf row := by
  rw [Shaper.typePartsOf, Shaper.typePartsOf]
  split
  · next htype => rw [h.typeArguments (.self (by rw [htype]; rfl))]
  · exact h.convertRow

end SameBelow

end Shaper

/-! ## All levels -/

variable {source : SourceText} {row : Cst} {n m : Nat}

/-- One level more than a row needs changes nothing. -/
theorem sameBelow_shaper_succ (h : fitsInto n row = true) :
    (shaper source n).SameBelow (shaper source (n + 1)) row := by
  induction n generalizing row with
  | zero => cases h
  | succ n ih =>
    refine ⟨rfl, fun hc ↦ ?_, fun hc ↦ ?_⟩
    · exact (ih (hc.fits h)).convertRow
    · exact (ih (hc.fits h)).typePartsOf

theorem fitsInto_of_le (h : fitsInto n row = true) (hle : n ≤ m) : fitsInto m row = true := by
  induction hle with
  | refl => exact h
  | step _ ih => exact fitsInto_succ ih

/-- A row is shaped to the same outlines at all numbers of levels that it fits into. -/
theorem convertRow_shaper_eq (hn : fitsInto n row = true) (hm : fitsInto m row = true) :
    (shaper source n).convertRow row = (shaper source m).convertRow row ∧
      (shaper source n).typePartsOf row = (shaper source m).typePartsOf row := by
  have hmore : ∀ {k l : Nat}, fitsInto k row = true → k ≤ l →
      (shaper source k).convertRow row = (shaper source l).convertRow row ∧
        (shaper source k).typePartsOf row = (shaper source l).typePartsOf row := by
    intro k l hk hle
    induction hle with
    | refl => exact ⟨rfl, rfl⟩
    | @step l hle ih =>
      have hsame : (shaper source l).SameBelow (shaper source (l + 1)) row :=
        sameBelow_shaper_succ (fitsInto_of_le hk hle)
      exact ⟨ih.1.trans hsame.convertRow, ih.2.trans hsame.typePartsOf⟩
  obtain hle | hle := Nat.le_total n m
  · exact hmore hn hle
  · exact ⟨(hmore hm hle).1.symm, (hmore hm hle).2.symm⟩

end LintMark.Java

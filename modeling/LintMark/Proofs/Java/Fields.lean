import LintMark.Proofs.Constant.Fields
import LintMark.Proofs.Java.Members
import LintMark.Proofs.Java.Origin.Source

/-!
# The fields of a type

The fields of a type are declared in its body, and in an enumeration behind the constants, in a row
that leaves its place to its children. So the children of the node of a body come from the members
of the type (`exists_memberLevels`), and those of them that define variables come from its field
declarations alone: no other row that the grammar has in a body is shaped to a definition at its
top (`kind_ne_variableDef`).

A definition is marked static if its modifiers have a leaf of that kind. Several declarators share
one row of modifiers, and among the leaves of the modifiers only the word itself has that kind
(`any_children_modifiersOf`).
-/

namespace LintMark.Java

open Cst Outline Shaper

/-! ## Rows of type declarations -/

/-- The types of rows that the grammar has in front of the body of a type, or behind it. -/
def headerTypes : List String :=
  commentTypes ++ ["modifiers", "identifier", "type_parameters", "superclass", "super_interfaces",
    "extends_interfaces", "permits", "formal_parameters", "class", "interface", "enum", "record",
    "@interface"]

/-- The types of field declarations. -/
def fieldTypes : List String := ["field_declaration", "constant_declaration"]

/-- The types of rows that the grammar has in the body of a type. -/
def bodyTypes : List String :=
  commentTypes ++ separatorSigns ++ fieldTypes ++ Construct.typeDeclarations.map Prod.fst ++
    plainMembers ++ ["method_declaration", "constructor_declaration", "block"]

/-- The words among the modifiers of a declaration. -/
def modifierWords : List String :=
  ["public", "protected", "private", "abstract", "static", "final", "strictfp", "default",
    "synchronized", "native", "transient", "volatile", "sealed", "non-sealed"]

/-- A modifier as the grammar has it. -/
inductive IsModifier (source : SourceText) (row : Cst) : Prop
  | comment (hcomment : row.isComment = true)
  | annotation (htype : row.type ∈ ["marker_annotation", "annotation"])
      (hchildren : row.children ≠ [])
  | word (htype : row.type ∈ modifierWords) (hsign : IsSign source row)

/-- The body of a type declaration. -/
def bodyOf? (row : Cst) : Option Cst :=
  row.children.find? fun c ↦ Construct.ofType c.type = .typeBody

/-- The members of a type, from its body. -/
def memberRows (body : Cst) : List Cst :=
  body.children.flatMap fun c ↦ if c.type = "enum_body_declarations" then c.children else [c]

/-- The field declarations of a type, from its body. -/
def fieldRows (body : Cst) : List Cst := (memberRows body).filter fun c ↦ c.type ∈ fieldTypes

/-- Whether the modifiers of a declaration have the word `static`. -/
def isStaticField (row : Cst) : Bool := (modifierParts row).any fun c ↦ c.type = "static"

/-! ## Kinds of rows -/

/-- A token is no declaration and no list of statements. -/
theorem tokenKind_notMem_structural (text : String) : tokenKind text ∉ Kind.structural := by
  refine lookup_getD_notMem (by decide) ?_ text
  dsimp only
  split_ifs
  · exact Kind.keyword_notMem_structural _
  · decide

variable {s : Shaper} {row c : Cst} {o : Outline} {kind : Kind}

/-- A row without a rule is none of the structural kinds that its type does not spell out. -/
theorem kind_generic_ne (hkind : kind ∈ Kind.structural)
    (hupper : (⟨Text.toUpper row.type⟩ : Kind) ≠ kind) (htype : kindOfType row.type ≠ kind) :
    (s.generic row).kind ≠ kind := by
  have htoken : tokenKind (s.text row) ≠ kind :=
    fun heq ↦ tokenKind_notMem_structural _ (heq ▸ hkind)
  rw [Shaper.generic]
  split
  · rw [kind_leaf]
    split_ifs
    · exact hupper
    · exact htoken
  · exact htype

/-- Whether no row of a type becomes a node of a kind, nodes further down not counted. The answer is
given for the types that the header and the body of a type declaration are made of. -/
def avoids (kind : Kind) (type : String) : Bool :=
  match Construct.ofType type with
  | .comment => true
  | .leaf own | .typeDeclaration own => own ≠ kind
  | .modifiers => Kind.modifiers ≠ kind
  | .parameters => kind ∉ [Kind.lparen, Kind.parameters, Kind.rparen]
  | .method => Kind.methodDef ≠ kind
  | .constructor => Kind.ctorDef ≠ kind
  | .block => Kind.slist ≠ kind
  | .generic => (⟨Text.toUpper type⟩ : Kind) ≠ kind ∧ kindOfType type ≠ kind
  | _ => false

theorem kind_ne_of_avoids (hkind : kind ∈ Kind.structural) (h : avoids kind c.type = true)
    (ho : o ∈ s.convertRow c) : o.kind ≠ kind := by
  rw [avoids] at h
  rw [convertRow] at ho
  cases hconstruct : Construct.ofType c.type with
  | comment =>
    rw [hconstruct] at ho
    cases ho
  | leaf | typeDeclaration | modifiers | method | constructor | block =>
    rw [hconstruct] at h ho
    rw [List.mem_singleton.1 ho]
    exact of_decide_eq_true h
  | generic =>
    rw [hconstruct] at h ho
    obtain ⟨hupper, htype⟩ := of_decide_eq_true h
    rw [List.mem_singleton.1 ho]
    exact kind_generic_ne hkind hupper htype
  | parameters =>
    rw [hconstruct] at h ho
    have hmem : o.kind ∈ [Kind.lparen, Kind.parameters, Kind.rparen] := by
      obtain ho | ho := List.mem_append.1 ho
      · obtain ⟨d, -, rfl⟩ := List.mem_map.1 ho
        exact List.mem_cons_self
      · obtain rfl | ho := List.mem_cons.1 ho
        · exact List.mem_cons_of_mem _ List.mem_cons_self
        · obtain ⟨d, -, rfl⟩ := List.mem_map.1 ho
          exact List.mem_cons_of_mem _ (List.mem_cons_of_mem _ List.mem_cons_self)
    exact fun heq ↦ of_decide_eq_true h (heq ▸ hmem)
  | _ =>
    rw [hconstruct] at h
    cases h

/-- A type declaration is made for a row of one, since no other type spells out such a kind. -/
theorem Shaper.Makes.of_mem_typeDeclarations (h : s.Makes row o)
    (hkind : o.kind ∈ Kind.typeDeclarations)
    (hreserved : (⟨Text.toUpper row.type⟩ : Kind) ∉ Kind.structural) :
    ∃ kind, Construct.ofType row.type = .typeDeclaration kind ∧ o = s.typeDeclaration kind row := by
  have hstructural : Kind.typeDeclarations ⊆ Kind.structural := by decide
  have hne : ∀ {kind : Kind}, kind ∉ Kind.typeDeclarations → o.kind ≠ kind :=
    fun hnot heq ↦ hnot (heq ▸ hkind)
  cases h with
  | typeDeclaration kind hconstruct => exact ⟨kind, hconstruct, rfl⟩
  | other hother => exact absurd (hstructural hkind) hother
  | generic =>
    have hupper : (⟨Text.toUpper row.type⟩ : Kind) ∉ Kind.typeDeclarations :=
      fun hmem ↦ hreserved (hstructural hmem)
    have htype : kindOfType row.type ∉ Kind.typeDeclarations :=
      lookup_getD_notMem (by decide) hupper row.type
    exact absurd rfl (kind_generic_ne (hstructural hkind) (hne hupper).symm (hne htype).symm)
  | typeBody => exact absurd rfl (hne (by decide : Kind.objBlock ∉ _))
  | block => exact absurd rfl (hne (by decide : Kind.slist ∉ _))
  | method => exact absurd rfl (hne (by decide : Kind.methodDef ∉ _))
  | constructor => exact absurd rfl (hne (by decide : Kind.ctorDef ∉ _))
  | variableDef | loopVariable => exact absurd rfl (hne (by decide : Kind.variableDef ∉ _))
  | parameter | catchParameter => exact absurd rfl (hne (by decide : Kind.parameterDef ∉ _))

theorem mem_typeDeclarations_of_ofType {type : String} {kind : Kind}
    (h : Construct.ofType type = .typeDeclaration kind) :
    type ∈ Construct.typeDeclarations.map Prod.fst := by
  have htable : ∀ p ∈ Construct.table, ∀ kind ∈ p.2.declaredKind?,
      p.1 ∈ Construct.typeDeclarations.map Prod.fst := by decide
  exact htable _ (Construct.mem_table_of_ofType h nofun) kind rfl

/-! ## The body of a type -/

/-- What stands in front of the body becomes no node of the kind of a body. -/
theorem kind_ne_objBlock (hc : c.type ∈ headerTypes) (ho : o ∈ s.convertRow c) :
    o.kind ≠ .objBlock := by
  have htypes : ∀ type ∈ headerTypes, avoids .objBlock type = true := by decide
  exact kind_ne_of_avoids (by decide) (htypes _ hc) ho

/-- The first node of the kind of a body below a type declaration is that of its body. -/
theorem find?_children_typeDeclaration {source : SourceText} {m : Nat} {body : Cst}
    (hheader : ∀ c ∈ row.children, c.type ∈ headerTypes ∨ Construct.ofType c.type = .typeBody)
    (hbody : bodyOf? row = some body) :
    (((shaper source (m + 1)).typeDeclaration kind row).children.find? fun o ↦ o.kind = .objBlock)
      = some ((shaper source m).typeBody body) := by
  obtain ⟨hconstruct, front, back, hchildren, hfront⟩ := List.find?_eq_some_iff_append.1 hbody
  have hconstruct : Construct.ofType body.type = .typeBody := by simpa using hconstruct
  have hne : ∀ {type : String}, Construct.ofType type ≠ .typeBody → body.type ≠ type := by
    rintro _ htype rfl
    exact htype hconstruct
  have hcomment : body.isComment = false := by
    refine decide_eq_false fun hmem ↦ ?_
    have htypes : ∀ type ∈ commentTypes, Construct.ofType type ≠ .typeBody := by decide
    exact htypes _ hmem hconstruct
  have hcontent : row.content
      = (front.filter fun c ↦ !c.isComment) ++ body :: back.filter fun c ↦ !c.isComment := by
    rw [content, hchildren, List.filter_append, List.filter_cons_of_pos (by rw [hcomment]; rfl)]
  have hpart : (if body.type = "modifiers" then []
      else if body.type ∈ ["superclass", "extends_interfaces"] then
        [(shaper source (m + 1)).clause .extendsClause "extends" body]
      else if body.type = "super_interfaces" then
        [(shaper source (m + 1)).clause .implementsClause "implements" body]
      else (shaper source (m + 1)).convert body) = [(shaper source m).typeBody body] := by
    rw [if_neg (hne (by decide)), if_neg ?_, if_neg (hne (by decide))]
    · change (shaper source m).convertRow body = _
      rw [convertRow, hconstruct]
    · intro hmem
      rw [Construct.ofType_of_extendsClause hmem] at hconstruct
      cases hconstruct
  rw [typeDeclaration, hcontent, List.flatMap_append, List.flatMap_cons]
  rw [hpart]
  refine List.find?_eq_some_iff_append.2 ⟨rfl, _ :: _, _, rfl, ?_⟩
  refine List.forall_mem_cons.2 ⟨?_, fun o ho ↦ ?_⟩
  · rw [kind_modifiersOf]
    decide
  · obtain ⟨c, hc, ho⟩ := List.mem_flatMap.1 ho
    have hc := (List.mem_filter.1 hc).1
    have htype : c.type ∈ headerTypes := by
      refine (hheader c ?_).resolve_right (by simpa using hfront c hc)
      rw [hchildren]
      exact List.mem_append_left _ hc
    rw [Bool.not_eq_true', decide_eq_false_iff_not]
    split_ifs at ho
    · cases ho
    · rw [List.mem_singleton.1 ho]
      exact (by decide : Kind.extendsClause ≠ .objBlock)
    · rw [List.mem_singleton.1 ho]
      exact (by decide : Kind.implementsClause ≠ .objBlock)
    · exact kind_ne_objBlock (s := shaper source m) htype ho

/-! ## The members of a type -/

theorem mem_rows_of_mem_memberRows {body : Cst} (h : c ∈ memberRows body) : c ∈ body.rows := by
  obtain ⟨d, hd, hc⟩ := List.mem_flatMap.1 h
  split_ifs at hc
  · exact mem_rows_of_mem_children hd (mem_rows_of_mem hc)
  · rw [List.mem_singleton.1 hc]
    exact mem_rows_of_mem hd

/-- Below the node of a body stand the nodes of the members, each shaped at a level that it fits
into. -/
theorem exists_memberLevels (source : SourceText) {k : Nat} {body : Cst}
    (hbody : Construct.ofType body.type = .typeBody) (hfits : fitsInto (k + 1) body = true) :
    ∃ members : List (Cst × Nat), members.map Prod.fst = memberRows body ∧
      (∀ p ∈ members, fitsInto p.2 p.1 = true) ∧
      ((shaper source (k + 1)).typeBody body).children
        = members.flatMap fun p ↦ (shaper source p.2).convertRow p.1 := by
  have hchild : ∀ c ∈ body.children, fitsInto k c = true := fun c hc ↦
    (Within.self (by rw [hbody]; rfl)).asks c hc |>.fits hfits
  refine ⟨body.children.flatMap fun c ↦
    if c.type = "enum_body_declarations" then c.children.map (·, k - 1) else [(c, k)], ?_, ?_, ?_⟩
  · rw [List.map_flatMap, memberRows]
    refine List.flatMap_congr fun c _ ↦ ?_
    split_ifs
    · rw [List.map_map]
      exact List.map_id _
    · rfl
  · intro p hp
    obtain ⟨c, hc, hp⟩ := List.mem_flatMap.1 hp
    have hc := hchild c hc
    split_ifs at hp with htype
    · obtain ⟨d, hd, rfl⟩ := List.mem_map.1 hp
      cases k with
      | zero => cases hc
      | succ k => exact ((Within.self (by rw [htype]; rfl)).asks d hd).fits hc
    · rw [List.mem_singleton.1 hp]
      exact hc
  · rw [List.flatMap_assoc]
    refine List.flatMap_congr fun c hc ↦ ?_
    have hc := hchild c hc
    change (shaper source k).convertRow c = _
    split_ifs with htype
    · -- The row leaves its place to its children.
      cases k with
      | zero => cases hc
      | succ k =>
        rw [convertRow, htype, List.flatMap_map]
        rfl
    · rw [List.flatMap_singleton]

/-- A field declaration becomes one definition for each of its declarators. -/
theorem convertRow_of_mem_fieldTypes (h : row.type ∈ fieldTypes) :
    s.convertRow row = s.field row := by
  have hconstruct : ∀ type ∈ fieldTypes, Construct.ofType type = .field := by decide
  rw [convertRow, hconstruct _ h]

theorem exists_of_mem_field (h : o ∈ s.field row) :
    ∃ d ∈ declarators row, ∃ terminator, o = s.variableDef row d terminator := by
  obtain ⟨⟨d, i⟩, hp, rfl⟩ := List.mem_map.1 h
  exact ⟨d, List.fst_mem_of_mem_zipIdx hp, _, rfl⟩

/-- No other member of a type becomes the definition of a variable. -/
theorem kind_ne_variableDef (hc : c.type ∈ bodyTypes) (hfield : c.type ∉ fieldTypes)
    (ho : o ∈ s.convertRow c) : o.kind ≠ .variableDef := by
  have htypes : ∀ type ∈ bodyTypes, type ∉ fieldTypes → avoids .variableDef type = true := by decide
  exact kind_ne_of_avoids (by decide) (htypes _ hc hfield) ho

/-! ## Static fields -/

/-- Among the modifiers only the word `static` becomes a leaf of that kind. -/
theorem IsModifier.any_convertRow (h : IsModifier s.source c) :
    ((s.convertRow c).any fun o ↦ o.kind = .literalStatic) = decide (c.type = "static") := by
  cases h with
  | comment hcomment =>
    rw [convertRow_of_isComment hcomment]
    exact (decide_eq_false (type_ne_of_isComment hcomment (by decide))).symm
  | annotation htype hchildren =>
    have htypes : ∀ type ∈ ["marker_annotation", "annotation"], type ≠ "static" ∧
        Construct.ofType type = .generic ∧ kindOfType type ≠ .literalStatic := by decide
    obtain ⟨hne, hconstruct, hkind⟩ := htypes _ htype
    have hgeneric : (s.generic c).kind = kindOfType c.type := by
      rw [Shaper.generic, if_neg (by rwa [List.isEmpty_iff]), kind_node]
    rw [convertRow, hconstruct, decide_eq_false hne, List.any_cons, List.any_nil, hgeneric,
      decide_eq_false hkind]
    rfl
  | word htype hsign =>
    have hwords : ∀ word ∈ modifierWords, Construct.ofType word = .generic ∧
        (tokenKind word = .literalStatic ↔ word = "static") := by decide
    obtain ⟨hconstruct, hkind⟩ := hwords _ htype
    rw [convertRow_of_isSign hsign hconstruct, List.any_cons, List.any_nil, kind_leaf,
      Bool.or_false]
    exact decide_eq_decide.2 hkind

/-- The modifiers of a declaration have a leaf for the word `static` exactly if the word stands
there. -/
theorem any_children_modifiersOf {source : SourceText} {m : Nat}
    (hmodifiers : ∀ c ∈ modifierParts row, IsModifier source c) :
    (((shaper source (m + 1)).modifiersOf row).children.any fun o ↦ o.kind = .literalStatic)
      = isStaticField row := by
  rw [isStaticField, modifiersOf]
  cases hfind : row.children.find? fun c ↦ c.type = "modifiers" with
  | none =>
    rw [modifierParts, hfind]
    rfl
  | some c =>
    rw [modifierParts_of_find? hfind] at hmodifiers ⊢
    change ((c.children.flatMap (shaper source m).convertRow).any fun o ↦
      o.kind = .literalStatic) = _
    rw [List.any_flatMap, Bool.eq_iff_iff, List.any_eq_true, List.any_eq_true]
    refine exists_congr fun d ↦ and_congr_right fun hd ↦ ?_
    have hd := hmodifiers d hd
    rw [← source_shaper source m] at hd
    rw [hd.any_convertRow]

end LintMark.Java

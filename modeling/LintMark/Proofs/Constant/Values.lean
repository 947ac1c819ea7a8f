import LintMark.Proofs.Constant.Fields
import LintMark.Proofs.Constant.Passes
import LintMark.Proofs.Java.Fields
import LintMark.Proofs.Window.Neighbours

/-!
# What constants are bound to

Recognition does not look at the value of a field: it binds the name to the first node of the value,
whatever that is. So the kind of the node is the one with which shaping a value of that form starts
(`valueKinds`), and it is the kind of a literal exactly if the value is written as a literal
(`Reading.kind_constant`). A field whose value is a call, the creation of an object, an operation,
an expression in parentheses or a list of values is bound like any other, to a node that is no
literal.

## Which definitions count

The definitions of variables in a tree are made for declarators and for the variables of loops. Only
those with five parts can declare constants, and the variable of a loop has three.
-/

namespace LintMark

namespace Java

open Cst Outline Shaper

/-! ## Forms of values -/

/-- The types of literals. -/
def literalTypes : List String :=
  ["decimal_integer_literal", "hex_integer_literal", "octal_integer_literal",
    "binary_integer_literal", "decimal_floating_point_literal", "hex_floating_point_literal",
    "string_literal", "text_block", "character_literal", "true", "false", "null_literal"]

/-- The types of values that are shaped to one node of a kind of their own. -/
def plainValues : List String :=
  literalTypes ++
    ["identifier", "this", "method_invocation", "object_creation_expression",
      "array_creation_expression", "binary_expression", "assignment_expression",
      "unary_expression", "update_expression", "field_access", "array_access", "cast_expression",
      "ternary_expression", "instanceof_expression", "lambda_expression", "method_reference"]

/-- The types of values without a rule of their own. -/
def genericValues : List String := ["class_literal", "template_expression"]

/-- The types of values. -/
def valueTypes : List String :=
  plainValues ++ genericValues ++
    ["parenthesized_expression", "switch_expression", "array_initializer"]

/-- A value as the grammar has it. -/
inductive IsValue (source : SourceText) (value : Cst) : Prop
  | plain (htype : value.type ∈ plainValues)
  | generic (htype : value.type ∈ genericValues) (hchildren : value.children ≠ [])
  | parenthesized (htype : value.type = "parenthesized_expression")
      (hopening : ∃ c cs, value.children = c :: cs ∧ c.type = "(")
  | switch (htype : value.type = "switch_expression")
      (hkeyword : ∃ c cs, value.content = c :: cs ∧ c.text source = "switch")
  | list (htype : value.type = "array_initializer")

/-- The kinds that the first node of a value can have. -/
def valueKinds (type : String) : List Kind :=
  match Construct.ofType type with
  | .leaf kind => [kind]
  | .integer => [.numInt, .numLong]
  | .float => [.numDouble, .numFloat]
  | .keywordStatement => [.keyword "SWITCH"]
  | .methodCall => [.methodCall]
  | .objectCreation | .arrayCreation => [.literalNew]
  | .arrayInitializer => [.rcurly, .comma, .arrayInit, .expr]
  | .binary => binaryOperators.map Prod.snd ++ [.binary]
  | .assignment => assignmentOperators.map Prod.snd ++ [.assign]
  | .unary => unaryOperators.map Prod.snd ++ [.unary]
  | .update => [.inc, .postInc, .dec, .postDec]
  | .parenthesized => [.lparen]
  | .dotted => [.dot]
  | .arrayAccess => [.indexOp]
  | .cast => [.typecast]
  | .ternary => [.question]
  | .instanceOf => [.literalInstanceof]
  | .lambda => [.lambda]
  | .methodReference => [.methodRef]
  | .generic => [kindOfType type]
  | _ => []

theorem IsValue.type_mem {source : SourceText} {value : Cst} (h : IsValue source value) :
    value.type ∈ valueTypes := by
  cases h with
  | plain htype => exact List.mem_append_left _ (List.mem_append_left _ htype)
  | generic htype => exact List.mem_append_left _ (List.mem_append_right _ htype)
  | parenthesized htype | switch htype | list htype =>
    rw [htype]
    decide

/-- The form of a value decides whether its first node can be a literal. -/
theorem IsValue.mem_literals_iff {source : SourceText} {value : Cst} (h : IsValue source value)
    {kind : Kind} (hkind : kind ∈ valueKinds value.type) :
    kind ∈ Kind.literals ↔ value.type ∈ literalTypes := by
  have hforms : ∀ type ∈ valueTypes, ∀ kind ∈ valueKinds type,
      kind ∈ Kind.literals ↔ type ∈ literalTypes := by decide +kernel
  exact hforms _ h.type_mem _ hkind

/-! ## The first node of a value -/

namespace Shaper

variable {s : Shaper} {value : Cst} {o : Outline}

theorem lookup_getD_mem (kinds : List (String × Kind)) (other : Kind) (text : String) :
    (kinds.lookup text).getD other ∈ kinds.map Prod.snd ++ [other] := by
  cases hlookup : kinds.lookup text with
  | none => exact List.mem_append_right _ (List.mem_singleton_self other)
  | some kind =>
    obtain ⟨front, back, rfl, -⟩ := List.lookup_eq_some_iff.1 hlookup
    simp

theorem kind_number_mem (short long : Kind) (letters : List Char) (row : Cst) :
    (s.number short long letters row).kind ∈ [short, long] := by
  rw [number, kind_leaf]
  split
  · split
    · exact List.mem_cons_of_mem _ List.mem_cons_self
    · exact List.mem_cons_self
  · exact List.mem_cons_self

theorem kind_update_mem (row : Cst) :
    (s.update row).kind ∈ [Kind.inc, .postInc, .dec, .postDec] := by
  rw [update]
  dsimp only
  split
  · rw [kind_node]
    split_ifs
    · decide
    · decide
    · decide
    · decide
  · rw [kind_node]
    decide

theorem kind_head_parenthesized {c : Cst} {cs : List Cst} (hchildren : value.children = c :: cs)
    (htype : c.type = "(") (ho : (s.parenthesized false value).head? = some o) :
    o.kind = .lparen := by
  rw [parenthesized, hchildren, List.flatMap_cons, if_pos htype] at ho
  cases ho
  rfl

theorem kind_head_keywordStatement {word : String} {c : Cst} {cs : List Cst}
    (hcontent : value.content = c :: cs) (htext : s.text c = word)
    (ho : (s.keywordStatement value).head? = some o) : o.kind = .keyword (Text.toUpper word) := by
  rw [keywordStatement, hcontent] at ho
  cases ho
  rw [kind_node, htext]

theorem kind_head_generic (hchildren : value.children ≠ [])
    (ho : [s.generic value].head? = some o) : o.kind = kindOfType value.type := by
  rw [generic, if_neg (by rwa [List.isEmpty_iff])] at ho
  cases ho
  rfl

/-- The first node of a value that is no list has one of the kinds of its form. -/
theorem kind_head_convertRow (h : IsValue s.source value)
    (hlist : value.type ≠ "array_initializer")
    (ho : (s.convertRow value).head? = some o) : o.kind ∈ valueKinds value.type := by
  cases h with
  | generic htype hchildren =>
    have hconstruct : ∀ type ∈ genericValues, Construct.ofType type = .generic := by decide
    rw [convertRow, hconstruct _ htype] at ho
    rw [valueKinds, hconstruct _ htype, kind_head_generic hchildren ho]
    exact List.mem_singleton_self _
  | parenthesized htype hopening =>
    obtain ⟨c, cs, hchildren, hc⟩ := hopening
    rw [convertRow, htype] at ho
    rw [htype, kind_head_parenthesized hchildren hc ho]
    decide
  | switch htype hkeyword =>
    obtain ⟨c, cs, hcontent, hc⟩ := hkeyword
    rw [convertRow, htype] at ho
    rw [htype, kind_head_keywordStatement hcontent hc ho]
    decide
  | list htype => exact absurd htype hlist
  | plain htype =>
    have hconstructs : ∀ type ∈ plainValues, valueKinds type ≠ [] ∧ Construct.ofType type ∉
        [Construct.generic, .parenthesized, .keywordStatement, .arrayInitializer] := by decide
    obtain ⟨hkinds, hnot⟩ := hconstructs _ htype
    rw [convertRow] at ho
    rw [valueKinds] at hkinds ⊢
    cases hconstruct : Construct.ofType value.type with
    | generic | parenthesized | keywordStatement | arrayInitializer =>
      rw [hconstruct] at hnot
      exact absurd (by decide) hnot
    | integer | float =>
      rw [hconstruct] at ho
      cases ho
      exact kind_number_mem _ _ _ _
    | binary | assignment | unary =>
      rw [hconstruct] at ho
      cases ho
      exact lookup_getD_mem _ _ _
    | update =>
      rw [hconstruct] at ho
      cases ho
      exact kind_update_mem value
    | leaf | methodCall | objectCreation | arrayCreation | dotted | arrayAccess | cast | ternary
    | instanceOf | lambda | methodReference =>
      rw [hconstruct] at ho
      cases ho
      exact List.mem_singleton_self _
    | _ =>
      rw [hconstruct] at hkinds
      exact absurd rfl hkinds

variable {source : SourceText} {n : Nat}

theorem kind_arrayInitializer_mem
    (ho : o ∈ ((shaper source n).arrayInitializer value).children) :
    o.kind ∈ [Kind.rcurly, .comma, .arrayInit, .expr] := by
  obtain ⟨c, -, ho⟩ := List.mem_flatMap.1 ho
  split_ifs at ho with hskipped hclosing hcomma hnested
  · cases ho
  · rw [List.mem_singleton.1 ho, kind_leaf]
    decide
  · rw [List.mem_singleton.1 ho, kind_leaf]
    decide
  · obtain ⟨m, ho⟩ := exists_of_mem_convert_shaper ho
    rw [convertRow, hnested] at ho
    rw [List.mem_singleton.1 ho]
    exact List.mem_of_elem_eq_true rfl
  · rw [List.mem_singleton.1 ho]
    exact List.mem_of_elem_eq_true rfl

/-- What a name is bound to has one of the kinds of the form of the value. -/
theorem kind_head_valueOutlines (h : IsValue source value)
    (ho : ((shaper source n).valueOutlines value).head? = some o) :
    o.kind ∈ valueKinds value.type := by
  rw [valueOutlines] at ho
  split_ifs at ho with hlist
  · rw [hlist]
    exact kind_arrayInitializer_mem (List.mem_of_head? ho)
  · cases n with
    | zero => cases ho
    | succ n =>
      refine kind_head_convertRow (s := shaper source n) ?_ hlist ho
      rwa [source_shaper]

end Shaper

end Java

namespace Reading

open Java Cst Outline Shaper

/-! ## Definitions in a tree -/

/-- The values and the names of loop variables in a reading are as the grammar has them, and no row
without a rule spells out the kind of a definition. -/
structure HasGrammaticalValues (r : Reading) : Prop where
  value : ∀ row ∈ r.root.rows, ∀ d ∈ declarators row, ∀ value ∈ d.field? "value",
    IsValue r.source value
  loopName : ∀ row ∈ r.root.rows, row.type = "enhanced_for_statement" →
    ∀ name ∈ row.field? "name", name.type ∈ ["identifier", "underscore_pattern"]
  generic : ∀ row ∈ r.root.rows, Construct.ofType row.type = .generic →
    Text.toUpper row.type ≠ "VARIABLE_DEF"

variable {r : Reading} {path : Text} {strict : Bool} {t : Tree} {row d : Cst} {o : Outline}
  {m : Nat}

theorem length_convert_loopName_le {source : SourceText} {name : Cst}
    (h : name.type ∈ ["identifier", "underscore_pattern"]) :
    ((shaper source m).convert name).length ≤ 1 := by
  have hconstructs : ∀ type ∈ ["identifier", "underscore_pattern"],
      Construct.ofType type ∈ [.leaf .ident, .dotted, .generic] := by decide
  exact length_convert_shaper_le m (hconstructs _ h)

/-- Of the definitions of variables only those that are made for declarators have five parts. -/
theorem exists_declarator_of_makes (hr : r.HasGrammaticalValues) (hrow : row ∈ r.root.rows)
    (h : (shaper r.source m).Makes row o) (hkind : o.kind = .variableDef)
    (hlength : o.children.length = 5) :
    ∃ d ∈ declarators row, ∃ terminator, o = (shaper r.source m).variableDef row d terminator := by
  have hstructural : Kind.variableDef ∈ Kind.structural := by decide
  cases h with
  | variableDef d hd terminator => exact ⟨d, hd, terminator, rfl⟩
  | other hother => exact absurd (hkind ▸ hstructural) hother
  | generic hconstruct =>
    have hupper : (⟨Text.toUpper row.type⟩ : Kind) ≠ .variableDef := fun heq ↦
      hr.generic row hrow hconstruct (congrArg Kind.name heq)
    have htype : kindOfType row.type ∉ [Kind.variableDef] :=
      lookup_getD_notMem (by decide) (by simpa using hupper) row.type
    exact absurd hkind (kind_generic_ne hstructural hupper (by simpa using htype))
  | loopVariable hconstruct =>
    have hname : ((row.field? "name").toList.flatMap (shaper r.source m).convert).length ≤ 1 := by
      cases hname : row.field? "name" with
      | none => exact Nat.zero_le 1
      | some name =>
        rw [Option.toList_some, List.flatMap_singleton]
        have htype : row.type ∈ ["enhanced_for_statement"] :=
          Construct.type_mem_of_ofType hconstruct (by decide)
        exact length_convert_loopName_le
          (hr.loopName row hrow (List.mem_singleton.1 htype) name hname)
    have htype := (row.field? "type").length_toList_le
    change (_ :: (_ ++ _)).length = 5 at hlength
    rw [List.length_cons, List.length_append, List.length_map] at hlength
    omega
  | typeDeclaration kind hconstruct =>
    have hkinds : ∀ kind ∈ Kind.typeDeclarations, kind ≠ .variableDef := by decide
    exact absurd hkind (hkinds kind (Construct.typeDeclaration_mem hconstruct))
  | typeBody => exact absurd hkind (by decide : Kind.objBlock ≠ .variableDef)
  | block => exact absurd hkind (by decide : Kind.slist ≠ .variableDef)
  | method => exact absurd hkind (by decide : Kind.methodDef ≠ .variableDef)
  | constructor => exact absurd hkind (by decide : Kind.ctorDef ≠ .variableDef)
  | parameter | catchParameter =>
    exact absurd hkind (by decide : Kind.parameterDef ≠ .variableDef)

theorem exists_eq_some_of_length_toList {α : Type} {o : Option α} (h : o.toList.length = 1) :
    ∃ x, o = some x := by
  cases o with
  | none => cases h
  | some x => exact ⟨x, rfl⟩

/-- A definition with five parts has a type, a name, a value and a separator. -/
theorem parts_of_length_eq_five {s : Shaper} {terminator : Option Outline}
    (h : (s.variableDef row d terminator).children.length = 5) :
    ∃ type name value separator, row.field? "type" = some type ∧ d.field? "name" = some name ∧
      d.field? "value" = some value ∧ terminator = some separator := by
  change (_ :: (_ ++ _ ++ _ ++ _)).length = 5 at h
  rw [List.length_cons, List.length_append, List.length_append, List.length_append,
    List.length_map, List.length_map, List.length_map] at h
  have htype := (row.field? "type").length_toList_le
  have hname := (d.field? "name").length_toList_le
  have hvalue := (d.field? "value").length_toList_le
  have hseparator := terminator.length_toList_le
  obtain ⟨type, htype⟩ := exists_eq_some_of_length_toList (o := row.field? "type") (by omega)
  obtain ⟨name, hname⟩ := exists_eq_some_of_length_toList (o := d.field? "name") (by omega)
  obtain ⟨value, hvalue⟩ := exists_eq_some_of_length_toList (o := d.field? "value") (by omega)
  obtain ⟨separator, hseparator⟩ := exists_eq_some_of_length_toList (o := terminator) (by omega)
  exact ⟨type, name, value, separator, htype, hname, hvalue, hseparator⟩

/-! ## Main result -/

/-- **What constants are bound to.** Every binding of the constant pass comes from a declarator with
a value, in a declaration with three modifiers: its name is bound to the first node of the value.
The kind of that node depends on the form of the value, and it is the kind of a literal exactly if
the value is written as a literal. -/
theorem kind_constant (hr : r.HasGrammaticalValues) (ht : r.tree path strict = .ok t)
    {ident literal : Nat} (h : t.constants.get? ident = some literal) :
    ∃ row ∈ r.root.rows, ∃ d ∈ declarators row, ∃ name ∈ d.field? "name",
      ∃ value ∈ d.field? "value", (∃ m, let s := shaper r.source m
        s.HasThreeModifiers row ∧ t.outline ident = s.leaf .ident name ∧
        (s.valueOutlines value).head? = some (t.outline literal)) ∧
      t.kind literal ∈ valueKinds value.type ∧
      (t.kind literal ∈ Kind.literals ↔ value.type ∈ literalTypes) := by
  obtain ⟨i, hi, hdeclares⟩ : ∃ i < t.size, t.DeclaresConstant i ident literal := by
    rw [eq_ofOutlines_of_tree ht] at h ⊢
    exact (Tree.get?_constants_ofOutlines ident literal).1 h
  obtain ⟨m, row, hrow, hmakes⟩ := exists_makes_outline ht hi
  have hlength : (t.outline i).children.length = 5 := by
    obtain ⟨-, modifiers, type, assign, semi, hchildren, -⟩ := hdeclares
    rw [t.length_children_outline, Tree.childCount, hchildren]
    rfl
  obtain ⟨d, hd, terminator, hk⟩ := exists_declarator_of_makes hr hrow hmakes
    ((t.kind_outline i).trans hdeclares.1) hlength
  rw [hk] at hlength
  obtain ⟨type, name, value, separator, htype, hname, hvalue, rfl⟩ :=
    parts_of_length_eq_five hlength
  obtain ⟨ident', assign, initial, hident, -, -, houtlines, hiff⟩ :=
    Java.constant?_eq_some_iff_of_value htype hname hk hvalue
  obtain ⟨rfl, hthree, -, hhead⟩ := (hiff (_, literal)).1
    (Tree.constant?_eq_some_iff.2 hdeclares)
  have hname' : t.outline ident = (shaper r.source m).leaf .ident name := by
    have hthird : ((t.children i).map t.outline)[2]? = some (t.outline ident) := by
      rw [List.getElem?_map, hident, Option.map_some]
    rw [← t.children_outline, hk, children_variableDef htype hname] at hthird
    exact (Option.some_inj.1 hthird).symm
  have hfirst : ((shaper r.source m).valueOutlines value).head? = some (t.outline literal) := by
    rw [← houtlines, List.head?_map, hhead, Option.map_some]
  have hform : IsValue r.source value := hr.value row hrow d hd value hvalue
  have hkind : t.kind literal ∈ valueKinds value.type := by
    rw [← t.kind_outline]
    exact kind_head_valueOutlines hform hfirst
  exact ⟨row, hrow, d, hd, name, hname, value, hvalue, ⟨m, hthree, hname', hfirst⟩, hkind,
    hform.mem_literals_iff hkind⟩

/-! ## A literal and a call -/

/-- A declaration of one field with three modifiers, as `public static final int X=1;`, from the
offset at which it starts and its value. The name has one letter. -/
def constantRow (start : Nat) (value : Cst) : Cst :=
  ⟨"field_declaration", start, value.stop + 1, true, false, none,
    [⟨"modifiers", start, start + 19, true, false, none,
        [⟨"public", start, start + 6, false, false, none, []⟩,
          ⟨"static", start + 7, start + 13, false, false, none, []⟩,
          ⟨"final", start + 14, start + 19, false, false, none, []⟩]⟩,
      ⟨"integral_type", start + 20, start + 23, true, false, some "type",
        [⟨"int", start + 20, start + 23, false, false, none, []⟩]⟩,
      ⟨"variable_declarator", start + 24, value.stop, true, false, some "declarator",
        [⟨"identifier", start + 24, start + 25, true, false, some "name", []⟩,
          ⟨"=", start + 25, start + 26, false, false, none, []⟩, value]⟩,
      ⟨";", value.stop, value.stop + 1, false, false, none, []⟩]⟩

/-- A class with two fields. The value of the first one is a number, that of the second one a call
without arguments. -/
def numberAndCall : Reading where
  source := .ofBytes ("class A \x7b" ++ "public static final int X=1;" ++
    "public static final int Y=f();" ++ "\x7d").toUTF8
  root :=
    ⟨"program", 0, 68, true, false, none,
      [⟨"class_declaration", 0, 68, true, false, none,
        [⟨"class", 0, 5, false, false, none, []⟩,
          ⟨"identifier", 6, 7, true, false, some "name", []⟩,
          ⟨"class_body", 8, 68, true, false, some "body",
            [⟨"\x7b", 8, 9, false, false, none, []⟩,
              constantRow 9 ⟨"decimal_integer_literal", 35, 36, true, false, some "value", []⟩,
              constantRow 37 ⟨"method_invocation", 63, 66, true, false, some "value",
                [⟨"identifier", 63, 64, true, false, some "name", []⟩,
                  ⟨"argument_list", 64, 66, true, false, some "arguments",
                    [⟨"(", 64, 65, false, false, none, []⟩,
                      ⟨")", 65, 66, false, false, none, []⟩]⟩]⟩,
              ⟨"\x7d", 67, 68, false, false, none, []⟩]⟩]⟩]⟩
  flagged := false

/-- The tree of the class. -/
def numberAndCallTree : Tree :=
  .ofOutlines ((shaper numberAndCall.source nestingLimit).convertRow numberAndCall.root)

theorem tree_numberAndCall : numberAndCall.tree "A.java" true = .ok numberAndCallTree := by rfl

theorem hasGrammaticalValues_numberAndCall : numberAndCall.HasGrammaticalValues := by
  have hvalues : ∀ row ∈ numberAndCall.root.rows, ∀ d ∈ declarators row,
      ∀ value ∈ d.field? "value", value.type ∈ plainValues := by decide +kernel
  exact ⟨fun row hrow d hd value hvalue ↦ .plain (hvalues row hrow d hd value hvalue),
    by decide +kernel, by decide +kernel⟩

/-- The two names and what stands first in their values, and the links of the two definitions. -/
theorem nodes_numberAndCall :
    numberAndCallTree.text 14 = "X" ∧ numberAndCallTree.kind 17 = .numInt ∧
    numberAndCallTree.text 26 = "Y" ∧ numberAndCallTree.kind 29 = .methodCall ∧
    ∀ p ∈ [(7, 14, 17, 18), (19, 26, 29, 33)],
      let parts := [p.1 + 1, p.1 + 5, p.2.1, p.1 + 8, p.2.2.2]
      let words := [p.1 + 2, p.1 + 3, p.1 + 4]
      parts.map numberAndCallTree.kind = [.modifiers, .type, .ident, .assign, .semi] ∧
      numberAndCallTree.kind p.1 = .variableDef ∧
      numberAndCallTree.initializerToken (p.1 + 8) = some p.2.2.1 ∧
      ∀ q ∈ [(p.1, parts), (p.1 + 1, words)],
        (numberAndCallTree.node q.1).firstChild = q.2.head? ∧
        ∀ e ∈ q.2.zip (q.2.tail.map some ++ [none]),
          (numberAndCallTree.node e.1).nextSibling = e.2 := by decide +kernel

/-- The two definitions with their names, their values and their separators. -/
theorem declaresConstant_numberAndCall : ∀ p ∈ [(7, 14, 17, 18), (19, 26, 29, 33)],
    numberAndCallTree.DeclaresConstant p.1 p.2.1 p.2.2.1 := by
  obtain ⟨-, -, -, -, hlinks⟩ := nodes_numberAndCall
  intro p hp
  obtain ⟨hkinds, hkind, htoken, hchildren⟩ := hlinks p hp
  simp only [List.forall_mem_cons] at hchildren
  obtain ⟨hparts, hwords, -⟩ := hchildren
  simp only [List.map_cons, List.map_nil, List.cons.injEq] at hkinds
  obtain ⟨hmodifiers, htype, hident, hassign, hsemi, -⟩ := hkinds
  refine ⟨hkind, _, _, _, _, Tree.children_eq_of_links hparts.1 hparts.2, hmodifiers, ?_, htype,
    hident, hassign, hsemi, htoken⟩
  rw [Tree.childCount, Tree.children_eq_of_links hwords.1 hwords.2]
  rfl

theorem get?_constants_numberAndCall : numberAndCallTree.constants.get? 14 = some 17 ∧
    numberAndCallTree.constants.get? 26 = some 29 := by
  have hdeclares := declaresConstant_numberAndCall
  simp only [List.forall_mem_cons] at hdeclares
  obtain ⟨hnumber, hcall, -⟩ := hdeclares
  exact ⟨(Tree.get?_constants_ofOutlines 14 17).2 ⟨7, hnumber.lt_size, hnumber⟩,
    (Tree.get?_constants_ofOutlines 26 29).2 ⟨19, hcall.lt_size, hcall⟩⟩

/-- The name of the first field is bound to a literal, since its value is written as one. -/
theorem kind_constant_number :
    numberAndCall.HasGrammaticalValues ∧ numberAndCall.tree "A.java" true = .ok numberAndCallTree ∧
    numberAndCallTree.constants.get? 14 = some 17 ∧ numberAndCallTree.text 14 = "X" ∧
    ∃ row ∈ numberAndCall.root.rows, ∃ d ∈ declarators row, ∃ value ∈ d.field? "value",
      numberAndCallTree.kind 17 ∈ valueKinds value.type ∧ value.type ∈ literalTypes := by
  obtain ⟨row, hrow, d, hd, -, -, value, hvalue, -, hkind, hiff⟩ := kind_constant
    hasGrammaticalValues_numberAndCall tree_numberAndCall get?_constants_numberAndCall.1
  obtain ⟨hname, hnumber, -⟩ := nodes_numberAndCall
  have hliteral : numberAndCallTree.kind 17 ∈ Kind.literals := by
    rw [hnumber]
    decide
  exact ⟨hasGrammaticalValues_numberAndCall, tree_numberAndCall, get?_constants_numberAndCall.1,
    hname, row, hrow, d, hd, value, hvalue, hkind, hiff.1 hliteral⟩

/-- The name of the second field is bound to the node of a call, which is no literal, though the
source has no fault. -/
theorem constant_of_call :
    numberAndCall.hasFault = false ∧ numberAndCall.tree "A.java" true = .ok numberAndCallTree ∧
    numberAndCallTree.constants.get? 26 = some 29 ∧ numberAndCallTree.text 26 = "Y" ∧
    numberAndCallTree.kind 29 = .methodCall ∧ numberAndCallTree.kind 29 ∉ Kind.literals := by
  obtain ⟨-, -, hname, hcall, -⟩ := nodes_numberAndCall
  have hliteral : numberAndCallTree.kind 29 ∉ Kind.literals := by
    rw [hcall]
    decide
  exact ⟨by decide +kernel, tree_numberAndCall, get?_constants_numberAndCall.2, hname, hcall,
    hliteral⟩

end Reading

end LintMark

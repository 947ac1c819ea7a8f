import LintMark.Java.Cst
import LintMark.Syntax.Kind
import LintMark.Text.Case

/-!
# Constructs and signs of Java

The tables that take the types of concrete rows to constructs, and signs and words to kinds.
`Construct.ofType` sorts row types by how their rows are shaped; a type without an entry is
`generic`, so that any row can be shaped.
-/

namespace LintMark.Java

/-- How rows are shaped: one entry for each construct with a rule of its own. -/
inductive Construct where
  | comment
  /-- A row that becomes a single leaf of a fixed kind, whatever stands below it. -/
  | leaf (kind : Kind)
  | integer
  | float
  | program
  | package
  | importDecl
  | typeDeclaration (kind : Kind)
  | typeBody
  | modifiers
  | field
  | localVariable
  | method
  | constructor
  | parameters
  | block
  | expressionStatement
  | keywordStatement
  | enhancedFor
  | catchClause
  | finallyClause
  | switchLabel
  /-- A row that leaves its place to its children. -/
  | dissolved
  | arguments
  | methodCall
  | objectCreation
  | arrayCreation
  | arrayInitializer
  | binary
  | assignment
  | unary
  | update
  | parenthesized
  | dotted
  | arrayAccess
  | cast
  | ternary
  | instanceOf
  | lambda
  | methodReference
  | constructorCall
  | primitiveType
  | scopedType
  | genericType
  | arrayType
  | annotatedType
  | generic
deriving DecidableEq, Repr

namespace Construct

/-- The leaf kinds, by row type. -/
def leaves : List (String × Kind) :=
  [("identifier", .ident), ("type_identifier", .ident), ("string_literal", .stringLiteral),
    ("text_block", .textBlock), ("character_literal", .charLiteral), ("true", .literalTrue),
    ("false", .literalFalse), ("null_literal", .literalNull), ("this", .literalThis),
    ("super", .literalSuper), ("asterisk", .star)]

/-- The types of type declarations, with the kinds that they become. -/
def typeDeclarations : List (String × Kind) :=
  [("class_declaration", .classDef), ("interface_declaration", .interfaceDef),
    ("enum_declaration", .enumDef), ("record_declaration", .recordDef),
    ("annotation_type_declaration", .annotationDef)]

/-- The types of statements that start with a keyword. -/
def keywordStatements : List String :=
  ["if_statement", "while_statement", "do_statement", "for_statement", "return_statement",
    "throw_statement", "break_statement", "continue_statement", "synchronized_statement",
    "assert_statement", "yield_statement", "try_statement", "try_with_resources_statement",
    "switch_expression", "switch_statement"]

/-- The types of primitive type references. -/
def primitiveTypes : List String :=
  ["integral_type", "floating_point_type", "boolean_type", "void_type"]

/-- The constructs that have one row type each. -/
def singles : List (String × Construct) :=
  [("program", program), ("package_declaration", package), ("import_declaration", importDecl),
    ("modifiers", modifiers), ("field_declaration", field), ("constant_declaration", field),
    ("local_variable_declaration", localVariable), ("method_declaration", method),
    ("constructor_declaration", constructor), ("formal_parameters", parameters), ("block", block),
    ("constructor_body", block), ("expression_statement", expressionStatement),
    ("enhanced_for_statement", enhancedFor), ("catch_clause", catchClause),
    ("finally_clause", finallyClause), ("switch_label", switchLabel),
    ("enum_body_declarations", dissolved), ("argument_list", arguments),
    ("method_invocation", methodCall), ("object_creation_expression", objectCreation),
    ("array_creation_expression", arrayCreation), ("array_initializer", arrayInitializer),
    ("binary_expression", binary), ("assignment_expression", assignment),
    ("unary_expression", unary), ("update_expression", update),
    ("parenthesized_expression", parenthesized), ("field_access", dotted),
    ("scoped_identifier", dotted), ("array_access", arrayAccess), ("cast_expression", cast),
    ("ternary_expression", ternary), ("instanceof_expression", instanceOf),
    ("lambda_expression", lambda), ("method_reference", methodReference),
    ("explicit_constructor_invocation", constructorCall), ("class_body", typeBody),
    ("interface_body", typeBody), ("enum_body", typeBody), ("annotation_type_body", typeBody),
    ("scoped_type_identifier", scopedType), ("generic_type", genericType),
    ("array_type", arrayType), ("annotated_type", annotatedType),
    ("decimal_integer_literal", integer), ("hex_integer_literal", integer),
    ("octal_integer_literal", integer), ("binary_integer_literal", integer),
    ("decimal_floating_point_literal", float), ("hex_floating_point_literal", float)]

/-- All entries. -/
def table : List (String × Construct) :=
  Cst.commentTypes.map (·, comment) ++ leaves.map (fun (type, kind) ↦ (type, leaf kind))
    ++ typeDeclarations.map (fun (type, kind) ↦ (type, typeDeclaration kind))
    ++ keywordStatements.map (·, keywordStatement) ++ primitiveTypes.map (·, primitiveType)
    ++ singles

/-- The construct of a row type. -/
def ofType (type : String) : Construct := (table.lookup type).getD generic

end Construct

/-! ## Families of row types -/

/-- The types of type references. -/
def typeReferences : List String :=
  Construct.primitiveTypes ++
    ["type_identifier", "scoped_type_identifier", "generic_type", "array_type", "annotated_type"]

/-- The types of rows that stand in a keyword statement as they are, and not as expressions. -/
def statements : List String :=
  Construct.keywordStatements ++
    ["block", "expression_statement", "local_variable_declaration", "enhanced_for_statement",
      "labeled_statement", "local_class_declaration", "class_declaration",
      "interface_declaration", "enum_declaration", "record_declaration",
      "explicit_constructor_invocation", "switch_block", "switch_rule", "switch_label",
      "catch_clause", "finally_clause", "resource_specification", ";"]

/-- The kinds of rows without a rule of their own whose kind is not just their type. -/
def renamed : List (String × Kind) :=
  [("enum_constant", .enumConstantDef), ("static_initializer", .staticInit),
    ("marker_annotation", .annot), ("annotation", .annot),
    ("switch_block_statement_group", .caseGroup), ("type_parameters", .typeParameters),
    ("labeled_statement", .labeledStat)]

/-! ## Signs -/

/-- The kinds of punctuation. -/
def punctuation : List (String × Kind) :=
  [(";", .semi), (",", .comma), (".", .dot), ("(", .lparen), (")", .rparen), ("\x7b", .lcurly),
    ("\x7d", .rcurly), ("[", .lbrack), ("]", .rbrack), (":", .colon), ("?", .question),
    ("@", .atSign), ("...", .ellipsis), ("->", .lambda), ("::", .methodRef)]

/-- The kinds of binary operators. -/
def binaryOperators : List (String × Kind) :=
  [("+", ⟨"PLUS"⟩), ("-", ⟨"MINUS"⟩), ("*", .star), ("/", ⟨"DIV"⟩), ("%", ⟨"MOD"⟩),
    ("==", ⟨"EQUAL"⟩), ("!=", ⟨"NOT_EQUAL"⟩), ("<", ⟨"LT"⟩), (">", ⟨"GT"⟩), ("<=", ⟨"LE"⟩),
    (">=", ⟨"GE"⟩), ("&&", ⟨"LAND"⟩), ("||", ⟨"LOR"⟩), ("&", ⟨"BAND"⟩), ("|", .bor),
    ("^", ⟨"BXOR"⟩), ("<<", ⟨"SL"⟩), (">>", ⟨"SR"⟩), (">>>", ⟨"BSR"⟩)]

/-- The kinds of assignment operators. -/
def assignmentOperators : List (String × Kind) :=
  [("=", .assign), ("+=", ⟨"PLUS_ASSIGN"⟩), ("-=", ⟨"MINUS_ASSIGN"⟩), ("*=", ⟨"STAR_ASSIGN"⟩),
    ("/=", ⟨"DIV_ASSIGN"⟩), ("%=", ⟨"MOD_ASSIGN"⟩), ("&=", ⟨"BAND_ASSIGN"⟩),
    ("|=", ⟨"BOR_ASSIGN"⟩), ("^=", ⟨"BXOR_ASSIGN"⟩), ("<<=", ⟨"SL_ASSIGN"⟩),
    (">>=", ⟨"SR_ASSIGN"⟩), (">>>=", ⟨"BSR_ASSIGN"⟩)]

/-- The kinds of unary operators. -/
def unaryOperators : List (String × Kind) :=
  [("-", ⟨"UNARY_MINUS"⟩), ("+", ⟨"UNARY_PLUS"⟩), ("!", ⟨"LNOT"⟩), ("~", ⟨"BNOT"⟩)]

/-- The kind of a token without a name: that of a sign, else that of a word, which may have at
signs in front and hyphens inside. -/
def tokenKind (text : String) : Kind :=
  ((punctuation ++ binaryOperators ++ assignmentOperators).lookup text).getD <|
    let word := text.toList.dropWhile (· = '@')
    let letters := word.filter (· ≠ '-')
    if !letters.isEmpty && letters.all Text.isLetter then
      .keyword (String.ofList
        ((word.flatMap Text.upperOf).map fun c ↦ if c = '-' then '_' else c))
    else .token

/-- The kind of a row without a rule of its own. -/
def kindOfType (type : String) : Kind := (renamed.lookup type).getD ⟨Text.toUpper type⟩

end LintMark.Java

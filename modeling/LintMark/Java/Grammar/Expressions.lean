import LintMark.Java.Grammar.Types

/-!
# Expressions

An expression is a chain of operands and operators, with a condition around it perhaps. Binary
operators have a strength. `operation` reads an operand and then extends it by each operator that is
strong enough; the right operand may hold stronger operators only. So operators of one strength
associate to the left.

An assignment and a lambda expression take all that follows, wherever they stand. They are read as
operands, since nothing but the end of the expression can follow them.

This is part of the stand-in grammar, on which no theorem depends.
-/

namespace LintMark.Java.Phrase

open Pattern

variable (lambdas : Bool)

/-! ## Operators -/

/-- The strength of a test for a type or of a comparison by order. -/
def relationalStrength : Nat := 7

/-- The binary operators, with their strengths. An operator comes after those that it begins. -/
def binaryOperators : List (Nat × Phrase) :=
  [(1, "||"), (2, "&&"), (3, "|"), (4, "^"), (5, "&"), (6, "=="), (6, "!="),
    (8, "<<"), (8, joined [">", ">", ">"]), (8, joined [">", ">"]),
    (relationalStrength, "<="), (relationalStrength, joined [">", "="]),
    (relationalStrength, "<"), (relationalStrength, ">"),
    (9, "+"), (9, "-"), (10, "*"), (10, "/"), (10, "%")]

/-- The operators that assign. -/
def assignmentOperator : Phrase :=
  oneOf
    ["=", "+=", "-=", "*=", "/=", "%=", "&=", "|=", "^=", "<<=", joined [">", ">", ">", "="],
      joined [">", ">", "="]]

/-! ## Patterns of records -/

/-- A record pattern: a type, and patterns for its components. -/
def recordPattern : Phrase :=
  row "record_pattern" <| all
    -- A name without type arguments stays a plain identifier here.
    [oneOf [all [classType, behind ["generic_type"]], "identifier"],
      row "record_pattern_body" <| all
        ["(",
          list <| oneOf
            [call .recordPattern, row "record_pattern_component" (all [plainType, "identifier"])],
          ")"]]

/-! ## Chains of operators -/

/-- A test for a type, behind its operand. -/
def typeTest : Phrase :=
  extend "instanceof_expression" "left" <| all
    ["instanceof", optional "final",
      oneOf
        [field "pattern" (call .recordPattern),
          all [field "right" (call .type), optional (field "name" "identifier")]]]

/-- The operators of at least the given strength, behind their left operands. -/
def operators (strength : Nat) : List Phrase :=
  (if strength ≤ relationalStrength then [typeTest] else []) ++
    (binaryOperators.filter (strength ≤ ·.1)).map fun (own, sign) ↦
      extend "binary_expression" "left"
        (all [field "operator" sign, field "right" (call (.operation (own + 1) lambdas))])

/-- An operand, and operators of at least the given strength. -/
def operation (strength : Nat) : Phrase :=
  all [call (.operand lambdas), repeated (oneOf (operators lambdas strength))]

/-- An expression. -/
def expression : Phrase :=
  all
    [call (.operation 0 lambdas),
      optional <| extend "ternary_expression" "condition" <| all
        ["?", field "consequence" (call (.expression true)), ":",
          field "alternative" (call (.expression lambdas))]]

/-- An expression in parentheses. -/
def parenthesized : Phrase :=
  row "parenthesized_expression" (all ["(", call (.expression true), ")"])

/-! ## Operands -/

/-- The names of parameters without types. -/
def inferredParameters : Phrase :=
  row "inferred_parameters" (all ["(", separated "," "identifier", ")"])

/-- A lambda expression. -/
def lambda : Phrase :=
  row "lambda_expression" <| all
    [field "parameters" (oneOf ["identifier", inferredParameters, call .parameters]), "->",
      field "body" (oneOf [call .block, call (.expression lambdas)])]

/-- What the operand of a cast to a class may start with. A sign that may also be a binary operator
does not, so that `(a) - b` is a difference. -/
def castOperandStart : Phrase :=
  oneOf
    ["identifier", "(", "!", "~", "this", "super", "new", "switch", "true", "false",
      "null_literal", "string_literal", "character_literal", "decimal_integer_literal",
      "hex_integer_literal", "octal_integer_literal", "binary_integer_literal",
      "decimal_floating_point_literal", "hex_floating_point_literal", primitiveType]

/-- A cast. -/
def cast : Phrase :=
  row "cast_expression" <| all
    ["(",
      oneOf
        [all [field "type" primitiveType, ")"],
          all [separated "&" (field "type" (call .type)), ")", ahead castOperandStart]],
      field "value" (call (.operand lambdas))]

/-- An operand: a primary expression, and what binds as strongly as a sign in front. -/
def operand : Phrase :=
  -- A lambda expression and a cast may start like an expression in parentheses, so they come first.
  oneOf <| (if lambdas then [lambda lambdas] else []) ++
    [cast lambdas,
      row "unary_expression"
        (all [field "operator" (oneOf ["+", "-", "!", "~"]),
          field "operand" (call (.operand lambdas))]),
      row "update_expression" (all [oneOf ["++", "--"], call (.operand lambdas)]),
      call .switchExpression,
      all
        [call .primary,
          optional <| oneOf
            [extend "update_expression" none (oneOf ["++", "--"]),
              -- Only what names a variable can be assigned to.
              all
                [behind ["identifier", "field_access", "array_access"],
                  extend "assignment_expression" "left"
                    (all [field "operator" assignmentOperator,
                      field "right" (call (.expression lambdas))])]]]]

/-! ## Primary expressions -/

/-- A literal, or a word that stands for a value. -/
def literal : Phrase :=
  oneOf
    ["string_literal", "decimal_integer_literal", "true", "false", "null_literal",
      "character_literal", "hex_integer_literal", "octal_integer_literal",
      "binary_integer_literal", "decimal_floating_point_literal", "hex_floating_point_literal",
      "this", "super"]

/-- The arguments of a call. -/
def arguments : Phrase := row "argument_list" (all ["(", list (call (.expression true)), ")"])

/-- A class literal, or a type that only a method reference can name. -/
def typeOperand : Phrase :=
  all
    [plainType,
      oneOf
        [extend "class_literal" none (all [".", "class"]),
          all [behind ["generic_type", "array_type"], ahead "::"]]]

/-- The values of an array. -/
def arrayInitializer : Phrase :=
  row "array_initializer" <| all
    ["\x7b", list (oneOf [call .arrayInitializer, call (.expression true)]), optional ",", "\x7d"]

/-- The creation of an array. -/
def arrayCreation : Phrase :=
  row "array_creation_expression" <| all
    ["new", annotations, field "type" elementType,
      oneOf
        [all
          [several <| field "dimensions" <| row "dimensions_expr"
              (all [annotations, "[", call (.expression true), "]"]),
            optional (field "dimensions" dimensions)],
          all [field "dimensions" dimensions, field "value" (call .arrayInitializer)]]]

/-- The creation of an object, from the word `new` on. -/
def objectCreation : Phrase :=
  -- The type has no dimensions: the brackets of an array would follow it.
  all
    ["new", annotations, optional (field "type_arguments" (call .typeArguments)),
      field "type" elementType, field "arguments" (call .arguments), optional (call .classBody)]

/-- What extends a primary expression on its right. -/
def selectors : List Phrase :=
  let throughSuper := optional (all ["super", "."])
  [extend "method_invocation" "object" <| all
      [".", throughSuper, optional (field "type_arguments" (call .typeArguments)),
        field "name" "identifier", field "arguments" (call .arguments)],
    extend "field_access" "object"
      (all [".", throughSuper, field "field" (oneOf ["identifier", "this"])]),
    extend "array_access" "array" (all ["[", field "index" (call (.expression true)), "]"]),
    extend "object_creation_expression" none (all [".", objectCreation]),
    extend "method_reference" none
      (all ["::", optional (call .typeArguments), oneOf ["identifier", "new"]])]

/-- A primary expression. -/
def primary : Phrase :=
  all
    [oneOf
      [literal, typeOperand,
        row "method_invocation"
          (all [field "name" "identifier", field "arguments" (call .arguments)]),
        "identifier", parenthesized, arrayCreation,
        row "object_creation_expression" objectCreation],
      repeated (oneOf selectors)]

end LintMark.Java.Phrase

import LintMark.Java.Grammar.Declarations

/-!
# Statements

A statement is known by its first word, if that is reserved. Otherwise it is a label, the
declaration of a type or of variables, or an expression, whichever comes first in this order.

This is part of the stand-in grammar, on which no theorem depends.
-/

namespace LintMark.Java.Phrase

open Pattern

/-! ## Simple statements -/

/-- An expression as a statement. -/
def expressionStatement : Phrase :=
  row "expression_statement" (all [call (.expression true), ";"])

/-- A statement that throws an exception. -/
def throwStatement : Phrase :=
  row "throw_statement" (all ["throw", call (.expression true), ";"])

/-- A statement that gives a switch expression its value. -/
def yieldStatement : Phrase :=
  row "yield_statement" (all [word "yield", call (.expression true), ";"])

/-- A statement that ends a method. -/
def returnStatement : Phrase :=
  row "return_statement" (all ["return", optional (call (.expression true)), ";"])

/-- A statement that ends a loop or a switch. -/
def breakStatement : Phrase := row "break_statement" (all ["break", optional "identifier", ";"])

/-- A statement that starts a loop anew. -/
def continueStatement : Phrase :=
  row "continue_statement" (all ["continue", optional "identifier", ";"])

/-- A statement that checks a condition. -/
def assertStatement : Phrase :=
  row "assert_statement" <| all
    ["assert", call (.expression true), optional (all [":", call (.expression true)]), ";"]

/-! ## Compound statements -/

/-- A statement with a label. -/
def labeledStatement : Phrase :=
  row "labeled_statement" (all ["identifier", ":", call .statement])

/-- A block that holds a lock. -/
def synchronizedStatement : Phrase :=
  row "synchronized_statement" (all ["synchronized", parenthesized, field "body" (call .block)])

/-- A block. -/
def block : Phrase := row "block" (all ["\x7b", repeated (call .statement), "\x7d"])

/-! ## Choices and loops -/

/-- A choice between two statements. -/
def ifStatement : Phrase :=
  row "if_statement" <| all
    ["if", field "condition" parenthesized, field "consequence" (call .statement),
      optional (all ["else", field "alternative" (call .statement)])]

/-- A loop with its condition in front. -/
def whileStatement : Phrase :=
  row "while_statement"
    (all ["while", field "condition" parenthesized, field "body" (call .statement)])

/-- A loop with its condition at the end. -/
def doStatement : Phrase :=
  row "do_statement"
    (all ["do", field "body" (call .statement), "while", field "condition" parenthesized, ";"])

/-- A loop over the members of a collection. -/
def enhancedForStatement : Phrase :=
  row "enhanced_for_statement" <| all
    ["for", "(", modifiers, field "type" plainType, variableName, ":",
      field "value" (call (.expression true)), ")", field "body" (call .statement)]

/-- A loop with a start, a condition and a step. -/
def forStatement : Phrase :=
  row "for_statement" <| all
    ["for", "(",
      oneOf
        [field "init" (variableDeclaration "local_variable_declaration"),
          all [list (field "init" (call (.expression true))), ";"]],
      optional (field "condition" (call (.expression true))), ";",
      list (field "update" (call (.expression true))), ")", field "body" (call .statement)]

/-! ## Switches -/

/-- The label of a branch. -/
def switchLabel : Phrase :=
  let pattern := row "pattern" (oneOf [call .recordPattern,
    row "type_pattern" (all [plainType, "identifier"])])
  let guard := row "guard" (all [word "when", call (.expression false)])
  -- An arrow ends the label, so no lambda expression may take it.
  let constant := oneOf [lexeme "default" "identifier", call (.expression false)]
  row "switch_label"
    (oneOf
      [all ["case", oneOf [all [pattern, optional guard], separated "," constant]], "default"])

/-- A branch behind an arrow. -/
def switchRule : Phrase :=
  row "switch_rule" <| all
    [switchLabel, "->", oneOf [call .block, throwStatement, expressionStatement]]

/-- A label with a colon, and the statements up to the next label. -/
def switchGroup : Phrase :=
  row "switch_block_statement_group" (all [switchLabel, ":", repeated (call .statement)])

/-- A switch, which is a statement as well as an expression. -/
def switchExpression : Phrase :=
  row "switch_expression" <| all
    ["switch", field "condition" parenthesized,
      field "body" <| oneOf
        [row "switch_block" (all ["\x7b", repeated switchRule, "\x7d"]),
          row "switch_block" (all ["\x7b", repeated switchGroup, "\x7d"])]]

/-! ## Exceptions -/

/-- The handler of an exception. -/
def catchClause : Phrase :=
  row "catch_clause" <| all
    ["catch", "(",
      row "catch_formal_parameter"
        (all [modifiers, row "catch_type" (separated "|" plainType), variableName]),
      ")", field "body" (call .block)]

/-- What is done in any case. -/
def finallyClause : Phrase := row "finally_clause" (all ["finally", call .block])

/-- A resource that is closed in the end. -/
def resource : Phrase :=
  oneOf
    [row "resource"
        (all [modifiers, field "type" plainType, variableName, "=",
          field "value" (call (.expression true))]),
      row "resource" (all [call .primary, behind ["identifier", "field_access"]])]

/-- A statement whose exceptions are handled. -/
def tryStatement : Phrase :=
  oneOf
    [row "try_with_resources_statement" <| all
        ["try",
          field "resources" (row "resource_specification"
            (all ["(", separated ";" resource, optional ";", ")"])),
          field "body" (call .block), repeated catchClause, optional finallyClause],
      row "try_statement" <| all
        ["try", field "body" (call .block),
          oneOf [all [several catchClause, optional finallyClause], finallyClause]]]

/-! ## All statements -/

/-- A statement. -/
def statement : Phrase :=
  oneOf
    [call .block, ";", ifStatement, whileStatement, doStatement, enhancedForStatement,
      forStatement, tryStatement, call .switchExpression, throwStatement,
      returnStatement, breakStatement, continueStatement, assertStatement, synchronizedStatement,
      labeledStatement, yieldStatement,
      call .typeDeclaration, variableDeclaration "local_variable_declaration", expressionStatement]

/-- What stands in a source outside of all types. -/
def topLevel : Phrase :=
  oneOf
    [packageDeclaration, importDeclaration, moduleDeclaration, call .typeDeclaration, method,
      call .statement]

end LintMark.Java.Phrase

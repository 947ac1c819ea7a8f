import LintMark.Java.Shape.Declarations

/-!
# Shaping statements

A block is a list node whose members are statements and the signs between them. A statement that
starts with a keyword becomes a node of the keyword's kind: expressions in it get an expression
node, conditions keep their parentheses, and the part behind `else` has a node of its own.
-/

namespace LintMark.Java.Shaper

variable (s : Shaper)

/-- A block. The opening brace is the node itself. -/
def block (row : Cst) : Outline :=
  s.node .slist row "\x7b" (s.convertAll (row.children.filter fun c ↦ c.type ≠ "\x7b"))

/-- An expression that stands as a statement, and its semicolon. -/
def expressionStatement (row : Cst) : List Outline :=
  row.content.map fun c ↦ if c.type = ";" then s.leaf .semi c else s.expr c

/-- One part of a keyword statement. -/
def statementPart (c : Cst) : List Outline :=
  if c.type = "parenthesized_expression" then s.parenthesized true c
  else if c.type ∈ statements ∨ !c.named then s.convert c
  else [s.expr c]

/-- The parts of a keyword statement. Everything behind an `else` stands below it, up to the next
one. -/
def statementParts : List Cst → List Outline
  | [] => []
  | c :: rest =>
    if c.type = "else" then
      let own := rest.takeWhile fun d ↦ d.type ≠ "else"
      s.node .literalElse c "else" (own.flatMap s.statementPart) ::
        statementParts (rest.dropWhile fun d ↦ d.type ≠ "else")
    else s.statementPart c ++ statementParts rest
termination_by rows => rows.length
decreasing_by
  · have := (List.dropWhile_suffix (fun d : Cst ↦ d.type ≠ "else") (l := rest)).length_le
    simp only [List.length_cons]
    omega
  · simp

/-- A statement that starts with a keyword. -/
def keywordStatement (row : Cst) : List Outline :=
  match row.content with
  | [] => []
  | keyword :: parts =>
    let word := s.text keyword
    [s.node (.keyword (Text.toUpper word)) row word (s.statementParts parts)]

/-- A loop over the elements of a collection. -/
def enhancedFor (row : Cst) : Outline :=
  let type := (row.field? "type").toList.map fun c ↦ s.typeSpec c (row.field? "dimensions")
  let name := (row.field? "name").toList.flatMap s.convert
  let loopVariable := s.node .variableDef row "" (s.modifiersOf row :: type ++ name)
  let colons := (row.children.filter fun c ↦ c.type = ":").map (s.leaf .colon)
  let value := (row.field? "value").toList.map s.expr
  let clause := s.node .forEachClause row "" (loopVariable :: colons ++ value)
  -- The clause stands for everything between the parentheses, so it follows the opening one.
  let head := row.children.flatMap fun c ↦
    if c.type = "(" then [s.leaf .lparen c, clause]
    else if c.type = ")" then [s.leaf .rparen c]
    else []
  s.node .literalFor row "for" (head ++ (row.field? "body").toList.flatMap s.convert)

/-- The alternatives of a caught type. -/
def catchType (row : Cst) : Outline :=
  s.node .type row "" <| row.content.flatMap fun c ↦
    if c.type = "|" then [s.leaf .bor c] else s.typeParts c

/-- The parameter of a catch clause. -/
def catchParameter (row : Cst) : Outline :=
  s.node .parameterDef row "" <| s.modifiersOf row :: row.content.flatMap fun c ↦
    if c.type = "catch_type" then [s.catchType c]
    else if c.type = "identifier" then [s.leaf .ident c]
    else if c.type = "modifiers" then []
    else s.convert c

/-- A catch clause. -/
def catchClause (row : Cst) : Outline :=
  s.node .literalCatch row "catch" <| row.children.flatMap fun c ↦
    if c.type = "catch" then []
    else if c.type = "catch_formal_parameter" then [s.catchParameter c]
    else s.convert c

/-- A finally clause. -/
def finallyClause (row : Cst) : Outline :=
  s.node .literalFinally row "finally"
    (s.convertAll (row.children.filter fun c ↦ c.type ≠ "finally"))

/-- A label of a switch. -/
def switchLabel (row : Cst) : Outline :=
  let isDefault := "default".toList <+: (s.text row).toList
  s.node (if isDefault then .literalDefault else .literalCase) row
    (if isDefault then "default" else "case") <| row.content.flatMap fun c ↦
      if c.type ∈ ["case", "default"] then []
      else if c.named then [s.expr c]
      else s.convert c

/-- The call of another constructor at the start of a constructor. -/
def constructorCall (row : Cst) : Outline :=
  let kind := if row.children.any fun c ↦ c.type = "super" then Kind.superCtorCall
    else Kind.ctorCall
  s.node kind row "" <| row.content.flatMap fun c ↦
    if c.type ∈ ["this", "super"] then []
    else if c.type = "argument_list" then s.arguments true c
    else s.convert c

end LintMark.Java.Shaper

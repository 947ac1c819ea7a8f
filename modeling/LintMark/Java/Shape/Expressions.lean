import LintMark.Java.Shape.Types

/-!
# Shaping expressions

Operators stand above their operands, at the place of the operator sign. Parentheses leave no
node: the parenthesised expression stands between two leaves. The arguments of a call are a list
node whose members are expression nodes and commas.
-/

namespace LintMark.Java.Shaper

variable (s : Shaper)

/-! ## Calls and objects -/

/-- The arguments of a call: the list between its parentheses. The opening parenthesis is dropped
where the call itself stands for it. -/
def arguments (withOpening : Bool) (row : Cst) : List Outline :=
  let opening := row.children.filter fun c ↦ withOpening && c.type = "("
  let members := row.children.flatMap fun c ↦
    if c.type ∈ ["(", ")"] then []
    else if c.type = "," then [s.leaf .comma c]
    else if c.isComment then []
    else [s.expr c]
  let closing := (row.children.filter fun c ↦ c.type = ")").getLast?
  opening.map (s.leaf .lparen) ++ s.node .elist row "" members ::
    (closing.map (s.leaf .rparen)).toList

/-- A method call: the name, below a dot with the object if there is one, and the arguments. -/
def methodCall (row : Cst) : Outline :=
  let name := (row.field? "name").toList.map (s.leaf .ident)
  let callee := match row.field? "object" with
    | some object => [s.node .dot row "." (s.convert object ++ name)]
    | none => name
  let arguments := match row.field? "arguments" with
    | some c => s.arguments false c
    | none => []
  s.node .methodCall row "(" (callee ++ arguments)

/-- The creation of an object. -/
def objectCreation (row : Cst) : Outline :=
  let typePlace := row.fieldPlace? "type"
  s.node .literalNew row "new" <| row.children.zipIdx.flatMap fun (c, i) ↦
    if c.type ∈ ["new", "."] ∨ c.isComment then []
    else if typePlace = some i then s.typeParts c
    else if c.type = "argument_list" then s.arguments true c
    else s.convert c

/-- The creation of an array: one declarator for each dimension, with its length if it has one. -/
def arrayCreation (row : Cst) : Outline :=
  s.node .literalNew row "new" <| row.children.flatMap fun c ↦
    if c.type = "new" ∨ c.isComment then []
    else if c.type = "dimensions_expr" then
      let lengths := c.children.filter fun d ↦ d.named && !d.isComment
      let closing := c.children.filter fun d ↦ d.type = "]"
      [s.node .arrayDeclarator c "[" (lengths.map s.expr ++ closing.map (s.leaf .rbrack))]
    else if c.type = "dimensions" then
      (c.children.filter fun d ↦ d.type = "]").map fun d ↦
        s.node .arrayDeclarator d "[" [s.leaf .rbrack d]
    else s.convert c

/-- The values of an array. -/
def arrayInitializer (row : Cst) : Outline :=
  s.node .arrayInit row "\x7b" <| row.children.flatMap fun c ↦
    if c.type = "\x7b" ∨ c.isComment then []
    else if c.type = "\x7d" then [s.leaf .rcurly c]
    else if c.type = "," then [s.leaf .comma c]
    else if c.type = "array_initializer" then s.convert c
    else [s.expr c]

/-! ## Operators -/

/-- The place of the operator: of the child in that field, or else of the first child without a
name. -/
def operatorPlace? (row : Cst) : Option Nat :=
  row.fieldPlace? "operator" <|> row.children.findIdx? fun c ↦ !c.named

/-- The outlines of the children but for the one at a place. -/
def operands (row : Cst) (place : Option Nat) : List Outline :=
  row.children.zipIdx.flatMap fun (c, i) ↦ if place = some i then [] else s.convert c

/-- An operator expression. The kind is that of the sign in `kinds`; `unsigned` is the text where
no sign stands, and `other` is the kind where the table has none. -/
def operation (kinds : List (String × Kind)) (unsigned : String) (other : Kind) (row : Cst) :
    Outline :=
  let place := operatorPlace? row
  let sign := place.bind fun i ↦ row.children[i]?
  let text := match sign with
    | some c => s.text c
    | none => unsigned
  s.node ((kinds.lookup text).getD other) (sign.getD row) text (s.operands row place)

/-- An expression with a binary operator. -/
def binary (row : Cst) : Outline := s.operation binaryOperators "" .binary row

/-- An assignment expression. -/
def assignment (row : Cst) : Outline := s.operation assignmentOperators "=" .assign row

/-- An expression with a unary operator, at the place of the whole expression. -/
def unary (row : Cst) : Outline :=
  let place := operatorPlace? row
  let text := match place.bind fun i ↦ row.children[i]? with
    | some c => s.text c
    | none => ""
  s.node ((unaryOperators.lookup text).getD .unary) row text (s.operands row place)

/-- An increment or decrement. The sign is the first part if that has no name, and otherwise the
last one. -/
def update (row : Cst) : Outline :=
  let parts := row.children.zipIdx.filter fun (c, _) ↦ !c.isComment
  match parts.head?, parts.getLast? with
  | some (first, i), some (last, j) =>
    -- Only a sign has no name, so a first part with a name is the operand.
    let (sign, place) := if first.named then (last, j) else (first, i)
    let text := s.text sign
    let kind :=
      if text = "++" then if first.named then Kind.postInc else Kind.inc
      else if first.named then Kind.postDec else Kind.dec
    s.node kind sign text (s.operands row (some place))
  | _, _ => s.node .postDec row

/-! ## Other expressions -/

/-- A parenthesised expression; `wrap` puts an expression node between the parentheses. -/
def parenthesized (wrap : Bool) (row : Cst) : List Outline :=
  row.children.flatMap fun c ↦
    if c.type = "(" then [s.leaf .lparen c]
    else if c.type = ")" then [s.leaf .rparen c]
    else if c.isComment then []
    else if wrap then [s.expr c]
    else s.convert c

/-- The children but for the given signs and for comments, below one node. -/
def withoutSigns (kind : Kind) (text : String) (signs : List String) (row : Cst) : Outline :=
  s.node kind row text (s.convertAll (row.content.filter fun c ↦ c.type ∉ signs))

/-- A qualified name or the access to a field. -/
def dotted (row : Cst) : Outline := s.withoutSigns .dot "." ["."] row

/-- A conditional expression. -/
def ternary (row : Cst) : Outline := s.withoutSigns .question "?" ["?"] row

/-- A lambda expression. -/
def lambda (row : Cst) : Outline := s.withoutSigns .lambda "->" ["->"] row

/-- A method reference. -/
def methodReference (row : Cst) : Outline := s.withoutSigns .methodRef "::" ["::"] row

/-- The access to an array. -/
def arrayAccess (row : Cst) : Outline :=
  let array := match row.field? "array" with
    | some c => s.convert c
    | none => []
  s.node .indexOp row "[" <|
    array ++ (row.field? "index").toList.map s.expr ++
      (row.children.filter fun c ↦ c.type = "]").map (s.leaf .rbrack)

/-- A cast. -/
def cast (row : Cst) : Outline :=
  let valuePlace := row.fieldPlace? "value"
  s.node .typecast row "(" <| row.children.zipIdx.flatMap fun (c, i) ↦
    if c.type = "(" ∨ c.isComment then []
    else if c.type = ")" then [s.leaf .rparen c]
    -- The value is known by its field, whatever it looks like.
    else if valuePlace = some i then s.convert c
    else if c.type ∈ typeReferences then [s.typeSpec c none]
    else s.convert c

/-- A type test. -/
def instanceOf (row : Cst) : Outline :=
  let leftPlace := row.fieldPlace? "left"
  s.node .literalInstanceof row "instanceof" <| row.children.zipIdx.flatMap fun (c, i) ↦
    if c.type = "instanceof" ∨ c.isComment then []
    else if c.type ∈ typeReferences ∧ leftPlace ≠ some i then [s.typeSpec c none]
    else s.convert c

end LintMark.Java.Shaper

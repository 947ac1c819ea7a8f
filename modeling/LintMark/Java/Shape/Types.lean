import LintMark.Java.Shape.Basic

/-!
# Shaping type references

A type reference is spelled out by a list of outlines, the children of a `TYPE` node. Array
dimensions wrap the list: each closing bracket puts an array declarator around what stands there
so far.
-/

namespace LintMark.Java.Shaper

variable (s : Shaper)

/-- The parts wrapped once for each closing bracket among the given rows. -/
def wrapBrackets (parts : List Outline) (rows : List Cst) : List Outline :=
  rows.foldl (fun parts c ↦
    if c.type = "]" then [s.node .arrayDeclarator c "[" (parts ++ [s.leaf .rbrack c])] else parts)
    parts

/-- The parts with array dimensions around them, if there are any. -/
def wrapDimensions (parts : List Outline) : Option Cst → List Outline
  | none => parts
  | some dimensions => s.wrapBrackets parts dimensions.children

/-- A wildcard type argument with its bound. -/
def wildcard (row : Cst) : Outline :=
  s.node .wildcardType row "?" <| row.children.flatMap fun c ↦
    if c.type = "?" then []
    else if c.type ∈ ["extends", "super"] then
      [s.node (.keyword (Text.toUpper c.type)) c c.type]
    else s.typeParts c

/-- A list of type arguments with its brackets and commas. -/
def typeArguments (row : Cst) : Outline :=
  s.node .typeArguments row "" <| row.children.flatMap fun c ↦
    if c.type = "<" then [s.leaf .genericStart c]
    else if c.type = ">" then [s.leaf .genericEnd c]
    else if c.type = "," then [s.leaf .comma c]
    else if c.type = "wildcard" then [s.node .typeArgument c "" [s.wildcard c]]
    else if c.isComment then []
    else [s.node .typeArgument c "" (s.typeParts c)]

/-- The parts of a primitive type: its keyword. -/
def primitiveType (row : Cst) : List Outline :=
  [s.node (.keyword (Text.toUpper (s.text row))) row (s.text row)]

/-- The parts of a qualified type: one node for the dot. -/
def scopedType (row : Cst) : List Outline :=
  [s.node .dot row "." (s.convertAll (row.children.filter fun c ↦ c.type ≠ "."))]

/-- The parts of a type with arguments. -/
def genericType (row : Cst) : List Outline :=
  row.children.flatMap fun c ↦
    if c.type = "type_arguments" then [s.typeArguments c] else s.convert c

/-- The parts of an array type: those of the element type with the dimensions around them. -/
def arrayType (row : Cst) : List Outline :=
  let parts := match row.field? "element" with
    | some element => s.typeParts element
    | none => []
  s.wrapDimensions parts (row.field? "dimensions")

/-- A type node for a type reference, with the dimensions that follow elsewhere. -/
def typeSpec (row : Cst) (dimensions : Option Cst) : Outline :=
  s.node .type row "" (s.wrapDimensions (s.typeParts row) dimensions)

end LintMark.Java.Shaper

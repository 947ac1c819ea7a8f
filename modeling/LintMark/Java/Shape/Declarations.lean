import LintMark.Java.Shape.Expressions

/-!
# Shaping declarations

Every declaration starts with its modifiers, if only with an empty node for them. A declaration
of several variables becomes one definition for each declarator. The terminator of a field
belongs to its definition; the terminator of a local variable stands behind it.
-/

namespace LintMark.Java.Shaper

variable (s : Shaper)

/-! ## Files -/

/-- The whole file. -/
def program (row : Cst) : Outline :=
  .node ⟨.compilationUnit, "", 1, 0⟩ (s.convertAll row.children)

/-- The package declaration. -/
def package (row : Cst) : Outline :=
  s.node .packageDef row "package"
    (s.convertAll (row.children.filter fun c ↦ c.type ≠ "package"))

/-- The name that an import has so far, taken on by one of its parts. An asterisk puts itself
and the name below a dot. -/
def importName (name : Option Outline) (c : Cst) : Option Outline :=
  if c.type ∈ ["identifier", "scoped_identifier"] then (s.convert c).head?
  else if c.type = "asterisk" then
    some (s.node .dot c "." (name.toList ++ [s.leaf .star c]))
  else name

/-- An import. -/
def importDecl (row : Cst) : Outline :=
  let kind := if row.children.any fun c ↦ c.type = "static" then Kind.staticImport
    else Kind.importDef
  let name := (row.children.filter fun c ↦ c.type ≠ "static").foldl s.importName none
  let tail := (row.children.filter fun c ↦ c.type = ";").map (s.leaf .semi)
  s.node kind row "import" (name.toList ++ tail)

/-! ## Types -/

/-- The clause of a type declaration that names other types. -/
def clause (kind : Kind) (keyword : String) (row : Cst) : Outline :=
  s.node kind row keyword <| row.children.flatMap fun c ↦
    if c.type = keyword then []
    else if c.type = "type_list" then s.convertAll c.children
    else s.convert c

/-- A type declaration of the given kind. -/
def typeDeclaration (kind : Kind) (row : Cst) : Outline :=
  s.node kind row "" <| s.modifiersOf row :: row.content.flatMap fun c ↦
    if c.type = "modifiers" then []
    else if c.type ∈ ["superclass", "extends_interfaces"] then
      [s.clause .extendsClause "extends" c]
    else if c.type = "super_interfaces" then [s.clause .implementsClause "implements" c]
    else s.convert c

/-- The body of a type. -/
def typeBody (row : Cst) : Outline := s.node .objBlock row "" (s.convertAll row.children)

/-! ## Variables -/

/-- The declarators of a declaration. -/
def declarators (row : Cst) : List Cst :=
  row.children.filter fun c ↦ c.type = "variable_declarator"

/-- The commas between the declarators of a declaration, and the semicolon behind them. -/
def separators (row : Cst) : List Outline :=
  row.children.filterMap fun c ↦
    if c.type = "," then some (s.leaf .comma c)
    else if c.type = ";" then some (s.leaf .semi c)
    else none

/-- The assignment of a declarator with a value. -/
def initializer (declarator value : Cst) : Outline :=
  let equals := (declarator.children.find? fun c ↦ c.type = "=").getD value
  let initial :=
    if value.type = "array_initializer" then s.arrayInitializer value else s.expr value
  s.node .assign equals "=" [initial]

/-- The definition of one variable of a declaration. -/
def variableDef (row declarator : Cst) (terminator : Option Outline) : Outline :=
  let type := (row.field? "type").toList.map fun c ↦
    s.typeSpec c (declarator.field? "dimensions")
  let name := (declarator.field? "name").toList.map (s.leaf .ident)
  let value := (declarator.field? "value").toList.map (s.initializer declarator)
  s.node .variableDef row "" (s.modifiersOf row :: type ++ name ++ value ++ terminator.toList)

/-- The definitions of a field declaration, each with the separator behind it. -/
def field (row : Cst) : List Outline :=
  (declarators row).zipIdx.map fun (d, i) ↦ s.variableDef row d (s.separators row)[i]?

/-- The definitions of a local declaration, and behind each its separator. -/
def localVariable (row : Cst) : List Outline :=
  (declarators row).zipIdx.flatMap fun (d, i) ↦
    s.variableDef row d none :: (s.separators row)[i]?.toList

/-! ## Methods -/

/-- The clause that names the exceptions of a method. -/
def throwsClause (row : Cst) : Outline :=
  s.node .throwsClause row "throws"
    (s.convertAll (row.children.filter fun c ↦ c.type ≠ "throws"))

/-- A method. -/
def method (row : Cst) : Outline :=
  -- Annotations and type parameters may stand in front, so the type is known by its field.
  let typePlace := row.fieldPlace? "type"
  s.node .methodDef row "" <| s.modifiersOf row :: row.children.zipIdx.flatMap fun (c, i) ↦
    if c.type = "modifiers" ∨ c.isComment then []
    else if typePlace = some i then [s.typeSpec c none]
    else if c.type = "identifier" then [s.leaf .ident c]
    else if c.type = "throws" then [s.throwsClause c]
    else if c.type = "dimensions" then []
    else s.convert c

/-- A constructor. -/
def constructor (row : Cst) : Outline :=
  s.node .ctorDef row "" <| s.modifiersOf row :: row.content.flatMap fun c ↦
    if c.type = "modifiers" then []
    else if c.type = "throws" then [s.throwsClause c]
    else s.convert c

/-- A parameter. -/
def parameter (row : Cst) : Outline :=
  let typePlace := row.fieldPlace? "type"
  s.node .parameterDef row "" <| s.modifiersOf row :: row.children.zipIdx.flatMap fun (c, i) ↦
    if c.type = "modifiers" ∨ c.isComment then []
    else if c.type ∈ typeReferences ∧ (typePlace = none ∨ typePlace = some i) then
      [s.typeSpec c (row.field? "dimensions")]
    else if c.type = "identifier" then [s.leaf .ident c]
    else if c.type = "variable_declarator" then (c.field? "name").toList.map (s.leaf .ident)
    else if c.type = "dimensions" then []
    else s.convert c

/-- The parameters of a method between their parentheses. -/
def parameters (row : Cst) : List Outline :=
  let opening := (row.children.filter fun c ↦ c.type = "(").getLast?
  let closing := (row.children.filter fun c ↦ c.type = ")").getLast?
  let members := row.children.flatMap fun c ↦
    if c.type ∈ ["(", ")"] then []
    else if c.type ∈ ["formal_parameter", "spread_parameter"] then [s.parameter c]
    else s.convert c
  opening.toList.map (s.leaf .lparen) ++ s.node .parameters row "" members ::
    closing.toList.map (s.leaf .rparen)

end LintMark.Java.Shaper

import LintMark.Java.Shape.Descent
import LintMark.Java.Shape.Statements

/-!
# Shaping whole trees

This module ties the recursion of the rules in `LintMark.Java.Shape.*`. `convertRow` sends a row
to the rule of its construct, and `shaper n` answers for rows of which `n` levels count.

## Levels

The recursion runs on a number of levels and not on the rows. A tree that does not fit into
`nestingLimit` levels is refused before it is shaped, so no row of an accepted tree meets level
zero. `LintMark.Java.Shape.Descent` says which rows take a level.
-/

namespace LintMark.Java

namespace Shaper

variable (s : Shaper)

/-- The outlines of a row, by the rule of its construct. -/
def convertRow (row : Cst) : List Outline :=
  match Construct.ofType row.type with
  | .comment => []
  | .leaf kind => [s.leaf kind row]
  | .integer => [s.number .numInt .numLong ['l', 'L'] row]
  | .float => [s.number .numDouble .numFloat ['f', 'F'] row]
  | .program => [s.program row]
  | .package => [s.package row]
  | .importDecl => [s.importDecl row]
  | .typeDeclaration kind => [s.typeDeclaration kind row]
  | .typeBody => [s.typeBody row]
  | .modifiers => [s.modifiers row]
  | .field => s.field row
  | .localVariable => s.localVariable row
  | .method => [s.method row]
  | .constructor => [s.constructor row]
  | .parameters => s.parameters row
  | .block => [s.block row]
  | .expressionStatement => s.expressionStatement row
  | .keywordStatement => s.keywordStatement row
  | .enhancedFor => [s.enhancedFor row]
  | .catchClause => [s.catchClause row]
  | .finallyClause => [s.finallyClause row]
  | .switchLabel => [s.switchLabel row]
  | .dissolved => s.convertAll row.children
  | .arguments => s.arguments true row
  | .methodCall => [s.methodCall row]
  | .objectCreation => [s.objectCreation row]
  | .arrayCreation => [s.arrayCreation row]
  | .arrayInitializer => [s.arrayInitializer row]
  | .binary => [s.binary row]
  | .assignment => [s.assignment row]
  | .unary => [s.unary row]
  | .update => [s.update row]
  | .parenthesized => s.parenthesized false row
  | .dotted => [s.dotted row]
  | .arrayAccess => [s.arrayAccess row]
  | .cast => [s.cast row]
  | .ternary => [s.ternary row]
  | .instanceOf => [s.instanceOf row]
  | .lambda => [s.lambda row]
  | .methodReference => [s.methodReference row]
  | .constructorCall => [s.constructorCall row]
  | .primitiveType => s.primitiveType row
  | .scopedType => s.scopedType row
  | .genericType => s.genericType row
  | .arrayType => s.arrayType row
  | .annotatedType => s.convertAll row.children
  | .generic => [s.generic row]

/-- The outlines of a row where it spells out a type. Only a bare list of type arguments is
shaped differently there. -/
def typePartsOf (row : Cst) : List Outline :=
  if row.type = "type_arguments" then [s.typeArguments row] else s.convertRow row

end Shaper

/-- The shaper for rows of which `n` levels count. -/
def shaper (source : SourceText) : Nat → Shaper
  | 0 => ⟨source, fun _ ↦ [], fun _ ↦ []⟩
  | n + 1 =>
    let below := shaper source n
    ⟨source, below.convertRow, below.typePartsOf⟩

/-- The number of levels that a tree may have. -/
def nestingLimit : Nat := 1000

/-! ## Shaping a tree -/

/-- Why a concrete tree has no outline. -/
inductive ShapeError where
  /-- The rows nest too deep. -/
  | tooDeep
  /-- An increment or decrement has no sign. -/
  | bareUpdate
deriving DecidableEq, Repr

/-- The outlines of a concrete tree. -/
def outlines (source : SourceText) (root : Cst) : Except ShapeError (List Outline) :=
  if !fitsInto nestingLimit root then .error .tooDeep
  else if meetsBareUpdate nestingLimit root then .error .bareUpdate
  else .ok ((shaper source nestingLimit).convertRow root)

end LintMark.Java

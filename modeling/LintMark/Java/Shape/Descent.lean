import LintMark.Java.Construct

/-!
# Where shaping goes down

Shaping does not look at every row. Leaves and comments hide what stands below them, and some
constructs are shaped from the rows in certain fields alone. `shapedBelow` gives the rows that
shaping a row goes down to, and the two questions that are asked before a tree is shaped follow
these rows: whether the tree nests too deep, and whether an increment has no sign.

Both questions count levels. A row stands one level above the rows that its shaping goes down to.
-/

namespace LintMark.Java

/-- The rows below the modifiers of a declaration. -/
def modifierParts (row : Cst) : List Cst :=
  match row.children.find? fun c ↦ c.type = "modifiers" with
  | some c => c.children
  | none => []

/-- The first children in the given fields. -/
def inFields (row : Cst) (fields : List String) : List Cst := fields.filterMap row.field?

/-- The rows that shaping a row goes down to. -/
def shapedBelow (row : Cst) : List Cst :=
  match Construct.ofType row.type with
  | .comment | .leaf _ | .integer | .float | .primitiveType => []
  | .importDecl => row.children.filter fun c ↦ c.type ∈ ["identifier", "scoped_identifier"]
  | .field | .localVariable =>
    (row.children.filter fun c ↦ c.type = "variable_declarator").flatMap fun declarator ↦
      modifierParts row ++ inFields row ["type"] ++ inFields declarator ["value"]
  | .methodCall =>
    inFields row ["object"] ++ (inFields row ["arguments"]).flatMap Cst.children
  | .arrayAccess => inFields row ["array", "index"]
  | .arrayType => inFields row ["element"]
  | .enhancedFor => modifierParts row ++ inFields row ["type", "name", "value", "body"]
  | .keywordStatement => row.content.tail
  | _ => row.children

/-- Whether shaping a row takes at most the given number of levels. -/
def fitsInto : Nat → Cst → Bool
  | 0, _ => false
  | n + 1, row => (shapedBelow row).all (fitsInto n)

/-- Whether the row is an increment or a decrement of which not even the sign stands there. -/
def isBareUpdate (row : Cst) : Bool :=
  Construct.ofType row.type = .update && row.content.isEmpty

/-- Whether shaping the first levels of a row meets an increment without a sign. -/
def meetsBareUpdate : Nat → Cst → Bool
  | 0, _ => false
  | n + 1, row => isBareUpdate row || (shapedBelow row).any (meetsBareUpdate n)

end LintMark.Java

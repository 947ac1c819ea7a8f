import LintMark.Java.Construct
import LintMark.Syntax.Outline

/-!
# Shaping rows

Shaping turns the rows of a concrete tree into outlines of the syntax tree: comments vanish,
declarations and statements get a uniform form, and one row may become several outlines or none.

Each construct has a rule, a function that is not recursive itself: it asks a `Shaper` for the
outlines of the rows below. The recursion is tied in one place, `LintMark.Java.Shape`. A rule can
so be read, and reasoned about, without the others.
-/

namespace LintMark.Java

/-- The source, and what has been settled about the rows below the one at hand. -/
structure Shaper where
  /-- The source that the rows span. -/
  source : SourceText
  /-- The outlines of a row below. -/
  convert : Cst → List Outline
  /-- The outlines of a row below where it spells out a type. -/
  typeParts : Cst → List Outline

namespace Shaper

variable (s : Shaper)

/-- The text of a row. -/
def text (row : Cst) : String := row.text s.source

/-- An outline at the position of a row. -/
def node (kind : Kind) (row : Cst) (text : String := "") (children : List Outline := []) :
    Outline :=
  .node ⟨kind, text, s.source.line row.start, s.source.column row.start⟩ children

/-- A leaf with the text of a row. -/
def leaf (kind : Kind) (row : Cst) : Outline := s.node kind row (s.text row)

/-- The outlines of several rows, one after the other. -/
def convertAll (rows : List Cst) : List Outline := rows.flatMap s.convert

/-- An expression node around the outlines of a row. -/
def expr (row : Cst) : Outline := s.node .expr row "" (s.convert row)

/-- The modifiers of a declaration, from a row of modifiers. -/
def modifiers (row : Cst) : Outline := s.node .modifiers row "" (s.convertAll row.children)

/-- The modifiers of a declaration. A declaration without modifiers has an empty node for them. -/
def modifiersOf (row : Cst) : Outline :=
  match row.children.find? fun c ↦ c.type = "modifiers" with
  | some c => s.modifiers c
  | none => s.node .modifiers row

/-! ## Rows without a rule of their own -/

/-- The outline of a row without a rule: a leaf if nothing stands below it, and otherwise a node
around the outlines of its children. -/
def generic (row : Cst) : Outline :=
  if row.children.isEmpty then
    s.leaf (if row.named then ⟨Text.toUpper row.type⟩ else tokenKind (s.text row)) row
  else s.node (kindOfType row.type) row "" (s.convertAll row.children)

/-- The outline of a number. Its last letter tells a long one from a short one. -/
def number (short long : Kind) (letters : List Char) (row : Cst) : Outline :=
  let kind := match (s.text row).toList.getLast? with
    | some c => if c ∈ letters then long else short
    | none => short
  s.leaf kind row

end Shaper

end LintMark.Java

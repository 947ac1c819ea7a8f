import LintMark.Text.Utf8

/-!
# Concrete syntax

The concrete syntax tree of a Java source, as a grammar reads it: every token of the source, and
above the tokens the constructs that they make up. A row knows its type, the bytes it spans, and
the field that it fills in the row above.

Rows are identified by their place among their siblings. Where a rule asks whether a child is the
one in a certain field, it compares places.

The first faulty row is sought with a stack of rows (`Cst.seekFault`), which comes to them in
pre-order (`Cst.seekFault_eq_find?`).
-/

namespace LintMark

/-! ## Source texts -/

/-- The offsets of the line ends among the first `n` bytes. -/
def newlineOffsets (bytes : ByteArray) (n : Nat) : List Nat :=
  n.fold (fun k _ offsets ↦
    let i := n - 1 - k
    if bytes[i]? = some 10 then i :: offsets else offsets) []

/-- The bytes of a source, with the offsets of its line ends. -/
structure SourceText where
  /-- The bytes. -/
  bytes : ByteArray
  /-- The offsets of the line ends, rising. -/
  newlines : List Nat
  /-- The offsets are those of the bytes. -/
  newlines_eq : newlines = newlineOffsets bytes bytes.size

namespace SourceText

/-- The source with the given bytes. -/
def ofBytes (bytes : ByteArray) : SourceText := ⟨bytes, newlineOffsets bytes bytes.size, rfl⟩

/-- The line of a position, counted from one. -/
def line (source : SourceText) (position : Nat) : Nat :=
  (source.newlines.takeWhile (· < position)).length + 1

/-- The number of bytes between the start of the line and a position. -/
def column (source : SourceText) (position : Nat) : Nat :=
  match (source.newlines.takeWhile (· < position)).getLast? with
  | some newline => position - (newline + 1)
  | none => position

end SourceText

/-! ## Rows -/

/-- A row of a concrete syntax tree, with the rows below it. -/
structure Cst where
  /-- The type of the construct, or the token itself. -/
  type : String
  /-- The offset of the first byte. -/
  start : Nat
  /-- The offset behind the last byte. -/
  stop : Nat
  /-- Whether the grammar has a name for the row; keywords and signs have none. -/
  named : Bool
  /-- Whether the row stands for a token that the source lacks. -/
  missing : Bool
  /-- The field that the row fills in the row above. -/
  field : Option String
  /-- The rows below, from left to right. -/
  children : List Cst
deriving Inhabited, Repr

namespace Cst

/-- The types of comments. -/
def commentTypes : List String := ["line_comment", "block_comment", "comment"]

/-- Whether the row is a comment. -/
def isComment (row : Cst) : Bool := row.type ∈ commentTypes

/-- The children that are no comments. -/
def content (row : Cst) : List Cst := row.children.filter (!·.isComment)

/-- The place of the first child in a field. -/
def fieldPlace? (row : Cst) (field : String) : Option Nat :=
  row.children.findIdx? fun c ↦ c.field = some field

/-- The first child in a field. -/
def field? (row : Cst) (field : String) : Option Cst :=
  row.children.find? fun c ↦ c.field = some field

mutual

/-- The row and all rows below it, in pre-order. -/
def rows : Cst → List Cst
  | ⟨type, start, stop, named, missing, field, children⟩ =>
    ⟨type, start, stop, named, missing, field, children⟩ :: rowsOfAll children

/-- The rows of a list of siblings, in pre-order. -/
def rowsOfAll : List Cst → List Cst
  | [] => []
  | c :: cs => c.rows ++ rowsOfAll cs

end

theorem rows_eq (row : Cst) : row.rows = row :: rowsOfAll row.children := by
  cases row
  rw [rows]

theorem rowsOfAll_eq_flatMap (cs : List Cst) : rowsOfAll cs = cs.flatMap rows := by
  induction cs with
  | nil => rfl
  | cons c cs ih => rw [rowsOfAll, ih, List.flatMap_cons]

/-- The text of the row. -/
def text (row : Cst) (source : SourceText) : String :=
  Utf8.decode (source.bytes.extract row.start row.stop)

/-- Whether the row marks a fault of the source. -/
def isFaulty (row : Cst) : Bool := row.type = "ERROR" || row.missing

/-! ## The search for a fault -/

theorem rowsOfAll_cons (row : Cst) (stack : List Cst) :
    rowsOfAll (row :: stack) = row :: rowsOfAll (row.children ++ stack) := by
  simp only [rowsOfAll_eq_flatMap, List.flatMap_cons, List.flatMap_append, rows_eq,
    List.cons_append]

/-- The first faulty row that a stack of rows comes to. A sound row makes way for its children, so
that deep and wide trees cost no recursion. -/
def seekFault : List Cst → Option Cst
  | [] => none
  | row :: stack => if row.isFaulty then some row else seekFault (row.children ++ stack)
termination_by stack => (rowsOfAll stack).length
decreasing_by
  rw [rowsOfAll_cons, List.length_cons]
  exact Nat.lt_succ_self _

/-- The stack comes to the rows in pre-order. -/
theorem seekFault_eq_find? (stack : List Cst) :
    seekFault stack = (rowsOfAll stack).find? isFaulty := by
  fun_induction seekFault stack with
  | case1 => rfl
  | case2 row stack hfaulty => rw [rowsOfAll_cons, List.find?_cons_of_pos hfaulty]
  | case3 row stack hsound ih => rw [rowsOfAll_cons, List.find?_cons_of_neg hsound, ih]

end Cst

/-! ## Readings -/

/-- What a grammar makes of a source. -/
structure Reading where
  /-- The source. -/
  source : SourceText
  /-- Its concrete syntax tree. -/
  root : Cst
  /-- Whether the grammar reports a fault that no row shows. -/
  flagged : Bool

namespace Reading

/-- Whether the source has a fault. -/
def hasFault (r : Reading) : Bool := r.flagged || r.root.rows.any Cst.isFaulty

/-- The row that a search for a fault ends with: the first faulty one, or the root if no row is
faulty. -/
def faultRow (r : Reading) : Cst := (Cst.seekFault [r.root]).getD r.root

theorem faultRow_eq (r : Reading) :
    r.faultRow = (r.root.rows.find? Cst.isFaulty).getD r.root := by
  rw [faultRow, Cst.seekFault_eq_find?, Cst.rowsOfAll, Cst.rowsOfAll, List.append_nil]

/-- The line on which the first fault is reported. -/
def faultLine (r : Reading) : Nat := r.source.line r.faultRow.start

end Reading

/-- A grammar reads the bytes of a source. -/
abbrev Grammar := ByteArray → Reading

end LintMark

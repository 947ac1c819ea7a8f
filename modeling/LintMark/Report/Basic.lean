import LintMark.Json.Reader
import LintMark.Report.Warning
import LintMark.Text.Utf8
import LintMark.Workspace.Files

/-!
# Reports

A report is a document with a list of entries. The list is the document itself, or stands in an
object under one of the usual keys, or else under the first key whose value is a list that starts
with an object. Entries that give no warning are left out.

A file that cannot be opened, is not UTF-8 or is no document gives the report without warnings.
Three things are faults of the whole report: a path that cannot be handed over for opening, an
integer with too many digits, and an infinite line number.
-/

namespace LintMark

/-- The warnings of a report, in order, and where its entries stood. -/
structure Report where
  /-- The warnings. -/
  warnings : List Warning
  /-- The key of the list of entries; nothing if no list was found. -/
  format : Option Text
deriving DecidableEq, Repr

/-- Why a report cannot be loaded. -/
inductive LoadError where
  /-- The path cannot be handed over for opening. -/
  | path (e : PathFault)
  /-- An integer of the document has too many digits. -/
  | longInteger
  /-- The line of an entry is infinite. -/
  | infiniteLine
deriving DecidableEq, Repr

namespace Report

/-- The report without warnings. -/
def empty : Report := ⟨[], none⟩

/-! ## Finding the entries -/

/-- The usual keys of the list of entries. -/
def usualKeys : List Text := ["warnings", "issues", "findings", "results", "violations"]

/-- The name of the format in which the document is the list of entries. -/
def bareList : Text := "<root array>"

/-- The list under a key of an object. -/
def listAt? (document : Json) (key : Text) : Option (Text × List Json) :=
  match document.get? key with
  | some (.arr items) => some (key, items)
  | _ => none

/-- A member whose value is a list that starts with an object. -/
def objectList? : Text × Json → Option (Text × List Json)
  | (key, .arr (.obj members :: items)) => some (key, .obj members :: items)
  | _ => none

/-- The entries of a document, and the name of the place where they stand. -/
def locate : Json → Option (Text × List Json)
  | .arr items => some (bareList, items)
  | .obj members =>
    usualKeys.findSome? (listAt? (.obj members)) <|> members.findSome? objectList?
  | _ => none

/-! ## Loading -/

/-- The warnings of a list of entries. -/
def warningsOf : List Json → Except LoadError (List Warning)
  | [] => .ok []
  | entry :: entries =>
    match Warning.ofEntry entry with
    | .ok warning => (warningsOf entries).map (warning :: ·)
    -- The other faults leave out the entry; this one is a fault of the report.
    | .error .infiniteLine => .error .infiniteLine
    | .error _ => warningsOf entries

/-- The report of a document. -/
def ofDocument (document : Json) : Except LoadError Report :=
  match locate document with
  | none => .ok empty
  | some (format, entries) => (warningsOf entries).map fun warnings ↦ ⟨warnings, some format⟩

/-- The report of the bytes of a file. -/
def ofBytes (bytes : ByteArray) : Except LoadError Report :=
  match Utf8.fault? bytes with
  | some _ => .ok empty
  | none =>
    match Json.read (Utf8.decode bytes) with
    | .ok document => ofDocument document
    | .error .malformed => .ok empty
    | .error .longInteger => .error .longInteger

/-- The report in a file. -/
def load (fs : Files) (path : Text) : Except LoadError Report :=
  match Path.fault? path with
  | some e => .error (.path e)
  | none =>
    match fs.read path with
    | .ok bytes => ofBytes bytes
    | .error _ => .ok empty

end Report

end LintMark

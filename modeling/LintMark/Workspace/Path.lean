import LintMark.Text.Encode

/-!
# Path texts

Paths as reports and requests write them. A backslash is read as a slash. Nothing else is
normalised: doubled slashes and dots stay as they are.

A path that is to be opened becomes a sequence of bytes. Some halves of surrogate pairs stand for
odd bytes there; other halves have no bytes, and a zero character would end the sequence.
-/

namespace LintMark

/-- Why a path cannot be handed over for opening. -/
inductive PathFault where
  /-- A half of a surrogate pair stands for no byte. -/
  | halves (e : EncodeError)
  /-- The path has a zero character. -/
  | zero
deriving DecidableEq, Repr

/-- The wording of the fault. -/
def PathFault.message : PathFault → String
  | halves e => e.message
  | zero => "embedded null byte"

namespace Path

/-- The path with slashes for backslashes. -/
def withSlashes (path : Text) : Text :=
  ⟨path.symbols.map fun s ↦ if s = .char '\\' then .char '/' else s⟩

theorem withSlashes_eq_empty_iff {path : Text} : withSlashes path = "" ↔ path = "" := by
  rw [Text.ext_iff, Text.ext_iff]
  exact List.map_eq_nil_iff

/-- The path without slashes at its end. -/
def trimEnd (path : Text) : Text :=
  ⟨(path.symbols.reverse.dropWhile (· = .char '/')).reverse⟩

/-- The part behind the last slash. -/
def lastComponent (path : Text) : Text :=
  ⟨(path.symbols.reverse.takeWhile (· ≠ .char '/')).reverse⟩

/-- Whether the path starts at the root. -/
def isAbsolute (path : Text) : Bool := path.startsWith "/"

/-- The path below a directory; an absolute path stands for itself. -/
def below (directory path : Text) : Text :=
  if isAbsolute path then path
  else if directory.isEmpty || directory.endsWith "/" then directory ++ path
  else directory ++ "/" ++ path

/-- Whether a half of a surrogate pair stands for a byte. -/
def isOddByte (number : Fin 0x800) : Bool := 0x480 ≤ number.val && number.val < 0x500

/-- What keeps a path from being handed over. Halves count before zero characters. -/
def fault? (path : Text) : Option PathFault :=
  match Text.halvesFrom? isOddByte 0 path.symbols with
  | some e => some (.halves e)
  | none => if .char '\x00' ∈ path.symbols then some .zero else none

end Path

end LintMark

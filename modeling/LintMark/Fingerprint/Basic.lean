import LintMark.Digest.Algorithm
import LintMark.Fingerprint.Canonical
import LintMark.Fingerprint.Code
import LintMark.Window.Selection

/-!
# Fingerprints

The fingerprint of a warning is the digest of the canonical string of its window, together with
the code of the digest. Two fingerprints name the same warning when their digests are equal. The
code is compared first, because it is cheap.
-/

namespace LintMark

/-- The digest of a warning's window and the code of that digest. -/
structure Fingerprint where
  /-- The digest, in lower-case hexadecimal digits. -/
  digest : String
  /-- The code of the digest. -/
  code : Int
deriving DecidableEq, Repr

namespace Fingerprint

/-- The fingerprint with the given digest, which has to be written in hexadecimal digits. -/
def ofDigest (digest : String) : Except HexError Fingerprint :=
  (Code.ofHex digest).map fun code ↦ ⟨digest, code⟩

/-- The fingerprint of a text. -/
def ofText (algorithm : Algorithm) (text : String) : Fingerprint :=
  let digest := algorithm.hexDigest text
  match ofDigest digest with
  | .ok fingerprint => fingerprint
  | .error _ => ⟨digest, 0⟩

/-- Whether two fingerprints have the same digest. -/
def sameDigest (a b : Fingerprint) : Bool := a.digest = b.digest

/-- Whether two fingerprints, if there are any, name the same warning. -/
def sameWarning : Option Fingerprint → Option Fingerprint → Bool
  | some a, some b => if a.code ≠ b.code then false else a.digest = b.digest
  | _, _ => false

end Fingerprint

/-- The fingerprint of a line of a tree. -/
def Tree.fingerprint (t : Tree) (algorithm : Algorithm) (line : Int) (strategy : Strategy)
    (name : Option String) : Fingerprint :=
  let site := Site.ofLine t line
  .ofText algorithm (t.canonical (site.window strategy) site.constants name)

end LintMark

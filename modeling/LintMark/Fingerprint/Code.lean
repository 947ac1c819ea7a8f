import LintMark.Text.Quoted

/-!
# Codes

A digest is reduced to a signed number of 64 bits, which serves as a fast key for look-ups: the
low 64 bits of the digest in two's complement. Codes are stored, so the reduction is fixed.
-/

namespace LintMark

/-- A text that is no sequence of hexadecimal digits. -/
structure HexError where
  /-- The text. -/
  text : String
deriving DecidableEq, Repr

/-- The wording of the error. -/
def HexError.message (e : HexError) : String := "Not a hex digest: " ++ Text.quoted e.text

namespace Code

/-- The value of a hexadecimal digit of either case. -/
def digit? (c : Char) : Option Nat :=
  if '0' ≤ c ∧ c ≤ '9' then some (c.toNat - '0'.toNat)
  else if 'a' ≤ c ∧ c ≤ 'f' then some (c.toNat - 'a'.toNat + 10)
  else if 'A' ≤ c ∧ c ≤ 'F' then some (c.toNat - 'A'.toNat + 10)
  else none

/-- The number that hexadecimal digits write, the most significant first. -/
def hexValue (digits : List Nat) : Nat := digits.foldl (fun n d ↦ 16 * n + d) 0

/-- The number of 64 bits in two's complement that has the low bits of `n`. -/
def signed (n : Nat) : Int := Int.bmod n 0x10000000000000000

/-- The code of a digest. -/
def ofHex (text : String) : Except HexError Int :=
  match text.toList.mapM digit? with
  | none | some [] => .error ⟨text⟩
  | some digits => .ok (signed (hexValue digits))

end Code

end LintMark

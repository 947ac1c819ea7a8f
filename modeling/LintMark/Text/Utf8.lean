/-!
# Reading UTF-8

`Utf8.scan` looks at one position of a byte sequence and finds either a character or the longest
run of bytes that could still have started one. Both readers of this module are built on it: the
strict one (`fault?`) stops at the first malformed run and names it, the lenient one (`decode`)
puts one replacement character in the place of each.

A first byte decides how many bytes follow and narrows the range of the second byte, so that
neither overlong forms nor surrogates nor values beyond the last code point are characters.
-/

namespace LintMark.Utf8

/-- Why a run of bytes is no character. -/
inductive Reason where
  /-- No character starts with this byte. -/
  | invalidStart
  /-- The byte after the run cannot continue it. -/
  | invalidContinuation
  /-- The input ends inside a character. -/
  | unexpectedEnd
deriving DecidableEq, Repr

/-- What stands at a position: a character or a malformed run, with its length in bytes. -/
inductive Item where
  | char (c : Char) (length : Nat)
  | malformed (reason : Reason) (length : Nat)
deriving Repr

/-- What the first byte of a longer character says: how many bytes follow, the range of the next
one, and the bits that it contributes itself. -/
structure Lead where
  /-- The number of bytes that follow. -/
  rest : Nat
  /-- The least next byte. -/
  lo : Nat
  /-- The greatest next byte. -/
  hi : Nat
  /-- The leading bits of the code point. -/
  bits : Nat

/-- Reads a first byte from `0x80` on. -/
def Lead.of? (byte : Nat) : Option Lead :=
  if byte < 0xC2 then none
  else if byte < 0xE0 then some ⟨1, 0x80, 0xBF, byte - 0xC0⟩
  else if byte = 0xE0 then some ⟨2, 0xA0, 0xBF, 0⟩
  else if byte = 0xED then some ⟨2, 0x80, 0x9F, 0xD⟩
  else if byte < 0xF0 then some ⟨2, 0x80, 0xBF, byte - 0xE0⟩
  else if byte = 0xF0 then some ⟨3, 0x90, 0xBF, 0⟩
  else if byte < 0xF4 then some ⟨3, 0x80, 0xBF, byte - 0xF0⟩
  else if byte = 0xF4 then some ⟨3, 0x80, 0x8F, 4⟩
  else none

/-- Reads `rest` continuation bytes from position `i` on, the first of them between `lo` and `hi`;
`length` bytes with the value `bits` have been read. -/
def continuation (bytes : ByteArray) (lo hi bits length : Nat) (i : Nat) : (rest : Nat) → Item
  | 0 => .char (Char.ofNat bits) length
  | rest + 1 =>
    match bytes[i]? with
    | none => .malformed .unexpectedEnd length
    | some byte =>
      if lo ≤ byte.toNat ∧ byte.toNat ≤ hi then
        continuation bytes 0x80 0xBF (bits * 64 + (byte.toNat - 0x80)) (length + 1) (i + 1) rest
      else .malformed .invalidContinuation length

/-- What stands at position `i`, whose byte is `byte`. -/
def scan (bytes : ByteArray) (i : Nat) (byte : UInt8) : Item :=
  if byte.toNat < 0x80 then .char (Char.ofNat byte.toNat) 1
  else match Lead.of? byte.toNat with
    | none => .malformed .invalidStart 1
    | some lead => continuation bytes lead.lo lead.hi lead.bits 1 (i + 1) lead.rest

/-! ## Strict reading -/

/-- A malformed run: where it starts, how long it is and why it is malformed. -/
structure Fault where
  /-- The position of the first byte. -/
  start : Nat
  /-- The number of bytes. -/
  length : Nat
  /-- The first byte. -/
  byte : UInt8
  /-- Why the run is malformed. -/
  reason : Reason
deriving DecidableEq, Repr

/-- The first malformed run from position `i` on. -/
def faultFrom? (bytes : ByteArray) (i : Nat) : Option Fault :=
  if h : i < bytes.size then
    match scan bytes i bytes[i] with
    | .malformed reason length => some ⟨i, length, bytes[i], reason⟩
    | .char _ length => faultFrom? bytes (i + max length 1)
  else none
termination_by bytes.size - i

/-- The first malformed run, if there is one. -/
def fault? (bytes : ByteArray) : Option Fault := faultFrom? bytes 0

/-! ## Lenient reading -/

/-- Appends what stands from position `i` on to `text`. -/
def decodeFrom (bytes : ByteArray) (i : Nat) (text : String) : String :=
  if h : i < bytes.size then
    match scan bytes i bytes[i] with
    | .malformed _ length => decodeFrom bytes (i + max length 1) (text.push '\uFFFD')
    | .char c length => decodeFrom bytes (i + max length 1) (text.push c)
  else text
termination_by bytes.size - i

/-- The text of the bytes, with one replacement character for each malformed run. -/
def decode (bytes : ByteArray) : String := decodeFrom bytes 0 ""

end LintMark.Utf8

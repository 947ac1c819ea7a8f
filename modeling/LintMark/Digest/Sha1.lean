import LintMark.Digest.Words

/-!
# SHA-1

The digest of 160 bits of the Secure Hash Standard.
-/

namespace LintMark.Digest.Sha1

/-- The chaining state: five words. -/
structure State where
  a : UInt32
  b : UInt32
  c : UInt32
  d : UInt32
  e : UInt32

/-- The state before the first block. -/
def initial : State := ⟨0x67452301, 0xefcdab89, 0x98badcfe, 0x10325476, 0xc3d2e1f0⟩

/-- Rotation to the left. -/
def rotl (w : UInt32) (n : UInt32) : UInt32 := (w <<< n) ||| (w >>> (32 - n))

/-- The eighty words of a block: sixteen words of the message, each later one mixed from four
earlier ones. -/
def schedule (message : ByteArray) (start : Nat) : Array UInt32 :=
  let first := (List.range 16).map fun k ↦ word32 message (start + 4 * k)
  Nat.fold 64 (fun k _ w ↦
    w.push (rotl (w.getD (k + 13) 0 ^^^ w.getD (k + 8) 0 ^^^ w.getD (k + 2) 0 ^^^ w.getD k 0) 1))
    first.toArray

/-- The mixing function and the constant of round `k`. -/
def mix (k : Nat) (b c d : UInt32) : UInt32 :=
  if k < 20 then ((b &&& c) ||| (~~~b &&& d)) + 0x5a827999
  else if k < 40 then (b ^^^ c ^^^ d) + 0x6ed9eba1
  else if k < 60 then ((b &&& c) ||| (b &&& d) ||| (c &&& d)) + 0x8f1bbcdc
  else (b ^^^ c ^^^ d) + 0xca62c1d6

/-- One round with the scheduled word `w`. -/
def round (k : Nat) (w : UInt32) (s : State) : State :=
  ⟨rotl s.a 5 + mix k s.b s.c s.d + s.e + w, s.a, rotl s.b 30, s.c, s.d⟩

/-- Takes the block at position `start` into the state. -/
def compress (message : ByteArray) (s : State) (start : Nat) : State :=
  let w := schedule message start
  let r := Nat.fold 80 (fun k _ s ↦ round k (w.getD k 0) s) s
  ⟨s.a + r.a, s.b + r.b, s.c + r.c, s.d + r.d, s.e + r.e⟩

/-- The twenty bytes of the digest. -/
def digest (message : ByteArray) : List UInt8 :=
  let blocks := padded 64 8 message
  let s := foldBlocks 64 blocks.size (compress blocks) initial
  [s.a, s.b, s.c, s.d, s.e].flatMap bytes32

end LintMark.Digest.Sha1

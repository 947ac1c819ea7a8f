/-!
# Words and bytes

Reading words from a byte sequence and writing them as bytes, in either order, and the walk over
the blocks of a message. Past the end of the sequence a byte reads as zero.
-/

namespace LintMark.Digest

/-- The byte at position `i`, zero past the end. -/
def byteAt (bytes : ByteArray) (i : Nat) : UInt8 := bytes[i]?.getD 0

/-! ## The most significant byte first -/

/-- The word of four bytes at position `i`. -/
def word32 (bytes : ByteArray) (i : Nat) : UInt32 :=
  ((byteAt bytes i).toUInt32 <<< 24) ||| ((byteAt bytes (i + 1)).toUInt32 <<< 16)
    ||| ((byteAt bytes (i + 2)).toUInt32 <<< 8) ||| (byteAt bytes (i + 3)).toUInt32

/-- The word of eight bytes at position `i`. -/
def word64 (bytes : ByteArray) (i : Nat) : UInt64 :=
  ((word32 bytes i).toUInt64 <<< 32) ||| (word32 bytes (i + 4)).toUInt64

/-- The four bytes of a word. -/
def bytes32 (w : UInt32) : List UInt8 :=
  [(w >>> 24).toUInt8, (w >>> 16).toUInt8, (w >>> 8).toUInt8, w.toUInt8]

/-- The eight bytes of a word. -/
def bytes64 (w : UInt64) : List UInt8 := bytes32 (w >>> 32).toUInt32 ++ bytes32 w.toUInt32

/-! ## The least significant byte first -/

/-- The word of four bytes at position `i`. -/
def word32Rev (bytes : ByteArray) (i : Nat) : UInt32 :=
  ((byteAt bytes (i + 3)).toUInt32 <<< 24) ||| ((byteAt bytes (i + 2)).toUInt32 <<< 16)
    ||| ((byteAt bytes (i + 1)).toUInt32 <<< 8) ||| (byteAt bytes i).toUInt32

/-- The word of eight bytes at position `i`. -/
def word64Rev (bytes : ByteArray) (i : Nat) : UInt64 :=
  ((word32Rev bytes (i + 4)).toUInt64 <<< 32) ||| (word32Rev bytes i).toUInt64

/-- The four bytes of a word. -/
def bytes32Rev (w : UInt32) : List UInt8 := (bytes32 w).reverse

/-- The eight bytes of a word. -/
def bytes64Rev (w : UInt64) : List UInt8 := (bytes64 w).reverse

/-! ## Messages and blocks -/

/-- The last `width` bytes of `n`, the most significant first. -/
def lengthField (width n : Nat) : List UInt8 :=
  (List.range width).map fun k ↦ (n >>> (8 * (width - 1 - k))).toUInt8

/-- The message followed by a one bit, zero bits, and its length in bits in `field` bytes; the
whole fills blocks of `block` bytes. -/
def padded (block field : Nat) (message : ByteArray) : ByteArray :=
  let zeros := (block - (message.size + 1 + field) % block) % block
  message ++ ((0x80 :: List.replicate zeros 0) ++ lengthField field (8 * message.size)).toByteArray

/-- Folds `step` over the starting positions of the blocks of a message. -/
@[specialize] def foldBlocks {σ : Type} (block size : Nat) (step : σ → Nat → σ) (start : σ) : σ :=
  (size / block).fold (fun k _ state ↦ step state (k * block)) start

end LintMark.Digest

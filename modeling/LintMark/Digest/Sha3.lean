import LintMark.Digest.Words

/-!
# SHA-3

The digests of fixed length of the permutation-based hash standard: the Keccak permutation on
twenty-five lanes of 64 bits, driven as a sponge.
-/

namespace LintMark.Digest.Sha3

/-- The lanes of the permutation; lane `(x, y)` stands at place `x + 5 * y`. -/
abbrev Lanes := Vector UInt64 25

/-- Lane `(x, y)`, both coordinates taken modulo five. -/
def lane (s : Lanes) (x y : Nat) : UInt64 :=
  s.get ⟨x % 5 + 5 * (y % 5), by omega⟩

/-- The state whose lane `(x, y)` is `f x y`. -/
@[inline] def ofLanes (f : Nat → Nat → UInt64) : Lanes := .ofFn fun k ↦ f (k.val % 5) (k.val / 5)

/-- The constant of each round. -/
def roundConstants : Array UInt64 :=
  #[0x0000000000000001, 0x0000000000008082, 0x800000000000808a, 0x8000000080008000,
    0x000000000000808b, 0x0000000080000001, 0x8000000080008081, 0x8000000000008009,
    0x000000000000008a, 0x0000000000000088, 0x0000000080008009, 0x000000008000000a,
    0x000000008000808b, 0x800000000000008b, 0x8000000000008089, 0x8000000000008003,
    0x8000000000008002, 0x8000000000000080, 0x000000000000800a, 0x800000008000000a,
    0x8000000080008081, 0x8000000000008080, 0x0000000080000001, 0x8000000080008008]

/-- The rotation distance of each lane, by its place. -/
def distances : Vector Nat 25 :=
  #v[0, 1, 62, 28, 27, 36, 44, 6, 55, 20, 3, 10, 43, 25, 39, 41, 45, 15, 21, 8, 18, 2, 61, 56, 14]

/-- Rotation to the left. -/
def rotl (w : UInt64) (n : Nat) : UInt64 :=
  if n = 0 then w else (w <<< n.toUInt64) ||| (w >>> (64 - n).toUInt64)

/-- The parity of column `x`. -/
def parity (s : Lanes) (x : Nat) : UInt64 :=
  lane s x 0 ^^^ lane s x 1 ^^^ lane s x 2 ^^^ lane s x 3 ^^^ lane s x 4

/-- Adds to each lane the parities of two neighbouring columns. -/
def theta (s : Lanes) : Lanes :=
  let parities : Vector UInt64 5 := .ofFn fun x ↦ parity s x.val
  let column (x : Nat) : UInt64 := parities.get ⟨x % 5, by omega⟩
  ofLanes fun x y ↦ lane s x y ^^^ column (x + 4) ^^^ rotl (column (x + 1)) 1

/-- Rotates each lane by its distance and moves the lanes about. -/
def rhoPi (s : Lanes) : Lanes :=
  ofLanes fun x y ↦
    let x' := (x + 3 * y) % 5
    rotl (lane s x' x) (distances.get ⟨x' % 5 + 5 * (x % 5), by omega⟩)

/-- Combines each lane with the two to its right. -/
def chi (s : Lanes) : Lanes :=
  ofLanes fun x y ↦ lane s x y ^^^ (~~~lane s (x + 1) y &&& lane s (x + 2) y)

/-- The permutation: twenty-four rounds. -/
def permute (s : Lanes) : Lanes :=
  roundConstants.foldl (fun s c ↦
    let s := chi (rhoPi (theta s))
    s.set 0 (s[0] ^^^ c)) s

/-- Adds `rate` bytes from position `start` on to the state and permutes it. -/
def absorb (rate : Nat) (message : ByteArray) (s : Lanes) (start : Nat) : Lanes :=
  permute (.ofFn fun k ↦
    if 8 * k.val < rate then s[k] ^^^ word64Rev message (start + 8 * k.val) else s[k])

/-- The message with its domain bits, filled up to blocks of `rate` bytes. -/
def padded (rate : Nat) (message : ByteArray) : ByteArray :=
  let fill := rate - message.size % rate
  -- The domain bits and the last bit share a byte where there is room for one only.
  let tail : List UInt8 :=
    if fill = 1 then [0x86] else 0x06 :: (List.replicate (fill - 2) 0 ++ [0x80])
  message ++ tail.toByteArray

/-- The digest of `width` bytes. -/
def digest (width : Nat) (message : ByteArray) : List UInt8 :=
  let rate := 200 - 2 * width
  let blocks := padded rate message
  let s := foldBlocks rate blocks.size (absorb rate blocks) (.replicate 25 0)
  (s.toList.flatMap bytes64Rev).take width

end LintMark.Digest.Sha3

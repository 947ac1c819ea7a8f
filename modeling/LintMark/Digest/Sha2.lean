import LintMark.Digest.Words

/-!
# SHA-2

The digests of the Secure Hash Standard on words of 32 bits (SHA-224, SHA-256) and of 64 bits
(SHA-384, SHA-512). Both families run the same rounds; a `Family` holds what differs.
-/

namespace LintMark.Digest.Sha2

/-- The chaining state: eight words. -/
structure State (w : Type) where
  a : w
  b : w
  c : w
  d : w
  e : w
  f : w
  g : w
  h : w

/-- The words of a state in order. -/
def State.words {w : Type} (s : State w) : List w := [s.a, s.b, s.c, s.d, s.e, s.f, s.g, s.h]

/-- What the two word sizes do not share. -/
structure Family (w : Type) where
  /-- The bytes of a word. -/
  wordBytes : Nat
  /-- The additive constants, one for each round. -/
  constants : Array w
  /-- Reads a word. -/
  wordAt : ByteArray → Nat → w
  /-- Mixes the first word of the state. -/
  bigSigma0 : w → w
  /-- Mixes the fifth word of the state. -/
  bigSigma1 : w → w
  /-- Mixes the scheduled word fifteen places back. -/
  smallSigma0 : w → w
  /-- Mixes the scheduled word two places back. -/
  smallSigma1 : w → w

section

variable {w : Type} [Add w] [XorOp w] [AndOp w] [Complement w] [Inhabited w]

/-- The scheduled words of a block, one for each round. -/
@[specialize] def Family.schedule (fam : Family w) (message : ByteArray) (start : Nat) : Array w :=
  let first := (List.range 16).map fun k ↦ fam.wordAt message (start + fam.wordBytes * k)
  Nat.fold (fam.constants.size - 16) (fun k _ ws ↦
    ws.push (fam.smallSigma1 (ws.getD (k + 14) default) + ws.getD (k + 9) default
      + fam.smallSigma0 (ws.getD (k + 1) default) + ws.getD k default)) first.toArray

/-- One round with the constant `k` and the scheduled word `x`. -/
@[specialize] def Family.round (fam : Family w) (k x : w) (s : State w) : State w :=
  let choice := (s.e &&& s.f) ^^^ (~~~s.e &&& s.g)
  let majority := (s.a &&& s.b) ^^^ (s.a &&& s.c) ^^^ (s.b &&& s.c)
  let t₁ := s.h + fam.bigSigma1 s.e + choice + k + x
  let t₂ := fam.bigSigma0 s.a + majority
  ⟨t₁ + t₂, s.a, s.b, s.c, s.d + t₁, s.e, s.f, s.g⟩

/-- Takes the block at position `start` into the state. -/
@[specialize] def Family.compress (fam : Family w) (message : ByteArray) (s : State w)
    (start : Nat) : State w :=
  let ws := fam.schedule message start
  let r := Nat.fold fam.constants.size (fun k _ s ↦
    fam.round (fam.constants.getD k default) (ws.getD k default) s) s
  ⟨s.a + r.a, s.b + r.b, s.c + r.c, s.d + r.d, s.e + r.e, s.f + r.f, s.g + r.g, s.h + r.h⟩

/-- The state after all blocks of the message. -/
@[specialize] def Family.run (fam : Family w) (initial : State w) (message : ByteArray) : State w :=
  let block := 16 * fam.wordBytes
  let blocks := padded block (2 * fam.wordBytes) message
  foldBlocks block blocks.size (fam.compress blocks) initial

end

/-! ## Words of 32 bits -/

/-- Rotation to the right. -/
def rotr32 (x : UInt32) (n : UInt32) : UInt32 := (x >>> n) ||| (x <<< (32 - n))

/-- The first bits of the fractional parts of the cube roots of the first 64 primes. -/
def constants32 : Array UInt32 :=
  #[0x428a2f98, 0x71374491, 0xb5c0fbcf, 0xe9b5dba5, 0x3956c25b, 0x59f111f1, 0x923f82a4,
    0xab1c5ed5, 0xd807aa98, 0x12835b01, 0x243185be, 0x550c7dc3, 0x72be5d74, 0x80deb1fe,
    0x9bdc06a7, 0xc19bf174, 0xe49b69c1, 0xefbe4786, 0x0fc19dc6, 0x240ca1cc, 0x2de92c6f,
    0x4a7484aa, 0x5cb0a9dc, 0x76f988da, 0x983e5152, 0xa831c66d, 0xb00327c8, 0xbf597fc7,
    0xc6e00bf3, 0xd5a79147, 0x06ca6351, 0x14292967, 0x27b70a85, 0x2e1b2138, 0x4d2c6dfc,
    0x53380d13, 0x650a7354, 0x766a0abb, 0x81c2c92e, 0x92722c85, 0xa2bfe8a1, 0xa81a664b,
    0xc24b8b70, 0xc76c51a3, 0xd192e819, 0xd6990624, 0xf40e3585, 0x106aa070, 0x19a4c116,
    0x1e376c08, 0x2748774c, 0x34b0bcb5, 0x391c0cb3, 0x4ed8aa4a, 0x5b9cca4f, 0x682e6ff3,
    0x748f82ee, 0x78a5636f, 0x84c87814, 0x8cc70208, 0x90befffa, 0xa4506ceb, 0xbef9a3f7,
    0xc67178f2]

/-- The family of SHA-224 and SHA-256. -/
def family32 : Family UInt32 where
  wordBytes := 4
  constants := constants32
  wordAt := word32
  bigSigma0 x := rotr32 x 2 ^^^ rotr32 x 13 ^^^ rotr32 x 22
  bigSigma1 x := rotr32 x 6 ^^^ rotr32 x 11 ^^^ rotr32 x 25
  smallSigma0 x := rotr32 x 7 ^^^ rotr32 x 18 ^^^ (x >>> 3)
  smallSigma1 x := rotr32 x 17 ^^^ rotr32 x 19 ^^^ (x >>> 10)

/-- The state before the first block of SHA-256. -/
def initial256 : State UInt32 :=
  ⟨0x6a09e667, 0xbb67ae85, 0x3c6ef372, 0xa54ff53a, 0x510e527f, 0x9b05688c, 0x1f83d9ab,
    0x5be0cd19⟩

/-- The state before the first block of SHA-224. -/
def initial224 : State UInt32 :=
  ⟨0xc1059ed8, 0x367cd507, 0x3070dd17, 0xf70e5939, 0xffc00b31, 0x68581511, 0x64f98fa7,
    0xbefa4fa4⟩

/-- The thirty-two bytes of SHA-256. -/
def digest256 (message : ByteArray) : List UInt8 :=
  (family32.run initial256 message).words.flatMap bytes32

/-- The twenty-eight bytes of SHA-224. -/
def digest224 (message : ByteArray) : List UInt8 :=
  ((family32.run initial224 message).words.take 7).flatMap bytes32

/-! ## Words of 64 bits -/

/-- Rotation to the right. -/
def rotr64 (x : UInt64) (n : UInt64) : UInt64 := (x >>> n) ||| (x <<< (64 - n))

/-- The first bits of the fractional parts of the cube roots of the first 80 primes. -/
def constants64 : Array UInt64 :=
  #[0x428a2f98d728ae22, 0x7137449123ef65cd, 0xb5c0fbcfec4d3b2f, 0xe9b5dba58189dbbc,
    0x3956c25bf348b538, 0x59f111f1b605d019, 0x923f82a4af194f9b, 0xab1c5ed5da6d8118,
    0xd807aa98a3030242, 0x12835b0145706fbe, 0x243185be4ee4b28c, 0x550c7dc3d5ffb4e2,
    0x72be5d74f27b896f, 0x80deb1fe3b1696b1, 0x9bdc06a725c71235, 0xc19bf174cf692694,
    0xe49b69c19ef14ad2, 0xefbe4786384f25e3, 0x0fc19dc68b8cd5b5, 0x240ca1cc77ac9c65,
    0x2de92c6f592b0275, 0x4a7484aa6ea6e483, 0x5cb0a9dcbd41fbd4, 0x76f988da831153b5,
    0x983e5152ee66dfab, 0xa831c66d2db43210, 0xb00327c898fb213f, 0xbf597fc7beef0ee4,
    0xc6e00bf33da88fc2, 0xd5a79147930aa725, 0x06ca6351e003826f, 0x142929670a0e6e70,
    0x27b70a8546d22ffc, 0x2e1b21385c26c926, 0x4d2c6dfc5ac42aed, 0x53380d139d95b3df,
    0x650a73548baf63de, 0x766a0abb3c77b2a8, 0x81c2c92e47edaee6, 0x92722c851482353b,
    0xa2bfe8a14cf10364, 0xa81a664bbc423001, 0xc24b8b70d0f89791, 0xc76c51a30654be30,
    0xd192e819d6ef5218, 0xd69906245565a910, 0xf40e35855771202a, 0x106aa07032bbd1b8,
    0x19a4c116b8d2d0c8, 0x1e376c085141ab53, 0x2748774cdf8eeb99, 0x34b0bcb5e19b48a8,
    0x391c0cb3c5c95a63, 0x4ed8aa4ae3418acb, 0x5b9cca4f7763e373, 0x682e6ff3d6b2b8a3,
    0x748f82ee5defb2fc, 0x78a5636f43172f60, 0x84c87814a1f0ab72, 0x8cc702081a6439ec,
    0x90befffa23631e28, 0xa4506cebde82bde9, 0xbef9a3f7b2c67915, 0xc67178f2e372532b,
    0xca273eceea26619c, 0xd186b8c721c0c207, 0xeada7dd6cde0eb1e, 0xf57d4f7fee6ed178,
    0x06f067aa72176fba, 0x0a637dc5a2c898a6, 0x113f9804bef90dae, 0x1b710b35131c471b,
    0x28db77f523047d84, 0x32caab7b40c72493, 0x3c9ebe0a15c9bebc, 0x431d67c49c100d4c,
    0x4cc5d4becb3e42b6, 0x597f299cfc657e2a, 0x5fcb6fab3ad6faec, 0x6c44198c4a475817]

/-- The family of SHA-384 and SHA-512. -/
def family64 : Family UInt64 where
  wordBytes := 8
  constants := constants64
  wordAt := word64
  bigSigma0 x := rotr64 x 28 ^^^ rotr64 x 34 ^^^ rotr64 x 39
  bigSigma1 x := rotr64 x 14 ^^^ rotr64 x 18 ^^^ rotr64 x 41
  smallSigma0 x := rotr64 x 1 ^^^ rotr64 x 8 ^^^ (x >>> 7)
  smallSigma1 x := rotr64 x 19 ^^^ rotr64 x 61 ^^^ (x >>> 6)

/-- The state before the first block of SHA-512. -/
def initial512 : State UInt64 :=
  ⟨0x6a09e667f3bcc908, 0xbb67ae8584caa73b, 0x3c6ef372fe94f82b, 0xa54ff53a5f1d36f1,
    0x510e527fade682d1, 0x9b05688c2b3e6c1f, 0x1f83d9abfb41bd6b, 0x5be0cd19137e2179⟩

/-- The state before the first block of SHA-384. -/
def initial384 : State UInt64 :=
  ⟨0xcbbb9d5dc1059ed8, 0x629a292a367cd507, 0x9159015a3070dd17, 0x152fecd8f70e5939,
    0x67332667ffc00b31, 0x8eb44a8768581511, 0xdb0c2e0d64f98fa7, 0x47b5481dbefa4fa4⟩

/-- The sixty-four bytes of SHA-512. -/
def digest512 (message : ByteArray) : List UInt8 :=
  (family64.run initial512 message).words.flatMap bytes64

/-- The forty-eight bytes of SHA-384. -/
def digest384 (message : ByteArray) : List UInt8 :=
  ((family64.run initial384 message).words.take 6).flatMap bytes64

end LintMark.Digest.Sha2

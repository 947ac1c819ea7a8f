import LintMark.Digest.Words

/-!
# BLAKE2

The two unkeyed digests of full width: BLAKE2b on words of 64 bits and BLAKE2s on words of 32
bits. Both run the same quarter rounds; a `Family` holds what differs.
-/

namespace LintMark.Digest.Blake2

/-- What the two word sizes do not share. -/
structure Family (w : Type) where
  /-- The bytes of a word. -/
  wordBytes : Nat
  /-- The number of rounds. -/
  rounds : Nat
  /-- The initial state of the hash with the same word size. -/
  initial : Vector w 8
  /-- The four rotation distances of a quarter round. -/
  distances : Nat × Nat × Nat × Nat
  /-- Rotation to the right. -/
  rotr : w → Nat → w
  /-- Reads a word. -/
  wordAt : ByteArray → Nat → w
  /-- The low and the high word of a byte count. -/
  counter : Nat → w × w

/-- The order in which the words of a block enter each round; it repeats after ten rounds. -/
def orders : Vector (Vector Nat 16) 10 :=
  #v[#v[0, 1, 2, 3, 4, 5, 6, 7, 8, 9, 10, 11, 12, 13, 14, 15],
    #v[14, 10, 4, 8, 9, 15, 13, 6, 1, 12, 0, 2, 11, 7, 5, 3],
    #v[11, 8, 12, 0, 5, 2, 15, 13, 10, 14, 3, 6, 7, 1, 9, 4],
    #v[7, 9, 3, 1, 13, 12, 11, 14, 2, 6, 5, 10, 4, 0, 15, 8],
    #v[9, 0, 5, 7, 2, 4, 10, 15, 14, 1, 11, 12, 6, 8, 3, 13],
    #v[2, 12, 6, 10, 0, 11, 8, 3, 4, 13, 7, 5, 15, 14, 1, 9],
    #v[12, 5, 1, 15, 14, 13, 4, 10, 0, 7, 6, 3, 9, 2, 8, 11],
    #v[13, 11, 7, 14, 12, 1, 3, 9, 5, 0, 15, 4, 8, 6, 2, 10],
    #v[6, 15, 14, 9, 11, 3, 0, 8, 12, 2, 13, 7, 1, 4, 10, 5],
    #v[10, 2, 8, 4, 7, 6, 1, 5, 15, 11, 9, 14, 3, 12, 13, 0]]

/-- The four places that each quarter round of a round works on: columns, then diagonals. -/
def quarters : List (Fin 16 × Fin 16 × Fin 16 × Fin 16) :=
  [(0, 4, 8, 12), (1, 5, 9, 13), (2, 6, 10, 14), (3, 7, 11, 15),
    (0, 5, 10, 15), (1, 6, 11, 12), (2, 7, 8, 13), (3, 4, 9, 14)]

section

variable {w : Type} [Add w] [XorOp w] [Complement w] [Inhabited w]

/-- One quarter round on the places `a`, `b`, `c`, `d` with the words `x` and `y`. -/
@[specialize] def Family.quarter (fam : Family w) (v : Vector w 16) (a b c d : Fin 16) (x y : w) :
    Vector w 16 :=
  let (r₁, r₂, r₃, r₄) := fam.distances
  let v := v.set a (v[a] + v[b] + x)
  let v := v.set d (fam.rotr (v[d] ^^^ v[a]) r₁)
  let v := v.set c (v[c] + v[d])
  let v := v.set b (fam.rotr (v[b] ^^^ v[c]) r₂)
  let v := v.set a (v[a] + v[b] + y)
  let v := v.set d (fam.rotr (v[d] ^^^ v[a]) r₃)
  let v := v.set c (v[c] + v[d])
  v.set b (fam.rotr (v[b] ^^^ v[c]) r₄)

/-- One round with the words of a block in the order of round `r`. -/
@[specialize] def Family.round (fam : Family w) (words : Array w) (v : Vector w 16) (r : Nat) :
    Vector w 16 :=
  let order := orders.get ⟨r % 10, by omega⟩
  let word (k : Nat) : w := words.getD (order.toArray.getD k 0) default
  (quarters.foldl (fun (v, k) (a, b, c, d) ↦
    (fam.quarter v a b c d (word (2 * k)) (word (2 * k + 1)), k + 1)) (v, 0)).1

/-- Takes the block at position `start` into the state; `count` bytes have been read by its end,
and `last` says that no block follows. -/
@[specialize] def Family.compress (fam : Family w) (message : ByteArray) (h : Vector w 8)
    (start count : Nat) (last : Bool) : Vector w 8 :=
  let words := ((List.range 16).map fun k ↦ fam.wordAt message (start + fam.wordBytes * k)).toArray
  let (low, high) := fam.counter count
  let v : Vector w 16 := h ++ fam.initial
  let v := v.set 12 (v[12] ^^^ low)
  let v := v.set 13 (v[13] ^^^ high)
  let v := if last then v.set 14 (~~~v[14]) else v
  let v := (List.range fam.rounds).foldl (fam.round words) v
  .ofFn fun k ↦ h.get k ^^^ v.get ⟨k.val, by omega⟩ ^^^ v.get ⟨k.val + 8, by omega⟩

/-- The state after all blocks of the message. An empty message has one block. -/
@[specialize] def Family.run (fam : Family w) (parameters : w) (message : ByteArray) : Vector w 8 :=
  let block := 16 * fam.wordBytes
  let blocks := max 1 ((message.size + block - 1) / block)
  blocks.fold (fun k _ h ↦
    let final := k + 1 = blocks
    -- The zeros that fill the last block are not counted.
    let count := if final then message.size else (k + 1) * block
    fam.compress message h (k * block) count (decide final))
    (fam.initial.set 0 (fam.initial[0] ^^^ parameters))

end

/-- The family of BLAKE2b. -/
def family64 : Family UInt64 where
  wordBytes := 8
  rounds := 12
  initial := #v[
    0x6a09e667f3bcc908, 0xbb67ae8584caa73b, 0x3c6ef372fe94f82b, 0xa54ff53a5f1d36f1,
    0x510e527fade682d1, 0x9b05688c2b3e6c1f, 0x1f83d9abfb41bd6b, 0x5be0cd19137e2179]
  distances := (32, 24, 16, 63)
  rotr x n := (x >>> n.toUInt64) ||| (x <<< (64 - n).toUInt64)
  wordAt := word64Rev
  counter n := (n.toUInt64, (n >>> 64).toUInt64)

/-- The family of BLAKE2s. -/
def family32 : Family UInt32 where
  wordBytes := 4
  rounds := 10
  initial := #v[
    0x6a09e667, 0xbb67ae85, 0x3c6ef372, 0xa54ff53a,
    0x510e527f, 0x9b05688c, 0x1f83d9ab, 0x5be0cd19]
  distances := (16, 12, 8, 7)
  rotr x n := (x >>> n.toUInt32) ||| (x <<< (32 - n).toUInt32)
  wordAt := word32Rev
  counter n := (n.toUInt32, (n >>> 32).toUInt32)

/-- The sixty-four bytes of BLAKE2b. -/
def digestB (message : ByteArray) : List UInt8 :=
  (family64.run 0x01010040 message).toList.flatMap bytes64Rev

/-- The thirty-two bytes of BLAKE2s. -/
def digestS (message : ByteArray) : List UInt8 :=
  (family32.run 0x01010020 message).toList.flatMap bytes32Rev

end LintMark.Digest.Blake2

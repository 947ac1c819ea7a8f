import LintMark.Fingerprint.Basic
import Mathlib.Data.List.Basic

/-!
# Digests and their codes

Every fingerprint of a text carries the code of its digest (`coded_ofText`). The reduction to a code
refuses what is no sequence of hexadecimal digits, and a fingerprint would then be left with a code
of its own; no digest is refused, for each has the width of its algorithm and is written in digits.

A comparison of codes therefore tells nothing that a comparison of digests does not tell
(`Coded.sameWarning_eq`).
-/

namespace LintMark

/-! ## Widths -/

namespace Digest

theorem length_flatMap_of_forall {w b : Type} {parts : w → List b} {n : Nat}
    (h : ∀ x, (parts x).length = n) (words : List w) :
    (words.flatMap parts).length = words.length * n := by
  induction words with
  | nil => rw [List.flatMap_nil, List.length_nil, List.length_nil, Nat.zero_mul]
  | cons x words ih =>
    rw [List.flatMap_cons, List.length_append, h, ih, List.length_cons, Nat.succ_mul, Nat.add_comm]

theorem length_bytes32Rev (x : UInt32) : (bytes32Rev x).length = 4 := rfl

theorem length_bytes64Rev (x : UInt64) : (bytes64Rev x).length = 8 := rfl

theorem Sha3.length_digest {width : Nat} (hwidth : width ≤ 200) (message : ByteArray) :
    (digest width message).length = width := by
  rw [digest, List.length_take, length_flatMap_of_forall length_bytes64Rev, Vector.length_toList]
  exact Nat.min_eq_left hwidth

end Digest

namespace Algorithm

open Digest

/-- The number of bytes of a digest. -/
def width : Algorithm → Nat
  | sha1 => 20
  | sha224 | sha3_224 => 28
  | sha256 | sha3_256 | blake2s => 32
  | sha384 | sha3_384 => 48
  | sha512 | sha3_512 | blake2b => 64
  | ofPlatform d => d.width

/-- Every digest has the width of its algorithm. -/
theorem length_digest (algorithm : Algorithm) (message : ByteArray) :
    (algorithm.digest message).length = algorithm.width := by
  cases algorithm with
  | sha1 => rfl
  | sha224 | sha256 | sha384 | sha512 => rfl
  | sha3_224 | sha3_256 | sha3_384 | sha3_512 => exact Sha3.length_digest (by decide) message
  | blake2b =>
    rw [digest, Blake2.digestB, length_flatMap_of_forall length_bytes64Rev,
      Vector.length_toList]
    rfl
  | blake2s =>
    rw [digest, Blake2.digestS, length_flatMap_of_forall length_bytes32Rev,
      Vector.length_toList]
    rfl
  | ofPlatform d => exact d.length_digest message

/-- No algorithm is narrower than 160 bits. -/
theorem twenty_le_width (algorithm : Algorithm) : 20 ≤ algorithm.width := by
  cases algorithm with
  | ofPlatform d => exact d.twenty_le_width
  | _ => decide

/-! ## Hexadecimal digits -/

/-- A digest has two digits for each byte. -/
theorem length_hexDigest (algorithm : Algorithm) (text : String) :
    (algorithm.hexDigest text).length = algorithm.width * 2 := by
  have htwo : ∀ byte, (hexByte byte).length = 2 := fun _ ↦ rfl
  rw [hexDigest, String.length_ofList, length_flatMap_of_forall htwo, algorithm.length_digest]

theorem digit?_digitChar : ∀ n < 16, Code.digit? (Nat.digitChar n) = some n := by decide

/-- The values of the two digits of a byte. -/
def hexValues (byte : UInt8) : List Nat := [byte.toNat / 16, byte.toNat % 16]

theorem mapM_digit?_flatMap_hexByte (bytes : List UInt8) :
    (bytes.flatMap hexByte).mapM Code.digit? = some (bytes.flatMap hexValues) := by
  induction bytes with
  | nil => rfl
  | cons byte bytes ih =>
    have hhigh : byte.toNat / 16 < 16 := by have := byte.toNat_lt; omega
    have hlow : byte.toNat % 16 < 16 := Nat.mod_lt _ (by decide)
    rw [List.flatMap_cons, List.mapM_append, ih, hexByte, List.mapM_cons, List.mapM_cons,
      List.mapM_nil, digit?_digitChar _ hhigh, digit?_digitChar _ hlow]
    rfl

/-- Every digest has a code. -/
theorem ofHex_hexDigest (algorithm : Algorithm) (text : String) :
    ∃ code, Code.ofHex (algorithm.hexDigest text) = .ok code := by
  have hwidth := algorithm.length_digest text.toUTF8
  have hpos := algorithm.twenty_le_width
  rw [Code.ofHex, hexDigest, String.toList_ofList, mapM_digit?_flatMap_hexByte]
  cases hbytes : algorithm.digest text.toUTF8 with
  | nil =>
    rw [hbytes, List.length_nil] at hwidth
    omega
  | cons byte bytes => exact ⟨_, rfl⟩

end Algorithm

namespace Fingerprint

/-- The code of the fingerprint is that of its digest. -/
def Coded (f : Fingerprint) : Prop := Code.ofHex f.digest = .ok f.code

variable {f g : Fingerprint} (algorithm : Algorithm) (text : String)

theorem ofText_eq : ∃ code, Code.ofHex (algorithm.hexDigest text) = .ok code ∧
    ofText algorithm text = ⟨algorithm.hexDigest text, code⟩ := by
  obtain ⟨code, hcode⟩ := algorithm.ofHex_hexDigest text
  refine ⟨code, hcode, ?_⟩
  rw [ofText, ofDigest, hcode]
  rfl

theorem digest_ofText : (ofText algorithm text).digest = algorithm.hexDigest text := by
  obtain ⟨code, -, heq⟩ := ofText_eq algorithm text
  rw [heq]

/-- The fingerprint of a text carries the code of its digest. -/
theorem coded_ofText : (ofText algorithm text).Coded := by
  obtain ⟨code, hcode, heq⟩ := ofText_eq algorithm text
  rw [Coded, heq]
  exact hcode

theorem Coded.code_eq (hf : f.Coded) (hg : g.Coded) (h : f.digest = g.digest) :
    f.code = g.code := by
  rw [Coded, h, hg] at hf
  exact (Except.ok.inj hf).symm

/-- Fingerprints that carry the codes of their digests are told apart by their digests. -/
theorem Coded.sameWarning_eq (hf : f.Coded) (hg : g.Coded) :
    sameWarning (some f) (some g) = decide (f.digest = g.digest) := by
  rw [sameWarning]
  by_cases h : f.digest = g.digest
  · rw [if_neg (not_not_intro (hf.code_eq hg h))]
  · split
    · exact (decide_eq_false h).symm
    · rfl

end Fingerprint

end LintMark

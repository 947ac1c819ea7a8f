import LintMark.Digest.Blake2
import LintMark.Digest.Sha1
import LintMark.Digest.Sha2
import LintMark.Digest.Sha3
import LintMark.Text.Basic

/-!
# Digest algorithms

The algorithms that a fingerprint may use, and the names under which they are known. A usable
algorithm has a digest of fixed length that is not shorter than 160 bits, the width of SHA-1.

Some algorithms are there on every platform, under the same names. What a platform has beyond them,
and which other names it knows, is up to the platform.
-/

namespace LintMark

/-- A digest algorithm that a platform brings along. -/
structure PlatformDigest where
  /-- The number of bytes of a digest. -/
  width : Nat
  /-- The bytes of the digest of a message. -/
  digest : ByteArray → List UInt8
  /-- Every digest has the width. -/
  length_digest : ∀ message, (digest message).length = width
  /-- The width is at least 160 bits. -/
  twenty_le_width : 20 ≤ width

/-- A digest algorithm of fixed width, of at least 160 bits. -/
inductive Algorithm where
  | sha1
  | sha224
  | sha256
  | sha384
  | sha512
  | sha3_224
  | sha3_256
  | sha3_384
  | sha3_512
  | blake2b
  | blake2s
  | ofPlatform (digest : PlatformDigest)

/-- Why a name denotes no usable algorithm. -/
inductive AlgorithmDefect where
  /-- The digest has less than 160 bits. -/
  | narrow
  /-- The digest has no length of its own. -/
  | variableLength
  /-- The text has a half of a surrogate pair or a zero character, and so is no name. -/
  | noName
  /-- No algorithm has the name. -/
  | unknown
deriving DecidableEq, Repr

/-- What a platform says to a name that is not one of the names known everywhere. -/
abbrev Platform := Text → Except AlgorithmDefect PlatformDigest

/-- The platform without algorithms of its own. -/
def Platform.bare : Platform := fun _ ↦ .error .unknown

/-- A name that denotes no usable algorithm. -/
structure AlgorithmError where
  /-- The name that was asked for. -/
  name : Text
  /-- What is wrong with it. -/
  defect : AlgorithmDefect
deriving DecidableEq, Repr

namespace AlgorithmError

/-- The detail that the message gives in brackets. -/
def detail (e : AlgorithmError) : Text :=
  match e.defect with
  | .narrow => "digest narrower than 160 bits"
  | .variableLength => "hexdigest() missing required argument 'length' (pos 1)"
  | .noName => "name must be a string"
  | .unknown => "unsupported hash type " ++ e.name

/-- The wording of the error. -/
def message (e : AlgorithmError) : Text :=
  "Requested algorithm not found: " ++ e.name ++ " (" ++ e.detail ++ ")"

end AlgorithmError

namespace Algorithm

/-- The names known everywhere. The older family also answers to upper-case names. -/
def names : List (Text × Algorithm) :=
  [("sha1", sha1), ("sha224", sha224), ("sha256", sha256), ("sha384", sha384),
    ("sha512", sha512), ("SHA1", sha1), ("SHA224", sha224), ("SHA256", sha256),
    ("SHA384", sha384), ("SHA512", sha512), ("sha3_224", sha3_224), ("sha3_256", sha3_256),
    ("sha3_384", sha3_384), ("sha3_512", sha3_512), ("blake2b", blake2b), ("blake2s", blake2s)]

/-- The names known everywhere that denote no usable algorithm. -/
def unusableNames : List (Text × AlgorithmDefect) :=
  [("md5", .narrow), ("MD5", .narrow), ("shake_128", .variableLength),
    ("shake_256", .variableLength)]

/-- Whether a symbol may stand in a name. -/
def isNameSymbol : Symbol → Bool
  | .char c => c ≠ '\x00'
  | .half _ => false

/-- The algorithm with the given name. -/
def ofName (platform : Platform) (name : Text) : Except AlgorithmError Algorithm :=
  match names.lookup name, unusableNames.lookup name with
  | some algorithm, _ => .ok algorithm
  | none, some defect => .error ⟨name, defect⟩
  | none, none =>
    if name.symbols.all isNameSymbol then
      match platform name with
      | .ok digest => .ok (ofPlatform digest)
      | .error defect => .error ⟨name, defect⟩
    else .error ⟨name, .noName⟩

/-- The bytes of the digest of a message. -/
def digest : Algorithm → ByteArray → List UInt8
  | sha1 => Digest.Sha1.digest
  | sha224 => Digest.Sha2.digest224
  | sha256 => Digest.Sha2.digest256
  | sha384 => Digest.Sha2.digest384
  | sha512 => Digest.Sha2.digest512
  | sha3_224 => Digest.Sha3.digest 28
  | sha3_256 => Digest.Sha3.digest 32
  | sha3_384 => Digest.Sha3.digest 48
  | sha3_512 => Digest.Sha3.digest 64
  | blake2b => Digest.Blake2.digestB
  | blake2s => Digest.Blake2.digestS
  | ofPlatform d => d.digest

/-- A byte as two lower-case hexadecimal digits. -/
def hexByte (byte : UInt8) : List Char :=
  [Nat.digitChar (byte.toNat / 16), Nat.digitChar (byte.toNat % 16)]

/-- The digest of a text, taken as UTF-8, in lower-case hexadecimal digits. -/
def hexDigest (algorithm : Algorithm) (text : String) : String :=
  String.ofList ((algorithm.digest text.toUTF8).flatMap hexByte)

end Algorithm

end LintMark

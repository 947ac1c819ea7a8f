/-!
# Lexemes of Java

Cutting the bytes of a source into lexemes: words, literals, signs and comments. Each lexeme is the
longest one at its place, with one exception: a greater-than sign is always a lexeme of its own.
Two of them may close two lists of type arguments, and only the reader of an expression knows that
they are a shift.

Bytes beyond ASCII count as letters. A lexeme that is not Java, such as a stray sign or a string
without an end, has the type `unknown` and takes the rest of the source.

Lexemes serve the stand-in grammar of `LintMark.Java.Grammar` and nothing else.
-/

namespace LintMark.Java

/-- A lexeme of a source. -/
structure Lexeme where
  /-- The type of a row that stands for it. For a sign or a reserved word, the lexeme itself. -/
  type : String
  /-- The text of an identifier; empty for the other types. -/
  word : String
  /-- The offset of the first byte. -/
  start : Nat
  /-- The offset behind the last byte. -/
  stop : Nat
deriving Inhabited, DecidableEq, Repr

namespace Lexeme

/-- Whether the lexeme is a comment. -/
def isComment (l : Lexeme) : Bool := l.type ∈ ["line_comment", "block_comment"]

/-- The lexeme types that the grammar has a name for. -/
def namedTypes : List String :=
  ["identifier", "this", "super", "true", "false", "null_literal", "string_literal",
    "character_literal", "decimal_integer_literal", "hex_integer_literal",
    "octal_integer_literal", "binary_integer_literal", "decimal_floating_point_literal",
    "hex_floating_point_literal"]

/-- The words that are no identifiers. -/
def reservedWords : List String :=
  ["abstract", "assert", "boolean", "break", "byte", "case", "catch", "char", "class", "continue",
    "default", "do", "double", "else", "enum", "extends", "false", "final", "finally", "float",
    "for", "if", "implements", "import", "instanceof", "int", "interface", "long", "native", "new",
    "package", "private", "protected", "public", "return", "short", "static", "strictfp", "super",
    "switch", "synchronized", "this", "throw", "throws", "transient", "true", "try", "void",
    "volatile", "while"]

/-- The signs. A sign that another one begins with comes after it. -/
def signs : List String :=
  ["...", "<<=", "->", "::", "++", "--", "&&", "||", "==", "!=", "<=", "<<", "+=", "-=", "*=",
    "/=", "%=", "&=", "|=", "^=", "(", ")", "\x7b", "\x7d", "[", "]", ";", ",", ".", "@", "=",
    "<", ">", "!", "~", "?", ":", "+", "-", "*", "/", "%", "&", "|", "^"]

end Lexeme

/-! ## Classes of bytes -/

/-- Whether a byte is blank. -/
def isBlank (b : UInt8) : Bool := b = 32 || (9 ≤ b && b ≤ 13)

/-- Whether a byte is an ASCII digit. -/
def isDigit (b : UInt8) : Bool := 48 ≤ b && b ≤ 57

/-- Whether a byte can start a word. -/
def isWordStart (b : UInt8) : Bool :=
  (65 ≤ b && b ≤ 90) || (97 ≤ b && b ≤ 122) || b = 95 || b = 36 || 128 ≤ b

/-- Whether a byte can stand in a word. -/
def isWordPart (b : UInt8) : Bool := isWordStart b || isDigit b

/-- Whether a byte can stand among the digits of a binary number. -/
def isBinaryPart (b : UInt8) : Bool := b = 48 || b = 49 || b = 95

/-- Whether a byte can stand among the digits of an octal number. -/
def isOctalPart (b : UInt8) : Bool := (48 ≤ b && b ≤ 55) || b = 95

/-- Whether a byte can stand among the digits of a decimal number. -/
def isDecimalPart (b : UInt8) : Bool := isDigit b || b = 95

/-- Whether a byte can stand among the digits of a hexadecimal number. -/
def isHexPart (b : UInt8) : Bool := isDecimalPart b || (65 ≤ b && b ≤ 70) || (97 ≤ b && b ≤ 102)

/-! ## Runs and ends

The scanners give the index behind what they have scanned.
-/

/-- The index behind the longest run of bytes of one class from an index on. -/
def runEnd (bytes : ByteArray) (p : UInt8 → Bool) (i : Nat) : Nat :=
  if h : i < bytes.size then if p bytes[i] then runEnd bytes p (i + 1) else i else i
termination_by bytes.size - i

/-- Whether the byte at an index is one of the characters of a text. -/
def isOneOf (bytes : ByteArray) (i : Nat) (chars : List Char) : Bool :=
  match bytes[i]? with
  | some b => chars.any fun c ↦ c.toNat = b.toNat
  | none => false

/-- Whether the bytes from an index on spell an ASCII text. -/
def spells (bytes : ByteArray) (i : Nat) : List Char → Bool
  | [] => true
  | c :: cs => isOneOf bytes i [c] && spells bytes (i + 1) cs

/-- The index behind the first place from an index on where a text stands. A backslash hides the
byte behind it if `escapes` says so, and the text has to be found before a line ends if `inLine`
says so. -/
def endOf? (bytes : ByteArray) (text : List Char) (escapes inLine : Bool) (i : Nat) :
    Option Nat :=
  if i < bytes.size then
    if spells bytes i text then some (i + text.length)
    else if inLine && isOneOf bytes i ['\n'] then none
    else if escapes && isOneOf bytes i ['\\'] then endOf? bytes text escapes inLine (i + 2)
    else endOf? bytes text escapes inLine (i + 1)
  else none
termination_by bytes.size - i

/-! ## Numbers -/

/-- The index behind an optional byte out of a class. -/
def optionalEnd (bytes : ByteArray) (chars : List Char) (i : Nat) : Nat :=
  if isOneOf bytes i chars then i + 1 else i

/-- The index behind an optional exponent, which one of the given letters starts. -/
def exponentEnd (bytes : ByteArray) (letters : List Char) (i : Nat) : Nat :=
  if isOneOf bytes i letters then
    runEnd bytes isDecimalPart (optionalEnd bytes ['+', '-'] (i + 1))
  else i

/-- The index behind an optional fraction with digits of a class. -/
def fractionEnd (bytes : ByteArray) (p : UInt8 → Bool) (i : Nat) : Nat :=
  if isOneOf bytes i ['.'] then runEnd bytes p (i + 1) else i

/-- The index behind what makes a floating-point number of the digits that end at `digits`: a
fraction, an exponent, or the letter of a type. -/
def floatEnd (bytes : ByteArray) (p : UInt8 → Bool) (exponent : List Char) (digits : Nat) : Nat :=
  optionalEnd bytes ['f', 'F', 'd', 'D']
    (exponentEnd bytes exponent (fractionEnd bytes p digits))

/-- The decimal or octal number at an index. Behind a zero the digits of an integer are octal, so
`09` is a zero that a nine follows. -/
def decimalNumber (bytes : ByteArray) (i : Nat) : String × Nat :=
  let digits := runEnd bytes isDecimalPart i
  let stop := floatEnd bytes isDecimalPart ['e', 'E'] digits
  if digits < stop then ("decimal_floating_point_literal", stop)
  else if isOneOf bytes i ['0'] && i + 1 < digits then
    if runEnd bytes isOctalPart i = digits then
      ("octal_integer_literal", optionalEnd bytes ['l', 'L'] digits)
    else ("decimal_integer_literal", i + 1)
  else ("decimal_integer_literal", optionalEnd bytes ['l', 'L'] digits)

/-- The hexadecimal number whose digits start at an index. -/
def hexNumber (bytes : ByteArray) (i : Nat) : String × Nat :=
  let digits := runEnd bytes isHexPart i
  -- The letters of the floating-point types are digits here, so only an exponent makes a float.
  let fraction := fractionEnd bytes isHexPart digits
  if isOneOf bytes fraction ['p', 'P'] then
    ("hex_floating_point_literal", floatEnd bytes isHexPart ['p', 'P'] digits)
  else ("hex_integer_literal", optionalEnd bytes ['l', 'L'] digits)

/-- The number at an index. -/
def number (bytes : ByteArray) (i : Nat) : String × Nat :=
  let isZero := isOneOf bytes i ['0']
  -- A letter behind the zero counts only if a digit or a point follows it.
  let starts (p : UInt8 → Bool) := (bytes[i + 2]?.map p).getD false
  if isZero && isOneOf bytes (i + 1) ['x', 'X'] && starts (fun b ↦ isHexPart b || b = 46) then
    hexNumber bytes (i + 2)
  else if isZero && isOneOf bytes (i + 1) ['b', 'B'] && starts isBinaryPart then
    ("binary_integer_literal", optionalEnd bytes ['l', 'L'] (runEnd bytes isBinaryPart (i + 2)))
  else decimalNumber bytes i

/-! ## Words -/

/-- The type of a word. -/
def wordType (word : String) : String :=
  if word = "null" then "null_literal"
  else if word ∈ Lexeme.reservedWords then word
  else "identifier"

/-- The text of a word of a source, which is well-formed UTF-8 wherever the source is. -/
def wordText (bytes : ByteArray) (start stop : Nat) : String :=
  (String.fromUTF8? (bytes.extract start stop)).getD ""

/-- The words with a sign inside that are one lexeme. -/
def compoundWords : List String := ["@interface", "non-sealed"]

/-- The compound word at an index, with the index behind it. -/
def compoundWord? (bytes : ByteArray) (i : Nat) : Option (String × Nat) :=
  (compoundWords.find? fun word ↦
    spells bytes i word.toList && runEnd bytes isWordPart (i + word.length) = i + word.length).map
      fun word ↦ (word, i + word.length)

/-! ## Lexemes -/

/-- The type of the lexeme at an index, with the index behind it. -/
def scan? (bytes : ByteArray) (i : Nat) : Option (String × Nat) :=
  if spells bytes i ['/', '/'] then some ("line_comment", runEnd bytes (· ≠ 10) i)
  else if spells bytes i ['/', '*'] then
    (endOf? bytes ['*', '/'] false false (i + 2)).map ("block_comment", ·)
  else if spells bytes i ['\x22', '\x22', '\x22'] then
    (endOf? bytes ['\x22', '\x22', '\x22'] true false (i + 3)).map ("string_literal", ·)
  else if spells bytes i ['\x22'] then
    (endOf? bytes ['\x22'] true true (i + 1)).map ("string_literal", ·)
  -- A character literal is not empty.
  else if spells bytes i ['\x27', '\x27'] then none
  else if spells bytes i ['\x27'] then
    (endOf? bytes ['\x27'] true true (i + 1)).map ("character_literal", ·)
  else if let some word := compoundWord? bytes i then some word
  else match bytes[i]? with
    | none => none
    | some b =>
      if isWordStart b then
        let stop := runEnd bytes isWordPart i
        some (wordType (wordText bytes i stop), stop)
      else if isDigit b || (b = 46 && (bytes[i + 1]?.map isDigit).getD false) then
        some (number bytes i)
      else
        (Lexeme.signs.find? fun sign ↦ spells bytes i sign.toList).map fun sign ↦
          (sign, i + sign.length)

/-- The next lexeme from an index on. -/
def nextLexeme? (bytes : ByteArray) (i : Nat) : Option Lexeme :=
  let start := runEnd bytes isBlank i
  if start < bytes.size then
    match scan? bytes start with
    | some (type, stop) =>
      some ⟨type, if type = "identifier" then wordText bytes start stop else "", start, stop⟩
    | none => some ⟨"unknown", "", start, bytes.size⟩
  else none

/-- The lexemes from an index on, behind those found before it. -/
def lexemesFrom (bytes : ByteArray) (i : Nat) (found : Array Lexeme) : Array Lexeme :=
  match nextLexeme? bytes i with
  | some l =>
    if i < l.stop ∧ i < bytes.size then lexemesFrom bytes l.stop (found.push l)
    else found
  | none => found
termination_by bytes.size - i

/-- The lexemes of a source, comments included. -/
def lexemes (bytes : ByteArray) : Array Lexeme := lexemesFrom bytes 0 #[]

end LintMark.Java

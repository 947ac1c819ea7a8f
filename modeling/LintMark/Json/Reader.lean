import LintMark.Json.Value

/-!
# Reading documents

A document is first cut into tokens, and then the tokens are folded into a value. The fold keeps
the containers that are open in a list of frames, so a step of it looks at one token and the
depth of a document costs nothing.

A character that starts no token gives the token `junk`, behind which nothing is read. An integer
of more digits than an integer may have gives the token `longInteger`. Both only matter when the
fold gets to them, so of two faults of a document the first one counts.

Beyond the standard the numbers `NaN`, `Infinity` and `-Infinity` are read.
-/

namespace LintMark.Json

/-- Why a document cannot be read. -/
inductive ReadError where
  /-- The text is no document. -/
  | malformed
  /-- An integer has more digits than an integer may have. -/
  | longInteger
deriving DecidableEq, Repr

/-- A token of a document. -/
inductive Token where
  /-- A bracket, a brace, a comma or a colon. -/
  | sign (c : Char)
  /-- A text. -/
  | str (t : Text)
  /-- A literal or a number. -/
  | scalar (value : Json)
  /-- An integer of too many digits. -/
  | longInteger
  /-- Something that starts no token. -/
  | junk

/-! ## Texts -/

/-- The value of four hexadecimal digits. -/
def hexUnit? (digits : List Char) : Option Nat :=
  digits.foldlM (fun n c ↦
    if c.isDigit then some (16 * n + (c.toNat - '0'.toNat))
    else if 'a' ≤ c ∧ c ≤ 'f' then some (16 * n + (c.toNat - 'a'.toNat + 10))
    else if 'A' ≤ c ∧ c ≤ 'F' then some (16 * n + (c.toNat - 'A'.toNat + 10))
    else none) 0

/-- The character that a backslash and a letter stand for. -/
def escaped? : Char → Option Char
  | '\x22' => some '\x22'
  | '\\' => some '\\'
  | '/' => some '/'
  | 'b' => some '\x08'
  | 'f' => some '\x0c'
  | 'n' => some '\n'
  | 'r' => some '\r'
  | 't' => some '\t'
  | _ => none

/-- The units of a text up to its closing quote, and what follows the quote. A unit is a code
point or, where it was written by its number, a unit of 16 bits. `read` holds the units read so
far, the last one first. -/
def scanText (read : List Nat) : List Char → Option (List Nat × List Char)
  | [] => none
  | '\x22' :: rest => some (read.reverse, rest)
  | '\\' :: 'u' :: a :: b :: c :: d :: rest =>
    match hexUnit? [a, b, c, d] with
    | some unit => scanText (unit :: read) rest
    | none => none
  | '\\' :: c :: rest =>
    match escaped? c with
    | some c => scanText (c.toNat :: read) rest
    | none => none
  | c :: rest => if c.toNat < 32 then none else scanText (c.toNat :: read) rest

theorem length_scanText {read : List Nat} {cs : List Char} {units : List Nat} {rest : List Char}
    (h : scanText read cs = some (units, rest)) : rest.length < cs.length := by
  fun_induction scanText read cs <;> simp_all <;> omega

/-- The symbols of a sequence of units: a pair of surrogates gives one character, and a surrogate
that is not part of a pair stays half of one. -/
def joinUnits : List Nat → List Symbol
  | [] => []
  | u :: v :: rest =>
    if 0xD800 ≤ u ∧ u < 0xDC00 ∧ 0xDC00 ≤ v ∧ v < 0xE000 then
      .ofCode (0x10000 + (u - 0xD800) * 0x400 + (v - 0xDC00)) :: joinUnits rest
    else .ofCode u :: joinUnits (v :: rest)
  | [u] => [.ofCode u]

/-! ## Numbers -/

/-- The number that decimal digits write. -/
def digitsValue (digits : List Char) : Nat :=
  digits.foldl (fun n c ↦ 10 * n + (c.toNat - '0'.toNat)) 0

/-- The leading digits, and what follows them. -/
def spanDigits (cs : List Char) : List Char × List Char :=
  (cs.takeWhile Char.isDigit, cs.dropWhile Char.isDigit)

/-- The integral digits of a number: a zero alone, or digits without a leading zero. -/
def spanIntegral : List Char → List Char × List Char
  | '0' :: rest => (['0'], rest)
  | cs => spanDigits cs

/-- The digits behind the point, where a point and a digit stand. -/
def spanFraction : List Char → Option (List Char × List Char)
  | '.' :: rest =>
    let (digits, rest') := spanDigits rest
    if digits.isEmpty then none else some (digits, rest')
  | _ => none

/-- The exponent, where one stands with at least one digit. -/
def spanExponent : List Char → Option (Int × List Char)
  | c :: rest =>
    if c = 'e' ∨ c = 'E' then
      let (negative, rest) := splitSign rest
      let (digits, rest') := spanDigits rest
      if digits.isEmpty then none
      else some (if negative then -(digitsValue digits : Int) else digitsValue digits, rest')
    else none
  | [] => none

/-- The number at the start of `cs`, which is negated if `negative` says so, and what follows. -/
def scanNumber (negative : Bool) (cs : List Char) : Option (Token × List Char) :=
  let (integral, rest) := spanIntegral cs
  if integral.isEmpty then none
  else
    let fraction := spanFraction rest
    let (fractional, rest) := fraction.getD ([], rest)
    let exponent := spanExponent rest
    let (power, rest) := exponent.getD (0, rest)
    -- Only a fraction or an exponent makes a double; all digits alone are an exact integer.
    if fraction.isNone && exponent.isNone then
      if integral.length > maxIntDigits then some (.longInteger, rest)
      else
        let n : Int := digitsValue integral
        some (.scalar (.int (if negative then -n else n)), rest)
    else
      let digits := digitsValue (integral ++ fractional)
      some (.scalar (.float (.ofDecimal negative digits (power - fractional.length))), rest)

/-! ## What is left gets shorter -/

theorem length_spanDigits (cs : List Char) : (spanDigits cs).2.length ≤ cs.length :=
  (List.dropWhile_suffix Char.isDigit).length_le

theorem length_spanDigits_lt {cs : List Char} (h : (spanDigits cs).1.isEmpty = false) :
    (spanDigits cs).2.length < cs.length := by
  have hlen := congrArg List.length (List.takeWhile_append_dropWhile (p := Char.isDigit) (l := cs))
  have hpos : 0 < (spanDigits cs).1.length := by
    cases hd : (spanDigits cs).1 with
    | nil => rw [hd] at h; cases h
    | cons c ds => simp
  simp only [spanDigits, List.length_append] at *
  omega

theorem length_spanIntegral_lt {cs : List Char} (h : (spanIntegral cs).1.isEmpty = false) :
    (spanIntegral cs).2.length < cs.length := by
  unfold spanIntegral at *
  split
  · simp
  · exact length_spanDigits_lt (by simpa using h)

theorem length_spanFraction (cs : List Char) :
    ((spanFraction cs).getD ([], cs)).2.length ≤ cs.length := by
  unfold spanFraction
  split
  · next rest =>
    have := length_spanDigits rest
    simp only
    split
    · simp
    · simp only [Option.getD_some, List.length_cons]; omega
  · simp

theorem length_splitSign (cs : List Char) : (splitSign cs).2.length ≤ cs.length := by
  unfold splitSign
  split <;> simp

theorem length_spanExponent (cs : List Char) :
    ((spanExponent cs).getD (0, cs)).2.length ≤ cs.length := by
  unfold spanExponent
  split
  · next c rest =>
    split
    · have h₁ := length_splitSign rest
      have h₂ := length_spanDigits (splitSign rest).2
      simp only
      split
      · simp
      · simp only [Option.getD_some, List.length_cons]; omega
    · simp
  · simp

theorem length_scanNumber {negative : Bool} {cs : List Char} {token : Token} {rest : List Char}
    (h : scanNumber negative cs = some (token, rest)) : rest.length < cs.length := by
  simp only [scanNumber] at h
  split at h
  · cases h
  · next hi =>
    have h₁ := length_spanIntegral_lt (Bool.eq_false_iff.2 hi)
    have h₂ := length_spanFraction (spanIntegral cs).2
    have h₃ := length_spanExponent
      ((spanFraction (spanIntegral cs).2).getD ([], (spanIntegral cs).2)).2
    split at h
    · split at h <;> (cases h; omega)
    · cases h; omega

/-! ## Tokens -/

/-- The words of a document and their values. -/
def words : List (List Char × Json) :=
  [("null".toList, .null), ("true".toList, .bool true), ("false".toList, .bool false),
    ("NaN".toList, .float .nan), ("Infinity".toList, .float (.infinite false)),
    ("-Infinity".toList, .float (.infinite true))]

/-- The word at the start of `cs`, and what follows it. -/
def scanWord (cs : List Char) : Option (Token × List Char) :=
  (words.find? fun w ↦ w.1 <+: cs).map fun w ↦ (.scalar w.2, cs.drop w.1.length)

/-- The token at the start of `cs`, whose first character is no white space, and what follows
it. -/
def scanToken : List Char → Option (Token × List Char)
  | [] => none
  | c :: rest =>
    if c ∈ ['[', ']', '\x7b', '\x7d', ',', ':'] then some (.sign c, rest)
    else if c = '\x22' then
      (scanText [] rest).map fun (units, rest) ↦ (.str ⟨joinUnits units⟩, rest)
    -- Words come before numbers, since minus infinity starts like a number.
    else match scanWord (c :: rest) with
      | some found => some found
      | none => if c = '-' then scanNumber true rest else scanNumber false (c :: rest)

theorem length_scanWord {cs : List Char} {token : Token} {rest : List Char}
    (h : scanWord cs = some (token, rest)) : rest.length < cs.length := by
  obtain ⟨w, hw, heq⟩ := Option.map_eq_some_iff.1 h
  cases heq
  have hmem := List.mem_of_find?_eq_some hw
  have hpre : w.1 <+: cs := by simpa using List.find?_some hw
  have hpos : 0 < w.1.length := by
    have : ∀ w ∈ words, 0 < w.1.length := by decide
    exact this w hmem
  have := hpre.length_le
  rw [List.length_drop]
  omega

theorem length_scanToken {cs : List Char} {token : Token} {rest : List Char}
    (h : scanToken cs = some (token, rest)) : rest.length < cs.length := by
  unfold scanToken at h
  split at h
  · cases h
  · next c cs =>
    split at h
    · cases h; simp
    · split at h
      · obtain ⟨⟨units, rest'⟩, hs, heq⟩ := Option.map_eq_some_iff.1 h
        cases heq
        have := length_scanText hs
        rw [List.length_cons]
        omega
      · split at h
        · next hw => cases h; exact length_scanWord hw
        · split at h
          · have := length_scanNumber h
            rw [List.length_cons]
            omega
          · exact length_scanNumber h

/-- The white space between tokens. -/
def isSpace (c : Char) : Bool := c = ' ' || c = '\t' || c = '\n' || c = '\r'

/-- The tokens of a text. `read` holds the tokens read so far, the last one first. -/
def tokensAfter (read : List Token) (cs : List Char) : List Token :=
  match cs with
  | [] => read.reverse
  | c :: rest =>
    if isSpace c then tokensAfter read rest
    else match _ : scanToken (c :: rest) with
      | none => (.junk :: read).reverse
      | some (token, rest') => tokensAfter (token :: read) rest'
termination_by cs.length
decreasing_by
  · simp
  · exact length_scanToken ‹_›

/-! ## Folding tokens -/

/-- A container, or a member of an object, that is not complete. Values and members stand with the
last one first. -/
inductive Frame where
  | array (items : List Json)
  | object (members : List (Text × Json))
  | member (key : Text)

/-- What has to come next. -/
inductive Mode where
  /-- A value; or, in a container without values, its end. -/
  | value (closable : Bool)
  /-- The key of a member; or, in an object without members, its end. -/
  | key (closable : Bool)
  /-- The colon behind a key. -/
  | colon
  /-- Whatever may follow the complete value. -/
  | complete (value : Json)

/-- The state of the fold: the open containers, the innermost one first. -/
structure State where
  /-- The open containers. -/
  frames : List Frame
  /-- What has to come next. -/
  mode : Mode

/-- The state after a token where a value has to come. -/
def stepValue (frames : List Frame) (closable : Bool) : Token → Option State
  | .scalar v => some ⟨frames, .complete v⟩
  | .str s => some ⟨frames, .complete (.str s)⟩
  | .sign '[' => some ⟨.array [] :: frames, .value true⟩
  | .sign '\x7b' => some ⟨.object [] :: frames, .key true⟩
  | .sign ']' =>
    match closable, frames with
    | true, .array _ :: frames => some ⟨frames, .complete (.arr [])⟩
    | _, _ => none
  | _ => none

/-- The state after a token where a key has to come. -/
def stepKey (frames : List Frame) (closable : Bool) : Token → Option State
  | .str s => some ⟨.member s :: frames, .colon⟩
  | .sign '\x7d' =>
    match closable, frames with
    | true, .object _ :: frames => some ⟨frames, .complete (.obj [])⟩
    | _, _ => none
  | _ => none

/-- The state after a sign behind a complete value. -/
def stepComplete (frames : List Frame) (v : Json) (c : Char) : Option State :=
  match c, frames with
  | ',', .array items :: frames => some ⟨.array (v :: items) :: frames, .value false⟩
  | ']', .array items :: frames => some ⟨frames, .complete (.arr (v :: items).reverse)⟩
  | ',', .member key :: .object members :: frames =>
    some ⟨.object ((key, v) :: members) :: frames, .key false⟩
  | '\x7d', .member key :: .object members :: frames =>
    some ⟨frames, .complete (.ofMembers ((key, v) :: members).reverse)⟩
  | _, _ => none

/-- The state after a token. -/
def step (s : State) (token : Token) : Except ReadError State :=
  match s.mode, token with
  -- The digits of an integer are counted only where a value may stand.
  | .value _, .longInteger => .error .longInteger
  | .value closable, token => (stepValue s.frames closable token).elim (.error .malformed) .ok
  | .key closable, token => (stepKey s.frames closable token).elim (.error .malformed) .ok
  | .colon, .sign ':' => .ok ⟨s.frames, .value false⟩
  | .complete v, .sign c => (stepComplete s.frames v c).elim (.error .malformed) .ok
  | _, _ => .error .malformed

/-- The value of a document. -/
def read (text : String) : Except ReadError Json := do
  let final ← (tokensAfter [] text.toList).foldlM step ⟨[], .value false⟩
  match final with
  | ⟨[], .complete v⟩ => .ok v
  | _ => .error .malformed

end LintMark.Json

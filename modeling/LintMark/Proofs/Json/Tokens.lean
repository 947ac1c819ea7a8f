import LintMark.Json.Reader

/-!
# Documents written token by token

A sequence of tokens is written as a document with a space behind each token (`document`). The
reader finds the same tokens in it, one after the other, so the value of the document is what the
fold makes of them (`read_document`).

Plain tokens are written as they are: signs, null and the truth values, natural numbers, and texts
that need no escape (`Token.IsPlain`). The space sees to it that no token runs into the next one,
which could only happen to a number.
-/

namespace LintMark.Json

/-! ## Writing -/

/-- The signs of a document. -/
def signs : List Char := ['[', ']', '\x7b', '\x7d', ',', ':']

/-- The characters that write a token. -/
def Token.written : Token → List Char
  | .sign c => [c]
  | .str t => '\x22' :: t.symbols.filterMap Symbol.char? ++ ['\x22']
  | .scalar .null => "null".toList
  | .scalar (.bool b) => if b then "true".toList else "false".toList
  | .scalar (.int i) => Nat.toDigits 10 i.toNat
  | _ => []

/-- The symbol stands for itself in a text. -/
def IsPlainSymbol : Symbol → Prop
  | .char c => 32 ≤ c.toNat ∧ c ≠ '\x22' ∧ c ≠ '\\'
  | .half _ => False

/-- The token is read from the characters that write it. -/
def Token.IsPlain : Token → Prop
  | .sign c => c ∈ signs
  | .str t => ∀ s ∈ t.symbols, IsPlainSymbol s
  | .scalar .null | .scalar (.bool _) => True
  | .scalar (.int i) => 0 ≤ i ∧ (Nat.toDigits 10 i.toNat).length ≤ maxIntDigits
  | _ => False

instance : DecidablePred IsPlainSymbol
  | .char _ => inferInstanceAs (Decidable (_ ∧ _ ∧ _))
  | .half _ => inferInstanceAs (Decidable False)

instance : DecidablePred Token.IsPlain
  | .sign _ => inferInstanceAs (Decidable (_ ∈ _))
  | .str t => inferInstanceAs (Decidable (∀ s ∈ t.symbols, _))
  | .scalar .null | .scalar (.bool _) => inferInstanceAs (Decidable True)
  | .scalar (.int _) => inferInstanceAs (Decidable (_ ∧ _))
  | .scalar (.float _) | .scalar (.str _) | .scalar (.arr _) | .scalar (.obj _) | .longInteger
  | .junk => inferInstanceAs (Decidable False)

/-- The document that is written with the tokens, and with a space behind each. -/
def document (tokens : List Token) : String :=
  String.ofList (tokens.flatMap fun token ↦ token.written ++ [' '])

/-! ## Texts -/

/-- A text of plain symbols is one of characters. -/
theorem exists_eq_map_char {symbols : List Symbol} (h : ∀ s ∈ symbols, IsPlainSymbol s) :
    ∃ cs : List Char, symbols = cs.map .char := by
  induction symbols with
  | nil => exact ⟨[], rfl⟩
  | cons s symbols ih =>
    obtain ⟨hs, hsymbols⟩ := List.forall_mem_cons.1 h
    obtain ⟨cs, rfl⟩ := ih hsymbols
    cases s with
    | char c => exact ⟨c :: cs, rfl⟩
    | half number => exact hs.elim

theorem scanText_append {cs : List Char} (hcs : ∀ c ∈ cs, IsPlainSymbol (.char c))
    (read : List Nat) (rest : List Char) :
    scanText read (cs ++ '\x22' :: rest) = some (read.reverse ++ cs.map Char.toNat, rest) := by
  induction cs generalizing read with
  | nil => simp [scanText]
  | cons c cs ih =>
    obtain ⟨⟨hc, hquote, hslash⟩, hcs⟩ := List.forall_mem_cons.1 hcs
    rw [List.cons_append, scanText, if_neg (by omega), ih hcs]
    · simp
    · exact hquote
    all_goals intros; simp_all

/-- No character is half of a surrogate pair. -/
theorem toNat_lt_or_le (c : Char) : c.toNat < 0xD800 ∨ 0xE000 ≤ c.toNat := by
  obtain h | ⟨h, -⟩ := c.valid
  · exact .inl h
  · exact .inr h

theorem ofCode_toNat (c : Char) : Symbol.ofCode c.toNat = .char c := by
  have hc := toNat_lt_or_le c
  rw [Symbol.ofCode, dif_neg (by omega), Char.ofNat_toNat]

theorem joinUnits_map_toNat (cs : List Char) :
    joinUnits (cs.map Char.toNat) = cs.map Symbol.char := by
  induction cs with
  | nil => rfl
  | cons c cs ih =>
    cases cs with
    | nil => exact congrArg ([·]) (ofCode_toNat c)
    | cons d cs =>
      have hc := toNat_lt_or_le c
      rw [List.map_cons, List.map_cons, joinUnits, if_neg (by omega), ofCode_toNat, ← List.map_cons,
        ih]
      rfl

/-! ## Numbers -/

theorem digitsValue_toDigits (n : Nat) : digitsValue (Nat.toDigits 10 n) = n :=
  Nat.ofDigitChars_ten_toDigits

theorem exists_toDigits_eq_cons (n : Nat) :
    ∃ d ds, Nat.toDigits 10 n = d :: ds ∧ d.isDigit = true := by
  obtain ⟨d, ds, hds⟩ := List.exists_cons_of_ne_nil (Nat.toDigits_ne_nil (b := 10) (n := n))
  exact ⟨d, ds, hds,
    Nat.isDigit_of_mem_toDigits (by decide) (by decide) (hds ▸ List.mem_cons_self)⟩

/-- Only the digits of zero start with a zero. -/
theorem eq_zero_of_head?_toDigits {n : Nat} (h : (Nat.toDigits 10 n).head? = some '0') :
    n = 0 := by
  induction n using Nat.strongRecOn with
  | ind n ih =>
    by_cases hn : n < 10
    · rw [Nat.toDigits_of_lt_base hn] at h
      have hdigit : ∀ d < 10, Nat.digitChar d = '0' → d = 0 := by decide
      exact hdigit n hn (Option.some.inj h)
    · obtain ⟨d, ds, hds, -⟩ := exists_toDigits_eq_cons (n / 10)
      rw [Nat.toDigits_of_base_le (by decide) (by omega), hds] at h
      have := ih (n / 10) (by omega) (by rw [hds]; exact h)
      omega

theorem spanDigits_append {digits : List Char} (h : ∀ c ∈ digits, c.isDigit = true)
    (rest : List Char) : spanDigits (digits ++ ' ' :: rest) = (digits, ' ' :: rest) := by
  rw [spanDigits, List.takeWhile_append_of_pos h, List.dropWhile_append_of_pos h]
  simp

theorem spanIntegral_append (n : Nat) (rest : List Char) :
    spanIntegral (Nat.toDigits 10 n ++ ' ' :: rest) = (Nat.toDigits 10 n, ' ' :: rest) := by
  have hdigits : ∀ c ∈ Nat.toDigits 10 n, c.isDigit = true :=
    fun c hc ↦ Nat.isDigit_of_mem_toDigits (by decide) (by decide) hc
  by_cases hn : n = 0
  · subst hn
    rfl
  · rw [spanIntegral]
    · exact spanDigits_append hdigits rest
    · intro rest' h
      obtain ⟨d, ds, hds, -⟩ := exists_toDigits_eq_cons n
      rw [hds] at h
      refine hn (eq_zero_of_head?_toDigits ?_)
      rw [hds, (List.cons.inj h).1]
      rfl

theorem scanNumber_append {n : Nat} (hn : (Nat.toDigits 10 n).length ≤ maxIntDigits)
    (rest : List Char) :
    scanNumber false (Nat.toDigits 10 n ++ ' ' :: rest) = some (.scalar (.int n), ' ' :: rest) := by
  have hne : (Nat.toDigits 10 n).isEmpty = false := by
    simp [Nat.toDigits_ne_nil]
  simp [scanNumber, spanIntegral_append, hne, spanFraction, spanExponent, hn, digitsValue_toDigits]

/-! ## Tokens -/

/-- A digit starts a number and nothing else. -/
theorem scanToken_of_isDigit {c : Char} (hc : c.isDigit = true) (cs : List Char) :
    scanToken (c :: cs) = scanNumber false (c :: cs) := by
  have hother : ∀ d : Char, d.isDigit = false → ¬ d = c := by
    rintro d hd rfl
    rw [hc] at hd
    cases hd
  have hsign : c ∉ ['[', ']', '\x7b', '\x7d', ',', ':'] := by
    have hsigns : ∀ d ∈ ['[', ']', '\x7b', '\x7d', ',', ':'], d.isDigit = false := by simp
    exact fun hmem ↦ hother c (hsigns c hmem) rfl
  have hword : scanWord (c :: cs) = none := by
    simp [scanWord, words, hother]
  rw [scanToken, if_neg hsign, if_neg (Ne.symm (hother '\x22' rfl)), hword]
  dsimp only
  rw [if_neg (Ne.symm (hother '-' rfl))]

/-- A plain token is read from what writes it, up to the space behind it. -/
theorem scanToken_append {token : Token} (h : token.IsPlain) (rest : List Char) :
    scanToken (token.written ++ ' ' :: rest) = some (token, ' ' :: rest) := by
  match token, h with
  | .sign c, hc => exact if_pos hc
  | .str ⟨symbols⟩, hs =>
    obtain ⟨cs, rfl⟩ := exists_eq_map_char hs
    have hchars : (cs.map Symbol.char).filterMap Symbol.char? = cs := by
      rw [List.filterMap_map]
      exact List.filterMap_some
    have hcs : ∀ c ∈ cs, IsPlainSymbol (.char c) := fun c hc ↦ hs _ (List.mem_map_of_mem hc)
    rw [Token.written, hchars, List.append_assoc, List.cons_append, List.singleton_append,
      scanToken, if_neg (by decide), if_pos rfl, scanText_append hcs, List.reverse_nil,
      List.nil_append, Option.map_some]
    dsimp only
    rw [joinUnits_map_toNat]
  | .scalar .null, _ => simp [scanToken, scanWord, words, Token.written]
  | .scalar (.bool b), _ => cases b <;> simp [scanToken, scanWord, words, Token.written]
  | .scalar (.int i), ⟨hi, hlength⟩ =>
    obtain ⟨n, rfl⟩ := Int.eq_ofNat_of_zero_le hi
    obtain ⟨d, ds, hds, hd⟩ := exists_toDigits_eq_cons n
    have hnumber := scanNumber_append hlength rest
    rw [Int.toNat_natCast, hds, List.cons_append, ← scanToken_of_isDigit hd] at hnumber
    rw [Token.written, Int.toNat_natCast, hds]
    exact hnumber

/-- No plain token is written with white space in front. -/
theorem isSpace_written {token : Token} (h : token.IsPlain) :
    ∃ c cs, token.written = c :: cs ∧ isSpace c = false := by
  match token, h with
  | .sign c, hc =>
    have hsigns : ∀ c ∈ signs, isSpace c = false := by simp [signs, isSpace]
    exact ⟨c, [], rfl, hsigns c hc⟩
  | .str _, _ => exact ⟨_, _, rfl, rfl⟩
  | .scalar .null, _ => exact ⟨'n', _, rfl, rfl⟩
  | .scalar (.bool true), _ => exact ⟨'t', _, rfl, rfl⟩
  | .scalar (.bool false), _ => exact ⟨'f', _, rfl, rfl⟩
  | .scalar (.int i), _ =>
    obtain ⟨d, ds, hds, hd⟩ := exists_toDigits_eq_cons i.toNat
    refine ⟨d, ds, hds, Bool.eq_false_iff.2 fun hspace ↦ ?_⟩
    simp only [isSpace, Bool.or_eq_true, decide_eq_true_eq] at hspace
    obtain ((rfl | rfl) | rfl) | rfl := hspace <;> cases hd

/-- **One token.** The reader takes a plain token and the space behind it. -/
theorem tokensAfter_append {token : Token} (h : token.IsPlain) (read : List Token)
    (rest : List Char) :
    tokensAfter read (token.written ++ ' ' :: rest) = tokensAfter (token :: read) rest := by
  have hscan := scanToken_append h rest
  obtain ⟨c, cs, hc, hspace⟩ := isSpace_written h
  rw [hc, List.cons_append] at hscan ⊢
  rw [tokensAfter, hspace, if_neg Bool.false_ne_true]
  split
  · next hnone =>
    rw [hscan] at hnone
    cases hnone
  · next token' rest' hsome =>
    rw [hscan] at hsome
    cases hsome
    rw [tokensAfter]
    exact if_pos rfl

/-- The reader finds the tokens of a document one after the other. -/
theorem tokensAfter_flatMap {tokens : List Token} (h : ∀ token ∈ tokens, token.IsPlain)
    (read : List Token) :
    tokensAfter read (tokens.flatMap fun token ↦ token.written ++ [' '])
      = read.reverse ++ tokens := by
  induction tokens generalizing read with
  | nil => rw [List.flatMap_nil, tokensAfter, List.append_nil]
  | cons token tokens ih =>
    obtain ⟨htoken, htokens⟩ := List.forall_mem_cons.1 h
    rw [List.flatMap_cons, List.append_assoc, List.singleton_append, tokensAfter_append htoken,
      ih htokens, List.reverse_cons, List.append_assoc, List.singleton_append]

/-- **Documents are read token by token.** What is read of a document is what the fold makes of the
tokens that it is written with. -/
theorem read_document {tokens : List Token} (h : ∀ token ∈ tokens, token.IsPlain) {value : Json}
    (hvalue : tokens.foldlM step ⟨[], .value false⟩ = .ok ⟨[], .complete value⟩) :
    read (document tokens) = .ok value := by
  rw [read, document, String.toList_ofList, tokensAfter_flatMap h, List.reverse_nil,
    List.nil_append, hvalue]
  rfl

end LintMark.Json

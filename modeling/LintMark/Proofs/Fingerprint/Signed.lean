import LintMark.Fingerprint.Code
import Mathlib.Data.Int.ModEq
import Mathlib.Data.List.DropRight
import Mathlib.Data.Nat.Digits.Lemmas

/-!
# Codes as signed numbers

The code of a text of hexadecimal digits is the number that the digits write, modulo `2 ^ 64` and
read as a signed number; every other text is refused (`ofHex_signed`).

The number is described apart from the reduction to a code: the value of a digit is its place among
the sixteen digits, and a text is a number in base sixteen with the lowest digit at its end. What is
left is arithmetic. The last sixteen digits write the remainder modulo `16 ^ 16`, zeros in front
change no number, and texts of sixteen digits, numbers below `2 ^ 64` and signed numbers of 64 bits
correspond to each other one to one.
-/

namespace LintMark.Code

/-! ## Digits -/

/-- The hexadecimal digits in lower case, in the order of their values. -/
def lowerDigits : List Char :=
  ['0', '1', '2', '3', '4', '5', '6', '7', '8', '9', 'a', 'b', 'c', 'd', 'e', 'f']

/-- The hexadecimal digits of either case. -/
def hexDigits : List Char := lowerDigits ++ ['A', 'B', 'C', 'D', 'E', 'F']

/-- The value of a digit of either case: its place among the digits in lower case. -/
def digitValue (c : Char) : Nat := lowerDigits.idxOf c.toLower

theorem toNat_lt_of_mem_hexDigits : ∀ c ∈ hexDigits, c.toNat < 128 := by
  simp [hexDigits, lowerDigits]

/-- What holds of the first 128 characters, and of all others, holds of every character. -/
theorem forall_of_small {P : Char → Prop} (hsmall : ∀ n < 128, P (Char.ofNat n))
    (hlarge : ∀ c : Char, 128 ≤ c.toNat → P c) (c : Char) : P c := by
  by_cases hc : c.toNat < 128
  · have h := hsmall c.toNat hc
    rwa [Char.ofNat_toNat] at h
  · exact hlarge c (Nat.not_lt.1 hc)

theorem digit?_eq (c : Char) :
    digit? c = if c ∈ hexDigits then some (digitValue c) else none := by
  revert c
  refine forall_of_small (by decide +kernel) fun c hc ↦ ?_
  have hle : ∀ d : Char, d.toNat < 128 → ¬ c ≤ d := by
    intro d hd hcd
    have h : c.toNat ≤ d.toNat := hcd
    omega
  rw [if_neg fun h ↦ absurd (toNat_lt_of_mem_hexDigits c h) (Nat.not_lt.2 hc), digit?,
    if_neg fun h ↦ hle '9' (by decide) h.2, if_neg fun h ↦ hle 'f' (by decide) h.2,
    if_neg fun h ↦ hle 'F' (by decide) h.2]

theorem mem_hexDigits_iff (c : Char) : c ∈ hexDigits ↔ c.toLower ∈ lowerDigits := by
  revert c
  refine forall_of_small (by decide +kernel) fun c hc ↦ ?_
  have hlower : c.toLower = c := by
    have h : ¬ (c.val ≥ 'A'.val ∧ c.val ≤ 'Z'.val) := by
      rintro ⟨-, hle⟩
      have h : c.toNat ≤ 'Z'.toNat := hle
      exact absurd (h.trans (by decide)) (Nat.not_le.2 hc)
    exact dif_neg h
  have hmem : c ∉ hexDigits := fun h ↦ absurd (toNat_lt_of_mem_hexDigits c h) (Nat.not_lt.2 hc)
  rw [hlower]
  exact iff_of_false hmem fun h ↦ hmem (List.mem_append_left _ h)

theorem digitValue_lt {c : Char} (h : c ∈ hexDigits) : digitValue c < 16 :=
  List.idxOf_lt_length_of_mem ((mem_hexDigits_iff c).1 h)

/-! ## Numbers -/

/-- The text is a sequence of hexadecimal digits. -/
def IsHex (text : String) : Prop := text ≠ "" ∧ ∀ c ∈ text.toList, c ∈ hexDigits

/-- The values of the digits of a text, the lowest digit first. -/
def lowestFirst (text : String) : List Nat := (text.toList.map digitValue).reverse

/-- The number that a text writes in base sixteen. -/
def value (text : String) : Nat := Nat.ofDigits 16 (lowestFirst text)

variable {text : String}

theorem not_isHex_iff : ¬ IsHex text ↔ text = "" ∨ ∃ c ∈ text.toList, c ∉ hexDigits := by
  simp only [IsHex, not_and_or, not_not, not_forall, exists_prop]

theorem lt_of_mem_lowestFirst (h : IsHex text) : ∀ n ∈ lowestFirst text, n < 16 := by
  intro n hn
  obtain ⟨c, hc, rfl⟩ := List.mem_map.1 (List.mem_reverse.1 hn)
  exact digitValue_lt (h.2 c hc)

theorem hexValue_eq (digits : List Nat) : hexValue digits = Nat.ofDigits 16 digits.reverse := by
  rw [Nat.ofDigits_eq_foldr, List.foldr_reverse, hexValue]
  congr 1
  funext n d
  exact Nat.add_comm _ _

theorem mapM_digit?_of_forall {cs : List Char} (h : ∀ c ∈ cs, c ∈ hexDigits) :
    cs.mapM digit? = some (cs.map digitValue) := by
  induction cs with
  | nil => rfl
  | cons c cs ih =>
    rw [List.mapM_cons, ih fun d hd ↦ h d (List.mem_cons_of_mem c hd), digit?_eq,
      if_pos (h c List.mem_cons_self)]
    rfl

theorem mapM_digit?_of_not_forall {cs : List Char} (h : ¬ ∀ c ∈ cs, c ∈ hexDigits) :
    cs.mapM digit? = none := by
  induction cs with
  | nil => exact absurd (fun c hc ↦ nomatch hc) h
  | cons c cs ih =>
    rw [List.mapM_cons, digit?_eq]
    by_cases hc : c ∈ hexDigits
    · rw [if_pos hc, ih fun hcs ↦ h fun d hd ↦ (List.mem_cons.1 hd).elim (· ▸ hc) (hcs d)]
      rfl
    · rw [if_neg hc]
      rfl

/-- The code of a text of digits is that of the number that it writes. -/
theorem ofHex_of_isHex (h : IsHex text) : ofHex text = .ok (signed (value text)) := by
  rw [ofHex, mapM_digit?_of_forall h.2]
  obtain ⟨c, cs, hcs⟩ := List.exists_cons_of_ne_nil fun hnil ↦ h.1 (String.toList_eq_nil_iff.1 hnil)
  rw [value, lowestFirst, ← hexValue_eq, hcs]
  rfl

theorem ofHex_of_not_isHex (h : ¬ IsHex text) : ofHex text = .error ⟨text⟩ := by
  rw [ofHex]
  by_cases hall : ∀ c ∈ text.toList, c ∈ hexDigits
  · have hempty : text = "" := by
      by_contra hne
      exact h ⟨hne, hall⟩
    rw [hempty]
    rfl
  · rw [mapM_digit?_of_not_forall hall]

/-! ## The last sixteen digits -/

/-- The last sixteen digits of a text, or the text with zeros in front if it has fewer. -/
def lastSixteen (text : String) : String :=
  String.ofList ((text.toList.leftpad 16 '0').rtake 16)

theorem lowestFirst_lastSixteen (text : String) : lowestFirst (lastSixteen text)
    = (lowestFirst text ++ List.replicate (16 - text.toList.length) 0).take 16 := by
  rw [lowestFirst, lastSixteen, String.toList_ofList, List.rtake_eq_reverse_take_reverse,
    List.map_reverse, List.reverse_reverse, List.map_take, List.leftpad, List.reverse_append,
    List.map_append, List.reverse_replicate, List.map_replicate, List.map_reverse, lowestFirst]
  rfl

theorem value_lastSixteen (h : IsHex text) : value (lastSixteen text) = value text % 16 ^ 16 := by
  have hall : ∀ n ∈ lowestFirst text ++ List.replicate (16 - text.toList.length) 0, n < 16 := by
    intro n hn
    obtain hn | hn := List.mem_append.1 hn
    · exact lt_of_mem_lowestFirst h n hn
    · rw [List.eq_of_mem_replicate hn]
      decide
  rw [value, lowestFirst_lastSixteen, ← Nat.ofDigits_mod_pow_eq_ofDigits_take 16 (by decide) _ hall,
    Nat.ofDigits_append_replicate_zero, value]

theorem isHex_lastSixteen (h : IsHex text) : IsHex (lastSixteen text) := by
  have hlength : (lastSixteen text).toList.length = 16 := by
    rw [lastSixteen, String.toList_ofList, List.rtake, List.length_drop, List.leftpad,
      List.length_append, List.length_replicate]
    omega
  refine ⟨fun hempty ↦ ?_, fun c hc ↦ ?_⟩
  · rw [hempty] at hlength
    cases hlength
  · rw [lastSixteen, String.toList_ofList] at hc
    obtain hc | hc := List.mem_append.1 (List.mem_of_mem_drop hc)
    · rw [List.eq_of_mem_replicate hc]
      decide
    · exact h.2 c hc

/-! ## Letter case -/

/-- The texts differ in letter case at most. -/
def SameLetters (text other : String) : Prop :=
  other.toList.map Char.toLower = text.toList.map Char.toLower

theorem SameLetters.lowestFirst_eq {other : String} (h : SameLetters text other) :
    lowestFirst other = lowestFirst text := by
  have hvalue : digitValue = lowerDigits.idxOf ∘ Char.toLower := rfl
  rw [lowestFirst, lowestFirst, hvalue, ← List.map_map, h, List.map_map]

theorem SameLetters.isHex {other : String} (h : SameLetters text other) (hhex : IsHex text) :
    IsHex other := by
  refine ⟨?_, fun c hc ↦ ?_⟩
  · rintro rfl
    exact hhex.1 (String.toList_eq_nil_iff.1 (List.map_eq_nil_iff.1 h.symm))
  · have hlower : c.toLower ∈ text.toList.map Char.toLower := h ▸ List.mem_map_of_mem hc
    obtain ⟨d, hd, heq⟩ := List.mem_map.1 hlower
    rw [mem_hexDigits_iff, ← heq, ← mem_hexDigits_iff]
    exact hhex.2 d hd

/-! ## Signed numbers -/

/-- The signed numbers of 64 bits. -/
def signedRange : Set Int := {r | -2 ^ 63 ≤ r ∧ r < 2 ^ 63}

theorem signed_mem (n : Nat) : signed n ∈ signedRange := by
  have hlow := Int.le_bmod (x := n) (m := 0x10000000000000000) (by decide)
  have hhigh := Int.bmod_lt (x := n) (m := 0x10000000000000000) (by decide)
  exact ⟨hlow, hhigh⟩

theorem signed_modEq (n : Nat) : signed n ≡ n [ZMOD 2 ^ 64] := by
  have hpow : (2 : Int) ^ 64 = (0x10000000000000000 : Nat) := by norm_num
  rw [Int.ModEq, hpow]
  exact Int.bmod_emod

theorem bmod_mod (n m : Nat) : Int.bmod (n % m : Nat) m = Int.bmod n m := by
  rw [Int.natCast_emod, Int.emod_bmod]

theorem signed_mod (n : Nat) : signed (n % 16 ^ 16) = signed n := by
  have hpow : 16 ^ 16 = 0x10000000000000000 := by norm_num
  rw [hpow]
  exact bmod_mod n 0x10000000000000000

/-- The number below `2 ^ 64` with the same bits as a signed number. -/
def unsigned (r : Int) : Nat := (r % 2 ^ 64).toNat

theorem unsigned_lt (r : Int) : unsigned r < 16 ^ 16 := by
  rw [unsigned]
  omega

theorem unsigned_signed {n : Nat} (h : n < 16 ^ 16) : unsigned (signed n) = n := by
  have hmod : signed n % 2 ^ 64 = n % 2 ^ 64 := signed_modEq n
  rw [unsigned]
  omega

theorem signed_unsigned {r : Int} (h : r ∈ signedRange) : signed (unsigned r) = r :=
  calc signed (unsigned r) = Int.bmod (unsigned r) 0x10000000000000000 := rfl
    _ = Int.bmod (r % 2 ^ 64) 0x10000000000000000 :=
      congrArg (Int.bmod · 0x10000000000000000) (Int.toNat_of_nonneg (Int.emod_nonneg r (by decide)))
    _ = Int.bmod r 0x10000000000000000 := Int.emod_bmod r 0x10000000000000000
    _ = r := Int.bmod_eq_of_le h.1 h.2

/-- Numbers below `2 ^ 64` and signed numbers of 64 bits correspond to each other. -/
theorem bijOn_signed : Set.BijOn signed {n | n < 16 ^ 16} signedRange :=
  Set.InvOn.bijOn ⟨fun _ ↦ unsigned_signed, fun _ ↦ signed_unsigned⟩ (fun n _ ↦ signed_mem n)
    fun r _ ↦ unsigned_lt r

/-! ## Texts of sixteen digits -/

/-- The text consists of sixteen digits in lower case. -/
def IsWord (text : String) : Prop := text.length = 16 ∧ ∀ c ∈ text.toList, c ∈ lowerDigits

theorem IsWord.isHex (h : IsWord text) : IsHex text := by
  refine ⟨?_, fun c hc ↦ List.mem_append_left _ (h.2 c hc)⟩
  rintro rfl
  exact absurd h.1 (by decide)

/-- Texts of sixteen digits and lists of sixteen values correspond to each other. -/
theorem bijOn_lowestFirst : Set.BijOn lowestFirst {text | IsWord text}
    {digits | digits.length = 16 ∧ ∀ n ∈ digits, n < 16} := by
  have hall : lowerDigits.all (fun c ↦ Nat.digitChar (digitValue c) = c) = true := by decide
  have hdigit : ∀ c ∈ lowerDigits, Nat.digitChar (digitValue c) = c := fun c hc ↦
    of_decide_eq_true (List.all_eq_true.1 hall c hc)
  have hvalue : ∀ n < 16, digitValue (Nat.digitChar n) = n ∧ Nat.digitChar n ∈ lowerDigits := by
    decide
  have hinv : Set.InvOn (fun digits ↦ String.ofList (digits.reverse.map Nat.digitChar)) lowestFirst
      {text | IsWord text} {digits | digits.length = 16 ∧ ∀ n ∈ digits, n < 16} := by
    constructor
    · rintro text ⟨-, hdigits⟩
      have hmap : text.toList.map (Nat.digitChar ∘ digitValue) = text.toList := by
        conv_rhs => rw [← List.map_id text.toList]
        exact List.map_congr_left fun c hc ↦ hdigit c (hdigits c hc)
      show String.ofList ((lowestFirst text).reverse.map Nat.digitChar) = text
      rw [lowestFirst, List.reverse_reverse, List.map_map, hmap, String.ofList_toList]
    · rintro digits ⟨-, hlt⟩
      have hmap : digits.map (digitValue ∘ Nat.digitChar) = digits := by
        conv_rhs => rw [← List.map_id digits]
        exact List.map_congr_left fun n hn ↦ (hvalue n (hlt n hn)).1
      show lowestFirst (String.ofList (digits.reverse.map Nat.digitChar)) = digits
      rw [lowestFirst, String.toList_ofList, List.map_map, List.map_reverse, List.reverse_reverse,
        hmap]
  refine hinv.bijOn ?_ ?_
  · intro text h
    refine ⟨?_, lt_of_mem_lowestFirst h.isHex⟩
    rw [lowestFirst, List.length_reverse, List.length_map, String.length_toList, h.1]
  · rintro digits ⟨hlength, hlt⟩
    refine ⟨?_, fun c hc ↦ ?_⟩
    · rw [String.length_ofList, List.length_map, List.length_reverse, hlength]
    · rw [String.toList_ofList] at hc
      obtain ⟨n, hn, rfl⟩ := List.mem_map.1 hc
      exact (hvalue n (hlt n (List.mem_reverse.1 hn))).2

/-- Texts of sixteen digits and signed numbers of 64 bits correspond to each other. -/
theorem bijOn_ofHex : Set.BijOn ofHex {text | IsWord text} (Except.ok '' signedRange) := by
  have hvalue : Set.BijOn value {text | IsWord text} {n | n < 16 ^ 16} :=
    (Nat.bijOn_ofDigits (by decide) 16).comp bijOn_lowestFirst
  have hsigned : Set.BijOn (signed ∘ value) {text | IsWord text} signedRange :=
    bijOn_signed.comp hvalue
  have hok : Set.InjOn (Except.ok : Int → Except HexError Int) signedRange :=
    fun r _ s _ h ↦ Except.ok.inj h
  refine (hok.bijOn_image.comp hsigned).congr fun text h ↦ ?_
  rw [ofHex_of_isHex h.isHex, Function.comp_apply, Function.comp_apply]

/-! ## Main result -/

/-- **Codes are signed numbers of 64 bits.** Only a text of hexadecimal digits has a code. It is a
signed number of 64 bits, congruent modulo `2 ^ 64` to the number that the digits write, and it is
told by the last sixteen digits alone, in letters of either case. Every signed number of 64 bits is
the code of exactly one text of sixteen digits in lower case. -/
theorem ofHex_signed :
    (∀ text, ofHex text = .error ⟨text⟩ ↔ text = "" ∨ ∃ c ∈ text.toList, c ∉ hexDigits) ∧
    (∀ text, IsHex text → ∃ r ∈ signedRange, ofHex text = .ok r ∧ r ≡ value text [ZMOD 2 ^ 64] ∧
      ofHex (lastSixteen text) = .ok r ∧
      ∀ other, SameLetters text other → ofHex other = .ok r) ∧
    Set.BijOn ofHex {text | IsWord text} (Except.ok '' signedRange) := by
  refine ⟨fun text ↦ ?_, fun text h ↦ ?_, bijOn_ofHex⟩
  · rw [← not_isHex_iff]
    refine ⟨fun herror h ↦ ?_, ofHex_of_not_isHex⟩
    rw [ofHex_of_isHex h] at herror
    cases herror
  · refine ⟨_, signed_mem _, ofHex_of_isHex h, signed_modEq _, ?_, fun other hother ↦ ?_⟩
    · rw [ofHex_of_isHex (isHex_lastSixteen h), value_lastSixteen h, signed_mod]
    · rw [ofHex_of_isHex (hother.isHex h), value, hother.lowestFirst_eq, ← value]

/-- Seventeen digits with a last digit that is even, and the last sixteen of them in lower case, have
the code `-2`. -/
theorem ofHex_seventeenDigits :
    IsHex "1FFFFFFFFFFFFFFFE" ∧ ofHex "1FFFFFFFFFFFFFFFE" = .ok (-2) ∧
      SameLetters "FFFFFFFFFFFFFFFE" "fffffffffffffffe" ∧
      ofHex "fffffffffffffffe" = .ok (-2) := by
  have hhex : ∀ text : String, text ≠ "" → text.toList.all (· ∈ hexDigits) = true → IsHex text :=
    fun text hne hall ↦ ⟨hne, fun c hc ↦ of_decide_eq_true (List.all_eq_true.1 hall c hc)⟩
  have hlong : IsHex "1FFFFFFFFFFFFFFFE" := hhex _ (by decide) (by decide +kernel)
  have hupper : IsHex "FFFFFFFFFFFFFFFE" := hhex _ (by decide) (by decide +kernel)
  have hsame : SameLetters "FFFFFFFFFFFFFFFE" "fffffffffffffffe" := by
    rw [SameLetters]
    decide +kernel
  have hcode : ofHex "1FFFFFFFFFFFFFFFE" = .ok (-2) := by decide +kernel
  have hcut : lastSixteen "1FFFFFFFFFFFFFFFE" = "FFFFFFFFFFFFFFFE" := by decide +kernel
  -- From the long text to its end, and from there to lower case.
  obtain ⟨r, -, hr, -, hlast, -⟩ := ofHex_signed.2.1 _ hlong
  obtain ⟨s, -, hs, -, -, hother⟩ := ofHex_signed.2.1 _ hupper
  rw [hcut, hs] at hlast
  rw [hcode] at hr
  refine ⟨hlong, hcode, hsame, ?_⟩
  rw [hother _ hsame, hlast, hr]

end LintMark.Code

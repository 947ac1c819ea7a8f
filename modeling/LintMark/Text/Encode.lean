import LintMark.Text.Quoted

/-!
# Encoding texts

A text is encoded as UTF-8 when all of its symbols are characters. Halves of surrogate pairs have no
UTF-8, and of several such places the first one is named.
-/

namespace LintMark

/-- Halves of surrogate pairs in a text that is to be encoded. -/
structure EncodeError where
  /-- The first of the halves, by its number among all halves. -/
  first : Fin 0x800
  /-- The number of symbols in front of it. -/
  position : Nat
  /-- The number of halves in a row. -/
  length : Nat
deriving DecidableEq, Repr

/-- The wording of the error. -/
def EncodeError.message (e : EncodeError) : String :=
  let place :=
    if e.length = 1 then
      "character '\\u" ++ String.ofList (Text.hexDigits 4 (Symbol.half e.first).code)
        ++ "' in position " ++ toString e.position
    else
      "characters in position " ++ toString e.position ++ "-"
        ++ toString (e.position + e.length - 1)
  "'utf-8' codec can't encode " ++ place ++ ": surrogates not allowed"

namespace Symbol

/-- Whether the symbol is half of a pair. -/
def isHalf : Symbol → Bool
  | char _ => false
  | half _ => true

/-- The character of a symbol that is one. -/
def char? : Symbol → Option Char
  | char c => some c
  | half _ => none

end Symbol

namespace Text

/-- The first halves among symbols that stand behind `position` others. Halves that `spared` holds
of are passed over. -/
def halvesFrom? (spared : Fin 0x800 → Bool) (position : Nat) : List Symbol → Option EncodeError
  | [] => none
  | .char _ :: rest => halvesFrom? spared (position + 1) rest
  | .half number :: rest =>
    if spared number then halvesFrom? spared (position + 1) rest
    else some ⟨number, position, (rest.takeWhile Symbol.isHalf).length + 1⟩

/-- The characters of a text without halves. -/
def encode (t : Text) : Except EncodeError String :=
  match halvesFrom? (fun _ ↦ false) 0 t.symbols with
  | some e => .error e
  | none => .ok (String.ofList (t.symbols.filterMap Symbol.char?))

/-- Whether UTF-8 can write the text. -/
def IsEncodable (t : Text) : Prop := ∃ s : String, t = s

variable {s : String} {t : Text}

theorem halvesFrom?_eq_none_iff {position : Nat} {symbols : List Symbol} :
    halvesFrom? (fun _ ↦ false) position symbols = none ↔
      ∃ cs : List Char, symbols = cs.map .char := by
  induction symbols generalizing position with
  | nil => exact iff_of_true rfl ⟨[], rfl⟩
  | cons symbol rest ih =>
    cases symbol with
    | char c =>
      rw [halvesFrom?, ih]
      constructor
      · rintro ⟨cs, rfl⟩
        exact ⟨c :: cs, rfl⟩
      · rintro ⟨_ | ⟨d, cs⟩, h⟩
        · cases h
        · exact ⟨cs, (List.cons.inj h).2⟩
    | half number =>
      refine iff_of_false (fun h ↦ nomatch h) ?_
      rintro ⟨_ | ⟨d, cs⟩, h⟩
      · cases h
      · cases h

theorem encode_ofString (s : String) : encode s = .ok s := by
  have hnone : halvesFrom? (fun _ ↦ false) 0 (ofString s).symbols = none :=
    halvesFrom?_eq_none_iff.2 ⟨s.toList, rfl⟩
  have hchars : (ofString s).symbols.filterMap Symbol.char? = s.toList := by
    rw [symbols_ofString, List.filterMap_map]
    exact List.filterMap_some
  rw [encode, hnone]
  dsimp only
  rw [hchars, String.ofList_toList]

theorem encode_eq_ok_iff : t.encode = .ok s ↔ t = s := by
  constructor
  · intro h
    rw [encode] at h
    split at h
    · cases h
    · next hnone =>
      obtain ⟨cs, hcs⟩ := halvesFrom?_eq_none_iff.1 hnone
      have ht : t = String.ofList cs :=
        Text.ext (by rw [hcs, symbols_ofString, String.toList_ofList])
      have hs := encode_ofString (String.ofList cs)
      rw [← ht, encode, hnone] at hs
      rw [ht, ← Except.ok.inj hs, ← Except.ok.inj h]
  · rintro rfl
    exact encode_ofString s

/-- A text is encoded unless it is none that UTF-8 can write. -/
theorem exists_encode_eq_error_iff : (∃ e, t.encode = .error e) ↔ ¬ t.IsEncodable := by
  constructor
  · rintro ⟨e, he⟩ ⟨s, hs⟩
    rw [encode_eq_ok_iff.2 hs] at he
    cases he
  · intro h
    cases ht : t.encode with
    | error e => exact ⟨e, rfl⟩
    | ok s => exact absurd ⟨s, encode_eq_ok_iff.1 ht⟩ h

theorem isEncodable_ofString_append : (ofString s ++ t).IsEncodable ↔ t.IsEncodable := by
  constructor
  · rintro ⟨s', hs'⟩
    have hsymbols := congrArg symbols hs'
    rw [symbols_append, symbols_ofString, symbols_ofString] at hsymbols
    obtain ⟨cs, ds, -, -, hds⟩ := List.append_eq_map_iff.1 hsymbols
    exact ⟨String.ofList ds, Text.ext (by rw [symbols_ofString, String.toList_ofList, hds])⟩
  · rintro ⟨s', rfl⟩
    exact ⟨s ++ s', (ofString_append s s').symm⟩

end Text

end LintMark

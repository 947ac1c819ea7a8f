/-!
# Texts

A text is a sequence of symbols. A symbol is a character, or half of a surrogate pair that stands
on its own: documents write such halves by number, and in the path of a file whose name is not
UTF-8 a half stands for each odd byte. A text with halves is compared, cut and joined like any
other; only an encoding is what it lacks.
-/

namespace LintMark

/-- A symbol of a text. -/
inductive Symbol where
  /-- A character. -/
  | char (c : Char)
  /-- Half of a surrogate pair, by its number among all halves. -/
  | half (number : Fin 0x800)
deriving DecidableEq, Repr

namespace Symbol

instance : Coe Char Symbol := ⟨char⟩

/-- The code point of a symbol. -/
def code : Symbol → Nat
  | char c => c.toNat
  | half number => 0xD800 + number

/-- The symbol with the given code point. -/
def ofCode (code : Nat) : Symbol :=
  if h : 0xD800 ≤ code ∧ code < 0xE000 then half ⟨code - 0xD800, by omega⟩
  else char (Char.ofNat code)

end Symbol

/-- A sequence of symbols. -/
@[ext]
structure Text where
  /-- The symbols. -/
  symbols : List Symbol
deriving DecidableEq, Repr

namespace Text

/-- The text of characters. -/
def ofString (s : String) : Text := ⟨s.toList.map .char⟩

instance : Coe String Text := ⟨ofString⟩

instance : Append Text := ⟨fun t u ↦ ⟨t.symbols ++ u.symbols⟩⟩

/-- Whether the text has no symbols. -/
def isEmpty (t : Text) : Bool := t.symbols.isEmpty

/-- Whether the text starts with another one. -/
def startsWith (t front : Text) : Bool := front.symbols.isPrefixOf t.symbols

/-- Whether the text ends with another one. -/
def endsWith (t back : Text) : Bool := back.symbols.isSuffixOf t.symbols

/-- Texts one behind the other. -/
def join (texts : List Text) : Text := ⟨texts.flatMap symbols⟩

/-- Texts one behind the other, with a separator between them. -/
def intercalate (separator : Text) (texts : List Text) : Text :=
  ⟨separator.symbols.intercalate (texts.map symbols)⟩

variable {s s' : String} {t u v : Text}

@[simp]
theorem symbols_ofString (s : String) : (ofString s).symbols = s.toList.map .char := rfl

@[simp]
theorem symbols_append (t u : Text) : (t ++ u).symbols = t.symbols ++ u.symbols := rfl

theorem append_assoc (t u v : Text) : t ++ u ++ v = t ++ (u ++ v) :=
  Text.ext (List.append_assoc _ _ _)

theorem ofString_append (s s' : String) : ofString (s ++ s') = ofString s ++ ofString s' := by
  refine Text.ext ?_
  rw [symbols_append, symbols_ofString, String.toList_append, List.map_append]
  rfl

theorem ofString_inj : ofString s = ofString s' ↔ s = s' := by
  rw [Text.ext_iff, symbols_ofString, symbols_ofString,
    List.map_inj_right fun _ _ ↦ Symbol.char.inj, String.toList_inj]

@[simp]
theorem ofString_beq (s s' : String) : (ofString s == ofString s') = (s == s') := by
  rw [Bool.eq_iff_iff, beq_iff_eq, beq_iff_eq, ofString_inj]

theorem append_right_inj : t ++ u = t ++ v ↔ u = v := by
  rw [Text.ext_iff, symbols_append, symbols_append, List.append_right_inj, Text.ext_iff]

theorem isEmpty_iff : t.isEmpty ↔ t = ofString "" := by
  rw [isEmpty, List.isEmpty_iff, Text.ext_iff]
  rfl

end Text

end LintMark

import LintMark.Text.Classes

/-!
# Quoted texts

A text in quotes, such that every symbol has a picture. The quote is the single one unless the
text has a single quote and no double quote. A backslash and the chosen quote are escaped by a
backslash, the common controls have letters, and everything else without a picture is written by
its code point in two, four or eight hexadecimal digits. So a quoted text has characters alone.
-/

namespace LintMark.Text

/-- The lower-case hexadecimal digits of `n`, `width` of them. -/
def hexDigits (width n : Nat) : List Char :=
  (List.range width).map fun k ↦ Nat.digitChar ((n >>> (4 * (width - 1 - k))) % 16)

/-- The quote for a text: the single one unless only the double one is free. -/
def quoteFor (t : Text) : Char :=
  if .char '\x27' ∈ t.symbols ∧ .char '\x22' ∉ t.symbols then '\x22' else '\x27'

/-- The form of one character between quotes of the kind `quote`. -/
def quotedChar (quote c : Char) : List Char :=
  if c = quote ∨ c = '\\' then ['\\', c]
  else if c = '\n' then ['\\', 'n']
  else if c = '\r' then ['\\', 'r']
  else if c = '\t' then ['\\', 't']
  else if isPrintable c then [c]
  else if c.toNat < 0x100 then '\\' :: 'x' :: hexDigits 2 c.toNat
  else if c.toNat < 0x10000 then '\\' :: 'u' :: hexDigits 4 c.toNat
  else '\\' :: 'U' :: hexDigits 8 c.toNat

/-- The form of one symbol between quotes of the kind `quote`. -/
def quotedSymbol (quote : Char) : Symbol → List Char
  | .char c => quotedChar quote c
  | .half number => '\\' :: 'u' :: hexDigits 4 (Symbol.half number).code

/-- The text in quotes. -/
def quoted (t : Text) : String :=
  String.ofList (t.quoteFor :: t.symbols.flatMap (quotedSymbol t.quoteFor) ++ [t.quoteFor])

end LintMark.Text

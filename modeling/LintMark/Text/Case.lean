import LintMark.Text.CaseTables
import LintMark.Text.Classes

/-!
# Letter case

Case conversion of whole texts with the full mappings: a character may become several, and the
lower-case form of a capital sigma depends on whether the sigma ends a word.
-/

namespace LintMark.Text

/-- The character that `runs` map `c` to, which is `c` itself where no run holds it. -/
def shiftByRuns (runs : List (Nat × Nat × Nat × Int)) (c : Char) : Char :=
  match runs.find? fun (lo, hi, step, _) ↦
      lo ≤ c.toNat && c.toNat ≤ hi && (c.toNat - lo) % step = 0 with
  | some (_, _, _, shift) => Char.ofNat (Int.toNat (c.toNat + shift))
  | none => c

/-- The upper-case form of one character. -/
def upperOf (c : Char) : List Char :=
  if c.toNat < 128 then [c.toUpper]
  else match upperExpansions.lookup c.toNat with
    | some form => form.map Char.ofNat
    | none => [shiftByRuns upperRuns c]

/-- The upper-case form of a text. -/
def toUpper (s : String) : String := String.ofList (s.toList.flatMap upperOf)

/-- Whether the first symbol that counts is a letter with case. -/
def startsCased (symbols : List Symbol) : Bool :=
  match symbols.dropWhile (inRanges caseIgnorableRanges) with
  | s :: _ => inRanges casedRanges s
  | [] => false

/-- The lower-case form of a symbol that stands after `before`, read backwards, and in front of
`after`. A capital sigma at the end of a word has a form of its own. -/
def lowerOf (before : List Symbol) (s : Symbol) (after : List Symbol) : List Symbol :=
  match s with
  | .half _ => [s]
  | .char c =>
    if c.toNat < 128 then [.char c.toLower]
    else if c = 'Σ' then if startsCased before && !startsCased after then ['ς'] else ['σ']
    else if c = 'İ' then ['i', '\u0307']
    else [.char (shiftByRuns lowerRuns c)]

/-- The lower-case form of the symbols that come after `before`, which is read backwards. -/
def lowerAfter (before : List Symbol) : List Symbol → List Symbol
  | [] => []
  | s :: after => lowerOf before s after ++ lowerAfter (s :: before) after

/-- The lower-case form of a text. -/
def toLower (t : Text) : Text := ⟨lowerAfter [] t.symbols⟩

end LintMark.Text

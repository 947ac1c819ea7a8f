import LintMark.Number.Shortest
import LintMark.Text.Encode

/-!
# Values of a document

The values that a report document is made of. Integers are exact; every other number is a
double. The members of an object stand in the order of their first mention.

A field of a report may hold a value of any type, so three readings are total on values: whether
the value counts as present (`isTruthy`), its text (`text`), and the integer that it stands for
(`toInt`).
-/

namespace LintMark

/-- A value of a document. -/
inductive Json where
  | null
  | bool (b : Bool)
  | int (i : Int)
  | float (d : Double)
  | str (t : Text)
  | arr (items : List Json)
  | obj (members : List (Text × Json))
deriving Inhabited

namespace Json

/-- Adds a member to an object. A member of the same key keeps its place and loses its value. -/
def setMember (key : Text) (value : Json) : List (Text × Json) → List (Text × Json)
  | [] => [(key, value)]
  | (k, v) :: rest => if k = key then (k, value) :: rest else (k, v) :: setMember key value rest

/-- The object with the given members, of which the last of each key counts. -/
def ofMembers (members : List (Text × Json)) : Json :=
  obj (members.foldl (fun ms m ↦ setMember m.1 m.2 ms) [])

/-- The value of a member of an object. -/
def get? (key : Text) : Json → Option Json
  | obj members => members.lookup key
  | _ => none

/-! ## Presence -/

/-- Whether a value counts as present: it is not null, false, zero or empty. -/
def isTruthy : Json → Bool
  | null => false
  | bool b => b
  | int i => i ≠ 0
  | float d => !d.isZero
  | str t => !t.isEmpty
  | arr items => !items.isEmpty
  | obj members => !members.isEmpty

/-! ## Text -/

mutual

/-- The form of a value inside another value: texts are quoted. -/
def quotedForm : Json → String
  | null => "None"
  | bool b => if b then "True" else "False"
  | int i => toString i
  | float d => d.text
  | str t => t.quoted
  | arr items => "[" ++ ", ".intercalate (quotedForms items) ++ "]"
  | obj members => "\x7b" ++ ", ".intercalate (quotedMembers members) ++ "\x7d"

/-- The forms of several values. -/
def quotedForms : List Json → List String
  | [] => []
  | item :: items => quotedForm item :: quotedForms items

/-- The forms of several members. -/
def quotedMembers : List (Text × Json) → List String
  | [] => []
  | (key, value) :: members =>
    (key.quoted ++ ": " ++ quotedForm value) :: quotedMembers members

end

/-- The text of a value: a text is its own, every other value has the form that it has inside
another one. -/
def text : Json → Text
  | str t => t
  | value => quotedForm value

/-! ## Integers -/

/-- Why a value stands for no integer. -/
inductive IntError where
  /-- The value is infinite. -/
  | infinite
  /-- The value is no number, nor a text that writes an integer. -/
  | notNumeric
deriving DecidableEq, Repr

/-- The largest number of digits of a written integer. -/
def maxIntDigits : Nat := 4300

/-- The digits of a written integer. One underscore may stand between two digits; `afterDigit`
says that the character in front is a digit. -/
def digitsOf? (afterDigit : Bool) : List Char → Option (List Nat)
  | [] => if afterDigit then some [] else none
  | c :: cs =>
    if c = '_' then if afterDigit then digitsOf? false cs else none
    else match Text.decimalDigit? c with
      | some d => (digitsOf? true cs).map (d :: ·)
      | none => none

/-- The text without white space at either end. -/
def trimNumber (cs : List Char) : List Char :=
  ((cs.dropWhile Text.isBlankAroundNumber).reverse.dropWhile Text.isBlankAroundNumber).reverse

/-- The sign of a written integer and what follows it. -/
def splitSign : List Char → Bool × List Char
  | '-' :: cs => (true, cs)
  | '+' :: cs => (false, cs)
  | cs => (false, cs)

/-- The integer that characters write, in decimal digits of any script. -/
def intOfChars? (cs : List Char) : Option Int :=
  let (negative, cs) := splitSign (trimNumber cs)
  match digitsOf? false cs with
  | none => none
  | some digits =>
    if digits.length > maxIntDigits then none
    else
      let n : Nat := digits.foldl (fun n d ↦ 10 * n + d) 0
      some (if negative then -n else n)

/-- The integer that a text writes. A half of a surrogate pair is part of none. -/
def intOfText? (t : Text) : Option Int :=
  match t.encode with
  | .ok s => intOfChars? s.toList
  | .error _ => none

/-- The integer that a value stands for. Doubles are rounded towards zero. -/
def toInt : Json → Except IntError Int
  | int i => .ok i
  | bool b => .ok (if b then 1 else 0)
  | float (.finite negative m e) =>
    .ok (if negative then -(Double.magnitude m e : Int) else Double.magnitude m e)
  | float (.infinite _) => .error .infinite
  | str t => match intOfText? t with
    | some i => .ok i
    | none => .error .notNumeric
  | float .nan | null | arr _ | obj _ => .error .notNumeric

end Json

end LintMark

import LintMark.Constant.Recognition
import LintMark.Syntax.Walk
import LintMark.Text.Basic

/-!
# Canonical strings

A window is written as a sequence of tokens.

* A node of kind `TYPE` gives the text of every node below it, so that generic arguments and array
  dimensions count.
* A node whose text is the name of a constant gives the kind of the constant's literal, once for
  every constant of that name, in the order of the identifiers.
* Every other node gives its kind.

A space follows each token, and a qualifying name may end the string. A name with halves of
surrogate pairs makes it a text that cannot be digested.
-/

namespace LintMark

namespace Tree

/-- The constants as pairs of a name and a literal. A binding counts if its key is an
identifier. -/
def boundNames (t : Tree) (b : Bindings) : List (String × Nat) :=
  b.entries.filterMap fun (ident, literal) ↦
    if t.kind ident = Kind.ident then some (t.text ident, literal) else none

/-- The literal kinds that stand for `text` where it is the name of constants. -/
def literalKinds (t : Tree) (bound : List (String × Nat)) (text : String) : List String :=
  (bound.filter fun p ↦ p.1 = text).map fun p ↦ (t.kind p.2).name

/-- The tokens that a node of the window gives. -/
def nodeTokens (t : Tree) (bound : List (String × Nat)) (i : Nat) : List String :=
  if t.kind i = Kind.type then
    (t.children i).flatMap fun c ↦ (t.descendants (some c)).map t.text
  else
    match t.literalKinds bound (t.text i) with
    | [] => [(t.kind i).name]
    | kinds => kinds

/-- The tokens of a window. -/
def tokens (t : Tree) (window : List Nat) (b : Bindings) : List String :=
  let bound := t.boundNames b
  window.flatMap (t.nodeTokens bound)

end Tree

/-- The text of a sequence of tokens, each with a space behind it, and of a name. -/
def spell (tokens : List String) (name : Option String) : String :=
  String.join (tokens.map (· ++ " ")) ++ name.getD ""

/-- The canonical string of a window. -/
def Tree.canonical (t : Tree) (window : List Nat) (b : Bindings) (name : Option String) : String :=
  spell (t.tokens window b) name

/-- The canonical text of a window under any name. -/
def Tree.canonicalText (t : Tree) (window : List Nat) (b : Bindings) (name : Option Text) : Text :=
  t.canonical window b none ++ name.getD ""

variable (t : Tree) (window : List Nat) (b : Bindings)

theorem Tree.canonicalText_map_ofString (name : Option String) :
    t.canonicalText window b (name.map Text.ofString) = t.canonical window b name := by
  rw [Tree.canonicalText, Tree.canonical, Tree.canonical, spell, spell, Text.ofString_append,
    Text.ofString_append, Text.append_assoc]
  cases name <;> rfl

end LintMark

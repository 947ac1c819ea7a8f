import LintMark.Constant.Bindings
import LintMark.Syntax.Walk

/-!
# Recognising constants

A constant is a declaration of the shape

```text
<three modifiers> <type> <identifier> = <literal> ;
```

as in `public static final int MAX = 10;`. Recognition goes by shape alone: a variable
definition with exactly five children of the right kinds, whose first child holds exactly three
modifiers. The literal is the first token under the initialiser's expression.

References to a recognised constant are later written as the kind of its literal, so that
renaming the constant does not change the fingerprint of its uses.
-/

namespace LintMark.Tree

/-- The first grandchild of an assignment: the first token of its expression. -/
def initializerToken (t : Tree) (assign : Nat) : Option Nat :=
  (t.node assign).firstChild.bind fun expr ↦ (t.node expr).firstChild

/-- The identifier and the literal of the constant that `i` declares, if it declares one. -/
def constant? (t : Tree) (i : Nat) : Option (Nat × Nat) :=
  if t.kind i = Kind.variableDef then
    match t.children i with
    | [modifiers, type, ident, assign, semi] =>
      if t.kind modifiers = Kind.modifiers ∧ t.childCount modifiers = 3
          ∧ t.kind type = Kind.type ∧ t.kind ident = Kind.ident
          ∧ t.kind assign = Kind.assign ∧ t.kind semi = Kind.semi then
        (t.initializerToken assign).map fun literal ↦ (ident, literal)
      else none
    | _ => none
  else none

/-- Whether `i` declares a constant, and the bindings with that constant added. -/
def bindConstant (t : Tree) (i : Nat) (b : Bindings) : Bool × Bindings :=
  match t.constant? i with
  | some (ident, literal) => (true, b.insert ident literal)
  | none => (false, b)

/-- The bindings of all constants on the walk from `o`. -/
def constantsFrom (t : Tree) (o : Option Nat) : Bindings :=
  (t.walk o).foldl (fun b i ↦ (t.bindConstant i b).2) ∅

/-- The bindings of all constants of the tree. -/
def constants (t : Tree) : Bindings := t.constantsFrom t.root

end LintMark.Tree

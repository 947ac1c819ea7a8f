import LintMark.Java.Grammar.Statements

/-!
# The grammar of Java

`Rule.phrase` gives each rule its pattern, and `grammar` reads a source: it cuts the source into
lexemes, leaves the comments out, and reads declarations and statements until the lexemes end.

A source that is not Java gives a tree with a single faulty row. If a declaration or a statement
breaks off, the row stands at the last lexeme that was sound; if none can start at all, it stands at
the lexeme that cannot start one.

## A stand-in

Concrete trees come from a parser outside of this library, and a `Workspace` takes whatever grammar
it is given. The grammar of this module stands in for that parser where a source comes without a
concrete tree. It is not the same: it makes no rows of comments, and it does not recover from a
fault. No theorem depends on it, nor on the lexemes and patterns that it is written with.
-/

namespace LintMark.Java

/-- The pattern of a rule. -/
def Rule.phrase : Rule → Phrase
  | .annotationUse => Phrase.annotationUse
  | .type => Phrase.type
  | .typeArguments => Phrase.typeArguments
  | .expression lambdas => Phrase.expression lambdas
  | .operation strength lambdas => Phrase.operation lambdas strength
  | .operand lambdas => Phrase.operand lambdas
  | .primary => Phrase.primary
  | .arguments => Phrase.arguments
  | .arrayInitializer => Phrase.arrayInitializer
  | .elementValue => Phrase.elementValue
  | .recordPattern => Phrase.recordPattern
  | .parameters => Phrase.parameters
  | .block => Phrase.block
  | .statement => Phrase.statement
  | .switchExpression => Phrase.switchExpression
  | .typeDeclaration => Phrase.typeDeclaration
  | .classBody => Phrase.classBody

/-- The number of calls of rules that may be open when a source of `n` lexemes is read. Calls that
are open at one lexeme are calls of different rules, apart from the parameters of the rules, so
each lexeme accounts for fewer calls than there are rules. -/
def openCalls (n : Nat) : Nat := 32 * (n + 1)

/-- A row for the fault at a lexeme. -/
def faultRow (lexemes : Array Lexeme) (place : Nat) : Cst :=
  let l := lexemes[place]?.getD default
  ⟨"ERROR", l.start, l.stop, true, false, none, []⟩

/-- The rows of a source outside of all types. -/
def topLevelRows (lexemes : Array Lexeme) : List Cst :=
  let readRule := Pattern.readRule lexemes Rule.phrase (openCalls lexemes.size)
  let s := Pattern.readAll lexemes.size (Phrase.topLevel.read lexemes readRule) ⟨0, 0, []⟩
  if s.next = lexemes.size then s.rows.reverse
  -- Something was begun and broke off: the lexeme in front of the furthest refusal was sound.
  else if s.next < s.refused then [faultRow lexemes (s.refused - 1)]
  else [faultRow lexemes s.next]

/-- The grammar of Java. -/
def grammar : Grammar := fun bytes ↦
  let all := lexemes bytes
  let content := all.filter (!·.isComment)
  let start := (all[0]?.map (·.start)).getD bytes.size
  ⟨.ofBytes bytes, ⟨"program", start, bytes.size, true, false, none, topLevelRows content⟩,
    false⟩

end LintMark.Java

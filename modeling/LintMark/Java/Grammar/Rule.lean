import LintMark.Java.Grammar.Pattern

/-!
# Rules

The constructs of Java that may contain themselves. Every cycle of the grammar goes through a rule:
the pattern of a construct refers to a rule where it would otherwise refer to itself, and
`LintMark.Java.Grammar` gives each rule its pattern. Like all of the stand-in grammar, rules are
nothing that a theorem depends on.

## Arrows

An arrow behind a name starts the body of a lambda expression, but behind the constant of a switch
label it ends the label. Rules for expressions say which of both is meant.
-/

namespace LintMark.Java

/-- A construct that may contain itself. `lambdas` says whether an arrow makes a lambda
expression. -/
inductive Rule where
  | annotationUse
  | type
  | typeArguments
  | expression (lambdas : Bool)
  /-- An expression whose operators bind at least as strongly as the given strength. -/
  | operation (strength : Nat) (lambdas : Bool)
  | operand (lambdas : Bool)
  | primary
  | arguments
  | arrayInitializer
  | elementValue
  | recordPattern
  | parameters
  | block
  | statement
  | switchExpression
  | typeDeclaration
  | classBody

/-- A pattern of Java. -/
abbrev Phrase := Pattern Rule

end LintMark.Java

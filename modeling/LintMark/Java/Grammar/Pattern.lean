import LintMark.Java.Cst
import LintMark.Java.Lexeme

/-!
# Patterns of lexemes

A grammar is written as patterns. A pattern says which lexemes it takes and which rows it makes of
them, and it may call rules, which have patterns again. Choice is ordered: the second of two
patterns is tried only where the first one fails, and a repetition takes as much as it can.

## Rows read from the left

An operator stands above its left operand, and yet the operand is read first. `extend` is how a
pattern says this: the row read last becomes the first child of a new one. So `a.b.c` is the row of
`a`, extended twice, and no rule calls itself before it has taken a lexeme.

## Failure

A failure gives the place of the furthest lexeme that any pattern refused, also of those that were
tried and given up before. The source is sound up to that lexeme.

Patterns serve the stand-in grammar of `LintMark.Java.Grammar`; no theorem depends on them.
-/

namespace LintMark.Java

/-- A pattern over the rules of a grammar. -/
inductive Pattern (ρ : Type) where
  /-- Takes nothing. -/
  | nothing
  /-- Takes a lexeme of one type; its row may have another. -/
  | lexeme (type rowType : String)
  /-- Takes an identifier that is the given word; its row has no name. -/
  | word (text : String)
  /-- Takes signs without a blank between them; their row has no name. -/
  | joined (signs : List String)
  /-- Takes what a rule takes. -/
  | call (rule : ρ)
  /-- Takes what the first pattern takes, and then what the second one takes. -/
  | andThen (p q : Pattern ρ)
  /-- Takes what the first pattern takes, or else what the second one takes. -/
  | orElse (p q : Pattern ρ)
  /-- Takes what a pattern takes, as often as it takes something. -/
  | repeated (p : Pattern ρ)
  /-- Takes nothing, and fails where the pattern would fail. -/
  | ahead (p : Pattern ρ)
  /-- Takes nothing, and fails where the row read last has none of the types. -/
  | behind (types : List String)
  /-- Makes one row of the rows of a pattern. -/
  | row (type : String) (p : Pattern ρ)
  /-- Puts the rows of a pattern into a field. -/
  | field (name : String) (p : Pattern ρ)
  /-- Makes one row of the row read last, which fills a field, and the rows of a pattern. -/
  | extend (type : String) (fieldName : Option String) (p : Pattern ρ)

namespace Pattern

variable {ρ : Type}

/-- A text stands for the lexeme that is its own type. -/
instance : Coe String (Pattern ρ) := ⟨fun type ↦ lexeme type type⟩

/-- Takes what the patterns take, one after the other. -/
def all : List (Pattern ρ) → Pattern ρ
  | [] => nothing
  | [p] => p
  | p :: ps => andThen p (all ps)

/-- Takes what the first of the patterns takes that takes something. -/
def oneOf : List (Pattern ρ) → Pattern ρ
  | [] => behind []
  | [p] => p
  | p :: ps => orElse p (oneOf ps)

/-- Takes what a pattern takes, or nothing. -/
def optional (p : Pattern ρ) : Pattern ρ := orElse p nothing

/-- Takes what a pattern takes, once or more often. -/
def several (p : Pattern ρ) : Pattern ρ := andThen p (repeated p)

/-- Takes what a pattern takes, once or more often, with a separator in between. -/
def separated (separator : String) (p : Pattern ρ) : Pattern ρ :=
  andThen p (repeated (andThen separator p))

/-- Takes a list with commas in between, which may be empty. -/
def list (p : Pattern ρ) : Pattern ρ := optional (separated "," p)

/-! ## Reading -/

/-- How far reading has come. -/
structure Progress where
  /-- The place of the next lexeme. -/
  next : Nat
  /-- The place of the furthest lexeme refused so far. -/
  refused : Nat
  /-- The rows read, the last one first. -/
  rows : List Cst

/-- Reading goes on, or it fails with the place of the furthest lexeme refused. -/
abbrev Outcome := Except Nat Progress

namespace Progress

/-- Refuses the next lexeme. -/
def refuse (s : Progress) : Outcome := .error (max s.refused s.next)

/-- Takes the next lexeme, as a row of the given type. -/
def take (s : Progress) (lexeme : Lexeme) (type : String) (named : Bool) : Progress :=
  ⟨s.next + 1, s.refused, ⟨type, lexeme.start, lexeme.stop, named, false, none, []⟩ :: s.rows⟩

end Progress

/-- A row around the given rows. -/
def rowAround (type : String) (children : List Cst) : Cst :=
  ⟨type, (children.head?.map (·.start)).getD 0, (children.getLast?.map (·.stop)).getD 0, true,
    false, none, children⟩

/-- Takes one lexeme. -/
def readLexeme (lexemes : Array Lexeme) (type row : String) (s : Progress) : Outcome :=
  match lexemes[s.next]? with
  | some l =>
    if l.type = type then .ok (s.take l row (row ≠ type || Lexeme.namedTypes.contains type))
    else s.refuse
  | none => s.refuse

/-- Takes one word. -/
def readWord (lexemes : Array Lexeme) (text : String) (s : Progress) : Outcome :=
  match lexemes[s.next]? with
  | some l => if l.word = text then .ok (s.take l text false) else s.refuse
  | none => s.refuse

/-- Takes signs without a blank between them, as a part of the row from `start` on. -/
def readSigns (lexemes : Array Lexeme) (type : String) (start : Nat) :
    List String → Nat → Progress → Outcome
  | [], place, s =>
    .ok { s with rows := ⟨type, start, place, false, false, none, []⟩ :: s.rows }
  | sign :: signs, place, s =>
    match lexemes[s.next]? with
    | some l =>
      if l.type = sign && l.start = place then
        readSigns lexemes type start signs l.stop { s with next := s.next + 1 }
      else s.refuse
    | none => s.refuse

/-- Reads as often as reading goes on. -/
def readAll (size : Nat) (read : Progress → Outcome) (s : Progress) : Progress :=
  match read s with
  -- A pattern that takes no lexeme would be read for ever, so it is read once.
  | .ok s' => if s.next < s'.next ∧ s.next < size then readAll size read s' else s'
  | .error refused => { s with refused }
termination_by size - s.next

/-- Reads a pattern, given how to read the rules that it calls. -/
def read (lexemes : Array Lexeme) (callRule : ρ → Progress → Outcome) :
    Pattern ρ → Progress → Outcome
  | nothing, s => .ok s
  | lexeme type rowType, s => readLexeme lexemes type rowType s
  | word text, s => readWord lexemes text s
  | joined signs, s =>
    match lexemes[s.next]? with
    | some l => readSigns lexemes (String.join signs) l.start signs l.start s
    | none => s.refuse
  | call rule, s => callRule rule s
  | andThen p q, s =>
    match p.read lexemes callRule s with
    | .ok s' => q.read lexemes callRule s'
    | .error refused => .error refused
  | orElse p q, s =>
    match p.read lexemes callRule s with
    | .ok s' => .ok s'
    -- The second pattern starts anew, but the furthest refusal is not forgotten.
    | .error refused => q.read lexemes callRule { s with refused }
  | repeated p, s => .ok (readAll lexemes.size (p.read lexemes callRule) s)
  | ahead p, s =>
    match p.read lexemes callRule s with
    | .ok _ => .ok s
    | .error _ => s.refuse
  | behind types, s =>
    match s.rows with
    | last :: _ => if last.type ∈ types then .ok s else s.refuse
    | [] => s.refuse
  | row type p, s =>
    -- The rows below start with none, so that `behind` and `extend` do not see past this row.
    match p.read lexemes callRule { s with rows := [] } with
    | .ok s' => .ok { s' with rows := rowAround type s'.rows.reverse :: s.rows }
    | .error refused => .error refused
  | field name p, s =>
    match p.read lexemes callRule { s with rows := [] } with
    | .ok s' =>
      .ok { s' with rows := s'.rows.map (fun c ↦ { c with field := some name }) ++ s.rows }
    | .error refused => .error refused
  | extend type fieldName p, s =>
    match s.rows with
    | last :: before =>
      match p.read lexemes callRule { s with rows := [{ last with field := fieldName }] } with
      | .ok s' => .ok { s' with rows := rowAround type s'.rows.reverse :: before }
      | .error refused => .error refused
    | [] => s.refuse

/-- Reads a rule, through at most the given number of calls that are open at one time. -/
def readRule (lexemes : Array Lexeme) (pattern : ρ → Pattern ρ) : Nat → ρ → Progress → Outcome
  | 0, _, s => s.refuse
  | n + 1, rule, s => (pattern rule).read lexemes (readRule lexemes pattern n) s

end Pattern

end LintMark.Java

import LintMark.Fingerprint.Basic
import LintMark.Java.Source
import LintMark.Report.Warning

/-!
# Fingerprinters

A fingerprinter takes warnings in the files of a workspace to fingerprints: it reads the file,
settles the strategy, and takes the fingerprint of the line. It is made for one digest algorithm,
which has to be usable when the fingerprinter is made.

The three ways in, `fingerprint`, `fingerprintWarning` and `explain`, read the file before they
settle the strategy, and settle the strategy before they encode the canonical text. So of several
faults the one of the file counts, and the one of the name counts last.
-/

namespace LintMark

/-- Files, the grammar that their sources are read with, and the platform that digests them. -/
structure Workspace where
  /-- The files. -/
  files : Files
  /-- The grammar. -/
  grammar : Grammar
  /-- The platform. -/
  platform : Platform := .bare

/-- Why there is no fingerprint. -/
inductive Failure where
  /-- The file has no tree. -/
  | read (e : ReadError)
  /-- The strategy asked for is none. -/
  | strategy (e : StrategyError)
  /-- The canonical text cannot be encoded, because of its name. -/
  | encoding (e : EncodeError)
deriving DecidableEq

/-- A fingerprinter. -/
structure Fingerprinter where
  /-- The directory that relative paths start from. -/
  root : Text
  /-- The name under which the digest algorithm was asked for. -/
  algorithmName : Text
  /-- The digest algorithm. -/
  algorithm : Algorithm
  /-- Whether sources with a fault are refused. -/
  strict : Bool
  /-- On some platform the name denotes the algorithm. -/
  exists_ofName_eq : ∃ platform, Algorithm.ofName platform algorithmName = .ok algorithm

/-- A request for the fingerprint of a line. -/
structure Query where
  /-- The file. -/
  file : Text
  /-- The line. -/
  line : Int
  /-- The name of the rule. -/
  rule : Text := ""
  /-- The name of the strategy; without one, the rule and the category settle the strategy. -/
  strategy : Option Text := none
  /-- A name that qualifies the place. -/
  name : Option Text := none
  /-- The category of the rule. -/
  category : Text := ""
deriving DecidableEq, Repr

/-- How a fingerprint comes about. -/
structure Explanation where
  /-- The file as it was asked for. -/
  file : Text
  /-- The line. -/
  line : Int
  /-- The strategy. -/
  strategy : Strategy
  /-- The number of nodes in the window. -/
  windowSize : Nat
  /-- The names of the constants of the file, in order, with the kinds of their literals. -/
  constants : List (String × String)
  /-- The canonical string of the window. -/
  canonical : String
  /-- The line on which the first type body of the file ends. -/
  lastLine : Option Int
  /-- The fingerprint. -/
  fingerprint : Fingerprint
deriving DecidableEq, Repr

namespace Fingerprinter

/-- The fingerprinter for a directory and a digest algorithm. -/
def make (platform : Platform) (root algorithmName : Text) (strict : Bool) :
    Except AlgorithmError Fingerprinter :=
  match h : Algorithm.ofName platform algorithmName with
  | .ok algorithm => .ok ⟨root, algorithmName, algorithm, strict, platform, h⟩
  | .error e => .error e

/-- The fingerprinter for a directory, with the usual algorithm. -/
def usual (root : Text) : Fingerprinter := ⟨root, "sha1", .sha1, true, .bare, rfl⟩

/-- The path of a file of the workspace. -/
def pathOf (fp : Fingerprinter) (file : Text) : Text :=
  Path.below fp.root (Path.withSlashes file)

/-- The tree of a file. -/
def tree (fp : Fingerprinter) (ws : Workspace) (file : Text) : Except ReadError Tree :=
  ws.files.tree ws.grammar (fp.pathOf file) fp.strict

/-- The strategy with the given name, or else the one that suits the rule. -/
def settleStrategy (strategy : Option Text) (rule category : Text) :
    Except StrategyError Strategy :=
  match strategy with
  | some name => Strategy.ofName name
  | none => .ok (Strategy.forWarning rule category)

/-- The fingerprint of a line of a tree. -/
def fingerprintTree (fp : Fingerprinter) (t : Tree) (line : Int) (strategy : Strategy)
    (name : Option String) : Fingerprint :=
  t.fingerprint fp.algorithm line strategy name

/-- The fingerprint of a line of a tree under any name. -/
def fingerprintNamed (fp : Fingerprinter) (t : Tree) (line : Int) (strategy : Strategy)
    (name : Option Text) : Except Failure Fingerprint := do
  let site := Site.ofLine t line
  let canonical ←
    (t.canonicalText (site.window strategy) site.constants name).encode.mapError .encoding
  return .ofText fp.algorithm canonical

/-- The fingerprint that a query asks for. -/
def fingerprint (fp : Fingerprinter) (ws : Workspace) (q : Query) : Except Failure Fingerprint := do
  let t ← (fp.tree ws q.file).mapError .read
  let strategy ← (settleStrategy q.strategy q.rule q.category).mapError .strategy
  fp.fingerprintNamed t q.line strategy q.name

/-- The fingerprint of a warning on a tree. -/
def fingerprintOn (fp : Fingerprinter) (t : Tree) (w : Warning) : Except Failure Fingerprint :=
  fp.fingerprintNamed t w.line (w.strategy.getD (Strategy.forWarning w.rule w.category))
    w.contextName

/-- The fingerprint of a warning. -/
def fingerprintWarning (fp : Fingerprinter) (ws : Workspace) (w : Warning) :
    Except Failure Fingerprint := do
  let t ← (fp.tree ws w.file).mapError .read
  fp.fingerprintOn t w

/-- Enters a name and a kind into a list in the order of names, in place of an earlier entry. -/
def enterName (name kind : String) : List (String × String) → List (String × String)
  | [] => [(name, kind)]
  | (n, k) :: rest =>
    if name < n then (name, kind) :: (n, k) :: rest
    else if name = n then (name, kind) :: rest
    else (n, k) :: enterName name kind rest

/-- The constants by name, with the kinds of their literals. Of several constants of one name the
last one counts. -/
def constantKinds (t : Tree) (b : Bindings) : List (String × String) :=
  b.entries.foldl (fun names (ident, literal) ↦
    enterName (t.text ident) (t.kind literal).name names) []

/-- How the fingerprint that a query asks for comes about. -/
def explain (fp : Fingerprinter) (ws : Workspace) (q : Query) : Except Failure Explanation := do
  let t ← (fp.tree ws q.file).mapError .read
  let strategy ← (settleStrategy q.strategy q.rule q.category).mapError .strategy
  let site := Site.ofLine t q.line
  let window := site.window strategy
  let canonical ← (t.canonicalText window site.constants q.name).encode.mapError .encoding
  return {
    file := q.file
    line := q.line
    strategy
    windowSize := window.length
    constants := constantKinds t site.constants
    canonical
    lastLine := site.lastLine
    fingerprint := .ofText fp.algorithm canonical }

end Fingerprinter

end LintMark

import LintMark.Fingerprinter.Batch
import LintMark.Report.Query

/-!
# Sessions

A session answers calls with texts. It holds the report that was loaded last, and the
fingerprinter that belongs to it. A call that needs a fingerprinter when there is none makes one
for the working directory.

Each call is a function from the session before it to the session after it and an outcome: the
text of the answer, or a failure that the call does not put into words.
-/

namespace LintMark

/-- What a session remembers between calls. -/
structure Session where
  /-- The report that was loaded last. -/
  report : Option Report
  /-- The fingerprinter. -/
  fingerprinter : Option Fingerprinter

/-- A request for the fingerprint of one line, as a call makes it. -/
structure Place where
  /-- The file. -/
  file : Text
  /-- The line. -/
  line : Int
  /-- The name of the rule. -/
  rule : Text := ""
  /-- The strategy, or blanks if the rule settles it. -/
  strategy : Text := ""
  /-- A qualifying name, or nothing. -/
  name : Text := ""
  /-- The category of the rule. -/
  category : Text := ""

/-- The calls that a session answers. -/
inductive Call where
  /-- Loads a report and sets the workspace that its paths refer to. -/
  | loadReport (path root algorithm : Text)
  /-- Lists the warnings of a file. -/
  | listWarnings (file : Text)
  /-- Gives the fingerprint of one line. -/
  | fingerprintWarning (place : Place)
  /-- Gives the fingerprints of all reported warnings of a file. -/
  | fingerprintFile (file : Text)
  /-- Explains the fingerprint of one line. -/
  | explainFingerprint (place : Place)
  /-- Compares the fingerprints of two lines. -/
  | compareWarnings (fileA : Text) (lineA : Int) (fileB : Text) (lineB : Int)
      (rule strategy : Text)

namespace Session

/-- The session before the first call. -/
def initial : Session := ⟨none, none⟩

/-- What a call gives: the session after it, and a text or a failure. -/
abbrev Outcome := Session × Except Breakdown Text

/-! ## Failures in words -/

/-- The wording of a failure, for the failures that calls put into words. -/
def wording? : Failure → Option Text
  | .read (.source e) => some e.message
  | .read (.path e) => some e.message
  | .read .bareUpdate => none
  | .strategy e => some e.message
  | .encoding e => some e.message

/-- The text that reports a failure. -/
def failureText (e : Failure) : Except Breakdown Text :=
  match wording? e with
  | some text => .ok ("Error: " ++ text)
  | none => .error (.fingerprint e)

/-- The text of a result, or the text that reports its failure. -/
def textOf {α : Type} (result : Except Failure α) (text : α → Text) : Except Breakdown Text :=
  match result with
  | .ok a => .ok (text a)
  | .error e => failureText e

/-! ## Arguments -/

/-- The strategy that a text names, in letters of either case and with blanks around it. A text of
blanks names none. -/
def strategyArgument (text : Text) : Except Failure (Option Text) :=
  let trimmed := ((text.symbols.dropWhile Text.isBlank).reverse.dropWhile Text.isBlank).reverse
  if trimmed.isEmpty then .ok none
  else match Strategy.ofName (Text.toLower ⟨trimmed⟩) with
    | .ok strategy => .ok (some strategy.name)
    | .error e => .error (.strategy e)

/-- The query of a place. -/
def queryOf (place : Place) : Except Failure Query := do
  let strategy ← strategyArgument place.strategy
  return {
    file := place.file
    line := place.line
    rule := place.rule
    strategy
    name := if place.name.isEmpty then none else some place.name
    category := place.category }

/-- The text of the working directory. -/
def hereText (files : Files) : Text := "/" ++ Text.intercalate "/" files.here.reverse

/-- The fingerprinter for the working directory. -/
def defaultFingerprinter (ws : Workspace) : Fingerprinter := .usual (hereText ws.files)

/-- The fingerprinter of the session, which is made if there is none, and the session that holds
it. -/
def ensureFingerprinter (s : Session) (ws : Workspace) : Fingerprinter × Session :=
  match s.fingerprinter with
  | some fp => (fp, s)
  | none =>
    let fp := defaultFingerprinter ws
    (fp, { s with fingerprinter := some fp })

/-! ## Calls -/

/-- A file and a line in backquotes. -/
def mark (file : Text) (line : Int) : Text := "`" ++ file ++ ":" ++ toString line ++ "`"

/-- The text about a report that has been loaded. -/
def loadedText (report : Report) (fp : Fingerprinter) : Text :=
  "Successfully loaded report. Found " ++ toString report.warnings.length ++ " warnings in "
    ++ toString report.fileCounts.length ++ " files.\n"
    ++ "Detected format: " ++ report.format.getD "None" ++ "\n"
    ++ "Hash algorithm: " ++ fp.algorithmName

/-- Loads a report. The new fingerprinter is kept even if the report then cannot be loaded. -/
def loadReport (s : Session) (ws : Workspace) (path root algorithm : Text) : Outcome :=
  if !ws.files.holds path then (s, .ok ("Error: Report file not found at " ++ path))
  else if !ws.files.holds root then (s, .ok ("Error: Workspace root not found at " ++ root))
  else match Fingerprinter.make ws.platform root algorithm true with
    | .error e => (s, .ok ("Error loading report: " ++ e.message))
    | .ok fp =>
      match Report.load ws.files path with
      -- The fingerprinter belongs to the new workspace, whose report is missing.
      | .error e => ({ s with fingerprinter := some fp }, .error (.load e))
      | .ok report => (⟨some report, some fp⟩, .ok (loadedText report fp))

/-- The answer where a report is needed and there is none. -/
def noReportText : Text := "Error: No report loaded. Call load_report first."

/-- The line of a list that shows one warning. -/
def warningLine (w : Warning) : Text :=
  "- **[" ++ (if w.rule.isEmpty then ("unknown" : Text) else w.rule) ++ "]** Line " ++
    toString w.line ++ " (" ++ w.severity ++ "): " ++ w.message ++ "\n"

/-- Lists the warnings of a file. -/
def listWarnings (s : Session) (file : Text) : Outcome :=
  match s.report with
  | none => (s, .ok noReportText)
  | some report =>
    let warnings := report.byFile file
    if warnings.isEmpty then (s, .ok ("No warnings found for " ++ file))
    else (s, .ok ("**" ++ toString warnings.length ++ " warnings in " ++ file ++ ":**\n\n"
      ++ Text.join (warnings.map warningLine)))

/-- The text about one fingerprint. -/
def fingerprintText (place : Place) (f : Fingerprint) : Text :=
  mark place.file place.line ++ "\n- digest: `" ++ f.digest ++ "`\n- code: `" ++ toString f.code
    ++ "`"

/-- Gives the fingerprint of one line. -/
def fingerprintWarning (s : Session) (ws : Workspace) (place : Place) : Outcome :=
  let (fp, s) := s.ensureFingerprinter ws
  (s, textOf (queryOf place >>= fp.fingerprint ws) (fingerprintText place))

/-- The row of a table that shows a warning and its fingerprint. -/
def fingerprintRow (row : Warning × Option Fingerprint) : Text :=
  "| " ++ row.1.rule ++ " | " ++ toString row.1.line ++ " | " ++
    match row.2 with
    | none => "*parse error* | |"
    | some f => "`" ++ f.digest ++ "` | " ++ toString f.code ++ " |"

/-- The table of the fingerprints of a file. -/
def fingerprintTable (file : Text) (rows : List (Warning × Option Fingerprint)) : Text :=
  Text.intercalate "\n" <|
    ["## Fingerprints — `" ++ file ++ "`\n",
      "| Type | Line | Digest | Code |",
      "|------|------|--------|------|"] ++ rows.map fingerprintRow

/-- Gives the fingerprints of all reported warnings of a file. -/
def fingerprintFile (s : Session) (ws : Workspace) (file : Text) : Outcome :=
  match s.report, s.fingerprinter with
  | some report, some fp =>
    let warnings := report.byFile file
    if warnings.isEmpty then (s, .ok ("No warnings found for " ++ file))
    else match (fp.batch ws warnings).results with
      | .ok rows => (s, .ok (fingerprintTable file rows))
      | .error e => (s, .error (.fingerprint e))
  | _, _ => (s, .ok noReportText)

/-- The list of the constants of a file. -/
def constantsText (constants : List (String × String)) : String :=
  if constants.isEmpty then "none"
  else ", ".intercalate (constants.map fun (name, kind) ↦ name ++ " -> " ++ kind)

/-- The text that explains a fingerprint. -/
def explanationText (e : Explanation) : Text :=
  "## Fingerprint of " ++ mark e.file e.line ++ "\n\n"
    ++ "| Field | Value |\n"
    ++ "|-------|-------|\n"
    ++ "| **Strategy** | " ++ e.strategy.name ++ " |\n"
    ++ "| **Window** | " ++ toString e.windowSize ++ " nodes |\n"
    ++ "| **Type body ends at** | line " ++ (e.lastLine.map fun l ↦ toString l).getD "None"
    ++ " |\n"
    ++ "| **Constants** | " ++ constantsText e.constants ++ " |\n"
    ++ "| **Digest** | `" ++ e.fingerprint.digest ++ "` |\n"
    ++ "| **Code** | `" ++ toString e.fingerprint.code ++ "` |\n\n"
    ++ "### Canonical token string\n\n```\n" ++ e.canonical ++ "\n```\n"

/-- Explains the fingerprint of one line. -/
def explainFingerprint (s : Session) (ws : Workspace) (place : Place) : Outcome :=
  let (fp, s) := s.ensureFingerprinter ws
  (s, textOf (queryOf place >>= fp.explain ws) explanationText)

/-- The line of a comparison that shows one place. -/
def comparedLine (file : Text) (line : Int) (f : Fingerprint) : Text :=
  "- " ++ mark file line ++ " → `" ++ f.digest ++ "`"

/-- The text of a comparison. -/
def comparisonText (a b : Query) (f g : Fingerprint) : Text :=
  let verdict := if Fingerprint.sameWarning (some f) (some g) then "SAME warning"
    else "DIFFERENT warnings"
  "**" ++ verdict ++ "**\n" ++ comparedLine a.file a.line f ++ "\n" ++ comparedLine b.file b.line g

/-- Compares the fingerprints of two lines. -/
def compareWarnings (s : Session) (ws : Workspace) (fileA : Text) (lineA : Int)
    (fileB : Text) (lineB : Int) (rule strategy : Text) : Outcome :=
  let (fp, s) := s.ensureFingerprinter ws
  -- The first place is settled before the second, so its failure counts.
  let result : Except Failure Text := do
    let strategy ← strategyArgument strategy
    let a : Query := { file := fileA, line := lineA, rule, strategy }
    let b : Query := { file := fileB, line := lineB, rule, strategy }
    let f ← fp.fingerprint ws a
    let g ← fp.fingerprint ws b
    return comparisonText a b f g
  (s, textOf result id)

/-- The outcome of a call. -/
def answer (s : Session) (ws : Workspace) : Call → Outcome
  | .loadReport path root algorithm => s.loadReport ws path root algorithm
  | .listWarnings file => s.listWarnings file
  | .fingerprintWarning place => s.fingerprintWarning ws place
  | .fingerprintFile file => s.fingerprintFile ws file
  | .explainFingerprint place => s.explainFingerprint ws place
  | .compareWarnings fileA lineA fileB lineB rule strategy =>
    s.compareWarnings ws fileA lineA fileB lineB rule strategy

end Session

end LintMark

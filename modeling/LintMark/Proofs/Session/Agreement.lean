import LintMark.Proofs.Fingerprinter.Batch
import LintMark.Proofs.Session.Loads
import Mathlib.Data.List.Forall2

/-!
# Calls that agree

A session can be asked for the fingerprints of a file at once, or for each warning of the file on
its own. The answers agree (`calls_agree`): the line of a warning shows the digest and the code that
the single call and the explanation show for it, and it shows that the source is refused exactly
where they answer with an error.

There is one exception. Where the name of a warning cannot be encoded, the single call and the
explanation put that into words, but the call for the file has no words for it and breaks down.

## From a warning to a call

A call takes texts, so the values of a warning have to be put into words: a strategy becomes its
name, and nothing becomes the empty text. The way back loses one thing. An empty qualifying name
comes back as no name; but a name is written at the end of the canonical text, where an empty one
leaves no trace (`canonicalText_eq_of_getD_eq`).

## Verdicts

A comparison looks at codes before it looks at digests. Both fingerprints come from texts, and so
carry the codes of their digests: the verdict is about the digests, which the answer prints.
-/

namespace LintMark

/-- An empty name is written like no name. -/
theorem Tree.canonicalText_eq_of_getD_eq (t : Tree) (window : List Nat) (b : Bindings)
    {name name' : Option Text} (h : name.getD "" = name'.getD "") :
    t.canonicalText window b name = t.canonicalText window b name' := by
  rw [Tree.canonicalText, Tree.canonicalText, h]

namespace Session

open Fingerprinter (canonicalNamed)

variable {s : Session} {ws : Workspace} {fp : Fingerprinter} {w : Warning}

/-! ## Calls for a warning -/

/-- The place of a warning in the words of a call. -/
def placeOf (w : Warning) : Place where
  file := w.file
  line := w.line
  rule := w.rule
  strategy := (w.strategy.map Strategy.name).getD ""
  name := w.contextName.getD ""
  category := w.category

theorem strategyArgument_getD_name (strategy : Option Strategy) :
    strategyArgument ((strategy.map Strategy.name).getD "")
      = .ok (strategy.map fun strategy ↦ strategy.name) := by
  cases strategy with
  | none => rfl
  | some strategy => cases strategy <;> decide +kernel

/-- The query that a call makes of the place of a warning: that of the warning, without an empty
name. -/
def askedQuery (w : Warning) : Query :=
  { w.query with
    name := if (w.contextName.getD "").isEmpty then none else some (w.contextName.getD "") }

theorem queryOf_placeOf (w : Warning) : queryOf (placeOf w) = .ok (askedQuery w) := by
  rw [queryOf, placeOf, strategyArgument_getD_name]
  rfl

theorem getD_name_askedQuery (w : Warning) :
    (askedQuery w).name.getD "" = w.contextName.getD "" := by
  rw [askedQuery]
  dsimp only
  split
  · next h => exact (Text.isEmpty_iff.1 h).symm
  · rfl

theorem canonicalNamed_askedQuery (t : Tree) (strategy : Strategy) :
    canonicalNamed t w.line strategy (askedQuery w).name
      = canonicalNamed t w.line strategy w.contextName := by
  dsimp only [canonicalNamed]
  rw [t.canonicalText_eq_of_getD_eq _ _ (getD_name_askedQuery w)]

theorem settleStrategy_askedQuery (w : Warning) :
    Fingerprinter.settleStrategy (askedQuery w).strategy (askedQuery w).rule
      (askedQuery w).category = .ok w.settled :=
  Fingerprinter.settleStrategy_map_name w.strategy w.rule w.category

/-- A single call gives the place of a warning the fingerprint of the warning. -/
theorem fingerprint_askedQuery (fp : Fingerprinter) (ws : Workspace) (w : Warning) :
    fp.fingerprint ws (askedQuery w) = fp.fingerprintWarning ws w := by
  rw [fp.fingerprint_eq ws (settleStrategy_askedQuery w), fp.fingerprintWarning_eq]
  congr 1
  funext t
  have hline : (askedQuery w).line = w.line := rfl
  rw [hline, canonicalNamed_askedQuery]

/-- An explanation is about the fingerprint of the warning. -/
theorem map_fingerprint_explain_askedQuery (fp : Fingerprinter) (ws : Workspace) (w : Warning) :
    (fp.explain ws (askedQuery w)).map Explanation.fingerprint = fp.fingerprintWarning ws w := by
  rw [fp.explain_eq ws (settleStrategy_askedQuery w), ← fingerprint_askedQuery,
    fp.fingerprint_eq ws (settleStrategy_askedQuery w)]
  cases fp.tree ws (askedQuery w).file with
  | error e => rfl
  | ok t =>
    dsimp only [Except.mapError, bind, Except.bind]
    cases canonicalNamed t (askedQuery w).line w.settled (askedQuery w).name <;> rfl

theorem exists_explain_askedQuery {f : Fingerprint} (hf : fp.fingerprintWarning ws w = .ok f) :
    ∃ x, fp.explain ws (askedQuery w) = .ok x ∧ x.fingerprint = f := by
  have hmap := map_fingerprint_explain_askedQuery fp ws w
  rw [hf] at hmap
  exact Except.map_eq_ok_iff.1 hmap

theorem explain_askedQuery_of_error {e : Failure} (he : fp.fingerprintWarning ws w = .error e) :
    fp.explain ws (askedQuery w) = .error e := by
  have hmap := map_fingerprint_explain_askedQuery fp ws w
  cases hx : fp.explain ws (askedQuery w) with
  | error e' =>
    rw [he, hx] at hmap
    exact congrArg Except.error (Except.error.inj hmap)
  | ok x =>
    rw [he, hx] at hmap
    cases hmap

/-- An explanation is about the place that it was asked for. -/
theorem place_of_explain {q : Query} {x : Explanation} (hx : fp.explain ws q = .ok x) :
    x.file = q.file ∧ x.line = q.line := by
  obtain ⟨t, -, hx⟩ := Except.bind_eq_ok_iff.1 hx
  obtain ⟨strategy, -, hx⟩ := Except.bind_eq_ok_iff.1 hx
  obtain ⟨canonical, -, hx⟩ := Except.bind_eq_ok_iff.1 hx
  cases hx
  exact ⟨rfl, rfl⟩

/-! ## What the calls answer -/

variable (hfp : s.fingerprinter = some fp)

include hfp

theorem ensureFingerprinter_of_eq_some : s.ensureFingerprinter ws = (fp, s) := by
  rw [ensureFingerprinter, hfp]

theorem answer_fingerprintWarning :
    (s.fingerprintWarning ws (placeOf w)).2
      = textOf (fp.fingerprintWarning ws w) (fingerprintText (placeOf w)) := by
  rw [fingerprintWarning, ensureFingerprinter_of_eq_some hfp, ← fingerprint_askedQuery,
    queryOf_placeOf]
  rfl

theorem answer_explainFingerprint :
    (s.explainFingerprint ws (placeOf w)).2
      = textOf (fp.explain ws (askedQuery w)) explanationText := by
  rw [explainFingerprint, ensureFingerprinter_of_eq_some hfp, queryOf_placeOf]
  rfl

theorem answer_fingerprintFile {report : Report} (hreport : s.report = some report) {file : Text}
    (hfound : report.byFile file ≠ []) :
    s.fingerprintFile ws file =
      match (fp.batch ws (report.byFile file)).results with
      | .ok rows => (s, .ok (fingerprintTable file rows))
      | .error e => (s, .error (.fingerprint e)) := by
  have hempty : ¬ (report.byFile file).isEmpty = true := fun h ↦ hfound (List.isEmpty_iff.1 h)
  rw [fingerprintFile, hreport, hfp]
  exact if_neg hempty

omit hfp

/-! ## Answers that are errors -/

/-- The answer is a text that reports an error. -/
def IsError (answer : Except Breakdown Text) : Prop :=
  ∃ cause : Text, answer = .ok ("Error: " ++ cause)

/-- The answer is a text that reports an error, or a failure that is not put into words. -/
def IsFailure (answer : Except Breakdown Text) : Prop := IsError answer ∨ ∃ e, answer = .error e

theorem isFailure_failureText (e : Failure) : IsFailure (failureText e) := by
  rw [failureText]
  split
  · next cause _ => exact .inl ⟨cause, rfl⟩
  · exact .inr ⟨_, rfl⟩

/-- A text that starts with another letter reports no error. -/
theorem not_isError_append {front : String} (h : front.toList.head?.any (· ≠ 'E') = true)
    (rest : Text) : ¬ IsError (.ok (front ++ rest)) := by
  rintro ⟨cause, heq⟩
  have hhead := congrArg (fun text ↦ text.symbols.head?) (Except.ok.inj heq)
  rw [Text.symbols_append, Text.symbols_append, List.head?_append, List.head?_append,
    Text.symbols_ofString, List.head?_map] at hhead
  cases hfront : front.toList.head? with
  | none =>
    rw [hfront] at h
    cases h
  | some c =>
    rw [hfront] at h hhead
    cases hhead
    cases h

/-! ## Lines -/

/-- The line of a table for a warning with a fingerprint. -/
def shownLine (w : Warning) (f : Fingerprint) : Text :=
  "| " ++ w.rule ++ " | " ++ toString w.line ++ " | " ++
    "`" ++ f.digest ++ "` | " ++ toString f.code ++ " |"

/-- The line of a table for a warning whose source is refused. -/
def refusedLine (w : Warning) : Text :=
  "| " ++ w.rule ++ " | " ++ toString w.line ++ " | " ++ "*parse error* | |"

theorem fingerprintRow_some (w : Warning) (f : Fingerprint) :
    fingerprintRow (w, some f) = shownLine w f := by
  simp only [fingerprintRow, shownLine, Text.append_assoc]

theorem fingerprintRow_none (w : Warning) : fingerprintRow (w, none) = refusedLine w := by
  simp only [fingerprintRow, refusedLine, Text.append_assoc]

/-- A line shows a fingerprint or that the source is refused, and not both. -/
theorem shownLine_ne_refusedLine (w : Warning) (f : Fingerprint) :
    shownLine w f ≠ refusedLine w := by
  rw [← fingerprintRow_some, ← fingerprintRow_none, fingerprintRow, fingerprintRow, Ne,
    Text.append_right_inj]
  intro h
  have hhead := congrArg (fun text ↦ text.symbols.head?) h
  simp at hhead

/-- The line of a table for a warning agrees with what calls answer for that warning alone. -/
structure LineAgrees (s : Session) (ws : Workspace) (w : Warning) (line : Text) : Prop where
  /-- The line shows a digest and a code, which both calls show as well, or it shows neither. -/
  shown_or_refused :
    (∃ (f : Fingerprint) (fields : Text) (canonical : String), line = shownLine w f ∧
      (s.fingerprintWarning ws (placeOf w)).2 = .ok
        ("`" ++ w.file ++ ":" ++ toString w.line ++ "`" ++
          "\n- digest: `" ++ f.digest ++
          "`\n- code: `" ++ toString f.code ++ "`") ∧
      (s.explainFingerprint ws (placeOf w)).2 = .ok
        ("## Fingerprint of " ++ "`" ++ w.file ++ ":" ++ toString w.line ++ "`" ++ "\n\n" ++
          fields ++
          "| **Digest** | `" ++ f.digest ++ "` |\n" ++
          "| **Code** | `" ++ toString f.code ++ "` |\n\n" ++
          "### Canonical token string\n\n```\n" ++ canonical ++ "\n```\n")) ∨
      line = refusedLine w
  /-- The line shows that the source is refused exactly if the single call answers with an error. -/
  refused_iff : line = refusedLine w ↔ IsError (s.fingerprintWarning ws (placeOf w)).2
  /-- The line shows that the source is refused exactly if the explanation is an error. -/
  unexplained_iff : line = refusedLine w ↔ IsError (s.explainFingerprint ws (placeOf w)).2

theorem fingerprintText_placeOf (w : Warning) (f : Fingerprint) :
    fingerprintText (placeOf w) f
      = "`" ++ w.file ++ ":" ++ toString w.line ++ "`" ++
        "\n- digest: `" ++ f.digest ++
        "`\n- code: `" ++ toString f.code ++ "`" := by
  simp only [fingerprintText, mark, placeOf, Text.append_assoc]

theorem exists_explanationText_eq (x : Explanation) :
    ∃ fields : Text, explanationText x
      = "## Fingerprint of " ++ "`" ++ x.file ++ ":" ++ toString x.line ++ "`" ++ "\n\n" ++
        fields ++
        "| **Digest** | `" ++ x.fingerprint.digest ++ "` |\n" ++
        "| **Code** | `" ++ toString x.fingerprint.code ++ "` |\n\n" ++
        "### Canonical token string\n\n```\n" ++ x.canonical ++ "\n```\n" := by
  refine ⟨("| Field | Value |\n" : Text) ++ "|-------|-------|\n" ++
    "| **Strategy** | " ++ x.strategy.name ++ " |\n" ++
    "| **Window** | " ++ toString x.windowSize ++ " nodes |\n" ++
    "| **Type body ends at** | line " ++ (x.lastLine.map fun l ↦ toString l).getD "None" ++
      " |\n" ++
    "| **Constants** | " ++ constantsText x.constants ++ " |\n", ?_⟩
  unfold explanationText
  simp only [mark, Text.append_assoc]

theorem lineAgrees_of_ok (hfp : s.fingerprinter = some fp) {f : Fingerprint}
    (hf : fp.fingerprintWarning ws w = .ok f) : LineAgrees s ws w (shownLine w f) := by
  have hsingle : (s.fingerprintWarning ws (placeOf w)).2 = .ok (fingerprintText (placeOf w) f) := by
    rw [answer_fingerprintWarning hfp, hf]
    rfl
  obtain ⟨x, hx, rfl⟩ := exists_explain_askedQuery hf
  have hexplained : (s.explainFingerprint ws (placeOf w)).2 = .ok (explanationText x) := by
    rw [answer_explainFingerprint hfp, hx]
    rfl
  obtain ⟨fields, hfields⟩ := exists_explanationText_eq x
  obtain ⟨hfile, hline⟩ := place_of_explain hx
  rw [hfields, hfile, hline] at hexplained
  rw [fingerprintText_placeOf] at hsingle
  refine ⟨.inl ⟨x.fingerprint, fields, x.canonical, rfl, hsingle, hexplained⟩,
    iff_of_false (shownLine_ne_refusedLine w x.fingerprint) ?_,
    iff_of_false (shownLine_ne_refusedLine w x.fingerprint) ?_⟩
  · rw [hsingle]
    simp only [Text.append_assoc]
    exact not_isError_append (by decide) _
  · rw [hexplained]
    simp only [Text.append_assoc]
    exact not_isError_append (by decide) _

/-- A failure that has a wording is what both calls answer with. -/
theorem answers_of_error (hfp : s.fingerprinter = some fp) {e : Failure} {cause : Text}
    (he : fp.fingerprintWarning ws w = .error e) (hcause : wording? e = some cause) :
    (s.fingerprintWarning ws (placeOf w)).2 = .ok ("Error: " ++ cause) ∧
      (s.explainFingerprint ws (placeOf w)).2 = .ok ("Error: " ++ cause) := by
  rw [answer_fingerprintWarning hfp, answer_explainFingerprint hfp, he,
    explain_askedQuery_of_error he]
  have htext : failureText e = .ok ("Error: " ++ cause) := by rw [failureText, hcause]
  exact ⟨htext, htext⟩

theorem lineAgrees_of_sourceError (hfp : s.fingerprinter = some fp) {e : SourceError}
    (he : fp.fingerprintWarning ws w = .error (.read (.source e))) :
    LineAgrees s ws w (refusedLine w) := by
  obtain ⟨hsingle, hexplained⟩ := answers_of_error hfp he rfl
  exact ⟨.inr rfl, iff_of_true rfl ⟨_, hsingle⟩, iff_of_true rfl ⟨_, hexplained⟩⟩

/-- The line of a table that has what a warning gets in a batch. -/
theorem lineAgrees_fingerprintRow (hfp : s.fingerprinter = some fp)
    (hgrammar : ws.grammar.SignsUpdates) (hpath : Path.fault? (fp.pathOf w.file) = none)
    (hname : fp.Encodes ws w) :
    LineAgrees s ws w (fingerprintRow (w, (fp.fingerprintWarning ws w).toOption)) := by
  cases hw : fp.fingerprintWarning ws w with
  | ok f =>
    have hline := fingerprintRow_some w f
    exact hline ▸ lineAgrees_of_ok hfp hw
  | error e =>
    have hnone : (fp.fingerprintWarning ws w).toOption = none := by
      rw [hw]
      rfl
    obtain ⟨e', he'⟩ := (Fingerprinter.inBatch_eq_ok hgrammar hpath hname).2.1 hnone
    have hline := fingerprintRow_none w
    exact hline ▸ lineAgrees_of_sourceError hfp he'

/-! ## Verdicts -/

/-- The text of a comparison whose verdict goes by digests. -/
def verdictText (fileA : Text) (lineA : Int) (fileB : Text) (lineB : Int)
    (f g : Fingerprint) : Text :=
  "**" ++ (if f.digest = g.digest then "SAME warning" else "DIFFERENT warnings") ++ "**\n" ++
    "- " ++ "`" ++ fileA ++ ":" ++ toString lineA ++ "`" ++ " → `" ++ f.digest ++ "`" ++ "\n" ++
    "- " ++ "`" ++ fileB ++ ":" ++ toString lineB ++ "`" ++ " → `" ++ g.digest ++ "`"

theorem comparisonText_eq {a b : Query} {f g : Fingerprint} (hf : f.Coded) (hg : g.Coded) :
    comparisonText a b f g = verdictText a.file a.line b.file b.line f g := by
  unfold comparisonText verdictText
  simp only [comparedLine, mark, hf.sameWarning_eq hg, decide_eq_true_eq, Text.append_assoc]

/-- With a strategy that can be read, a comparison is made of two fingerprints, the first of which
is taken first. -/
theorem answer_compareWarnings_of_strategy (hfp : s.fingerprinter = some fp) {strategy : Text}
    {chosen : Option Text} (hchosen : strategyArgument strategy = .ok chosen) (fileA : Text)
    (lineA : Int) (fileB : Text) (lineB : Int) (rule : Text) :
    (s.compareWarnings ws fileA lineA fileB lineB rule strategy).2
      = textOf (do
          let f ← fp.fingerprint ws { file := fileA, line := lineA, rule, strategy := chosen }
          let g ← fp.fingerprint ws { file := fileB, line := lineB, rule, strategy := chosen }
          return comparisonText { file := fileA, line := lineA, rule, strategy := chosen }
            { file := fileB, line := lineB, rule, strategy := chosen } f g) id := by
  rw [compareWarnings, ensureFingerprinter_of_eq_some hfp, hchosen]
  rfl

/-- A comparison fails, or shows two fingerprints with the verdict that goes by their digests. -/
theorem answer_compareWarnings (hfp : s.fingerprinter = some fp) (fileA : Text) (lineA : Int)
    (fileB : Text) (lineB : Int) (rule strategy : Text) :
    IsFailure (s.compareWarnings ws fileA lineA fileB lineB rule strategy).2 ∨
      ∃ chosen f g, strategyArgument strategy = .ok chosen ∧
        fp.fingerprint ws { file := fileA, line := lineA, rule, strategy := chosen } = .ok f ∧
        fp.fingerprint ws { file := fileB, line := lineB, rule, strategy := chosen } = .ok g ∧
        (s.compareWarnings ws fileA lineA fileB lineB rule strategy).2
          = .ok (verdictText fileA lineA fileB lineB f g) := by
  have hfails := isFailure_failureText
  cases hchosen : strategyArgument strategy with
  | error e =>
    rw [compareWarnings, ensureFingerprinter_of_eq_some hfp, hchosen]
    exact .inl (hfails e)
  | ok chosen =>
    rw [answer_compareWarnings_of_strategy hfp hchosen]
    cases hf : fp.fingerprint ws { file := fileA, line := lineA, rule, strategy := chosen } with
    | error e => exact .inl (hfails e)
    | ok f =>
      cases hg : fp.fingerprint ws { file := fileB, line := lineB, rule, strategy := chosen } with
      | error e => exact .inl (hfails e)
      | ok g =>
        have htext := comparisonText_eq (a := { file := fileA, line := lineA })
          (b := { file := fileB, line := lineB })
          (fp.coded_of_fingerprint ws hf) (fp.coded_of_fingerprint ws hg)
        exact .inr ⟨chosen, f, g, rfl, hf, hg, congrArg Except.ok htext⟩

/-! ## Tables -/

/-- The table of a file whose warnings have names that can be encoded has a line for each of them,
and all lines agree with what calls answer. -/
theorem exists_lines (hfp : s.fingerprinter = some fp) (hgrammar : ws.grammar.SignsUpdates)
    {report : Report} (hreport : s.report = some report) {file : Text}
    (hfound : report.byFile file ≠ [])
    (hpaths : ∀ w ∈ report.byFile file, Path.fault? (fp.pathOf w.file) = none)
    (hnames : ∀ w ∈ report.byFile file, fp.Encodes ws w) :
    ∃ lines, s.fingerprintFile ws file
        = (s, .ok (Text.intercalate "\n"
          (["## Fingerprints — `" ++ file ++ "`\n",
            "| Type | Line | Digest | Code |",
            "|------|------|--------|------|"] ++ lines))) ∧
      List.Forall₂ (LineAgrees s ws) (report.byFile file) lines := by
  refine ⟨(report.byFile file).map fun w ↦
    fingerprintRow (w, (fp.fingerprintWarning ws w).toOption), ?_, ?_⟩
  · rw [answer_fingerprintFile hfp hreport hfound,
      Fingerprinter.results_batch_of_encodes hgrammar hpaths hnames]
    dsimp only
    rw [fingerprintTable, List.map_map]
    rfl
  · rw [List.forall₂_map_right_iff, List.forall₂_same]
    exact fun w hw ↦ lineAgrees_fingerprintRow hfp hgrammar (hpaths w hw) (hnames w hw)

/-- The call for a file breaks down at the first warning whose name cannot be encoded, and the calls
for that warning put the same into words. -/
theorem exists_encodeError (hfp : s.fingerprinter = some fp) (hgrammar : ws.grammar.SignsUpdates)
    {report : Report} (hreport : s.report = some report) {file : Text} {front back : List Warning}
    (hfound : report.byFile file = front ++ w :: back)
    (hpaths : ∀ v ∈ front, Path.fault? (fp.pathOf v.file) = none)
    (hnames : ∀ v ∈ front, fp.Encodes ws v) (hw : ¬ fp.Encodes ws w) :
    ∃ e : EncodeError,
      s.fingerprintFile ws file = (s, .error (.fingerprint (.encoding e))) ∧
      (s.fingerprintWarning ws (placeOf w)).2 = .ok ("Error: " ++ e.message) ∧
      (s.explainFingerprint ws (placeOf w)).2 = .ok ("Error: " ++ e.message) := by
  obtain ⟨e, he⟩ := Fingerprinter.not_encodes_iff.1 hw
  refine ⟨e, ?_, answers_of_error hfp he rfl⟩
  have hne : report.byFile file ≠ [] := by
    rw [hfound]
    exact List.append_ne_nil_of_right_ne_nil front (List.cons_ne_nil w back)
  rw [answer_fingerprintFile hfp hreport hne, hfound,
    Fingerprinter.results_batch_of_encoding hgrammar hpaths hnames he]

/-! ## Agreement -/

/-- A session that holds a report holds a fingerprinter. -/
theorem exists_fingerprinter {calls : List (Workspace × Call)} {report : Report}
    (hreport : (after calls).report = some report) :
    ∃ fp, (after calls).fingerprinter = some fp := by
  rw [after_eq] at hreport ⊢
  obtain hnil | ⟨before, load, hload⟩ := List.eq_nil_or_concat (loads calls)
  · rw [hnil] at hreport
    cases hreport
  · exact ⟨load.fingerprinter, by rw [hload]; simp⟩

/-- **The calls of a session agree.** Let a session hold a report after some calls. Asked for a file
that the report has warnings in, all of whose paths can be opened or not, it answers with a table.
The table has one line for each warning, in order, and every line agrees with what the single call
and the explanation answer for the values of its warning. If there are warnings whose names cannot
be encoded, then the call breaks down at the first of them, for which the other two answer with an
error. A comparison fails, or its verdict is that the warnings are the same exactly if the two
digests that it shows are equal. -/
theorem calls_agree {calls : List (Workspace × Call)} {report : Report}
    (hreport : (after calls).report = some report) (ws : Workspace)
    (hgrammar : ws.grammar.SignsUpdates) :
    ∃ fp, (after calls).fingerprinter = some fp ∧
      (∀ file, report.byFile file ≠ [] →
        (∀ w ∈ report.byFile file, Path.fault? (fp.pathOf w.file) = none) →
        ((∀ w ∈ report.byFile file, fp.Encodes ws w) →
          ∃ lines, (after calls).fingerprintFile ws file
              = (after calls, .ok (Text.intercalate "\n"
                (["## Fingerprints — `" ++ file ++ "`\n",
                  "| Type | Line | Digest | Code |",
                  "|------|------|--------|------|"] ++ lines))) ∧
            List.Forall₂ (LineAgrees (after calls) ws) (report.byFile file) lines) ∧
        ∀ front w back, report.byFile file = front ++ w :: back →
          (∀ v ∈ front, fp.Encodes ws v) → ¬ fp.Encodes ws w →
          ∃ e : EncodeError,
            (after calls).fingerprintFile ws file
              = (after calls, .error (.fingerprint (.encoding e))) ∧
            ((after calls).fingerprintWarning ws (placeOf w)).2 = .ok ("Error: " ++ e.message) ∧
            ((after calls).explainFingerprint ws (placeOf w)).2 = .ok ("Error: " ++ e.message)) ∧
      ∀ fileA lineA fileB lineB rule strategy,
        let compared := ((after calls).compareWarnings ws fileA lineA fileB lineB rule strategy).2
        IsFailure compared ∨
          ∃ chosen f g, strategyArgument strategy = .ok chosen ∧
            fp.fingerprint ws { file := fileA, line := lineA, rule, strategy := chosen } = .ok f ∧
            fp.fingerprint ws { file := fileB, line := lineB, rule, strategy := chosen } = .ok g ∧
            compared = .ok ("**" ++
              (if f.digest = g.digest then "SAME warning" else "DIFFERENT warnings") ++ "**\n" ++
              "- " ++ "`" ++ fileA ++ ":" ++ toString lineA ++ "`" ++ " → `" ++ f.digest ++ "`" ++
                "\n" ++
              "- " ++ "`" ++ fileB ++ ":" ++ toString lineB ++ "`" ++ " → `" ++ g.digest ++
                "`") := by
  obtain ⟨fp, hfp⟩ := exists_fingerprinter hreport
  refine ⟨fp, hfp, fun file hfound hpaths ↦ ⟨exists_lines hfp hgrammar hreport hfound hpaths, ?_⟩,
    answer_compareWarnings hfp⟩
  intro front w back heq hnames hw
  refine exists_encodeError hfp hgrammar hreport heq (fun v hv ↦ hpaths v ?_) hnames hw
  rw [heq]
  exact List.mem_append_left _ hv

/-- A report of two warnings, of which the first has an empty name. -/
def twoWarnings : ByteArray :=
  ("[\x7b\"file\":\"a/A.java\",\"line\":1,\"name\":\"\"\x7d," ++
    "\x7b\"file\":\"b/A.java\",\"line\":1,\"strategy\":\"LINE\"\x7d]").toUTF8

/-- A workspace with that report, in which the file of the second warning is missing. -/
def halfMissing : Workspace where
  files := ⟨[(["report", "work"], .file twoWarnings),
    (["A.java", "a", "work"], .file "x++;".toUTF8), (["a", "work"], .directory),
    (["work"], .directory)], ["work"]⟩
  grammar := Fingerprinter.incrementWorkspace.grammar

/-- The session after one call, for a report that is there. -/
theorem after_loadReport_usual {path root : Text} {report : Report}
    (hholds : (ws.files.holds path && ws.files.holds root) = true)
    (hload : Report.load ws.files path = .ok report) :
    after [(ws, .loadReport path root "sha1")] = ⟨some report, some (.usual root)⟩ := by
  have hcall := load?_loadReport_usual hholds
  rw [hload] at hcall
  exact answer_of_loading hcall

/-- The table for `A.java` has lines for the warnings in `a/A.java` and in `b/A.java`. -/
theorem calls_agree_halfMissing :
    let calls := [(halfMissing, Call.loadReport "report" "." "sha1")]
    let warnings : List Warning := [{ file := "a/A.java", line := 1, contextName := some "" },
      { file := "b/A.java", line := 1, strategy := some .line }]
    let file : Text := "A.java"
    (after calls).report = some ⟨warnings, some Report.bareList⟩ ∧
      halfMissing.grammar.SignsUpdates ∧
      (∀ w ∈ warnings, (Fingerprinter.usual ".").Encodes halfMissing w) ∧
      ∃ lines, (after calls).fingerprintFile halfMissing file
          = (after calls, .ok (Text.intercalate "\n"
            (["## Fingerprints — `" ++ file ++ "`\n",
              "| Type | Line | Digest | Code |",
              "|------|------|--------|------|"] ++ lines))) ∧
        List.Forall₂ (LineAgrees (after calls) halfMissing) warnings lines := by
  intro calls warnings file
  have hload : Report.load halfMissing.files "report" = .ok ⟨warnings, some Report.bareList⟩ := by
    have hpath : Path.fault? "report" = none := by decide
    have hread : halfMissing.files.read "report" = .ok twoWarnings := rfl
    rw [Report.load, hpath, hread]
    decide +kernel
  have hafter : after calls = ⟨some ⟨warnings, some Report.bareList⟩, some (.usual ".")⟩ :=
    after_loadReport_usual rfl hload
  have hreport : (after calls).report = some ⟨warnings, some Report.bareList⟩ := by rw [hafter]
  have hgrammar : halfMissing.grammar.SignsUpdates :=
    Fingerprinter.signsUpdates_incrementWorkspace
  have hfile : Report.byFile ⟨warnings, some Report.bareList⟩ file = warnings := by
    decide +kernel
  have hpaths : ∀ w ∈ warnings,
      Path.fault? ((Fingerprinter.usual ".").pathOf w.file) = none := by
    decide
  have hnames : ∀ w ∈ warnings, (Fingerprinter.usual ".").Encodes halfMissing w := by
    have hname : ∀ w ∈ warnings, w.contextName = none ∨ w.contextName = some "" := by decide
    intro w hw t _ name hsome
    obtain h | h := hname w hw
    · rw [h] at hsome
      cases hsome
    · rw [h] at hsome
      exact ⟨"", (Option.some.inj hsome).symm⟩
  obtain ⟨fp, hfp, hfiles, -⟩ := calls_agree hreport halfMissing hgrammar
  have husual : fp = .usual "." := by
    rw [hafter] at hfp
    exact (Option.some.inj hfp).symm
  rw [husual] at hfiles
  have hanswer := hfiles file
  rw [hfile] at hanswer
  obtain ⟨htable, -⟩ := hanswer (List.cons_ne_nil _ _) hpaths
  exact ⟨hreport, hgrammar, hnames, htable hnames⟩

/-- A workspace with a file and a report of one warning in it, whose name is half of a surrogate
pair. -/
def halvedName : Workspace where
  files := ⟨[(["report", "work"],
      .file "[\x7b\"file\":\"A.java\",\"line\":1,\"name\":\"\\ud800\"\x7d]".toUTF8),
    (["A.java", "work"], .file "x++;".toUTF8), (["work"], .directory)], ["work"]⟩
  grammar := Fingerprinter.incrementWorkspace.grammar

/-- The call for the file of the warning breaks down, where the calls for the warning itself answer
with the text of an error. -/
theorem breakdown_of_halvedName :
    let calls := [(halvedName, Call.loadReport "report" "." "sha1")]
    let w : Warning := { file := "A.java", line := 1, contextName := some ⟨[.half 0]⟩ }
    (after calls).report = some ⟨[w], some Report.bareList⟩ ∧
      halvedName.grammar.SignsUpdates ∧ Report.byFile ⟨[w], some Report.bareList⟩ "A.java" = [w] ∧
      Path.fault? ((Fingerprinter.usual ".").pathOf "A.java") = none ∧
      ∃ e : EncodeError,
        (after calls).fingerprintFile halvedName "A.java"
          = (after calls, .error (.fingerprint (.encoding e))) ∧
        ((after calls).fingerprintWarning halvedName (placeOf w)).2 = .ok ("Error: " ++ e.message) ∧
        ((after calls).explainFingerprint halvedName (placeOf w)).2
          = .ok ("Error: " ++ e.message) := by
  intro calls w
  have hload : Report.load halvedName.files "report" = .ok ⟨[w], some Report.bareList⟩ := by
    have hpath : Path.fault? "report" = none := by decide
    have hread : halvedName.files.read "report" = .ok
        "[\x7b\"file\":\"A.java\",\"line\":1,\"name\":\"\\ud800\"\x7d]".toUTF8 := rfl
    rw [Report.load, hpath, hread]
    decide +kernel
  have hafter : after calls = ⟨some ⟨[w], some Report.bareList⟩, some (.usual ".")⟩ :=
    after_loadReport_usual rfl hload
  have hreport : (after calls).report = some ⟨[w], some Report.bareList⟩ := by rw [hafter]
  have hfp : (after calls).fingerprinter = some (.usual ".") := by rw [hafter]
  have hfile : Report.byFile ⟨[w], some Report.bareList⟩ "A.java" = [w] := by decide +kernel
  have hpath : Path.fault? ((Fingerprinter.usual ".").pathOf "A.java") = none := by decide
  have hname : ¬ (Fingerprinter.usual ".").Encodes halvedName w := by
    intro h
    obtain ⟨t, htree⟩ := Fingerprinter.exists_tree_increment
    have ht : (Fingerprinter.usual ".").tree halvedName "A.java" = .ok t :=
      htree _ _ _ hpath rfl
    obtain ⟨text, htext⟩ := h t ht ⟨[.half 0]⟩ rfl
    cases Text.encode_eq_ok_iff.2 htext
  have hgrammar : halvedName.grammar.SignsUpdates := Fingerprinter.signsUpdates_incrementWorkspace
  have hsplit : Report.byFile ⟨[w], some Report.bareList⟩ "A.java" = [] ++ w :: [] := hfile
  exact ⟨hreport, hgrammar, hfile, hpath, exists_encodeError hfp hgrammar hreport hsplit
    (List.forall_mem_nil _) (List.forall_mem_nil _) hname⟩

end Session

end LintMark

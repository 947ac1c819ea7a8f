import LintMark.Fingerprinter.Batch

/-!
# Requests

What a fingerprinter can be asked, and what it replies.
-/

namespace LintMark.Fingerprinter

/-- What a fingerprinter is asked. -/
inductive Request where
  /-- The fingerprint of a line. -/
  | fingerprint (q : Query)
  /-- How the fingerprint of a line comes about. -/
  | explain (q : Query)
  /-- The tree of a file. -/
  | tree (file : Text)
  /-- The fingerprint of a warning. -/
  | warning (w : Warning)
  /-- The fingerprints of many warnings. -/
  | batch (warnings : List Warning)
  /-- The fingerprints of the warnings of a report. -/
  | report (path : Text)

/-- What a fingerprinter replies. -/
inductive Reply where
  /-- A fingerprint. -/
  | fingerprint (f : Fingerprint)
  /-- How a fingerprint comes about. -/
  | explanation (e : Explanation)
  /-- A tree. -/
  | tree (t : Tree)
  /-- The fingerprints of a batch. -/
  | batch (results : List (Warning × Option Fingerprint))

/-- The reply to a request. -/
def reply (fp : Fingerprinter) (ws : Workspace) : Request → Except Breakdown Reply
  | .fingerprint q => ((fp.fingerprint ws q).map .fingerprint).mapError .fingerprint
  | .explain q => ((fp.explain ws q).map .explanation).mapError .fingerprint
  | .tree file => ((fp.tree ws file).map .tree).mapError (.fingerprint ∘ .read)
  | .warning w => ((fp.fingerprintWarning ws w).map .fingerprint).mapError .fingerprint
  | .batch warnings => ((fp.batch ws warnings).results.map .batch).mapError .fingerprint
  | .report path => do
    let b ← (fp.batchReport ws path).mapError .load
    (b.results.map .batch).mapError .fingerprint

end LintMark.Fingerprinter

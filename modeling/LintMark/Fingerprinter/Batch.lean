import LintMark.Fingerprinter.Basic
import LintMark.Report.Basic

/-!
# Batches

The fingerprints of many warnings, for which each file is parsed once. A file whose source is
refused is remembered as well, and its warnings get no fingerprint. Any other failure ends the
batch.

A batch gets its trees from a function that parses a file, and has no other way to one. What it is
run with keeps a log of the files that are parsed, which is there even if the batch fails.
-/

namespace LintMark

/-- Why a report has no fingerprints. -/
inductive Breakdown where
  /-- The report cannot be loaded. -/
  | load (e : LoadError)
  /-- A fingerprint fails, and not because of a source. -/
  | fingerprint (e : Failure)
deriving DecidableEq

/-- The trees of the files parsed so far, the last one first. A refused source has no tree. -/
abbrev TreeCache := List (Text × Option Tree)

namespace Fingerprinter

section

variable {m : Type → Type} [Monad m] (parse : Text → m (Except ReadError Tree))

/-- The tree of a file, from the cache or else parsed, and the cache that holds it. -/
def cachedTree (cache : TreeCache) (file : Text) : ExceptT Failure m (Option Tree × TreeCache) :=
  match cache.lookup file with
  | some t => return (t, cache)
  | none => do
    match ← parse file with
    | .ok t => return (some t, (file, some t) :: cache)
    | .error (.source _) => return (none, (file, none) :: cache)
    | .error e => throw (.read e)

/-- The fingerprint of a warning on the tree of its file, if there is a tree. -/
def fingerprintOn? (fp : Fingerprinter) (w : Warning) :
    Option Tree → Except Failure (Option Fingerprint)
  | some t => (fp.fingerprintOn t w).map some
  | none => .ok none

/-- The fingerprints of warnings, where `parse` parses a file. -/
def batchFrom (fp : Fingerprinter) (cache : TreeCache) :
    List Warning → ExceptT Failure m (List (Warning × Option Fingerprint))
  | [] => return []
  | w :: rest => do
    let (t, cache) ← cachedTree parse cache w.file
    let f ← ExceptT.mk (pure (fp.fingerprintOn? w t))
    let results ← fp.batchFrom cache rest
    return (w, f) :: results

end

/-- Parses a file and enters it into the log. -/
def loggedTree (fp : Fingerprinter) (ws : Workspace) (file : Text) :
    StateM (List Text) (Except ReadError Tree) := do
  modify (· ++ [file])
  return fp.tree ws file

/-- What a batch gives. -/
structure Batch where
  /-- The files that were parsed, in order, each as often as it was parsed. -/
  parsed : List Text
  /-- The warnings in their order, each with its fingerprint; or what ended the batch. -/
  results : Except Failure (List (Warning × Option Fingerprint))

/-- The fingerprints of many warnings. -/
def batch (fp : Fingerprinter) (ws : Workspace) (warnings : List Warning) : Batch :=
  let (results, parsed) := (fp.batchFrom (fp.loggedTree ws) [] warnings).run.run []
  ⟨parsed, results⟩

/-- The fingerprints of the warnings of the report in a file. -/
def batchReport (fp : Fingerprinter) (ws : Workspace) (path : Text) : Except LoadError Batch :=
  (Report.load ws.files path).map fun report ↦ fp.batch ws report.warnings

end Fingerprinter

end LintMark

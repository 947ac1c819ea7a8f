import LintMark.Report.Basic

/-!
# Queries on a report

The warnings of a file are found by the closest way in which paths match: equal, equal up to case,
one the end of the other, or equal in the last component up to case. Only the warnings that match
in the closest way count.
-/

namespace LintMark

/-- How closely a path matches a query, the closest first. -/
inductive Tier where
  /-- The paths are equal. -/
  | exact
  /-- The paths are equal up to case. -/
  | caseless
  /-- One path is the end of the other, from a slash on. -/
  | suffix
  /-- The last components are equal up to case. -/
  | lastComponent
deriving DecidableEq, Repr

namespace Tier

/-- All tiers, the closest first. -/
def all : List Tier := [exact, caseless, suffix, lastComponent]

/-- How closely the path of a warning matches a query. Neither ends in a slash. -/
def of? (query path : Text) : Option Tier :=
  if path = query then some exact
  else if path.toLower = query.toLower then some caseless
  else if path.endsWith ("/" ++ query) ∨ query.endsWith ("/" ++ path) then some suffix
  else if Path.lastComponent path.toLower = (Path.lastComponent query).toLower then
    some lastComponent
  else none

end Tier

namespace Report

/-- The warnings of a file that match the query in a tier, with their places in the report. -/
def inTier (report : Report) (query : Text) (tier : Tier) : List (Warning × Nat) :=
  report.warnings.zipIdx.filter fun (w, _) ↦ Tier.of? query (Path.trimEnd w.file) = some tier

/-- The warnings that match a file most closely, with their places in the report. -/
def placedByFile (report : Report) (file : Text) : List (Warning × Nat) :=
  let query := Path.trimEnd (Path.withSlashes file)
  ((Tier.all.map (report.inTier query)).find? (!·.isEmpty)).getD []

/-- The warnings that match a file most closely. -/
def byFile (report : Report) (file : Text) : List Warning :=
  (report.placedByFile file).map Prod.fst

/-- The warnings of a rule, with their places in the report. -/
def placedByRule (report : Report) (rule : Text) : List (Warning × Nat) :=
  report.warnings.zipIdx.filter fun (w, _) ↦ w.rule = rule

/-- Counts one more of a name. -/
def countOne (counts : List (Text × Nat)) (name : Text) : List (Text × Nat) :=
  match counts with
  | [] => [(name, 1)]
  | (n, k) :: rest => if n = name then (n, k + 1) :: rest else (n, k) :: countOne rest name

/-- How often each name occurs, in the order of first occurrence. -/
def tally (names : List Text) : List (Text × Nat) := names.foldl countOne []

/-- The number of warnings of each file. -/
def fileCounts (report : Report) : List (Text × Nat) := tally (report.warnings.map (·.file))

/-- The number of warnings of each rule. -/
def ruleCounts (report : Report) : List (Text × Nat) := tally (report.warnings.map (·.rule))

end Report

end LintMark

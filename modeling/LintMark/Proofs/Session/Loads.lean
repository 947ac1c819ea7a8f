import LintMark.Session.Basic
import Mathlib.Data.List.Induction

/-!
# What a session holds

The calls of a session read and write two things, the report and the fingerprinter. This module
says what they are after any calls, in any workspaces: `after_eq` gives the session in closed form,
from the loads among the calls.

## Loads

A call *loads* if it asks for a report in a workspace that has both paths, under a digest algorithm
that can be used. It then has made a fingerprinter, and either has a report or not. A call that
does not load changes nothing, except that a call in need of a fingerprinter falls back on a
default one where there is none.

## Where the two part

The fingerprinter is replaced before the report is read. A load without a report therefore leaves
the report of an earlier load beside its own fingerprinter, and fingerprints are then taken in a
workspace that the warnings are not about. As long as the last load has a report, the two belong
together.
-/

namespace LintMark

/-- What a call that loads has in hand. -/
structure Load where
  /-- The fingerprinter that it has made. -/
  fingerprinter : Fingerprinter
  /-- The report, or why there is none. -/
  report : Except LoadError Report

/-- The load that a call sets off, if it sets off one. -/
def Call.load? (ws : Workspace) : Call → Option Load
  | .loadReport path root algorithm =>
    if ws.files.holds path && ws.files.holds root then
      match Fingerprinter.make ws.platform root algorithm true with
      | .ok fp => some ⟨fp, Report.load ws.files path⟩
      | .error _ => none
    else none
  | _ => none

/-- The fingerprinter that a call falls back on where there is none. -/
def Call.fallback? (ws : Workspace) : Call → Option Fingerprinter
  | .fingerprintWarning _ | .explainFingerprint _ | .compareWarnings .. =>
    some (Session.defaultFingerprinter ws)
  | .loadReport .. | .listWarnings _ | .fingerprintFile _ => none

namespace Session

variable {s : Session} {ws : Workspace} {call : Call} {path root algorithm : Text} {load : Load}

/-! ## One call -/

/-- The text of an error that a call for a report answers with starts with `Error`. -/
theorem ofString_error_append (cause : String) (t : Text) :
    ("Error" ++ cause : String) ++ t = "Error" ++ (cause ++ t) := by
  rw [Text.ofString_append, Text.append_assoc]

/-- A call for a report that sets off no load answers with an error and changes nothing. -/
theorem loadReport_of_not_loading
    (h : (Call.loadReport path root algorithm).load? ws = none) :
    ∃ text : Text, s.loadReport ws path root algorithm = (s, .ok ("Error" ++ text)) := by
  rw [Call.load?] at h
  rw [loadReport]
  cases hpath : ws.files.holds path with
  | false =>
    refine ⟨": Report file not found at " ++ path, ?_⟩
    rw [← ofString_error_append]
    rfl
  | true =>
    cases hroot : ws.files.holds root with
    | false =>
      refine ⟨": Workspace root not found at " ++ root, ?_⟩
      rw [← ofString_error_append]
      rfl
    | true =>
      rw [hpath, hroot] at h
      cases hmake : Fingerprinter.make ws.platform root algorithm true with
      | ok fp => rw [hmake] at h; cases h
      | error e =>
        refine ⟨" loading report: " ++ e.message, ?_⟩
        rw [← ofString_error_append]
        rfl

/-- With the usual algorithm, a call for a report loads where both paths are there. -/
theorem load?_loadReport_usual (hholds : (ws.files.holds path && ws.files.holds root) = true) :
    (Call.loadReport path root "sha1").load? ws
      = some ⟨.usual root, Report.load ws.files path⟩ := by
  rw [Call.load?, if_pos hholds]
  rfl

/-- A load gives its report and its fingerprinter, or breaks down with only its fingerprinter. -/
theorem loadReport_of_loading
    (h : (Call.loadReport path root algorithm).load? ws = some load) :
    s.loadReport ws path root algorithm =
      match load.report with
      | .ok report => (⟨some report, some load.fingerprinter⟩,
        .ok (loadedText report load.fingerprinter))
      | .error e => (⟨s.report, some load.fingerprinter⟩, .error (.load e)) := by
  rw [Call.load?] at h
  split at h
  · next hholds =>
    obtain ⟨hpath, hroot⟩ := Bool.and_eq_true_iff.1 hholds
    split at h
    · next fp hmake =>
      cases h
      rw [loadReport, hpath, hroot, hmake]
      cases hreport : Report.load ws.files path with
      | ok report => simp
      | error e => simp
    · cases h
  · cases h

/-- A load sets the fingerprinter of the session, and its report where there is one. -/
theorem answer_of_loading (h : call.load? ws = some load) :
    (s.answer ws call).1 = ⟨load.report.toOption <|> s.report, some load.fingerprinter⟩ := by
  cases call with
  | loadReport path root algorithm =>
    rw [answer, loadReport_of_loading h]
    cases load.report with
    | ok report => rfl
    | error e => rfl
  | _ => cases h

/-- A fingerprinter that is asked for is there afterwards. -/
theorem ensureFingerprinter_snd :
    (s.ensureFingerprinter ws).2
      = ⟨s.report, s.fingerprinter <|> some (defaultFingerprinter ws)⟩ := by
  obtain ⟨report, _ | fp⟩ := s
  · rfl
  · rfl

theorem listWarnings_fst (file : Text) : (s.listWarnings file).1 = s := by
  rw [listWarnings]
  cases s.report with
  | none => rfl
  | some report => cases h : (report.byFile file).isEmpty <;> simp [h]

theorem fingerprintFile_fst (file : Text) : (s.fingerprintFile ws file).1 = s := by
  rw [fingerprintFile]
  split
  · next report fp _ _ =>
    cases h : (report.byFile file).isEmpty with
    | true => simp [h]
    | false => cases hbatch : (fp.batch ws (report.byFile file)).results <;> simp [h, hbatch]
  · rfl

/-- A call that does not load keeps the report. It makes a fingerprinter where it needs one and
there is none. -/
theorem answer_of_not_loading (h : call.load? ws = none) :
    (s.answer ws call).1 = ⟨s.report, s.fingerprinter <|> call.fallback? ws⟩ := by
  have hkept : s = ⟨s.report, s.fingerprinter <|> none⟩ := by simp
  cases call with
  | loadReport path root algorithm =>
    obtain ⟨text, htext⟩ := loadReport_of_not_loading (s := s) h
    rw [answer, htext]
    exact hkept
  | listWarnings file => exact (listWarnings_fst file).trans hkept
  | fingerprintFile file => exact (fingerprintFile_fst file).trans hkept
  | fingerprintWarning place => exact ensureFingerprinter_snd
  | explainFingerprint place => exact ensureFingerprinter_snd
  | compareWarnings fileA lineA fileB lineB rule strategy => exact ensureFingerprinter_snd

/-! ## Any calls -/

/-- The session after calls, each in the workspace as it is then. -/
def after (calls : List (Workspace × Call)) : Session :=
  calls.foldl (fun s (ws, call) ↦ (s.answer ws call).1) initial

/-- The loads among calls. -/
def loads (calls : List (Workspace × Call)) : List Load :=
  calls.filterMap fun (ws, call) ↦ call.load? ws

/-- The reports of loads. -/
def reports (loads : List Load) : List Report := loads.filterMap fun l ↦ l.report.toOption

/-- The fallback of the first call that has one. -/
def firstFallback? (calls : List (Workspace × Call)) : Option Fingerprinter :=
  calls.findSome? fun (ws, call) ↦ call.fallback? ws

/-- The session after calls: it holds the last report of a load, and the fingerprinter of the last
load, or the first fallback where there was no load. -/
theorem after_eq (calls : List (Workspace × Call)) :
    after calls = ⟨(reports (loads calls)).getLast?,
      (loads calls).getLast?.map Load.fingerprinter <|> firstFallback? calls⟩ := by
  -- The last call acts on the session after the calls before it.
  induction calls using List.reverseRecOn with
  | nil => rfl
  | append_singleton calls c ih =>
    obtain ⟨ws, call⟩ := c
    have hafter : after (calls ++ [(ws, call)]) = ((after calls).answer ws call).1 := by
      rw [after, List.foldl_append]
      rfl
    have hloads : loads (calls ++ [(ws, call)]) = loads calls ++ (call.load? ws).toList := by
      rw [loads, List.filterMap_append]
      cases h : call.load? ws <;> simp [loads, h]
    rw [hafter, hloads]
    cases h : call.load? ws with
    | some load =>
      rw [answer_of_loading h, ih]
      cases hreport : load.report <;> simp [reports, hreport, Except.toOption]
    | none =>
      rw [answer_of_not_loading h, ih]
      simp [firstFallback?, List.findSome?_append, Option.orElse_eq_or, Option.or_assoc]

/-- The report and the fingerprinter that a session holds after calls come from one load, as long
as the last load has a report. -/
theorem after_of_getLast? {calls : List (Workspace × Call)}
    (hlast : ∀ load ∈ (loads calls).getLast?, ∃ report, load.report = .ok report) :
    ∀ report, (after calls).report = some report →
      ∃ load ∈ loads calls, load.report = .ok report ∧
        (after calls).fingerprinter = some load.fingerprinter := by
  intro report hreport
  rw [after_eq] at hreport ⊢
  obtain hnil | ⟨before, load, hload⟩ := List.eq_nil_or_concat (loads calls)
  · rw [hnil] at hreport
    cases hreport
  · rw [hload] at hreport hlast ⊢
    obtain ⟨last, hok⟩ := hlast load (by simp)
    have hlast : last = report := by simpa [reports, hok, Except.toOption] using hreport
    exact ⟨load, by simp, hlast ▸ hok, by simp⟩

/-- **What calls leave behind.** After any calls a session holds the last report of a load and the
fingerprinter of the last load, or a default one. The two come from one load as long as the last
load has a report. The next call for a report succeeds and sets both, or answers with an error and
changes neither, or breaks down and sets the fingerprinter alone. -/
theorem holds_after (calls : List (Workspace × Call)) :
    after calls = ⟨(reports (loads calls)).getLast?,
      (loads calls).getLast?.map Load.fingerprinter <|> firstFallback? calls⟩ ∧
    ((∀ load ∈ (loads calls).getLast?, ∃ report, load.report = .ok report) →
      ∀ report, (after calls).report = some report →
        ∃ load ∈ loads calls, load.report = .ok report ∧
          (after calls).fingerprinter = some load.fingerprinter) ∧
    ∀ ws path root algorithm,
      let next := (after calls).loadReport ws path root algorithm
      (∃ report fp, next = (⟨some report, some fp⟩, .ok (loadedText report fp))) ∨
        (∃ text : Text, next = (after calls, .ok ("Error" ++ text))) ∨
        ∃ fp e, next = (⟨(after calls).report, some fp⟩, .error (.load e)) := by
  refine ⟨after_eq calls, after_of_getLast?, fun ws path root algorithm ↦ ?_⟩
  cases hload : (Call.loadReport path root algorithm).load? ws with
  | none => exact .inr (.inl (loadReport_of_not_loading hload))
  | some load =>
    have hnext := loadReport_of_loading (s := after calls) hload
    cases hreport : load.report with
    | ok report =>
      rw [hreport] at hnext
      exact .inl ⟨report, load.fingerprinter, hnext⟩
    | error e =>
      rw [hreport] at hnext
      exact .inr (.inr ⟨load.fingerprinter, e, hnext⟩)

/-- A workspace with two directories, a report without warnings, and one with an infinite line. -/
def twoReports : Workspace where
  files := ⟨[(["good", "work"], .file "[]".toUTF8),
    (["bad", "work"], .file "[\x7b\"file\":1,\"line\":Infinity\x7d]".toUTF8),
    (["a", "work"], .directory), (["b", "work"], .directory), (["work"], .directory)], ["work"]⟩
  grammar bytes := ⟨.ofBytes bytes, default, false⟩

/-- Loads a report for one directory, and then fails to load one for the other. -/
def twoLoads : List (Workspace × Call) :=
  [(twoReports, .loadReport "good" "a" "sha1"), (twoReports, .loadReport "bad" "b" "sha1")]

/-- After a load that breaks down, the session holds the report of one load and the fingerprinter
of another. -/
theorem mixed_after_infiniteLine :
    ∃ calls report, (after calls).report = some report ∧
      ¬ ∃ load ∈ loads calls, load.report = .ok report ∧
        (after calls).fingerprinter = some load.fingerprinter := by
  have hgood : Report.load twoReports.files "good" = .ok ⟨[], some Report.bareList⟩ := by
    have hpath : Path.fault? "good" = none := by decide
    have hread : twoReports.files.read "good" = .ok "[]".toUTF8 := rfl
    rw [Report.load, hpath, hread]
    decide +kernel
  have hbad : Report.load twoReports.files "bad" = .error .infiniteLine := by
    have hpath : Path.fault? "bad" = none := by decide
    have hread : twoReports.files.read "bad"
        = .ok "[\x7b\"file\":1,\"line\":Infinity\x7d]".toUTF8 := rfl
    rw [Report.load, hpath, hread]
    decide +kernel
  have hfirst : (Call.loadReport "good" "a" "sha1").load? twoReports
      = some ⟨.usual "a", .ok ⟨[], some Report.bareList⟩⟩ := hgood ▸ load?_loadReport_usual rfl
  have hsecond : (Call.loadReport "bad" "b" "sha1").load? twoReports
      = some ⟨.usual "b", .error .infiniteLine⟩ := hbad ▸ load?_loadReport_usual rfl
  have hloads : loads twoLoads = [⟨.usual "a", .ok ⟨[], some Report.bareList⟩⟩,
      ⟨.usual "b", .error .infiniteLine⟩] := by
    simp only [loads, twoLoads, List.filterMap_cons, hfirst, hsecond, List.filterMap_nil]
  refine ⟨twoLoads, ⟨[], some Report.bareList⟩, ?_, ?_⟩
  · rw [after_eq, hloads]
    rfl
  · rw [after_eq, hloads]
    rintro ⟨load, hload, hreport, hfp⟩
    obtain rfl | rfl : load = _ ∨ load = _ := by simpa using hload
    · exact absurd (congrArg (Option.map Fingerprinter.root) hfp) (by decide)
    · cases hreport

end Session

end LintMark

import LintMark.Proofs.Json.Reader
import LintMark.Report.Basic
import Mathlib.Data.List.Basic

/-!
# What keeps a report from being loaded

A report is loaded unless one of three things stands in the way (`load_or_obstacle`): a path that
cannot be handed over for opening, an integer of too many digits where its document has a value, or
an entry with an infinite line. Everything else that can be wrong with a file gives a report without
warnings, and everything else that can be wrong with an entry leaves out that entry alone.

## One entry against the others

The entries are gone through in order, and a fault of one says nothing about the others. An infinite
line is the exception: it takes all entries with it, whether they stand before or behind its own
(`warningsOf_of_hasInfiniteLine`, `unloadable_infiniteFirst`).
-/

namespace LintMark

namespace Warning

/-! ## Infinite lines -/

/-- The entry is an object that names a file and has an infinite line. -/
def HasInfiniteLine (entry : Json) : Prop :=
  (∃ members, entry = .obj members) ∧ (fileValue entry).isSome ∧
    ∃ negative, lineValue entry = .float (.infinite negative)

theorem toInt_eq_infinite_iff {value : Json} :
    value.toInt = .error .infinite ↔ ∃ negative, value = .float (.infinite negative) := by
  constructor
  · intro h
    simp only [Json.toInt] at h
    split at h
    · cases h
    · cases h
    · cases h
    · next negative => exact ⟨negative, rfl⟩
    · split at h <;> cases h
    · cases h
    · cases h
    · cases h
    · cases h
  · rintro ⟨negative, rfl⟩
    rfl

theorem lineOf_eq_infiniteLine_iff {entry : Json} :
    lineOf entry = .error .infiniteLine ↔
      ∃ negative, lineValue entry = .float (.infinite negative) := by
  rw [← toInt_eq_infinite_iff, lineOf]
  cases (lineValue entry).toInt with
  | ok line => exact iff_of_false (fun h ↦ nomatch h) fun h ↦ nomatch h
  | error e =>
    cases e with
    | infinite => exact iff_of_true rfl rfl
    | notNumeric => exact iff_of_false (fun h ↦ nomatch h) fun h ↦ nomatch h

theorem strategyOf_ne_infiniteLine (entry : Json) : strategyOf entry ≠ .error .infiniteLine := by
  rw [strategyOf]
  split
  · exact fun h ↦ nomatch h
  · split <;> exact fun h ↦ nomatch h

theorem ofObject_eq_infiniteLine_iff {entry : Json} :
    ofObject entry = .error .infiniteLine ↔
      (fileValue entry).isSome ∧ lineOf entry = .error .infiniteLine := by
  rw [ofObject]
  cases fileValue entry with
  | none => exact iff_of_false (fun h ↦ nomatch h) fun h ↦ nomatch h.1
  | some file =>
    cases lineOf entry with
    | error e =>
      constructor
      · intro h
        cases h
        exact ⟨rfl, rfl⟩
      · rintro ⟨-, h⟩
        cases h
        rfl
    | ok line =>
      refine iff_of_false (fun h ↦ ?_) fun h ↦ nomatch h.2
      cases hstrategy : strategyOf entry with
      | error e =>
        rw [hstrategy] at h
        cases h
        exact strategyOf_ne_infiniteLine entry hstrategy
      | ok strategy =>
        rw [hstrategy] at h
        cases h

theorem ofEntry_eq_infiniteLine_iff {entry : Json} :
    ofEntry entry = .error .infiniteLine ↔ HasInfiniteLine entry := by
  rw [HasInfiniteLine, ← lineOf_eq_infiniteLine_iff, ← ofObject_eq_infiniteLine_iff]
  cases entry with
  | obj members => exact (and_iff_right ⟨members, rfl⟩).symm
  | _ => exact iff_of_false (fun h ↦ nomatch h) fun h ↦ nomatch h.1

end Warning

namespace Report

open Warning (HasInfiniteLine ofEntry ofEntry_eq_infiniteLine_iff)

/-! ## Lists of entries -/

/-- The warnings of the entries that give one. -/
def soundWarnings (entries : List Json) : List Warning :=
  entries.filterMap fun entry ↦ (ofEntry entry).toOption

theorem warningsOf_eq {entries : List Json} (h : ∀ entry ∈ entries, ¬ HasInfiniteLine entry) :
    warningsOf entries = .ok (soundWarnings entries) := by
  induction entries with
  | nil => rfl
  | cons entry entries ih =>
    have hentry : ofEntry entry ≠ .error .infiniteLine := fun heq ↦
      h entry List.mem_cons_self (ofEntry_eq_infiniteLine_iff.1 heq)
    have hrest := ih fun other hother ↦ h other (List.mem_cons_of_mem entry hother)
    rw [warningsOf]
    split
    · next w hw =>
      rw [hrest, soundWarnings, soundWarnings, List.filterMap_cons, hw]
      rfl
    · next hinfinite => exact absurd hinfinite hentry
    · next e he =>
      rw [hrest, soundWarnings, soundWarnings, List.filterMap_cons, he]
      rfl

theorem warningsOf_of_hasInfiniteLine {entries : List Json} {entry : Json} (hmem : entry ∈ entries)
    (h : HasInfiniteLine entry) : warningsOf entries = .error .infiniteLine := by
  induction entries with
  | nil => cases hmem
  | cons other entries ih =>
    rw [warningsOf]
    rcases List.mem_cons.1 hmem with rfl | hmem
    · rw [ofEntry_eq_infiniteLine_iff.2 h]
    · have hrest := ih hmem
      split
      · rw [hrest]
        rfl
      · rfl
      · exact hrest

/-! ## What stands in a file -/

/-- The text in a file, if the file can be opened and is UTF-8. -/
def textIn? (fs : Files) (path : Text) : Option String :=
  match fs.read path with
  | .ok bytes => if (Utf8.fault? bytes).isNone then some (Utf8.decode bytes) else none
  | .error _ => none

/-- The entries that the document in a file lists, and the name of the place where they stand. -/
def entriesIn? (fs : Files) (path : Text) : Option (Text × List Json) :=
  (textIn? fs path).bind fun text ↦ (Json.read text).toOption.bind locate

/-- What stands in the way of loading a report. -/
def Obstacle (fs : Files) (path : Text) : LoadError → Prop
  | .path e => Path.fault? path = some e
  | .longInteger => Path.fault? path = none ∧
      ∃ text ∈ textIn? fs path, Json.MeetsLongInteger text
  | .infiniteLine => Path.fault? path = none ∧
      ∃ found ∈ entriesIn? fs path, ∃ entry ∈ found.2, HasInfiniteLine entry

/-- The report that a file gives where nothing stands in the way of loading it. -/
def gathered (fs : Files) (path : Text) : Report :=
  (entriesIn? fs path).elim empty fun (format, entries) ↦ ⟨soundWarnings entries, some format⟩

/-! ## Loading -/

variable {fs : Files} {path : Text}

/-- The report of entries that have been found. -/
def ofEntries : Text × List Json → Except LoadError Report
  | (format, entries) => (warningsOf entries).map fun warnings ↦ ⟨warnings, some format⟩

theorem ofDocument_eq (document : Json) :
    ofDocument document = (locate document).elim (.ok empty) ofEntries := by
  rw [ofDocument]
  cases locate document <;> rfl

/-- Behind a path that can be handed over, loading looks at the text in the file alone. -/
theorem load_eq_elim_textIn? (hpath : Path.fault? path = none) :
    load fs path = (textIn? fs path).elim (.ok empty) fun text ↦
      match Json.read text with
      | .ok document => ofDocument document
      | .error .malformed => .ok empty
      | .error .longInteger => .error .longInteger := by
  rw [load, hpath, textIn?]
  dsimp only
  cases fs.read path with
  | error e => rfl
  | ok bytes =>
    dsimp only
    rw [ofBytes]
    cases Utf8.fault? bytes <;> rfl

theorem load_of_meetsLongInteger (hpath : Path.fault? path = none) {text : String}
    (htext : textIn? fs path = some text) (hlong : Json.MeetsLongInteger text) :
    load fs path = .error .longInteger := by
  rw [load_eq_elim_textIn? hpath, htext, Option.elim_some, Json.read_eq_longInteger_iff.2 hlong]

/-- Where no integer has too many digits, loading looks at the entries alone. -/
theorem load_eq_elim_entriesIn? (hpath : Path.fault? path = none)
    (hlong : ¬ ∃ text ∈ textIn? fs path, Json.MeetsLongInteger text) :
    load fs path = (entriesIn? fs path).elim (.ok empty) ofEntries := by
  rw [load_eq_elim_textIn? hpath, entriesIn?]
  cases htext : textIn? fs path with
  | none => rfl
  | some text =>
    rw [Option.elim_some, Option.bind_some]
    cases hread : Json.read text with
    | ok document => exact ofDocument_eq document
    | error e =>
      cases e with
      | malformed => rfl
      | longInteger => exact absurd ⟨text, htext, Json.read_eq_longInteger_iff.1 hread⟩ hlong

/-- **A report is loaded unless something stands in the way.** Loading fails with the fault of the
path, of an integer of too many digits in the document or of an entry with an infinite line, and
only where there is that fault. In all other cases it gives the warnings of the
entries that give one, in their order, and no warnings where no entries can be found. -/
theorem load_or_obstacle (fs : Files) (path : Text) :
    (∃ e, Obstacle fs path e ∧ load fs path = .error e) ∨
      (∀ e, ¬ Obstacle fs path e) ∧ load fs path = .ok (gathered fs path) := by
  -- The path is looked at first, then the text, and then the entries: one obstacle hides the next.
  cases hpath : Path.fault? path with
  | some e =>
    refine .inl ⟨.path e, hpath, ?_⟩
    rw [load, hpath]
  | none =>
    by_cases hlong : ∃ text ∈ textIn? fs path, Json.MeetsLongInteger text
    · obtain ⟨text, htext, hmeets⟩ := hlong
      exact .inl ⟨.longInteger, ⟨hpath, text, htext, hmeets⟩,
        load_of_meetsLongInteger hpath htext hmeets⟩
    have hload := load_eq_elim_entriesIn? hpath hlong
    by_cases hinfinite : ∃ found ∈ entriesIn? fs path, ∃ entry ∈ found.2, HasInfiniteLine entry
    · refine .inl ⟨.infiniteLine, ⟨hpath, hinfinite⟩, ?_⟩
      obtain ⟨⟨format, entries⟩, hfound, entry, hentry, hline⟩ := hinfinite
      rw [hload, hfound, Option.elim_some, ofEntries, warningsOf_of_hasInfiniteLine hentry hline]
      rfl
    · refine .inr ⟨fun e he ↦ ?_, ?_⟩
      · cases e with
        | path e => rw [Obstacle, hpath] at he; cases he
        | longInteger => exact hlong he.2
        | infiniteLine => exact hinfinite he.2
      · rw [hload, gathered]
        cases hfound : entriesIn? fs path with
        | none => rfl
        | some found =>
          have hsound : warningsOf found.2 = .ok (soundWarnings found.2) :=
            warningsOf_eq fun entry hentry hline ↦ hinfinite ⟨found, hfound, entry, hentry, hline⟩
          rw [Option.elim_some, Option.elim_some, ofEntries, hsound]
          rfl

/-- A report of two entries, of which the first has an infinite line. -/
def infiniteFirst : ByteArray :=
  ("[\x7b\"file\":\"A.java\",\"line\":1e999\x7d," ++
    "\x7b\"file\":\"B.java\",\"line\":2\x7d]").toUTF8

/-- One entry can keep a report from being loaded in which another entry gives a warning. -/
theorem unloadable_infiniteFirst :
    let fs : Files :=
      ⟨[(["report", "work"], .file infiniteFirst), (["work"], .directory)], ["work"]⟩
    fs.read "report" = .ok infiniteFirst ∧
      (gathered fs "report").warnings = [{ file := "B.java", line := 2 }] ∧
      ¬ ∃ report, load fs "report" = .ok report := by
  intro fs
  have hpath : Path.fault? "report" = none := by decide
  have hread : fs.read "report" = .ok infiniteFirst := rfl
  have hload : load fs "report" = .error .infiniteLine := by
    rw [load, hpath, hread]
    decide +kernel
  have htext : textIn? fs "report" = some (Utf8.decode infiniteFirst) := by
    have hfault : Utf8.fault? infiniteFirst = none := by decide +kernel
    rw [textIn?, hread]
    dsimp only
    rw [hfault]
    rfl
  refine ⟨hread, ?_, ?_⟩
  · rw [gathered, entriesIn?, htext]
    decide +kernel
  · rintro ⟨report, hreport⟩
    rw [hload] at hreport
    cases hreport

end Report

end LintMark

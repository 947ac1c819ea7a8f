import LintMark.Report.Warning
import Mathlib.Data.List.Basic

/-!
# What an entry says

An entry may hold the file, the line and the strategy of its warning at several spots, some of them
under keys of its own and some under keys of its location. Of each of the three it says what stands
at the first spot with a value that counts as present (`IsFirst`), and it gives a warning if and
only if it says a file, and a line and a strategy that can be read (`ofEntry_byPrecedence`).

## One list for each field

The location goes before the entry for the file and for the line alike, but it need not decide both:
a location with a file and without a line leaves the line to the entry. So each field has a list of
spots of its own, and what is found in one list has no part in the search of another.
-/

namespace LintMark

/-! ## Texts of values -/

namespace Double

theorem layOut_ne_empty {layout : Layout} (hend : layout.integralEnd ≠ "") (digits : List Char)
    (point : Int) : layOut layout digits point ≠ "" := by
  intro h
  unfold layOut at h
  split_ifs at h with hplain hpoint hlength
  · exact nomatch String.ofList_eq_empty_iff.1 h
  · exact hend (String.append_eq_empty_iff.1 h).2
  · exact List.cons_ne_nil _ _ (List.append_eq_nil_iff.1 (String.ofList_eq_empty_iff.1 h)).2
  · have hexponent := (String.append_eq_empty_iff.1 h).2
    rw [exponentText, String.append_assoc, String.append_assoc] at hexponent
    exact absurd (String.append_eq_empty_iff.1 hexponent).1 (by decide)

theorem text_ne_empty (d : Double) : d.text ≠ "" := by
  cases d with
  | nan => decide
  | infinite negative => cases negative <;> decide
  | finite negative mantissa exponent =>
    intro h
    rcases hshortest : shortest mantissa exponent with ⟨digits, point⟩
    rw [text, hshortest] at h
    split at h
    · exact absurd (String.append_eq_empty_iff.1 h).2 (by decide)
    · exact layOut_ne_empty (by decide) digits point (String.append_eq_empty_iff.1 h).2

end Double

/-- A value that counts as present is written in at least one character. -/
theorem Json.quotedForm_ne_empty {value : Json} (h : value.isTruthy = true) :
    value.quotedForm ≠ "" := by
  cases value with
  | null => cases h
  | bool b => cases b <;> decide
  | int i =>
    rw [quotedForm, Int.toString_eq_repr]
    cases i with
    | ofNat n => exact Nat.repr_ne_empty
    | negSucc n => exact fun h ↦ Nat.repr_ne_empty (String.append_eq_empty_iff.1 h).2
  | float d =>
    rw [quotedForm]
    exact d.text_ne_empty
  | str t =>
    rw [quotedForm, Text.quoted]
    exact fun h ↦ nomatch String.ofList_eq_empty_iff.1 h
  | arr items =>
    rw [quotedForm, String.append_assoc]
    exact fun h ↦ absurd (String.append_eq_empty_iff.1 h).1 (by decide)
  | obj members =>
    rw [quotedForm, String.append_assoc]
    exact fun h ↦ absurd (String.append_eq_empty_iff.1 h).1 (by decide)

/-- A value that counts as present has a text that is not empty. -/
theorem Json.text_ne_empty {value : Json} (h : value.isTruthy = true) : value.text ≠ "" := by
  unfold text
  split
  · rintro rfl
    cases h
  · exact fun hempty ↦ quotedForm_ne_empty h (Text.ofString_inj.1 hempty)

theorem Strategy.ofName_eq_ok_iff {name : Text} {strategy : Strategy} :
    ofName name = .ok strategy ↔ name = strategy.name := by
  constructor
  · intro h
    rw [ofName] at h
    split at h
    · next found hfind =>
      cases h
      have hname := List.find?_some hfind
      exact (of_decide_eq_true hname).symm
    · cases h
  · rintro rfl
    exact strategy.ofName_name

namespace Warning

/-! ## Spots -/

/-- Where an entry may hold a value. -/
inductive Spot where
  /-- Under a key of its own. -/
  | own (key : Text)
  /-- Under a key of its location. -/
  | located (key : Text)

/-- The value that an entry has at a spot. A location that is no object has no values. -/
def Spot.value? (entry : Json) : Spot → Option Json
  | own key => entry.get? key
  | located key =>
    match entry.get? "location" with
    | some (.obj members) => (Json.obj members).get? key
    | _ => none

/-- The spots of the file. -/
def fileSpots : List Spot :=
  [.located "path", .located "file", .own "file", .own "path", .own "fileName"]

/-- The spots of the line. -/
def lineSpots : List Spot :=
  [.located "startLine", .located "line", .own "line", .own "startLine", .own "lineNumber"]

/-- The spots of the strategy. -/
def strategySpots : List Spot := [.own "strategy", .own "context"]

/-- The value stands at one of the spots and counts as present, and no spot before that one has a
value that counts as present. -/
def IsFirst (entry : Json) (spots : List Spot) (value : Json) : Prop :=
  ∃ before spot after, spots = before ++ spot :: after ∧ spot.value? entry = some value ∧
    value.isTruthy = true ∧
    ∀ other ∈ before, ∀ v, other.value? entry = some v → v.isTruthy = false

/-- The first value among spots that counts as present. -/
def firstAt (entry : Json) (spots : List Spot) : Option Json :=
  spots.findSome? fun spot ↦ (spot.value? entry).filter Json.isTruthy

variable {entry other value : Json} {spots : List Spot} {w : Warning}

theorem firstAt_eq_some_iff : firstAt entry spots = some value ↔ IsFirst entry spots value := by
  have hnone : ∀ spot : Spot, (spot.value? entry).filter Json.isTruthy = none ↔
      ∀ v, spot.value? entry = some v → v.isTruthy = false := by
    intro spot
    rw [Option.filter_eq_none_iff]
    exact forall₂_congr fun v _ ↦ iff_of_eq (Bool.not_eq_true _)
  rw [firstAt, List.findSome?_eq_some_iff, IsFirst]
  simp only [hnone, Option.filter_eq_some_iff, and_assoc]

theorem firstPresent_eq (entry : Json) (keys : List Text) :
    firstPresent entry keys = firstAt entry (keys.map .own) := by
  rw [firstAt, List.findSome?_map]
  rfl

theorem firstPresent_location (entry : Json) (keys : List Text) :
    firstPresent (location entry) keys = firstAt entry (keys.map .located) := by
  have hvalue : ∀ key, (location entry).get? key = (Spot.located key).value? entry := by
    intro key
    rw [location, Spot.value?]
    cases entry.get? "location" with
    | none => rfl
    | some v => cases v <;> rfl
  rw [firstAt, List.findSome?_map, firstPresent]
  simp only [hvalue]
  rfl

theorem firstAt_append (entry : Json) (spots others : List Spot) :
    firstAt entry (spots ++ others) = (firstAt entry spots <|> firstAt entry others) := by
  rw [firstAt, List.findSome?_append, ← firstAt, ← firstAt]
  cases firstAt entry spots <;> rfl

/-- The entries have the same values at spots. -/
def SameAt (spots : List Spot) (entry other : Json) : Prop :=
  ∀ spot ∈ spots, spot.value? entry = spot.value? other

theorem SameAt.mono {others : List Spot} (h : SameAt spots entry other) (hsub : others ⊆ spots) :
    SameAt others entry other := fun spot hspot ↦ h spot (hsub hspot)

theorem SameAt.firstAt_eq (h : SameAt spots entry other) :
    firstAt entry spots = firstAt other spots := by
  rw [firstAt, firstAt, ← List.head?_filterMap, ← List.head?_filterMap,
    List.filterMap_congr fun spot hspot ↦ congrArg (Option.filter Json.isTruthy) (h spot hspot)]

theorem SameAt.isFirst_iff (h : SameAt spots entry other) :
    IsFirst entry spots value ↔ IsFirst other spots value := by
  rw [← firstAt_eq_some_iff, ← firstAt_eq_some_iff, h.firstAt_eq]

/-! ## The fields of an entry -/

theorem fileValue_eq (entry : Json) : fileValue entry = firstAt entry fileSpots := by
  rw [fileValue, firstPresent_location, firstPresent_eq, ← firstAt_append]
  rfl

theorem fileValue_eq_some_iff : fileValue entry = some value ↔ IsFirst entry fileSpots value := by
  rw [fileValue_eq, firstAt_eq_some_iff]

theorem lineValue_eq (entry : Json) : lineValue entry = (firstAt entry lineSpots).getD (.int 0) := by
  rw [lineValue, firstPresent_location, firstPresent_eq, ← firstAt_append]
  rfl

/-- The value that an entry has for the line: the first one that counts as present, or zero. -/
def IsLineValue (entry value : Json) : Prop :=
  IsFirst entry lineSpots value ∨ (¬ ∃ v, IsFirst entry lineSpots v) ∧ value = .int 0

theorem lineValue_eq_iff : lineValue entry = value ↔ IsLineValue entry value := by
  simp only [lineValue_eq, IsLineValue, ← firstAt_eq_some_iff]
  cases firstAt entry lineSpots with
  | none => simp [eq_comm]
  | some v => simp

theorem lineOf_eq_ok_iff {line : Int} :
    lineOf entry = .ok line ↔ ∃ v, IsLineValue entry v ∧ v.toInt = .ok line := by
  simp only [← lineValue_eq_iff, exists_eq_left', lineOf]
  cases (lineValue entry).toInt with
  | ok n => simp
  | error e => cases e <;> simp

theorem exists_strategyOf_eq_ok_iff : (∃ strategy, strategyOf entry = .ok strategy) ↔
    ∀ v, IsFirst entry strategySpots v → ∃ s : Strategy, v.text.toLower = s.name := by
  have hfirst : firstPresent entry ["strategy", "context"] = firstAt entry strategySpots :=
    firstPresent_eq entry _
  simp only [← firstAt_eq_some_iff, strategyOf, hfirst]
  cases firstAt entry strategySpots with
  | none => exact iff_of_true ⟨none, rfl⟩ fun v h ↦ nomatch h
  | some v =>
    simp only [Option.some_inj, forall_eq', ← Strategy.ofName_eq_ok_iff]
    cases Strategy.ofName (v.text.toLower) <;> simp

/-! ## The warning of an entry -/

/-- What is known of a warning that an object gives. -/
theorem exists_of_ofObject (h : ofObject entry = .ok w) :
    ∃ v, fileValue entry = some v ∧ w.file = Path.withSlashes v.text ∧
      lineOf entry = .ok w.line ∧ strategyOf entry = .ok w.strategy := by
  rw [ofObject] at h
  cases hfile : fileValue entry with
  | none =>
    rw [hfile] at h
    cases h
  | some v =>
    cases hline : lineOf entry with
    | error e =>
      rw [hfile, hline] at h
      cases h
    | ok line =>
      cases hstrategy : strategyOf entry with
      | error e =>
        rw [hfile, hline, hstrategy] at h
        cases h
      | ok strategy =>
        rw [hfile, hline, hstrategy] at h
        cases h
        exact ⟨v, rfl, rfl, rfl, rfl⟩

/-- An object gives a warning if it has a file, a line and a strategy. -/
theorem exists_ofObject {line : Int} {strategy : Option Strategy}
    (hfile : fileValue entry = some value) (hline : lineOf entry = .ok line)
    (hstrategy : strategyOf entry = .ok strategy) : ∃ w, ofObject entry = .ok w := by
  rw [ofObject, hfile, hline, hstrategy]
  exact ⟨_, rfl⟩

/-- The three fields of an entry that decide whether it gives a warning can be read. -/
def IsReadable (entry : Json) : Prop :=
  (∃ v, IsFirst entry fileSpots v) ∧ (∃ v line, IsLineValue entry v ∧ v.toInt = .ok line) ∧
    ∀ v, IsFirst entry strategySpots v → ∃ s : Strategy, v.text.toLower = s.name

theorem exists_ofObject_iff : (∃ w, ofObject entry = .ok w) ↔ IsReadable entry := by
  constructor
  · rintro ⟨w, hw⟩
    obtain ⟨v, hfile, -, hline, hstrategy⟩ := exists_of_ofObject hw
    obtain ⟨u, hu, hint⟩ := lineOf_eq_ok_iff.1 hline
    exact ⟨⟨v, fileValue_eq_some_iff.1 hfile⟩, ⟨u, w.line, hu, hint⟩,
      exists_strategyOf_eq_ok_iff.1 ⟨w.strategy, hstrategy⟩⟩
  · rintro ⟨⟨v, hfile⟩, ⟨u, line, hu, hint⟩, hstrategy⟩
    obtain ⟨strategy, hstrategy⟩ := exists_strategyOf_eq_ok_iff.2 hstrategy
    exact exists_ofObject (fileValue_eq_some_iff.2 hfile) (lineOf_eq_ok_iff.2 ⟨u, hu, hint⟩)
      hstrategy

theorem SameAt.isReadable_iff
    (h : SameAt (fileSpots ++ lineSpots ++ strategySpots) entry other) :
    IsReadable entry ↔ IsReadable other := by
  have hfile : SameAt fileSpots entry other := h.mono (by simp)
  have hline : SameAt lineSpots entry other := h.mono (by simp)
  have hstrategy : SameAt strategySpots entry other := h.mono (by simp)
  simp only [IsReadable, IsLineValue, hfile.isFirst_iff, hline.isFirst_iff, hstrategy.isFirst_iff]

/-! ## Main result -/

/-- **An entry says of each field what comes first.** An object gives a warning if and only if a
value for the file counts as present, the value for the line stands for an integer, and the value
for the strategy, if there is one, names a strategy in letters of either case. The warning then has
the text of the first such value as its file, with slashes for backslashes and never empty, and the
integer as its line. What else the entry holds has no part in this, and neither has the spot of one
field in the choice of another. -/
theorem ofEntry_byPrecedence (members : List (Text × Json)) :
    let entry := Json.obj members
    ((∃ w, ofEntry entry = .ok w) ↔
      (∃ v, IsFirst entry fileSpots v) ∧ (∃ v line, IsLineValue entry v ∧ v.toInt = .ok line) ∧
        ∀ v, IsFirst entry strategySpots v → ∃ s : Strategy, v.text.toLower = s.name) ∧
    (∀ w, ofEntry entry = .ok w →
      (∃ v, IsFirst entry fileSpots v ∧ w.file = Path.withSlashes v.text) ∧ w.file ≠ "" ∧
        ∃ v, IsLineValue entry v ∧ v.toInt = .ok w.line) ∧
    ∀ members', let other := Json.obj members'
      (∀ w w', ofEntry entry = .ok w → ofEntry other = .ok w' →
        (SameAt fileSpots entry other → w.file = w'.file) ∧
          (SameAt lineSpots entry other → w.line = w'.line)) ∧
      (SameAt (fileSpots ++ lineSpots ++ strategySpots) entry other →
        ((∃ w, ofEntry entry = .ok w) ↔ ∃ w, ofEntry other = .ok w)) := by
  intro entry
  refine ⟨exists_ofObject_iff, fun w hw ↦ ?_, fun members' ↦ ⟨fun w w' hw hw' ↦ ?_, fun h ↦ ?_⟩⟩
  · obtain ⟨v, hfile, hpath, hline, -⟩ := exists_of_ofObject hw
    have hfirst := fileValue_eq_some_iff.1 hfile
    refine ⟨⟨v, hfirst, hpath⟩, ?_, lineOf_eq_ok_iff.1 hline⟩
    obtain ⟨-, -, -, -, -, htruthy, -⟩ := hfirst
    rw [hpath]
    exact fun hempty ↦ Json.text_ne_empty htruthy (Path.withSlashes_eq_empty_iff.1 hempty)
  · obtain ⟨v, hfile, hpath, hline, -⟩ := exists_of_ofObject hw
    obtain ⟨v', hfile', hpath', hline', -⟩ := exists_of_ofObject hw'
    constructor
    · intro h
      rw [fileValue_eq, h.firstAt_eq, ← fileValue_eq, hfile'] at hfile
      rw [hpath, hpath', Option.some.inj hfile]
    · intro h
      rw [lineOf, lineValue_eq, h.firstAt_eq, ← lineValue_eq, ← lineOf, hline'] at hline
      exact (Except.ok.inj hline).symm
  · exact exists_ofObject_iff.trans (h.isReadable_iff.trans exists_ofObject_iff.symm)

/-- An entry whose file stands under a key of its own and whose line stands in its location. The
values in front of them are empty or zero. -/
def mixedEntry (message : Text) : List (Text × Json) :=
  [("location", .obj [("path", .str ""), ("startLine", .int 0), ("line", .str "7")]),
    ("file", .str "src\\A.java"), ("line", .int 3), ("strategy", .null),
    ("context", .str "FIELDS"), ("message", .str message)]

/-- The warnings of two entries that differ in their messages alone. -/
theorem ofEntry_mixedEntry :
    IsFirst (.obj (mixedEntry "x")) fileSpots (.str "src\\A.java") ∧
      IsFirst (.obj (mixedEntry "x")) lineSpots (.str "7") ∧
      ofEntry (.obj (mixedEntry "x"))
        = .ok { file := "src/A.java", line := 7, message := "x", strategy := some .fields } ∧
      ∃ w, ofEntry (.obj (mixedEntry "y")) = .ok w ∧ w.file = "src/A.java" ∧ w.line = 7 := by
  have hfile : IsFirst (.obj (mixedEntry "x")) fileSpots (.str "src\\A.java") :=
    firstAt_eq_some_iff.1 rfl
  have hline : IsFirst (.obj (mixedEntry "x")) lineSpots (.str "7") := firstAt_eq_some_iff.1 rfl
  have hx : ofEntry (.obj (mixedEntry "x"))
      = .ok { file := "src/A.java", line := 7, message := "x", strategy := some .fields } := by
    decide +kernel
  obtain ⟨-, -, hother⟩ := ofEntry_byPrecedence (mixedEntry "x")
  obtain ⟨hfields, haccepted⟩ := hother (mixedEntry "y")
  have hsame : SameAt (fileSpots ++ lineSpots ++ strategySpots) (.obj (mixedEntry "x"))
      (.obj (mixedEntry "y")) := by
    simp [SameAt, fileSpots, lineSpots, strategySpots, Spot.value?, Json.get?, mixedEntry,
      List.lookup_cons]
  obtain ⟨w, hw⟩ := (haccepted hsame).1 ⟨_, hx⟩
  obtain ⟨hsameFile, hsameLine⟩ := hfields _ w hx hw
  exact ⟨hfile, hline, hx, w, hw, (hsameFile (hsame.mono (by simp))).symm,
    (hsameLine (hsame.mono (by simp))).symm⟩

end Warning

end LintMark

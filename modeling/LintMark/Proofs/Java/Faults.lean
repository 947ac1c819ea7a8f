import LintMark.Java.Source
import LintMark.Proofs.Syntax.Visits
import Mathlib.Data.List.TakeWhile

/-!
# Where a fault is reported

A strict reader refuses a source with a fault and names a line (`Reading.tree_syntaxError_iff`). It
is the line of the first faulty row in pre-order, or that of the root if the grammar reports a fault
that no row shows.

The search for the row keeps a stack. Until it has come to a faulty row, the rows that it has
visited, followed by the rows that its stack starts, are the rows of the tree. So the rows in front
of the one that it ends with are those that it has visited, and all of them are sound
(`Cst.seekFault_eq_some_iff`). Neither the depth nor the width of the tree plays a part.
-/

namespace LintMark

/-! ## Lines -/

theorem newlineOffsets_eq (bytes : ByteArray) (n : ℕ) :
    newlineOffsets bytes n = (List.range n).filter fun i ↦ bytes[i]? = some 10 := by
  -- The fold starts with the last offset, so after `m` rounds it has seen the last `m` of them.
  have hrounds : ∀ m ≤ n, (m.fold (fun k _ offsets ↦
        if bytes[n - 1 - k]? = some 10 then (n - 1 - k) :: offsets else offsets) [])
      = (List.range' (n - m) m).filter fun i ↦ bytes[i]? = some 10 := by
    intro m
    induction m with
    | zero =>
      intro _
      rfl
    | succ m ih =>
      intro hm
      have hoffset : n - 1 - m = n - (m + 1) := by omega
      have hnext : n - (m + 1) + 1 = n - m := by omega
      rw [Nat.fold_succ, ih (by omega), hoffset, List.range'_succ, hnext, List.filter_cons]
      simp only [decide_eq_true_eq]
  rw [newlineOffsets, hrounds n (Nat.le_refl n), Nat.sub_self, List.range_eq_range']

namespace SourceText

variable (source : SourceText)

/-- Behind the end of the source there are no more line ends. -/
theorem newlines_of_size_le {m : ℕ} (h : source.bytes.size ≤ m) :
    source.newlines = (List.range m).filter fun i ↦ source.bytes[i]? = some 10 := by
  obtain ⟨d, rfl⟩ := Nat.exists_eq_add_of_le h
  have hbehind : ((List.range d).map fun i ↦ source.bytes.size + i).filter
      (fun i ↦ source.bytes[i]? = some 10) = [] := by
    rw [List.filter_eq_nil_iff]
    intro i hi
    obtain ⟨j, -, rfl⟩ := List.mem_map.1 hi
    simp
  rw [source.newlines_eq, newlineOffsets_eq, List.range_add, List.filter_append, hbehind,
    List.append_nil]

/-- The line of a position is one more than the number of line ends in front of it. -/
theorem line_eq_countP (position : ℕ) :
    source.line position
      = (List.range position).countP (fun i ↦ source.bytes[i]? = some 10) + 1 := by
  have hnewlines := source.newlines_of_size_le
    (Nat.le_add_left source.bytes.size position)
  have hfront : ∀ i ∈ (List.range position).filter fun i ↦ source.bytes[i]? = some 10,
      decide (i < position) = true := by
    intro i hi
    exact decide_eq_true (List.mem_range.1 (List.mem_of_mem_filter hi))
  have hback : (((List.range source.bytes.size).map fun i ↦ position + i).filter
      fun i ↦ source.bytes[i]? = some 10).takeWhile (· < position) = [] := by
    rw [List.takeWhile_eq_nil_iff]
    intro hlength
    have hmem := List.mem_of_mem_filter (List.get_mem _ ⟨0, hlength⟩)
    obtain ⟨j, -, hj⟩ := List.mem_map.1 hmem
    rw [← hj]
    simp
  rw [line, hnewlines, List.range_add, List.filter_append,
    List.takeWhile_append_of_pos hfront, hback, List.append_nil, List.countP_eq_length_filter]

end SourceText

namespace Cst

variable {stack visited rest : List Cst} {row : Cst}

/-! ## The search -/

theorem isPreorder_rows : IsPreorder children rows := by
  intro row
  rw [rows_eq, rowsOfAll_eq_flatMap]

theorem find?_isFaulty_eq_some_iff {cs : List Cst} : cs.find? isFaulty = some row ↔
    row.isFaulty = true ∧ ∃ before after, cs = before ++ row :: after ∧
      ∀ c ∈ before, c.isFaulty = false := by
  rw [List.find?_eq_some_iff_append]
  simp only [Bool.not_eq_true']

theorem find?_isFaulty_eq_none_iff {cs : List Cst} :
    cs.find? isFaulty = none ↔ ∀ c ∈ cs, c.isFaulty = false := by
  rw [List.find?_eq_none]
  simp only [Bool.not_eq_true]

/-- Visits to sound rows leave the search where it was. -/
theorem seekFault_of_visits (h : Visits children stack visited rest)
    (hsound : ∀ c ∈ visited, c.isFaulty = false) : seekFault stack = seekFault rest := by
  induction h with
  | none stack => rfl
  | @cons row stack visited rest _ ih =>
    obtain ⟨hrow, hvisited⟩ := List.forall_mem_cons.1 hsound
    rw [seekFault, hrow]
    exact ih hvisited

/-- **The search ends at a faulty row after visits to sound ones.** -/
theorem seekFault_eq_some_iff : seekFault stack = some row ↔ row.isFaulty = true ∧
    ∃ visited rest, Visits children stack visited (row :: rest) ∧
      ∀ c ∈ visited, c.isFaulty = false := by
  constructor
  · intro h
    rw [seekFault_eq_find?, find?_isFaulty_eq_some_iff, rowsOfAll_eq_flatMap] at h
    obtain ⟨hrow, before, after, hrows, hsound⟩ := h
    obtain ⟨rest, hvisits, hrest⟩ := isPreorder_rows.exists_visits hrows.symm
    cases rest with
    | nil => exact absurd hrest (List.cons_ne_nil _ _).symm
    | cons c rest =>
      rw [isPreorder_rows.flatMap_cons, List.cons.injEq] at hrest
      obtain ⟨rfl, -⟩ := hrest
      exact ⟨hrow, before, rest, hvisits, hsound⟩
  · rintro ⟨hrow, visited, rest, hvisits, hsound⟩
    rw [seekFault_of_visits hvisits hsound, seekFault, if_pos hrow]

end Cst

/-! ## Reports -/

namespace SourceError

variable (path : Text)

theorem message_syntaxError (line : ℕ) : message ⟨path, .syntaxError line⟩
    = "Cannot parse " ++ path ++ ": syntax error near line " ++ toString line := by
  have hcolon : ": " ++ "syntax error near line " = ": syntax error near line " := by decide
  rw [← hcolon, message, reason, Text.ofString_append, Text.ofString_append]
  simp only [Text.append_assoc]

theorem toString_inj {n n' : ℕ} : toString n = toString n' ↔ n = n' := by
  constructor
  · intro h
    rw [Nat.toString_eq_ofList_toDigits, Nat.toString_eq_ofList_toDigits] at h
    rw [← Nat.ofDigitChars_ten_toDigits (n := n), String.ofList_injective h,
      Nat.ofDigitChars_ten_toDigits]
  · rintro rfl
    rfl

/-- The wording tells the line. -/
theorem message_syntaxError_inj {line line' : ℕ} :
    message ⟨path, .syntaxError line⟩ = message ⟨path, .syntaxError line'⟩ ↔ line = line' := by
  rw [message_syntaxError, message_syntaxError, Text.append_right_inj, Text.ofString_inj,
    toString_inj]

theorem message_tooDeep_ne (line : ℕ) :
    message ⟨path, .tooDeep⟩ ≠ message ⟨path, .syntaxError line⟩ := by
  intro h
  rw [message, message, Text.append_right_inj, Text.ofString_inj] at h
  have hhead := congrArg (fun s ↦ s.toList.head?) h
  simp [reason] at hhead

end SourceError

namespace Reading

/-- The row at which a fault is reported: the first faulty row, or the root if all are sound. -/
inductive IsFaultRow (r : Reading) : Cst → Prop
  | first {before after : List Cst} {row : Cst} (hrows : r.root.rows = before ++ row :: after)
      (hbefore : ∀ c ∈ before, c.isFaulty = false) (hrow : row.isFaulty = true) : r.IsFaultRow row
  | root (hsound : ∀ c ∈ r.root.rows, c.isFaulty = false) : r.IsFaultRow r.root

variable {r : Reading}

theorem isFaultRow_iff {row : Cst} : r.IsFaultRow row ↔ row = r.faultRow := by
  rw [faultRow_eq]
  constructor
  · rintro (⟨hrows, hbefore, hrow⟩ | hsound)
    · rw [Cst.find?_isFaulty_eq_some_iff.2 ⟨hrow, _, _, hrows, hbefore⟩, Option.getD_some]
    · rw [Cst.find?_isFaulty_eq_none_iff.2 hsound, Option.getD_none]
  · rintro rfl
    cases hfind : r.root.rows.find? Cst.isFaulty with
    | none => exact .root (Cst.find?_isFaulty_eq_none_iff.1 hfind)
    | some row =>
      obtain ⟨hrow, before, after, hrows, hbefore⟩ := Cst.find?_isFaulty_eq_some_iff.1 hfind
      exact .first hrows hbefore hrow

theorem hasFault_iff : r.hasFault = true ↔
    r.flagged = true ∨ ∃ row ∈ r.root.rows, row.type = "ERROR" ∨ row.missing = true := by
  rw [hasFault, Bool.or_eq_true, List.any_eq_true]
  simp only [Cst.isFaulty, Bool.or_eq_true, decide_eq_true_eq]

theorem tree_of_hasFault (path : Text) (h : r.hasFault = true) :
    r.tree path true = .error (.source ⟨path, .syntaxError r.faultLine⟩) := by
  rw [tree, h]
  rfl

/-- A strict reader refuses a source for its first fault, and any reader one that nests too deep. -/
theorem cases_of_tree_eq_error {path : Text} {strict : Bool} {e : SourceError}
    (h : r.tree path strict = .error (.source e)) :
    strict = true ∧ r.hasFault = true ∧ e = ⟨path, .syntaxError r.faultLine⟩ ∨
      e = ⟨path, .tooDeep⟩ := by
  rw [tree] at h
  split at h
  · next hfault =>
    obtain ⟨hstrict, hfault⟩ := Bool.and_eq_true_iff.1 hfault
    cases h
    exact .inl ⟨hstrict, hfault, rfl⟩
  · split at h <;> cases h
    exact .inr rfl

/-- **A strict reader reports the first fault.** It refuses a source for its syntax exactly when the
grammar or some row marks a fault, and the line that it names is one more than the number of line
ends in front of the one row at which the fault is reported. The search for that row goes through
the rows in pre-order: its stack always starts the rest of them, visits to sound rows change nothing
about what it finds, it ends at a faulty row when all rows in front of it have been visited and are
sound, and where there is none it empties its stack. -/
theorem tree_syntaxError_iff (r : Reading) :
    (∀ path strict line,
      (∃ e, r.tree path strict = .error (.source e) ∧
        e.message = "Cannot parse " ++ path ++ ": syntax error near line " ++ toString line) ↔
      strict = true ∧
        (r.flagged = true ∨ ∃ row ∈ r.root.rows, row.type = "ERROR" ∨ row.missing = true) ∧
        ∃ row, r.IsFaultRow row ∧
          line = (List.range row.start).countP (fun i ↦ r.source.bytes[i]? = some 10) + 1) ∧
    (∃! row, r.IsFaultRow row) ∧
    (∀ visited rest, Visits Cst.children [r.root] visited rest →
      visited ++ Cst.rowsOfAll rest = r.root.rows ∧
      ((∀ c ∈ visited, c.isFaulty = false) → Cst.seekFault [r.root] = Cst.seekFault rest)) ∧
    (∀ row, Cst.seekFault [r.root] = some row ↔ row.isFaulty = true ∧
      ∃ visited rest, Visits Cst.children [r.root] visited (row :: rest) ∧
        ∀ c ∈ visited, c.isFaulty = false) ∧
    (Cst.seekFault [r.root] = none ↔ ∀ c ∈ r.root.rows, c.isFaulty = false) ∧
    Visits Cst.children [r.root] r.root.rows [] := by
  have hroot : [r.root].flatMap Cst.rows = r.root.rows := List.flatMap_singleton _ _
  refine ⟨fun path strict line ↦ ?_, ⟨r.faultRow, isFaultRow_iff.2 rfl, fun row ↦ isFaultRow_iff.1⟩,
    fun visited rest hvisits ↦ ⟨?_, Cst.seekFault_of_visits hvisits⟩,
    fun row ↦ Cst.seekFault_eq_some_iff, ?_, ?_⟩
  · have hline : (∃ row, r.IsFaultRow row ∧
          line = (List.range row.start).countP (fun i ↦ r.source.bytes[i]? = some 10) + 1) ↔
        line = r.faultLine := by
      simp only [isFaultRow_iff, exists_eq_left, faultLine, SourceText.line_eq_countP]
    rw [hline, ← hasFault_iff, ← SourceError.message_syntaxError]
    constructor
    · rintro ⟨e, he, hmessage⟩
      obtain ⟨hstrict, hfault, rfl⟩ | rfl := cases_of_tree_eq_error he
      · exact ⟨hstrict, hfault, ((SourceError.message_syntaxError_inj path).1 hmessage).symm⟩
      · exact absurd hmessage (SourceError.message_tooDeep_ne path line)
    · rintro ⟨rfl, hfault, rfl⟩
      exact ⟨_, tree_of_hasFault path hfault, rfl⟩
  · rw [Cst.rowsOfAll_eq_flatMap, Cst.isPreorder_rows.append_flatMap hvisits, hroot]
  · rw [Cst.seekFault_eq_find?, Cst.find?_isFaulty_eq_none_iff, Cst.rowsOfAll_eq_flatMap, hroot]
  · have hvisits := Cst.isPreorder_rows.visits_flatMap [r.root]
    rwa [hroot] at hvisits

/-- A sign that starts nothing. -/
def signRow : Cst := ⟨"ERROR", 4, 5, true, false, none, []⟩

/-- A call with the sign among its arguments and without the semicolon behind it: `f(`, an empty
line, `#`, `)`. -/
def brokenCall : Reading where
  source := .ofBytes "f(\n\n#\n)".toUTF8
  root :=
    ⟨"program", 0, 7, true, false, none,
      [⟨"expression_statement", 0, 7, true, false, none,
        [⟨"method_invocation", 0, 7, true, false, none,
          [⟨"identifier", 0, 1, true, false, some "name", []⟩,
            ⟨"argument_list", 1, 7, true, false, some "arguments",
              [⟨"(", 1, 2, false, false, none, []⟩, signRow,
                ⟨")", 6, 7, false, false, none, []⟩]⟩]⟩,
          ⟨";", 7, 7, false, true, none, []⟩]⟩]⟩
  flagged := false

/-- Of the two faulty rows the first one is reported, on the third line. Two rows are still on the
stack of the search when it ends. -/
theorem tree_syntaxError_brokenCall :
    (∃ e, brokenCall.tree "A.java" true = .error (.source e) ∧
      e.message = "Cannot parse A.java: syntax error near line 3") ∧
    ∃ row visited rest, Cst.seekFault [brokenCall.root] = some row ∧ row.type = "ERROR" ∧
      Visits Cst.children [brokenCall.root] visited (row :: rest) ∧
      visited.length = 6 ∧ rest.length = 2 := by
  obtain ⟨hline, -, -, hseek, -, -⟩ := tree_syntaxError_iff brokenCall
  have hrows : brokenCall.root.rows = brokenCall.root.rows.take 6 ++ signRow ::
      brokenCall.root.rows.drop 7 := rfl
  have hvisits : Visits Cst.children [brokenCall.root] (brokenCall.root.rows.take 6)
      [signRow, ⟨")", 6, 7, false, false, none, []⟩, ⟨";", 7, 7, false, true, none, []⟩] :=
    .cons <| .cons <| .cons <| .cons <| .cons <| .cons <| .none _
  have hsound : ∀ c ∈ brokenCall.root.rows.take 6, c.isFaulty = false := by decide +kernel
  have hmem : signRow ∈ brokenCall.root.rows := by
    rw [hrows]
    exact List.mem_append_right _ List.mem_cons_self
  have hrow : brokenCall.IsFaultRow signRow := .first hrows hsound rfl
  exact ⟨(hline "A.java" true 3).2 ⟨rfl, .inr ⟨signRow, hmem, .inl rfl⟩, signRow, hrow,
      by decide +kernel⟩,
    signRow, _, _, (hseek signRow).2 ⟨rfl, _, _, hvisits, hsound⟩, rfl, hvisits, rfl, rfl⟩

end Reading

end LintMark

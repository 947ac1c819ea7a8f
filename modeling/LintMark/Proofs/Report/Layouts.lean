import LintMark.Proofs.Json.Tokens
import LintMark.Proofs.Report.Loading
import Mathlib.Data.Option.Basic

/-!
# Layouts of a report

A document lists its entries in one of three ways: it is the list, or an object with the list under
a usual key, or an object with the list under some other key (`Lists`). Which of the ways it is, and
what else the document holds, does not show in the warnings: they are those of the entries that give
one (`load_of_reports`). So the warnings of two lists together are those of the one and then those
of the other, also where three files list them in three ways.

## Which list it is

The search for the list goes by key and then by place. The usual keys are tried in an order of their
own, whatever the order of the members, and a key whose value is no list counts as missing. The
members are gone through in their order only where no usual key is left, and there a list must start
with an object to be one of entries.
-/

namespace LintMark

namespace Report

open Warning (HasInfiniteLine)

/-! ## Finding the list -/

/-- The value is a list that starts with an object. -/
def StartsWithObject (value : Json) : Prop := ∃ members items, value = .arr (.obj members :: items)

/-- The document lists entries at the place of a name. -/
inductive Lists : Json → Text → List Json → Prop where
  /-- The document is the list of entries. -/
  | bare (entries : List Json) : Lists (.arr entries) bareList entries
  /-- The list stands under a usual key, and no usual key before that one has a list. -/
  | usual {members : List (Text × Json)} {before after : List Text} {key : Text}
      {entries : List Json} (hkeys : usualKeys = before ++ key :: after)
      (hlist : (Json.obj members).get? key = some (.arr entries))
      (hbefore : ∀ other ∈ before, ∀ items, (Json.obj members).get? other ≠ some (.arr items)) :
      Lists (.obj members) key entries
  /-- No usual key has a list, and the list is the first one of the members that starts with an
  object. -/
  | other {before after : List (Text × Json)} {key : Text} {entries : List Json}
      (husual : ∀ usual ∈ usualKeys, ∀ items,
        (Json.obj (before ++ (key, .arr entries) :: after)).get? usual ≠ some (.arr items))
      (hbefore : ∀ member ∈ before, ¬ StartsWithObject member.2)
      (hstart : StartsWithObject (.arr entries)) :
      Lists (.obj (before ++ (key, .arr entries) :: after)) key entries

variable {document : Json} {key name : Text} {entries : List Json}

theorem listAt?_eq_some_iff :
    listAt? document key = some (name, entries) ↔
      key = name ∧ document.get? key = some (.arr entries) := by
  rw [listAt?]
  split
  · next items hitems => simp [hitems]
  · next hno => exact iff_of_false (fun h ↦ nomatch h) fun h ↦ hno entries h.2

theorem listAt?_eq_none_iff :
    listAt? document key = none ↔ ∀ items, document.get? key ≠ some (.arr items) := by
  rw [listAt?]
  split
  · next items hitems => exact iff_of_false (fun h ↦ nomatch h) fun h ↦ h items hitems
  · next hno => exact iff_of_true rfl hno

theorem objectList?_eq_some_iff {member : Text × Json} :
    objectList? member = some (name, entries) ↔
      member = (name, .arr entries) ∧ StartsWithObject (.arr entries) := by
  constructor
  · intro h
    unfold objectList? at h
    split at h
    · next key members items =>
      cases h
      exact ⟨rfl, members, items, rfl⟩
    · cases h
  · rintro ⟨rfl, members, items, hentries⟩
    cases hentries
    rfl

theorem objectList?_eq_none_iff {member : Text × Json} :
    objectList? member = none ↔ ¬ StartsWithObject member.2 := by
  constructor
  · rintro h ⟨members, items, hvalue⟩
    obtain ⟨key, value⟩ := member
    cases hvalue
    cases h
  · intro h
    unfold objectList?
    split
    · next key members items => exact absurd ⟨members, items, rfl⟩ h
    · rfl

/-- **Which list it is.** The search finds the entries that a document lists, under the name of
their place. -/
theorem locate_eq_some_iff :
    locate document = some (key, entries) ↔ Lists document key entries := by
  constructor
  · intro h
    cases document with
    | arr items =>
      cases h
      exact .bare entries
    | obj members =>
      rw [locate, Option.orElse_eq_some] at h
      obtain husual | ⟨hnone, hother⟩ := h
      · obtain ⟨before, found, after, hkeys, hfound, hbefore⟩ := List.findSome?_eq_some_iff.1 husual
        obtain ⟨rfl, hlist⟩ := listAt?_eq_some_iff.1 hfound
        exact .usual hkeys hlist fun other hother ↦ listAt?_eq_none_iff.1 (hbefore other hother)
      · obtain ⟨before, member, after, rfl, hfound, hbefore⟩ := List.findSome?_eq_some_iff.1 hother
        obtain ⟨rfl, hstart⟩ := objectList?_eq_some_iff.1 hfound
        rw [List.findSome?_eq_none_iff] at hnone
        exact .other (fun usual husual ↦ listAt?_eq_none_iff.1 (hnone usual husual))
          (fun member hmember ↦ objectList?_eq_none_iff.1 (hbefore member hmember)) hstart
    | _ => cases h
  · intro h
    cases h with
    | bare => rfl
    | usual hkeys hlist hbefore =>
      rw [locate, Option.orElse_eq_some]
      refine .inl (List.findSome?_eq_some_iff.2 ⟨_, key, _, hkeys, ?_, fun other hother ↦ ?_⟩)
      · exact listAt?_eq_some_iff.2 ⟨rfl, hlist⟩
      · exact listAt?_eq_none_iff.2 (hbefore other hother)
    | other husual hbefore hstart =>
      rw [locate, Option.orElse_eq_some]
      refine .inr ⟨List.findSome?_eq_none_iff.2 fun usual hmem ↦ ?_, ?_⟩
      · exact listAt?_eq_none_iff.2 (husual usual hmem)
      · refine List.findSome?_eq_some_iff.2 ⟨_, _, _, rfl, ?_, fun member hmember ↦ ?_⟩
        · exact objectList?_eq_some_iff.2 ⟨rfl, hstart⟩
        · exact objectList?_eq_none_iff.2 (hbefore member hmember)

/-! ## Loading -/

/-- A file has a document that lists entries at the place of a name. -/
def Reports (fs : Files) (path key : Text) (entries : List Json) : Prop :=
  Path.fault? path = none ∧ ∃ text document, textIn? fs path = some text ∧
    Json.read text = .ok document ∧ Lists document key entries

variable {fs : Files} {path : Text}

theorem Reports.load_eq (h : Reports fs path key entries)
    (hlines : ∀ entry ∈ entries, ¬ HasInfiniteLine entry) :
    load fs path = .ok ⟨soundWarnings entries, some key⟩ := by
  obtain ⟨hpath, text, document, htext, hread, hlists⟩ := h
  rw [load_eq_elim_textIn? hpath, htext, Option.elim_some, hread]
  dsimp only
  rw [ofDocument_eq, locate_eq_some_iff.2 hlists, Option.elim_some, ofEntries, warningsOf_eq hlines]
  rfl

/-- **The layout of a report does not matter.** Wherever a document lists entries none of which has
an infinite line, the report holds the warnings of those that give one, in their order, and names
the place. For two lists together, it holds the warnings that each of them gives by itself, wherever
it is listed. -/
theorem load_of_reports (fs : Files) (path key : Text) (entries : List Json)
    (hlines : ∀ entry ∈ entries, ¬ HasInfiniteLine entry) (h : Reports fs path key entries) :
    load fs path = .ok ⟨soundWarnings entries, some key⟩ ∧
    ∀ front back, entries = front ++ back → ∀ path₁ path₂ key₁ key₂,
      Reports fs path₁ key₁ front → Reports fs path₂ key₂ back →
        ∃ r₁ r₂, load fs path₁ = .ok r₁ ∧ load fs path₂ = .ok r₂ ∧
          load fs path = .ok ⟨r₁.warnings ++ r₂.warnings, some key⟩ := by
  refine ⟨h.load_eq hlines, ?_⟩
  rintro front back rfl path₁ path₂ key₁ key₂ h₁ h₂
  refine ⟨_, _, h₁.load_eq fun entry hentry ↦ hlines entry (List.mem_append_left back hentry),
    h₂.load_eq fun entry hentry ↦ hlines entry (List.mem_append_right front hentry), ?_⟩
  rw [h.load_eq hlines, soundWarnings, List.filterMap_append, ← soundWarnings, ← soundWarnings]

/-- An entry with a file and a line. -/
def plainEntry (file : Text) (line : Nat) : Json := .obj [("file", .str file), ("line", .int line)]

/-- The tokens of such an entry. -/
def entryTokens (file : Text) (line : Nat) : List Json.Token :=
  [.sign '\x7b', .str "file", .sign ':', .str file, .sign ',', .str "line", .sign ':',
    .scalar (.int line), .sign '\x7d']

/-- A document with three entries under a usual key. A usual key before that one has no list, and a
member in front of it has a list of numbers. -/
def usualLayout : List Json.Token :=
  [.sign '\x7b', .str "counts", .sign ':', .sign '[', .scalar (.int 3), .sign ']', .sign ',',
      .str "issues", .sign ':', .str "see below", .sign ',', .str "findings", .sign ':', .sign '[']
    ++ entryTokens "A.java" 1 ++ [.sign ',', .scalar (.int 7), .sign ','] ++ entryTokens "B.java" 2
    ++ [.sign ']', .sign '\x7d']

/-- The first two of the entries as a document. -/
def bareLayout : List Json.Token :=
  .sign '[' :: entryTokens "A.java" 1 ++ [.sign ',', .scalar (.int 7), .sign ']']

/-- A document with the last of the entries under a key of its own. -/
def otherLayout : List Json.Token :=
  [.sign '\x7b', .str "counts", .sign ':', .sign '[', .scalar (.int 1), .sign ']', .sign ',',
      .str "lint", .sign ':', .sign '[']
    ++ entryTokens "B.java" 2 ++ [.sign ']', .sign '\x7d']

/-- A working directory with the three documents. -/
def layoutFiles : Files :=
  ⟨[(["usual", "work"], .file (Json.document usualLayout).toUTF8),
    (["bare", "work"], .file (Json.document bareLayout).toUTF8),
    (["other", "work"], .file (Json.document otherLayout).toUTF8),
    (["work"], .directory)], ["work"]⟩

theorem Reports.of_tokens (tokens : List Json.Token) {value : Json}
    (hpath : Path.fault? path = none)
    (hbytes : fs.read path = .ok (Json.document tokens).toUTF8)
    (hfault : Utf8.fault? (Json.document tokens).toUTF8 = none)
    (htext : Utf8.decode (Json.document tokens).toUTF8 = Json.document tokens)
    (hplain : ∀ token ∈ tokens, token.IsPlain)
    (hvalue : tokens.foldlM Json.step ⟨[], .value false⟩ = .ok ⟨[], .complete value⟩)
    (hlocate : locate value = some (key, entries)) : Reports fs path key entries := by
  refine ⟨hpath, Json.document tokens, value, ?_, Json.read_document hplain hvalue,
    locate_eq_some_iff.1 hlocate⟩
  rw [textIn?, hbytes]
  dsimp only
  rw [hfault, htext]
  rfl

/-- Entries in three layouts. The number between them gives no warning. -/
theorem load_threeLayouts :
    let all := [plainEntry "A.java" 1, .int 7, plainEntry "B.java" 2]
    let first : Warning := { file := "A.java", line := 1 }
    let second : Warning := { file := "B.java", line := 2 }
    (∀ entry ∈ all, ¬ HasInfiniteLine entry) ∧
      Reports layoutFiles "usual" "findings" all ∧
      Reports layoutFiles "bare" bareList [plainEntry "A.java" 1, .int 7] ∧
      Reports layoutFiles "other" "lint" [plainEntry "B.java" 2] ∧
      load layoutFiles "usual" = .ok ⟨[first, second], some "findings"⟩ ∧
      ∃ r₁ r₂, load layoutFiles "bare" = .ok r₁ ∧ load layoutFiles "other" = .ok r₂ ∧
        r₁.warnings ++ r₂.warnings = [first, second] := by
  intro all first second
  have hlines : ∀ entry ∈ all, ¬ HasInfiniteLine entry := by
    simp only [all, List.forall_mem_cons, ← Warning.ofEntry_eq_infiniteLine_iff]
    decide +kernel
  have husual : Reports layoutFiles "usual" "findings" all :=
    .of_tokens usualLayout (by decide) rfl (by decide +kernel) (by decide +kernel) (by decide) rfl
      rfl
  have hbare : Reports layoutFiles "bare" bareList [plainEntry "A.java" 1, .int 7] :=
    .of_tokens bareLayout (by decide) rfl (by decide +kernel) (by decide +kernel) (by decide) rfl
      rfl
  have hother : Reports layoutFiles "other" "lint" [plainEntry "B.java" 2] :=
    .of_tokens otherLayout (by decide) rfl (by decide +kernel) (by decide +kernel) (by decide) rfl
      rfl
  obtain ⟨hload, hparts⟩ := load_of_reports layoutFiles "usual" "findings" all hlines husual
  have hsound : soundWarnings all = [first, second] := by decide +kernel
  rw [hsound] at hload
  obtain ⟨r₁, r₂, h₁, h₂, htogether⟩ := hparts _ _ rfl "bare" "other" bareList "lint" hbare hother
  rw [hload] at htogether
  refine ⟨hlines, husual, hbare, hother, hload, r₁, r₂, h₁, h₂, ?_⟩
  exact (congrArg Report.warnings (Except.ok.inj htogether)).symm

end Report

end LintMark

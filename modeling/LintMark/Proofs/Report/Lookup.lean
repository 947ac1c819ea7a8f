import LintMark.Proofs.Report.Entries
import LintMark.Proofs.Report.Loading
import LintMark.Report.Query
import Mathlib.Data.List.TakeWhile

/-!
# Looking up the warnings of a file

A look-up puts every warning into the closest tier in which it matches and gives the first tier that
is not empty. This is the same as asking four questions one after the other, each of all warnings,
and keeping all warnings that the first one with any answer holds of (`byFile_closest`). A warning
of a tier that is passed over is never lost: were there one, its tier would have been the answer.

The last question compares last components up to case. It does not matter whether the path is split
first or lower-cased first, since a slash neither comes about by lower-casing nor lets the context
of a capital sigma reach across (`lastComponent_toLower`).
-/

namespace LintMark

namespace Text

/-! ## Letter case beside slashes -/

theorem eq_of_ofNat_eq_slash {n : Nat} (h : Char.ofNat n = '/') : n = 47 := by
  rw [Char.ofNat] at h
  by_cases hn : n.isValidChar
  · rw [dif_pos hn] at h
    exact congrArg Char.toNat h
  · rw [dif_neg hn] at h
    cases h

/-- No other symbol has a lower-case form with a slash. -/
theorem eq_of_slash_mem_lowerOf {before after : List Symbol} {s : Symbol}
    (h : .char '/' ∈ lowerOf before s after) : s = .char '/' := by
  have hascii : ∀ n < 128, (Char.ofNat n).toLower = '/' → Char.ofNat n = '/' := by decide
  have hruns : ∀ run ∈ lowerRuns, 47 < (run.1 : Int) + run.2.2.2 := by
    decide +kernel
  cases s with
  | half number => exact (List.mem_singleton.1 h).symm
  | char c =>
    rw [lowerOf] at h
    split_ifs at h with hsmall
    · have hc := hascii c.toNat hsmall
      rw [Char.ofNat_toNat] at hc
      rw [hc (Symbol.char.inj (List.mem_singleton.1 h)).symm]
    · exact absurd h (by decide)
    · exact absurd h (by decide)
    · exact absurd h (by decide)
    · have h := (Symbol.char.inj (List.mem_singleton.1 h)).symm
      rw [shiftByRuns] at h
      split at h
      · next lo hi step shift hfind =>
        -- A run starts behind the place that the slash would come from.
        have hrun := hruns _ (List.mem_of_find?_eq_some hfind)
        have hlo := List.find?_some hfind
        have heq := eq_of_ofNat_eq_slash h
        simp only [Bool.and_eq_true, decide_eq_true_eq] at hrun hlo
        omega
      · rw [h]

/-- What stands beyond a slash has no part in whether a word begins or ends. -/
theorem startsCased_append_slash (symbols rest : List Symbol) :
    startsCased (symbols ++ .char '/' :: rest) = startsCased symbols := by
  have hslash : inRanges caseIgnorableRanges (.char '/') = false ∧
      inRanges casedRanges (.char '/') = false := by
    decide +kernel
  rw [startsCased, startsCased]
  induction symbols with
  | nil =>
    rw [List.nil_append, List.dropWhile_cons, hslash.1]
    exact hslash.2
  | cons s symbols ih =>
    rw [List.cons_append, List.dropWhile_cons, List.dropWhile_cons]
    cases inRanges caseIgnorableRanges s with
    | true => exact ih
    | false => rfl

theorem lowerAfter_append_slash (before rest symbols : List Symbol) :
    lowerAfter (before ++ .char '/' :: rest) symbols = lowerAfter before symbols := by
  induction symbols generalizing before with
  | nil => rfl
  | cons s symbols ih =>
    have hs : lowerOf (before ++ .char '/' :: rest) s symbols = lowerOf before s symbols := by
      cases s with
      | half number => rfl
      | char c => rw [lowerOf, lowerOf, startsCased_append_slash]
    rw [lowerAfter, lowerAfter, hs, ← List.cons_append, ih]

/-- The lower-case form of a text ends with that of its end. -/
theorem exists_lowerAfter_append (before symbols symbols' : List Symbol) :
    ∃ front, lowerAfter before (symbols ++ symbols')
      = front ++ lowerAfter (symbols.reverse ++ before) symbols' := by
  induction symbols generalizing before with
  | nil => exact ⟨[], rfl⟩
  | cons s symbols ih =>
    obtain ⟨front, hfront⟩ := ih (s :: before)
    refine ⟨lowerOf before s (symbols ++ symbols') ++ front, ?_⟩
    rw [List.cons_append, lowerAfter, hfront, List.append_assoc, List.reverse_cons,
      List.append_assoc, List.singleton_append]

theorem slash_mem_of_mem_lowerAfter {before symbols : List Symbol}
    (h : .char '/' ∈ lowerAfter before symbols) : .char '/' ∈ symbols := by
  induction symbols generalizing before with
  | nil => exact h
  | cons s symbols ih =>
    rw [lowerAfter] at h
    obtain h | h := List.mem_append.1 h
    · rw [eq_of_slash_mem_lowerOf h]
      exact List.mem_cons_self
    · exact List.mem_cons_of_mem s (ih h)

end Text

namespace Path

/-! ## Parts of paths -/

theorem lastComponent_of_notMem {path : Text} (h : .char '/' ∉ path.symbols) :
    lastComponent path = path := by
  have hall : ∀ s ∈ path.symbols.reverse, decide (s ≠ .char '/') = true := by
    intro s hs
    refine decide_eq_true ?_
    rintro rfl
    exact h (List.mem_reverse.1 hs)
  rw [lastComponent, List.takeWhile_eq_self_iff.2 hall, List.reverse_reverse]

theorem lastComponent_of_eq_append {path : Text} {front last : List Symbol}
    (hpath : path.symbols = front ++ .char '/' :: last) (hlast : .char '/' ∉ last) :
    lastComponent path = ⟨last⟩ := by
  have hall : ∀ s ∈ last.reverse, decide (s ≠ .char '/') = true := by
    intro s hs
    refine decide_eq_true ?_
    rintro rfl
    exact hlast (List.mem_reverse.1 hs)
  rw [lastComponent, hpath, List.reverse_append, List.reverse_cons, List.append_assoc,
    List.takeWhile_append_of_pos hall]
  simp

/-- The last component of a lower-cased path is that of the path in lower case. -/
theorem lastComponent_toLower (path : Text) :
    lastComponent path.toLower = (lastComponent path).toLower := by
  by_cases hslash : .char '/' ∈ path.symbols
  · obtain ⟨last, front, hreverse, hlast⟩ :=
      List.eq_append_cons_of_mem (List.mem_reverse.2 hslash)
    have hpath : path.symbols = front.reverse ++ .char '/' :: last.reverse := by
      rw [← path.symbols.reverse_reverse, hreverse]
      simp
    have hlast : .char '/' ∉ last.reverse := fun h ↦ hlast (List.mem_reverse.1 h)
    obtain ⟨lowered, hlowered⟩ :=
      Text.exists_lowerAfter_append [] front.reverse (.char '/' :: last.reverse)
    have hlower : path.toLower.symbols
        = lowered ++ .char '/' :: Text.lowerAfter [] last.reverse := by
      rw [Text.toLower, hpath, hlowered, Text.lowerAfter, ← Text.lowerAfter_append_slash []]
      rfl
    rw [lastComponent_of_eq_append hpath hlast, lastComponent_of_eq_append hlower
      fun h ↦ hlast (Text.slash_mem_of_mem_lowerAfter h), Text.toLower]
  · have hlower : .char '/' ∉ path.toLower.symbols :=
      fun h ↦ hslash (Text.slash_mem_of_mem_lowerAfter h)
    rw [lastComponent_of_notMem hslash, lastComponent_of_notMem hlower]

/-! ## Backslashes and trailing slashes -/

theorem withSlashes_append (path path' : Text) :
    withSlashes (path ++ path') = withSlashes path ++ withSlashes path' :=
  Text.ext List.map_append

/-- Slashes at the end of a path do not matter once they are trimmed. -/
theorem trimEnd_append {path slashes : Text} (h : ∀ s ∈ slashes.symbols, s = .char '/') :
    trimEnd (path ++ slashes) = trimEnd path := by
  have hall : ∀ s ∈ slashes.symbols.reverse, decide (s = .char '/') = true :=
    fun s hs ↦ decide_eq_true (h s (List.mem_reverse.1 hs))
  rw [trimEnd, Text.symbols_append, List.reverse_append, List.dropWhile_append_of_pos hall,
    trimEnd]

/-- The path written with backslashes for some of its slashes. -/
def Respells (path spelled : Text) : Prop :=
  List.Forall₂ (fun s t ↦ t = s ∨ s = .char '/' ∧ t = .char '\\') path.symbols spelled.symbols

theorem Respells.withSlashes_eq {path spelled : Text} (h : Respells path spelled)
    (hpath : .char '\\' ∉ path.symbols) : withSlashes spelled = path := by
  have hmap : ∀ {symbols symbols' : List Symbol}, .char '\\' ∉ symbols →
      List.Forall₂ (fun s t ↦ t = s ∨ s = .char '/' ∧ t = .char '\\') symbols symbols' →
      symbols'.map (fun s ↦ if s = .char '\\' then .char '/' else s) = symbols := by
    intro symbols symbols' hsymbols h
    induction h with
    | nil => rfl
    | @cons s t symbols symbols' hst _ ih =>
      rw [List.mem_cons, not_or] at hsymbols
      obtain ⟨hs, hsymbols⟩ := hsymbols
      rw [List.map_cons, ih hsymbols]
      obtain rfl | ⟨rfl, rfl⟩ := hst
      · rw [if_neg (Ne.symm hs)]
      · rfl
  exact Text.ext (hmap hpath h)

/-- Neither backslashes for slashes nor separators at the end make a difference to a query. -/
theorem Respells.trimEnd_withSlashes {path spelled trailing : Text} (h : Respells path spelled)
    (hpath : .char '\\' ∉ path.symbols)
    (htrailing : ∀ s ∈ trailing.symbols, s ∈ [Symbol.char '/', .char '\\']) :
    trimEnd (withSlashes (spelled ++ trailing)) = trimEnd path := by
  rw [withSlashes_append, h.withSlashes_eq hpath, trimEnd_append fun s hs ↦ ?_]
  rw [withSlashes] at hs
  obtain ⟨t, ht, rfl⟩ := List.mem_map.1 hs
  have hseparator := htrailing t ht
  rw [List.mem_cons, List.mem_singleton] at hseparator
  obtain rfl | rfl := hseparator
  · rfl
  · rfl

theorem backslash_notMem_withSlashes (path : Text) :
    .char '\\' ∉ (withSlashes path).symbols := by
  intro h
  obtain ⟨s, -, hs⟩ := List.mem_map.1 h
  split_ifs at hs with hback
  · cases hs
  · exact hback hs

end Path

namespace Tier

/-! ## Tiers as questions -/

/-- The path of a warning matches a query in the way of the tier, whether or not it also matches in
a closer way. -/
def Matches (query path : Text) : Tier → Prop
  | exact => path = query
  | caseless => path.toLower = query.toLower
  | suffix => ("/" ++ query).symbols <:+ path.symbols ∨ ("/" ++ path).symbols <:+ query.symbols
  | lastComponent => (Path.lastComponent path).toLower = (Path.lastComponent query).toLower

instance (query path : Text) : (tier : Tier) → Decidable (tier.Matches query path)
  | exact => inferInstanceAs (Decidable (_ = _))
  | caseless => inferInstanceAs (Decidable (_ = _))
  | suffix => inferInstanceAs (Decidable (_ ∨ _))
  | lastComponent => inferInstanceAs (Decidable (_ = _))

theorem endsWith_iff {t u : Text} : t.endsWith u ↔ u.symbols <:+ t.symbols :=
  List.isSuffixOf_iff_suffix

/-- A path is put into the closest tier in which it matches. -/
theorem of?_eq_find? (query path : Text) :
    of? query path = all.find? fun tier ↦ tier.Matches query path := by
  have hstep : ∀ (tier : Tier) (tiers : List Tier),
      ((tier :: tiers).find? fun tier ↦ tier.Matches query path)
        = if tier.Matches query path then some tier
          else tiers.find? fun tier ↦ tier.Matches query path := by
    intro tier tiers
    rw [List.find?_cons]
    split_ifs with h
    · rw [decide_eq_true h]
    · rw [decide_eq_false h]
  rw [of?, Path.lastComponent_toLower, all, hstep, hstep, hstep, hstep]
  simp only [endsWith_iff]
  rfl

end Tier

namespace Report

/-! ## The first tier with an answer -/

/-- Values are put into the first of several classes that they have the property of. The first class
with a member holds all values with its property. -/
theorem find?_classes {τ α : Type} [DecidableEq τ] (P : τ → α → Bool) (xs : List α)
    {classes : List τ} (hnodup : classes.Nodup) :
    ((classes.map fun t ↦ xs.filter fun x ↦ classes.find? (P · x) = some t).find?
        (!·.isEmpty)).getD []
      = (classes.find? fun t ↦ xs.any (P t)).elim [] fun t ↦ xs.filter (P t) := by
  induction classes with
  | nil => rfl
  | cons t classes ih =>
    obtain ⟨ht, hnodup⟩ := List.nodup_cons.1 hnodup
    have hother : ∀ x, classes.find? (P · x) ≠ some t :=
      fun x hx ↦ ht (List.mem_of_find?_eq_some hx)
    have hfirst : (xs.filter fun x ↦ (t :: classes).find? (P · x) = some t)
        = xs.filter (P t) := by
      refine List.filter_congr fun x _ ↦ ?_
      rw [List.find?_cons]
      cases hx : P t x with
      | true => exact decide_eq_true rfl
      | false => exact decide_eq_false (hother x)
    rw [List.map_cons, List.find?_cons, List.find?_cons, hfirst]
    cases hany : xs.any (P t) with
    | true =>
      have hne : (xs.filter (P t)).isEmpty = false := by
        rw [Bool.eq_false_iff, Ne, List.isEmpty_iff, List.filter_eq_nil_iff]
        obtain ⟨x, hx, hP⟩ := List.any_eq_true.1 hany
        exact fun h ↦ h x hx hP
      rw [hne]
      rfl
    | false =>
      -- No value is in the first class, so the others are classified as if it were not there.
      have hnone : ∀ x ∈ xs, P t x = false := fun x hx ↦
        Bool.eq_false_iff.2 (List.any_eq_false.1 hany x hx)
      have hempty : xs.filter (P t) = [] :=
        List.filter_eq_nil_iff.2 fun x hx ↦ Bool.eq_false_iff.1 (hnone x hx)
      rw [hempty]
      change ((classes.map _).find? _).getD [] = _
      rw [← ih hnodup]
      congr 2
      refine List.map_congr_left fun u _ ↦ List.filter_congr fun x hx ↦ ?_
      rw [List.find?_cons, hnone x hx]

variable (report : Report)

theorem inTier_eq (query : Text) (tier : Tier) :
    report.inTier query tier = report.warnings.zipIdx.filter fun p ↦
      (Tier.all.find? fun tier ↦ tier.Matches query (Path.trimEnd p.1.file)) = some tier := by
  refine List.filter_congr ?_
  rintro ⟨w, i⟩ -
  dsimp only
  rw [Tier.of?_eq_find?]

/-- A look-up gives all warnings that match in the closest tier in which one matches. -/
theorem byFile_eq (file : Text) :
    let query := Path.trimEnd (Path.withSlashes file)
    report.byFile file = (Tier.all.find? fun tier ↦ report.warnings.any fun w ↦
        tier.Matches query (Path.trimEnd w.file)).elim []
      fun tier ↦ report.warnings.filter fun w ↦ tier.Matches query (Path.trimEnd w.file) := by
  intro query
  have hfst : report.warnings.zipIdx.map Prod.fst = report.warnings := List.zipIdx_map_fst 0 _
  have hclasses := find?_classes
    (fun tier (p : Warning × Nat) ↦ decide (tier.Matches query (Path.trimEnd p.1.file)))
    report.warnings.zipIdx (by decide : Tier.all.Nodup)
  have hany : (fun tier : Tier ↦ report.warnings.zipIdx.any fun p ↦
      decide (tier.Matches query (Path.trimEnd p.1.file)))
        = fun tier : Tier ↦ report.warnings.any fun w ↦
          tier.Matches query (Path.trimEnd w.file) := by
    funext tier
    conv_rhs => rw [← hfst]
    rw [List.any_map]
    rfl
  rw [byFile, placedByFile, List.map_congr_left fun tier _ ↦ report.inTier_eq query tier,
    hclasses, hany]
  cases Tier.all.find? _ with
  | none => rfl
  | some tier =>
    rw [Option.elim_some, Option.elim_some]
    conv_rhs => rw [← hfst]
    rw [List.filter_map]
    rfl

/-! ## Warnings of loaded reports -/

/-- The path of a warning that an entry gives was read with slashes for backslashes. -/
theorem exists_withSlashes_of_ofEntry {entry : Json} {w : Warning}
    (h : Warning.ofEntry entry = .ok w) : ∃ path, w.file = Path.withSlashes path := by
  cases entry with
  | obj members =>
    obtain ⟨v, -, hfile, -⟩ := Warning.exists_of_ofObject h
    exact ⟨v.text, hfile⟩
  | _ => cases h

variable {report}

/-- No warning of a loaded report has a backslash in its path. -/
theorem backslash_notMem_of_load {fs : Files} {path : Text} (h : load fs path = .ok report)
    {w : Warning} (hw : w ∈ report.warnings) : Symbol.char '\\' ∉ w.file.symbols := by
  obtain ⟨e, -, he⟩ | ⟨-, hok⟩ := load_or_obstacle fs path
  · rw [h] at he
    cases he
  · rw [h] at hok
    cases hok
    rw [gathered] at hw
    cases hfound : entriesIn? fs path with
    | none =>
      rw [hfound] at hw
      cases hw
    | some found =>
      rw [hfound] at hw
      obtain ⟨entry, -, hentry⟩ := List.mem_filterMap.1 hw
      cases hwarning : Warning.ofEntry entry with
      | error e =>
        rw [hwarning] at hentry
        cases hentry
      | ok w' =>
        rw [hwarning] at hentry
        cases hentry
        obtain ⟨path, hfile⟩ := exists_withSlashes_of_ofEntry hwarning
        rw [hfile]
        exact Path.backslash_notMem_withSlashes path

/-! ## Main result -/

/-- **The closest matches.** A look-up asks of all warnings whether their paths match in the closest
way, then in the next one, and so on. It gives all warnings that the first question holds of that
holds of any, in their order, and no warnings if there is no such question. So a warning of a loaded
report is found under its own path, with backslashes for any of its slashes and any separators at
the end, and nothing is found with it but what has the same path up to slashes at the end. -/
theorem byFile_closest (report : Report) (file : Text) :
    (let query := Path.trimEnd (Path.withSlashes file)
     report.byFile file = (Tier.all.find? fun tier ↦ report.warnings.any fun w ↦
         tier.Matches query (Path.trimEnd w.file)).elim []
       fun tier ↦ report.warnings.filter fun w ↦ tier.Matches query (Path.trimEnd w.file)) ∧
    ∀ fs path, load fs path = .ok report → ∀ w ∈ report.warnings, ∀ spelled trailing,
      Path.Respells w.file spelled → (∀ s ∈ trailing.symbols, s ∈ [Symbol.char '/', .char '\\']) →
      file = spelled ++ trailing → w ∈ report.byFile file ∧
        report.byFile file
          = report.warnings.filter fun v ↦ Path.trimEnd v.file = Path.trimEnd w.file := by
  refine ⟨report.byFile_eq file, ?_⟩
  rintro fs path hload w hw spelled trailing hspelled htrailing rfl
  have hquery := hspelled.trimEnd_withSlashes (backslash_notMem_of_load hload hw) htrailing
  have hfound : report.byFile (spelled ++ trailing)
      = report.warnings.filter fun v ↦ Path.trimEnd v.file = Path.trimEnd w.file := by
    have hexact : (report.warnings.any fun v ↦
        Tier.exact.Matches (Path.trimEnd w.file) (Path.trimEnd v.file)) = true :=
      List.any_eq_true.2 ⟨w, hw, decide_eq_true rfl⟩
    rw [report.byFile_eq, hquery, Tier.all, List.find?_cons, hexact]
    rfl
  refine ⟨?_, hfound⟩
  rw [hfound]
  exact List.mem_filter.2 ⟨hw, decide_eq_true rfl⟩

/-- A report of two warnings. The path of the first is written with a backslash. -/
def twoPaths : ByteArray :=
  ("[\x7b\"file\":\"src\\\\A.java\",\"line\":1\x7d," ++
    "\x7b\"file\":\"A.java\",\"line\":2\x7d]").toUTF8

/-- The first warning is found under its path with a backslash and a slash at the end, and the
second one is not found with it, though it matches less closely. -/
theorem byFile_twoPaths :
    let fs : Files :=
      ⟨[(["report", "work"], .file twoPaths), (["work"], .directory)], ["work"]⟩
    let first : Warning := { file := "src/A.java", line := 1 }
    let second : Warning := { file := "A.java", line := 2 }
    let report : Report := ⟨[first, second], some bareList⟩
    load fs "report" = .ok report ∧ Path.Respells first.file "src\\A.java" ∧
      report.byFile "src\\A.java/" = [first] := by
  intro fs first second report
  have hload : load fs "report" = .ok report := by
    have hread : fs.read "report" = .ok twoPaths := rfl
    have hpath : Path.fault? "report" = none := by decide
    rw [load, hpath, hread]
    decide +kernel
  have hspelled : Path.Respells first.file "src\\A.java" := by
    rw [Path.Respells]
    decide +kernel
  refine ⟨hload, hspelled, ?_⟩
  rw [((byFile_closest report "src\\A.java/").2 fs "report" hload first List.mem_cons_self
    "src\\A.java" "/" hspelled (by decide) rfl).2]
  decide +kernel

end Report

end LintMark

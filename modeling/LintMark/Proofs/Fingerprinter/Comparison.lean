import LintMark.Fingerprinter.Request
import LintMark.Proofs.Fingerprint.Signed
import LintMark.Proofs.Fingerprinter.Batch
import LintMark.Proofs.Fingerprinter.EntryPoints
import Mathlib.Data.List.TFAE

/-!
# Comparing fingerprints

Fingerprints name the same warning when their digests are equal, but the codes are compared first.
Of two fingerprints that were put together by hand, the codes may differ where the digests do not.
Of two that fingerprinters gave they cannot (`sameWarning_of_run`): there is no way to a fingerprint
but from a digest, and the code is computed from that digest.

## From one operation to a run

Fingerprints come out singly, in explanations, and in batches with gaps. Each belongs to a line of
some tree, so each carries the code of its digest (`Operation.coded_of_mem`); a run of operations
adds nothing to that (`coded_of_mem_produced`). Which fingerprinters take part does not matter, and
fingerprints of different ones may be compared.

The digest algorithm does not matter either, so an operation may bring a digest function of its own
(`Operation.digested`).
-/

namespace LintMark

/-! ## Fingerprints with the codes of their digests -/

/-- Every digest is a sequence of hexadecimal digits. -/
theorem Algorithm.isHex_hexDigest (algorithm : Algorithm) (text : String) :
    Code.IsHex (algorithm.hexDigest text) := by
  obtain ⟨code, hcode⟩ := algorithm.ofHex_hexDigest text
  by_contra h
  rw [Code.ofHex_of_not_isHex h] at hcode
  cases hcode

namespace Fingerprint

variable {f g : Fingerprint} {digest : String}

/-- What is made of a digest carries the code of the digest. -/
theorem coded_of_ofDigest (h : ofDigest digest = .ok f) : f.Coded := by
  obtain ⟨code, hcode, rfl⟩ := Except.map_eq_ok_iff.1 h
  exact hcode

/-- A fingerprint can be made of every sequence of hexadecimal digits. -/
theorem exists_ofDigest (h : Code.IsHex digest) : ∃ f, ofDigest digest = .ok f := by
  rw [ofDigest, Code.ofHex_of_isHex h]
  exact ⟨_, rfl⟩

theorem Coded.sameWarning_iff (hf : f.Coded) (hg : g.Coded) :
    sameWarning (some f) (some g) = true ↔ f.digest = g.digest := by
  rw [hf.sameWarning_eq hg, decide_eq_true_iff]

-- Put together by hand, two fingerprints with one digest may be told apart.
example : sameWarning (some ⟨"00", 0⟩) (some ⟨"00", 1⟩) = false := by decide

theorem Coded.eq_of_digest_eq (hf : f.Coded) (hg : g.Coded) (h : f.digest = g.digest) : f = g := by
  have hcode := hf.code_eq hg h
  cases f
  cases g
  cases h
  cases hcode
  rfl

end Fingerprint

namespace Fingerprinter

variable {fp : Fingerprinter} {ws : Workspace} {f : Fingerprint}

/-! ## Single fingerprints -/

/-- The digest is as long as the algorithm makes it, whatever the tree is. -/
theorem length_digest_fingerprintTree (fp : Fingerprinter) (t : Tree) (line : Int)
    (strategy : Strategy) (name : Option String) :
    (fp.fingerprintTree t line strategy name).digest.length = fp.algorithm.width * 2 := by
  rw [fingerprintTree, Tree.fingerprint, Fingerprint.digest_ofText, Algorithm.length_hexDigest]

theorem coded_of_fingerprintWarning {w : Warning} (h : fp.fingerprintWarning ws w = .ok f) :
    f.Coded := by
  obtain ⟨t, -, h⟩ := Except.bind_eq_ok_iff.1 h
  exact coded_of_fingerprintNamed fp h

theorem coded_of_explain {q : Query} {x : Explanation} (h : fp.explain ws q = .ok x) :
    x.fingerprint.Coded := by
  obtain ⟨t, -, h⟩ := Except.bind_eq_ok_iff.1 h
  obtain ⟨strategy, -, h⟩ := Except.bind_eq_ok_iff.1 h
  obtain ⟨canonical, -, h⟩ := Except.bind_eq_ok_iff.1 h
  cases h
  exact Fingerprint.coded_ofText fp.algorithm canonical

/-! ## Batches -/

/-- The fingerprints of a batch carry their codes, since its warnings get them on their own. -/
theorem coded_of_batch {warnings : List Warning} {results : List (Warning × Option Fingerprint)}
    (h : (fp.batch ws warnings).results = .ok results) (hf : some f ∈ results.map Prod.snd) :
    f.Coded := by
  rw [results_batch] at h
  induction warnings generalizing results with
  | nil =>
    cases h
    cases hf
  | cons w rest ih =>
    rw [List.mapM_cons] at h
    obtain ⟨row, hrow, h⟩ := Except.bind_eq_ok_iff.1 h
    obtain ⟨rows, hrows, h⟩ := Except.bind_eq_ok_iff.1 h
    cases h
    obtain ⟨g, hg, rfl⟩ := Except.map_eq_ok_iff.1 hrow
    obtain hf | hf := List.mem_cons.1 hf
    · cases hf
      exact coded_of_fingerprintWarning (fingerprintWarning_of_inBatch hg)
    · exact ih hrows hf

/-! ## Replies -/

/-- The fingerprints in a reply, with a gap for each warning that goes without one. -/
def Reply.contained : Reply → List (Option Fingerprint)
  | .fingerprint f => [some f]
  | .explanation x => [some x.fingerprint]
  | .tree _ => []
  | .batch results => results.map Prod.snd

/-- The fingerprints in a reply carry the codes of their digests. -/
theorem coded_of_reply {request : Request} {r : Reply} (h : fp.reply ws request = .ok r)
    (hf : some f ∈ r.contained) : f.Coded := by
  cases request with
  | fingerprint q =>
    obtain ⟨g, hg, rfl⟩ := Except.map_eq_ok_iff.1 (Except.mapError_eq_ok_iff.1 h)
    cases List.mem_singleton.1 hf
    exact coded_of_fingerprint fp ws hg
  | explain q =>
    obtain ⟨x, hx, rfl⟩ := Except.map_eq_ok_iff.1 (Except.mapError_eq_ok_iff.1 h)
    cases List.mem_singleton.1 hf
    exact coded_of_explain hx
  | tree file =>
    obtain ⟨t, -, rfl⟩ := Except.map_eq_ok_iff.1 (Except.mapError_eq_ok_iff.1 h)
    cases hf
  | warning w =>
    obtain ⟨g, hg, rfl⟩ := Except.map_eq_ok_iff.1 (Except.mapError_eq_ok_iff.1 h)
    cases List.mem_singleton.1 hf
    exact coded_of_fingerprintWarning hg
  | batch warnings =>
    obtain ⟨results, hresults, rfl⟩ := Except.map_eq_ok_iff.1 (Except.mapError_eq_ok_iff.1 h)
    exact coded_of_batch hresults hf
  | report path =>
    obtain ⟨b, hb, h⟩ := Except.bind_eq_ok_iff.1 h
    obtain ⟨report, -, rfl⟩ := Except.map_eq_ok_iff.1 (Except.mapError_eq_ok_iff.1 hb)
    obtain ⟨results, hresults, rfl⟩ := Except.map_eq_ok_iff.1 (Except.mapError_eq_ok_iff.1 h)
    exact coded_of_batch hresults hf

/-! ## Runs -/

/-- What fingerprints come from. -/
inductive Operation where
  /-- A fingerprinter is asked something in a workspace. -/
  | ask (fp : Fingerprinter) (ws : Workspace) (request : Request)
  /-- A fingerprinter takes the fingerprint of a line of a tree at hand. -/
  | onTree (fp : Fingerprinter) (t : Tree) (line : Int) (strategy : Strategy) (name : Option Text)
  /-- The fingerprint of a line of a tree at hand is made of a digest by any other algorithm. -/
  | digested (hexDigest : String → String) (t : Tree) (line : Int) (strategy : Strategy)
    (name : Option String)

namespace Operation

/-- The fingerprints that an operation gives, with gaps. An operation that fails gives none. -/
def fingerprints : Operation → List (Option Fingerprint)
  | ask fp ws request =>
    match fp.reply ws request with
    | .ok r => r.contained
    | .error _ => []
  | onTree fp t line strategy name =>
    match fp.fingerprintNamed t line strategy name with
    | .ok f => [some f]
    | .error _ => []
  | digested hexDigest t line strategy name =>
    let site := Site.ofLine t line
    match Fingerprint.ofDigest (hexDigest (t.canonical (site.window strategy) site.constants name))
    with
    | .ok f => [some f]
    | .error _ => []

variable {w : Warning} {warnings : List Warning}

theorem fingerprints_warning (h : fp.fingerprintWarning ws w = .ok f) :
    (ask fp ws (.warning w)).fingerprints = [some f] := by
  rw [fingerprints, reply, h]
  rfl

/-- A batch gives what its warnings get, if each of them gets something. -/
theorem fingerprints_batch {g : Warning → Option Fingerprint}
    (hg : ∀ w ∈ warnings, fp.inBatch ws w = .ok (g w)) :
    (ask fp ws (.batch warnings)).fingerprints = warnings.map g := by
  have hresults : (fp.batch ws warnings).results = .ok (warnings.map fun w ↦ (w, g w)) := by
    rw [results_batch]
    exact mapM_eq_ok_map fun w hw ↦ congrArg (Except.map _) (hg w hw)
  rw [fingerprints, reply, hresults]
  show (warnings.map _).map Prod.snd = _
  rw [List.map_map]
  rfl

/-- **One operation**: the fingerprints that it gives carry the codes of their digests. -/
theorem coded_of_mem {op : Operation} (h : some f ∈ op.fingerprints) : f.Coded := by
  cases op with
  | ask fp ws request =>
    rw [fingerprints] at h
    split at h
    · next hreply => exact coded_of_reply hreply h
    · cases h
  | onTree fp t line strategy name =>
    rw [fingerprints] at h
    split at h
    · next hf =>
      cases List.mem_singleton.1 h
      exact coded_of_fingerprintNamed fp hf
    · cases h
  | digested hexDigest t line strategy name =>
    rw [fingerprints] at h
    split at h
    · next hf =>
      cases List.mem_singleton.1 h
      exact Fingerprint.coded_of_ofDigest hf
    · cases h

/-- A digest in hexadecimal digits gives a fingerprint. -/
theorem exists_digested {hexDigest : String → String}
    (h : ∀ text, Code.IsHex (hexDigest text)) (t : Tree) (line : Int) (strategy : Strategy)
    (name : Option String) :
    ∃ f, (digested hexDigest t line strategy name).fingerprints = [some f] := by
  let site := Site.ofLine t line
  obtain ⟨f, hf⟩ := Fingerprint.exists_ofDigest
    (h (t.canonical (site.window strategy) site.constants name))
  rw [fingerprints, hf]
  exact ⟨f, rfl⟩

end Operation

/-- The fingerprints that a run of operations gives, with gaps. -/
def produced (run : List Operation) : List (Option Fingerprint) :=
  run.flatMap Operation.fingerprints

/-- **A run of operations**: the fingerprints that it gives carry the codes of their digests. -/
theorem coded_of_mem_produced {run : List Operation} (h : some f ∈ produced run) : f.Coded := by
  obtain ⟨op, -, hop⟩ := List.mem_flatMap.1 h
  exact Operation.coded_of_mem hop

/-! ## Main result -/

open Fingerprint (sameWarning)

/-- Fingerprints that carry the codes of their digests, if they are there, name the same warning
exactly if they have the same digest, and then they are one and the same. -/
theorem tfae_sameWarning {a b : Option Fingerprint} (ha : ∀ f, a = some f → f.Coded)
    (hb : ∀ g, b = some g → g.Coded) :
    [sameWarning a b = true,
      ∃ f g, a = some f ∧ b = some g ∧ f.digest = g.digest,
      ∃ f g, a = some f ∧ b = some g ∧ f.sameDigest g = true,
      a ≠ none ∧ a = b].TFAE := by
  tfae_have 1 → 2 := by
    intro h
    cases a with
    | none => cases h
    | some f =>
      cases b with
      | none => cases h
      | some g => exact ⟨f, g, rfl, rfl, ((ha f rfl).sameWarning_iff (hb g rfl)).1 h⟩
  tfae_have 2 → 3 := fun ⟨f, g, hf, hg, h⟩ ↦ ⟨f, g, hf, hg, decide_eq_true h⟩
  tfae_have 3 → 4 := by
    rintro ⟨f, g, rfl, rfl, h⟩
    have hdigest : f.digest = g.digest := of_decide_eq_true h
    rw [(ha f rfl).eq_of_digest_eq (hb g rfl) hdigest]
    exact ⟨Option.some_ne_none g, rfl⟩
  tfae_have 4 → 1 := by
    rintro ⟨hne, rfl⟩
    obtain ⟨f, rfl⟩ := Option.ne_none_iff_exists'.1 hne
    exact ((ha f rfl).sameWarning_iff (ha f rfl)).2 rfl
  tfae_finish

/-- **The codes change no comparison.** No fingerprint fails for want of a code, as long as digests
are sequences of hexadecimal digits, and all the fingerprints of a run carry the codes of their
digests. Of these, with gaps among them, two name the same warning exactly if both are there and
have the same digest, and then they are one and the same. To name the same warning is an equivalence
of the fingerprints of the run. -/
theorem sameWarning_of_run (run : List Operation) :
    (∀ hexDigest, (∀ text, Code.IsHex (hexDigest text)) → ∀ t line strategy name,
      ∃ f, (Operation.digested hexDigest t line strategy name).fingerprints = [some f]) ∧
    (∀ f, some f ∈ produced run → Code.ofHex f.digest = .ok f.code) ∧
    (∀ a ∈ none :: produced run, ∀ b ∈ none :: produced run,
      [sameWarning a b = true,
        ∃ f g, a = some f ∧ b = some g ∧ f.digest = g.digest,
        ∃ f g, a = some f ∧ b = some g ∧ f.sameDigest g = true,
        a ≠ none ∧ a = b].TFAE) ∧
    Equivalence fun f g : {f // some f ∈ produced run} ↦
      sameWarning (some f.1) (some g.1) = true := by
  have hcoded : ∀ a ∈ none :: produced run, ∀ f, a = some f → f.Coded := by
    rintro a ha f rfl
    obtain ha | ha := List.mem_cons.1 ha
    · cases ha
    · exact coded_of_mem_produced ha
  have hsame : ∀ f g : {f // some f ∈ produced run},
      sameWarning (some f.1) (some g.1) = true ↔ f.1.digest = g.1.digest := fun f g ↦
    (coded_of_mem_produced f.2).sameWarning_iff (coded_of_mem_produced g.2)
  refine ⟨fun _ ↦ Operation.exists_digested, fun _ ↦ coded_of_mem_produced,
    fun a ha b hb ↦ tfae_sameWarning (hcoded a ha) (hcoded b hb), ?_⟩
  exact {
    refl := fun f ↦ (hsame f f).2 rfl
    symm := fun {f g} h ↦ (hsame g f).2 ((hsame f g).1 h).symm
    trans := fun {f g k} h h' ↦ (hsame f k).2 (((hsame f g).1 h).trans ((hsame g k).1 h')) }

/-- One line is fingerprinted twice with one algorithm, on its own and in a batch, and once with a
wider one. The file of the last warning is missing. -/
theorem sameWarning_twoAlgorithms :
    let fp := usual "."
    let wide : Fingerprinter := ⟨".", "sha256", .sha256, true, .bare, rfl⟩
    let w : Warning := { file := "A.java", line := 1 }
    let lost : Warning := { file := "B.java", line := 7 }
    let run := [.ask fp incrementWorkspace (.warning w), .ask wide incrementWorkspace (.warning w),
      .ask fp incrementWorkspace (.batch [w, lost])]
    (∀ text, Code.IsHex (Algorithm.sha1.hexDigest text)) ∧
    ∃ t f g, fp.tree incrementWorkspace w.file = .ok t ∧
      (∃ x, (Operation.digested Algorithm.sha1.hexDigest t 1 .line none).fingerprints = [some x]) ∧
      produced run = [some f, some g, some f, none] ∧
      sameWarning (some f) (some f) = true ∧ sameWarning (some f) (some g) = false := by
  intro fp wide w lost run
  obtain ⟨t, ht⟩ := exists_tree_incrementWorkspace
  have hsingle : ∀ fp : Fingerprinter, fp.root = "." →
      ∃ f, fp.fingerprintWarning incrementWorkspace w = .ok f ∧
        f.digest.length = fp.algorithm.width * 2 := by
    intro fp hroot
    refine ⟨fp.fingerprintTree t 1 w.settled none, ?_, length_digest_fingerprintTree fp t _ _ _⟩
    rw [fingerprintWarning_of_tree (ht fp hroot)]
    exact fp.fingerprintNamed_map_ofString t 1 w.settled none
  obtain ⟨f, hf, hflength⟩ := hsingle fp rfl
  obtain ⟨g, hg, hglength⟩ := hsingle wide rfl
  have hmissing : fp.tree incrementWorkspace lost.file
      = .error (.source ⟨"./B.java", .unreadable .missing⟩) := by
    have hB : fp.pathOf lost.file = "./B.java" := by decide
    rw [Fingerprinter.tree, hB]
    rfl
  have hgets : ∀ v ∈ [w, lost], fp.inBatch incrementWorkspace v
      = .ok (fp.fingerprintWarning incrementWorkspace v).toOption := by
    rw [List.forall_mem_cons, List.forall_mem_singleton, inBatch, inBatch, hf, fingerprintWarning,
      hmissing]
    exact ⟨rfl, rfl⟩
  have hlost : (fp.fingerprintWarning incrementWorkspace lost).toOption = none := by
    rw [fingerprintWarning, hmissing]
    rfl
  have hproduced : produced run = [some f, some g, some f, none] := by
    show (Operation.ask fp _ _).fingerprints ++ ((Operation.ask wide _ _).fingerprints
      ++ ((Operation.ask fp _ _).fingerprints ++ [])) = _
    rw [Operation.fingerprints_warning hf, Operation.fingerprints_warning hg,
      Operation.fingerprints_batch hgets, List.map_cons, List.map_singleton, hf, hlost]
    rfl
  have hhex : ∀ text, Code.IsHex (Algorithm.sha1.hexDigest text) := Algorithm.sha1.isHex_hexDigest
  obtain ⟨hdigested, -, hsame, hequivalence⟩ := sameWarning_of_run run
  rw [hproduced] at hsame hequivalence
  refine ⟨hhex, t, f, g, ht fp rfl, hdigested _ hhex t 1 .line none, hproduced, ?_, ?_⟩
  · exact hequivalence.refl ⟨f, List.mem_cons_self⟩
  · rw [Bool.eq_false_iff]
    intro h
    have htfae := hsame (some f) (by simp) (some g) (by simp)
    obtain ⟨f', g', hf', hg', hdigest⟩ := (htfae.out 0 1).1 h
    cases hf'
    cases hg'
    rw [hdigest, hglength] at hflength
    cases hflength

end Fingerprinter

end LintMark

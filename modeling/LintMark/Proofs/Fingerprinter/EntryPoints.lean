import LintMark.Fingerprinter.Basic
import LintMark.Proofs.Fingerprint.Code

/-!
# Three ways to one fingerprint

A line is fingerprinted for a query, for a warning, and in an explanation. The three read the file,
settle the strategy and encode the canonical text each on its own, and they agree
(`entryPoints_agree`): they fail for the same reason, or they give the same fingerprint.

Each of them is what a tree determines, taken after the file has been read (`fingerprint_eq`,
`explain_eq`, `fingerprintWarning_eq`). A strategy that has a name never fails to be settled, so for
the values of a warning two failures are left: the file has no tree, or the name of the warning
cannot be encoded.
-/

/-! ## Success of a computation in steps -/

namespace Except

variable {ε ε' α β : Type}

theorem bind_eq_ok_iff {x : Except ε α} {k : α → Except ε β} {b : β} :
    x >>= k = .ok b ↔ ∃ a, x = .ok a ∧ k a = .ok b := by
  cases x with
  | error e => exact iff_of_false (fun h ↦ nomatch h) fun ⟨_, h, _⟩ ↦ nomatch h
  | ok a => exact ⟨fun h ↦ ⟨a, rfl, h⟩, fun ⟨_, ha, h⟩ ↦ Except.ok.inj ha ▸ h⟩

theorem map_eq_ok_iff {x : Except ε α} {f : α → β} {b : β} :
    x.map f = .ok b ↔ ∃ a, x = .ok a ∧ f a = b := by
  cases x with
  | error e => exact iff_of_false (fun h ↦ nomatch h) fun ⟨_, h, _⟩ ↦ nomatch h
  | ok a => exact ⟨fun h ↦ ⟨a, rfl, Except.ok.inj h⟩, fun ⟨_, ha, h⟩ ↦ Except.ok.inj ha ▸ h ▸ rfl⟩

theorem mapError_eq_ok_iff {x : Except ε α} {f : ε → ε'} {a : α} :
    x.mapError f = .ok a ↔ x = .ok a := by
  cases x with
  | error e => exact iff_of_false (fun h ↦ nomatch h) fun h ↦ nomatch h
  | ok b => exact ⟨fun h ↦ congrArg Except.ok (Except.ok.inj h), fun h ↦ h ▸ rfl⟩

end Except

namespace LintMark

/-- The query with the values of a warning. Its strategy goes by its name. -/
def Warning.query (w : Warning) : Query where
  file := w.file
  line := w.line
  rule := w.rule
  strategy := w.strategy.map fun strategy ↦ strategy.name
  name := w.contextName
  category := w.category

/-- The strategy of a warning: the one that its report asks for, or else the one that suits it. -/
def Warning.settled (w : Warning) : Strategy :=
  w.strategy.getD (Strategy.forWarning w.rule w.category)

namespace Fingerprinter

variable (fp : Fingerprinter) (ws : Workspace) {q : Query} {w : Warning} {strategy : Strategy}

/-- The canonical text of a line of a tree under any name, as UTF-8 writes it. -/
def canonicalNamed (t : Tree) (line : Int) (strategy : Strategy) (name : Option Text) :
    Except EncodeError String :=
  let site := Site.ofLine t line
  (t.canonicalText (site.window strategy) site.constants name).encode

/-- The explanation that a tree and a canonical string determine. -/
def explanationOf (t : Tree) (q : Query) (strategy : Strategy) (canonical : String) :
    Explanation :=
  let site := Site.ofLine t q.line
  { file := q.file
    line := q.line
    strategy
    windowSize := (site.window strategy).length
    constants := constantKinds t site.constants
    canonical
    lastLine := site.lastLine
    fingerprint := .ofText fp.algorithm canonical }

/-! ## Settling the strategy -/

theorem settleStrategy_map_name (strategy : Option Strategy) (rule category : Text) :
    settleStrategy (strategy.map fun strategy ↦ strategy.name) rule category
      = .ok (strategy.getD (Strategy.forWarning rule category)) := by
  cases strategy with
  | none => rfl
  | some strategy => exact strategy.ofName_name

/-! ## Reading, and then what the tree determines -/

theorem fingerprint_eq (hq : settleStrategy q.strategy q.rule q.category = .ok strategy) :
    fp.fingerprint ws q = (fp.tree ws q.file).mapError .read >>= fun t ↦
      ((canonicalNamed t q.line strategy q.name).mapError .encoding).map
        (.ofText fp.algorithm) := by
  rw [fingerprint, hq]
  cases fp.tree ws q.file <;> rfl

theorem explain_eq (hq : settleStrategy q.strategy q.rule q.category = .ok strategy) :
    fp.explain ws q = (fp.tree ws q.file).mapError .read >>= fun t ↦
      ((canonicalNamed t q.line strategy q.name).mapError .encoding).map
        (fp.explanationOf t q strategy) := by
  rw [explain, hq]
  cases fp.tree ws q.file <;> rfl

/-- Under a name of characters, every line of a tree has its fingerprint. -/
theorem fingerprintNamed_map_ofString (t : Tree) (line : Int) (strategy : Strategy)
    (name : Option String) :
    fp.fingerprintNamed t line strategy (name.map Text.ofString)
      = .ok (fp.fingerprintTree t line strategy name) := by
  dsimp only [fingerprintNamed]
  rw [Tree.canonicalText_map_ofString, Text.encode_ofString]
  rfl

/-- A fingerprint under a name carries the code of its digest. -/
theorem coded_of_fingerprintNamed {t : Tree} {line : Int} {name : Option Text} {f : Fingerprint}
    (hf : fp.fingerprintNamed t line strategy name = .ok f) : f.Coded := by
  obtain ⟨canonical, -, hf⟩ := Except.bind_eq_ok_iff.1 hf
  cases hf
  exact Fingerprint.coded_ofText fp.algorithm canonical

theorem fingerprintOn_eq (t : Tree) (w : Warning) :
    fp.fingerprintOn t w
      = ((canonicalNamed t w.line w.settled w.contextName).mapError .encoding).map
        (.ofText fp.algorithm) := by
  rw [fingerprintOn, fingerprintNamed, Warning.settled, canonicalNamed]
  rfl

theorem fingerprintWarning_eq :
    fp.fingerprintWarning ws w = (fp.tree ws w.file).mapError .read >>= fun t ↦
      ((canonicalNamed t w.line w.settled w.contextName).mapError .encoding).map
        (.ofText fp.algorithm) := by
  rw [fingerprintWarning]
  cases fp.tree ws w.file with
  | error e => rfl
  | ok t => exact fp.fingerprintOn_eq t w

/-- A canonical text is encoded unless its name cannot be. -/
theorem exists_canonicalNamed_eq_error_iff {t : Tree} {line : Int} {strategy : Strategy}
    {name : Option Text} :
    (∃ e, canonicalNamed t line strategy name = .error e) ↔
      ∃ n, name = some n ∧ ¬ n.IsEncodable := by
  rw [canonicalNamed, Text.exists_encode_eq_error_iff, Tree.canonicalText,
    Text.isEncodable_ofString_append]
  constructor
  · intro h
    cases name with
    | none => exact absurd ⟨"", rfl⟩ h
    | some n => exact ⟨n, rfl, h⟩
  · rintro ⟨n, rfl, h⟩
    exact h

/-- The fingerprint of a query carries the code of its digest. -/
theorem coded_of_fingerprint {f : Fingerprint} (hf : fp.fingerprint ws q = .ok f) : f.Coded := by
  obtain ⟨t, -, hf⟩ := Except.bind_eq_ok_iff.1 hf
  obtain ⟨strategy, -, hf⟩ := Except.bind_eq_ok_iff.1 hf
  exact coded_of_fingerprintNamed fp hf

/-! ## Agreement -/

/-- **The entry points agree.** For the values of a warning, the fingerprint of a query, that of the
warning and the explanation all fail because the file cannot be read, or all fail because the
canonical text has a name that cannot be encoded, or all succeed with one fingerprint. It has the
digest of the canonical string that the explanation gives, and the code of that digest. The
explanation is about the window of its strategy on the tree of the file. -/
theorem entryPoints_agree (fp : Fingerprinter) (ws : Workspace) (w : Warning) :
    (∃ e, fp.tree ws w.file = .error e ∧ fp.fingerprint ws w.query = .error (.read e) ∧
      fp.fingerprintWarning ws w = .error (.read e) ∧ fp.explain ws w.query = .error (.read e)) ∨
    ∃ t, fp.tree ws w.file = .ok t ∧
      let strategy := w.strategy.getD (Strategy.forWarning w.rule w.category)
      let site := Site.ofLine t w.line
      let text := t.canonicalText (site.window strategy) site.constants w.contextName
      (∃ e, text.encode = .error e ∧ fp.fingerprint ws w.query = .error (.encoding e) ∧
        fp.fingerprintWarning ws w = .error (.encoding e) ∧
        fp.explain ws w.query = .error (.encoding e)) ∨
      ∃ f x, fp.fingerprint ws w.query = .ok f ∧ fp.fingerprintWarning ws w = .ok f ∧
        fp.explain ws w.query = .ok x ∧ x.fingerprint = f ∧
        f.digest = fp.algorithm.hexDigest x.canonical ∧ Code.ofHex f.digest = .ok f.code ∧
        x.file = w.file ∧ x.line = w.line ∧ x.strategy = strategy ∧
        x.windowSize = (site.window strategy).length ∧ text = x.canonical := by
  have hq : settleStrategy w.query.strategy w.query.rule w.query.category = .ok w.settled :=
    settleStrategy_map_name w.strategy w.rule w.category
  have hfile : w.query.file = w.file := rfl
  rw [fingerprint_eq fp ws hq, explain_eq fp ws hq, fingerprintWarning_eq, hfile]
  cases fp.tree ws w.file with
  | error e => exact .inl ⟨e, rfl, rfl, rfl, rfl⟩
  | ok t =>
    refine .inr ⟨t, rfl, ?_⟩
    intro strategy site text
    have hnamed : canonicalNamed t w.line w.settled w.contextName = text.encode := rfl
    have hquery : canonicalNamed t w.query.line w.settled w.query.name = text.encode := rfl
    dsimp only [Except.mapError, bind, Except.bind]
    rw [hnamed, hquery]
    cases htext : text.encode with
    | error e => exact .inl ⟨e, rfl, rfl, rfl, rfl⟩
    | ok canonical =>
      have hcoded := Fingerprint.coded_ofText fp.algorithm canonical
      exact .inr ⟨.ofText fp.algorithm canonical, fp.explanationOf t w.query w.settled canonical,
        rfl, rfl, rfl, rfl, Fingerprint.digest_ofText fp.algorithm canonical, hcoded, rfl, rfl,
        rfl, rfl, Text.encode_eq_ok_iff.1 htext⟩

end Fingerprinter

end LintMark

import LintMark.Fingerprinter.Basic
import LintMark.Proofs.Window.Environment
import LintMark.Proofs.Window.Selection

/-!
# Fingerprints do not see line numbers

A fingerprint depends on a tree through its shape and its texts, and on the line of the warning
through the nodes on that line. Lines and columns can be changed at will as long as the warning
stays on the same nodes (`fingerprintTree_eq_of_sameNodes`); moving a whole file, with the warning
in it, is the special case of `Tree.shiftLines`.

## Two runs

The statement compares two runs that share no number: the two trees may differ in every line, and
the two warnings are on different lines. What the runs share is the window, a list of indices, and
the text that it is written as.
-/

namespace LintMark

namespace Tree

/-! ## Canonical strings of trees of one shape -/

theorem SameShape.canonical_eq {s t : Tree} (h : SameShape s t) (htext : s.text = t.text) :
    s.canonical = t.canonical := by
  have hkinds : s.literalKinds = t.literalKinds := by
    funext bound text
    rw [literalKinds, literalKinds, h.kind_eq]
  have hbound : s.boundNames = t.boundNames := by
    funext b
    rw [boundNames, boundNames, h.kind_eq, htext]
  have hnode : s.nodeTokens = t.nodeTokens := by
    funext bound i
    rw [nodeTokens, nodeTokens, h.kind_eq, h.children_eq, h.descendants_eq, htext, hkinds]
  funext window b name
  rw [canonical, canonical, tokens, tokens, hbound, hnode]

/-! ## Trees that differ in places alone -/

/-- Two trees whose nodes differ at most in lines and columns. -/
structure SameApartFromPlaces (s t : Tree) : Prop where
  size_eq : s.size = t.size
  kind_eq : ∀ i < s.size, s.kind i = t.kind i
  text_eq : ∀ i < s.size, s.text i = t.text i
  firstChild_eq : ∀ i < s.size, (s.node i).firstChild = (t.node i).firstChild
  nextSibling_eq : ∀ i < s.size, (s.node i).nextSibling = (t.node i).nextSibling

/-- Line `l` of one tree and line `l'` of another hold the same nodes. -/
def SameNodesOn (s t : Tree) (l l' : Int) : Prop := ∀ i < s.size, s.line i = l ↔ t.line i = l'

namespace SameApartFromPlaces

variable {s t : Tree} (h : SameApartFromPlaces s t)

include h

theorem sameShape : SameShape s t :=
  SameShape.of_nodes h.size_eq fun i hi ↦
    ⟨h.kind_eq i hi, h.firstChild_eq i hi, h.nextSibling_eq i hi⟩

theorem symm : SameApartFromPlaces t s where
  size_eq := h.size_eq.symm
  kind_eq i hi := (h.kind_eq i (h.size_eq ▸ hi)).symm
  text_eq i hi := (h.text_eq i (h.size_eq ▸ hi)).symm
  firstChild_eq i hi := (h.firstChild_eq i (h.size_eq ▸ hi)).symm
  nextSibling_eq i hi := (h.nextSibling_eq i (h.size_eq ▸ hi)).symm

theorem trans {u : Tree} (h' : SameApartFromPlaces t u) : SameApartFromPlaces s u where
  size_eq := h.size_eq.trans h'.size_eq
  kind_eq i hi := (h.kind_eq i hi).trans (h'.kind_eq i (h.size_eq ▸ hi))
  text_eq i hi := (h.text_eq i hi).trans (h'.text_eq i (h.size_eq ▸ hi))
  firstChild_eq i hi := (h.firstChild_eq i hi).trans (h'.firstChild_eq i (h.size_eq ▸ hi))
  nextSibling_eq i hi := (h.nextSibling_eq i hi).trans (h'.nextSibling_eq i (h.size_eq ▸ hi))

theorem texts_eq : s.text = t.text := by
  funext i
  rcases Nat.lt_or_ge i s.size with hi | hi
  · exact h.text_eq i hi
  · rw [text, text, node_eq_of_size_le h.size_eq hi]

variable {l l' : Int} (hline : SameNodesOn s t l l')

include hline

theorem window_eq (strategy : Strategy) :
    (Site.ofLine s l).window strategy = (Site.ofLine t l').window strategy :=
  h.sameShape.window_eq (h.sameShape.nodesOnLine_eq hline) strategy

theorem canonical_window_eq (strategy : Strategy) (name : Option String) :
    s.canonical ((Site.ofLine s l).window strategy) (Site.ofLine s l).constants name
      = t.canonical ((Site.ofLine t l').window strategy) (Site.ofLine t l').constants name := by
  rw [h.window_eq hline, h.sameShape.canonical_eq h.texts_eq, Site.constants_ofLine,
    Site.constants_ofLine, h.sameShape.constants_eq]

end SameApartFromPlaces

theorem sameApartFromPlaces_mapTokens {t : Tree} {f : Token → Token}
    (hf : ∀ token, (f token).kind = token.kind ∧ (f token).text = token.text) :
    SameApartFromPlaces t (t.mapTokens f) where
  size_eq := size_mapTokens.symm
  kind_eq i hi := by
    rw [kind, kind, node_mapTokens hi]
    exact (hf _).1.symm
  text_eq i hi := by
    rw [text, text, node_mapTokens hi]
    exact (hf _).2.symm
  firstChild_eq i hi := by rw [node_mapTokens hi]
  nextSibling_eq i hi := by rw [node_mapTokens hi]

/-! ## Moving a file -/

/-- The tree with all lines moved by `k`. -/
def shiftLines (k : Int) (t : Tree) : Tree :=
  t.mapTokens fun token ↦ { token with line := token.line + k }

variable {t : Tree} {k : Int}

theorem node_shiftLines {i : Nat} (hi : i < t.size) :
    (t.shiftLines k).node i = { t.node i with line := t.line i + k } := node_mapTokens hi

theorem sameApartFromPlaces_shiftLines : SameApartFromPlaces t (t.shiftLines k) :=
  sameApartFromPlaces_mapTokens fun _ ↦ ⟨rfl, rfl⟩

theorem sameNodesOn_shiftLines (l : Int) : SameNodesOn t (t.shiftLines k) l (l + k) := by
  intro i hi
  have hline : (t.shiftLines k).line i = t.line i + k := by rw [line, node_shiftLines hi]
  rw [hline]
  exact (Int.add_left_inj k).symm

end Tree

namespace Fingerprinter

open LintMark.Tree

/-- **Line numbers never count.** Trees that differ in places alone have the same windows, the same
canonical strings and the same fingerprints on lines that hold the same nodes. So has a tree whose
lines have all been moved, on the line that has moved with them. -/
theorem fingerprintTree_eq_of_sameNodes (fp : Fingerprinter) (strategy : Strategy)
    (name : Option String) :
    (∀ (s t : Tree) (l l' : Int), SameApartFromPlaces s t → SameNodesOn s t l l' →
      (Site.ofLine s l).window strategy = (Site.ofLine t l').window strategy ∧
      s.canonical ((Site.ofLine s l).window strategy) (Site.ofLine s l).constants name
        = t.canonical ((Site.ofLine t l').window strategy) (Site.ofLine t l').constants name ∧
      fp.fingerprintTree s l strategy name = fp.fingerprintTree t l' strategy name) ∧
    ∀ (t : Tree) (l k : Int),
      fp.fingerprintTree (t.shiftLines k) (l + k) strategy name
        = fp.fingerprintTree t l strategy name := by
  have hfingerprint (s t : Tree) (l l' : Int) (h : SameApartFromPlaces s t)
      (hline : SameNodesOn s t l l') :
      fp.fingerprintTree s l strategy name = fp.fingerprintTree t l' strategy name :=
    congrArg (Fingerprint.ofText fp.algorithm) (h.canonical_window_eq hline strategy name)
  refine ⟨fun s t l l' h hline ↦ ?_, fun t l k ↦ ?_⟩
  · exact ⟨h.window_eq hline strategy, h.canonical_window_eq hline strategy name,
      hfingerprint s t l l' h hline⟩
  · exact (hfingerprint t (t.shiftLines k) l (l + k) sameApartFromPlaces_shiftLines
      (sameNodesOn_shiftLines l)).symm

/-- A class whose only statement stands on the given line, behind a comment of any length. -/
def commentedBlock (line : Int) : Tree :=
  .ofOutlines [.node ⟨.classDef, "", 1, 0⟩ [
    .node ⟨.slist, "\x7b", 1, 8⟩ [
      .node ⟨.expr, "", line, 2⟩ [.node ⟨.ident, "x", line, 2⟩ []],
      .node ⟨.semi, ";", line, 3⟩ []]]]

/-- Behind the comment the window is that of the statement. -/
theorem window_commentedBlock {line : Int} (hline : 1 < line) :
    (Site.ofLine (commentedBlock line) line).window .environment = [2, 3] := by
  have hleast : IsLeast
      {i | i < (commentedBlock line).size ∧ (commentedBlock line).line i = line} 2 := by
    refine Site.isLeast_line ⟨show 2 < 5 by decide, rfl, fun i hi ↦ ?_⟩
    have hfront : (commentedBlock line).line i = 1 := by
      match i, hi with
      | 0, _ | 1, _ => rfl
    omega
  have hchildren : (commentedBlock line).children 1 = [2, 4] :=
    children_eq_of_links rfl (List.forall_mem_cons.2 ⟨rfl, List.forall_mem_singleton.2 rfl⟩)
  have hinner : (commentedBlock line).IsInnermostMember 2 2 1 :=
    isInnermostMember_self (by rw [hchildren]; decide) (show Kind.slist ∈ _ by decide)
  have hmembers : (commentedBlock line).members 1 = [] ++ 2 :: [] := by
    rw [members, hchildren]
    rfl
  rw [commentedBlock, Site.environmentWindow_of_isInnermostMember hleast hinner hmembers]
  show (commentedBlock line).subtrees [2] = _
  cbv

/-- A comment of four lines above a statement moves the statement, and not its neighbours. -/
theorem fingerprintTree_commentedBlock :
    let fp : Fingerprinter := .usual "."
    SameApartFromPlaces (commentedBlock 2) (commentedBlock 6) ∧
      SameNodesOn (commentedBlock 2) (commentedBlock 6) 2 6 ∧
      (Site.ofLine (commentedBlock 2) 2).window .environment = [2, 3] ∧
      (Site.ofLine (commentedBlock 6) 6).window .environment = [2, 3] ∧
      fp.fingerprintTree (commentedBlock 2) 2 .environment none
        = fp.fingerprintTree (commentedBlock 6) 6 .environment none ∧
      fp.fingerprintTree ((commentedBlock 2).shiftLines 9) 11 .environment none
        = fp.fingerprintTree (commentedBlock 2) 2 .environment none := by
  intro fp
  have hplaces : SameApartFromPlaces (commentedBlock 2) (commentedBlock 6) :=
    ⟨by decide, by decide, by decide, by decide, by decide⟩
  have hnodes : SameNodesOn (commentedBlock 2) (commentedBlock 6) 2 6 := by
    unfold SameNodesOn
    decide
  obtain ⟨hsame, hshift⟩ := fingerprintTree_eq_of_sameNodes fp .environment none
  obtain ⟨-, -, hfingerprint⟩ := hsame _ _ 2 6 hplaces hnodes
  exact ⟨hplaces, hnodes, window_commentedBlock (by decide), window_commentedBlock (by decide),
    hfingerprint, hshift (commentedBlock 2) 2 9⟩

end Fingerprinter

end LintMark

import LintMark.Fingerprinter.Basic
import LintMark.Proofs.Constant.Recognition
import LintMark.Proofs.Syntax.Agreement
import LintMark.Proofs.Window.Environment
import LintMark.Proofs.Window.Selection

/-!
# Fingerprints are local

What a subtree gives to a canonical string depends on the subtree up to places, and on the literal
kinds that stand for names, and on nothing else of the file (`canonical_subtrees_eq`). Two files
may therefore differ in everything outside of the window: the fingerprint of a method is that of
any other method that agrees with it, and the fingerprint of a statement with its neighbours is
that of any three items that agree with them one by one.

## What two maps of constants have to share

A name is written as the literal kinds of all constants of that name, by rising key. The keys are
indices of the file, so two files never share them. `SameLiterals` asks for what is written, and
not for where it comes from.
-/

namespace LintMark

namespace Tree

/-! ## Literals that stand for names -/

/-- Every text stands for the same literal kinds in both files, in the same order. -/
def SameLiterals (s : Tree) (b : Bindings) (t : Tree) (b' : Bindings) : Prop :=
  ∀ text, s.literalKinds (s.boundNames b) text = t.literalKinds (t.boundNames b') text

theorem literalKinds_eq_map_snd (t : Tree) (bound : List (String × Nat)) (text : String) :
    t.literalKinds bound text
      = ((bound.map fun p ↦ (p.1, (t.kind p.2).name)).filter fun q ↦ q.1 = text).map Prod.snd := by
  rw [List.filter_map, List.map_map]
  rfl

/-- Names with the kinds of their literals are all that counts of a map of constants. -/
theorem sameLiterals_of_map_eq {s t : Tree} {b b' : Bindings}
    (h : (s.boundNames b).map (fun p ↦ (p.1, (s.kind p.2).name))
      = (t.boundNames b').map fun p ↦ (p.1, (t.kind p.2).name)) : SameLiterals s b t b' := by
  intro text
  rw [literalKinds_eq_map_snd, literalKinds_eq_map_snd, h]

/-! ## Tokens of nodes that are alike -/

variable {s t : Tree} {b b' : Bindings} (hlit : SameLiterals s b t b')

include hlit

theorem Alike.nodeTokens_eq {i j : Nat} (h : Alike s t i j) :
    s.nodeTokens (s.boundNames b) i = t.nodeTokens (t.boundNames b') j := by
  rw [nodeTokens, nodeTokens, h.kind_eq, h.text_eq, hlit]
  by_cases hkind : t.kind j = Kind.type
  · rw [if_pos hkind, if_pos hkind, ← List.map_flatMap, ← List.map_flatMap]
    exact map_text_eq_of_forall₂ (forall₂_alike_subtrees h.forall₂_children)
  · rw [if_neg hkind, if_neg hkind]

/-- Subtrees that agree one by one are written alike. -/
theorem canonical_subtrees_eq {is js : List Nat} (h : List.Forall₂ (Alike s t) is js)
    (name : Option String) :
    s.canonical (s.subtrees is) b name = t.canonical (t.subtrees js) b' name := by
  have htokens : s.tokens (s.subtrees is) b = t.tokens (t.subtrees js) b' := by
    rw [tokens, tokens, ← List.forall₂_eq_eq_eq]
    refine List.rel_flatMap (forall₂_alike_subtrees h) fun i j hij ↦ ?_
    rw [List.forall₂_eq_eq_eq]
    exact hij.nodeTokens_eq hlit
  rw [canonical, canonical, htokens]

end Tree

namespace Fingerprinter

open LintMark.Tree

/-- **Only the window counts.** Where names stand for the same literals, lists of subtrees that
agree one by one have the same canonical string. Hence the fingerprints of two methods that agree
are equal, and so are those of two statements whose neighbourhoods agree item by item, whatever
else the two files hold. -/
theorem fingerprintTree_eq_of_agree (fp : Fingerprinter) (s t : Tree) (name : Option String) :
    (∀ (b b' : Bindings) (is js : List Nat), SameLiterals s b t b' →
      List.Forall₂ (fun i j ↦ agree s t (some i) (some j) = true) is js →
      s.canonical (s.subtrees is) b name = t.canonical (t.subtrees js) b' name) ∧
    (∀ (l l' : Int) (i j : Nat), SameLiterals s s.constants t t.constants →
      (Site.ofLine s l).method? = some i → (Site.ofLine t l').method? = some j →
      agree s t (some i) (some j) = true →
      fp.fingerprintTree s l .method name = fp.fingerprintTree t l' .method name) ∧
    ∀ (l l' : Int) (is js : List Nat), SameLiterals s s.constants t t.constants →
      (Site.ofLine s l).environmentItems = some is →
      (Site.ofLine t l').environmentItems = some js →
      List.Forall₂ (fun i j ↦ agree s t (some i) (some j) = true) is js →
      fp.fingerprintTree s l .environment name = fp.fingerprintTree t l' .environment name := by
  have hcanonical (b b' : Bindings) (is js : List Nat) (hlit : SameLiterals s b t b')
      (h : List.Forall₂ (fun i j ↦ agree s t (some i) (some j) = true) is js) :
      s.canonical (s.subtrees is) b name = t.canonical (t.subtrees js) b' name :=
    canonical_subtrees_eq hlit (h.imp fun _ _ hij ↦ agree_some_iff.1 hij) name
  -- Either window is a list of whole subtrees, so that the first part applies to it.
  have hwindow (l l' : Int) (strategy : Strategy) (is js : List Nat)
      (hlit : SameLiterals s s.constants t t.constants)
      (hs : (Site.ofLine s l).window strategy = s.subtrees is)
      (ht : (Site.ofLine t l').window strategy = t.subtrees js)
      (h : List.Forall₂ (fun i j ↦ agree s t (some i) (some j) = true) is js) :
      fp.fingerprintTree s l strategy name = fp.fingerprintTree t l' strategy name := by
    refine congrArg (Fingerprint.ofText fp.algorithm) ?_
    rw [hs, ht, Site.constants_ofLine, Site.constants_ofLine]
    exact hcanonical _ _ is js hlit h
  refine ⟨hcanonical, fun l l' i j hlit hi hj h ↦ ?_, fun l l' is js hlit his hjs h ↦ ?_⟩
  · refine hwindow l l' .method [i] [j] hlit ?_ ?_ (.cons h .nil)
    · rw [Site.window, Site.methodWindow, hi, subtrees, List.flatMap_singleton, Site.tree_ofLine]
    · rw [Site.window, Site.methodWindow, hj, subtrees, List.flatMap_singleton, Site.tree_ofLine]
  · refine hwindow l l' .environment is js hlit ?_ ?_ h
    · rw [Site.window, Site.environmentWindow_eq_elim, his, Option.elim_some, Site.tree_ofLine]
    · rw [Site.window, Site.environmentWindow_eq_elim, hjs, Option.elim_some, Site.tree_ofLine]

/-- A class that declares a constant and, on line `line`, a method whose body uses it one line
further down; the two members stand in either order. -/
def countedClass (methodFirst : Bool) (line : Int) : Tree :=
  let method : Outline := .node ⟨.methodDef, "", line, 0⟩ [
    .node ⟨.slist, "\x7b", line, 4⟩ [
      .node ⟨.expr, "", line + 1, 5⟩ [.node ⟨.ident, "MAX", line + 1, 5⟩ []],
      .node ⟨.semi, ";", line + 1, 9⟩ []]]
  let constant : Outline := .constantField "MAX"
  .ofOutlines [.node ⟨.classDef, "", 1, 0⟩ [
    .node ⟨.objBlock, "", 1, 0⟩ (if methodFirst then [method, constant] else [constant, method])]]

/-- The method around a statement that stands alone in its block, and the one item of its line. -/
theorem method?_and_environmentItems_of_alone {os : List Outline} {line : Int} {a c e m : Nat}
    (ha : IsLeast {i | i < (ofOutlines os).size ∧ (ofOutlines os).line i = line} a)
    (hchildren : (ofOutlines os).children c = [a, e])
    (hc : (ofOutlines os).kind c ∈ Kind.statementContainers)
    (hkinds : (ofOutlines os).kind a ∉ Kind.separators ∧ (ofOutlines os).kind e ∈ Kind.separators)
    (hm : (ofOutlines os).enclosing (ofOutlines os).parents a Kind.methodDeclarations = some m) :
    (Site.ofLine (ofOutlines os) line).method? = some m ∧
      (Site.ofLine (ofOutlines os) line).environmentItems = some [a] := by
  have hinner : (ofOutlines os).IsInnermostMember a a c :=
    isInnermostMember_self (hchildren ▸ List.mem_cons_self) hc
  have hmembers : (ofOutlines os).members c = [] ++ a :: [] := by
    simp [members, hchildren, hkinds]
  constructor
  · rw [Site.method?, Site.anchor_eq_some_of_isLeast (walk_ofOutlines os) ha, Option.bind_some,
      Site.tree_ofLine, hm]
  · exact Site.environmentItems_of_isInnermostMember ha hinner hmembers

/-- Neither the order of the members counts nor the line of the method. -/
theorem fingerprintTree_countedClass :
    let fp : Fingerprinter := .usual "."
    let s := countedClass true 3
    let t := countedClass false 7
    SameLiterals s s.constants t t.constants ∧
      (Site.ofLine s 4).method? = some 2 ∧ (Site.ofLine t 8).method? = some 14 ∧
      agree s t (some 2) (some 14) = true ∧
      (Site.ofLine s 4).environmentItems = some [4] ∧
      (Site.ofLine t 8).environmentItems = some [16] ∧
      agree s t (some 4) (some 16) = true ∧
      s.canonical (s.subtrees [2]) s.constants none
        = t.canonical (t.subtrees [14]) t.constants none ∧
      fp.fingerprintTree s 4 .method none = fp.fingerprintTree t 8 .method none ∧
      fp.fingerprintTree s 4 .environment none = fp.fingerprintTree t 8 .environment none := by
  intro fp s t
  have hlit : SameLiterals s s.constants t t.constants := by
    have hdeclareds : ((countedClass true 3).walk (countedClass true 3).root).filterMap
        (countedClass true 3).constant? = [(14, 17)] := by cbv
    have hdeclaredt : ((countedClass false 7).walk (countedClass false 7).root).filterMap
        (countedClass false 7).constant? = [(9, 12)] := by cbv
    refine sameLiterals_of_map_eq ?_
    rw [constants_eq_ofList, constants_eq_ofList, hdeclareds, hdeclaredt]
    rfl
  obtain ⟨hmethods, hitemss⟩ : (Site.ofLine s 4).method? = some 2 ∧
      (Site.ofLine s 4).environmentItems = some [4] :=
    method?_and_environmentItems_of_alone (c := 3) (e := 6) (Site.isLeast_line (by decide))
      (by cbv) (by decide) (by decide) (by cbv)
  obtain ⟨hmethodt, hitemst⟩ : (Site.ofLine t 8).method? = some 14 ∧
      (Site.ofLine t 8).environmentItems = some [16] :=
    method?_and_environmentItems_of_alone (c := 15) (e := 18) (Site.isLeast_line (by decide))
      (by cbv) (by decide) (by decide) (by cbv)
  have hmethod : agree (countedClass true 3) (countedClass false 7) (some 2) (some 14) = true := by
    cbv
  have hitem : agree (countedClass true 3) (countedClass false 7) (some 4) (some 16) = true := by
    cbv
  obtain ⟨hcanonical, hfpMethod, hfpItems⟩ := fingerprintTree_eq_of_agree fp s t none
  exact ⟨hlit, hmethods, hmethodt, hmethod, hitemss, hitemst, hitem,
    hcanonical _ _ [2] [14] hlit (.cons hmethod .nil),
    hfpMethod 4 8 2 14 hlit hmethods hmethodt hmethod,
    hfpItems 4 8 [4] [16] hlit hitemss hitemst (.cons hitem .nil)⟩

end Fingerprinter

end LintMark

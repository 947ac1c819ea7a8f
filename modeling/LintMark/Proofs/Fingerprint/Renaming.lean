import LintMark.Fingerprinter.Basic
import LintMark.Proofs.Constant.Recognition
import LintMark.Proofs.Window.Selection
import Mathlib.Data.List.Basic

/-!
# Fingerprints do not see names

A consistent change of texts leaves fingerprints alone. Texts enter a canonical string in two ways:
the texts below a `TYPE` node are written out, and the text of any other node is compared with the
names of the constants. So a change `r` of texts goes unseen if it keeps the texts below types and
tells any two texts of the tree apart that were apart before.

## Where injectivity is used

Windows and constants go by shape, so `SameShape` carries them over. What is left is the search for
the constants of a name, a filter on equal texts: it finds the same constants after the change
because equality of texts is neither lost nor gained (`literalKinds_renameTexts`).
-/

namespace LintMark

namespace Tree

/-! ## Texts -/

/-- The texts of all nodes. -/
def texts (t : Tree) : List String := t.nodes.toList.map fun node ↦ node.text

/-- The texts that stand below a type. -/
def typeTexts (t : Tree) : List String :=
  ((List.range t.size).filter fun i ↦ t.kind i = Kind.type).flatMap fun i ↦
    (t.walk (t.node i).firstChild).map t.text

variable {t : Tree}

theorem text_mem_texts {i : Nat} (hi : i < t.size) : t.text i ∈ t.texts := by
  rw [text, node_eq_getElem t hi, texts]
  exact List.mem_map_of_mem (Array.getElem_mem_toList hi)

theorem text_mem_typeTexts {i j : Nat} (hi : i < t.size) (hkind : t.kind i = Kind.type)
    (hj : j ∈ t.walk (t.node i).firstChild) : t.text j ∈ t.typeTexts := by
  rw [typeTexts, List.mem_flatMap]
  refine ⟨i, ?_, List.mem_map_of_mem hj⟩
  rw [List.mem_filter]
  exact ⟨List.mem_range.2 hi, decide_eq_true hkind⟩

/-! ## Changing texts -/

/-- The tree with every text changed by `r`. -/
def renameTexts (r : String → String) (t : Tree) : Tree :=
  t.mapTokens fun token ↦ { token with text := r token.text }

variable {r : String → String}

theorem sameShape_renameTexts : SameShape (t.renameTexts r) t := sameShape_mapTokens fun _ ↦ rfl

theorem text_renameTexts {i : Nat} (hi : i < t.size) :
    (t.renameTexts r).text i = r (t.text i) := by
  rw [text, renameTexts, node_mapTokens hi, text]

theorem line_renameTexts (i : Nat) : (t.renameTexts r).line i = t.line i := by
  rcases Nat.lt_or_ge i t.size with hi | hi
  · rw [line, renameTexts, node_mapTokens hi, line]
  · rw [line, line, node_eq_of_size_le sameShape_renameTexts.size_eq]
    rw [sameShape_renameTexts.size_eq]
    exact hi

theorem window_renameTexts (line : Int) (strategy : Strategy) :
    (Site.ofLine (t.renameTexts r) line).window strategy
      = (Site.ofLine t line).window strategy := by
  apply sameShape_renameTexts.window_eq
  apply sameShape_renameTexts.nodesOnLine_eq
  intro i _
  rw [line_renameTexts]

/-! ## Names of constants -/

variable {b : Bindings} (hb : ∀ p ∈ b.entries, p.1 < t.size)

include hb

theorem boundNames_renameTexts :
    (t.renameTexts r).boundNames b = (t.boundNames b).map fun p ↦ (r p.1, p.2) := by
  rw [boundNames, boundNames, List.map_filterMap]
  refine List.filterMap_congr fun (ident, literal) hp ↦ ?_
  rw [sameShape_renameTexts.kind_eq]
  dsimp only
  by_cases hkind : t.kind ident = Kind.ident
  · rw [if_pos hkind, if_pos hkind, text_renameTexts (hb _ hp), Option.map_some]
  · rw [if_neg hkind, if_neg hkind, Option.map_none]

theorem fst_mem_texts_of_mem_boundNames {p : String × Nat} (hp : p ∈ t.boundNames b) :
    p.1 ∈ t.texts := by
  obtain ⟨entry, hentry, hp⟩ := List.mem_filterMap.1 hp
  dsimp only at hp
  split at hp
  · cases hp
    exact text_mem_texts (hb entry hentry)
  · cases hp

variable (hr : ∀ x ∈ t.texts, ∀ y ∈ t.texts, r x = r y → x = y)

include hr

/-- The constants that answer to a text are the same before and after the change. -/
theorem literalKinds_renameTexts {x : String} (hx : x ∈ t.texts) :
    (t.renameTexts r).literalKinds ((t.renameTexts r).boundNames b) (r x)
      = t.literalKinds (t.boundNames b) x := by
  rw [literalKinds, literalKinds, boundNames_renameTexts hb, List.filter_map, List.map_map,
    sameShape_renameTexts.kind_eq]
  have hfilter : ((t.boundNames b).filter fun p ↦ r p.1 = r x)
      = (t.boundNames b).filter fun p ↦ p.1 = x := by
    refine List.filter_congr fun p hp ↦ decide_eq_decide.2 ⟨fun h ↦ ?_, fun h ↦ by rw [h]⟩
    exact hr _ (fst_mem_texts_of_mem_boundNames hb hp) _ hx h
  rw [← hfilter]
  rfl

variable (hfix : ∀ x ∈ t.typeTexts, r x = x)

include hfix

theorem nodeTokens_renameTexts {i : Nat} (hi : i < t.size) :
    (t.renameTexts r).nodeTokens ((t.renameTexts r).boundNames b) i
      = t.nodeTokens (t.boundNames b) i := by
  rw [nodeTokens, nodeTokens, sameShape_renameTexts.kind_eq, sameShape_renameTexts.children_eq,
    sameShape_renameTexts.descendants_eq]
  by_cases hkind : t.kind i = Kind.type
  · rw [if_pos hkind, if_pos hkind]
    rw [← List.map_flatMap, ← List.map_flatMap]
    refine List.map_congr_left fun j hj ↦ ?_
    -- The subtrees of the children are all that stands below the type.
    have hwalk : j ∈ t.walk (t.node i).firstChild := by
      rw [walk_eq_pre, ← subtrees_children]
      exact hj
    rw [text_renameTexts (lt_size_of_mem_walk (t.inArena_firstChild i) hwalk)]
    exact hfix _ (text_mem_typeTexts hi hkind hwalk)
  · rw [if_neg hkind, if_neg hkind, text_renameTexts hi,
      literalKinds_renameTexts hb hr (text_mem_texts hi)]

theorem canonical_renameTexts {window : List Nat} (hwindow : ∀ i ∈ window, i < t.size)
    (name : Option String) :
    (t.renameTexts r).canonical window b name = t.canonical window b name := by
  have htokens : (t.renameTexts r).tokens window b = t.tokens window b := by
    rw [tokens, tokens]
    exact List.flatMap_congr fun i hi ↦ nodeTokens_renameTexts hb hr hfix (hwindow i hi)
  rw [canonical, canonical, htokens]

end Tree

namespace Fingerprinter

open LintMark.Tree

/-- **Names never count outside of types.** A change of texts that keeps different texts of the
tree different, and the texts below types as they are, changes no fingerprint. So does giving one
name, which no type mentions, a name that the tree does not have. -/
theorem fingerprintTree_renameTexts (fp : Fingerprinter) (t : Tree) (line : Int)
    (strategy : Strategy) (name : Option String) :
    (∀ r : String → String, (∀ x ∈ t.texts, ∀ y ∈ t.texts, r x = r y → x = y) →
      (∀ x ∈ t.typeTexts, r x = x) →
      fp.fingerprintTree (t.renameTexts r) line strategy name
        = fp.fingerprintTree t line strategy name) ∧
    ∀ old new : String, old ∉ t.typeTexts → new ∉ t.texts →
      fp.fingerprintTree (t.renameTexts fun x ↦ if x = old then new else x) line strategy name
        = fp.fingerprintTree t line strategy name := by
  have hrename (r : String → String) (hr : ∀ x ∈ t.texts, ∀ y ∈ t.texts, r x = r y → x = y)
      (hfix : ∀ x ∈ t.typeTexts, r x = x) :
      fp.fingerprintTree (t.renameTexts r) line strategy name
        = fp.fingerprintTree t line strategy name := by
    refine congrArg (Fingerprint.ofText fp.algorithm) ?_
    rw [window_renameTexts, Site.constants_ofLine, Site.constants_ofLine,
      sameShape_renameTexts.constants_eq]
    exact canonical_renameTexts (fun p hp ↦ lt_size_of_mem_constants hp) hr hfix
      (fun i hi ↦ Site.lt_size_of_mem_window hi) name
  refine ⟨hrename, fun old new hold hnew ↦ hrename _ (fun x hx y hy hxy ↦ ?_) fun x hx ↦ ?_⟩
  · -- A fresh text is hit by the old name alone.
    split at hxy
    · next hxold =>
      split at hxy
      · next hyold => rw [hxold, hyold]
      · exact absurd (hxy ▸ hy) hnew
    · split at hxy
      · exact absurd (hxy ▸ hx) hnew
      · exact hxy
  · refine if_neg fun hxold ↦ hold ?_
    rw [← hxold]
    exact hx

/-- A class with a constant and, on the third line, its sum with another name. -/
def constantUse (constant other : String) : Tree :=
  .ofOutlines [.node ⟨.classDef, "", 1, 0⟩ [
    .constantField constant,
    .node ⟨.expr, "", 3, 0⟩ [.node ⟨⟨"PLUS"⟩, "+", 3, 0⟩ [.node ⟨.ident, constant, 3, 0⟩ [],
      .node ⟨.ident, other, 3, 0⟩ []]]]]

/-- Exchanges two names. -/
def exchange (a b x : String) : String := if x = a then b else if x = b then a else x

/-- The constant and the name beside it may be exchanged, and the constant may take a fresh
name. -/
theorem fingerprintTree_constantUse :
    let fp : Fingerprinter := .usual "."
    let t := constantUse "MAX" "n"
    t.constants.entries = [(8, 11)] ∧
      (∀ x ∈ t.texts, ∀ y ∈ t.texts, exchange "MAX" "n" x = exchange "MAX" "n" y → x = y) ∧
      (∀ x ∈ t.typeTexts, exchange "MAX" "n" x = x) ∧ "MAX" ∉ t.typeTexts ∧ "LIMIT" ∉ t.texts ∧
      fp.fingerprintTree (t.renameTexts (exchange "MAX" "n")) 3 .line none
        = fp.fingerprintTree t 3 .line none ∧
      fp.fingerprintTree (t.renameTexts fun x ↦ if x = "MAX" then "LIMIT" else x) 3 .line none
        = fp.fingerprintTree t 3 .line none := by
  intro fp t
  have hconstants : t.constants.entries = [(8, 11)] := by
    have hdeclared : ((constantUse "MAX" "n").walk (constantUse "MAX" "n").root).filterMap
        (constantUse "MAX" "n").constant? = [(8, 11)] := by cbv
    rw [constants_eq_ofList, hdeclared]
    rfl
  have htypes : t.typeTexts = ["int"] := by
    show (constantUse "MAX" "n").typeTexts = ["int"]
    cbv
  have hinj : ∀ x ∈ t.texts, ∀ y ∈ t.texts,
      exchange "MAX" "n" x = exchange "MAX" "n" y → x = y := by decide
  have hfix : ∀ x ∈ t.typeTexts, exchange "MAX" "n" x = x := by
    rw [htypes]
    decide
  have hold : "MAX" ∉ t.typeTexts := by
    rw [htypes]
    decide
  have hnew : "LIMIT" ∉ t.texts := by decide
  obtain ⟨hrename, hfresh⟩ := fingerprintTree_renameTexts fp t 3 .line none
  exact ⟨hconstants, hinj, hfix, hold, hnew, hrename _ hinj hfix, hfresh _ _ hold hnew⟩

end Fingerprinter

end LintMark

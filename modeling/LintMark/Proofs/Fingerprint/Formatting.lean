import LintMark.Proofs.Fingerprint.LineShift
import LintMark.Proofs.Java.Formatting.Source
import LintMark.Proofs.Syntax.Layout

/-!
# Fingerprints do not see formatting

Whitespace between tokens moves the rows of a concrete tree and changes nothing else that shaping
looks at. So two sources that differ in formatting have trees that differ in lines and columns
alone, and warnings on the same nodes have the same fingerprints (`tree_eq_of_reformatted`).

## From forests to arenas

Shaping gives forests that are the same up to places. Forgetting the places of a forest and laying
it out is the same as laying it out and forgetting the places of its nodes, because the layout looks
at sizes only.
-/

namespace LintMark

namespace Outline

/-! ## Layout without places -/

/-- The token without its place. -/
def unplacedToken (token : Token) : Token := ⟨token.kind, token.text, 0, 0⟩

mutual

theorem size_unplaced : (o : Outline) → o.unplaced.size = o.size
  | node token children => by rw [unplaced, size, sizeAll_unplacedAll children, size]

theorem sizeAll_unplacedAll : (os : List Outline) → sizeAll (unplacedAll os) = sizeAll os
  | [] => rfl
  | o :: os => by rw [unplacedAll, sizeAll, size_unplaced o, sizeAll_unplacedAll os, sizeAll]

end

theorem isEmpty_unplacedAll (os : List Outline) : (unplacedAll os).isEmpty = os.isEmpty := by
  cases os with
  | nil => rfl
  | cons o os => rfl

mutual

theorem layout_unplaced (start : Nat) (more : Bool) : (o : Outline) →
    o.unplaced.layout start more
      = (o.layout start more).map fun n ↦ { n with toToken := unplacedToken n.toToken }
  | node token children => by
    rw [unplaced, layout, layout, List.map_cons, layoutAll_unplacedAll (start + 1) children,
      isEmpty_unplacedAll, sizeAll_unplacedAll]
    rfl

theorem layoutAll_unplacedAll (start : Nat) : (os : List Outline) →
    layoutAll start (unplacedAll os)
      = (layoutAll start os).map fun n ↦ { n with toToken := unplacedToken n.toToken }
  | [] => rfl
  | o :: os => by
    rw [unplacedAll, layoutAll, layoutAll, List.map_append, layout_unplaced start _ o,
      isEmpty_unplacedAll, size_unplaced, layoutAll_unplacedAll (start + o.size) os]

end

end Outline

namespace Tree

open Outline

theorem ofOutlines_unplacedAll (os : List Outline) :
    ofOutlines (unplacedAll os) = (ofOutlines os).mapTokens unplacedToken := by
  ext1
  show (layoutAll 0 (unplacedAll os)).toArray = (layoutAll 0 os).toArray.map _
  rw [layoutAll_unplacedAll, List.map_toArray]

/-- Forests that are the same up to places have arenas that differ in places alone. -/
theorem sameApartFromPlaces_ofOutlines {os os' : List Outline}
    (h : unplacedAll os = unplacedAll os') : SameApartFromPlaces (ofOutlines os) (ofOutlines os') := by
  have hforget (os : List Outline) :
      SameApartFromPlaces (ofOutlines os) (ofOutlines (unplacedAll os)) := by
    rw [ofOutlines_unplacedAll]
    exact sameApartFromPlaces_mapTokens fun _ ↦ ⟨rfl, rfl⟩
  exact (hforget os).trans (h ▸ (hforget os').symm)

end Tree

/-! ## Reading -/

/-- What is wrong with the source, but not where. -/
def SourceFault.unplaced : SourceFault → SourceFault
  | .syntaxError _ => .syntaxError 0
  | fault => fault

/-- What went wrong, but not where. -/
def ReadError.unplaced : ReadError → ReadError
  | .source e => .source ⟨"", e.fault.unplaced⟩
  | e => e

namespace Reading

open Cst hiding unplaced unplacedAll
open LintMark.Tree (SameApartFromPlaces SameNodesOn)

/-- The reading of a source that has been formatted: the rows match, and where the grammar reports a
fault that no row shows, it does so on both sides. -/
structure Reformatted (r r' : Reading) : Prop where
  root : Matches r.source r'.source r.root r'.root
  flagged_eq : r.flagged = r'.flagged

variable {r r' : Reading}

theorem Reformatted.hasFault_eq (h : r.Reformatted r') : r.hasFault = r'.hasFault := by
  have hrows (c : Cst) : c.rows.any isFaulty = c.unplaced.rows.any isFaulty := by
    rw [rows_unplaced, List.any_map]
    congr 1
    funext d
    rw [Function.comp_apply, isFaulty, isFaulty, type_unplaced, missing_unplaced]
  rw [hasFault, hasFault, h.flagged_eq, hrows, h.root.unplaced_eq, ← hrows]

/-- **Formatting leaves no trace.** The readings of two sources that differ in formatting give trees
that differ in places alone, and then all fingerprints on lines that hold the same nodes are equal;
or they give none, for the same reason. -/
theorem tree_eq_of_reformatted (h : r.Reformatted r') (path path' : Text) (strict : Bool) :
    (∃ t t', r.tree path strict = .ok t ∧ r'.tree path' strict = .ok t' ∧
      SameApartFromPlaces t t' ∧
      ∀ l l', SameNodesOn t t' l l' → ∀ (fp : Fingerprinter) strategy name,
        fp.fingerprintTree t l strategy name = fp.fingerprintTree t' l' strategy name) ∨
    ∃ e e', r.tree path strict = .error e ∧ r'.tree path' strict = .error e' ∧
      e.unplaced = e'.unplaced := by
  have houtlines := Java.map_unplacedAll_outlines h.root
  rw [tree, tree, h.hasFault_eq]
  split_ifs with hfault
  · exact .inr ⟨_, _, rfl, rfl, rfl⟩
  · cases hos : Java.outlines r.source r.root with
    | ok os =>
      cases hos' : Java.outlines r'.source r'.root with
      | ok os' =>
        rw [hos, hos'] at houtlines
        have hplaces : SameApartFromPlaces (.ofOutlines os) (.ofOutlines os') :=
          Tree.sameApartFromPlaces_ofOutlines (Except.ok.inj houtlines)
        refine .inl ⟨_, _, rfl, rfl, hplaces, fun l l' hline fp strategy name ↦ ?_⟩
        exact congrArg (Fingerprint.ofText fp.algorithm)
          (hplaces.canonical_window_eq hline strategy name)
      | error e' =>
        rw [hos, hos'] at houtlines
        cases houtlines
    | error e =>
      cases hos' : Java.outlines r'.source r'.root with
      | ok os' =>
        rw [hos, hos'] at houtlines
        cases houtlines
      | error e' =>
        rw [hos, hos'] at houtlines
        obtain rfl : e = e' := Except.error.inj houtlines
        cases e with
        | tooDeep => exact .inr ⟨_, _, rfl, rfl, rfl⟩
        | bareUpdate => exact .inr ⟨_, _, rfl, rfl, rfl⟩

/-- The source `return/*a*/x;`, in which a comment parts the tokens. -/
def tightReturn : Reading where
  source := .ofBytes "return/*a*/x;".toUTF8
  root :=
    ⟨"program", 0, 13, true, false, none,
      [⟨"return_statement", 0, 13, true, false, none,
        [⟨"return", 0, 6, false, false, none, []⟩,
          ⟨"block_comment", 6, 11, true, false, none, []⟩,
          ⟨"identifier", 11, 12, true, false, none, []⟩,
          ⟨";", 12, 13, false, false, none, []⟩]⟩]⟩
  flagged := false

/-- The same statement on three lines, with another comment. -/
def looseReturn : Reading where
  source := .ofBytes "return\n /* b c */\n x ;".toUTF8
  root :=
    ⟨"program", 0, 22, true, false, none,
      [⟨"return_statement", 0, 22, true, false, none,
        [⟨"return", 0, 6, false, false, none, []⟩,
          ⟨"block_comment", 8, 17, true, false, none, []⟩,
          ⟨"identifier", 19, 20, true, false, none, []⟩,
          ⟨";", 21, 22, false, false, none, []⟩]⟩]⟩
  flagged := false

/-- The two statements have trees that differ in places alone. -/
theorem tree_looseReturn :
    tightReturn.Reformatted looseReturn ∧
      ∃ t t', tightReturn.tree "A.java" true = .ok t ∧ looseReturn.tree "B.java" true = .ok t' ∧
        SameApartFromPlaces t t' := by
  have htexts : List.all₂
      (fun c c' ↦ decide (Cst.SameTexts tightReturn.source looseReturn.source c c'))
      tightReturn.root.rows looseReturn.root.rows = true := by decide +kernel
  have hreformatted : tightReturn.Reformatted looseReturn :=
    ⟨⟨rfl, ((List.all₂_eq_true _ _).1 htexts).imp fun _ _ ↦ of_decide_eq_true⟩, rfl⟩
  obtain ⟨t, ht⟩ : ∃ t, tightReturn.tree "A.java" true = .ok t := ⟨_, rfl⟩
  refine ⟨hreformatted, ?_⟩
  obtain ⟨u, u', hu, hu', hplaces, -⟩ | ⟨e, e', he, -, -⟩ :=
    tree_eq_of_reformatted hreformatted "A.java" "B.java" true
  · exact ⟨u, u', hu, hu', hplaces⟩
  · rw [ht] at he
    cases he

end Reading

end LintMark

import LintMark.Proofs.Java.Places
import LintMark.Proofs.Syntax.Enclosing
import LintMark.Proofs.Window.Neighbours
import Mathlib.Order.Lattice.Nat

/-!
# The statement on a line of its own

The node of a warning is the first node on its line. Nodes take their places from different rows, so
the first node on a line need not be what the first row on it is shaped to. It is so for a
statement of a block that no other row shares its first line with
(`Reading.anchor_of_isAloneOnLine`): the nodes on the line all stand below the node of the block
(`Tree.exists_site`), and there nothing on the line comes before the statement.
-/

namespace LintMark

open Java Outline

namespace Tree

variable {t : Tree} {os : List Outline} {i j : Nat}

theorem outline_mem_subtrees (h : i ∈ t.descendants (some j)) :
    t.outline i ∈ (t.outline j).subtrees := by
  rw [descendants_some] at h
  rw [subtrees_eq]
  obtain rfl | h := List.mem_cons.1 h
  · exact List.mem_cons_self
  · refine List.mem_cons_of_mem _ ?_
    change t.outline i ∈ subtreesAll (t.outlines (t.node j).firstChild)
    rw [← map_outline_pre]
    exact List.mem_map_of_mem h

/-- A node with the property stands at or below a site, if what it stands below is covered. -/
theorem exists_site_of_mem_descendants {on site : Outline → Prop}
    (hj : Covered on site (t.outline j)) (hi : i ∈ t.descendants (some j))
    (hon : on (t.outline i)) :
    ∃ c ∈ t.descendants (some j), site (t.outline c) ∧ i ∈ t.descendants (some c) := by
  generalize ho : t.outline j = o at hj
  induction hj generalizing j with
  | site hsite =>
    subst ho
    exact ⟨j, t.mem_descendants_self j, hsite, hi⟩
  | off hoff _ ih =>
    subst ho
    obtain rfl | ⟨k, hk, hi⟩ := mem_descendants_iff.1 hi
    · exact absurd hon hoff
    · have hmem : t.outline k ∈ (t.outline j).children := by
        rw [children_outline]
        exact List.mem_map_of_mem hk
      obtain ⟨c, hc, hsite, hic⟩ := ih _ hmem hi rfl
      exact ⟨c, mem_descendants_iff.2 (.inr ⟨k, hk, hc⟩), hsite, hic⟩

/-- Every node stands at or below one at the top. -/
theorem exists_mem_chain_root (hi : i < (ofOutlines os).size) :
    ∃ j ∈ (ofOutlines os).chain (ofOutlines os).root,
      (ofOutlines os).outline j ∈ os ∧ i ∈ (ofOutlines os).descendants (some j) := by
  have htop := getLast_cons_ancestors_mem hi
  refine ⟨_, htop, ?_, (laidOut_ofOutlines os).mem_cons_ancestors_iff.1 (List.getLast_mem _)⟩
  have houtlines :
      ((ofOutlines os).chain (ofOutlines os).root).map (ofOutlines os).outline = os := by
    rw [← outlines_eq_map, root_ofOutlines, outlines_of_holds os 0 (holds_ofOutlines os)]
  have hmem := List.mem_map_of_mem (f := (ofOutlines os).outline) htop
  rwa [houtlines] at hmem

/-- If all that stands at the top is covered, a node with the property stands at or below a site. -/
theorem exists_site {on site : Outline → Prop} (hos : ∀ o ∈ os, Covered on site o)
    (hi : i < (ofOutlines os).size) (hon : on ((ofOutlines os).outline i)) :
    ∃ c < (ofOutlines os).size, site ((ofOutlines os).outline c) ∧
      i ∈ (ofOutlines os).descendants (some c) := by
  obtain ⟨j, hj, hmem, hij⟩ := exists_mem_chain_root hi
  obtain ⟨c, hc, hsite, hic⟩ := exists_site_of_mem_descendants (hos _ hmem) hij hon
  have hsize : j < (ofOutlines os).size := lt_size_of_mem_chain (ofOutlines os).inArena_root hj
  exact ⟨c, lt_size_of_mem_descendants hsize hc, hsite, hic⟩

namespace LaidOut

variable (ht : t.LaidOut)

include ht

theorem le_of_mem_descendants (h : i ∈ t.descendants (some j)) : j ≤ i := by
  obtain rfl | hj := List.mem_cons.1 (ht.mem_cons_ancestors_iff.2 h)
  · exact Nat.le_refl j
  · exact Nat.le_of_lt ((List.pairwise_cons.1 (ht.pairwise_gt_cons_ancestors i)).1 j hj)

/-- Siblings have rising indices. -/
theorem pairwise_lt_chain (o : Option Nat) : (t.chain o).Pairwise (· < ·) := by
  fun_induction chain t o with
  | case1 => exact .nil
  | case2 i ih =>
    refine List.pairwise_cons.2 ⟨fun j hj ↦ ?_, ih⟩
    exact ht.lt_of_mem_chain (fun k hk ↦ ht.lt_of_linksTo (.inr hk)) hj

end LaidOut

end Tree

/-! ## The nodes of a statement -/

/-- Node `c` is that of a block, and the nodes below it are those of the rows `front`, of a row and
of the rows `back`, in this order. The first node of the row is `x`. -/
structure Tree.IsFirstItem (t : Tree) (source : SourceText) (n : Nat) (block row : Cst)
    (front back : List Cst) (c x : Nat) : Prop where
  lt_size : c < t.size
  outline_eq : t.outline c = (shaper source (n + 1)).block block
  exists_children : ∃ inFront items behind, t.children c = inFront ++ (x :: items ++ behind) ∧
    inFront.map t.outline
      = (front.filter fun d ↦ d.type ≠ "\x7b").flatMap (shaper source n).convertRow ∧
    (x :: items).map t.outline = (shaper source n).convertRow row ∧
    behind.map t.outline
      = (back.filter fun d ↦ d.type ≠ "\x7b").flatMap (shaper source n).convertRow

namespace Java.IsAloneOnLine

variable {source : SourceText} {root block row lead : Cst} {line : Nat}
  {before after front back : List Cst} {t : Tree} {c n x i : Nat}
  (h : IsAloneOnLine source root block row line before after front back)

include h

/-- The node of the block has a first node of the statement below it. -/
theorem exists_isFirstItem (hrow : StartsWith row lead) (hc : c < t.size)
    (houtline : t.outline c = (shaper source (n + 1)).block block) :
    ∃ x, t.IsFirstItem source n block row front back c x ∧ (t.outline x).At source lead ∧
      (t.kind x ∉ Kind.separators ∨ t.children x = []) := by
  have hbrace : row.type ≠ "\x7b" := fun htype ↦ hrow.type_notMem_brackets (by rw [htype]; decide)
  have hchildren := t.children_outline c
  rw [houtline, h.children_block hbrace] at hchildren
  obtain ⟨inFront, others, hsplit, hfront, hothers⟩ := List.map_eq_append_iff.1 hchildren.symm
  obtain ⟨nodes, behind, rfl, hnodes, hbehind⟩ := List.map_eq_append_iff.1 hothers
  obtain ⟨o, os, hconvert, hplace, hkind⟩ := hrow.exists_convertRow_eq (shaper source n)
  rw [source_shaper] at hplace
  obtain ⟨x, items, rfl, rfl, -⟩ := List.map_eq_cons_iff.1 (hnodes.trans hconvert)
  refine ⟨x, ⟨hc, houtline, inFront, items, behind, hsplit, hfront, hnodes, hbehind⟩, hplace, ?_⟩
  rw [Tree.children_outline, List.map_eq_nil_iff] at hkind
  exact hkind

/-- Of the nodes below the block, the first node of the statement is the first one on the line. -/
theorem le_of_isFirstItem (ht : t.LaidOut) (hline : 1 < line)
    (hx : t.IsFirstItem source n block row front back c x) (hi : i ∈ t.descendants (some c))
    (hon : t.line i = line) : x ≤ i := by
  obtain ⟨inFront, items, behind, hsplit, hfront, -, -⟩ := hx.exists_children
  obtain rfl | ⟨y, hy, hi⟩ := Tree.mem_descendants_iff.1 hi
  · -- The block itself is off the line.
    have hblock : (t.outline i).token.line = line := hon
    rw [hx.outline_eq] at hblock
    exact absurd (Int.ofNat_inj.1 hblock) h.line_block_ne
  · have hsorted := ht.pairwise_lt_chain (t.node c).firstChild
    change (t.children c).Pairwise (· < ·) at hsorted
    rw [hsplit] at hy hsorted
    refine Nat.le_trans ?_ (ht.le_of_mem_descendants hi)
    obtain hy | hy := List.mem_append.1 hy
    · -- Nothing in front of the statement is on the line.
      have hmem : t.outline y ∈ inFront.map t.outline := List.mem_map_of_mem hy
      rw [hfront] at hmem
      obtain ⟨d, hd, hmem⟩ := List.mem_flatMap.1 hmem
      exact absurd hon (h.line_ne_of_mem_subtrees hline
        (List.mem_append_left _ (List.mem_filter.1 hd).1) hmem (Tree.outline_mem_subtrees hi))
    · obtain rfl | hy := List.mem_cons.1 hy
      · exact Nat.le_refl y
      · exact Nat.le_of_lt ((List.pairwise_cons.1 (List.pairwise_append.1 hsorted).2.1).1 y hy)

/-- The first node on the line is the first node of the statement below some node of its block. -/
theorem exists_isLeast (hline : 1 < line) (hrow : StartsWith row lead)
    (hlead : source.line lead.start = line) {level : Nat}
    (hreached : ∃ n, ∃ c < (Tree.ofOutlines ((shaper source level).convertRow root)).size,
      (Tree.ofOutlines ((shaper source level).convertRow root)).outline c
        = (shaper source (n + 1)).block block) :
    let t := Tree.ofOutlines ((shaper source level).convertRow root)
    ∃ n c x, t.IsFirstItem source n block row front back c x ∧
      IsLeast {i | i < t.size ∧ t.line i = line} x ∧
      (t.kind x ∉ Kind.separators ∨ t.children x = []) := by
  intro t
  have ht : t.LaidOut := Tree.laidOut_ofOutlines _
  have hbracket : row.type ≠ "]" := fun htype ↦ hrow.type_notMem_brackets (by rw [htype]; decide)
  have honLine : ∀ {n c x}, t.IsFirstItem source n block row front back c x →
      (t.outline x).At source lead → x < t.size ∧ t.line x = line := by
    intro n c x hx hplace
    obtain ⟨inFront, items, behind, hsplit, -⟩ := hx.exists_children
    refine ⟨Tree.lt_size_of_mem_children (i := c) ?_, ?_⟩
    · rw [hsplit]
      exact List.mem_append_right _ List.mem_cons_self
    · rw [← hlead]
      exact hplace.1
  -- Some node is on the line, so there is a first one, and it stands below a node of the block.
  obtain ⟨n, c, hc, houtline⟩ := hreached
  obtain ⟨x, hx, hplace, -⟩ := h.exists_isFirstItem hrow hc houtline
  have hleast :
      IsLeast {i | i < t.size ∧ t.line i = line} (sInf {i | i < t.size ∧ t.line i = line}) :=
    ⟨Nat.sInf_mem ⟨x, honLine hx hplace⟩, fun _ hi ↦ Nat.sInf_le hi⟩
  obtain ⟨c, hc, ⟨m, houtline⟩, hmem⟩ := Tree.exists_site
    (fun o ho ↦ h.covered hline hbracket level ho) hleast.1.1 hleast.1.2
  obtain ⟨y, hy, hplace, hkind⟩ := h.exists_isFirstItem hrow hc houtline
  have hfirst : y = sInf {i | i < t.size ∧ t.line i = line} :=
    Nat.le_antisymm (h.le_of_isFirstItem ht hline hy hmem hleast.1.2)
      (hleast.2 (honLine hy hplace))
  rw [← hfirst] at hleast
  exact ⟨m, c, y, hy, hleast, hkind⟩

end Java.IsAloneOnLine

/-! ## The anchor -/

namespace Site

/-- The window of the enclosing statement holds all of the statement that a line starts with. -/
theorem descendants_subset_environmentWindow {os : List Outline} {line : Int} {c x : Nat}
    (hx : IsLeast {i | i < (Tree.ofOutlines os).size ∧ (Tree.ofOutlines os).line i = line} x)
    (hc : x ∈ (Tree.ofOutlines os).children c)
    (hcontainer : (Tree.ofOutlines os).kind c ∈ Kind.statementContainers)
    (hkind : (Tree.ofOutlines os).kind x ∉ Kind.separators ∨ (Tree.ofOutlines os).children x = []) :
    (Tree.ofOutlines os).descendants (some x)
      ⊆ (ofLine (Tree.ofOutlines os) line).window .environment := by
  have hwindow := ((environmentWindow_ofOutlines os line).1 x hx).1
  by_cases hseparator : (Tree.ofOutlines os).kind x ∈ Kind.separators
  · -- Nothing stands below a semicolon.
    intro i hi
    obtain rfl | ⟨y, hy, -⟩ := Tree.mem_descendants_iff.1 hi
    · exact hwindow
    · rw [hkind.resolve_left (not_not.2 hseparator)] at hy
      cases hy
  · obtain ⟨before, after, hmembers⟩ :=
      List.append_of_mem (Tree.mem_members_iff.2 ⟨hc, hseparator⟩)
    rw [environmentWindow_of_isInnermostMember hx (Tree.isInnermostMember_self hc hcontainer)
      hmembers]
    intro i hi
    exact List.mem_flatMap.2 ⟨x, List.mem_append_right _ List.mem_cons_self, hi⟩

end Site

namespace Reading

variable {r : Reading} {path : Text} {strict : Bool} {t : Tree}

/-- **Where nodes stand, and the statement on a line of its own.** Every node but that of the file
stands at the start of a row of the reading; more precisely, whatever is made of a row, all nodes in
it stand at the start of that row or of a row below it.

Let a statement be a child of a block that has a node in the tree, and let it start on a line
behind the first on which no row outside of the statement starts. Then the first node on that line
is the first one that the statement is shaped to, below a node of the block, and the window of the
enclosing statement holds all of it. -/
theorem anchor_of_isAloneOnLine (ht : r.tree path strict = .ok t) :
    (∀ i < t.size, t.kind i ≠ .compilationUnit →
      ∃ q ∈ r.root.rows, (t.outline i).At r.source q) ∧
    (∀ n row os, (shaper r.source n).Gives row os → ∀ j, t.outline j ∈ os →
      ∀ i ∈ t.descendants (some j), t.kind i ≠ .compilationUnit →
        ∃ q ∈ row.rows, (t.outline i).At r.source q) ∧
    ∀ block row lead line before after front back,
      IsAloneOnLine r.source r.root block row line before after front back → 1 < line →
      StartsWith row lead → r.source.line lead.start = line →
      (∃ n, ∃ c < t.size, t.outline c = (shaper r.source (n + 1)).block block) →
      ∃ n c x, t.IsFirstItem r.source n block row front back c x ∧
        (Site.ofLine t line).anchor = some x ∧
        t.descendants (some x) ⊆ (Site.ofLine t line).window .environment := by
  obtain rfl := eq_ofOutlines_of_tree ht
  have hplace : ∀ {n row o p}, (shaper r.source n).Stems row o → p ∈ o.subtrees →
      p.kind ≠ .compilationUnit → ∃ q ∈ row.rows, p.At r.source q := by
    intro n row o p ho hp hkind
    obtain hunit | hplace := ho.at_of_mem_subtrees hp
    · exact absurd (by rw [kind, hunit]) hkind
    · exact hplace
  refine ⟨fun i hi hkind ↦ ?_, fun n row os hos j hj i hi hkind ↦ ?_, ?_⟩
  · obtain ⟨j, -, hj, hij⟩ := Tree.exists_mem_chain_root hi
    exact hplace (Shaper.accounts_convertRow _ hj) (Tree.outline_mem_subtrees hij) hkind
  · exact hplace (hos.accounts _ hj) (Tree.outline_mem_subtrees hi) hkind
  · intro block row lead line before after front back h hline hrow hlead hreached
    obtain ⟨n, c, x, hx, hleast, hkind⟩ := h.exists_isLeast hline hrow hlead hreached
    refine ⟨n, c, x, hx, Site.anchor_eq_some_of_isLeast (Tree.walk_ofOutlines _) hleast, ?_⟩
    obtain ⟨inFront, items, behind, hsplit, -⟩ := hx.exists_children
    refine Site.descendants_subset_environmentWindow (c := c) hleast ?_ ?_ hkind
    · rw [hsplit]
      exact List.mem_append_right _ List.mem_cons_self
    · rw [← Tree.kind_outline, hx.outline_eq]
      exact (by decide : Kind.slist ∈ Kind.statementContainers)

/-- The rows of the class in front of the block of its method. -/
theorem rows_wrappedLabel : wrappedLabel.root.rows
    = wrappedLabel.root.rows.take 16 ++ wrappedBlock.rows ++ wrappedLabel.root.rows.drop 49 := by
  rfl

/-- The switch has the third line for itself, so the line belongs to it. -/
theorem anchor_wrappedLabel :
    (∀ i < wrappedTree.size, wrappedTree.kind i ≠ .compilationUnit →
      ∃ q ∈ wrappedLabel.root.rows, (wrappedTree.outline i).At wrappedLabel.source q) ∧
    ∃ opening row closing, wrappedBlock.children = [opening, row, closing] ∧
      row.type = "switch_expression" ∧
      ∃ n c x,
        wrappedTree.IsFirstItem wrappedLabel.source n wrappedBlock row [opening] [closing] c x ∧
        (Site.ofLine wrappedTree 3).anchor = some x ∧
        wrappedTree.descendants (some x) ⊆ (Site.ofLine wrappedTree 3).window .environment := by
  obtain ⟨hplaces, -, hanchor⟩ := anchor_of_isAloneOnLine tree_wrappedLabel
  refine ⟨hplaces, _, _, _, rfl, rfl, ?_⟩
  refine hanchor wrappedBlock _ _ 3 (wrappedLabel.root.rows.take 16)
    (wrappedLabel.root.rows.drop 49) _ _ ⟨rows_wrappedLabel, rfl, by decide, ?_, ?_⟩
    (by decide) (.keyword (by decide) (List.cons_ne_nil _ _)) (by decide +kernel) ⟨995, 20, ?_, ?_⟩
  · have harguments : ∀ c ∈ wrappedLabel.root.rows, ∀ d ∈ c.field? "arguments",
        d.type ≠ wrappedBlock.type := by decide +kernel
    intro c hc _ hfield
    exact harguments c hc wrappedBlock hfield rfl
  · decide +kernel
  · decide +kernel
  · exact Tree.outline_of_getElem?_subtreesAll (by rfl)

end Reading

end LintMark

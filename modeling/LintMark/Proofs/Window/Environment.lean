import LintMark.Proofs.Syntax.Ancestry
import Mathlib.Order.Bounds.Basic

/-!
# The statement around a warning

The window of the enclosing statement in terms of the tree alone (`environmentWindow_ofOutlines`):
no table of parents, no climbing and no slice of a list of siblings is left in the description.

A warning belongs to the first node on its line. Around that node stand members of statement
containers, one inside the other, and the innermost of them is the statement of the warning. The
window is made up of its subtree and the subtrees of the members next to it, separators not counted.
Where nothing stands around the node, or a separator does, the window is that of the line.
-/

namespace LintMark

namespace Tree

/-! ## Members of statement containers -/

/-- Node `x` is a member of the statement container `c`, and node `i` is `x` or stands below it. -/
structure IsMemberAround (t : Tree) (i x c : Nat) : Prop where
  /-- The node is `x` or stands below it. -/
  mem_descendants : i ∈ t.descendants (some x)
  /-- The container holds `x`. -/
  mem_children : x ∈ t.children c
  /-- The container is one. -/
  kind_mem : t.kind c ∈ Kind.statementContainers

/-- Of all members of statement containers around node `i`, node `x` in `c` is the innermost. -/
structure IsInnermostMember (t : Tree) (i x c : Nat) : Prop extends IsMemberAround t i x c where
  /-- Every other member around the node stands around `x` as well. -/
  mem_descendants_of_isMemberAround : ∀ y d, t.IsMemberAround i y d → x ∈ t.descendants (some y)

namespace LaidOut

variable {t : Tree} (ht : t.LaidOut)

include ht

theorem bind_parent?_eq_some_iff {y : Nat} {p : Nat × Nat} :
    ((t.parents.parent? y).bind fun container ↦
        if t.kind container ∈ Kind.statementContainers then some (y, container) else none) = some p ↔
      p.1 = y ∧ y ∈ t.children p.2 ∧ t.kind p.2 ∈ Kind.statementContainers := by
  obtain ⟨x, c⟩ := p
  rw [Option.bind_eq_some_iff]
  constructor
  · rintro ⟨container, hparent, hsome⟩
    split at hsome
    · next hkind =>
      cases hsome
      exact ⟨rfl, ht.parent?_eq_some_iff.1 hparent, hkind⟩
    · cases hsome
  · rintro ⟨rfl, hchild, hkind⟩
    exact ⟨c, ht.parent?_eq_some_iff.2 hchild, if_pos hkind⟩

/-- The search upwards finds nothing exactly when no member stands around the node. -/
theorem statement?_eq_none_iff {i : Nat} :
    t.statement? t.parents i = none ↔ ¬ ∃ x c, t.IsMemberAround i x c := by
  rw [statement?, List.findSome?_eq_none_iff]
  constructor
  · rintro hnone ⟨x, c, h⟩
    have hsome := ht.bind_parent?_eq_some_iff (p := (x, c)).2 ⟨rfl, h.mem_children, h.kind_mem⟩
    rw [hnone x (ht.mem_cons_ancestors_iff.2 h.mem_descendants)] at hsome
    cases hsome
  · intro hnone y hy
    refine Option.eq_none_iff_forall_not_mem.2 fun p hp ↦ ?_
    obtain ⟨-, hchild, hkind⟩ := ht.bind_parent?_eq_some_iff.1 hp
    exact hnone ⟨y, p.2, ht.mem_cons_ancestors_iff.1 hy, hchild, hkind⟩

/-- What the search upwards finds is the innermost member around the node. -/
theorem isInnermostMember_of_statement? {i x c : Nat}
    (h : t.statement? t.parents i = some (x, c)) : t.IsInnermostMember i x c := by
  obtain ⟨passed, x', further, hclimb, hfound, hpassed⟩ := List.findSome?_eq_some_iff.1 h
  obtain ⟨hx, hchild, hkind⟩ := ht.bind_parent?_eq_some_iff.1 hfound
  obtain rfl : x = x' := hx
  have hmem : x ∈ i :: t.parents.ancestors i := by
    rw [hclimb]
    exact List.mem_append_right _ List.mem_cons_self
  refine ⟨⟨ht.mem_cons_ancestors_iff.1 hmem, hchild, hkind⟩, fun y d hy ↦ ?_⟩
  -- Another member was not passed by, so it was met further up.
  have hymem := ht.mem_cons_ancestors_iff.2 hy.mem_descendants
  have houtwards := ht.pairwise_cons_ancestors i
  rw [hclimb] at hymem houtwards
  obtain hymem | hymem := List.mem_append.1 hymem
  · have hsome := ht.bind_parent?_eq_some_iff (p := (y, d)).2 ⟨rfl, hy.mem_children, hy.kind_mem⟩
    rw [hpassed y hymem] at hsome
    cases hsome
  · obtain rfl | hymem := List.mem_cons.1 hymem
    · exact t.mem_descendants_self y
    · exact (List.pairwise_cons.1 (List.pairwise_append.1 houtwards).2.1).1 y hymem

theorem statement?_eq_some_iff {i x c : Nat} :
    t.statement? t.parents i = some (x, c) ↔ t.IsInnermostMember i x c := by
  refine ⟨ht.isInnermostMember_of_statement?, fun h ↦ ?_⟩
  cases hfound : t.statement? t.parents i with
  | none => exact absurd ⟨x, c, h.toIsMemberAround⟩ (ht.statement?_eq_none_iff.1 hfound)
  | some p =>
    obtain ⟨y, d⟩ := p
    have hy := ht.isInnermostMember_of_statement? hfound
    obtain rfl : x = y := descendants_antisymm
      (hy.mem_descendants_of_isMemberAround x c h.toIsMemberAround)
      (h.mem_descendants_of_isMemberAround y d hy.toIsMemberAround)
    rw [ht.eq_of_mem_children hy.mem_children h.mem_children]

/-- What is the innermost member around a node that is no container is so around its children. -/
theorem isInnermostMember_of_mem_children {i j x c : Nat} (h : t.IsInnermostMember i x c)
    (hj : j ∈ t.children i) (hi : t.kind i ∉ Kind.statementContainers) :
    t.IsInnermostMember j x c := by
  have hmem : j ∈ t.descendants (some i) :=
    mem_descendants_iff.2 (.inr ⟨j, hj, t.mem_descendants_self j⟩)
  refine ⟨⟨descendants_trans hmem h.mem_descendants, h.mem_children, h.kind_mem⟩, fun y d hy ↦ ?_⟩
  have hymem := ht.mem_cons_ancestors_iff.2 hy.mem_descendants
  rw [Parents.ancestors_of_parent?_eq_some (ht.parent?_eq_some_iff.2 hj)] at hymem
  obtain rfl | hymem := List.mem_cons.1 hymem
  · refine absurd hy.kind_mem ?_
    rwa [ht.eq_of_mem_children hy.mem_children hj]
  · exact h.mem_descendants_of_isMemberAround y d
      ⟨ht.mem_cons_ancestors_iff.1 hymem, hy.mem_children, hy.kind_mem⟩

end LaidOut

/-- A member of a container is the innermost member around itself. -/
theorem isInnermostMember_self {t : Tree} {x c : Nat} (hx : x ∈ t.children c)
    (hc : t.kind c ∈ Kind.statementContainers) : t.IsInnermostMember x x c :=
  ⟨⟨t.mem_descendants_self x, hx, hc⟩, fun _ _ hy ↦ hy.mem_descendants⟩

/-! ## Neighbours -/

/-- The children of a node that are no separators. -/
def members (t : Tree) (c : Nat) : List Nat :=
  (t.children c).filter fun x ↦ t.kind x ∉ Kind.separators

theorem nodup_members (t : Tree) (c : Nat) : (t.members c).Nodup := (t.nodup_children c).filter _

theorem mem_members_iff {t : Tree} {c x : Nat} :
    x ∈ t.members c ↔ x ∈ t.children c ∧ t.kind x ∉ Kind.separators := by
  rw [members, List.mem_filter, decide_eq_true_iff]

end Tree

/-- The neighbours of a member are the last member in front of it, the member itself, and the first
member behind it. -/
theorem neighbours_append_cons {before after : List Nat} {x : Nat} (hx : x ∉ before) :
    neighbours (before ++ x :: after) x
      = before.getLast?.toList ++ x :: after.head?.toList := by
  have hplace : (before ++ x :: after).idxOf x = before.length := by
    rw [List.idxOf_append_of_notMem hx, List.idxOf_cons_self, Nat.add_zero]
  have htake : ∀ rest : List Nat, rest.take 1 = rest.head?.toList := by
    intro rest
    cases rest <;> rfl
  rw [neighbours, hplace]
  obtain rfl | ⟨front, last, rfl⟩ := List.eq_nil_or_concat' before
  · exact congrArg (x :: ·) (htake after)
  · rw [List.length_append, List.length_singleton, Nat.add_sub_cancel, List.append_assoc,
      List.drop_left, List.getLast?_concat]
    have hcount : front.length + 1 + 2 - front.length = 3 := by omega
    rw [hcount]
    exact congrArg (fun rest ↦ last :: x :: rest) (htake after)

namespace Site

open LintMark.Tree

variable {t : Tree} {line : Int}

/-! ## The node of a warning -/

/-- A node on a line is the first one where no node in front of it stands on that line. -/
theorem isLeast_line {a : Nat} (h : a < t.size ∧ t.line a = line ∧ ∀ i < a, t.line i ≠ line) :
    IsLeast {i | i < t.size ∧ t.line i = line} a :=
  ⟨⟨h.1, h.2.1⟩, fun _ hi ↦ Nat.le_of_not_lt fun hlt ↦ h.2.2 _ hlt hi.2⟩

/-- Where the walk counts the nodes, the node of a warning is the first one on its line. -/
theorem anchor_eq_some_of_isLeast (hwalk : t.walk t.root = List.range t.size) {a : Nat}
    (ha : IsLeast {i | i < t.size ∧ t.line i = line} a) : (ofLine t line).anchor = some a := by
  obtain ⟨⟨hsize, hline⟩, hleast⟩ := ha
  have hmem : a ∈ (List.range t.size).filter fun i ↦ t.line i = line :=
    List.mem_filter.2 ⟨List.mem_range.2 hsize, decide_eq_true hline⟩
  rw [anchor, sameLine_ofLine, nodesOnLine, hwalk]
  cases hon : (List.range t.size).filter fun i ↦ t.line i = line with
  | nil =>
    rw [hon] at hmem
    cases hmem
  | cons b rest =>
    have hrising : (b :: rest).Pairwise (· < ·) := by
      rw [← hon]
      exact List.pairwise_lt_range.filter _
    have hb : b ∈ (List.range t.size).filter fun i ↦ t.line i = line := by
      rw [hon]
      exact List.mem_cons_self
    obtain ⟨hbsize, hbline⟩ := List.mem_filter.1 hb
    have hle : a ≤ b := hleast ⟨List.mem_range.1 hbsize, of_decide_eq_true hbline⟩
    rw [hon] at hmem
    obtain rfl | hmem := List.mem_cons.1 hmem
    · rfl
    · exact absurd ((List.pairwise_cons.1 hrising).1 a hmem) (Nat.not_lt.2 hle)

theorem sameLine_eq_nil (hline : ∀ i < t.size, t.line i ≠ line) :
    (ofLine t line).sameLine = [] := by
  rw [sameLine_ofLine, nodesOnLine, List.filter_eq_nil_iff]
  intro i hi
  rw [decide_eq_true_iff]
  exact hline i (lt_size_of_mem_walk t.inArena_root hi)

/-! ## The window -/

section

variable {a : Nat} (ha : (ofLine t line).anchor = some a)

include ha

theorem environmentWindow_of_none (h : t.statement? t.parents a = none) :
    (ofLine t line).environmentWindow = (ofLine t line).lineWindow := by
  rw [environmentWindow, ha]
  dsimp only
  rw [tree_ofLine, h]

theorem environmentWindow_of_separator {x c : Nat} (h : t.statement? t.parents a = some (x, c))
    (hx : t.kind x ∈ Kind.separators) :
    (ofLine t line).environmentWindow = (ofLine t line).lineWindow := by
  rw [environmentWindow, ha]
  dsimp only
  rw [tree_ofLine, h]
  exact if_neg fun hmem ↦ (mem_members_iff.1 hmem).2 hx

theorem environmentItems_of_member {x c : Nat} (h : t.statement? t.parents a = some (x, c))
    {before after : List Nat} (hmembers : t.members c = before ++ x :: after) :
    (ofLine t line).environmentItems
      = some (before.getLast?.toList ++ x :: after.head?.toList) := by
  have hx : x ∈ t.members c := by
    rw [hmembers]
    exact List.mem_append_right _ List.mem_cons_self
  have hbefore : x ∉ before := by
    have hnodup := t.nodup_members c
    rw [hmembers] at hnodup
    exact fun hmem ↦ List.disjoint_of_nodup_append hnodup hmem List.mem_cons_self
  rw [environmentItems, ha, Option.bind_some, tree_ofLine, h, Option.bind_some,
    ← neighbours_append_cons hbefore, ← hmembers]
  exact if_pos hx

end

section

variable {os : List Outline} {a x c : Nat}
  (ha : IsLeast {i | i < (ofOutlines os).size ∧ (ofOutlines os).line i = line} a)
  (hx : (ofOutlines os).IsInnermostMember a x c) {before after : List Nat}
  (hmembers : (ofOutlines os).members c = before ++ x :: after)

include ha hx hmembers

/-- In a tree that was laid out from outlines, the items of a line are the innermost member around
the first node on it and the neighbours of that member. -/
theorem environmentItems_of_isInnermostMember :
    (ofLine (ofOutlines os) line).environmentItems
      = some (before.getLast?.toList ++ x :: after.head?.toList) :=
  environmentItems_of_member (anchor_eq_some_of_isLeast (walk_ofOutlines os) ha)
    ((laidOut_ofOutlines os).statement?_eq_some_iff.2 hx) hmembers

theorem environmentWindow_of_isInnermostMember :
    (ofLine (ofOutlines os) line).window .environment
      = (ofOutlines os).subtrees (before.getLast?.toList ++ x :: after.head?.toList) := by
  rw [window, environmentWindow_eq_elim, environmentItems_of_isInnermostMember ha hx hmembers,
    Option.elim_some, tree_ofLine]

end

/-- **The window of the enclosing statement.** Let `a` be the first node on the line. Where no
member of a statement container stands around `a`, or the innermost one is a separator, the window
is that of the line. Otherwise it consists of the subtrees of that member, of the member in front
of it and of the member behind it, separators not counted. Either way `a` is in it. The window of a
line without nodes is empty. -/
theorem environmentWindow_ofOutlines (os : List Outline) (line : Int) :
    let t := ofOutlines os
    let window := (ofLine t line).window .environment
    let lineWindow := (ofLine t line).window .line
    (∀ a, IsLeast {i | i < t.size ∧ t.line i = line} a →
      a ∈ window ∧
      ((¬ ∃ x c, t.IsMemberAround a x c) → window = lineWindow) ∧
      ∀ x c, t.IsInnermostMember a x c →
        (t.kind x ∈ Kind.separators → window = lineWindow) ∧
        (t.kind x ∉ Kind.separators → ∃ before after,
          ((t.children c).filter fun y ↦ t.kind y ∉ Kind.separators) = before ++ x :: after ∧
          window = t.subtrees (before.getLast?.toList ++ x :: after.head?.toList))) ∧
    ((∀ i < t.size, t.line i ≠ line) → window = [] ∧ lineWindow = []) := by
  intro t window lineWindow
  have ht : t.LaidOut := laidOut_ofOutlines os
  refine ⟨fun a ha ↦ ?_, fun hline ↦ ?_⟩
  · have hanchor := anchor_eq_some_of_isLeast (walk_ofOutlines os) ha
    have hlineWindow : a ∈ lineWindow := List.mem_of_head? hanchor
    have hmember : ∀ x c, t.IsInnermostMember a x c → t.kind x ∉ Kind.separators →
        ∃ before after, t.members c = before ++ x :: after ∧
          window = t.subtrees (before.getLast?.toList ++ x :: after.head?.toList) := by
      intro x c hx hkind
      obtain ⟨before, after, hmembers⟩ :=
        List.append_of_mem (mem_members_iff.2 ⟨hx.mem_children, hkind⟩)
      exact ⟨before, after, hmembers, environmentWindow_of_isInnermostMember ha hx hmembers⟩
    refine ⟨?_, fun hnone ↦ ?_, fun x c hx ↦ ⟨fun hkind ↦ ?_, hmember x c hx⟩⟩
    · cases hfound : t.statement? t.parents a with
      | none => rwa [show window = lineWindow from environmentWindow_of_none hanchor hfound]
      | some p =>
        obtain ⟨x, c⟩ := p
        by_cases hkind : t.kind x ∈ Kind.separators
        · rwa [show window = lineWindow from environmentWindow_of_separator hanchor hfound hkind]
        · have hx := ht.statement?_eq_some_iff.1 hfound
          obtain ⟨before, after, -, hwindow⟩ := hmember x c hx hkind
          rw [hwindow]
          exact List.mem_flatMap.2
            ⟨x, List.mem_append_right _ List.mem_cons_self, hx.mem_descendants⟩
    · exact environmentWindow_of_none hanchor (ht.statement?_eq_none_iff.2 hnone)
    · exact environmentWindow_of_separator hanchor (ht.statement?_eq_some_iff.2 hx) hkind
  · have hnil := sameLine_eq_nil hline
    refine ⟨?_, hnil⟩
    have hanchor : (ofLine t line).anchor = none := by
      rw [anchor, hnil]
      rfl
    change (ofLine t line).environmentWindow = []
    rw [environmentWindow, hanchor]

/-- The outline of a block of three calls, one on each line from the second on. -/
def threeCalls : Outline :=
  let call (name : String) (line : Int) : List Outline :=
    [.node ⟨.expr, "", line, 2⟩ [.node ⟨.ident, name, line, 2⟩ []], .node ⟨.semi, ";", line, 5⟩ []]
  .node ⟨.slist, "\x7b", 1, 0⟩
    (call "f" 2 ++ call "g" 3 ++ call "h" 4 ++ [.node ⟨.rcurly, "\x7d", 5, 0⟩ []])

/-- On the line of the second call the window holds all three calls and no semicolon. -/
theorem environmentWindow_threeCalls :
    IsLeast {i | i < (ofOutlines [threeCalls]).size ∧ (ofOutlines [threeCalls]).line i = 3} 4 ∧
    (ofOutlines [threeCalls]).IsInnermostMember 4 4 0 ∧
    ∃ before after, (ofOutlines [threeCalls]).members 0 = before ++ 4 :: after ∧
      (ofLine (ofOutlines [threeCalls]) 3).window .environment
        = (ofOutlines [threeCalls]).subtrees (before.getLast?.toList ++ 4 :: after.head?.toList) ∧
      (ofLine (ofOutlines [threeCalls]) 3).window .environment = [1, 2, 4, 5, 7, 8] := by
  have hleast : IsLeast
      {i | i < (ofOutlines [threeCalls]).size ∧ (ofOutlines [threeCalls]).line i = 3} 4 :=
    isLeast_line (by decide)
  have hchildren : (ofOutlines [threeCalls]).children 0 = [1, 3, 4, 6, 7, 9, 10] := by cbv
  have hinner : (ofOutlines [threeCalls]).IsInnermostMember 4 4 0 :=
    isInnermostMember_self (by rw [hchildren]; decide) (by decide)
  obtain ⟨before, after, hmembers, hwindow⟩ :=
    (((environmentWindow_ofOutlines [threeCalls] 3).1 4 hleast).2.2 4 0 hinner).2 (by decide)
  have hcalls : (ofLine (ofOutlines [threeCalls]) 3).window .environment = [1, 2, 4, 5, 7, 8] := by
    have hsplit : (ofOutlines [threeCalls]).members 0 = [1] ++ 4 :: [7] := by
      rw [members, hchildren]
      rfl
    rw [environmentWindow_of_isInnermostMember hleast hinner hsplit]
    show (ofOutlines [threeCalls]).subtrees [1, 4, 7] = _
    cbv
  exact ⟨hleast, hinner, before, after, hmembers, hwindow, hcalls⟩

end Site

end LintMark

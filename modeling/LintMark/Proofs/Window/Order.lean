import LintMark.Proofs.Syntax.Layout
import LintMark.Proofs.Window.Selection
import Mathlib.Data.List.Flatten

/-!
# Windows in document order

A window lists nodes in document order, and none of them twice (`window_increasing`). This holds of
every strategy and of everything that a strategy falls back on.

## Parts of the walk

The order of a window is that of the walk over the whole tree, so a window is a part of the walk: a
list that the walk becomes when nodes are left out. A node of the walk brings all that it starts as
one stretch of the walk, and the subtrees of its children stand in that stretch one after the other.
Leaving out children, or all children but a few neighbours, leaves out stretches. No two indices are
compared before the walk is known to count them.

The strategies on types also look for the first type of the arena, wherever it stands. Windows are
therefore parts of the walk in those trees whose walk meets every node, as it does in a tree that
was laid out from outlines.
-/

namespace LintMark

namespace Tree

variable {t : Tree}

/-! ## Stretches of a walk -/

/-- What a node of a walk starts is a part of the walk. -/
theorem pre_sublist_pre {o : Option Nat} {i : Nat} (hi : i ∈ t.pre o) :
    (t.pre (some i)).Sublist (t.pre o) := by
  fun_induction pre t o with
  | case1 => cases hi
  | case2 k ihChild ihSibling =>
    rcases List.mem_cons.1 hi with rfl | hi
    · rw [pre_some]
    · rcases List.mem_append.1 hi with hi | hi
      · exact ((ihChild hi).trans (List.sublist_append_left _ _)).cons k
      · exact ((ihSibling hi).trans (List.sublist_append_right _ _)).cons k

/-- The subtree of a node of a walk is a part of the walk. -/
theorem descendants_sublist_walk {o : Option Nat} {i : Nat} (hi : i ∈ t.walk o) :
    (t.descendants (some i)).Sublist (t.walk o) := by
  rw [walk_eq_pre] at hi ⊢
  refine List.Sublist.trans ?_ (pre_sublist_pre hi)
  rw [descendants_some, pre_some]
  exact (List.sublist_append_left _ _).cons_cons i

/-- A node and the subtrees of its children make up its subtree. -/
theorem cons_subtrees_children (t : Tree) (i : Nat) :
    i :: t.subtrees (t.children i) = t.descendants (some i) := by
  rw [subtrees_children, descendants_some]

/-- The node and the subtrees of some of its children are a part of its subtree. -/
theorem cons_subtrees_sublist {i : Nat} {is : List Nat} (his : is.Sublist (t.children i)) :
    (i :: t.subtrees is).Sublist (t.descendants (some i)) := by
  rw [← t.cons_subtrees_children i]
  exact (his.flatMap _).cons_cons i

/-- The subtrees of some children of a node of a walk are a part of the walk. -/
theorem subtrees_sublist_walk {o : Option Nat} {i : Nat} (hi : i ∈ t.walk o) {is : List Nat}
    (his : is.Sublist (t.children i)) : (t.subtrees is).Sublist (t.walk o) :=
  ((List.sublist_cons_self i _).trans (cons_subtrees_sublist his)).trans
    (descendants_sublist_walk hi)

end Tree

namespace Site

open LintMark.Tree

variable {t : Tree} {line : Int}

/-! ## What the strategies select -/

theorem neighbours_sublist (xs : List Nat) (x : Nat) : (neighbours xs x).Sublist xs :=
  (List.take_sublist _ _).trans (List.drop_sublist _ _)

/-- What a top-level item adds to the window of names is a part of the subtree of the item. -/
theorem nameOf_sublist_descendants (t : Tree) (item : Nat) :
    (nameOf t item).Sublist (t.descendants (some item)) := by
  rw [nameOf]
  split
  · exact List.Sublist.refl _
  · split
    · cases hname : t.findChild item Kind.ident with
      | none => exact List.nil_sublist _
      | some name =>
        have hchild : name ∈ t.children item := List.mem_of_find?_eq_some hname
        have hmem : name ∈ t.descendants (some item) := by
          rw [← t.cons_subtrees_children item]
          exact List.mem_cons_of_mem _
            (List.mem_flatMap.2 ⟨name, hchild, List.mem_cons_self⟩)
        exact List.singleton_sublist.2 hmem
    · exact List.nil_sublist _

theorem lineWindow_sublist_walk : (ofLine t line).lineWindow.Sublist (t.walk t.root) :=
  List.filter_sublist

theorem namePackageWindow_sublist_walk :
    (ofLine t line).namePackageWindow.Sublist (t.walk t.root) := by
  rw [namePackageWindow, tree_ofLine]
  split
  · exact List.nil_sublist _
  · next root hroot =>
    have hmem : root ∈ t.walk t.root := by
      rw [hroot, walk_eq_pre, pre_some]
      exact List.mem_cons_self
    have hnames : ((t.children root).flatMap (nameOf t)).Sublist
        (t.subtrees (t.children root)) :=
      List.Sublist.flatMap_right _ fun item _ ↦ nameOf_sublist_descendants t item
    exact hnames.trans (subtrees_sublist_walk hmem (List.Sublist.refl _))

section

variable (hall : ∀ i < t.size, i ∈ t.walk t.root)

include hall

theorem environmentWindow_sublist_walk :
    (ofLine t line).environmentWindow.Sublist (t.walk t.root) := by
  rw [environmentWindow]
  split
  · exact List.nil_sublist _
  · next anchor hanchor =>
    split
    · exact lineWindow_sublist_walk
    · next statement container hstatement =>
      -- The container has the statement as a child, so it is a node of the tree.
      have hcontainer : container < t.size := by
        obtain ⟨c, -, hc⟩ := List.exists_of_findSome?_eq_some hstatement
        obtain ⟨k, hk, hkind⟩ := Option.bind_eq_some_iff.1 hc
        split at hkind
        · cases hkind
          exact (mem_children_of_parent? hk).1
        · cases hkind
      dsimp only
      split
      · exact subtrees_sublist_walk (hall container hcontainer)
          ((neighbours_sublist _ _).trans List.filter_sublist)
      · exact lineWindow_sublist_walk

theorem methodWindow_sublist_walk :
    (ofLine t line).methodWindow.Sublist (t.walk t.root) := by
  rw [methodWindow]
  split
  · exact lineWindow_sublist_walk
  · next method hmethod =>
    exact descendants_sublist_walk (hall method (lt_size_of_method? hmethod))

theorem typeWindow_sublist_walk : (ofLine t line).typeWindow.Sublist (t.walk t.root) := by
  rw [typeWindow]
  split
  · exact lineWindow_sublist_walk
  · next decl hdecl =>
    exact (cons_subtrees_sublist List.filter_sublist).trans
      (descendants_sublist_walk (hall decl (lt_size_of_type? hdecl)))

theorem fieldsWindow_sublist_walk (keep : Nat → Bool) :
    ((ofLine t line).fieldsWindow keep).Sublist (t.walk t.root) := by
  rw [fieldsWindow]
  split
  · exact List.nil_sublist _
  · split
    · exact List.nil_sublist _
    · next body hbody =>
      exact subtrees_sublist_walk (hall body (lt_size_of_findChild hbody)) List.filter_sublist

/-- In a tree whose walk meets every node, every window is a part of the walk. -/
theorem window_sublist_walk (strategy : Strategy) :
    ((ofLine t line).window strategy).Sublist (t.walk t.root) := by
  cases strategy with
  | line => exact lineWindow_sublist_walk
  | environment => exact environmentWindow_sublist_walk hall
  | method => exact methodWindow_sublist_walk hall
  | typeHeader => exact typeWindow_sublist_walk hall
  | fields => exact fieldsWindow_sublist_walk hall _
  | instanceFields => exact fieldsWindow_sublist_walk hall _
  | methodOrType =>
    rw [window, methodOrTypeWindow]
    split
    · exact methodWindow_sublist_walk hall
    · exact typeWindow_sublist_walk hall
  | namePackage => exact namePackageWindow_sublist_walk

end

/-! ## Windows of a tree laid out from outlines -/

/-- **A window lists nodes in document order.** Whatever the strategy and the line, the window in a
tree laid out from outlines is a part of the walk over the tree; its indices rise strictly, so no
node stands in it twice; and every index is that of a node. -/
theorem window_increasing (os : List Outline) (line : Int) (strategy : Strategy) :
    let t := ofOutlines os
    let window := (ofLine t line).window strategy
    window.Sublist (t.walk t.root) ∧ window.Pairwise (· < ·) ∧ ∀ i ∈ window, i < t.size := by
  intro t window
  have hwalk : t.walk t.root = List.range t.size := walk_ofOutlines os
  have hall : ∀ i < t.size, i ∈ t.walk t.root := by
    intro i hi
    rw [hwalk]
    exact List.mem_range.2 hi
  have hpart : window.Sublist (t.walk t.root) := window_sublist_walk hall strategy
  refine ⟨hpart, ?_, fun i hi ↦ lt_size_of_mem_window hi⟩
  rw [hwalk] at hpart
  exact List.pairwise_lt_range.sublist hpart

end Site

end LintMark

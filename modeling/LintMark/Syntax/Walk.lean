import LintMark.Syntax.Tree

/-!
# Walks in document order

Two descriptions of one order. `Tree.pre` says what the order is: a node, then everything that
its first child starts, then everything that its next sibling starts. `Tree.walk` is how the
order is produced: a stack of nodes still to visit, so that deep trees and long sibling chains
cost no recursion. `walk_eq_pre` joins the two.

The searches below (`nodesOnLine`, `descendants`, `blockByOrdinal`) run on the walk.

## Why the stack empties

A node that is shared by two parents is visited twice, so no count of nodes bounds the walk. What
falls with every step is the number of visits still to come: the order that the stack starts.
-/

namespace LintMark.Tree

/-! ## The order -/

/-- `o`, everything below it, and then the same for every sibling to its right. -/
def pre (t : Tree) : Option Nat → List Nat
  | none => []
  | some i => i :: (t.pre (t.node i).firstChild ++ t.pre (t.node i).nextSibling)
termination_by o => t.depth o
decreasing_by
  · exact t.depth_firstChild_lt i
  · exact t.depth_nextSibling_lt i

@[simp] theorem pre_none (t : Tree) : t.pre none = [] := by rw [pre]

theorem pre_some (t : Tree) (i : Nat) :
    t.pre (some i) = i :: (t.pre (t.node i).firstChild ++ t.pre (t.node i).nextSibling) := by
  rw [pre]

/-- The stack after `i` has been visited: its first child comes first, then its sibling. -/
def pushLinks (t : Tree) (i : Nat) (stack : List Nat) : List Nat :=
  (t.node i).firstChild.toList ++ (t.node i).nextSibling.toList ++ stack

theorem flatMap_pre_pushLinks (t : Tree) (i : Nat) (stack : List Nat) :
    i :: (t.pushLinks i stack).flatMap (fun j ↦ t.pre (some j))
      = (i :: stack).flatMap fun j ↦ t.pre (some j) := by
  have toList_flatMap (o : Option Nat) : o.toList.flatMap (fun j ↦ t.pre (some j)) = t.pre o := by
    cases o <;> simp
  simp only [pushLinks, List.flatMap_append, toList_flatMap, List.flatMap_cons, t.pre_some i,
    List.cons_append, List.append_assoc]

theorem length_pre_pushLinks_lt (t : Tree) (i : Nat) (stack : List Nat) :
    ((t.pushLinks i stack).flatMap fun j ↦ t.pre (some j)).length
      < ((i :: stack).flatMap fun j ↦ t.pre (some j)).length := by
  rw [← t.flatMap_pre_pushLinks i stack, List.length_cons]
  exact Nat.lt_succ_self _

/-! ## The walk -/

/-- Visits the stack in order; `seen` holds the visits made so far. -/
def walkStack (t : Tree) (seen : Array Nat) : List Nat → Array Nat
  | [] => seen
  | i :: stack => t.walkStack (seen.push i) (t.pushLinks i stack)
termination_by stack => (stack.flatMap fun i ↦ t.pre (some i)).length
decreasing_by exact t.length_pre_pushLinks_lt i stack

/-- `o`, everything below it, each sibling to its right and everything below those, in document
order. -/
def walk (t : Tree) (o : Option Nat) : List Nat := (t.walkStack #[] o.toList).toList

theorem walkStack_toList (t : Tree) (seen : Array Nat) (stack : List Nat) :
    (t.walkStack seen stack).toList = seen.toList ++ stack.flatMap fun i ↦ t.pre (some i) := by
  fun_induction walkStack t seen stack with
  | case1 seen => simp
  | case2 seen i stack ih =>
    rw [ih, ← t.flatMap_pre_pushLinks i stack, Array.toList_push, List.append_assoc,
      List.singleton_append]

/-- The stack produces the document order. -/
theorem walk_eq_pre (t : Tree) (o : Option Nat) : t.walk o = t.pre o := by
  cases o <;> simp [walk, walkStack_toList]

/-- `o` and everything below it, without the siblings of `o`. -/
def descendants (t : Tree) : Option Nat → List Nat
  | none => []
  | some i => i :: t.walk (t.node i).firstChild

theorem descendants_some (t : Tree) (i : Nat) :
    t.descendants (some i) = i :: t.pre (t.node i).firstChild := by
  rw [descendants, walk_eq_pre]

/-- The subtrees along a chain of siblings make up what the chain starts. -/
theorem flatMap_descendants_chain (t : Tree) (o : Option Nat) :
    (t.chain o).flatMap (fun i ↦ t.descendants (some i)) = t.pre o := by
  fun_induction chain t o with
  | case1 => rw [List.flatMap_nil, pre_none]
  | case2 i ih => rw [List.flatMap_cons, ih, descendants_some, pre_some, List.cons_append]

/-! ## Searches -/

/-- The nodes of the walk that stand on `line`. -/
def nodesOnLine (t : Tree) (o : Option Nat) (line : Int) : List Nat :=
  (t.walk o).filter fun i ↦ t.line i = line

/-- The node of the given kind that comes after `skip` others of that kind, on the walk that
`stack` has still to make. -/
def seek (t : Tree) (kind : Kind) (skip : Nat) : List Nat → Option Nat
  | [] => none
  | i :: stack =>
    if t.kind i = kind then
      match skip with
      | 0 => some i
      | skip + 1 => t.seek kind skip (t.pushLinks i stack)
    else t.seek kind skip (t.pushLinks i stack)
termination_by stack => (stack.flatMap fun i ↦ t.pre (some i)).length
decreasing_by all_goals exact t.length_pre_pushLinks_lt i stack

/-- The `ordinal`-th node of `kind` on the walk from `o`, counted from zero. The walk stops at
that node. -/
def blockByOrdinal (t : Tree) (o : Option Nat) (kind : Kind) (ordinal : Int) : Option Nat :=
  if ordinal < 0 then none else t.seek kind ordinal.toNat o.toList

/-- The end of the sibling chain of `i`. -/
def lastSibling (t : Tree) (i : Nat) : Nat :=
  match _ : (t.node i).nextSibling with
  | none => i
  | some j => t.lastSibling j
termination_by t.rank i
decreasing_by exact t.rank_nextSibling_lt ‹_›

/-- The line on which the first type body of the file ends: that of its last child, its closing
brace. -/
def lastLine (t : Tree) : Option Int :=
  (t.blockByOrdinal t.root Kind.objBlock 0).map fun block ↦
    match (t.node block).firstChild with
    | none => t.line block
    | some first => t.line (t.lastSibling first)

end LintMark.Tree

import LintMark.Syntax.Kind

/-!
# Syntax trees as arenas

A syntax tree is an array of nodes that refer to each other by index: a node knows its first
child and its next sibling. Identity of a node is its index.

## What the tree guarantees

Every walk over a tree follows links, so a tree carries the two facts that make walks meaningful:
links stay inside the arena, and some rank falls along every link. The rank is only asserted to
exist, hence two trees with the same nodes are equal. Nothing says that a node has one parent:
arenas in which two nodes share a child are trees of this library too, and walks visit the
shared part twice.

`Tree.node` is total. An index outside the arena denotes the blank node, which has no links.

## Checking nodes from outside

`Tree.ofNodes?` accepts an array exactly when a computed candidate for the rank passes the test.
-/

namespace LintMark

/-- What a node says about the source, apart from its place in the tree. -/
structure Token where
  /-- The kind of the construct. -/
  kind : Kind
  /-- The literal text of a leaf, or the mark of the construct; empty where there is neither. -/
  text : String
  /-- The line on which the construct starts, counted from one. -/
  line : Int
  /-- The offset in that line, counted from zero. -/
  column : Int
deriving DecidableEq, Inhabited, Repr

/-- A token together with its links in an arena. -/
structure Node extends Token where
  /-- The index of the first child. -/
  firstChild : Option Nat
  /-- The index of the sibling to the right. -/
  nextSibling : Option Nat
deriving DecidableEq, Inhabited, Repr

namespace Node

/-- A leaf is a node without children. -/
def isLeaf (node : Node) : Bool := node.firstChild.isNone

/-- `j` is the first child or the next sibling that `node` names. -/
def LinksTo (node : Node) (j : Nat) : Prop :=
  node.firstChild = some j ∨ node.nextSibling = some j

instance (node : Node) (j : Nat) : Decidable (node.LinksTo j) :=
  inferInstanceAs (Decidable (_ ∨ _))

/-- The targets of the links of `node`. -/
def links (node : Node) : List Nat := node.firstChild.toList ++ node.nextSibling.toList

theorem mem_links {node : Node} {j : Nat} : j ∈ node.links ↔ node.LinksTo j := by
  simp [links, LinksTo]

end Node

/-- Every link of `nodes` stays in the array and lowers `rank`. -/
def LinksFall (nodes : Array Node) (rank : Nat → Nat) : Prop :=
  ∀ i, (h : i < nodes.size) → ∀ j ∈ nodes[i].links, j < nodes.size ∧ rank j < rank i

instance (nodes : Array Node) (rank : Nat → Nat) : Decidable (LinksFall nodes rank) :=
  inferInstanceAs (Decidable (∀ i, (h : i < nodes.size) → _))

/-- An arena of nodes whose links stay inside it and never run in a circle. -/
structure Tree where
  /-- The nodes, by index. -/
  nodes : Array Node
  /-- Some rank falls along every link. -/
  acyclic : ∃ rank, LinksFall nodes rank

namespace Tree

@[ext] theorem ext {s t : Tree} (h : s.nodes = t.nodes) : s = t := by
  cases s; cases t; cases h; rfl

/-- The number of nodes. -/
def size (t : Tree) : Nat := t.nodes.size

/-- The index of the first node, if there is one. -/
def root (t : Tree) : Option Nat := if t.nodes.isEmpty then none else some 0

/-- The node with index `i`; outside the arena, the blank node. -/
def node (t : Tree) (i : Nat) : Node := t.nodes[i]?.getD default

/-- The kind of the node with index `i`. -/
def kind (t : Tree) (i : Nat) : Kind := (t.node i).kind

/-- The text of the node with index `i`. -/
def text (t : Tree) (i : Nat) : String := (t.node i).text

/-- The line of the node with index `i`. -/
def line (t : Tree) (i : Nat) : Int := (t.node i).line

/-! ## Links -/

/-- A rank that falls along every link. -/
noncomputable def rank (t : Tree) : Nat → Nat := t.acyclic.choose

theorem node_eq_getElem (t : Tree) {i : Nat} (h : i < t.nodes.size) : t.node i = t.nodes[i] := by
  simp [node, h]

theorem node_of_size_le (t : Tree) {i : Nat} (h : t.nodes.size ≤ i) : t.node i = default := by
  simp [node, h]

theorem lt_size_of_linksTo (t : Tree) {i j : Nat} (h : (t.node i).LinksTo j) :
    i < t.nodes.size := by
  rcases Nat.lt_or_ge i t.nodes.size with hi | hi
  · exact hi
  · rw [t.node_of_size_le hi] at h
    rcases h with h | h <;> cases h

theorem target_lt_size (t : Tree) {i j : Nat} (h : (t.node i).LinksTo j) : j < t.nodes.size := by
  have hi := t.lt_size_of_linksTo h
  rw [t.node_eq_getElem hi] at h
  exact (t.acyclic.choose_spec i hi j (Node.mem_links.2 h)).1

theorem rank_lt (t : Tree) {i j : Nat} (h : (t.node i).LinksTo j) : t.rank j < t.rank i := by
  have hi := t.lt_size_of_linksTo h
  rw [t.node_eq_getElem hi] at h
  exact (t.acyclic.choose_spec i hi j (Node.mem_links.2 h)).2

theorem rank_firstChild_lt (t : Tree) {i j : Nat} (h : (t.node i).firstChild = some j) :
    t.rank j < t.rank i :=
  t.rank_lt (.inl h)

theorem rank_nextSibling_lt (t : Tree) {i j : Nat} (h : (t.node i).nextSibling = some j) :
    t.rank j < t.rank i :=
  t.rank_lt (.inr h)

/-- A measure on optional indices: no index lies below every index, and links descend. -/
noncomputable def depth (t : Tree) : Option Nat → Nat
  | none => 0
  | some i => t.rank i + 1

theorem depth_firstChild_lt (t : Tree) (i : Nat) :
    t.depth (t.node i).firstChild < t.depth (some i) := by
  cases h : (t.node i).firstChild with
  | none => simp [depth]
  | some j => simpa [depth] using t.rank_firstChild_lt h

theorem depth_nextSibling_lt (t : Tree) (i : Nat) :
    t.depth (t.node i).nextSibling < t.depth (some i) := by
  cases h : (t.node i).nextSibling with
  | none => simp [depth]
  | some j => simpa [depth] using t.rank_nextSibling_lt h

/-! ## Children -/

/-- `o`, its next sibling, the next sibling of that, and so on. -/
def chain (t : Tree) : Option Nat → List Nat
  | none => []
  | some i => i :: t.chain (t.node i).nextSibling
termination_by o => t.depth o
decreasing_by exact t.depth_nextSibling_lt i

/-- The children of `i`, from left to right. -/
def children (t : Tree) (i : Nat) : List Nat := t.chain (t.node i).firstChild

/-- The number of children of `i`. -/
def childCount (t : Tree) (i : Nat) : Nat := (t.children i).length

/-- The first child of `i` that has the given kind. -/
def findChild (t : Tree) (i : Nat) (kind : Kind) : Option Nat :=
  (t.children i).find? fun c ↦ t.kind c = kind

@[simp] theorem chain_none (t : Tree) : t.chain none = [] := by rw [chain]

theorem chain_some (t : Tree) (i : Nat) :
    t.chain (some i) = i :: t.chain (t.node i).nextSibling := by rw [chain]

/-! ## Checking nodes from outside -/

/-- One round of lifting every height above the heights of the link targets. -/
def liftHeights (nodes : Array Node) (heights : Array Nat) : Array Nat :=
  nodes.map fun node ↦ node.links.foldl (fun h j ↦ max h (heights.getD j 0 + 1)) 0

/-- Heights after as many rounds as there are nodes. Where links do not run in a circle, every
height has settled by then. -/
def settledHeights (nodes : Array Node) : Array Nat :=
  nodes.size.repeat (liftHeights nodes) (Array.replicate nodes.size 0)

/-- The tree with the given nodes, if their links stay in the array and never run in a circle. -/
def ofNodes? (nodes : Array Node) : Option Tree :=
  let heights := settledHeights nodes
  if h : LinksFall nodes (fun i ↦ heights.getD i 0) then some ⟨nodes, _, h⟩ else none

end Tree

end LintMark

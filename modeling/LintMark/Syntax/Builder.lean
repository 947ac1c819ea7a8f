import LintMark.Syntax.Outline

/-!
# Building an arena with a stack

`Tree.ofOutlines` says where every outline of a forest goes. `Builder.build` gets there without
recursion on the outlines: outlines that wait for an index stand on a stack, the next one is put
behind the nodes built so far, and its children go on top of the stack.

## Links are filled in later

A node is built before its children and its sibling have indices, so it starts without links. The
link to a node is filled in when that node gets its index. Its place among its siblings says which
link that is: the first of them is the first child of the node above, and every other one is the
next sibling of the one before it, whose index stands in the group that the siblings share.

That a node in the middle of a group finds the index of its neighbour there is what the order of
the stack is for: everything below a sibling leaves the stack before the next sibling does.
-/

namespace LintMark.Builder

/-- An outline that waits for its index. -/
structure Pending where
  /-- The outline. -/
  outline : Outline
  /-- The number of the group that it shares with its siblings. -/
  group : Nat
  /-- Its place among its siblings. -/
  place : Nat
  /-- The index of the node above, if there is one. -/
  parent : Option Nat

/-- A list of siblings that wait for their indices, of which the first one has the given place. -/
def waiting (group : Nat) (parent : Option Nat) (place : Nat) (os : List Outline) : List Pending :=
  (os.zipIdx place).map fun (o, place) ↦ ⟨o, group, place, parent⟩

theorem waiting_cons (group : Nat) (parent : Option Nat) (place : Nat) (o : Outline)
    (os : List Outline) :
    waiting group parent place (o :: os)
      = ⟨o, group, place, parent⟩ :: waiting group parent (place + 1) os := by
  rw [waiting, List.zipIdx_cons, List.map_cons, waiting]

/-- The number of nodes that a stack still gives. -/
def remaining : List Pending → Nat
  | [] => 0
  | p :: stack => p.outline.size + remaining stack

theorem remaining_append (stack rest : List Pending) :
    remaining (stack ++ rest) = remaining stack + remaining rest := by
  induction stack with
  | nil => rw [List.nil_append, remaining, Nat.zero_add]
  | cons p stack ih => rw [List.cons_append, remaining, ih, remaining, Nat.add_assoc]

theorem remaining_waiting (group : Nat) (parent : Option Nat) (place : Nat) (os : List Outline) :
    remaining (waiting group parent place os) = Outline.sizeAll os := by
  induction os generalizing place with
  | nil => rfl
  | cons o os ih => rw [waiting_cons, remaining, ih, Outline.sizeAll]

/-- An arena in the making. -/
structure Draft where
  /-- The nodes built so far. Links to nodes that have no index yet are missing. -/
  nodes : Array Node
  /-- For each group of siblings, by place, the indices of those that have one. -/
  groups : Array (Array (Option Nat))

/-- A link that waits for the index of the node that it leads to. -/
inductive OpenLink where
  /-- No node links to the first root. -/
  | none
  /-- The link to the first child of a node. -/
  | firstChild (i : Nat)
  /-- The link to the next sibling of a node. -/
  | nextSibling (i : Nat)
deriving DecidableEq, Repr

/-- Fills in a link with the index that it leads to. -/
def OpenLink.fill (index : Nat) (nodes : Array Node) : OpenLink → Array Node
  | none => nodes
  | firstChild i => nodes.modify i fun node ↦ { node with firstChild := some index }
  | nextSibling i => nodes.modify i fun node ↦ { node with nextSibling := some index }

namespace Draft

/-- The link that leads to a member of a group: from the member in front of it, or else from the
node above. -/
def openLink (d : Draft) (group : Nat) (parent : Option Nat) : Nat → OpenLink
  | 0 => parent.elim .none .firstChild
  | place + 1 =>
    ((d.groups[group]?).bind fun members ↦ (members[place]?).join).elim .none .nextSibling

/-- Gives the next index to an outline, notes it in the group, and fills in the link to it. -/
def enter (d : Draft) (p : Pending) : Draft where
  nodes := (d.openLink p.group p.parent p.place).fill d.nodes.size
    (d.nodes.push ⟨p.outline.token, none, none⟩)
  groups := d.groups.modify p.group fun members ↦
    members.setIfInBounds p.place (some d.nodes.size)

/-- Opens a group for the children of an outline, if it has children. -/
def openGroup (d : Draft) (children : List Outline) : Draft :=
  if children.isEmpty then d
  else { d with groups := d.groups.push (Array.replicate children.length none) }

/-- Builds the nodes of everything that waits on the stack. -/
def run (d : Draft) : List Pending → Draft
  | [] => d
  | p :: stack =>
    run ((d.enter p).openGroup p.outline.children)
      (waiting d.groups.size (some d.nodes.size) 0 p.outline.children ++ stack)
termination_by stack => remaining stack
decreasing_by
  have hsize : p.outline.size = Outline.sizeAll p.outline.children + 1 := by
    cases p.outline
    rw [Outline.size, Outline.children]
  rw [remaining_append, remaining_waiting, remaining, hsize]
  omega

end Draft

/-- A node together with its index. -/
structure IndexedNode extends Node where
  /-- The index. -/
  index : Nat
deriving DecidableEq, Repr

/-- The nodes of the arena of a forest, with their indices. -/
def build (os : List Outline) : List IndexedNode :=
  let start : Draft := ⟨#[], #[Array.replicate os.length none]⟩
  (start.run (waiting 0 none 0 os)).nodes.toList.zipIdx.map fun (node, index) ↦ ⟨node, index⟩

end LintMark.Builder

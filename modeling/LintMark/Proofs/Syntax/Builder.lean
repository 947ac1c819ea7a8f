import LintMark.Syntax.Builder
import Mathlib.Data.List.Basic

/-!
# The stack builds the layout

The nodes that `Builder.build` builds are those that `Tree.ofOutlines` lays out (`map_toNode_build`).

## The invariant

Siblings on top of a stack are built before anything below them on the stack, and what they leave
behind is what `Outline.layoutAll` says, behind the nodes that were there (`run_waiting`). Two things
change in the old nodes and groups: the link to the first of the siblings is filled in, and their
own group gets their indices. That no other group changes is what carries the index of a sibling
past everything below it, so that the next sibling finds it.

The lemma holds for any draft and any rest of the stack, because the children of a sibling are built
in the middle of such a run.
-/

namespace LintMark.Builder

open Outline

/-! ## Filling in links -/

/-- The link belongs to one of the first `n` nodes. -/
def OpenLink.Within (n : Nat) : OpenLink → Prop
  | none => True
  | firstChild i | nextSibling i => i < n

theorem modify_append {xs ys : Array Node} {i : Nat} (hi : i < xs.size) (f : Node → Node) :
    (xs ++ ys).modify i f = xs.modify i f ++ ys := by
  refine Array.ext_getElem? fun j ↦ ?_
  rw [Array.getElem?_modify, Array.getElem?_append, Array.getElem?_append, Array.size_modify,
    Array.getElem?_modify]
  by_cases hj : j < xs.size
  · rw [if_pos hj, if_pos hj]
  · have hij : i ≠ j := by omega
    rw [if_neg hj, if_neg hj, if_neg hij]

theorem modify_push_append (xs ys : Array Node) (node : Node) (f : Node → Node) :
    (xs.push node ++ ys).modify xs.size f = xs.push (f node) ++ ys := by
  have hlast : xs.size < (xs.push node).size := by rw [Array.size_push]; omega
  rw [modify_append hlast]
  refine congrArg (· ++ ys) (Array.ext_getElem? fun j ↦ ?_)
  rw [Array.getElem?_modify, Array.getElem?_push, Array.getElem?_push]
  by_cases hj : xs.size = j
  · rw [if_pos hj, if_pos hj.symm, if_pos hj.symm, Option.map_some]
  · rw [if_neg hj, if_neg (Ne.symm hj), if_neg (Ne.symm hj)]

theorem push_append_append (xs : Array Node) (node : Node) (ys zs : List Node) :
    xs.push node ++ ys.toArray ++ zs.toArray = xs ++ (node :: ys ++ zs).toArray := by
  refine Array.toList_inj.1 ?_
  rw [Array.toList_append, Array.toList_append, Array.toList_append, Array.toList_push,
    List.append_assoc, List.append_assoc]
  rfl

namespace OpenLink

theorem fill_append {link : OpenLink} {xs ys : Array Node} (h : link.Within xs.size)
    (index : Nat) : link.fill index (xs ++ ys) = link.fill index xs ++ ys := by
  cases link with
  | none => rfl
  | firstChild i => exact modify_append h _
  | nextSibling i => exact modify_append h _

theorem size_fill (link : OpenLink) (index : Nat) (xs : Array Node) :
    (link.fill index xs).size = xs.size := by
  cases link with
  | none => rfl
  | firstChild i => exact Array.size_modify
  | nextSibling i => exact Array.size_modify

end OpenLink

/-! ## One step of the loop -/

namespace Draft

variable (d : Draft) (p : Pending)

theorem nodes_enter (h : (d.openLink p.group p.parent p.place).Within d.nodes.size) :
    (d.enter p).nodes = ((d.openLink p.group p.parent p.place).fill d.nodes.size d.nodes).push
      ⟨p.outline.token, none, none⟩ := by
  rw [enter, Array.push_eq_append, OpenLink.fill_append h, Array.push_eq_append]

theorem nodes_openGroup (children : List Outline) : (d.openGroup children).nodes = d.nodes := by
  rw [openGroup]
  split <;> rfl

theorem groups_openGroup_of_lt (children : List Outline) {g : Nat} (hg : g < d.groups.size) :
    (d.openGroup children).groups[g]? = d.groups[g]? := by
  rw [openGroup]
  split
  · rfl
  · rw [Array.getElem?_push, if_neg (Nat.ne_of_lt hg)]

theorem groups_openGroup_size {children : List Outline} (h : children ≠ []) :
    (d.openGroup children).groups[d.groups.size]?
      = some (Array.replicate children.length none) := by
  rw [openGroup, if_neg (by rwa [List.isEmpty_iff]), Array.getElem?_push, if_pos rfl]

theorem size_groups_le_openGroup (children : List Outline) :
    d.groups.size ≤ (d.openGroup children).groups.size := by
  rw [openGroup]
  split
  · exact Nat.le_refl _
  · rw [Array.size_push]
    exact Nat.le_succ _

theorem size_groups_enter : (d.enter p).groups.size = d.groups.size := Array.size_modify

theorem groups_enter_of_ne {g : Nat} (hg : g ≠ p.group) :
    (d.enter p).groups[g]? = d.groups[g]? := by
  rw [enter, Array.getElem?_modify, if_neg (Ne.symm hg)]

theorem groups_enter_self {members : Array (Option Nat)}
    (h : d.groups[p.group]? = some members) :
    (d.enter p).groups[p.group]? = some (members.setIfInBounds p.place (some d.nodes.size)) := by
  rw [enter, Array.getElem?_modify, if_pos rfl, h, Option.map_some]

theorem run_cons (stack : List Pending) :
    d.run (p :: stack) = ((d.enter p).openGroup p.outline.children).run
      (waiting d.groups.size (some d.nodes.size) 0 p.outline.children ++ stack) := by
  rw [run]

theorem run_nil : d.run [] = d := by rw [run]

/-- The link to the next member of a group is that of the member with the last index. -/
theorem openLink_succ {group place index : Nat} (parent : Option Nat) {members : Array (Option Nat)}
    (hgroup : d.groups[group]? = some members) (hplace : members[place]? = some (some index)) :
    d.openLink group parent (place + 1) = .nextSibling index := by
  rw [openLink, hgroup, Option.bind_some, hplace, Option.join_some, Option.elim_some]

end Draft

/-! ## Siblings on top of the stack -/

/-- The node in front of its children, with the link to them filled in if there are any. -/
theorem fill_firstChild (nodes : Array Node) (token : Token) (children : List Outline) :
    (if children = [] then nodes.push ⟨token, none, none⟩
      else OpenLink.fill (nodes.size + 1) (nodes.push ⟨token, none, none⟩)
        (.firstChild nodes.size))
      = nodes.push ⟨token, if children.isEmpty then none else some (nodes.size + 1), none⟩ := by
  cases children with
  | nil => rfl
  | cons o os =>
    rw [if_neg (List.cons_ne_nil o os), OpenLink.fill]
    have := modify_push_append nodes #[] ⟨token, none, none⟩ fun node ↦
      { node with firstChild := some (nodes.size + 1) }
    simpa using this

/-- The node in front of what is below it, with the link to its sibling filled in if there is one. -/
theorem fill_nextSibling (nodes below : Array Node) (token : Token) (firstChild : Option Nat)
    (index : Nat) (os : List Outline) :
    (if os = [] then nodes.push ⟨token, firstChild, none⟩ ++ below
      else OpenLink.fill index (nodes.push ⟨token, firstChild, none⟩ ++ below)
        (.nextSibling nodes.size))
      = nodes.push ⟨token, firstChild, if !os.isEmpty then some index else none⟩ ++ below := by
  cases os with
  | nil => rfl
  | cons o os =>
    rw [if_neg (List.cons_ne_nil o os), OpenLink.fill, modify_push_append]
    rfl

/-- What siblings on top of the stack leave behind. -/
structure Leaves (d d' : Draft) (group place : Nat) (parent : Option Nat) (os : List Outline) :
    Prop where
  nodes_eq : d'.nodes = (if os = [] then d.nodes
      else (d.openLink group parent place).fill d.nodes.size d.nodes)
        ++ (layoutAll d.nodes.size os).toArray
  groups_eq : ∀ g < d.groups.size, g ≠ group → d'.groups[g]? = d.groups[g]?
  size_le : d.groups.size ≤ d'.groups.size

/-- **Siblings are built before what is below them on the stack**, and as they are laid out. -/
theorem run_waiting : (os : List Outline) → (d : Draft) → (group place : Nat) →
    (parent : Option Nat) → (stack : List Pending) →
    (os ≠ [] → ∃ members, d.groups[group]? = some members ∧ place + os.length ≤ members.size) →
    (os ≠ [] → (d.openLink group parent place).Within d.nodes.size) →
    ∃ d', d.run (waiting group parent place os ++ stack) = d'.run stack ∧
      Leaves d d' group place parent os
  | [], d, group, place, parent, stack, _, _ =>
    ⟨d, rfl, by simp [layoutAll], fun _ _ _ ↦ rfl, Nat.le_refl _⟩
  | .node token children :: os, d, group, place, parent, stack, hmembers, hlink => by
    obtain ⟨members, hgroup, hroom⟩ := hmembers (List.cons_ne_nil _ os)
    have hlink := hlink (List.cons_ne_nil _ os)
    have hgroup_lt : group < d.groups.size := (Array.getElem?_eq_some_iff.1 hgroup).1
    rw [List.length_cons] at hroom
    let p : Pending := ⟨.node token children, group, place, parent⟩
    -- The index of the first sibling, and the draft in which it has got that index.
    let n := d.nodes.size
    let e := (d.enter p).openGroup children
    have henodes : e.nodes = ((d.openLink group parent place).fill n d.nodes).push
        ⟨token, none, none⟩ := by
      rw [Draft.nodes_openGroup, Draft.nodes_enter d p hlink]
      rfl
    have hesize : e.nodes.size = n + 1 := by
      rw [henodes, Array.size_push, OpenLink.size_fill]
    have hegroup : e.groups[group]? = some (members.setIfInBounds place (some n)) := by
      rw [Draft.groups_openGroup_of_lt _ _ (by rwa [Draft.size_groups_enter]),
        Draft.groups_enter_self d p hgroup]
    have hegroups : d.groups.size ≤ e.groups.size := by
      have := (d.enter p).size_groups_le_openGroup children
      rwa [Draft.size_groups_enter] at this
    -- Its children, in a group of their own.
    obtain ⟨c, hrunc, hc⟩ := run_waiting children e d.groups.size 0 (some n)
      (waiting group parent (place + 1) os ++ stack)
      (fun h ↦ ⟨Array.replicate children.length none, by
        have := (d.enter p).groups_openGroup_size h
        rwa [Draft.size_groups_enter] at this, by rw [Array.size_replicate]; omega⟩)
      (fun _ ↦ by
        show n < e.nodes.size
        omega)
    have hcnodes : c.nodes = ((d.openLink group parent place).fill n d.nodes).push
        ⟨token, if children.isEmpty then none else some (n + 1), none⟩
          ++ (layoutAll (n + 1) children).toArray := by
      have hfirst := fill_firstChild ((d.openLink group parent place).fill n d.nodes) token children
      rw [OpenLink.size_fill] at hfirst
      rw [hc.nodes_eq, hesize, ← hfirst, henodes]
      rfl
    have hcsize : c.nodes.size = n + (Outline.node token children).size := by
      have hbelow : (layoutAll (n + 1) children).toArray.size = sizeAll children :=
        length_layoutAll (n + 1) children
      rw [hcnodes, Array.size_append, Array.size_push, OpenLink.size_fill, hbelow, Outline.size]
      omega
    have hcgroup : c.groups[group]? = some (members.setIfInBounds place (some n)) := by
      rw [hc.groups_eq group (by omega) (by omega), hegroup]
    have hclink : c.openLink group parent (place + 1) = .nextSibling n := by
      refine Draft.openLink_succ c parent hcgroup ?_
      rw [Array.getElem?_setIfInBounds_self_of_lt (by omega)]
    -- The other siblings, which find the index of the first one in the group.
    obtain ⟨d', hrun, hd'⟩ := run_waiting os c group (place + 1) parent stack
      (fun _ ↦ ⟨_, hcgroup, by rw [Array.size_setIfInBounds]; omega⟩)
      (fun _ ↦ by
        rw [hclink]
        show n < c.nodes.size
        rw [hcsize, Outline.size]
        omega)
    refine ⟨d', ?_, ?_, fun g hg hne ↦ ?_, ?_⟩
    · rw [waiting_cons, List.cons_append, Draft.run_cons]
      exact hrunc.trans hrun
    · have hnext := fill_nextSibling ((d.openLink group parent place).fill n d.nodes)
        (layoutAll (n + 1) children).toArray token
        (if children.isEmpty then none else some (n + 1)) (n + (sizeAll children + 1)) os
      rw [OpenLink.size_fill] at hnext
      rw [hd'.nodes_eq, hclink, hcsize, hcnodes, Outline.size, hnext,
        if_neg (List.cons_ne_nil _ os), push_append_append, layoutAll, layout, Outline.size]
    · rw [hd'.groups_eq g (by have := hc.size_le; omega) hne,
        hc.groups_eq g (by omega) (by omega),
        Draft.groups_openGroup_of_lt _ _ (by rwa [Draft.size_groups_enter]),
        Draft.groups_enter_of_ne d p hne]
    · exact Nat.le_trans hegroups (Nat.le_trans hc.size_le hd'.size_le)
termination_by os => sizeAll os
decreasing_by
  · rw [sizeAll, Outline.size]; omega
  · rw [sizeAll, Outline.size]; omega

/-! ## The whole forest -/

/-- **The stack builds the layout.** -/
theorem map_toNode_build (os : List Outline) :
    (build os).map IndexedNode.toNode = (Tree.ofOutlines os).nodes.toList := by
  obtain ⟨d, hrun, hd⟩ := run_waiting os ⟨#[], #[Array.replicate os.length none]⟩ 0 0 none []
    (fun _ ↦ ⟨Array.replicate os.length none, rfl, by rw [Array.size_replicate]; omega⟩)
    (fun _ ↦ trivial)
  have hnodes : d.nodes = (layoutAll 0 os).toArray := by
    rw [hd.nodes_eq]
    split <;> exact Array.empty_append
  rw [List.append_nil, Draft.run_nil] at hrun
  rw [build, hrun, hnodes, List.map_map]
  exact List.zipIdx_map_fst 0 (layoutAll 0 os)

/-- Every node has its place in the arena as its index. -/
theorem map_index_build (os : List Outline) :
    (build os).map IndexedNode.index = List.range (build os).length := by
  rw [build, List.map_map, List.length_map, List.length_zipIdx, List.range_eq_range']
  exact List.zipIdx_map_snd 0 _

end LintMark.Builder

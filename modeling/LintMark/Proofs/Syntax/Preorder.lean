import LintMark.Proofs.Syntax.Visits
import LintMark.Proofs.Syntax.Walk
import Mathlib.Data.List.Dedup

/-!
# Document order

`Tree.walk` finds the document order with a stack. It is the only order in which a node comes before
what its first child starts, and that before what its next sibling starts (`Tree.eq_walk_iff`).
Acyclic links are all that this asks for: indices may run against the order, and a node to which
several links lead is visited once for each of them.

The searches run on the walk. Those for a line pick its nodes out of the walk, and taken together
they give the walk in parts (`Tree.perm_flatMap_nodesOnLine`). The one for a kind stops early, and
still finds the node that stands in that place among all nodes of the kind
(`Tree.blockByOrdinal_eq`).
-/

namespace LintMark.Tree

variable (t : Tree)

/-! ## The walk as a loop -/

/-- The nodes that the walk puts on its stack for a node: its first child, its next sibling. -/
def successors (i : ℕ) : List ℕ := (t.node i).links

/-- A function on optional indices lists nothing for no index, and otherwise the index, then what it
lists for the first child, and then what it lists for the next sibling. -/
def IsDocumentOrder (order : Option ℕ → List ℕ) : Prop :=
  order none = [] ∧
    ∀ i, order (some i) = i :: (order (t.node i).firstChild ++ order (t.node i).nextSibling)

theorem isDocumentOrder_pre : t.IsDocumentOrder t.pre := ⟨t.pre_none, t.pre_some⟩

variable {t}

theorem IsDocumentOrder.isPreorder {order : Option ℕ → List ℕ} (h : t.IsDocumentOrder order) :
    IsPreorder t.successors fun i ↦ order (some i) := by
  intro i
  have hlink : ∀ o : Option ℕ, o.toList.flatMap (fun j ↦ order (some j)) = order o := by
    intro o
    cases o with
    | none => exact h.1.symm
    | some j => exact List.flatMap_singleton _ _
  rw [successors, Node.links, List.flatMap_append, hlink, hlink]
  exact h.2 i

theorem isPreorder_pre (t : Tree) : IsPreorder t.successors fun i ↦ t.pre (some i) :=
  t.isDocumentOrder_pre.isPreorder

theorem flatMap_pre_toList (t : Tree) (o : Option ℕ) :
    (o.toList.flatMap fun i ↦ t.pre (some i)) = t.walk o := by
  rw [walk, walkStack_toList, List.nil_append]

/-- **The walk is the document order**, and there is only one. -/
theorem eq_walk_iff {order : Option ℕ → List ℕ} : t.IsDocumentOrder order ↔ order = t.walk := by
  constructor
  · intro h
    funext o
    rw [walk_eq_pre]
    cases o with
    | none => rw [h.1, pre_none]
    | some i => exact congrFun (h.isPreorder.unique t.isPreorder_pre) i
  · rintro rfl
    rw [show t.walk = t.pre from funext t.walk_eq_pre]
    exact t.isDocumentOrder_pre

/-- The visits of `Visits` are those of the walk: it goes on from where they lead. -/
theorem walkStack_of_visits {stack visited rest : List ℕ}
    (h : Visits t.successors stack visited rest) (seen : Array ℕ) :
    t.walkStack seen stack = t.walkStack (seen ++ visited.toArray) rest := by
  induction h generalizing seen with
  | none stack => rw [Array.append_empty]
  | @cons i stack visited rest _ ih =>
    have hround : t.walkStack seen (i :: stack)
        = t.walkStack (seen.push i) (t.successors i ++ stack) := by
      rw [walkStack, pushLinks, successors, Node.links]
    rw [hround, ih]
    congr 1
    simp

/-! ## Searches -/

theorem seek_eq_getElem? (kind : Kind) (skip : ℕ) (stack : List ℕ) :
    t.seek kind skip stack =
      ((stack.flatMap fun i ↦ t.pre (some i)).filter fun i ↦ t.kind i = kind)[skip]? := by
  fun_induction seek t kind skip stack with
  | case1 skip => rfl
  | case2 i stack hkind =>
    rw [← t.flatMap_pre_pushLinks, List.filter_cons_of_pos (by simpa using hkind),
      List.getElem?_cons_zero]
  | case3 i stack hkind skip ih =>
    rw [ih, ← t.flatMap_pre_pushLinks, List.filter_cons_of_pos (by simpa using hkind),
      List.getElem?_cons_succ]
  | case4 skip i stack hkind ih =>
    rw [ih, ← t.flatMap_pre_pushLinks, List.filter_cons_of_neg (by simpa using hkind)]

/-- The search that stops at a node finds what the whole walk has in that place. -/
theorem blockByOrdinal_eq (o : Option ℕ) (kind : Kind) (ordinal : ℤ) :
    t.blockByOrdinal o kind ordinal =
      if ordinal < 0 then none
      else ((t.walk o).filter fun i ↦ t.kind i = kind)[ordinal.toNat]? := by
  rw [blockByOrdinal, seek_eq_getElem?, flatMap_pre_toList]

theorem blockByOrdinal_eq_some_iff {o : Option ℕ} {kind : Kind} {ordinal : ℤ} {i : ℕ} :
    t.blockByOrdinal o kind ordinal = some i ↔
      0 ≤ ordinal ∧ ((t.walk o).filter fun i ↦ t.kind i = kind)[ordinal.toNat]? = some i := by
  rw [blockByOrdinal_eq]
  by_cases hordinal : ordinal < 0
  · rw [if_pos hordinal]
    exact iff_of_false (Option.some_ne_none i).symm fun h ↦ absurd h.1 (Int.not_le.2 hordinal)
  · rw [if_neg hordinal, and_iff_right (Int.not_lt.1 hordinal)]

theorem blockByOrdinal_eq_none_iff {o : Option ℕ} {kind : Kind} {ordinal : ℤ} :
    t.blockByOrdinal o kind ordinal = none ↔
      ordinal < 0 ∨ (((t.walk o).filter fun i ↦ t.kind i = kind).length : ℤ) ≤ ordinal := by
  rw [blockByOrdinal_eq]
  by_cases hordinal : ordinal < 0
  · rw [if_pos hordinal]
    exact iff_of_true rfl (.inl hordinal)
  · rw [if_neg hordinal, List.getElem?_eq_none_iff, Int.le_toNat (Int.not_lt.1 hordinal),
      or_iff_right hordinal]

/-- The elements of a list key by key: the list in another order. -/
theorem perm_flatMap_filter {α κ : Type} [DecidableEq κ] (key : α → κ) {keys : List κ}
    (hkeys : keys.Nodup) {l : List α} (h : ∀ a ∈ l, key a ∈ keys) :
    (keys.flatMap fun k ↦ l.filter fun a ↦ key a = k).Perm l := by
  induction keys generalizing l with
  | nil =>
    rw [List.eq_nil_iff_forall_not_mem.2 fun a ha ↦ List.not_mem_nil (h a ha)]
    exact .refl _
  | cons k keys ih =>
    obtain ⟨hk, hkeys⟩ := List.nodup_cons.1 hkeys
    -- The other keys pick their elements out of those that `k` leaves.
    have hothers : (keys.flatMap fun k' ↦ l.filter fun a ↦ key a = k')
        = keys.flatMap fun k' ↦ (l.filter fun a ↦ !decide (key a = k)).filter
          fun a ↦ key a = k' := by
      refine List.flatMap_congr fun k' hk' ↦ ?_
      rw [List.filter_filter]
      refine List.filter_congr fun a _ ↦ ?_
      by_cases ha : key a = k'
      · have hne : k' ≠ k := fun h ↦ hk (h ▸ hk')
        simp [ha, hne]
      · simp [ha]
    rw [List.flatMap_cons, hothers]
    refine List.Perm.trans (.append_left _ (ih hkeys fun a ha ↦ ?_))
      (List.filter_append_perm (fun a ↦ decide (key a = k)) l)
    obtain ⟨ha, hne⟩ := List.mem_filter.1 ha
    exact (List.mem_cons.1 (h a ha)).resolve_left (by simpa using hne)

theorem disjoint_nodesOnLine (o : Option ℕ) {line line' : ℤ} (h : line ≠ line') :
    (t.nodesOnLine o line).Disjoint (t.nodesOnLine o line') := by
  intro i hi hi'
  have hline : t.line i = line := by simpa using (List.mem_filter.1 hi).2
  have hline' : t.line i = line' := by simpa using (List.mem_filter.1 hi').2
  exact h (hline.symm.trans hline')

/-- The nodes on the lines of a walk, line by line, are the nodes of the walk. -/
theorem perm_flatMap_nodesOnLine (o : Option ℕ) :
    (((t.walk o).map t.line).dedup.flatMap (t.nodesOnLine o)).Perm (t.walk o) := by
  apply perm_flatMap_filter t.line (List.nodup_dedup _)
  intro i hi
  exact List.mem_dedup.2 (List.mem_map_of_mem hi)

/-- **The stack finds document order, and searches agree with it.** The walk is the one function
with the recursion of the order. The loop behind it makes the visits of the walk one after the
other, wherever it stands it goes on to the same walk, and its stack is empty when the walk is
complete and not before. From a node of the arena it stays in the arena. The walk from the first
child gives the descendants. The nodes on a line are those of the walk, in their order; no node is
on two lines, and the lines together give the walk. A block is the node in its place among all nodes
of its kind, and there is none if the place is negative or too large. -/
theorem walk_documentOrder (t : Tree) :
    (∀ order, t.IsDocumentOrder order ↔ order = t.walk) ∧
    (∀ o visited rest, Visits t.successors o.toList visited rest →
      t.walk o = (t.walkStack visited.toArray rest).toList ∧
      (rest = [] ↔ visited = t.walk o)) ∧
    (∀ o visited, (∃ rest, Visits t.successors o.toList visited rest) ↔ visited <+: t.walk o) ∧
    (∀ o, t.InArena o → ∀ i ∈ t.walk o, i < t.size) ∧
    (t.descendants none = [] ∧
      ∀ i, t.descendants (some i) = i :: t.walk (t.node i).firstChild) ∧
    (∀ o line, t.nodesOnLine o line = (t.walk o).filter fun i ↦ t.line i = line) ∧
    (∀ o line line', line ≠ line' → (t.nodesOnLine o line).Disjoint (t.nodesOnLine o line')) ∧
    (∀ o, (((t.walk o).map t.line).dedup.flatMap (t.nodesOnLine o)).Perm (t.walk o)) ∧
    ∀ o kind ordinal,
      (∀ i, t.blockByOrdinal o kind ordinal = some i ↔
        0 ≤ ordinal ∧ ((t.walk o).filter fun i ↦ t.kind i = kind)[ordinal.toNat]? = some i) ∧
      (t.blockByOrdinal o kind ordinal = none ↔
        ordinal < 0 ∨ (((t.walk o).filter fun i ↦ t.kind i = kind).length : ℤ) ≤ ordinal) := by
  refine ⟨fun order ↦ eq_walk_iff, fun o visited rest h ↦ ⟨?_, ?_⟩, fun o visited ↦ ?_,
    fun o ho i hi ↦ lt_size_of_mem_walk ho hi, ⟨rfl, fun i ↦ rfl⟩, fun o line ↦ rfl,
    fun o line line' ↦ disjoint_nodesOnLine o, perm_flatMap_nodesOnLine,
    fun o kind ordinal ↦ ⟨fun i ↦ blockByOrdinal_eq_some_iff, blockByOrdinal_eq_none_iff⟩⟩
  · rw [walk, walkStack_of_visits h, Array.empty_append]
  · rw [t.isPreorder_pre.eq_nil_iff h, flatMap_pre_toList]
  · rw [t.isPreorder_pre.exists_visits_iff, flatMap_pre_toList]

/-- An arena whose indices run against document order, and in which two links lead to node 1. -/
def scatteredTree : Tree where
  nodes := #[
    ⟨⟨.classDef, "", 1, 0⟩, some 3, none⟩,
    ⟨⟨.objBlock, "", 2, 4⟩, none, none⟩,
    ⟨⟨.objBlock, "", 3, 0⟩, some 1, none⟩,
    ⟨⟨.ident, "A", 1, 6⟩, some 1, some 2⟩]
  acyclic := ⟨fun i ↦ #[3, 0, 1, 2].getD i 0, by decide⟩

/-- The walk visits the shared node twice, so the second block is node 2 and the third is node 1
once more. -/
theorem walk_documentOrder_scatteredTree :
    scatteredTree.walk (some 0) = [0, 3, 1, 2, 1] ∧
      scatteredTree.nodesOnLine (some 0) 2 = [1, 1] ∧
      scatteredTree.blockByOrdinal (some 0) .objBlock 1 = some 2 ∧
      scatteredTree.blockByOrdinal (some 0) .objBlock 3 = none := by
  obtain ⟨-, hloop, -, -, -, hline, -, -, hblock⟩ := walk_documentOrder scatteredTree
  have hvisits : Visits scatteredTree.successors [0] [0, 3, 1, 2, 1] [] :=
    .cons <| .cons <| .cons <| .cons <| .cons <| .none []
  have hwalk : scatteredTree.walk (some 0) = [0, 3, 1, 2, 1] :=
    ((hloop (some 0) _ _ hvisits).2.1 rfl).symm
  refine ⟨hwalk, ?_, ((hblock (some 0) .objBlock 1).1 2).2 ⟨by decide, ?_⟩,
    (hblock (some 0) .objBlock 3).2.2 (.inr ?_)⟩
  · rw [hline, hwalk]
    decide
  · rw [hwalk]
    decide
  · rw [hwalk]
    decide

end LintMark.Tree

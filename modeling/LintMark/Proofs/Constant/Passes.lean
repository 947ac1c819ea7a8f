import LintMark.Fingerprint.Canonical
import LintMark.Proofs.Constant.Recognition
import LintMark.Proofs.Syntax.Enclosing

/-!
# The order of the constant pass

The pass may visit the nodes of an arena that was laid out from outlines in any order and any number
of times, and it may start from a part of its own result: what it binds is the same map, and the map
holds the declared constants and nothing else (`Tree.constants_exact_and_order_independent`).

## Why no write is lost

A later write under a key replaces an earlier one. But the key is a child of the declaration, and a
node has one parent at most, so all writes under a key are made by one declaration and write the
same value. One step of the pass therefore only adds to a map of declared constants
(`get?_bindConstant`), and the induction over the pass is on this.

A map that was filled in some order is read by rising keys, so the order is gone before a canonical
string is written (`Bindings.ofList_eq_of_perm`).
-/

namespace LintMark

namespace Bindings

/-! ## Parts of a map -/

/-- Every binding of `a` is one of `b`. -/
def IsPartOf (a b : Bindings) : Prop := ∀ k v, a.get? k = some v → b.get? k = some v

theorem get?_empty (k : Nat) : (∅ : Bindings).get? k = none := rfl

theorem empty_isPartOf (b : Bindings) : (∅ : Bindings).IsPartOf b := by
  intro k v h
  rw [get?_empty] at h
  cases h

/-! ## Filling a map -/

theorem perm_insertEntry {k v : Nat} {entries : List (Nat × Nat)}
    (h : k ∉ entries.map Prod.fst) : (insertEntry k v entries).Perm ((k, v) :: entries) := by
  induction entries with
  | nil => exact List.Perm.refl _
  | cons p rest ih =>
    obtain ⟨k', v'⟩ := p
    rw [List.map_cons, List.mem_cons, not_or] at h
    obtain ⟨hne, hrest⟩ := h
    rw [insertEntry]
    -- The key is a new one, so no entry is replaced.
    split
    · exact List.Perm.refl _
    · exact ((ih hrest).cons (k', v')).trans (List.Perm.swap _ _ _)

/-- Pairs of different keys all stay in the map that they fill. -/
theorem perm_entries_foldl_insert {items : List (Nat × Nat)} {b : Bindings}
    (h : ((items ++ b.entries).map Prod.fst).Nodup) :
    (items.foldl (fun b p ↦ b.insert p.1 p.2) b).entries.Perm (items ++ b.entries) := by
  induction items generalizing b with
  | nil => exact List.Perm.refl _
  | cons p items ih =>
    have hinsert : (b.insert p.1 p.2).entries.Perm (p :: b.entries) := by
      rw [List.cons_append, List.map_cons, List.nodup_cons, List.map_append] at h
      exact perm_insertEntry fun hmem ↦ h.1 (List.mem_append_right _ hmem)
    have hperm : (items ++ (b.insert p.1 p.2).entries).Perm (p :: (items ++ b.entries)) :=
      (hinsert.append_left items).trans List.perm_middle
    refine (ih ?_).trans hperm
    exact (hperm.map Prod.fst).nodup_iff.2 h

theorem nodup_keys (b : Bindings) : (b.entries.map Prod.fst).Nodup := by
  rw [List.Nodup, List.pairwise_map]
  exact b.sorted.imp fun hlt ↦ Nat.ne_of_lt hlt

variable {b : Bindings} {items : List (Nat × Nat)}

/-- A map does not depend on the order in which it was filled. -/
theorem ofList_eq_of_perm (h : items.Perm b.entries) : ofList items = b := by
  have hkeys : ((items ++ (∅ : Bindings).entries).map Prod.fst).Nodup := by
    rw [show (∅ : Bindings).entries = [] from rfl, List.append_nil]
    exact (h.map Prod.fst).nodup_iff.2 b.nodup_keys
  have hperm : (ofList items).entries.Perm b.entries := by
    refine (perm_entries_foldl_insert hkeys).trans ?_
    rwa [show (∅ : Bindings).entries = [] from rfl, List.append_nil]
  refine ext (hperm.eq_of_pairwise (fun p q _ _ hlt hgt ↦ ?_) (ofList items).sorted b.sorted)
  exact absurd hlt (Nat.lt_asymm hgt)

/-- The entries are the pairs of the map in the order of their keys. -/
theorem mergeSort_eq_entries (h : items.Perm b.entries) :
    items.mergeSort (fun p q ↦ p.1 ≤ q.1) = b.entries := by
  have hperm : (items.mergeSort (fun p q ↦ p.1 ≤ q.1)).Perm b.entries :=
    (List.mergeSort_perm items _).trans h
  have hsorted : (items.mergeSort (fun p q ↦ p.1 ≤ q.1)).Pairwise fun p q ↦ p.1 ≤ q.1 := by
    have hpairwise : (items.mergeSort (fun p q ↦ p.1 ≤ q.1)).Pairwise
        fun p q ↦ decide (p.1 ≤ q.1) = true := by
      refine List.pairwise_mergeSort (fun p q r hpq hqr ↦ ?_) (fun p q ↦ ?_) items
      · exact decide_eq_true (Nat.le_trans (of_decide_eq_true hpq) (of_decide_eq_true hqr))
      · simpa using Nat.le_total p.1 q.1
    simpa using hpairwise
  refine hperm.eq_of_pairwise (fun p q hp hq hle hge ↦ ?_) hsorted
    (b.sorted.imp fun hlt ↦ Nat.le_of_lt hlt)
  exact List.inj_on_of_nodup_map b.nodup_keys (hperm.mem_iff.1 hp) hq (Nat.le_antisymm hle hge)

end Bindings

namespace Tree

variable {t : Tree} {b : Bindings}

/-! ## One declaration per key -/

theorem DeclaresConstant.mem_children {i ident literal : Nat}
    (h : t.DeclaresConstant i ident literal) : ident ∈ t.children i := by
  obtain ⟨-, modifiers, type, assign, semi, hchildren, -⟩ := h
  simp [hchildren]

theorem DeclaresConstant.lt_size {i ident literal : Nat}
    (h : t.DeclaresConstant i ident literal) : i < t.size :=
  lt_size_of_children_ne_nil (List.ne_nil_of_mem h.mem_children)

/-- Declarations of one key are the same node, so they agree on the value. -/
theorem DeclaresConstant.literal_unique (ht : t.LaidOut) {i j ident literal literal' : Nat}
    (h : t.DeclaresConstant i ident literal) (h' : t.DeclaresConstant j ident literal') :
    literal = literal' := by
  obtain rfl := ht.eq_of_mem_children h.mem_children h'.mem_children
  have hsome := (constant?_eq_some_iff.2 h).symm.trans (constant?_eq_some_iff.2 h')
  exact (Prod.mk.inj (Option.some.inj hsome)).2

/-! ## One step -/

/-- A map that binds nothing but declared constants. -/
def BindsDeclared (t : Tree) (b : Bindings) : Prop :=
  ∀ ident literal, b.get? ident = some literal → ∃ i, t.DeclaresConstant i ident literal

theorem bindConstant_of_fst_eq_false {i : Nat} (h : (t.bindConstant i b).1 = false) :
    (t.bindConstant i b).2 = b := by
  rw [bindConstant] at h ⊢
  split at h
  · cases h
  · rfl

/-- A visit adds the constant that the node declares, and takes nothing away. -/
theorem get?_bindConstant (ht : t.LaidOut) (hb : t.BindsDeclared b) (i ident literal : Nat) :
    (t.bindConstant i b).2.get? ident = some literal ↔
      t.DeclaresConstant i ident literal ∨ b.get? ident = some literal := by
  rw [bindConstant, ← constant?_eq_some_iff]
  cases hconstant : t.constant? i with
  | none => simp
  | some p =>
    obtain ⟨ident', literal'⟩ := p
    rw [Bindings.get?_insert]
    by_cases hkey : ident = ident'
    · subst hkey
      rw [if_pos rfl, Option.some_inj, Option.some_inj, Prod.mk.injEq]
      constructor
      · rintro rfl
        exact .inl ⟨rfl, rfl⟩
      · rintro (⟨-, rfl⟩ | hbound)
        · rfl
        · obtain ⟨j, hj⟩ := hb ident literal hbound
          exact (constant?_eq_some_iff.1 hconstant).literal_unique ht hj
    · rw [if_neg hkey, Option.some_inj, Prod.mk.injEq]
      exact ⟨.inr, fun h ↦ h.resolve_left fun heq ↦ hkey heq.1.symm⟩

theorem BindsDeclared.bindConstant (ht : t.LaidOut) (hb : t.BindsDeclared b) (i : Nat) :
    t.BindsDeclared (t.bindConstant i b).2 := by
  intro ident literal h
  rcases (get?_bindConstant ht hb i ident literal).1 h with h | h
  · exact ⟨i, h⟩
  · exact hb ident literal h

/-! ## A whole pass -/

/-- The map after visits to the nodes of a list, one after the other. -/
def bindConstants (t : Tree) (is : List Nat) (b : Bindings) : Bindings :=
  is.foldl (fun b i ↦ (t.bindConstant i b).2) b

/-- A pass adds the constants that the visited nodes declare, and takes nothing away. -/
theorem get?_bindConstants (ht : t.LaidOut) (hb : t.BindsDeclared b) (is : List Nat)
    (ident literal : Nat) : (t.bindConstants is b).get? ident = some literal ↔
      (∃ i ∈ is, t.DeclaresConstant i ident literal) ∨ b.get? ident = some literal := by
  induction is generalizing b with
  | nil => simp [bindConstants]
  | cons i is ih =>
    rw [bindConstants, List.foldl_cons]
    refine (ih (hb.bindConstant ht i)).trans ?_
    rw [get?_bindConstant ht hb, List.exists_mem_cons_iff, ← or_assoc, or_comm (a := ∃ i ∈ is, _)]

theorem constantsFrom_eq_bindConstants (o : Option Nat) :
    t.constantsFrom o = t.bindConstants (t.walk o) ∅ := rfl

theorem bindsDeclared_empty (t : Tree) : t.BindsDeclared ∅ := by
  intro ident literal h
  rw [Bindings.get?_empty] at h
  cases h

/-! ## Arenas that were laid out -/

variable {os : List Outline}

theorem get?_constants_ofOutlines (ident literal : Nat) :
    (ofOutlines os).constants.get? ident = some literal ↔
      ∃ i < (ofOutlines os).size, (ofOutlines os).DeclaresConstant i ident literal := by
  rw [constants, constantsFrom_eq_bindConstants, walk_ofOutlines,
    get?_bindConstants (laidOut_ofOutlines os) (bindsDeclared_empty _), Bindings.get?_empty]
  simp

/-- Any list of all nodes will do, and any part of the result to start from. -/
theorem bindConstants_eq_constants {is : List Nat} (his : ∀ i < (ofOutlines os).size, i ∈ is)
    (hb : b.IsPartOf (ofOutlines os).constants) :
    (ofOutlines os).bindConstants is b = (ofOutlines os).constants := by
  have hdeclared : (ofOutlines os).BindsDeclared b := by
    intro ident literal h
    obtain ⟨i, -, hi⟩ := (get?_constants_ofOutlines ident literal).1 (hb ident literal h)
    exact ⟨i, hi⟩
  refine Bindings.ext_get? fun ident ↦ Option.ext fun literal ↦ ?_
  rw [get?_bindConstants (laidOut_ofOutlines os) hdeclared, get?_constants_ofOutlines]
  constructor
  · rintro (⟨i, -, hi⟩ | hbound)
    · exact ⟨i, hi.lt_size, hi⟩
    · exact (get?_constants_ofOutlines ident literal).1 (hb ident literal hbound)
  · rintro ⟨i, hlt, hi⟩
    exact .inl ⟨i, his i hlt, hi⟩

/-! ## Main result -/

/-- **The constant pass is exact and independent of order.** The pass over an arena that was laid
out from outlines binds the name of each declared constant to its value, and binds nothing else.
Visits to all nodes in any order, with any repetitions, from the empty map or any part of the
result, give the same map. A visit that finds no constant leaves the map as it is. And a map filled
in any order with its pairs gives the same canonical strings, since its pairs are read by rising
keys. -/
theorem constants_exact_and_order_independent (os : List Outline) :
    let t := ofOutlines os
    (∀ ident literal, t.constants.get? ident = some literal ↔
      ∃ i < t.size, t.DeclaresConstant i ident literal) ∧
    (∀ (is : List Nat) (b : Bindings), (∀ i < t.size, i ∈ is) → b = ∅ ∨ b.IsPartOf t.constants →
        is.foldl (fun b i ↦ (t.bindConstant i b).2) b = t.constants) ∧
    (∀ i b, (t.bindConstant i b).1 = false → (t.bindConstant i b).2 = b) ∧
    ∀ (b : Bindings) items, items.Perm b.entries →
      items.mergeSort (fun p q ↦ p.1 ≤ q.1) = b.entries ∧ ∀ window name,
        t.canonical window (Bindings.ofList items) name = t.canonical window b name := by
  intro t
  refine ⟨get?_constants_ofOutlines, fun is b his hb ↦ ?_, fun i b ↦ bindConstant_of_fst_eq_false,
    fun b items hitems ↦ ⟨Bindings.mergeSort_eq_entries hitems, fun window name ↦ ?_⟩⟩
  · refine bindConstants_eq_constants his ?_
    rcases hb with rfl | hb
    · exact Bindings.empty_isPartOf _
    · exact hb
  · rw [Bindings.ofList_eq_of_perm hitems]

/-- A class with a constant, a nested class with another one, and a second class with a field that
is no constant, for it has no value. -/
def declaringForest : List Outline :=
  [.node ⟨.classDef, "", 1, 0⟩ [.word .ident "A", Outline.constantField "MAX",
    .node ⟨.classDef, "", 3, 0⟩ [.word .ident "B", Outline.constantField "MIN"]],
   .node ⟨.classDef, "", 5, 0⟩ [.word .ident "C",
    .node ⟨.variableDef, "", 6, 0⟩ [.word .ident "x", .word .semi ";"]]]

/-- The nodes from the last to the first, each of them twice, with one of the two constants bound
from the start. -/
theorem constants_declaringForest :
    let t := ofOutlines declaringForest
    let is := (List.range t.size).reverse ++ List.range t.size
    let b := Bindings.ofList [(9, 12)]
    t.constants.entries = [(9, 12), (23, 26)] ∧ b.IsPartOf t.constants ∧
      is.foldl (fun b i ↦ (t.bindConstant i b).2) b = t.constants ∧
      (t.bindConstant 28 b).2 = b ∧
      t.canonical [9, 20] (Bindings.ofList [(23, 26), (9, 12)]) none
        = t.canonical [9, 20] t.constants none := by
  intro t is b
  have hentries : t.constants.entries = [(9, 12), (23, 26)] := by
    have hdeclared : ((ofOutlines declaringForest).walk (ofOutlines declaringForest).root).filterMap
        (ofOutlines declaringForest).constant? = [(9, 12), (23, 26)] := by cbv
    rw [constants_eq_ofList, hdeclared]
    rfl
  obtain ⟨-, hrun, hfalse, horder⟩ := constants_exact_and_order_independent declaringForest
  have hall : ∀ i < t.size, i ∈ is := fun i hi ↦
    List.mem_append_right _ (List.mem_range.2 hi)
  have hpart : b.IsPartOf t.constants := by
    intro k v h
    rw [show b = (∅ : Bindings).insert 9 12 from rfl, Bindings.get?_insert] at h
    split at h
    · next hk =>
      rw [hk, ← h, Bindings.get?, hentries]
      rfl
    · cases h
  refine ⟨hentries, hpart, hrun is b hall (.inr hpart), hfalse 28 b (by cbv), ?_⟩
  refine (horder t.constants [(23, 26), (9, 12)] ?_).2 [9, 20] none
  rw [hentries]
  exact List.Perm.swap _ _ _

end Tree

end LintMark

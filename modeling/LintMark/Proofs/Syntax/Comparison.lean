import LintMark.Proofs.Syntax.Agreement
import Mathlib.Data.List.Perm.Lattice
import Mathlib.Logic.Relation
import Mathlib.Order.WellFounded

/-!
# Comparing two subtrees

`Tree.agree` answers whether two nodes unfold to the same ordered tree of kinds and texts
(`agree_iff`). It keeps a list of pairs that must still agree, takes the first of them and puts the
pairs of its children in front of the others.

## Why the order does not matter

A comparison may take any pending pair and put the pairs of the children anywhere. `Round` is one
round of such a comparison, and `Stops` says when it has an answer. What a round preserves is
whether all pending pairs are alike. What falls in a round is the number of nodes below the first
members of the pairs, so every comparison ends, whichever pairs it takes, and all of them end with
one answer.
-/

namespace LintMark.Tree

variable {s t : Tree}

/-! ## Rounds -/

/-- The nodes of a pair have one kind, one text and equally many children. -/
def Matches (s t : Tree) (p : Nat × Nat) : Prop :=
  s.kind p.1 = t.kind p.2 ∧ s.text p.1 = t.text p.2 ∧
    (s.children p.1).length = (t.children p.2).length

/-- One round of a comparison: a pending pair matches, and the pairs of its children are pending in
its place. -/
inductive Round (s t : Tree) (pending next : List (Nat × Nat)) : Prop
  | mk (p : Nat × Nat) (rest : List (Nat × Nat)) (htake : pending.Perm (p :: rest))
      (hmatches : Matches s t p)
      (hnext : next.Perm ((s.children p.1).zip (t.children p.2) ++ rest))

/-- A comparison has an answer: no pair is pending, or one of the pairs does not match. -/
inductive Stops (s t : Tree) (pending : List (Nat × Nat)) : Bool → Prop
  | accept (hpending : pending = []) : Stops s t pending true
  | refuse (p : Nat × Nat) (hp : p ∈ pending) (hdiffer : ¬ Matches s t p) : Stops s t pending false

/-- The number of nodes that the first members of the pairs start. -/
def pendingSize (s : Tree) (pending : List (Nat × Nat)) : Nat :=
  (pending.flatMap fun p ↦ s.descendants (some p.1)).length

theorem pendingSize_perm {pending next : List (Nat × Nat)} (h : pending.Perm next) :
    s.pendingSize pending = s.pendingSize next :=
  (h.flatMap_right _).length_eq

variable {pending next : List (Nat × Nat)} {answer : Bool}

/-- A pair is alike when it matches and the pairs of its children are alike. -/
theorem alike_iff_matches (p : Nat × Nat) :
    Alike s t p.1 p.2 ↔ Matches s t p ∧
      ∀ q ∈ (s.children p.1).zip (t.children p.2), Alike s t q.1 q.2 := by
  rw [alike_iff, List.forall₂_iff_zip, Matches]
  constructor
  · rintro ⟨hkind, htext, hlength, h⟩
    exact ⟨⟨hkind, htext, hlength⟩, fun _ hq ↦ h hq⟩
  · rintro ⟨⟨hkind, htext, hlength⟩, h⟩
    exact ⟨hkind, htext, hlength, fun hq ↦ h _ hq⟩

/-- A round keeps whether all pending pairs are alike. -/
theorem Round.forall_alike_iff (h : Round s t pending next) :
    (∀ p ∈ pending, Alike s t p.1 p.2) ↔ ∀ p ∈ next, Alike s t p.1 p.2 := by
  obtain ⟨p, rest, htake, hmatches, hnext⟩ := h
  have hpending : (∀ q ∈ pending, Alike s t q.1 q.2) ↔ ∀ q ∈ p :: rest, Alike s t q.1 q.2 :=
    forall_congr' fun q ↦ by rw [htake.mem_iff]
  have hchildren : (∀ q ∈ next, Alike s t q.1 q.2)
      ↔ ∀ q ∈ (s.children p.1).zip (t.children p.2) ++ rest, Alike s t q.1 q.2 :=
    forall_congr' fun q ↦ by rw [hnext.mem_iff]
  rw [hpending, hchildren, List.forall_mem_cons, List.forall_mem_append, alike_iff_matches]
  exact and_congr_left fun _ ↦ and_iff_right hmatches

/-- A round leaves fewer nodes pending. -/
theorem Round.pendingSize_lt (h : Round s t pending next) :
    s.pendingSize next < s.pendingSize pending := by
  obtain ⟨p, rest, htake, -, hnext⟩ := h
  rw [pendingSize_perm htake, pendingSize_perm hnext, pendingSize, pendingSize,
    List.flatMap_append, List.length_append, List.flatMap_cons, List.length_append]
  have hzip := length_flatMap_zip_le (fun i ↦ s.descendants (some i)) (s.children p.1)
    (t.children p.2)
  have hchildren := s.length_descendants_children_lt p.1
  omega

/-- No comparison goes on for ever, whichever pairs it takes. -/
theorem wellFounded_round (s t : Tree) :
    WellFounded fun next pending : List (Nat × Nat) ↦ Round s t pending next :=
  Subrelation.wf (fun h ↦ h.pendingSize_lt) (InvImage.wf s.pendingSize Nat.lt_wfRel.wf)

/-- A comparison has an answer, or it can go on with any of the pending pairs. -/
theorem stops_or_exists_round (s t : Tree) (pending : List (Nat × Nat)) :
    (∃ answer, Stops s t pending answer) ∨
      pending ≠ [] ∧ ∀ p ∈ pending, ∃ rest, pending.Perm (p :: rest) ∧
        Round s t pending ((s.children p.1).zip (t.children p.2) ++ rest) := by
  by_cases hnil : pending = []
  · exact .inl ⟨true, .accept hnil⟩
  by_cases hmatches : ∀ p ∈ pending, Matches s t p
  · refine .inr ⟨hnil, fun p hp ↦ ?_⟩
    obtain ⟨front, back, rfl⟩ := List.append_of_mem hp
    exact ⟨front ++ back, List.perm_middle,
      p, front ++ back, List.perm_middle, hmatches p hp, .refl _⟩
  · simp only [not_forall] at hmatches
    obtain ⟨p, hp, hdiffer⟩ := hmatches
    exact .inl ⟨false, .refuse p hp hdiffer⟩

/-- An answer says whether all pending pairs are alike. -/
theorem Stops.eq_true_iff (h : Stops s t pending answer) :
    answer = true ↔ ∀ p ∈ pending, Alike s t p.1 p.2 := by
  cases h with
  | accept hpending =>
    subst hpending
    exact iff_of_true rfl (List.forall_mem_nil _)
  | refuse p hp hdiffer =>
    refine iff_of_false Bool.false_ne_true fun halike ↦ hdiffer ?_
    exact ((alike_iff_matches p).1 (halike p hp)).1

/-- What a comparison answers after any number of rounds was settled from the start. -/
theorem eq_true_iff_of_rounds (hrounds : Relation.ReflTransGen (Round s t) pending next)
    (hstops : Stops s t next answer) :
    answer = true ↔ ∀ p ∈ pending, Alike s t p.1 p.2 := by
  induction hrounds using Relation.ReflTransGen.head_induction_on with
  | refl => exact hstops.eq_true_iff
  | head hround _ ih => rw [ih, hround.forall_alike_iff]

/-! ## Answers -/

/-- What the subtree of a node says, if there is a node: the ordered tree of its kinds and texts. -/
def shape (t : Tree) (o : Option Nat) : Option Outline := o.map fun i ↦ (t.outline i).unplaced

theorem agree_iff (s t : Tree) (a b : Option Nat) :
    agree s t a b = true ↔ s.shape a = t.shape b := by
  cases a with
  | none => cases b <;> simp [agree, shape]
  | some i =>
    cases b with
    | none => simp [agree, shape]
    | some j => rw [agree_some_iff, Alike, shape, shape, Option.map_some, Option.map_some,
        Option.some_inj]

/-- **Comparison decides equality of shapes.** Two optional nodes agree exactly when both are
absent, or both are present and unfold to the same ordered tree of kinds and texts. So agreement is
reflexive, symmetric and transitive across trees, and nothing but the shapes has an influence on it.
Nor has the order of the work: a comparison that takes any of the pending pairs in each round ends,
it gets stuck nowhere, and what it answers in the end is the same. -/
theorem agree_decides :
    (∀ s t a b, agree s t a b = true ↔ s.shape a = t.shape b) ∧
    (∀ s t, WellFounded fun next pending ↦ Round s t pending next) ∧
    (∀ s t i j pending, Relation.ReflTransGen (Round s t) [(i, j)] pending →
      (∀ answer, Stops s t pending answer → answer = agree s t (some i) (some j)) ∧
      ((∃ answer, Stops s t pending answer) ∨
        pending ≠ [] ∧ ∀ p ∈ pending, ∃ rest, pending.Perm (p :: rest) ∧
          Round s t pending ((s.children p.1).zip (t.children p.2) ++ rest))) ∧
    (∀ s a, agree s s a a = true) ∧
    (∀ s t a b, agree s t a b = agree t s b a) ∧
    ∀ s t u a b c, agree s t a b = true → agree t u b c = agree s u a c := by
  refine ⟨agree_iff, wellFounded_round, fun s t i j pending hrounds ↦ ⟨fun answer hstops ↦ ?_,
    stops_or_exists_round s t pending⟩, fun s a ↦ (agree_iff s s a a).2 rfl, fun s t a b ↦ ?_,
    fun s t u a b c hab ↦ ?_⟩
  · rw [Bool.eq_iff_iff, eq_true_iff_of_rounds hrounds hstops, List.forall_mem_singleton,
      agree_some_iff]
  · rw [Bool.eq_iff_iff, agree_iff, agree_iff, eq_comm]
  · rw [Bool.eq_iff_iff, agree_iff, agree_iff, (agree_iff s t a b).1 hab]

end LintMark.Tree

import Mathlib.Data.List.Infix

/-!
# Loops that keep a stack

A walk that costs no recursion keeps what it has still to visit on a stack. In each round it takes
the top element, visits it, and puts the successors of the element in its place, the first of them
on top. `Visits` says what such a loop has visited after some rounds and what it has left.

## What the stack holds

Let `order` list what an element starts: the element itself, and then what its successors start, one
after the other (`IsPreorder`). In each round the element visited moves from what the stack starts
to the visits made, and so the visits made, followed by what the stack starts, always are what the
stack started at first (`IsPreorder.append_flatMap`). No element is visited out of turn, none is
skipped, and the loop ends when all have been visited. A loop that stops early, because it has found
what it seeks, has visited a front part of the order; and every front part is visited in this way
(`IsPreorder.exists_visits_iff`).
-/

namespace LintMark

variable {α : Type} {next : α → List α} {order : α → List α}

/-- A loop that starts with the first list on its stack makes the visits in the second one, and has
the third one left. -/
inductive Visits (next : α → List α) : List α → List α → List α → Prop
  | none (stack : List α) : Visits next stack [] stack
  | cons {a : α} {stack visited rest : List α} (h : Visits next (next a ++ stack) visited rest) :
      Visits next (a :: stack) (a :: visited) rest

/-- Each element is listed in front of what its successors start. -/
def IsPreorder (next order : α → List α) : Prop := ∀ a, order a = a :: (next a).flatMap order

namespace IsPreorder

variable (h : IsPreorder next order) {stack visited rest more : List α}

include h

/-- One round: the top element comes first, and its successors take its place. -/
theorem flatMap_cons (a : α) (stack : List α) :
    (a :: stack).flatMap order = a :: (next a ++ stack).flatMap order := by
  rw [List.flatMap_cons, h a, List.flatMap_append, List.cons_append]

theorem flatMap_eq_nil_iff : stack.flatMap order = [] ↔ stack = [] := by
  cases stack with
  | nil => exact iff_of_true rfl rfl
  | cons a stack =>
    rw [h.flatMap_cons]
    exact iff_of_false (List.cons_ne_nil _ _) (List.cons_ne_nil _ _)

/-- **The invariant.** The visits made, and then what the stack starts, stay the same. -/
theorem append_flatMap (hvisits : Visits next stack visited rest) :
    visited ++ rest.flatMap order = stack.flatMap order := by
  induction hvisits with
  | none stack => rw [List.nil_append]
  | cons _ ih => rw [h.flatMap_cons, ← ih, List.cons_append]

/-- The loop gets to every place in the order. -/
theorem exists_visits (horder : visited ++ more = stack.flatMap order) :
    ∃ rest, Visits next stack visited rest ∧ rest.flatMap order = more := by
  induction visited generalizing stack with
  | nil => exact ⟨stack, .none stack, horder.symm⟩
  | cons a visited ih =>
    cases stack with
    | nil => exact absurd horder (List.cons_ne_nil _ _)
    | cons b stack =>
      rw [h.flatMap_cons, List.cons_append, List.cons.injEq] at horder
      obtain ⟨rfl, horder⟩ := horder
      obtain ⟨rest, hvisits, hrest⟩ := ih horder
      exact ⟨rest, .cons hvisits, hrest⟩

/-- What a loop has visited is a front part of the order, and it can be any. -/
theorem exists_visits_iff :
    (∃ rest, Visits next stack visited rest) ↔ visited <+: stack.flatMap order := by
  constructor
  · rintro ⟨rest, hvisits⟩
    exact ⟨_, h.append_flatMap hvisits⟩
  · rintro ⟨more, horder⟩
    obtain ⟨rest, hvisits, -⟩ := h.exists_visits horder
    exact ⟨rest, hvisits⟩

/-- The loop ends exactly when it has visited all of the order. -/
theorem eq_nil_iff (hvisits : Visits next stack visited rest) :
    rest = [] ↔ visited = stack.flatMap order := by
  rw [← h.append_flatMap hvisits, List.self_eq_append_right, h.flatMap_eq_nil_iff]

theorem visits_flatMap (stack : List α) : Visits next stack (stack.flatMap order) [] := by
  obtain ⟨rest, hvisits, hrest⟩ := h.exists_visits (List.append_nil (stack.flatMap order))
  rwa [h.flatMap_eq_nil_iff.1 hrest] at hvisits

/-- There is only one such order: the loop finds it. -/
theorem unique {order' : α → List α} (h' : IsPreorder next order') : order = order' := by
  funext a
  have hvisits := h'.append_flatMap (h.visits_flatMap [a])
  rwa [List.flatMap_nil, List.append_nil, List.flatMap_singleton, List.flatMap_singleton]
    at hvisits

end IsPreorder

end LintMark

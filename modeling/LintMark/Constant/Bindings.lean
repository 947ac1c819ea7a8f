/-!
# Bindings of constants

A binding takes the identifier node of a constant declaration to the node of its literal. The
bindings of a file are a finite map between node indices.

The map is a list of pairs with strictly rising keys. This form is canonical: maps that answer
every look-up alike are equal, whatever the order in which they were filled. It is also the order
in which the bindings enter a canonical string.
-/

namespace LintMark

/-- A finite map from identifier nodes to literal nodes. -/
structure Bindings where
  /-- The pairs of the map, by rising key. -/
  entries : List (Nat × Nat)
  /-- Keys rise strictly. -/
  sorted : entries.Pairwise fun p q ↦ p.1 < q.1

namespace Bindings

@[ext] theorem ext {a b : Bindings} (h : a.entries = b.entries) : a = b := by
  cases a; cases b; cases h; rfl

/-- The map without entries. -/
def empty : Bindings := ⟨[], .nil⟩

instance : EmptyCollection Bindings := ⟨empty⟩

/-- Adds a pair to a list of pairs with rising keys; an equal key loses its value. -/
def insertEntry (k v : Nat) : List (Nat × Nat) → List (Nat × Nat)
  | [] => [(k, v)]
  | (k', v') :: rest =>
    if k < k' then (k, v) :: (k', v') :: rest
    else if k = k' then (k, v) :: rest
    else (k', v') :: insertEntry k v rest

theorem mem_insertEntry {k v : Nat} {p : Nat × Nat} :
    ∀ {entries : List (Nat × Nat)}, p ∈ insertEntry k v entries → p = (k, v) ∨ p ∈ entries
  | [], h => by simpa [insertEntry] using h
  | (k', v') :: rest, h => by
    simp only [insertEntry] at h
    split at h
    · rcases List.mem_cons.1 h with h | h
      · exact .inl h
      · exact .inr h
    · split at h
      · rcases List.mem_cons.1 h with h | h
        · exact .inl h
        · exact .inr (List.mem_cons_of_mem _ h)
      · rcases List.mem_cons.1 h with h | h
        · exact .inr (h ▸ List.mem_cons_self)
        · rcases mem_insertEntry h with h | h
          · exact .inl h
          · exact .inr (List.mem_cons_of_mem _ h)

theorem sorted_insertEntry (k v : Nat) {entries : List (Nat × Nat)}
    (h : entries.Pairwise fun p q ↦ p.1 < q.1) :
    (insertEntry k v entries).Pairwise fun p q ↦ p.1 < q.1 := by
  induction entries with
  | nil => exact List.pairwise_singleton _ _
  | cons p rest ih =>
    obtain ⟨k', v'⟩ := p
    have hp := List.pairwise_cons.1 h
    simp only [insertEntry]
    split
    · next hk =>
      refine List.pairwise_cons.2 ⟨fun q hq ↦ ?_, h⟩
      rcases List.mem_cons.1 hq with rfl | hq
      · exact hk
      · exact Nat.lt_trans hk (hp.1 q hq)
    · split
      · next hk => subst hk; exact List.pairwise_cons.2 hp
      · refine List.pairwise_cons.2 ⟨fun q hq ↦ ?_, ih hp.2⟩
        rcases mem_insertEntry hq with rfl | hq
        · show k' < k; omega
        · exact hp.1 q hq

/-- Binds `k` to `v`, in place of what `k` was bound to before. -/
def insert (b : Bindings) (k v : Nat) : Bindings :=
  ⟨insertEntry k v b.entries, sorted_insertEntry k v b.sorted⟩

/-- The value bound to `k`. -/
def get? (b : Bindings) (k : Nat) : Option Nat := b.entries.lookup k

/-- The map that the given pairs fill, a later pair before an earlier one of the same key. -/
def ofList (pairs : List (Nat × Nat)) : Bindings :=
  pairs.foldl (fun b p ↦ b.insert p.1 p.2) ∅

theorem lookup_cons_ite (j k v : Nat) (rest : List (Nat × Nat)) :
    ((k, v) :: rest).lookup j = if j = k then some v else rest.lookup j := by
  rw [List.lookup_cons]
  by_cases h : j = k
  · simp [h]
  · simp [h, show (j == k) = false by simp [h]]

theorem lookup_insertEntry (k v j : Nat) (entries : List (Nat × Nat)) :
    (insertEntry k v entries).lookup j = if j = k then some v else entries.lookup j := by
  induction entries with
  | nil => rw [insertEntry, lookup_cons_ite]
  | cons p rest ih =>
    obtain ⟨k', v'⟩ := p
    simp only [insertEntry]
    split
    · rw [lookup_cons_ite]
    · split
      · next hk => subst hk; rw [lookup_cons_ite, lookup_cons_ite]; split <;> rfl
      · rw [lookup_cons_ite, lookup_cons_ite, ih]
        by_cases h : j = k'
        · subst h; rw [if_pos rfl, if_pos rfl, if_neg (by omega)]
        · rw [if_neg h, if_neg h]

/-- A binding is found under its own key and changes no other. -/
theorem get?_insert (b : Bindings) (k v j : Nat) :
    (b.insert k v).get? j = if j = k then some v else b.get? j :=
  lookup_insertEntry k v j b.entries

theorem lookup_eq_none_of_lt {k : Nat} {entries : List (Nat × Nat)}
    (h : ∀ p ∈ entries, k < p.1) : entries.lookup k = none := by
  induction entries with
  | nil => rfl
  | cons p rest ih =>
    have hp := h p List.mem_cons_self
    rw [show p = (p.1, p.2) from rfl, lookup_cons_ite, if_neg (by omega)]
    exact ih fun q hq ↦ h q (List.mem_cons_of_mem _ hq)

/-- Of two equal maps neither starts with a smaller key. -/
theorem le_of_lookup_eq {k v : Nat} {as bs : List (Nat × Nat)}
    (hb : bs.Pairwise fun p q ↦ p.1 < q.1)
    (h : ∀ j, ((k, v) :: as).lookup j = bs.lookup j) : ∃ p ∈ bs.head?, p.1 ≤ k := by
  have hk := h k
  rw [lookup_cons_ite, if_pos rfl] at hk
  cases bs with
  | nil => cases hk
  | cons q bs =>
    refine ⟨q, rfl, Nat.le_of_not_lt fun hlt ↦ ?_⟩
    rw [lookup_eq_none_of_lt] at hk
    · cases hk
    · intro r hr
      rcases List.mem_cons.1 hr with rfl | hr
      · exact hlt
      · exact Nat.lt_trans hlt ((List.pairwise_cons.1 hb).1 r hr)

theorem entries_eq_of_lookup_eq {as bs : List (Nat × Nat)}
    (ha : as.Pairwise fun p q ↦ p.1 < q.1) (hb : bs.Pairwise fun p q ↦ p.1 < q.1)
    (h : ∀ k, as.lookup k = bs.lookup k) : as = bs := by
  induction as generalizing bs with
  | nil =>
    cases bs with
    | nil => rfl
    | cons q bs => obtain ⟨p, hp, -⟩ := le_of_lookup_eq ha fun j ↦ (h j).symm; cases hp
  | cons p as ih =>
    obtain ⟨q, hq, hle⟩ := le_of_lookup_eq hb h
    cases bs with
    | nil => cases hq
    | cons q' bs =>
      cases hq
      obtain ⟨p', hp', hle'⟩ := le_of_lookup_eq ha fun j ↦ (h j).symm
      cases hp'
      obtain ⟨k, v⟩ := p
      obtain ⟨k', w⟩ := q
      cases Nat.le_antisymm hle hle'
      have hv := h k
      rw [lookup_cons_ite, lookup_cons_ite, if_pos rfl, if_pos rfl] at hv
      cases hv
      obtain ⟨ha₁, ha₂⟩ := List.pairwise_cons.1 ha
      obtain ⟨hb₁, hb₂⟩ := List.pairwise_cons.1 hb
      congr 1
      refine ih ha₂ hb₂ fun j ↦ ?_
      by_cases hj : j = k
      · subst hj
        rw [lookup_eq_none_of_lt ha₁, lookup_eq_none_of_lt hb₁]
      · have := h j
        rwa [lookup_cons_ite, lookup_cons_ite, if_neg hj, if_neg hj] at this

/-- Maps that answer every look-up alike are equal. -/
theorem ext_get? {a b : Bindings} (h : ∀ k, a.get? k = b.get? k) : a = b :=
  ext (entries_eq_of_lookup_eq a.sorted b.sorted h)

end Bindings

end LintMark

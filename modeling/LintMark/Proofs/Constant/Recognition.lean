import LintMark.Constant.Recognition
import LintMark.Proofs.Syntax.Walk
import LintMark.Syntax.Outline

/-!
# What the constant pass binds

`Tree.DeclaresConstant` says in one sentence what a constant declaration looks like, and
`constant?_eq_some_iff` that recognition decides it. Every binding of the pass comes from a
declaration on the walk (`exists_constant?_of_mem_constantsFrom`).
-/

namespace LintMark

namespace Tree

variable {t : Tree}

/-! ## Declarations -/

/-- Node `i` declares the constant whose name stands at `ident` and whose value starts with the
token `literal`. -/
def DeclaresConstant (t : Tree) (i ident literal : Nat) : Prop :=
  t.kind i = Kind.variableDef ∧ ∃ modifiers type assign semi,
    t.children i = [modifiers, type, ident, assign, semi] ∧
    t.kind modifiers = Kind.modifiers ∧ t.childCount modifiers = 3 ∧
    t.kind type = Kind.type ∧ t.kind ident = Kind.ident ∧ t.kind assign = Kind.assign ∧
    t.kind semi = Kind.semi ∧ t.initializerToken assign = some literal

theorem constant?_eq_some_iff {i ident literal : Nat} :
    t.constant? i = some (ident, literal) ↔ t.DeclaresConstant i ident literal := by
  rw [constant?]
  constructor
  · intro h
    split at h
    · next hkind =>
      split at h
      · next modifiers type ident' assign semi hchildren =>
        split at h
        · next hkinds =>
          obtain ⟨token, htoken, heq⟩ := Option.map_eq_some_iff.1 h
          cases heq
          obtain ⟨h₁, h₂, h₃, h₄, h₅, h₆⟩ := hkinds
          exact ⟨hkind, modifiers, type, assign, semi, hchildren, h₁, h₂, h₃, h₄, h₅, h₆, htoken⟩
        · cases h
      · cases h
    · cases h
  · rintro ⟨hkind, modifiers, type, assign, semi, hchildren, h₁, h₂, h₃, h₄, h₅, h₆, htoken⟩
    rw [if_pos hkind, hchildren]
    dsimp only
    rw [if_pos ⟨h₁, h₂, h₃, h₄, h₅, h₆⟩, htoken, Option.map_some]

theorem DeclaresConstant.ident_lt_size {i ident literal : Nat}
    (h : t.DeclaresConstant i ident literal) : ident < t.size := by
  obtain ⟨-, modifiers, type, assign, semi, hchildren, -⟩ := h
  apply lt_size_of_mem_children (i := i)
  simp [hchildren]

/-! ## The pass -/

theorem mem_entries_bindConstant {i : Nat} {b : Bindings} {p : Nat × Nat}
    (h : p ∈ (t.bindConstant i b).2.entries) : t.constant? i = some p ∨ p ∈ b.entries := by
  rw [bindConstant] at h
  split at h
  · next ident literal hconstant =>
    rcases Bindings.mem_insertEntry h with rfl | h
    · exact .inl hconstant
    · exact .inr h
  · exact .inr h

theorem mem_entries_foldl_bindConstant {is : List Nat} {b : Bindings} {p : Nat × Nat}
    (h : p ∈ (is.foldl (fun b i ↦ (t.bindConstant i b).2) b).entries) :
    (∃ i ∈ is, t.constant? i = some p) ∨ p ∈ b.entries := by
  induction is generalizing b with
  | nil => exact .inr h
  | cons i is ih =>
    rcases ih h with ⟨j, hj, hp⟩ | h
    · exact .inl ⟨j, List.mem_cons_of_mem i hj, hp⟩
    · rcases mem_entries_bindConstant h with hp | h
      · exact .inl ⟨i, List.mem_cons_self, hp⟩
      · exact .inr h

theorem exists_constant?_of_mem_constantsFrom {o : Option Nat} {p : Nat × Nat}
    (h : p ∈ (t.constantsFrom o).entries) : ∃ i ∈ t.walk o, t.constant? i = some p := by
  rcases mem_entries_foldl_bindConstant h with h | h
  · exact h
  · cases h

theorem lt_size_of_mem_constants {p : Nat × Nat} (h : p ∈ t.constants.entries) :
    p.1 < t.size := by
  obtain ⟨i, -, hp⟩ := exists_constant?_of_mem_constantsFrom h
  exact (constant?_eq_some_iff.1 hp).ident_lt_size

/-- The constants are filled from the pairs that the nodes of the walk declare. -/
theorem constants_eq_ofList (t : Tree) :
    t.constants = .ofList ((t.walk t.root).filterMap t.constant?) := by
  rw [constants, constantsFrom, Bindings.ofList, List.foldl_filterMap]
  congr 1
  funext b i
  rw [bindConstant]
  cases t.constant? i <;> rfl

end Tree

/-! ## A declaration in full -/

namespace Outline

/-- The leaf of a word on the second line. -/
def word (kind : Kind) (text : String) : Outline := .node ⟨kind, text, 2, 0⟩ []

/-- The outline of `public static final int name = 10;` on the second line. -/
def constantField (name : String) : Outline :=
  .node ⟨.variableDef, "", 2, 0⟩ [
    .node ⟨.modifiers, "", 2, 0⟩ [word (.keyword "PUBLIC") "public",
      word .literalStatic "static", word (.keyword "FINAL") "final"],
    .node ⟨.type, "", 2, 0⟩ [word (.keyword "INT") "int"],
    word .ident name,
    .node ⟨.assign, "=", 2, 0⟩ [.node ⟨.expr, "", 2, 0⟩ [word .numInt "10"]],
    word .semi ";"]

example : (Tree.ofOutlines [constantField "MAX"]).constants.entries = [(7, 10)] := by cbv

end Outline

end LintMark

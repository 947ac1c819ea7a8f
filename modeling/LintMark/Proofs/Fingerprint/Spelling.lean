import Mathlib.Data.List.Basic
import LintMark.Fingerprint.Canonical
import LintMark.Proofs.Constant.Recognition

/-!
# Canonical strings are uniquely decodable

Two windows are told apart by their canonical strings exactly if they are told apart by the tokens
that they emit and by the names behind them, as long as no token and no name has a space in it
(`Tree.canonical_eq_canonical_iff`). A token may be empty: a node without a text below a type emits
one. A node may also emit no token at all, or several.

## Why a delimiter behind each token is enough

The name has no delimiter behind it. Still the text of a token ends at the first space, and what
follows the last space is the name. So the tokens are cut off one by one from the front, and the
induction follows the list of tokens.
-/

namespace LintMark

/-! ## Cutting a text at spaces -/

/-- A text that no space divides. -/
def Spaceless (text : String) : Prop := ' ' ∉ text.toList

instance (text : String) : Decidable (Spaceless text) :=
  inferInstanceAs (Decidable (_ ∉ _))

/-- Lists that go on behind the first delimiter agree in front of it and behind it. -/
theorem eq_and_eq_of_append_cons_eq {α : Type} {delimiter : α} {xs ys zs ws : List α}
    (hxs : delimiter ∉ xs) (hys : delimiter ∉ ys)
    (h : xs ++ delimiter :: zs = ys ++ delimiter :: ws) : xs = ys ∧ zs = ws := by
  induction xs generalizing ys with
  | nil =>
    cases ys with
    | nil => exact ⟨rfl, (List.cons.inj h).2⟩
    | cons y ys => exact absurd ((List.cons.inj h).1 ▸ List.mem_cons_self) hys
  | cons x xs ih =>
    cases ys with
    | nil => exact absurd ((List.cons.inj h).1 ▸ List.mem_cons_self) hxs
    | cons y ys =>
      obtain ⟨rfl, hrest⟩ := List.cons.inj h
      obtain ⟨rfl, rfl⟩ := ih (fun hmem ↦ hxs (List.mem_cons_of_mem x hmem))
        (fun hmem ↦ hys (List.mem_cons_of_mem x hmem)) hrest
      exact ⟨rfl, rfl⟩

theorem toList_spell_nil (name : Option String) :
    (spell [] name).toList = (name.getD "").toList := by
  simp [spell]

theorem toList_spell_cons (token : String) (tokens : List String) (name : Option String) :
    (spell (token :: tokens) name).toList
      = token.toList ++ ' ' :: (spell tokens name).toList := by
  simp [spell]

/-- A text of at least one token has a space in it, so it is no name. -/
theorem toList_spell_cons_ne {token : String} {tokens : List String} {name name' : Option String}
    (hname : Spaceless (name'.getD "")) :
    (spell (token :: tokens) name).toList ≠ (spell [] name').toList := by
  intro h
  rw [toList_spell_cons, toList_spell_nil] at h
  refine hname ?_
  rw [← h]
  exact List.mem_append_right _ List.mem_cons_self

/-- The text determines the tokens and the name. -/
theorem eq_and_eq_of_spell_eq {tokens tokens' : List String} {name name' : Option String}
    (htokens : ∀ token ∈ tokens, Spaceless token) (htokens' : ∀ token ∈ tokens', Spaceless token)
    (hname : Spaceless (name.getD "")) (hname' : Spaceless (name'.getD ""))
    (h : spell tokens name = spell tokens' name') :
    tokens = tokens' ∧ name.getD "" = name'.getD "" := by
  replace h : (spell tokens name).toList = (spell tokens' name').toList := by rw [h]
  induction tokens generalizing tokens' with
  | nil =>
    cases tokens' with
    | nil =>
      rw [toList_spell_nil, toList_spell_nil] at h
      exact ⟨rfl, String.toList_inj.1 h⟩
    | cons token' tokens' => exact absurd h.symm (toList_spell_cons_ne hname)
  | cons token tokens ih =>
    cases tokens' with
    | nil => exact absurd h (toList_spell_cons_ne hname')
    | cons token' tokens' =>
      obtain ⟨htoken, htokens⟩ := List.forall_mem_cons.1 htokens
      obtain ⟨htoken', htokens'⟩ := List.forall_mem_cons.1 htokens'
      rw [toList_spell_cons, toList_spell_cons] at h
      obtain ⟨hfirst, hrest⟩ := eq_and_eq_of_append_cons_eq htoken htoken' h
      obtain ⟨rfl, hnames⟩ := ih htokens htokens' hrest
      obtain rfl := String.toList_inj.1 hfirst
      exact ⟨rfl, hnames⟩

namespace Tree

/-! ## Emitted tokens -/

/-- The pairs of a map whose key is an identifier with the given text, by rising key. -/
def bindingsOf (t : Tree) (b : Bindings) (text : String) : List (Nat × Nat) :=
  b.entries.filter fun p ↦ t.kind p.1 = .ident ∧ t.text p.1 = text

/-- What a node emits: a type, the texts of all that stands below it, in document order; a node
with the name of constants, the kinds of what they are bound to; any other node, its own kind. -/
def emitted (t : Tree) (b : Bindings) (i : Nat) : List String :=
  if t.kind i = .type then (t.descendants (some i)).tail.map t.text
  else if t.bindingsOf b (t.text i) = [] then [(t.kind i).name]
  else (t.bindingsOf b (t.text i)).map fun p ↦ (t.kind p.2).name

/-- What the nodes of a window emit, one after the other. -/
def emittedAll (t : Tree) (window : List Nat) (b : Bindings) : List String :=
  window.flatMap (t.emitted b)

variable {t : Tree} {b : Bindings}

theorem literalKinds_eq_map_bindingsOf (text : String) :
    t.literalKinds (t.boundNames b) text
      = (t.bindingsOf b text).map fun p ↦ (t.kind p.2).name := by
  rw [literalKinds, boundNames, bindingsOf]
  induction b.entries with
  | nil => rfl
  | cons p entries ih =>
    obtain ⟨ident, literal⟩ := p
    by_cases hkind : t.kind ident = .ident
    · by_cases htext : t.text ident = text
      · simpa [hkind, htext] using ih
      · simpa [hkind, htext] using ih
    · simpa [hkind] using ih

theorem nodeTokens_eq_emitted (i : Nat) : t.nodeTokens (t.boundNames b) i = t.emitted b i := by
  rw [nodeTokens, emitted]
  by_cases hkind : t.kind i = .type
  · rw [if_pos hkind, if_pos hkind, ← List.map_flatMap]
    -- Below a type stand the subtrees of its children.
    rw [children, flatMap_descendants_chain, descendants_some, List.tail_cons]
  · rw [if_neg hkind, if_neg hkind, literalKinds_eq_map_bindingsOf]
    cases t.bindingsOf b (t.text i) with
    | nil => rfl
    | cons p others => rfl

theorem canonical_eq_spell_emittedAll (window : List Nat) (name : Option String) :
    t.canonical window b name = spell (t.emittedAll window b) name := by
  rw [canonical, tokens, emittedAll]
  exact congrArg (spell · name) (List.flatMap_congr fun i _ ↦ nodeTokens_eq_emitted i)

/-! ## Main result -/

/-- **Canonical strings are uniquely decodable.** Where no emitted token and no name has a space in
it, two canonical strings are equal exactly if the same tokens are emitted in the same order and the
names are the same. No name counts as an empty one. -/
theorem canonical_eq_canonical_iff (s t : Tree) (window window' : List Nat) (b b' : Bindings)
    (name name' : Option String) (hs : ∀ token ∈ s.emittedAll window b, Spaceless token)
    (ht : ∀ token ∈ t.emittedAll window' b', Spaceless token)
    (hname : Spaceless (name.getD "")) (hname' : Spaceless (name'.getD "")) :
    s.canonical window b name = t.canonical window' b' name' ↔
      s.emittedAll window b = t.emittedAll window' b' ∧ name.getD "" = name'.getD "" := by
  rw [canonical_eq_spell_emittedAll, canonical_eq_spell_emittedAll]
  constructor
  · exact eq_and_eq_of_spell_eq hs ht hname hname'
  · rintro ⟨htokens, hnames⟩
    rw [spell, spell, htokens, hnames]

/-- Two fields of one name with values of different kinds, then a generic type, a type without
parts, and a use of the name. -/
def emittingForest : List Outline :=
  let field (literal : Outline) : Outline :=
    .node ⟨.variableDef, "", 1, 0⟩ [.word .ident "MAX",
      .node ⟨.assign, "=", 1, 0⟩ [.node ⟨.expr, "", 1, 0⟩ [literal]]]
  [field (.word .stringLiteral "\"m\""), field (.word .numInt "10"),
    .node ⟨.type, "", 2, 0⟩ [.word .ident "List",
      .node ⟨.typeArguments, "", 2, 0⟩ [.word .genericStart "<",
        .node ⟨.typeArgument, "", 2, 0⟩ [.word .ident "T"], .word .genericEnd ">"]],
    .node ⟨.type, "", 2, 0⟩ [], .word .ident "MAX"]

/-- The map of the two fields is built in either order. The generic type emits two empty tokens, the
type without parts none, and the use of the name two. -/
theorem canonical_emittingForest :
    let t := ofOutlines emittingForest
    let window := [10, 17, 18]
    let b := Bindings.ofList [(6, 9), (1, 4)]
    let b' := Bindings.ofList [(1, 4), (6, 9)]
    t.emittedAll window b = ["List", "", "<", "", "T", ">", "STRING_LITERAL", "NUM_INT"] ∧
      t.canonical window b none = t.canonical window b' (some "") ∧
      t.canonical window b none ≠ t.canonical window b' (some "MAX") := by
  intro t window b b'
  have hemitted : t.emittedAll window b
      = ["List", "", "<", "", "T", ">", "STRING_LITERAL", "NUM_INT"] := by
    have hgeneric : (ofOutlines emittingForest).descendants (some 10)
        = [10, 11, 12, 13, 14, 15, 16] := by cbv
    have hbare : (ofOutlines emittingForest).descendants (some 17) = [17] := by cbv
    rw [emittedAll, List.flatMap_cons, List.flatMap_cons, List.flatMap_singleton, emitted, hgeneric,
      emitted, hbare]
    rfl
  have hmaps : b = b' := Bindings.ext rfl
  have hemitted' : t.emittedAll window b'
      = ["List", "", "<", "", "T", ">", "STRING_LITERAL", "NUM_INT"] := hmaps ▸ hemitted
  have hspaceless : ∀ token ∈ ["List", "", "<", "", "T", ">", "STRING_LITERAL", "NUM_INT"],
      Spaceless token := by decide
  have hiff := fun name' hname' ↦ canonical_eq_canonical_iff t t window window b b' none name'
    (hemitted ▸ hspaceless) (hemitted' ▸ hspaceless) (by decide) hname'
  refine ⟨hemitted, ?_, ?_⟩
  · exact (hiff (some "") (by decide)).2 ⟨hemitted.trans hemitted'.symm, rfl⟩
  · intro heq
    obtain ⟨-, hname⟩ := (hiff (some "MAX") (by decide)).1 heq
    exact absurd hname (by decide)

end Tree

end LintMark

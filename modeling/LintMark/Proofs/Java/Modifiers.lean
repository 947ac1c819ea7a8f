import LintMark.Proofs.Constant.Fields
import LintMark.Proofs.Java.Levels
import LintMark.Proofs.Window.Fields

/-!
# Declarations start with their modifiers

Seven rules declare something: those of type declarations, methods and constructors, and those that
define the variables of a declaration, of a loop, of a parameter list and of a catch clause. Each
puts the modifiers of its row first (`Shaper.Declares.children_eq`), and what follows is spliced
behind them. A node of the kind of a declaration can come from no other rule, unless a row without a
rule spells the kind out, so every such node has its modifiers for its first child
(`Reading.firstChild_declaration`).

The modifiers are shaped below the declaration, at whatever level that is met. Since the row of
modifiers fits into the levels of the declaration, the outline is the one it has by itself.
-/

namespace LintMark

/-- The kinds of declarations. -/
def Kind.declarations : List Kind := typeDeclarations ++ methodDeclarations ++
  [variableDef, parameterDef]

namespace Java.Shaper

open Cst Outline

variable {s : Shaper} {row c : Cst} {o : Outline}

/-! ## Rules that declare -/

/-- The row declares something: its rule makes the outline, or in the case of a parameter the rule
of the row that the parameter stands in. A row of several variables declares each of them. -/
inductive Declares (s : Shaper) (row : Cst) : Outline → Prop
  | typeDeclaration (kind : Kind) (hconstruct : Construct.ofType row.type = .typeDeclaration kind) :
      Declares s row (s.typeDeclaration kind row)
  | method (hconstruct : Construct.ofType row.type = .method) : Declares s row (s.method row)
  | constructor (hconstruct : Construct.ofType row.type = .constructor) :
      Declares s row (s.constructor row)
  | variableDef (d : Cst) (hd : d ∈ declarators row) (terminator : Option Outline)
      (hconstruct : Construct.ofType row.type ∈ [.field, .localVariable]) :
      Declares s row (s.variableDef row d terminator)
  | loopVariable (hconstruct : Construct.ofType row.type = .enhancedFor) :
      Declares s row (s.node .variableDef row "" (s.modifiersOf row ::
        (row.field? "type").toList.map (fun c ↦ s.typeSpec c (row.field? "dimensions"))
          ++ (row.field? "name").toList.flatMap s.convert))
  | parameter (htype : row.type ∈ ["formal_parameter", "spread_parameter"]) :
      Declares s row (s.parameter row)
  | catchParameter (htype : row.type = "catch_formal_parameter") :
      Declares s row (s.catchParameter row)

/-- Whatever a declaration goes on with, its modifiers come first. -/
theorem Declares.children_eq (h : s.Declares row o) :
    ∃ os, o.children = s.modifiersOf row :: os := by
  cases h with
  | typeDeclaration | method | constructor | variableDef | loopVariable | parameter
  | catchParameter => exact ⟨_, rfl⟩

/-- A declaration asks for the parts of its modifiers, whether it asks for all its children or for
some fields alone. -/
theorem Declares.asks_modifierParts (h : s.Declares row o) :
    ∀ c ∈ modifierParts row, Asks row c := by
  cases h with
  | typeDeclaration kind hconstruct => exact (Within.self (by rw [hconstruct]; rfl)).modifierParts
  | method hconstruct | constructor hconstruct =>
    exact (Within.self (by rw [hconstruct]; rfl)).modifierParts
  | variableDef d hd terminator hconstruct =>
    intro c hc
    refine Accounts.asks_of_declarator hconstruct hd c ?_
    exact List.mem_append_left _ (List.mem_append_left _ hc)
  | loopVariable hconstruct =>
    intro c hc
    refine .of_mem_shapedBelow ?_
    rw [shapedBelow, hconstruct]
    exact List.mem_append_left _ hc
  | parameter htype =>
    exact (Within.self (by rw [Construct.ofType_of_parameter htype]; rfl)).modifierParts
  | catchParameter htype => exact (Within.self (by rw [htype]; rfl)).modifierParts

/-- The modifiers of a declaration fit into the levels that the declaration fits into. -/
theorem Declares.fitsInto_modifiers (h : s.Declares row o) {n : Nat} (hfits : fitsInto n row = true)
    (hc : row.children.find? (fun c ↦ c.type = "modifiers") = some c) : fitsInto n c = true := by
  have htype : c.type = "modifiers" := by simpa using List.find?_some hc
  have hasks := h.asks_modifierParts
  rw [modifierParts_of_find? hc] at hasks
  cases n with
  | zero => cases hfits
  | succ n =>
    rw [fitsInto, shapedBelow_of_asksAll (by rw [htype]; rfl)]
    exact List.all_eq_true.2 fun d hd ↦ (hasks d hd).fits hfits

/-- A node of the kind of a declaration is made for a row that declares, since no other type spells
out such a kind. -/
theorem Makes.exists_declares (h : s.Makes row o) (hkind : o.kind ∈ Kind.declarations)
    (hreserved : (⟨Text.toUpper row.type⟩ : Kind) ∉ Kind.declarations) :
    ∃ c, row.Near c ∧ (∀ {n}, fitsInto n row = true → fitsInto n c = true) ∧ s.Declares c o := by
  have hstructural : Kind.declarations ⊆ Kind.structural := by decide
  have hwithin : ∀ {c : Cst}, Within row c → Construct.ofType c.type ∈ handedOn →
      ∀ {n}, fitsInto n row = true → fitsInto n c = true := by
    intro c hc hconstruct n hfits
    cases n with
    | zero => cases hfits
    | succ n =>
      rw [fitsInto, shapedBelow_of_asksAll (asksAll_of_mem_handedOn hconstruct)]
      exact List.all_eq_true.2 fun d hd ↦ (hc.asks d hd).fits hfits
  cases h with
  | typeDeclaration kind hconstruct => exact ⟨row, .self, id, .typeDeclaration kind hconstruct⟩
  | method hconstruct => exact ⟨row, .self, id, .method hconstruct⟩
  | constructor hconstruct => exact ⟨row, .self, id, .constructor hconstruct⟩
  | variableDef d hd terminator hconstruct =>
    exact ⟨row, .self, id, .variableDef d hd terminator hconstruct⟩
  | loopVariable hconstruct => exact ⟨row, .self, id, .loopVariable hconstruct⟩
  | @parameter c hc htype =>
    have hconstruct := Construct.ofType_of_parameter htype
    exact ⟨c, hc.near, hwithin hc (by rw [hconstruct]; decide), .parameter htype⟩
  | @catchParameter c hc htype =>
    exact ⟨c, hc.near, hwithin hc (by rw [htype]; decide), .catchParameter htype⟩
  | other hother => exact absurd (hstructural hkind) hother
  | generic =>
    have htype : kindOfType row.type ∉ Kind.declarations :=
      lookup_getD_notMem (by decide) hreserved row.type
    exact absurd rfl (kind_generic_ne (hstructural hkind) (fun heq ↦ hreserved (heq ▸ hkind))
      fun heq ↦ htype (heq ▸ hkind))
  | typeBody => exact absurd hkind (by decide : Kind.objBlock ∉ Kind.declarations)
  | block => exact absurd hkind (by decide : Kind.slist ∉ Kind.declarations)

end Java.Shaper

/-! ## Main result -/

open Java

/-- Node `f` holds the modifiers of a row: what its first row of modifiers is shaped to, or nothing
where the row has none. -/
def Tree.IsModifiersOf (t : Tree) (source : SourceText) (row : Cst) (f : Nat) : Prop :=
  t.kind f = .modifiers ∧
    match row.children.find? fun c ↦ c.type = "modifiers" with
    | some c => fitsInto nestingLimit c = true ∧
        (shaper source nestingLimit).convertRow c = [t.outline f]
    | none => (t.node f).firstChild = none ∧ (t.outline f).At source row

/-- The outline that a declaration starts with holds its modifiers, whatever the level. -/
theorem Tree.isModifiersOf_of_outline {t : Tree} {source : SourceText} {row : Cst} {m f : Nat}
    (hm : m ≤ nestingLimit) (hf : t.outline f = (shaper source m).modifiersOf row)
    (hfits : ∀ c, row.children.find? (fun c ↦ c.type = "modifiers") = some c →
      fitsInto m c = true) : t.IsModifiersOf source row f := by
  refine ⟨by rw [← t.kind_outline, hf, Shaper.kind_modifiersOf], ?_⟩
  rw [Shaper.modifiersOf] at hf
  cases hfind : row.children.find? fun c ↦ c.type = "modifiers" with
  | none =>
    rw [hfind] at hf
    have hchildren : (t.children f).map t.outline = [] := by
      rw [← t.children_outline, hf]
      rfl
    refine ⟨?_, ?_⟩
    · rw [← t.head?_children, List.map_eq_nil_iff.1 hchildren, List.head?_nil]
    · have hplace : (t.outline f).At (shaper source m).source row := by
        rw [hf]
        exact ⟨rfl, rfl⟩
      rwa [source_shaper] at hplace
  | some c =>
    rw [hfind] at hf
    have htype : c.type = "modifiers" := by simpa using List.find?_some hfind
    have hc := hfits c hfind
    have hmore := fitsInto_of_le hc hm
    refine ⟨hmore, ?_⟩
    rw [← (convertRow_shaper_eq hc hmore).1, Shaper.convertRow, htype, hf]
    rfl

namespace Reading

variable {r : Reading} {path : Text} {strict : Bool} {t : Tree} {i : Nat}

/-- **Declarations start with their modifiers.** If no row of a reading has a type that spells out
the kind of a declaration, every node of such a kind was made for a row that declares something. It
has a first child, and that one holds the modifiers of the row: what its first row of modifiers is
shaped to, or nothing. No part of the row has to be there, and the source may have faults. -/
theorem firstChild_declaration
    (hreserved : ∀ row ∈ r.root.rows, (⟨Text.toUpper row.type⟩ : Kind) ∉ Kind.declarations)
    (ht : r.tree path strict = .ok t) (hi : i < t.size) (hkind : t.kind i ∈ Kind.declarations) :
    ∃ row ∈ r.root.rows,
      (∃ m, fitsInto m row = true ∧ (shaper r.source m).Declares row (t.outline i)) ∧
      ∃ f, (t.node i).firstChild = some f ∧ t.IsModifiersOf r.source row f := by
  obtain ⟨hroot, rfl⟩ := fitsInto_and_eq_of_tree ht
  obtain ⟨p, hp, hmem⟩ := Shaper.exists_stems (Tree.outline_mem_subtreesAll hi)
  obtain ⟨m, hm, maker, hmaker, hfits, hmakes⟩ := hp.exists_makes hmem
  obtain ⟨row, hnear, hrow, hdeclares⟩ := hmakes.exists_declares hkind (hreserved maker hmaker)
  obtain ⟨os, hos⟩ := hdeclares.children_eq
  rw [Tree.children_outline] at hos
  obtain ⟨f, others, hchildren, hf, -⟩ := List.map_eq_cons_iff.1 hos
  have hfits := hrow (hfits hroot)
  refine ⟨row, Cst.mem_rows_trans hmaker hnear.mem_rows, ⟨m, hfits, hdeclares⟩, f, ?_, ?_⟩
  · rw [← Tree.head?_children, hchildren, List.head?_cons]
  · exact Tree.isModifiersOf_of_outline hm hf fun c hc ↦
      hdeclares.fitsInto_modifiers hfits hc

/-- In the enumeration, the first field has a node for its modifiers though it has none, and the
last one has a node for the word `static`. -/
theorem firstChild_letters :
    (∀ row ∈ letters.root.rows, (⟨Text.toUpper row.type⟩ : Kind) ∉ Kind.declarations) ∧
    letters.tree "E.java" true = .ok lettersTree ∧
    ∀ p ∈ [(10, 11), (22, 23)], lettersTree.kind p.1 = .variableDef ∧
      ∃ row ∈ letters.root.rows, lettersTree.IsModifiersOf letters.source row p.2 := by
  have hreserved : ∀ row ∈ letters.root.rows,
      (⟨Text.toUpper row.type⟩ : Kind) ∉ Kind.declarations := by decide +kernel
  refine ⟨hreserved, tree_letters, fun p hp ↦ ?_⟩
  have hnode : ∀ p ∈ [(10, 11), (22, 23)], p.1 < lettersTree.size ∧
      lettersTree.kind p.1 = .variableDef ∧ (lettersTree.node p.1).firstChild = some p.2 := by
    decide +kernel
  obtain ⟨hsize, hkind, hfirst⟩ := hnode p hp
  obtain ⟨row, hrow, -, f, hf, hmodifiers⟩ := firstChild_declaration hreserved tree_letters hsize
    (by rw [hkind]; decide)
  cases hfirst.symm.trans hf
  exact ⟨hkind, row, hrow, hmodifiers⟩

end Reading

end LintMark

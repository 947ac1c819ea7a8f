import LintMark.Java.Shape
import LintMark.Proofs.Constant.Recognition
import LintMark.Proofs.Syntax.Subtrees

/-!
# Which fields are constants

From the concrete tree to the bindings: a field declaration becomes one definition for each of its
declarators, in their order, and each definition ends with the separator behind its declarator
(`IsFieldDeclaration.constants`). Only the last definition ends with a semicolon, so of several
fields that are declared together the last one alone can be a constant, and it is one exactly when
the declaration has three modifiers and the value is not shaped to nothing.

## From outlines to nodes

Recognition looks at nodes, and shaping gives outlines. A definition that stands anywhere in a
forest is what some node of the laid-out forest unfolds to, and the children of the node unfold to
the children of the definition.
-/

namespace LintMark

namespace Tree

variable {t : Tree}

/-! ## Constants by the outlines of nodes -/

theorem head?_children (t : Tree) (i : Nat) : (t.children i).head? = (t.node i).firstChild := by
  rw [children]
  cases (t.node i).firstChild with
  | none => rw [chain_none, List.head?_nil]
  | some j => rw [chain_some, List.head?_cons]

theorem initializerToken_eq_head? {assign initial : Nat} (h : t.children assign = [initial]) :
    t.initializerToken assign = (t.children initial).head? := by
  rw [initializerToken, ← t.head?_children assign, h, List.head?_cons, Option.bind_some,
    head?_children]

theorem length_children_outline (t : Tree) (i : Nat) :
    (t.outline i).children.length = t.childCount i := by
  rw [children_outline, List.length_map, childCount]

/-- A node has a first child exactly when its children unfold to something. -/
theorem exists_head?_children_iff {i : Nat} {os : List Outline}
    (h : (t.children i).map t.outline = os) :
    (∃ j, (t.children i).head? = some j) ↔ os ≠ [] := by
  rw [← h, ne_eq, List.map_eq_nil_iff]
  cases t.children i with
  | nil => exact iff_of_false nofun (not_not.2 rfl)
  | cons j others => exact iff_of_true ⟨j, rfl⟩ (List.cons_ne_nil j others)

theorem constant?_eq_none_of_length_ne {i : Nat} (h : (t.children i).length ≠ 5) :
    t.constant? i = none := by
  cases hconstant : t.constant? i with
  | none => rfl
  | some p =>
    obtain ⟨-, modifiers, type, assign, semi, hchildren, -⟩ := constant?_eq_some_iff.1 hconstant
    rw [hchildren] at h
    exact absurd rfl h

theorem bindConstant_of_eq_some {i : Nat} {p : Nat × Nat} (h : t.constant? i = some p)
    (b : Bindings) : t.bindConstant i b = (true, b.insert p.1 p.2) := by
  rw [bindConstant, h]

theorem fst_bindConstant_eq_true_iff {i : Nat} {b : Bindings} :
    (t.bindConstant i b).1 = true ↔ ∃ p, t.constant? i = some p := by
  rw [bindConstant]
  cases t.constant? i with
  | none => simp
  | some p => simp

end Tree

namespace Java

open Outline Shaper

/-! ## Field declarations -/

/-- A declaration of fields as the grammar has it: with a type, with a name in each declarator, with
commas between the declarators and a semicolon at the end. Comments may stand anywhere. -/
structure IsFieldDeclaration (row : Cst) : Prop where
  type_mem : row.type ∈ ["field_declaration", "constant_declaration"]
  isSome_type : (row.field? "type").isSome = true
  isSome_name : ∀ d ∈ declarators row, (d.field? "name").isSome = true
  separators_eq : (row.children.filter fun c ↦ c.type ∈ [",", ";"]).map Cst.type
    = List.replicate ((declarators row).length - 1) "," ++ [";"]

namespace Shaper

variable (s : Shaper)

/-- The outlines of the value of a declarator: what stands below its expression, or below its array
initialiser. -/
def valueOutlines (value : Cst) : List Outline :=
  if value.type = "array_initializer" then (s.arrayInitializer value).children else s.convert value

/-- The declaration has a row of modifiers, and that is shaped to three outlines. -/
def HasThreeModifiers (row : Cst) : Prop :=
  ∃ m, (row.children.find? fun c ↦ c.type = "modifiers") = some m ∧
    (s.convertAll m.children).length = 3

variable {s}

theorem kind_modifiersOf (row : Cst) : (s.modifiersOf row).kind = .modifiers := by
  rw [modifiersOf]
  split
  · rfl
  · rfl

theorem length_children_modifiersOf_eq_three_iff (row : Cst) :
    (s.modifiersOf row).children.length = 3 ↔ s.HasThreeModifiers row := by
  rw [modifiersOf, HasThreeModifiers]
  cases row.children.find? fun c ↦ c.type = "modifiers" with
  | none =>
    refine iff_of_false (fun h ↦ ?_) ?_
    · cases h
    · rintro ⟨m, hm, -⟩
      cases hm
  | some m =>
    refine ⟨fun h ↦ ⟨m, rfl, h⟩, ?_⟩
    rintro ⟨m', hm', hlength⟩
    cases hm'
    exact hlength

/-- The initial expression of a declarator holds the outlines of the value and nothing else. -/
theorem children_initializer (d value : Cst) :
    ∃ initial, (s.initializer d value).children = [initial] ∧
      initial.children = s.valueOutlines value := by
  rw [initializer, valueOutlines]
  split
  · exact ⟨_, rfl, rfl⟩
  · exact ⟨_, rfl, rfl⟩

theorem separators_eq_map (row : Cst) :
    s.separators row = (row.children.filter fun c ↦ c.type ∈ [",", ";"]).map fun c ↦
      if c.type = "," then s.leaf .comma c else s.leaf .semi c := by
  rw [separators]
  induction row.children with
  | nil => rfl
  | cons c cs ih =>
    rw [List.filterMap_cons, List.filter_cons]
    by_cases hcomma : c.type = ","
    · rw [if_pos hcomma, ih, if_pos (by simp [hcomma]), List.map_cons, if_pos hcomma]
    · by_cases hsemi : c.type = ";"
      · rw [if_neg hcomma, if_pos hsemi, ih, if_pos (by simp [hsemi]), List.map_cons,
          if_neg hcomma]
      · rw [if_neg hcomma, if_neg hsemi, ih, if_neg (by simp [hcomma, hsemi])]

/-- The definitions of fields, one for each declarator and in their order. -/
theorem getElem?_field {row d : Cst} {i : Nat} (hd : (declarators row)[i]? = some d) :
    (s.field row)[i]? = some (s.variableDef row d (s.separators row)[i]?) := by
  rw [field, List.getElem?_map, List.getElem?_zipIdx, hd, Option.map_some, Option.map_some,
    Nat.zero_add]

theorem convertRow_eq_field {row : Cst}
    (h : row.type ∈ ["field_declaration", "constant_declaration"]) :
    s.convertRow row = s.field row := by
  have hconstruct : Construct.ofType row.type = .field := by
    rw [List.mem_cons, List.mem_singleton] at h
    obtain h | h := h
    · rw [h]
      rfl
    · rw [h]
      rfl
  rw [convertRow, hconstruct]

end Shaper

namespace IsFieldDeclaration

variable {s : Shaper} {row d : Cst} {i : Nat} (h : IsFieldDeclaration row)

include h

theorem map_kind_separators :
    (s.separators row).map Outline.kind
      = List.replicate ((declarators row).length - 1) .comma ++ [.semi] := by
  have hkind : (fun c : Cst ↦
      Outline.kind (if c.type = "," then s.leaf .comma c else s.leaf .semi c))
        = (fun type ↦ if type = "," then Kind.comma else Kind.semi) ∘ Cst.type := by
    funext c
    rw [Function.comp_apply]
    split
    · rfl
    · rfl
  rw [separators_eq_map, List.map_map]
  change List.map (fun c : Cst ↦
    Outline.kind (if c.type = "," then s.leaf .comma c else s.leaf .semi c)) _ = _
  rw [hkind, ← List.map_map, h.separators_eq, List.map_append, List.map_replicate]
  rfl

/-- The separator behind a declarator is a semicolon behind the last one, a comma behind others. -/
theorem exists_separator (hd : (declarators row)[i]? = some d) :
    ∃ separator, (s.separators row)[i]? = some separator ∧
      separator.kind = if i + 1 = (declarators row).length then Kind.semi else .comma := by
  obtain ⟨hi, -⟩ := List.getElem?_eq_some_iff.1 hd
  have hkinds : ((s.separators row).map Outline.kind)[i]?
      = (List.replicate ((declarators row).length - 1) Kind.comma ++ [Kind.semi])[i]? := by
    rw [h.map_kind_separators]
  rw [List.getElem?_map] at hkinds
  by_cases hlast : i + 1 = (declarators row).length
  · rw [List.getElem?_append_right (by rw [List.length_replicate]; omega), List.length_replicate,
      show i - ((declarators row).length - 1) = 0 by omega] at hkinds
    obtain ⟨separator, hseparator, hkind⟩ := Option.map_eq_some_iff.1 hkinds
    exact ⟨separator, hseparator, by rw [hkind, if_pos hlast]⟩
  · rw [List.getElem?_append_left (by rw [List.length_replicate]; omega),
      List.getElem?_replicate_of_lt (by omega)] at hkinds
    obtain ⟨separator, hseparator, hkind⟩ := Option.map_eq_some_iff.1 hkinds
    exact ⟨separator, hseparator, by rw [hkind, if_neg hlast]⟩

end IsFieldDeclaration

/-! ## Definitions in a tree -/

section

variable {t : Tree} {s : Shaper} {row d type name : Cst} {separator : Outline} {k : Nat}
  (htype : row.field? "type" = some type) (hname : d.field? "name" = some name)

include htype hname

theorem Shaper.children_variableDef :
    (s.variableDef row d (some separator)).children
      = [s.modifiersOf row, s.typeSpec type (d.field? "dimensions"), s.leaf .ident name]
        ++ (d.field? "value").toList.map (s.initializer d) ++ [separator] := by
  rw [variableDef, htype, hname]
  rfl

variable (hk : t.outline k = s.variableDef row d (some separator))

include hk

/-- A definition without a value is no constant, because an assignment is missing. -/
theorem constant?_eq_none_of_no_value (hvalue : d.field? "value" = none) :
    t.constant? k = none := by
  refine Tree.constant?_eq_none_of_length_ne ?_
  have hlength := t.length_children_outline k
  rw [hk, children_variableDef htype hname, hvalue] at hlength
  rw [← Tree.childCount, ← hlength]
  exact (by decide : 4 ≠ 5)

/-- A definition with a value is a constant if its modifiers and its separator are right and the
value has a first token. -/
theorem constant?_eq_some_iff_of_value {value : Cst} (hvalue : d.field? "value" = some value) :
    ∃ ident assign initial, (t.children k)[2]? = some ident ∧ (t.children k)[3]? = some assign ∧
      t.children assign = [initial] ∧
      (t.children initial).map t.outline = s.valueOutlines value ∧
      ∀ p, t.constant? k = some p ↔ p.1 = ident ∧ s.HasThreeModifiers row ∧
        separator.kind = .semi ∧ (t.children initial).head? = some p.2 := by
  have hchildren := t.children_outline k
  rw [hk, children_variableDef htype hname, hvalue] at hchildren
  -- The node has five children, which unfold to the parts of the definition.
  have hparts : (t.children k).map t.outline = [s.modifiersOf row,
      s.typeSpec type (d.field? "dimensions"), s.leaf .ident name, s.initializer d value,
      separator] := hchildren.symm
  simp only [List.map_eq_cons_iff, List.map_eq_nil_iff] at hparts
  obtain ⟨modifiers, _, hnodes, hmodifiers, type', _, rfl, htype', ident, _, rfl, hident, assign, _,
    rfl, hassign, semi, _, rfl, hsemi, rfl⟩ := hparts
  obtain ⟨o, hinitial, ho⟩ := s.children_initializer d value
  rw [← hassign, Tree.children_outline] at hinitial
  obtain ⟨initial, hsole, rfl⟩ := List.map_eq_singleton_iff.1 hinitial
  rw [Tree.children_outline] at ho
  refine ⟨ident, assign, initial, by rw [hnodes]; rfl, by rw [hnodes]; rfl, hsole, ho,
    fun p ↦ ?_⟩
  have hkind : t.kind k = Kind.variableDef := by
    rw [← t.kind_outline, hk]
    rfl
  have hkinds : t.kind modifiers = Kind.modifiers ∧ t.kind type' = Kind.type ∧
      t.kind ident = Kind.ident ∧ t.kind assign = Kind.assign ∧ t.kind semi = separator.kind := by
    rw [← t.kind_outline, ← t.kind_outline, ← t.kind_outline, ← t.kind_outline, ← t.kind_outline,
      hmodifiers, htype', hident, hassign, hsemi, kind_modifiersOf]
    exact ⟨rfl, rfl, rfl, rfl, rfl⟩
  have hthree : t.childCount modifiers = 3 ↔ s.HasThreeModifiers row := by
    rw [← t.length_children_outline, hmodifiers, length_children_modifiersOf_eq_three_iff]
  obtain ⟨hk₁, hk₂, hk₃, hk₄, hk₅⟩ := hkinds
  obtain ⟨x, literal⟩ := p
  rw [Tree.constant?_eq_some_iff, Tree.DeclaresConstant, ← Tree.initializerToken_eq_head? hsole]
  constructor
  · rintro ⟨-, m, ty, as, se, hfive, -, hcount, -, -, -, hsemi', htoken⟩
    rw [hnodes] at hfive
    cases hfive
    exact ⟨rfl, hthree.1 hcount, hk₅.symm.trans hsemi', htoken⟩
  · rintro ⟨rfl, hcount, hsemi', htoken⟩
    exact ⟨hkind, modifiers, type', assign, semi, hnodes, hk₁, hthree.2 hcount, hk₂, hk₃, hk₄,
      hk₅.trans hsemi', htoken⟩

end

namespace IsFieldDeclaration

variable {t : Tree} {s : Shaper} {row d : Cst} {i k : Nat} (h : IsFieldDeclaration row)
  (hd : (declarators row)[i]? = some d)
  (hk : t.outline k = s.variableDef row d (s.separators row)[i]?)

include h hd hk

theorem constant?_eq_none_of_no_value (hvalue : d.field? "value" = none) :
    t.constant? k = none := by
  obtain ⟨type, htype⟩ := Option.isSome_iff_exists.1 h.isSome_type
  obtain ⟨name, hname⟩ := Option.isSome_iff_exists.1 (h.isSome_name d (List.mem_of_getElem? hd))
  obtain ⟨separator, hseparator, -⟩ := h.exists_separator (s := s) hd
  rw [hseparator] at hk
  exact Java.constant?_eq_none_of_no_value htype hname hk hvalue

/-- The definition of a declarator with a value is a constant if the declarator is the last one, the
declaration has three modifiers and the value has a first token. -/
theorem constant?_eq_some_iff_of_value {value : Cst} (hvalue : d.field? "value" = some value) :
    ∃ ident assign initial, (t.children k)[2]? = some ident ∧ (t.children k)[3]? = some assign ∧
      t.children assign = [initial] ∧
      (t.children initial).map t.outline = s.valueOutlines value ∧
      ∀ p, t.constant? k = some p ↔ p.1 = ident ∧ s.HasThreeModifiers row ∧
        i + 1 = (declarators row).length ∧ (t.children initial).head? = some p.2 := by
  obtain ⟨type, htype⟩ := Option.isSome_iff_exists.1 h.isSome_type
  obtain ⟨name, hname⟩ := Option.isSome_iff_exists.1 (h.isSome_name d (List.mem_of_getElem? hd))
  obtain ⟨separator, hseparator, hkind⟩ := h.exists_separator (s := s) hd
  rw [hseparator] at hk
  have hsemi : separator.kind = .semi ↔ i + 1 = (declarators row).length := by
    rw [hkind]
    split_ifs with hlast
    · exact iff_of_true rfl hlast
    · exact iff_of_false (by decide) hlast
  rw [← hsemi]
  exact Java.constant?_eq_some_iff_of_value htype hname hk hvalue

end IsFieldDeclaration

/-! ## Main result -/

/-- The outline is the definition of the declarator in place `i` of `n`. -/
structure Shaper.Defines (s : Shaper) (n i : Nat) (d : Cst) (v : Outline) : Prop where
  kind_eq : v.kind = .variableDef
  map_kind_children : v.children.map Outline.kind = [.modifiers, .type, .ident]
    ++ (if (d.field? "value").isSome then [.assign] else [])
    ++ [if i + 1 = n then .semi else .comma]
  name : ∃ name ∈ d.field? "name", v.children[2]? = some (s.leaf .ident name)

theorem IsFieldDeclaration.defines {s : Shaper} {row d : Cst} {i : Nat}
    (h : IsFieldDeclaration row) (hd : (declarators row)[i]? = some d) :
    s.Defines (declarators row).length i d (s.variableDef row d (s.separators row)[i]?) := by
  obtain ⟨type, htype⟩ := Option.isSome_iff_exists.1 h.isSome_type
  obtain ⟨name, hname⟩ := Option.isSome_iff_exists.1 (h.isSome_name d (List.mem_of_getElem? hd))
  obtain ⟨separator, hseparator, hkind⟩ := h.exists_separator (s := s) hd
  rw [hseparator]
  have hchildren : (s.variableDef row d (some separator)).children = _ :=
    children_variableDef htype hname
  refine ⟨rfl, ?_, name, hname, ?_⟩
  · rw [hchildren, List.map_append, List.map_append, List.map_singleton, hkind, List.map_cons,
      kind_modifiersOf]
    cases d.field? "value" with
    | none => rfl
    | some value => rfl
  · rw [hchildren]
    rfl

/-- **Which fields are constants.** A field declaration becomes one definition for each declarator,
in their order: modifiers, type, name, an assignment if there is a value, and a comma or, at the
end, a semicolon. Wherever the definition stands in a tree, recognition takes it for a constant
exactly when it is the last one, the first modifiers of the declaration are three, and its value is
not shaped to nothing. The constant is bound from the node of its name to the first node of its
value. -/
theorem constants_of_isFieldDeclaration (s : Shaper) {row : Cst} (h : IsFieldDeclaration row) :
    let n := (declarators row).length
    (s.convertRow row).length = n ∧
    ∀ i d, (declarators row)[i]? = some d →
      ∃ v, (s.convertRow row)[i]? = some v ∧ s.Defines n i d v ∧
        ∀ os k b, (subtreesAll os)[k]? = some v →
          let t := Tree.ofOutlines os
          let declares := i + 1 = n ∧ s.HasThreeModifiers row ∧
            ∃ value ∈ d.field? "value", s.valueOutlines value ≠ []
          ((t.bindConstant k b).1 = true ↔ declares) ∧
          (declares → ∃ ident assign initial literal,
            (t.children k)[2]? = some ident ∧ (t.children k)[3]? = some assign ∧
            t.children assign = [initial] ∧
            (∀ value ∈ d.field? "value",
              (t.children initial).map t.outline = s.valueOutlines value) ∧
            (t.children initial).head? = some literal ∧
            t.bindConstant k b = (true, b.insert ident literal)) := by
  intro n
  rw [convertRow_eq_field h.type_mem]
  refine ⟨by rw [field, List.length_map, List.length_zipIdx], fun i d hd ↦ ?_⟩
  refine ⟨_, getElem?_field hd, h.defines hd, fun os k b hk ↦ ?_⟩
  intro t declares
  have hk : t.outline k = _ := Tree.outline_of_getElem?_subtreesAll hk
  rw [Tree.fst_bindConstant_eq_true_iff]
  cases hvalue : d.field? "value" with
  | none =>
    have hdeclares : ¬ declares := by
      rintro ⟨-, -, value, hmem, -⟩
      rw [hvalue] at hmem
      cases hmem
    refine ⟨iff_of_false ?_ hdeclares, fun h ↦ absurd h hdeclares⟩
    rintro ⟨p, hp⟩
    rw [h.constant?_eq_none_of_no_value hd hk hvalue] at hp
    cases hp
  | some value =>
    obtain ⟨ident, assign, initial, hident, hassign, hinitial, houtlines, hiff⟩ :=
      h.constant?_eq_some_iff_of_value hd hk hvalue
    have hvalues : ∀ value' ∈ d.field? "value",
        (t.children initial).map t.outline = s.valueOutlines value' := by
      intro value' hmem
      cases hvalue.symm.trans hmem
      exact houtlines
    have hdeclares : declares ↔ ∃ literal, t.constant? k = some (ident, literal) := by
      constructor
      · rintro ⟨hlast, hthree, value', hmem, hne⟩
        obtain ⟨literal, hliteral⟩ := (Tree.exists_head?_children_iff (hvalues value' hmem)).2 hne
        exact ⟨literal, (hiff (ident, literal)).2 ⟨rfl, hthree, hlast, hliteral⟩⟩
      · rintro ⟨literal, hconstant⟩
        obtain ⟨-, hthree, hlast, hliteral⟩ := (hiff (ident, literal)).1 hconstant
        exact ⟨hlast, hthree, value, hvalue,
          (Tree.exists_head?_children_iff houtlines).1 ⟨literal, hliteral⟩⟩
    rw [← hvalue]
    refine ⟨?_, fun hd ↦ ?_⟩
    · rw [hdeclares]
      refine ⟨fun ⟨p, hp⟩ ↦ ⟨p.2, ?_⟩, fun ⟨literal, hliteral⟩ ↦ ⟨_, hliteral⟩⟩
      rw [hp, ← ((hiff p).1 hp).1]
    · obtain ⟨literal, hconstant⟩ := hdeclares.1 hd
      exact ⟨ident, assign, initial, literal, hident, hassign, hinitial, hvalues,
        ((hiff _).1 hconstant).2.2.2, Tree.bindConstant_of_eq_some hconstant b⟩

/-- The source `public static final int A,/**/B=10;`. -/
def twoFieldsSource : SourceText := .ofBytes "public static final int A,/**/B=10;".toUTF8

/-- A declaration of two fields, with a comment between them and a value for the second one. -/
def twoFields : Cst :=
  ⟨"field_declaration", 0, 35, true, false, none,
    [⟨"modifiers", 0, 19, true, false, none,
      [⟨"public", 0, 6, false, false, none, []⟩, ⟨"static", 7, 13, false, false, none, []⟩,
        ⟨"final", 14, 19, false, false, none, []⟩]⟩,
      ⟨"integral_type", 20, 23, true, false, some "type",
        [⟨"int", 20, 23, false, false, none, []⟩]⟩,
      ⟨"variable_declarator", 24, 25, true, false, some "declarator",
        [⟨"identifier", 24, 25, true, false, some "name", []⟩]⟩,
      ⟨",", 25, 26, false, false, none, []⟩, ⟨"block_comment", 26, 30, true, false, none, []⟩,
      ⟨"variable_declarator", 30, 34, true, false, some "declarator",
        [⟨"identifier", 30, 31, true, false, some "name", []⟩,
          ⟨"=", 31, 32, false, false, none, []⟩,
          ⟨"decimal_integer_literal", 32, 34, true, false, some "value", []⟩]⟩,
      ⟨";", 34, 35, false, false, none, []⟩]⟩

/-- The second field is a constant, bound from its name to its value. -/
theorem constants_of_twoFields :
    IsFieldDeclaration twoFields ∧
    ∃ v, ((shaper twoFieldsSource 2).convertRow twoFields)[1]? = some v ∧
      ∃ ident literal,
        ((Tree.ofOutlines [v]).children 0)[2]? = some ident ∧
        (Tree.ofOutlines [v]).bindConstant 0 ∅ = (true, (∅ : Bindings).insert ident literal) := by
  have hfields : IsFieldDeclaration twoFields := ⟨by decide, by decide, by decide, by decide⟩
  obtain ⟨v, hv, -, hconstant⟩ :=
    (constants_of_isFieldDeclaration (shaper twoFieldsSource 2) hfields).2 1 _ rfl
  have hfirst : (subtreesAll [v])[0]? = some v := by
    rw [subtreesAll, subtrees_eq]
    rfl
  obtain ⟨ident, -, -, literal, hident, -, -, -, -, hbind⟩ := (hconstant [v] 0 ∅ hfirst).2
    ⟨rfl, ⟨_, rfl, rfl⟩, _, rfl, List.cons_ne_nil _ _⟩
  exact ⟨hfields, v, hv, ident, literal, hident, hbind⟩

end Java

end LintMark

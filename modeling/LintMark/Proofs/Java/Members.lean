import LintMark.Proofs.Java.Blocks

/-!
# Members of types and groups of a switch

Besides blocks, the bodies of types and the groups of a switch are lists of statements or members.
`IsTypeBody` and `IsSwitchGroup` say how the grammar has them. In the body of a type all signs
become separators, and no member becomes a sign. In a group of a switch the colon behind a label
becomes a leaf that is no separator, so the members of a group are labels, colons and statements
(`members_of_isSwitchGroup`).
-/

namespace LintMark.Java

open Cst Outline Shaper

/-! ## Members of types -/

/-- The types of members of types that have no rule of their own. -/
def plainMembers : List String :=
  ["static_initializer", "compact_constructor_declaration", "enum_constant",
    "annotation_type_element_declaration"]

/-- A member of a type as the grammar has it. -/
inductive IsMember (row : Cst) : Prop
  | field (htype : row.type ∈ ["field_declaration", "constant_declaration"])
  | method (htype : row.type = "method_declaration")
  | constructor (htype : row.type = "constructor_declaration")
  | typeDeclaration (htype : row.type ∈ Construct.typeDeclarations.map Prod.fst)
  | initializer (htype : row.type = "block")
  | plain (htype : row.type ∈ plainMembers) (hchildren : row.children ≠ [])

/-- Something in the body of a type: a comment, a sign or a member. -/
def IsBodyPart (source : SourceText) (row : Cst) : Prop :=
  row.isComment = true ∨ (row.type ∈ separatorSigns ∧ IsSign source row) ∨ IsMember row

/-- The body of a type as the grammar has it. In an enumeration, the members behind the constants
stand in a row of their own. -/
structure IsTypeBody (source : SourceText) (row : Cst) : Prop where
  children : ∀ c ∈ row.children, IsBodyPart source c ∨
    c.type = "enum_body_declarations" ∧ ∀ d ∈ c.children, IsBodyPart source d

variable {s : Shaper} {row : Cst} {o : Outline}

/-- No outline of a member is a sign. -/
theorem IsMember.kind_notMem_signKinds (h : IsMember row) (ho : o ∈ s.convertRow row) :
    o.kind ∉ signKinds := by
  cases h with
  | field htype =>
    have hconstruct : ∀ type ∈ ["field_declaration", "constant_declaration"],
        Construct.ofType type = .field := by decide
    rw [convertRow, hconstruct _ htype] at ho
    obtain ⟨⟨d, i⟩, -, rfl⟩ := List.mem_map.1 ho
    rw [kind_variableDef]
    decide
  | method htype =>
    rw [convertRow, htype] at ho
    obtain rfl : o = s.method row := List.mem_singleton.1 ho
    exact (by decide : Kind.methodDef ∉ signKinds)
  | constructor htype =>
    rw [convertRow, htype] at ho
    obtain rfl : o = s.constructor row := List.mem_singleton.1 ho
    exact (by decide : Kind.ctorDef ∉ signKinds)
  | typeDeclaration htype =>
    obtain ⟨kind, hkind, hconstruct⟩ := Construct.exists_ofType_typeDeclaration _ htype
    have hkinds : ∀ kind ∈ Kind.typeDeclarations, kind ∉ signKinds := by decide
    rw [convertRow, hconstruct] at ho
    obtain rfl : o = s.typeDeclaration kind row := List.mem_singleton.1 ho
    exact hkinds kind hkind
  | initializer htype =>
    rw [convertRow, htype] at ho
    obtain rfl : o = s.block row := List.mem_singleton.1 ho
    exact (by decide : Kind.slist ∉ signKinds)
  | plain htype hchildren =>
    have hplain : ∀ type ∈ plainMembers,
        Construct.ofType type = .generic ∧ kindOfType type ∉ signKinds := by decide
    obtain ⟨hconstruct, hkind⟩ := hplain _ htype
    rw [convertRow, hconstruct] at ho
    obtain rfl : o = s.generic row := List.mem_singleton.1 ho
    rwa [generic, if_neg (by rwa [List.isEmpty_iff]), kind_node]

/-! ## Groups of a switch -/

/-- A group of a switch as the grammar has it: labels, each with its colon, and then statements. -/
structure IsSwitchGroup (source : SourceText) (row : Cst) : Prop where
  exists_content : ∃ labels statements,
    row.content = labels.flatMap (fun p : Cst × Cst ↦ [p.1, p.2]) ++ statements ∧ labels ≠ [] ∧
    (∀ p ∈ labels, p.1.type = "switch_label" ∧ p.2.type = ":" ∧ IsSign source p.2) ∧
    ∀ c ∈ statements, IsStatement source c

theorem members_convertRow_of_switchLabel {c : Cst} (hc : c.type = "switch_label") :
    members (s.convertRow c) = [s.switchLabel c] ∧ (s.switchLabel c).kind ∉ signKinds := by
  have hconvert : s.convertRow c = [s.switchLabel c] := by
    rw [convertRow, hc]
    rfl
  have hkind : (s.switchLabel c).kind ∉ signKinds := by
    rw [switchLabel, kind_node]
    split_ifs
    · decide
    · decide
  rw [hconvert]
  exact ⟨members_cons_of_notMem (fun h ↦ hkind (separators_subset_signKinds h)) [], hkind⟩

theorem members_convertRow_of_colon {c : Cst} (hc : c.type = ":")
    (hsign : IsSign s.source c) : members (s.convertRow c) = [s.leaf .colon c] := by
  rw [convertRow_of_isSign hsign (by rw [hc]; rfl), hc]
  exact members_cons_of_notMem (by rw [kind_leaf]; decide) []

/-- The members of a group are its labels and their colons, and then those of its statements. -/
theorem members_of_isSwitchGroup {source : SourceText} (h : IsSwitchGroup source row) (n : Nat) :
    ∃ labels statements, labels ≠ [] ∧ (∀ p ∈ labels, p.1.type = "switch_label") ∧
      (∀ c ∈ statements, IsStatement source c) ∧
      row.content = labels.flatMap (fun p : Cst × Cst ↦ [p.1, p.2]) ++ statements ∧
      members ((shaper source (n + 1)).convertAll row.children)
        = labels.flatMap (fun p ↦
            [(shaper source n).switchLabel p.1, (shaper source n).leaf .colon p.2])
          ++ statements.flatMap fun c ↦ members ((shaper source n).convertRow c) := by
  obtain ⟨labels, statements, hcontent, hne, hlabels, hstatements⟩ := h.exists_content
  refine ⟨labels, statements, hne, fun p hp ↦ (hlabels p hp).1, hstatements, hcontent, ?_⟩
  have hcomments : members ((shaper source (n + 1)).convertAll row.children)
      = row.content.flatMap fun c ↦ members ((shaper source n).convertRow c) := by
    rw [convertAll, members_flatMap]
    refine (flatMap_filter_of_eq_nil fun c _ hc ↦ ?_).symm
    rw [Bool.not_eq_false'] at hc
    change members ((shaper source n).convertRow c) = []
    rw [convertRow_of_isComment hc]
    rfl
  have hpairs : ∀ p ∈ labels,
      [p.1, p.2].flatMap (fun c ↦ members ((shaper source n).convertRow c))
        = [(shaper source n).switchLabel p.1, (shaper source n).leaf .colon p.2] := by
    intro p hp
    obtain ⟨hlabel, hcolon, hsign⟩ := hlabels p hp
    rw [← source_shaper source n] at hsign
    rw [List.flatMap_cons, List.flatMap_singleton, (members_convertRow_of_switchLabel hlabel).1,
      members_convertRow_of_colon hcolon hsign, List.singleton_append]
  rw [hcomments, hcontent, List.flatMap_append, List.flatMap_assoc, List.flatMap_congr hpairs]

end LintMark.Java

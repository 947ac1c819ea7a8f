import LintMark.Java.Shape.Descent
import LintMark.Proofs.Java.Comments

/-!
# Rows that a rule looks at

The rule of a row reads its children, and now and then rows further down: the names in declarators,
the words in a list of modifiers, the closing brackets in dimensions. It does not look into a block
(`Near`). Of these rows it asks some for their outlines, and shaping a row goes down to all of them,
so each takes a level less than the row (`Asks`).

A rule may hand a row below on to another rule, which asks for the children of that row in turn
(`Within`). That counts no level more, since the row handed on fits into one level less itself.
-/

namespace LintMark

open Java

namespace Cst

mutual

/-- What stands below a row below a row stands below that row. -/
theorem mem_rows_trans : ∀ {row c d : Cst}, c ∈ row.rows → d ∈ c.rows → d ∈ row.rows
  | ⟨type, start, stop, named, missing, field, children⟩, c, d, hc, hd => by
    rw [rows] at hc
    obtain rfl | hc := List.mem_cons.1 hc
    · exact hd
    · rw [rows]
      exact List.mem_cons_of_mem _ (mem_rowsOfAll_trans children hc hd)

theorem mem_rowsOfAll_trans : ∀ (cs : List Cst) {c d : Cst}, c ∈ rowsOfAll cs → d ∈ c.rows →
    d ∈ rowsOfAll cs
  | e :: cs, c, d, hc, hd => by
    rw [rowsOfAll] at hc ⊢
    obtain hc | hc := List.mem_append.1 hc
    · exact List.mem_append_left _ (mem_rows_trans hc hd)
    · exact List.mem_append_right _ (mem_rowsOfAll_trans cs hc hd)

end

theorem mem_rowsOfAll_of_mem {cs : List Cst} {c d : Cst} (hc : c ∈ cs) (hd : d ∈ c.rows) :
    d ∈ rowsOfAll cs := by
  rw [rowsOfAll_eq_flatMap]
  exact List.mem_flatMap.2 ⟨c, hc, hd⟩

theorem mem_rows_of_mem {row c : Cst} (hc : c ∈ row.children) : c ∈ row.rows :=
  mem_rows_of_mem_children hc c.mem_rows_self

theorem mem_children_of_field? {row c : Cst} {field : String} (h : row.field? field = some c) :
    c ∈ row.children := List.mem_of_find?_eq_some h

theorem mem_children_of_mem_content {row c : Cst} (h : c ∈ row.content) : c ∈ row.children :=
  (List.mem_filter.1 h).1

/-! ## Rows nearby -/

/-- The rule of a row looks at the row itself and at its children, and further down where no block
is in between. It counts the closing brackets in the dimensions of a type, and reads the arguments
of a call, whatever rows stand in these fields. -/
inductive Near (row : Cst) : Cst → Prop
  | self : Near row row
  | child {c : Cst} (hc : c ∈ row.children) : Near row c
  | inside {c d : Cst} (hc : Near row c) (hconstruct : Construct.ofType c.type ≠ .block)
      (hd : d ∈ c.children) : Near row d
  | bracket {c d : Cst} (hc : Near row c) (hd : d ∈ c.children) (htype : d.type = "]") : Near row d
  | argument {c d : Cst} (hconstruct : Construct.ofType row.type = .methodCall)
      (hc : row.field? "arguments" = some c) (hd : d ∈ c.children) : Near row d

namespace Near

variable {row c d : Cst}

theorem of_field? {field : String} (h : row.field? field = some c) : Near row c :=
  child (mem_children_of_field? h)

theorem mem_rows (h : Near row c) : c ∈ row.rows := by
  induction h with
  | self => exact row.mem_rows_self
  | child hc => exact mem_rows_of_mem hc
  | inside _ _ hd ih => exact mem_rows_trans ih (mem_rows_of_mem hd)
  | bracket _ hd _ ih => exact mem_rows_trans ih (mem_rows_of_mem hd)
  | argument _ hc hd =>
    exact mem_rows_of_mem_children (mem_children_of_field? hc) (mem_rows_of_mem hd)

end Near

end Cst

namespace Java

open Cst

variable {row c d : Cst}

/-! ## Levels -/

theorem fitsInto_of_mem_shapedBelow {n : Nat} (h : fitsInto (n + 1) row = true)
    (hc : c ∈ shapedBelow row) : fitsInto n c = true := List.all_eq_true.1 h c hc

/-- What fits into some levels fits into more. -/
theorem fitsInto_succ {n : Nat} (h : fitsInto n row = true) : fitsInto (n + 1) row = true := by
  induction n generalizing row with
  | zero => cases h
  | succ n ih => exact List.all_eq_true.2 fun c hc ↦ ih (fitsInto_of_mem_shapedBelow h hc)

/-- Whether the rules of a construct look at all children of a row. -/
def Construct.asksAll : Construct → Bool
  | .comment | .leaf _ | .integer | .float | .primitiveType | .importDecl | .field | .localVariable
  | .methodCall | .arrayAccess | .arrayType | .enhancedFor | .keywordStatement => false
  | _ => true

theorem shapedBelow_of_asksAll (h : (Construct.ofType row.type).asksAll = true) :
    shapedBelow row = row.children := by
  rw [shapedBelow]
  cases hconstruct : Construct.ofType row.type with
  | comment | leaf | integer | float | primitiveType | importDecl | field | localVariable
  | methodCall | arrayAccess | arrayType | enhancedFor | keywordStatement =>
    rw [hconstruct] at h
    cases h
  | _ => rfl

/-- Parameters have no rule of their own. The rule of the list in which they stand shapes them. -/
theorem Construct.ofType_of_parameter {type : String}
    (h : type ∈ ["formal_parameter", "spread_parameter"]) : ofType type = .generic := by
  have htypes : ∀ type ∈ ["formal_parameter", "spread_parameter"], ofType type = .generic := by
    decide
  exact htypes type h

/-- What a type extends has no rule of its own. The rule of the type shapes it. -/
theorem Construct.ofType_of_extendsClause {type : String}
    (h : type ∈ ["superclass", "extends_interfaces"]) : ofType type = .generic := by
  have htypes : ∀ type ∈ ["superclass", "extends_interfaces"], ofType type = .generic := by decide
  exact htypes type h

/-- The constructs whose rows are handed on to other rules. -/
def handedOn : List Construct :=
  [.generic, .modifiers, .arguments, .arrayInitializer, .parenthesized]

theorem asksAll_of_mem_handedOn {construct : Construct} (h : construct ∈ handedOn) :
    construct.asksAll = true := by
  have hall : ∀ construct ∈ handedOn, construct.asksAll = true := by decide
  exact hall construct h

theorem mem_children_of_mem_inFields {fields : List String} (h : c ∈ inFields row fields) :
    c ∈ row.children := by
  obtain ⟨field, -, hfield⟩ := List.mem_filterMap.1 h
  exact mem_children_of_field? hfield

/-- The children of the modifiers of a row. -/
theorem modifierParts_of_find? (h : row.children.find? (fun c ↦ c.type = "modifiers") = some c) :
    modifierParts row = c.children := by rw [modifierParts, h]

theorem near_of_mem_modifierParts (h : c ∈ modifierParts row) : row.Near c := by
  rw [modifierParts] at h
  split at h
  · next d hd =>
    have htype : d.type = "modifiers" := by simpa using List.find?_some hd
    exact .inside (.child (List.mem_of_find?_eq_some hd)) (by rw [htype]; decide) h
  · cases h

theorem near_of_mem_inFields {fields : List String} (h : c ∈ inFields row fields) : row.Near c :=
  .child (mem_children_of_mem_inFields h)

/-- Shaping goes down to rows nearby. -/
theorem near_of_mem_shapedBelow (h : c ∈ shapedBelow row) : row.Near c := by
  rw [shapedBelow] at h
  cases hconstruct : Construct.ofType row.type with
  | comment | leaf | integer | float | primitiveType =>
    rw [hconstruct] at h
    cases h
  | importDecl =>
    rw [hconstruct] at h
    exact .child (List.mem_filter.1 h).1
  | field | localVariable =>
    rw [hconstruct] at h
    obtain ⟨d, hd, hc⟩ := List.mem_flatMap.1 h
    obtain ⟨hd, htype⟩ := List.mem_filter.1 hd
    obtain hc | hc := List.mem_append.1 hc
    · obtain hc | hc := List.mem_append.1 hc
      · exact near_of_mem_modifierParts hc
      · exact near_of_mem_inFields hc
    · refine .inside (.child hd) ?_ (mem_children_of_mem_inFields hc)
      rw [of_decide_eq_true htype]
      decide
  | methodCall =>
    rw [hconstruct] at h
    obtain hc | hc := List.mem_append.1 h
    · exact near_of_mem_inFields hc
    · obtain ⟨d, hd, hc⟩ := List.mem_flatMap.1 hc
      obtain ⟨field, hfield, hd⟩ := List.mem_filterMap.1 hd
      obtain rfl := List.mem_singleton.1 hfield
      exact .argument hconstruct hd hc
  | arrayAccess | arrayType =>
    rw [hconstruct] at h
    exact near_of_mem_inFields h
  | enhancedFor =>
    rw [hconstruct] at h
    obtain hc | hc := List.mem_append.1 h
    · exact near_of_mem_modifierParts hc
    · exact near_of_mem_inFields hc
  | keywordStatement =>
    rw [hconstruct] at h
    exact .child (mem_children_of_mem_content (List.mem_of_mem_tail h))
  | _ =>
    rw [hconstruct] at h
    exact .child h

/-! ## Rows that are asked -/

/-- The rule of a row asks for the outlines of another row: that one is nearby, and it fits into a
level less. -/
structure Asks (row c : Cst) : Prop where
  near : row.Near c
  fits : ∀ {n : Nat}, fitsInto (n + 1) row = true → fitsInto n c = true

namespace Asks

theorem of_mem_shapedBelow (hc : c ∈ shapedBelow row) : Asks row c :=
  ⟨near_of_mem_shapedBelow hc, fun h ↦ fitsInto_of_mem_shapedBelow h hc⟩

/-- A row that is asked may hand the question on to its children. -/
theorem child (hc : Asks row c) (hconstruct : Construct.ofType c.type ∈ handedOn)
    (hd : d ∈ c.children) : Asks row d where
  near := by
    refine hc.near.inside (fun hblock ↦ ?_) hd
    rw [hblock] at hconstruct
    exact absurd hconstruct (by decide)
  fits := by
    intro n h
    have hfits := hc.fits h
    cases n with
    | zero => cases hfits
    | succ n =>
      rw [← shapedBelow_of_asksAll (asksAll_of_mem_handedOn hconstruct)] at hd
      exact fitsInto_succ (fitsInto_of_mem_shapedBelow hfits hd)

end Asks

/-- The rule of a row hands another row on to a rule that asks for its children. -/
structure Within (row c : Cst) : Prop where
  near : row.Near c
  asks : ∀ d ∈ c.children, Asks row d

namespace Within

theorem self (h : (Construct.ofType row.type).asksAll = true) : Within row row :=
  ⟨.self, fun _ hd ↦ .of_mem_shapedBelow (shapedBelow_of_asksAll h ▸ hd)⟩

theorem of_asks (hc : Asks row c) (hconstruct : Construct.ofType c.type ∈ handedOn) :
    Within row c := ⟨hc.near, fun _ hd ↦ hc.child hconstruct hd⟩

/-- A child may be handed on once more. -/
theorem child (hc : Within row c) (hd : d ∈ c.children)
    (hconstruct : Construct.ofType d.type ∈ handedOn) : Within row d :=
  of_asks (hc.asks d hd) hconstruct

theorem field (hc : Within row c) {field : String} (h : c.field? field = some d) : Asks row d :=
  hc.asks d (mem_children_of_field? h)

/-- A declaration that asks for its children asks for the parts of its modifiers. -/
theorem modifierParts (hc : Within row c) : ∀ d ∈ modifierParts c, Asks row d := by
  intro d hd
  rw [Java.modifierParts] at hd
  split at hd
  · next m hm =>
    have htype : m.type = "modifiers" := by simpa using List.find?_some hm
    refine (hc.asks m (List.mem_of_find?_eq_some hm)).child ?_ hd
    rw [htype]
    decide
  · cases hd

end Within

end Java

end LintMark

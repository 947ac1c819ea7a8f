import LintMark.Proofs.Java.Comments.Descent
import LintMark.Proofs.Java.Origin.Source
import Mathlib.Tactic.MkIffOfInductiveProp

/-!
# Names that shaping keeps

Many rules put a row together from some of its children, and each of them could lose a name that
way. Two do: the rule of a call leaves out type arguments, and dimensions are reduced to their
brackets, so that the annotations between them are left out (`Cst.loses`). A name that stands in the
open, with no leaf around it and no lost row on the way to it, becomes a leaf with its text at its
place. The modules `LintMark.Proofs.Java.Names.*` show this rule by rule, and
`LintMark.Proofs.Java.Names.Source` follows the names down the levels.

## What the grammar contributes

A rule that skips signs skips no name, and a rule that selects children by their fields finds all
that matter in these fields. Both are properties of the rows of the grammar (`Cst.IsRegular`).
-/

namespace LintMark

open Java

namespace Cst

/-! ## Names in the open -/

/-- The types of names. -/
def nameTypes : List String := ["identifier", "type_identifier"]

/-- Whether the row becomes a single leaf, whatever stands below it. -/
def isLeaf (row : Cst) : Bool := (Construct.ofType row.type).leafKind?.isSome

/-- Whether nothing below the row is looked at. -/
def isAtomic (row : Cst) : Bool := row.children.isEmpty || row.isLeaf

/-- Whether the row is no name, and nothing below it is looked at. -/
def isMute (row : Cst) : Bool := row.type ∉ nameTypes && row.isAtomic

/-- The types of rows that are shaped without what stands between the brackets of dimensions. -/
def bareDimensions : List String :=
  ["array_type", "variable_declarator", "formal_parameter", "spread_parameter",
    "enhanced_for_statement", "method_declaration", "array_creation_expression"]

/-- Whether shaping a row loses the names in a child. -/
def loses (row c : Cst) : Bool :=
  (row.type = "method_invocation" && c.type = "type_arguments") ||
    (row.type ∈ bareDimensions && c.type = "dimensions")

/-- A row stands in the open in another one: there is no leaf around it, and no row on the way is
lost. -/
inductive Exposes : Cst → Cst → Prop
  | self {row : Cst} : Exposes row row
  | inside {row c d : Cst} (hleaf : row.isLeaf = false) (hc : c ∈ row.children)
      (hlost : row.loses c = false) (h : Exposes c d) : Exposes row d

/-! ## Rows of the grammar -/

/-- The types of signs and words that rules skip. -/
def skippedTypes : List String :=
  ["package", "extends", "implements", "new", "this", "super", "instanceof", "catch", "finally",
    "case", "default", "else", ".", "\x7b", "\x7d", "(", ")", ",", "[", "]", "?", "->", "::", "<",
    ">", "|", ";", "=", ":"]

/-- What rules select among the children of rows of some types. -/
structure Selection where
  /-- The types of the rows. -/
  rows : List String
  /-- The fields of the children that are selected. -/
  fields : List String
  /-- The types of other children that are selected. -/
  types : List String
deriving DecidableEq

/-- The types of the names of imports. -/
def importedTypes : List String := ["identifier", "scoped_identifier"]

/-- The types of the rows that become parameters. -/
def parameterTypes : List String := ["formal_parameter", "spread_parameter"]

namespace Selection

/-- The name of an import. -/
def importDecl : Selection := ⟨["import_declaration"], [], importedTypes⟩

/-- The parts of a declaration of variables. -/
def declaration : Selection :=
  ⟨["field_declaration", "constant_declaration", "local_variable_declaration"], ["type"],
    ["modifiers", "variable_declarator"]⟩

/-- The parts of a declarator. -/
def declarator : Selection := ⟨["variable_declarator"], ["name", "value"], []⟩

/-- The parts of a call. -/
def methodCall : Selection := ⟨["method_invocation"], ["object", "name", "arguments"], []⟩

/-- The parts of an access to an array. -/
def arrayAccess : Selection := ⟨["array_access"], ["array", "index"], []⟩

/-- The element type of an array. -/
def arrayType : Selection := ⟨["array_type"], ["element"], []⟩

/-- The parts of a loop over the elements of a collection. -/
def enhancedFor : Selection :=
  ⟨["enhanced_for_statement"], ["type", "name", "value", "body"], ["modifiers"]⟩

end Selection

/-- The rows that are shaped from some of their children. -/
def selections : List Selection :=
  [.importDecl, .declaration, .declarator, .methodCall, .arrayAccess, .arrayType, .enhancedFor]

/-- A row as the grammar has it, as far as its names go. -/
@[mk_iff]
structure IsRegular (row : Cst) : Prop where
  /-- Signs and words are no names, and nothing stands below them. -/
  sign : row.named = false ∨ row.type ∈ skippedTypes → row.isMute = true
  /-- No name stands in a comment, in a number or in a primitive type. -/
  hidden : Construct.ofType row.type ∈ [.comment, .integer, .float, .primitiveType] →
    ∀ c ∈ row.children, c.isMute = true
  /-- The modifiers of a declaration stand in one row. -/
  modifiers : (row.children.filter fun c ↦ c.type = "modifiers").length ≤ 1
  /-- An operator is a sign. -/
  operator : ∀ c ∈ row.field? "operator", c.isMute = true
  /-- The sign of an increment stands behind the operand unless it stands in front. -/
  update : Construct.ofType row.type = .update → ∀ first ∈ row.content.head?,
    first.named = true → ∀ last ∈ row.content.getLast?, last.isMute = true
  /-- A statement of a keyword starts with the keyword. -/
  keyword : Construct.ofType row.type = .keywordStatement →
    ∀ c ∈ row.content.head?, c.isMute = true
  /-- The first word of a clause is also its type. -/
  throws : row.type = "throws" → ∀ c ∈ row.children, c.type = "throws" → c.isMute = true
  /-- All names of a row that is shaped from some of its children stand in these, apart from those
  that are lost. -/
  selected : ∀ p ∈ selections, row.type ∈ p.rows →
    (∀ field ∈ p.fields, (row.children.filter fun c ↦ c.field = some field).length ≤ 1) ∧
    ∀ c ∈ row.children, c.isMute = true ∨ row.loses c = true ∨ c.type ∈ p.types ∨
      ∃ field ∈ p.fields, c.field = some field
  /-- The name of a variable or of a method is a single row. -/
  name : row.type ∈ ["variable_declarator", "method_invocation"] →
    ∀ c ∈ row.field? "name", c.isAtomic = true
  /-- The arguments of a call are a list. -/
  arguments : row.type = "method_invocation" →
    ∀ c ∈ row.field? "arguments", c.type = "argument_list"
  /-- An import has one name. -/
  imported : row.type = "import_declaration" →
    (row.children.filter fun c ↦ c.type ∈ importedTypes).length ≤ 1
  /-- A declaration of variables has a declarator. -/
  declared : Construct.ofType row.type ∈ [.field, .localVariable] → Shaper.declarators row ≠ []
  /-- A parameter has no value. -/
  parameter : row.type ∈ parameterTypes →
    ∀ d ∈ Shaper.declarators row, d.field? "value" = none
  /-- The head of a loop starts with a parenthesis. -/
  opening : row.type = "enhanced_for_statement" → ∃ c ∈ row.children, c.type = "("

set_option synthInstance.maxSize 256 in
instance (row : Cst) : Decidable row.IsRegular := decidable_of_iff _ (isRegular_iff row).symm

variable {row c d : Cst}

namespace Exposes

theorem mem_rows (h : row.Exposes d) : d ∈ row.rows := by
  induction h with
  | self => exact mem_rows_self _
  | inside _ hc _ _ ih => exact mem_rows_of_mem_children hc ih

theorem trans {e : Cst} (h : row.Exposes c) (hd : c.Exposes e) : row.Exposes e := by
  induction h with
  | self => exact hd
  | inside hleaf hc hlost _ ih => exact .inside hleaf hc hlost (ih hd)

/-- Nothing but the row itself stands in the open where nothing below it is looked at. -/
theorem eq_of_isAtomic (h : row.Exposes d) (hatomic : row.isAtomic = true) : d = row := by
  cases h with
  | self => rfl
  | inside hleaf hc =>
    rw [isAtomic, hleaf, Bool.or_false, List.isEmpty_iff] at hatomic
    rw [hatomic] at hc
    cases hc

theorem isMute_eq_false (h : row.Exposes d) (hd : d.type ∈ nameTypes) : row.isMute = false := by
  refine Bool.eq_false_iff.2 fun hmute ↦ ?_
  rw [isMute, Bool.and_eq_true, decide_eq_true_eq] at hmute
  rw [h.eq_of_isAtomic hmute.2] at hd
  exact hmute.1 hd

/-- A name in the open in a row of another type stands in the open in a child of the row. -/
theorem exists_child (h : row.Exposes d) (hd : d.type ∈ nameTypes) (hrow : row.type ∉ nameTypes) :
    ∃ c ∈ row.children, row.loses c = false ∧ c.Exposes d := by
  cases h with
  | self => exact absurd hd hrow
  | inside _ hc hlost h => exact ⟨_, hc, hlost, h⟩

end Exposes

theorem find?_eq_some_of_length_filter {α : Type} {xs : List α} {p : α → Bool} {x : α}
    (h : (xs.filter p).length ≤ 1) (hx : x ∈ xs) (hp : p x = true) : xs.find? p = some x := by
  have hmem : x ∈ xs.filter p := List.mem_filter.2 ⟨hx, hp⟩
  rw [← List.head?_filter]
  cases hfilter : xs.filter p with
  | nil =>
    rw [hfilter] at hmem
    cases hmem
  | cons y ys =>
    rw [hfilter] at h hmem
    have hys : ys = [] := List.length_eq_zero_iff.1 (Nat.le_zero.1 (Nat.le_of_succ_le_succ h))
    rw [hys, List.mem_singleton] at hmem
    rw [hmem, List.head?_cons]

/-- A name in the open in a row that is shaped from some of its children stands in one of these. -/
theorem IsRegular.selected_cases (h : row.IsRegular) {p : Selection} (hp : p ∈ selections)
    (hrow : row.type ∈ p.rows) (hc : c ∈ row.children) (hlost : row.loses c = false)
    (hmute : c.isMute = false) :
    c.type ∈ p.types ∨ ∃ field ∈ p.fields, row.field? field = some c := by
  obtain ⟨hunique, hchildren⟩ := h.selected p hp hrow
  obtain hc' | hc' | hc' | ⟨field, hfield, hc'⟩ := hchildren c hc
  · rw [hmute] at hc'
    cases hc'
  · rw [hlost] at hc'
    cases hc'
  · exact .inl hc'
  · exact .inr ⟨field, hfield,
      find?_eq_some_of_length_filter (hunique field hfield) hc (decide_eq_true hc')⟩

end Cst

namespace Java.Shaper

open Cst Outline

/-! ## Showing a name -/

/-- The leaf of a name is among the outlines, or below one of them. -/
def Shows (s : Shaper) (d : Cst) (os : List Outline) : Prop := s.leaf .ident d ∈ subtreesAll os

/-- The rows that the rule of a row asks for show a name wherever it stands in them in the open. -/
structure Keeps (s : Shaper) (row d : Cst) : Prop where
  isName : d.type ∈ nameTypes
  regular : ∀ c ∈ row.rows, c.IsRegular
  convert : ∀ {c : Cst}, Asks row c → c.Exposes d → s.Shows d (s.convert c)
  typeParts : ∀ {c : Cst}, Asks row c → c.Exposes d → s.Shows d (s.typeParts c)

namespace Shows

variable {s : Shaper} {d r : Cst} {o : Outline} {os os' : List Outline}

theorem leaf : s.Shows d [s.leaf .ident d] := by
  rw [Shows, subtreesAll, subtrees_eq]
  exact List.mem_cons_self

theorem of_subset (h : s.Shows d os) (hsubset : os ⊆ os') : s.Shows d os' := by
  rw [Shows, subtreesAll_eq_flatMap] at h ⊢
  obtain ⟨o, ho, h⟩ := List.mem_flatMap.1 h
  exact List.mem_flatMap.2 ⟨o, hsubset ho, h⟩

theorem left (h : s.Shows d os) : s.Shows d (os ++ os') :=
  h.of_subset (List.subset_append_left os os')

theorem right (h : s.Shows d os') : s.Shows d (os ++ os') :=
  h.of_subset (List.subset_append_right os os')

theorem head (h : s.Shows d [o]) : s.Shows d (o :: os) := left h

theorem tail (h : s.Shows d os) : s.Shows d (o :: os) := h.of_subset (List.subset_cons_self o os)

theorem of_children (h : s.Shows d o.children) : s.Shows d [o] := by
  rw [Shows, subtreesAll, subtrees_eq]
  exact List.mem_append_left _ (List.mem_cons_of_mem o h)

theorem node {kind : Kind} {text : String} (h : s.Shows d os) :
    s.Shows d [s.node kind r text os] := of_children h

/-- The name in the open in a row that nothing is seen below is that row. -/
theorem of_isAtomic {c : Cst} (hc : c.Exposes d) (hatomic : c.isAtomic = true) :
    s.Shows d [s.leaf .ident c] := by
  rw [← hc.eq_of_isAtomic hatomic]
  exact .leaf

theorem of_identifier {c : Cst} (hc : c.Exposes d) (htype : c.type = "identifier") :
    s.Shows d [s.leaf .ident c] := by
  refine of_isAtomic hc ?_
  rw [isAtomic, isLeaf, htype]
  exact Bool.or_true _

variable {α : Type} {xs : List α} {x : α}

theorem flatMap {f : α → List Outline} (hx : x ∈ xs) (h : s.Shows d (f x)) :
    s.Shows d (xs.flatMap f) :=
  h.of_subset fun _ ho ↦ List.mem_flatMap.2 ⟨x, hx, ho⟩

theorem map {f : α → Outline} (hx : x ∈ xs) (h : s.Shows d [f x]) : s.Shows d (xs.map f) := by
  rw [List.map_eq_flatMap]
  exact flatMap hx h

theorem convertAll {c : Cst} {cs : List Cst} (hc : c ∈ cs) (h : s.Shows d (s.convert c)) :
    s.Shows d (s.convertAll cs) := flatMap hc h

theorem expr {c : Cst} (h : s.Shows d (s.convert c)) : s.Shows d [s.expr c] := node h

/-- What goes around a type for each bracket leaves its names below. -/
theorem wrapBrackets (h : s.Shows d os) (rows : List Cst) : s.Shows d (s.wrapBrackets os rows) := by
  rw [Shaper.wrapBrackets]
  induction rows generalizing os with
  | nil => exact h
  | cons c rows ih =>
    rw [List.foldl_cons]
    refine ih ?_
    split
    · exact node (left h)
    · exact h

theorem wrapDimensions (h : s.Shows d os) (dimensions : Option Cst) :
    s.Shows d (s.wrapDimensions os dimensions) := by
  cases dimensions with
  | none => exact h
  | some c => exact wrapBrackets h c.children

theorem typeSpec {c : Cst} (h : s.Shows d (s.typeParts c)) (dimensions : Option Cst) :
    s.Shows d [s.typeSpec c dimensions] := node (wrapDimensions h dimensions)

end Shows

theorem exists_mem_zipIdx {α : Type} {xs : List α} {x : α} (hx : x ∈ xs) :
    ∃ i, (x, i) ∈ xs.zipIdx := by
  obtain ⟨i, hi⟩ := List.mem_iff_getElem?.1 hx
  exact ⟨i, List.mem_zipIdx_iff_getElem?.2 hi⟩

namespace Keeps

variable {s : Shaper} {row c d e : Cst} (h : s.Keeps row d)

include h

/-! ## Rows without names -/

theorem isMute_eq_false (he : e.Exposes d) : e.isMute = false := he.isMute_eq_false h.isName

theorem type_notMem (hnear : row.Near e) (he : e.Exposes d) : e.type ∉ skippedTypes := by
  intro htype
  have hmute := (h.regular e hnear.mem_rows).sign (.inr htype)
  rw [h.isMute_eq_false he] at hmute
  cases hmute

theorem type_ne {type : String} (hnear : row.Near e) (he : e.Exposes d)
    (htype : type ∈ skippedTypes) : ¬ e.type = type := fun heq ↦
  h.type_notMem hnear he (heq ▸ htype)

theorem not_skipped {types : List String} (hnear : row.Near e) (he : e.Exposes d)
    (htypes : types ⊆ skippedTypes) : e.type ∉ types := fun htype ↦
  h.type_notMem hnear he (htypes htype)

theorem named (hnear : row.Near e) (he : e.Exposes d) : e.named = true := by
  refine Bool.ne_false_iff.1 fun hnamed ↦ ?_
  have hmute := (h.regular e hnear.mem_rows).sign (.inl hnamed)
  rw [h.isMute_eq_false he] at hmute
  cases hmute

theorem exists_child (he : e.Exposes d) (htype : e.type ∉ nameTypes) :
    ∃ c ∈ e.children, e.loses c = false ∧ c.Exposes d := he.exists_child h.isName htype

/-- A name in a row that is shaped from some of its children stands in one of these. -/
theorem selected_cases {p : Selection} (hp : p ∈ selections) (hnear : row.Near e)
    (htype : e.type ∈ p.rows) (hc : c ∈ e.children) (hlost : e.loses c = false)
    (he : c.Exposes d) : c.type ∈ p.types ∨ ∃ field ∈ p.fields, e.field? field = some c :=
  (h.regular e hnear.mem_rows).selected_cases hp htype hc hlost (h.isMute_eq_false he)

/-- The same where children are selected by their fields alone. -/
theorem exists_selected {p : Selection} (hp : p ∈ selections) (htypes : p.types = [])
    (hnear : row.Near e) (htype : e.type ∈ p.rows) (hc : c ∈ e.children)
    (hlost : e.loses c = false) (he : c.Exposes d) :
    ∃ field ∈ p.fields, e.field? field = some c := by
  obtain hselected | hfield := h.selected_cases hp hnear htype hc hlost he
  · rw [htypes] at hselected
    cases hselected
  · exact hfield

/-- No name stands in a comment, in a number or in a primitive type. -/
theorem not_hidden (hnear : row.Near e) (he : e.Exposes d) :
    Construct.ofType e.type ∉ [.comment, .integer, .float, .primitiveType] := by
  intro hconstruct
  have htype : e.type ∉ nameTypes := by
    intro htype
    have hleaf : ∀ type ∈ nameTypes, Construct.ofType type ∉
        [Construct.comment, .integer, .float, .primitiveType] := by decide
    exact hleaf _ htype hconstruct
  obtain ⟨c, hc, -, hexposes⟩ := h.exists_child he htype
  have hmute := (h.regular e hnear.mem_rows).hidden hconstruct c hc
  rw [h.isMute_eq_false hexposes] at hmute
  cases hmute

theorem not_comment (hnear : row.Near e) (he : e.Exposes d) : ¬ e.isComment = true := by
  intro hcomment
  refine h.not_hidden hnear he ?_
  rw [Construct.ofType_of_isComment hcomment]
  exact List.mem_cons_self

theorem not_type_or_comment {type : String} (hnear : row.Near e) (he : e.Exposes d)
    (htype : type ∈ skippedTypes) : ¬ (e.type = type ∨ e.isComment = true) :=
  not_or.2 ⟨h.type_ne hnear he htype, h.not_comment hnear he⟩

theorem not_skipped_or_comment {types : List String} (hnear : row.Near e) (he : e.Exposes d)
    (htypes : types ⊆ skippedTypes) : ¬ (e.type ∈ types ∨ e.isComment = true) :=
  not_or.2 ⟨h.not_skipped hnear he htypes, h.not_comment hnear he⟩

theorem mem_content (hnear : row.Near e) (hc : e ∈ c.children) (he : e.Exposes d) :
    e ∈ c.content := by
  rw [content, List.mem_filter, Bool.eq_false_iff.2 (h.not_comment hnear he)]
  exact ⟨hc, rfl⟩

/-! ## Rules without a construct of their own -/

theorem expr (hc : Asks row c) (he : c.Exposes d) : s.Shows d [s.expr c] :=
  .expr (h.convert hc he)

theorem modifiers (hc : Within row c) (htype : c.type = "modifiers") (he : c.Exposes d) :
    s.Shows d [s.modifiers c] := by
  obtain ⟨e, hmem, -, he⟩ := h.exists_child he (by rw [htype]; decide)
  exact .node (.convertAll hmem (h.convert (hc.asks e hmem) he))

theorem find?_modifiers (hnear : row.Near c) (he : e ∈ c.children) (htype : e.type = "modifiers") :
    c.children.find? (fun c ↦ c.type = "modifiers") = some e :=
  find?_eq_some_of_length_filter (h.regular c hnear.mem_rows).modifiers he (decide_eq_true htype)

/-- The modifiers of a declaration keep their names. -/
theorem modifiersOf (hnear : row.Near c) (he : e ∈ c.children) (htype : e.type = "modifiers")
    (hwithin : Within row e) (hexposes : e.Exposes d) : s.Shows d [s.modifiersOf c] := by
  rw [Shaper.modifiersOf, h.find?_modifiers hnear he htype]
  exact h.modifiers hwithin htype hexposes

theorem modifiersOf_within (hc : Within row c) (he : e ∈ c.children) (htype : e.type = "modifiers")
    (hexposes : e.Exposes d) : s.Shows d [s.modifiersOf c] :=
  h.modifiersOf hc.near he htype (hc.child he (by rw [htype]; decide)) hexposes

theorem generic (hconstruct : Construct.ofType row.type = .generic) (hc : c ∈ row.children)
    (he : c.Exposes d) : s.Shows d [s.generic row] := by
  have hrow : Within row row := .self (by rw [hconstruct]; rfl)
  rw [Shaper.generic, if_neg]
  · exact .node (.convertAll hc (h.convert (hrow.asks c hc) he))
  · rw [List.isEmpty_iff]
    exact List.ne_nil_of_mem hc

/-! ## Types -/

theorem wildcard (hc : Within row c) (he : e ∈ c.children) (hexposes : e.Exposes d) :
    s.Shows d [s.wildcard c] := by
  have hasks := hc.asks e he
  refine .node (.flatMap he ?_)
  split_ifs with hsign hbound
  · exact absurd hsign (h.type_ne hasks.near hexposes (by decide))
  · exact absurd hbound (h.not_skipped hasks.near hexposes (by decide))
  · exact h.typeParts hasks hexposes

theorem typeArguments (hc : Within row c) (he : e ∈ c.children) (hexposes : e.Exposes d) :
    s.Shows d [s.typeArguments c] := by
  have hasks := hc.asks e he
  refine .node (.flatMap he ?_)
  split_ifs with hopening hclosing hcomma hwildcard hcomment
  · exact absurd hopening (h.type_ne hasks.near hexposes (by decide))
  · exact absurd hclosing (h.type_ne hasks.near hexposes (by decide))
  · exact absurd hcomma (h.type_ne hasks.near hexposes (by decide))
  · have hwithin : Within row e := hc.child he (by rw [hwildcard]; decide)
    obtain ⟨f, hf, -, hexposes⟩ := h.exists_child hexposes (by rw [hwildcard]; decide)
    exact .node (h.wildcard hwithin hf hexposes)
  · exact absurd hcomment (h.not_comment hasks.near hexposes)
  · exact .node (h.typeParts hasks hexposes)

variable (hrow : Within row row) (hc : c ∈ row.children) (he : c.Exposes d)

section Types

include hrow hc he

theorem scopedType : s.Shows d (s.scopedType row) := by
  have hasks := hrow.asks c hc
  exact .node (.convertAll (List.mem_filter.2
    ⟨hc, decide_eq_true (h.type_ne hasks.near he (by decide))⟩) (h.convert hasks he))

theorem genericType : s.Shows d (s.genericType row) := by
  refine .flatMap hc ?_
  split_ifs with htype
  · have hwithin : Within row c := hrow.child hc (by rw [htype]; decide)
    obtain ⟨e, hmem, -, hexposes⟩ := h.exists_child he (by rw [htype]; decide)
    exact h.typeArguments hwithin hmem hexposes
  · exact h.convert (hrow.asks c hc) he

end Types

/-- The element type of an array is all that its dimensions go around. -/
theorem arrayType (htype : row.type = "array_type") (hc : c ∈ row.children)
    (hlost : row.loses c = false) (he : c.Exposes d)
    (hasks : ∀ c ∈ row.field? "element", Asks row c) : s.Shows d (s.arrayType row) := by
  refine .wrapDimensions ?_ _
  obtain ⟨field, hfield, hc⟩ := h.exists_selected (p := .arrayType) (by decide) rfl .self
    (by rw [htype]; decide) hc hlost he
  rw [List.mem_singleton.1 hfield] at hc
  rw [hc]
  exact h.typeParts (hasks c hc) he

end Keeps

end Java.Shaper

end LintMark

import LintMark.Fingerprint.Canonical
import LintMark.Proofs.Java.Formatting.Source
import LintMark.Proofs.Java.Levels

/-!
# Array dimensions

The dimensions of an array may stand behind the element type and behind the name, as in
`int[] a[]`. Wherever they stand, each closing bracket puts one array declarator around the parts of
the element type, so apart from places a type is determined by its element type and the number of
brackets (`Shaper.typeSpec_eq_wrapped`), and so is what it adds to a canonical string
(`Shaper.canonical_typeSpec`).

## Two inductions

The brackets of one row of dimensions are folded from left to right, and each wraps what the ones in
front of it have made (`Shaper.unplacedAll_wrapDimensions`). The rows of dimensions in front of the
name stand in array types around array types, which are shaped from the inside outwards
(`ArrayOf.unplacedAll_typePartsOf`). In both inductions the levels of wrapping add up
(`Outline.wrapped_wrapped`).
-/

namespace LintMark

namespace Outline

/-! ## Wrapped forests -/

/-- A forest inside a number of array declarators. In each, a closing bracket stands behind what the
declarator holds. -/
def wrapped : Nat → List Outline → List Outline
  | 0, os => os
  | n + 1, os =>
    [.node ⟨.arrayDeclarator, "[", 0, 0⟩ (wrapped n os ++ [.node ⟨.rbrack, "]", 0, 0⟩ []])]

theorem wrapped_wrapped (n m : Nat) (os : List Outline) :
    wrapped m (wrapped n os) = wrapped (n + m) os := by
  induction m with
  | zero => rfl
  | succ m ih => rw [wrapped, ih, ← Nat.add_assoc, wrapped]

/-- The texts of a forest, in document order. -/
def texts (os : List Outline) : List String := (subtreesAll os).map fun o ↦ o.token.text

theorem texts_cons (o : Outline) (os : List Outline) :
    texts (o :: os) = o.token.text :: (texts o.children ++ texts os) := by
  rw [texts, subtreesAll, subtrees_eq, List.cons_append, List.map_cons, List.map_append, texts,
    texts]

theorem texts_append (os ps : List Outline) : texts (os ++ ps) = texts os ++ texts ps := by
  rw [texts, subtreesAll_eq_flatMap, List.flatMap_append, List.map_append, texts, texts,
    subtreesAll_eq_flatMap, subtreesAll_eq_flatMap]

mutual

theorem texts_unplaced : (o : Outline) → texts o.unplaced.children = texts o.children
  | node _ children => by
    rw [unplaced]
    exact texts_unplacedAll children

theorem texts_unplacedAll : (os : List Outline) → texts (unplacedAll os) = texts os
  | [] => rfl
  | node token children :: os => by
    rw [unplacedAll, texts_cons, texts_unplaced, texts_unplacedAll os, texts_cons]
    rfl

end

/-- The texts of a wrapped forest stand between as many opening as closing brackets. -/
theorem texts_wrapped (n : Nat) (os : List Outline) :
    texts (wrapped n os) = List.replicate n "[" ++ texts os ++ List.replicate n "]" := by
  induction n with
  | zero => rw [wrapped, List.replicate_zero, List.replicate_zero, List.nil_append, List.append_nil]
  | succ n ih =>
    calc texts (wrapped (n + 1) os)
        = "[" :: (texts (wrapped n os) ++ ["]"]) := by
          rw [wrapped, texts_cons, children, texts_append]
          exact congrArg (List.cons _) (List.append_nil _)
      _ = List.replicate (n + 1) "[" ++ texts os ++ List.replicate (n + 1) "]" := by
          rw [ih, List.replicate_succ, List.replicate_succ' (a := "]"), List.cons_append,
            List.cons_append, List.append_assoc, List.append_assoc]

end Outline

/-- A node of the kind of a type gives the texts of all that stands below it. -/
theorem Tree.nodeTokens_of_type (t : Tree) {i : Nat} (h : t.kind i = .type)
    (bound : List (String × Nat)) :
    t.nodeTokens bound i = Outline.texts (t.outline i).children := by
  rw [nodeTokens, if_pos h, ← List.map_flatMap, children, flatMap_descendants_chain]
  change _ = (Outline.subtreesAll (t.outlines (t.node i).firstChild)).map _
  rw [← map_outline_pre, List.map_map]
  rfl

namespace Java

open Cst hiding unplaced unplacedAll
open Outline

/-! ## Brackets -/

/-- The closing brackets of a row of dimensions. There are none if there is no such row. -/
def closingBrackets (dimensions : Option Cst) : List Cst :=
  dimensions.elim [] fun row ↦ row.children.filter fun c ↦ c.type = "]"

/-- The row is an array type around the row of its element type, or around an array type around it,
and so on. The number counts the closing brackets in between, of which none is missing. Annotations
and comments may stand among them. An element type is an array of itself, without brackets. -/
inductive ArrayOf (source : SourceText) (element : Cst) : Nat → Cst → Prop
  | element : ArrayOf source element 0 element
  | array {n : Nat} {row inner : Cst} (htype : row.type = "array_type")
      (hinner : row.field? "element" = some inner) (hof : ArrayOf source element n inner)
      (hbrackets : ∀ c ∈ closingBrackets (row.field? "dimensions"), c.text source = "]") :
      ArrayOf source element (n + (closingBrackets (row.field? "dimensions")).length) row

namespace Shaper

variable {s : Shaper}

/-- An array declarator around some parts, which stands at its closing bracket. -/
def bracketed (s : Shaper) (parts : List Outline) (bracket : Cst) : List Outline :=
  [s.node .arrayDeclarator bracket "[" (parts ++ [s.leaf .rbrack bracket])]

/-- Whatever else stands in a row of dimensions, its closing brackets wrap one after the other. -/
theorem wrapDimensions_eq_foldl (parts : List Outline) (dimensions : Option Cst) :
    s.wrapDimensions parts dimensions = (closingBrackets dimensions).foldl s.bracketed parts := by
  cases dimensions with
  | none => rfl
  | some row =>
    rw [closingBrackets, Option.elim_some, List.foldl_filter, wrapDimensions, wrapBrackets]
    simp only [decide_eq_true_eq]
    rfl

/-- Every closing bracket that is not missing wraps what stands in front of it. -/
theorem unplacedAll_wrapDimensions {dimensions : Option Cst}
    (hbrackets : ∀ c ∈ closingBrackets dimensions, c.text s.source = "]") (parts : List Outline) :
    unplacedAll (s.wrapDimensions parts dimensions)
      = wrapped (closingBrackets dimensions).length (unplacedAll parts) := by
  rw [wrapDimensions_eq_foldl]
  generalize closingBrackets dimensions = brackets at hbrackets ⊢
  induction brackets generalizing parts with
  | nil => rfl
  | cons c brackets ih =>
    obtain ⟨hc, hbrackets⟩ := List.forall_mem_cons.1 hbrackets
    have hlevel : unplacedAll (s.bracketed parts c) = wrapped 1 (unplacedAll parts) := by
      rw [bracketed, unplacedAll_cons, node, Outline.unplaced, unplacedAll_append, leaf, text, hc]
      rfl
    rw [List.foldl_cons, ih _ hbrackets, hlevel, wrapped_wrapped, List.length_cons, Nat.add_comm]

end Shaper

variable {source : SourceText} {element row : Cst} {n m count : Nat}

/-- An array type is spelled out by the parts of its element type, wrapped once for each bracket. -/
theorem ArrayOf.unplacedAll_typePartsOf (h : ArrayOf source element count row)
    (hrow : fitsInto n row = true) (helement : fitsInto m element = true) :
    unplacedAll ((shaper source n).typePartsOf row)
      = wrapped count (unplacedAll ((shaper source m).typePartsOf element)) := by
  induction h generalizing n with
  | element => rw [(convertRow_shaper_eq hrow helement).2, wrapped]
  | @array count row inner htype hinner _ hbrackets ih =>
    cases n with
    | zero => cases hrow
    | succ n =>
      have hbelow : fitsInto n inner = true := by
        refine fitsInto_of_mem_shapedBelow hrow ?_
        rw [shapedBelow, htype]
        exact List.mem_filterMap.2 ⟨"element", List.mem_singleton_self _, hinner⟩
      have hparts : (shaper source (n + 1)).typePartsOf row
          = (shaper source (n + 1)).wrapDimensions ((shaper source n).typePartsOf inner)
              (row.field? "dimensions") := by
        rw [Shaper.typePartsOf, if_neg (by rw [htype]; decide), Shaper.convertRow, htype]
        change (shaper source (n + 1)).arrayType row = _
        rw [Shaper.arrayType, hinner]
        rfl
      rw [hparts, Shaper.unplacedAll_wrapDimensions (by rwa [source_shaper]), ih hbelow,
        wrapped_wrapped]

/-! ## Main result -/

/-- **Dimensions count the same wherever they are written.** Let a row be an array type around an
element type, or the element type itself, with a row of dimensions behind the name. The node of the
type holds the parts of the element type, wrapped once for each closing bracket in either place, and
in a canonical string it gives as many opening brackets, the texts of these parts, and as many
closing brackets. Apart from places, nothing else of the rows matters. -/
theorem typeSpec_eq_wrapped (h : ArrayOf source element count row) {dimensions : Option Cst}
    (hbrackets : ∀ c ∈ closingBrackets dimensions, c.text source = "]")
    (hrow : fitsInto n row = true) (helement : fitsInto m element = true) :
    let total := count + (closingBrackets dimensions).length
    let parts := (shaper source m).typePartsOf element
    let type := (shaper source (n + 1)).typeSpec row dimensions
    type.unplaced = .node ⟨.type, "", 0, 0⟩ (wrapped total (unplacedAll parts)) ∧
    ∀ (t : Tree) (i : Nat), t.outline i = type →
      ∀ (front back : List Nat) (b : Bindings) (name : Option String),
        t.canonical (front ++ i :: back) b name
          = spell (t.tokens front b ++
              (List.replicate total "[" ++ texts parts ++ List.replicate total "]") ++
              t.tokens back b) name := by
  intro total parts type
  have htype : type.unplaced = .node ⟨.type, "", 0, 0⟩ (wrapped total (unplacedAll parts)) := by
    change Outline.node _ (unplacedAll (Shaper.wrapDimensions _ _ _)) = _
    rw [Shaper.unplacedAll_wrapDimensions (by rwa [source_shaper])]
    change Outline.node _ (wrapped _ (unplacedAll ((shaper source n).typePartsOf row))) = _
    rw [h.unplacedAll_typePartsOf hrow helement, wrapped_wrapped]
  refine ⟨htype, fun t i hi front back b name ↦ ?_⟩
  have htokens : t.nodeTokens (t.boundNames b) i
      = List.replicate total "[" ++ texts parts ++ List.replicate total "]" := by
    have hkind : t.kind i = .type := by
      rw [← t.kind_outline, hi]
      rfl
    have htexts : texts type.children = texts (wrapped total (unplacedAll parts)) := by
      rw [← texts_unplaced, htype, Outline.children]
    rw [t.nodeTokens_of_type hkind, hi, htexts, texts_wrapped, texts_unplacedAll]
  rw [Tree.canonical, Tree.tokens, List.flatMap_append, List.flatMap_cons, htokens,
    List.append_assoc _ _ (t.tokens back b)]
  rfl

/-! ## Brackets in both places -/

/-- The declaration `int[] a[]`. -/
def bracketsSource : SourceText := .ofBytes "int[] a[]".toUTF8

/-- The element type. -/
def intRow : Cst :=
  ⟨"integral_type", 0, 3, true, false, some "element", [⟨"int", 0, 3, false, false, none, []⟩]⟩

/-- A row of dimensions with one pair of brackets. -/
def bracketPair (start : Nat) : Cst :=
  ⟨"dimensions", start, start + 2, true, false, some "dimensions",
    [⟨"[", start, start + 1, false, false, none, []⟩,
      ⟨"]", start + 1, start + 2, false, false, none, []⟩]⟩

/-- The type in front of the name. -/
def intArrayRow : Cst :=
  ⟨"array_type", 0, 5, true, false, some "type", [intRow, bracketPair 3]⟩

/-- The type of `a` is wrapped twice, and its text stands between two pairs of brackets. -/
theorem typeSpec_intArrayRow :
    ArrayOf bracketsSource intRow 1 intArrayRow ∧
    (∀ c ∈ closingBrackets (some (bracketPair 7)), c.text bracketsSource = "]") ∧
    fitsInto 2 intArrayRow = true ∧ fitsInto 1 intRow = true ∧
    let parts := (shaper bracketsSource 1).typePartsOf intRow
    let type := (shaper bracketsSource 3).typeSpec intArrayRow (some (bracketPair 7))
    type.unplaced = .node ⟨.type, "", 0, 0⟩ (wrapped 2 (unplacedAll parts)) ∧
    ∀ b, (Tree.ofOutlines [type]).canonical [0] b none
      = spell ["[", "[", "int", "]", "]"] none := by
  have hinner : ∀ c ∈ closingBrackets (intArrayRow.field? "dimensions"),
      c.text bracketsSource = "]" := by decide +kernel
  have harray : ArrayOf bracketsSource intRow 1 intArrayRow := .array rfl rfl .element hinner
  have hbrackets : ∀ c ∈ closingBrackets (some (bracketPair 7)), c.text bracketsSource = "]" := by
    decide +kernel
  have hfits : fitsInto 2 intArrayRow = true ∧ fitsInto 1 intRow = true := by decide
  have htexts : texts ((shaper bracketsSource 1).typePartsOf intRow) = ["int"] := by
    change [intRow.text bracketsSource] = ["int"]
    decide +kernel
  obtain ⟨htype, hcanonical⟩ := typeSpec_eq_wrapped harray hbrackets hfits.1 hfits.2
  rw [htexts] at hcanonical
  refine ⟨harray, hbrackets, hfits.1, hfits.2, htype, fun b ↦ ?_⟩
  exact hcanonical _ 0 (Tree.outline_of_getElem?_subtreesAll rfl) [] [] b none

end Java

end LintMark

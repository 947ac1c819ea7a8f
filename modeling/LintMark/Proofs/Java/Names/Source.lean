import LintMark.Proofs.Java.Names.Statements
import LintMark.Proofs.Window.Neighbours

/-!
# Names in a tree

Every rule keeps the names of the rows that it asks for, so a name in the open keeps its leaf on the
way up through the levels. A tree of a file that the grammar reads has a leaf for each of its names
(`Reading.exists_leaf_of_exposes`), apart from the type arguments of calls and the annotations in
dimensions. Constructor calls, method references and the creation of objects keep their type
arguments, so that the loss of the first is one of the rule of calls alone
(`Reading.typeArgument_lost`).
-/

namespace LintMark

open Java Cst Outline Shaper

namespace Java.Shaper

variable {source : SourceText} {s : Shaper} {row d : Cst}

namespace Keeps

variable (h : s.Keeps row d)

include h

/-! ## One level -/

/-- The rule of a row keeps the names that stand in the row in the open. -/
theorem convertRow (hsingle : ∀ c, c.type ∈ importedTypes → (s.convert c).length ≤ 1)
    (he : row.Exposes d) : s.Shows d (s.convertRow row) := by
  by_cases hleaf : row.isLeaf = true
  · -- Nothing is seen below a leaf, so the row is the name itself.
    have hkinds : ∀ type ∈ nameTypes, Construct.ofType type = .leaf .ident := by decide
    obtain rfl := he.eq_of_isAtomic (by rw [isAtomic, hleaf, Bool.or_true])
    rw [Shaper.convertRow, hkinds _ h.isName]
    exact .leaf
  have hrowName : row.type ∉ nameTypes := by
    have hkinds : ∀ type ∈ nameTypes, (Construct.ofType type).leafKind?.isSome = true := by decide
    exact fun htype ↦ hleaf (hkinds _ htype)
  obtain ⟨c, hc, hlost, he'⟩ := h.exists_child he hrowName
  have hhidden := h.not_hidden .self he
  have hrow : ∀ {construct}, Construct.ofType row.type = construct → construct.asksAll = true →
      Within row row := fun h hasks ↦ .self (by rwa [h])
  have htype : ∀ {construct : Construct} {type : String},
      Construct.ofType row.type = construct →
      (construct ≠ .generic ∧ ∀ p ∈ Construct.table, p.2 = construct → p.1 ∈ [type]) →
      row.type = type :=
    fun h htable ↦ List.mem_singleton.1 (Construct.type_mem_of_ofType h htable)
  rw [Shaper.convertRow]
  cases hconstruct : Construct.ofType row.type with
  | comment | integer | float | primitiveType =>
    rw [hconstruct] at hhidden
    exact absurd (by decide) hhidden
  | leaf kind =>
    rw [isLeaf, hconstruct] at hleaf
    exact absurd rfl hleaf
  | importDecl => exact h.importDecl (htype hconstruct (by decide)) hsingle hc hlost he'
  | field => exact h.field (by rw [hconstruct]; decide) hc hlost he'
  | localVariable => exact h.localVariable (by rw [hconstruct]; decide) hc hlost he'
  | keywordStatement => exact h.keywordStatement hconstruct hc he'
  | enhancedFor => exact h.enhancedFor (htype hconstruct (by decide)) hc hlost he'
  | methodCall => exact h.methodCall (htype hconstruct (by decide)) hc hlost he'
  | arrayAccess => exact h.arrayAccess hc he' (htype hconstruct (by decide)) hlost
  | arrayType =>
    refine h.arrayType (htype hconstruct (by decide)) hc hlost he' fun e he ↦ ?_
    refine .of_mem_shapedBelow ?_
    rw [shapedBelow, hconstruct]
    exact List.mem_filterMap.2 ⟨"element", List.mem_singleton_self _, he⟩
  | generic => exact h.generic hconstruct hc he'
  | program => exact h.program (hrow hconstruct rfl) hc he'
  | package => exact h.package (hrow hconstruct rfl) hc he'
  | typeDeclaration kind => exact h.typeDeclaration (hrow hconstruct rfl) hc he' kind
  | typeBody => exact h.typeBody (hrow hconstruct rfl) hc he'
  | modifiers =>
    exact .of_children (.convertAll hc (h.convert ((hrow hconstruct rfl).asks c hc) he'))
  | method =>
    exact h.method (hrow hconstruct rfl) (htype hconstruct (by decide)) hc hlost he'
  | constructor => exact h.constructor (hrow hconstruct rfl) hc he'
  | parameters => exact h.parameters (hrow hconstruct rfl) hc he'
  | block => exact h.block (hrow hconstruct rfl) hc he'
  | expressionStatement => exact h.expressionStatement (hrow hconstruct rfl) hc he'
  | catchClause => exact h.catchClause (hrow hconstruct rfl) hc he'
  | finallyClause => exact h.finallyClause (hrow hconstruct rfl) hc he'
  | switchLabel => exact h.switchLabel (hrow hconstruct rfl) hc he'
  | arguments => exact h.arguments (hrow hconstruct rfl) hc he' true
  | objectCreation => exact h.objectCreation (hrow hconstruct rfl) hc he'
  | arrayCreation =>
    exact h.arrayCreation (hrow hconstruct rfl) hc he' hlost (htype hconstruct (by decide))
  | arrayInitializer => exact h.arrayInitializer (hrow hconstruct rfl) hc he'
  | binary | assignment => exact h.operation (hrow hconstruct rfl) hc he'
  | unary => exact h.unary (hrow hconstruct rfl) hc he'
  | update => exact h.update (hrow hconstruct rfl) hc he' hconstruct
  | parenthesized => exact h.parenthesized (hrow hconstruct rfl) hc he' false
  | dotted | ternary | lambda | methodReference =>
    exact h.withoutSigns (hrow hconstruct rfl) hc he' (by decide)
  | cast => exact h.cast (hrow hconstruct rfl) hc he'
  | instanceOf => exact h.instanceOf (hrow hconstruct rfl) hc he'
  | constructorCall => exact h.constructorCall (hrow hconstruct rfl) hc he'
  | scopedType => exact h.scopedType (hrow hconstruct rfl) hc he'
  | genericType => exact h.genericType (hrow hconstruct rfl) hc he'
  | dissolved | annotatedType =>
    exact .convertAll hc (h.convert ((hrow hconstruct rfl).asks c hc) he')

theorem typePartsOf (hsingle : ∀ c, c.type ∈ importedTypes → (s.convert c).length ≤ 1)
    (he : row.Exposes d) : s.Shows d (s.typePartsOf row) := by
  rw [Shaper.typePartsOf]
  split_ifs with htype
  · obtain ⟨c, hc, -, he⟩ := h.exists_child he (by rw [htype]; decide)
    exact h.typeArguments (.self (by rw [htype]; rfl)) hc he
  · exact h.convertRow hsingle he

end Keeps

/-! ## All levels -/

theorem length_convert_importedTypes (n : Nat) {c : Cst} (htype : c.type ∈ importedTypes) :
    ((shaper source n).convert c).length ≤ 1 := by
  have hconstructs : ∀ type ∈ importedTypes,
      Construct.ofType type ∈ [.leaf .ident, .dotted, .generic] := by decide
  exact length_convert_shaper_le n (hconstructs _ htype)

theorem Shows.of_source_eq {s' : Shaper} {os : List Outline} (h : s.Shows d os)
    (hsource : s.source = s'.source) : s'.Shows d os := by
  have hleaf : s'.leaf .ident d = s.leaf .ident d := by
    rw [Shaper.leaf, Shaper.leaf, Shaper.node, Shaper.node, Shaper.text, Shaper.text, hsource]
  rwa [Shows, hleaf]

/-- The induction is on the levels: the rows that a rule asks for fit into one level less, and there
they keep their names. -/
theorem keeps_shaper (n : Nat) (hname : d.type ∈ nameTypes)
    (hregular : ∀ c ∈ row.rows, c.IsRegular) (hfits : fitsInto n row = true) :
    (shaper source n).Keeps row d := by
  induction n generalizing row with
  | zero => cases hfits
  | succ n ih =>
    have hsource : (shaper source n).source = (shaper source (n + 1)).source := by
      rw [source_shaper, source_shaper]
    have hbelow : ∀ {c : Cst}, Asks row c → (shaper source n).Keeps c d := fun hc ↦
      ih (fun e he ↦ hregular e (mem_rows_trans hc.near.mem_rows he)) (hc.fits hfits)
    refine ⟨hname, hregular, fun {c} hc he ↦ ?_, fun {c} hc he ↦ ?_⟩
    · exact ((hbelow hc).convertRow (fun _ ↦ length_convert_importedTypes n) he).of_source_eq
        hsource
    · exact ((hbelow hc).typePartsOf (fun _ ↦ length_convert_importedTypes n) he).of_source_eq
        hsource

end Java.Shaper

namespace Reading

variable {r : Reading} {path : Text} {strict : Bool} {t : Tree} {d : Cst}

/-- **The names of a tree.** A name that stands in the open in what the grammar has read is a leaf
of the tree, with its text at its line and its column. -/
theorem exists_leaf_of_exposes (hregular : ∀ row ∈ r.root.rows, row.IsRegular)
    (ht : r.tree path strict = .ok t) (hname : d.type ∈ nameTypes) (hd : r.root.Exposes d) :
    ∃ i < t.size, t.outline i = .node ⟨.ident, d.text r.source, r.source.line d.start,
      r.source.column d.start⟩ [] := by
  obtain ⟨hfits, rfl⟩ := fitsInto_and_eq_of_tree ht
  have hkeeps : (shaper r.source nestingLimit).Keeps r.root d :=
    keeps_shaper nestingLimit hname hregular hfits
  have hshows := hkeeps.convertRow (fun _ ↦ length_convert_importedTypes nestingLimit) hd
  rw [Shows, ← Tree.map_outline_range] at hshows
  obtain ⟨i, hi, houtline⟩ := List.mem_map.1 hshows
  rw [Shaper.leaf, Shaper.node, Shaper.text, source_shaper] at houtline
  exact ⟨i, List.mem_range.1 hi, houtline⟩

/-! ## A call with type arguments -/

/-- The call `this.<String>f()`, with the type on a line of its own, as it stands in
`explicitCall`. -/
def explicitCallRow : Cst :=
  ⟨"method_invocation", 21, 39, true, false, none,
    [⟨"this", 21, 25, true, false, some "object", []⟩,
      ⟨".", 25, 26, false, false, none, []⟩,
      ⟨"type_arguments", 26, 36, true, false, some "type_arguments",
        [⟨"<", 26, 27, false, false, none, []⟩,
          ⟨"type_identifier", 28, 34, true, false, none, []⟩,
          ⟨">", 35, 36, false, false, none, []⟩]⟩,
      ⟨"identifier", 36, 37, true, false, some "name", []⟩,
      ⟨"argument_list", 37, 39, true, false, some "arguments",
        [⟨"(", 37, 38, false, false, none, []⟩,
          ⟨")", 38, 39, false, false, none, []⟩]⟩]⟩

/-- A class with a method that calls another one and names the type of the call. -/
def explicitCall : Reading where
  source := .ofBytes ("class A \x7b\nvoid m() \x7b\nthis.<\nString\n>f();\n\x7d\n\x7d\n").toUTF8
  root :=
    ⟨"program", 0, 45, true, false, none,
      [⟨"class_declaration", 0, 44, true, false, none,
        [⟨"class", 0, 5, false, false, none, []⟩,
          ⟨"identifier", 6, 7, true, false, some "name", []⟩,
          ⟨"class_body", 8, 44, true, false, some "body",
            [⟨"\x7b", 8, 9, false, false, none, []⟩,
              ⟨"method_declaration", 10, 42, true, false, none,
                [⟨"void_type", 10, 14, true, false, some "type", []⟩,
                  ⟨"identifier", 15, 16, true, false, some "name", []⟩,
                  ⟨"formal_parameters", 16, 18, true, false, some "parameters",
                    [⟨"(", 16, 17, false, false, none, []⟩,
                      ⟨")", 17, 18, false, false, none, []⟩]⟩,
                  ⟨"block", 19, 42, true, false, some "body",
                    [⟨"\x7b", 19, 20, false, false, none, []⟩,
                      ⟨"expression_statement", 21, 40, true, false, none,
                        [explicitCallRow, ⟨";", 39, 40, false, false, none, []⟩]⟩,
                      ⟨"\x7d", 41, 42, false, false, none, []⟩]⟩]⟩,
              ⟨"\x7d", 43, 44, false, false, none, []⟩]⟩]⟩]⟩
  flagged := false

/-- The tree of the class. -/
def explicitCallTree : Tree :=
  .ofOutlines ((shaper explicitCall.source nestingLimit).convertRow explicitCall.root)

theorem tree_explicitCall : explicitCall.tree "A.java" true = .ok explicitCallTree := by rfl

theorem isRegular_explicitCall : ∀ row ∈ explicitCall.root.rows, row.IsRegular := by
  decide +kernel

/-- The call stands in the statement of the method. -/
theorem exposes_explicitCallRow : explicitCall.root.Exposes explicitCallRow :=
  .inside rfl (.head _) rfl <| .inside rfl (.tail _ (.tail _ (.head _))) rfl <|
    .inside rfl (.tail _ (.head _)) rfl <|
      .inside rfl (.tail _ (.tail _ (.tail _ (.head _)))) rfl <|
        .inside rfl (.tail _ (.head _)) rfl <| .inside rfl (.head _) rfl .self

/-- The name of the method that is called has a leaf, on the line behind the type. -/
theorem exists_leaf_explicitCall :
    (∀ row ∈ explicitCall.root.rows, row.IsRegular) ∧
    explicitCall.tree "A.java" true = .ok explicitCallTree ∧
    ∃ d : Cst, d.type ∈ nameTypes ∧ explicitCall.root.Exposes d ∧
      ∃ i < explicitCallTree.size, explicitCallTree.outline i = .node ⟨.ident, "f", 5, 1⟩ [] := by
  have hd : explicitCall.root.Exposes ⟨"identifier", 36, 37, true, false, some "name", []⟩ :=
    exposes_explicitCallRow.trans <|
      .inside rfl (.tail _ (.tail _ (.tail _ (.head _)))) rfl .self
  obtain ⟨i, hi, houtline⟩ := exists_leaf_of_exposes isRegular_explicitCall tree_explicitCall
    (by decide) hd
  refine ⟨isRegular_explicitCall, tree_explicitCall, _, by decide, hd, i, hi, ?_⟩
  rw [houtline]
  congr 1
  decide +kernel

/-- No leaf stands inside another one in the class, but the tree has no leaf for the type. -/
theorem typeArgument_lost :
    explicitCall.hasFault = false ∧
    explicitCall.tree "A.java" true = .ok explicitCallTree ∧
    (∃ d ∈ explicitCall.root.rows, d.type = "type_identifier" ∧
      d.text explicitCall.source = "String") ∧
    (∀ row ∈ explicitCall.root.rows, row.isLeaf = true → row.children = []) ∧
    ∀ i < explicitCallTree.size,
      explicitCallTree.kind i = .ident → explicitCallTree.text i ≠ "String" :=
  ⟨by decide +kernel, tree_explicitCall, by decide +kernel, by decide +kernel, by decide +kernel⟩

end Reading

end LintMark

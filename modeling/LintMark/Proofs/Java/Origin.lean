import LintMark.Java.Shape
import LintMark.Proofs.Java.Reach
import LintMark.Proofs.Syntax.Subtrees
import LintMark.Window.Selection

/-!
# Where nodes come from

Windows and recognition look for declarations and for the lists of statements and members. Each node
of such a kind is made by one rule, for one row (`Shaper.Makes`), and a row without a rule of its
own can make one if its type spells the kind out.

Every outline that a rule gives stems from its row (`Shaper.Stems`): the rule made it, at the place
of a row that it looks at, above outlines that stem from the row as well, or it is one of the
outlines of a row that the rule asks for. There is one lemma for each rule in the modules
`LintMark.Proofs.Java.Origin.*`, and `LintMark.Proofs.Java.Origin.Source` follows the outlines of
the rows below down the levels.
-/

namespace LintMark

namespace Kind

/-- The kinds that windows and recognition look for. -/
def structural : List Kind :=
  statementContainers ++ typeDeclarations ++ methodDeclarations ++ [variableDef, parameterDef]

/-- A keyword is no declaration and no list of statements. -/
theorem keyword_notMem_structural (word : String) : keyword word ∉ structural := by
  have hstructural : ∀ kind ∈ structural, kind.name.toList.take 2 ≠ ['L', 'I'] := by decide
  intro hmem
  refine hstructural _ hmem ?_
  rw [keyword, String.toList_append]
  rfl

end Kind

/-- The outline stands at the start of the row. -/
def Outline.At (o : Outline) (source : SourceText) (row : Cst) : Prop :=
  o.token.line = source.line row.start ∧ o.token.column = source.column row.start

namespace Java.Shaper

open Cst Outline

/-- The rule of a row makes an outline: a declaration, a list of statements or of members, a node of
a kind of no such use, or the node of a row without a rule of its own. -/
inductive Makes (s : Shaper) (row : Cst) : Outline → Prop
  | other {o : Outline} (hkind : o.kind ∉ Kind.structural) : Makes s row o
  | generic (hconstruct : Construct.ofType row.type = .generic) : Makes s row (s.generic row)
  | typeDeclaration (kind : Kind) (hconstruct : Construct.ofType row.type = .typeDeclaration kind) :
      Makes s row (s.typeDeclaration kind row)
  | typeBody (hconstruct : Construct.ofType row.type = .typeBody) : Makes s row (s.typeBody row)
  | block (hconstruct : Construct.ofType row.type = .block) : Makes s row (s.block row)
  | method (hconstruct : Construct.ofType row.type = .method) : Makes s row (s.method row)
  | constructor (hconstruct : Construct.ofType row.type = .constructor) :
      Makes s row (s.constructor row)
  | variableDef (d : Cst) (hd : d ∈ declarators row) (terminator : Option Outline)
      (hconstruct : Construct.ofType row.type ∈ [.field, .localVariable]) :
      Makes s row (s.variableDef row d terminator)
  | loopVariable (hconstruct : Construct.ofType row.type = .enhancedFor) :
      Makes s row (s.node .variableDef row "" (s.modifiersOf row ::
        (row.field? "type").toList.map (fun c ↦ s.typeSpec c (row.field? "dimensions"))
          ++ (row.field? "name").toList.flatMap s.convert))
  | parameter {c : Cst} (hc : Within row c)
      (htype : c.type ∈ ["formal_parameter", "spread_parameter"]) :
      Makes s row (s.parameter c)
  | catchParameter {c : Cst} (hc : Within row c) (htype : c.type = "catch_formal_parameter") :
      Makes s row (s.catchParameter c)

/-- The outline stands where a row nearby starts. Only the node of the whole file stands at the
start of the file, wherever its row starts. -/
def Placed (s : Shaper) (row : Cst) (o : Outline) : Prop :=
  o.token = ⟨.compilationUnit, "", 1, 0⟩ ∨ ∃ p, row.Near p ∧ o.At s.source p

/-- The outline stems from the row: the rule of the row makes it, above others that stem from the
row, or a row that the rule asks is said to have it. -/
inductive Stems (s : Shaper) (row : Cst) : Outline → Prop
  | own {o : Outline} (hmakes : s.Makes row o) (hplace : s.Placed row o)
      (hbelow : ∀ p ∈ o.children, Stems s row p) : Stems s row o
  | asked {c : Cst} {o : Outline} (hc : Asks row c) (ho : o ∈ s.convert c ∨ o ∈ s.typeParts c) :
      Stems s row o

/-- Each of the outlines stems from the row. -/
def Accounts (s : Shaper) (row : Cst) (os : List Outline) : Prop := ∀ o ∈ os, s.Stems row o

namespace Accounts

variable {s : Shaper} {row c : Cst} {os os' : List Outline}

/-! ## Lists of outlines -/

theorem nil : Accounts s row [] := fun _ ho ↦ by cases ho

theorem append (hos : Accounts s row os) (hos' : Accounts s row os') :
    Accounts s row (os ++ os') := List.forall_mem_append.2 ⟨hos, hos'⟩

theorem cons {o : Outline} (ho : Accounts s row [o]) (hos : Accounts s row os) :
    Accounts s row (o :: os) := append ho hos

theorem of_subset (h : Accounts s row os) (hsubset : os' ⊆ os) : Accounts s row os' :=
  fun o ho ↦ h o (hsubset ho)

variable {α : Type} {xs : List α}

theorem flatMap {f : α → List Outline} (h : ∀ x ∈ xs, Accounts s row (f x)) :
    Accounts s row (xs.flatMap f) := by
  intro o ho
  obtain ⟨x, hx, ho⟩ := List.mem_flatMap.1 ho
  exact h x hx o ho

theorem map {f : α → Outline} (h : ∀ x ∈ xs, Accounts s row [f x]) :
    Accounts s row (xs.map f) := by
  rw [List.map_eq_flatMap]
  exact flatMap h

/-- An outline that the row makes, at the place of a row nearby and above outlines that stem from
the row. -/
theorem of_makes {o : Outline} {p : Cst} (ho : s.Makes row o) (hp : row.Near p)
    (hplace : o.At s.source p) (hos : Accounts s row o.children) : Accounts s row [o] := by
  intro q hq
  obtain rfl := List.mem_singleton.1 hq
  exact .own ho (.inr ⟨p, hp, hplace⟩) hos

/-- A node of a kind of no use stands for nothing but itself. -/
theorem node {kind : Kind} (hkind : kind ∉ Kind.structural) {r : Cst} (hr : row.Near r)
    (hos : Accounts s row os) (text : String) : Accounts s row [s.node kind r text os] :=
  of_makes (.other hkind) hr ⟨rfl, rfl⟩ hos

theorem leaf {kind : Kind} (hkind : kind ∉ Kind.structural) {r : Cst} (hr : row.Near r) :
    Accounts s row [s.leaf kind r] := node hkind hr nil _

theorem mapLeaf {kind : Kind} (hkind : kind ∉ Kind.structural) {rs : List Cst}
    (hrs : ∀ r ∈ rs, row.Near r) : Accounts s row (rs.map (s.leaf kind)) :=
  map fun r hr ↦ leaf hkind (hrs r hr)

/-! ## Rows below -/

theorem convert (hc : Asks row c) : Accounts s row (s.convert c) := fun _ ho ↦ .asked hc (.inl ho)

theorem typeParts (hc : Asks row c) : Accounts s row (s.typeParts c) :=
  fun _ ho ↦ .asked hc (.inr ho)

theorem convertAll {cs : List Cst} (hcs : ∀ c ∈ cs, Asks row c) :
    Accounts s row (s.convertAll cs) := flatMap fun c hc ↦ convert (hcs c hc)

theorem expr (hc : Asks row c) : Accounts s row [s.expr c] :=
  node (by decide) hc.near (convert hc) ""

/-! ## Rules without a construct of their own -/

theorem modifiers (hc : Within row c) : Accounts s row [s.modifiers c] :=
  node (by decide) hc.near (convertAll hc.asks) ""

/-- A declaration asks for the parts of its modifiers. -/
theorem modifiersOf (hc : row.Near c) (hparts : ∀ d ∈ modifierParts c, Asks row d)
    (hnear : ∀ d ∈ c.children, d.type = "modifiers" → row.Near d) :
    Accounts s row [s.modifiersOf c] := by
  rw [Shaper.modifiersOf]
  split
  · next d hd =>
    rw [modifierParts_of_find? hd] at hparts
    refine modifiers ⟨hnear d (List.mem_of_find?_eq_some hd) ?_, hparts⟩
    simpa using List.find?_some hd
  · exact node (by decide) hc nil ""

theorem modifiersOf_within (hc : Within row c) : Accounts s row [s.modifiersOf c] :=
  modifiersOf hc.near hc.modifierParts fun d hd _ ↦ (hc.asks d hd).near

theorem generic (hconstruct : Construct.ofType row.type = .generic) :
    Accounts s row [s.generic row] := by
  have hrow : Within row row := .self (by rw [hconstruct]; rfl)
  refine of_makes (.generic hconstruct) .self ?_ ?_
  · rw [Shaper.generic]
    split
    · exact ⟨rfl, rfl⟩
    · exact ⟨rfl, rfl⟩
  · rw [Shaper.generic]
    split
    · exact nil
    · exact convertAll hrow.asks

theorem number {short long : Kind} (hshort : short ∉ Kind.structural)
    (hlong : long ∉ Kind.structural) (letters : List Char) :
    Accounts s row [s.number short long letters row] := by
  refine leaf ?_ .self
  split
  · split
    · exact hlong
    · exact hshort
  · exact hshort

/-! ## Types -/

theorem wrapBrackets (hos : Accounts s row os) {rows : List Cst}
    (hrows : ∀ c ∈ rows, c.type = "]" → row.Near c) : Accounts s row (s.wrapBrackets os rows) := by
  rw [Shaper.wrapBrackets]
  induction rows generalizing os with
  | nil => exact hos
  | cons c rows ih =>
    obtain ⟨hc, hrows⟩ := List.forall_mem_cons.1 hrows
    rw [List.foldl_cons]
    refine ih ?_ hrows
    split
    · next htype => exact node (by decide) (hc htype) (hos.append (leaf (by decide) (hc htype))) "["
    · exact hos

theorem wrapDimensions (hos : Accounts s row os) {dimensions : Option Cst}
    (hdimensions : ∀ d ∈ dimensions, row.Near d) :
    Accounts s row (s.wrapDimensions os dimensions) := by
  cases dimensions with
  | none => exact hos
  | some d => exact wrapBrackets hos fun _ hc htype ↦ .bracket (hdimensions d rfl) hc htype

theorem typeSpec (hc : Asks row c) {dimensions : Option Cst}
    (hdimensions : ∀ d ∈ dimensions, row.Near d) : Accounts s row [s.typeSpec c dimensions] :=
  node (by decide) hc.near (wrapDimensions (typeParts hc) hdimensions) ""

theorem wildcard (hc : Within row c) : Accounts s row [s.wildcard c] := by
  refine node (by decide) hc.near (flatMap fun d hd ↦ ?_) "?"
  have hd := hc.asks d hd
  split_ifs
  · exact nil
  · exact node (Kind.keyword_notMem_structural _) hd.near nil d.type
  · exact typeParts hd

theorem typeArguments (hc : Within row c) : Accounts s row [s.typeArguments c] := by
  refine node (by decide) hc.near (flatMap fun d hd ↦ ?_) ""
  have hasks := hc.asks d hd
  split_ifs with _ _ _ htype _
  · exact leaf (by decide) hasks.near
  · exact leaf (by decide) hasks.near
  · exact leaf (by decide) hasks.near
  · exact node (by decide) hasks.near (wildcard (hc.child hd (by rw [htype]; decide))) ""
  · exact nil
  · exact node (by decide) hasks.near (typeParts hasks) ""

variable (hrow : Within row row)

theorem primitiveType : Accounts s row (s.primitiveType row) :=
  node (Kind.keyword_notMem_structural _) .self nil _

include hrow

theorem scopedType : Accounts s row (s.scopedType row) :=
  node (by decide) .self (convertAll fun c hc ↦ hrow.asks c (List.mem_filter.1 hc).1) "."

theorem genericType : Accounts s row (s.genericType row) := by
  refine flatMap fun c hc ↦ ?_
  split_ifs with htype
  · exact typeArguments (hrow.child hc (by rw [htype]; decide))
  · exact convert (hrow.asks c hc)

omit hrow

theorem arrayType (helement : ∀ c ∈ row.field? "element", Asks row c) :
    Accounts s row (s.arrayType row) := by
  refine wrapDimensions ?_ fun d hd ↦ .of_field? hd
  split
  · next element h => exact typeParts (helement element h)
  · exact nil

end Accounts

end Java.Shaper

end LintMark

import LintMark.Proofs.Java.Blocks
import LintMark.Proofs.Java.Origin.Source

/-!
# Where nodes stand

A node stands at the start of some row that the rule of its row looks at, so it stands at the start
of its row or of a row below (`Shaper.Stems.at_of_mem_subtrees`). The places are not always that of
the row: an operation stands at its operator, an array declarator at its closing bracket, and each
of several declarators at their declaration.

If apart from one statement of a block no row starts on a line, then no node stands there either
unless the block stands around it (`IsAloneOnLine.covered`). This is so because no rule looks into
a block but its own.
-/

namespace LintMark

open Java

namespace Cst

/-! ## Rows off a line -/

/-- All rows of a tree, but for those of a certain block below it, have a property. -/
inductive Clear (off : Cst → Prop) (block : Cst) : Cst → Prop
  | block : Clear off block block
  | row {row : Cst} (hrow : off row) (hbelow : ∀ c ∈ row.children, Clear off block c) :
      Clear off block row

namespace Clear

variable {off : Cst → Prop} {block : Cst}

mutual

theorem of_forall : ∀ (row : Cst), (∀ c ∈ row.rows, off c) → Clear off block row
  | ⟨type, start, stop, named, missing, field, children⟩, h => by
    rw [rows] at h
    obtain ⟨hrow, hchildren⟩ := List.forall_mem_cons.1 h
    exact .row hrow (of_forall_rowsOfAll children hchildren)

theorem of_forall_rowsOfAll : ∀ (cs : List Cst), (∀ c ∈ rowsOfAll cs, off c) →
    ∀ c ∈ cs, Clear off block c
  | [], _ => List.forall_mem_nil _
  | d :: cs, h => by
    rw [rowsOfAll] at h
    obtain ⟨hd, hcs⟩ := List.forall_mem_append.1 h
    exact List.forall_mem_cons.2 ⟨of_forall d hd, of_forall_rowsOfAll cs hcs⟩

end

mutual

/-- Where the block stands among the rows, the rows below it follow. -/
theorem exists_of_rows_eq : ∀ (row : Cst) {before rest : List Cst},
    row.rows = before ++ block :: rest → ∃ after, rest = rowsOfAll block.children ++ after ∧
      ((∀ c ∈ before ++ after, off c) → Clear off block row)
  | ⟨type, start, stop, named, missing, field, children⟩, [], rest, h => by
    rw [rows] at h
    obtain ⟨rfl, rfl⟩ := List.cons.inj h
    exact ⟨[], (List.append_nil _).symm, fun _ ↦ .block⟩
  | ⟨type, start, stop, named, missing, field, children⟩, _ :: before, rest, h => by
    rw [rows, List.cons_append] at h
    obtain ⟨rfl, hbelow⟩ := List.cons.inj h
    obtain ⟨after, hrest, hclear⟩ := exists_of_rowsOfAll_eq children hbelow
    refine ⟨after, hrest, fun hoff ↦ ?_⟩
    obtain ⟨hrow, hoff⟩ := List.forall_mem_cons.1 hoff
    exact .row hrow (hclear hoff)

theorem exists_of_rowsOfAll_eq : ∀ (cs : List Cst) {before rest : List Cst},
    rowsOfAll cs = before ++ block :: rest → ∃ after, rest = rowsOfAll block.children ++ after ∧
      ((∀ c ∈ before ++ after, off c) → ∀ c ∈ cs, Clear off block c)
  | [], before, rest, h => by cases before <;> cases h
  | d :: cs, before, rest, h => by
    rw [rowsOfAll] at h
    obtain ⟨others, rfl, hcs⟩ | ⟨others, hd, hrest⟩ := List.append_eq_append_iff.1 h
    · -- The block stands behind the first row.
      obtain ⟨after, hrest, hclear⟩ := exists_of_rowsOfAll_eq cs hcs
      refine ⟨after, hrest, fun hoff ↦ ?_⟩
      rw [List.append_assoc] at hoff
      obtain ⟨hfirst, hoff⟩ := List.forall_mem_append.1 hoff
      exact List.forall_mem_cons.2 ⟨of_forall d hfirst, hclear hoff⟩
    · obtain rfl | ⟨e, others, rfl⟩ : others = [] ∨ ∃ e es, others = e :: es := by
        cases others with
        | nil => exact .inl rfl
        | cons e es => exact .inr ⟨e, es, rfl⟩
      · -- The rows of the first row end in front of the block.
        rw [List.append_nil] at hd
        have hcs : rowsOfAll cs = [] ++ block :: rest := hrest.symm
        obtain ⟨after, hafter, hclear⟩ := exists_of_rowsOfAll_eq cs hcs
        refine ⟨after, hafter, fun hoff ↦ ?_⟩
        obtain ⟨hfirst, hoff⟩ := List.forall_mem_append.1 hoff
        exact List.forall_mem_cons.2 ⟨of_forall d (hd ▸ hfirst), hclear hoff⟩
      · -- The block stands in the first row.
        obtain ⟨rfl, rfl⟩ := List.cons.inj hrest
        obtain ⟨after, rfl, hclear⟩ := exists_of_rows_eq d hd
        refine ⟨after ++ rowsOfAll cs, List.append_assoc _ _ _, fun hoff ↦ ?_⟩
        rw [← List.append_assoc] at hoff
        obtain ⟨hfirst, hoff⟩ := List.forall_mem_append.1 hoff
        exact List.forall_mem_cons.2 ⟨hclear hfirst, of_forall_rowsOfAll cs hoff⟩

end

/-- A tree is clear if all rows but those of the block have the property. -/
theorem of_rows_eq {row : Cst} {before after : List Cst}
    (h : row.rows = before ++ block.rows ++ after) (hoff : ∀ c ∈ before ++ after, off c) :
    Clear off block row := by
  rw [rows_eq block, List.append_assoc, List.cons_append] at h
  obtain ⟨after', hafter, hclear⟩ := exists_of_rows_eq row h
  rw [← List.append_cancel_left hafter] at hclear
  exact hclear hoff

theorem of_mem_children {row c : Cst} (h : Clear off block row) (hne : row ≠ block)
    (hc : c ∈ row.children) : Clear off block c := by
  cases h with
  | block => exact absurd rfl hne
  | row _ hbelow => exact hbelow c hc

/-- What a rule looks at is clear, as long as it is neither the rule of the block nor that of a call
with the block for its arguments. -/
theorem of_near {row d : Cst} (h : Clear off block row) (hne : row ≠ block)
    (hconstruct : Construct.ofType block.type = .block)
    (harguments : Construct.ofType row.type = .methodCall → row.field? "arguments" ≠ some block)
    (hbracket : ∀ c ∈ block.children, c.type = "]" → Clear off block c) (hd : row.Near d) :
    Clear off block d := by
  induction hd with
  | self => exact h
  | child hc => exact h.of_mem_children hne hc
  | inside _ hinside hd ih =>
    refine ih.of_mem_children ?_ hd
    rintro rfl
    exact hinside hconstruct
  | @bracket c d _ hd htype ih =>
    by_cases hc : c = block
    · exact hbracket d (hc ▸ hd) htype
    · exact ih.of_mem_children hc hd
  | argument hcall hc hd =>
    refine (h.of_mem_children hne (mem_children_of_field? hc)).of_mem_children ?_ hd
    rintro rfl
    exact harguments hcall hc

end Clear

end Cst

namespace Outline

/-- Each outline with the property `on` is one of the sites or stands below one. -/
inductive Covered (on site : Outline → Prop) : Outline → Prop
  | site {o : Outline} (ho : site o) : Covered on site o
  | off {o : Outline} (ho : ¬ on o) (hbelow : ∀ p ∈ o.children, Covered on site p) :
      Covered on site o

end Outline

namespace Java

open Cst Outline Shaper

variable {source : SourceText} {row : Cst} {n : Nat} {o p : Outline}

/-! ## Places of nodes -/

namespace Shaper

/-- What stems from a row stands at the start of the row or of a row below. -/
theorem Stems.at_of_mem_subtrees (h : (shaper source n).Stems row o) (hp : p ∈ o.subtrees) :
    p.token = ⟨.compilationUnit, "", 1, 0⟩ ∨ ∃ q ∈ row.rows, p.At source q := by
  refine Stems.holds (R := fun _ r ↦ r ∈ row.rows)
    (P := fun o ↦ ∀ p ∈ o.subtrees,
      p.token = ⟨.compilationUnit, "", 1, 0⟩ ∨ ∃ q ∈ row.rows, p.At source q)
    (fun hr hc ↦ .inl (mem_rows_trans hr hc.near.mem_rows)) ?_ row.mem_rows_self h p hp
  intro m r o hr _ hplace hbelow p hp
  rw [subtrees_eq] at hp
  obtain rfl | hp := List.mem_cons.1 hp
  · obtain hunit | ⟨q, hq, hplace⟩ := hplace
    · exact .inl hunit
    · rw [source_shaper] at hplace
      exact .inr ⟨q, mem_rows_trans hr hq.mem_rows, hplace⟩
  · rw [subtreesAll_eq_flatMap] at hp
    obtain ⟨q, hq, hp⟩ := List.mem_flatMap.1 hp
    exact hbelow q hq p hp

/-- What is made of a row: by the rule of its construct, by the rule for rows that spell out types,
or by the rule that a row above hands it on to. -/
inductive Gives (s : Shaper) (row : Cst) : List Outline → Prop
  | convertRow : Gives s row (s.convertRow row)
  | typePartsOf : Gives s row (s.typePartsOf row)
  | modifiers (htype : row.type = "modifiers") : Gives s row [s.modifiers row]
  | typeArguments (htype : row.type = "type_arguments") : Gives s row [s.typeArguments row]
  | wildcard (htype : row.type = "wildcard") : Gives s row [s.wildcard row]
  | arguments (htype : row.type = "argument_list") (withOpening : Bool) :
      Gives s row (s.arguments withOpening row)
  | arrayInitializer (htype : row.type = "array_initializer") :
      Gives s row [s.arrayInitializer row]
  | parenthesized (htype : row.type = "parenthesized_expression") (wrap : Bool) :
      Gives s row (s.parenthesized wrap row)
  | extendsClause (htype : row.type ∈ ["superclass", "extends_interfaces"]) :
      Gives s row [s.clause .extendsClause "extends" row]
  | implementsClause (htype : row.type = "super_interfaces") :
      Gives s row [s.clause .implementsClause "implements" row]
  | throwsClause (htype : row.type = "throws") : Gives s row [s.throwsClause row]
  | parameter (htype : row.type ∈ ["formal_parameter", "spread_parameter"]) :
      Gives s row [s.parameter row]
  | catchType (htype : row.type = "catch_type") : Gives s row [s.catchType row]
  | catchParameter (htype : row.type = "catch_formal_parameter") :
      Gives s row [s.catchParameter row]

theorem Gives.accounts {s : Shaper} {os : List Outline} (h : s.Gives row os) :
    s.Accounts row os := by
  have hrow : ∀ type, row.type = type → (Construct.ofType type).asksAll = true →
      Within row row := by
    rintro _ rfl hasks
    exact .self hasks
  cases h with
  | convertRow => exact accounts_convertRow
  | typePartsOf => exact accounts_typePartsOf
  | modifiers htype => exact .modifiers (hrow _ htype rfl)
  | typeArguments htype => exact .typeArguments (hrow _ htype rfl)
  | wildcard htype => exact .wildcard (hrow _ htype rfl)
  | arguments htype withOpening => exact .arguments (hrow _ htype rfl) withOpening
  | arrayInitializer htype => exact .arrayInitializer (hrow _ htype rfl)
  | parenthesized htype wrap => exact .parenthesized (hrow _ htype rfl) wrap
  | extendsClause htype =>
    exact .clause (hrow _ rfl (by rw [Construct.ofType_of_extendsClause htype]; rfl)) (by decide) _
  | implementsClause htype => exact .clause (hrow _ htype rfl) (by decide) _
  | throwsClause htype => exact .throwsClause (hrow _ htype rfl)
  | parameter htype =>
    exact .parameter (hrow _ rfl (by rw [Construct.ofType_of_parameter htype]; rfl)) htype
  | catchType htype => exact .catchType (hrow _ htype rfl)
  | catchParameter htype => exact .catchParameter (hrow _ htype rfl) htype

end Shaper

/-! ## Statements on lines of their own -/

/-- The types of statements that become one node, whatever stands below them. -/
def singleStatements : List String :=
  ["enhanced_for_statement", "block", "explicit_constructor_invocation", "package_declaration",
    "import_declaration"]

/-- The types of statements without a rule of their own. -/
def plainStatements : List String :=
  ["labeled_statement", "module_declaration", "local_class_declaration"]

/-- A statement as the grammar has it in a block starts with a row: an expression that stands as a
statement starts with the expression, any other statement with itself. -/
inductive StartsWith (row : Cst) : Cst → Prop
  | expression (htype : row.type = "expression_statement") {c : Cst} {rest : List Cst}
      (hcontent : row.content = c :: rest) (hc : c.type ≠ ";") : StartsWith row c
  | localVariable (htype : row.type = "local_variable_declaration")
      (hdeclarators : declarators row ≠ []) : StartsWith row row
  | keyword (htype : row.type ∈ Construct.keywordStatements) (hcontent : row.content ≠ []) :
      StartsWith row row
  | single (htype : row.type ∈ singleStatements) : StartsWith row row
  | typeDeclaration (htype : row.type ∈ Construct.typeDeclarations.map Prod.fst) :
      StartsWith row row
  | plain (htype : row.type ∈ plainStatements) (hchildren : row.children ≠ []) : StartsWith row row
  | empty (htype : row.type = ";") (hchildren : row.children = []) : StartsWith row row

namespace StartsWith

variable {lead : Cst}

/-- The types of statements. -/
theorem type_mem (h : StartsWith row lead) :
    row.type ∈ ["expression_statement", "local_variable_declaration", ";"] ++
      Construct.keywordStatements ++ singleStatements ++
      Construct.typeDeclarations.map Prod.fst ++ plainStatements := by
  simp only [List.mem_append]
  cases h with
  | expression htype => rw [htype]; decide
  | localVariable htype => rw [htype]; decide
  | empty htype => rw [htype]; decide
  | keyword htype => exact .inl (.inl (.inl (.inr htype)))
  | single htype => exact .inl (.inl (.inr htype))
  | typeDeclaration htype => exact .inl (.inr htype)
  | plain htype => exact .inr htype

theorem type_notMem_brackets (h : StartsWith row lead) : row.type ∉ ["]", "\x7b"] := by
  have htypes : ∀ type ∈ ["expression_statement", "local_variable_declaration", ";"] ++
      Construct.keywordStatements ++ singleStatements ++
      Construct.typeDeclarations.map Prod.fst ++ plainStatements, type ∉ ["]", "\x7b"] := by decide
  exact htypes _ h.type_mem

/-- The first outline of a statement stands where the statement starts. It is no separator, unless
nothing stands below it. -/
theorem exists_convertRow_eq (h : StartsWith row lead) (s : Shaper) :
    ∃ o os, s.convertRow row = o :: os ∧ o.At s.source lead ∧
      (o.kind ∉ Kind.separators ∨ o.children = []) := by
  cases h with
  | @expression htype c rest hcontent hc =>
    have hconvert : s.convertRow row = s.expressionStatement row := by
      rw [convertRow, htype]
      rfl
    rw [hconvert, expressionStatement, hcontent, List.map_cons, if_neg hc]
    exact ⟨_, _, rfl, ⟨rfl, rfl⟩, .inl (by rw [kind_expr]; decide)⟩
  | localVariable htype hdeclarators =>
    have hconvert : s.convertRow row = s.localVariable row := by
      rw [convertRow, htype]
      rfl
    obtain ⟨d, ds, hd⟩ := List.exists_cons_of_ne_nil hdeclarators
    rw [hconvert, Shaper.localVariable, hd, List.zipIdx_cons, List.flatMap_cons, List.cons_append]
    exact ⟨_, _, rfl, ⟨rfl, rfl⟩, .inl (by rw [kind_variableDef]; decide)⟩
  | keyword htype hcontent =>
    obtain ⟨keyword, parts, hcontent⟩ := List.exists_cons_of_ne_nil hcontent
    rw [convertRow, Construct.ofType_keywordStatement _ htype]
    dsimp only
    rw [keywordStatement, hcontent]
    exact ⟨_, _, rfl, ⟨rfl, rfl⟩,
      .inl fun hkind ↦ keyword_notMem_signKinds _ (separators_subset_signKinds hkind)⟩
  | single htype =>
    simp only [singleStatements, List.mem_cons, List.not_mem_nil, or_false] at htype
    obtain htype | htype | htype | htype | htype := htype
    · rw [convertRow, htype]
      exact ⟨s.enhancedFor row, [], rfl, ⟨rfl, rfl⟩,
        .inl (by decide : Kind.literalFor ∉ Kind.separators)⟩
    · rw [convertRow, htype]
      exact ⟨s.block row, [], rfl, ⟨rfl, rfl⟩, .inl (by decide : Kind.slist ∉ Kind.separators)⟩
    · rw [convertRow, htype]
      refine ⟨s.constructorCall row, [], rfl, ⟨rfl, rfl⟩, .inl ?_⟩
      rw [constructorCall, kind_node]
      split_ifs
      · decide
      · decide
    · rw [convertRow, htype]
      exact ⟨s.package row, [], rfl, ⟨rfl, rfl⟩,
        .inl (by decide : Kind.packageDef ∉ Kind.separators)⟩
    · rw [convertRow, htype]
      refine ⟨s.importDecl row, [], rfl, ⟨rfl, rfl⟩, .inl ?_⟩
      rw [importDecl, kind_node]
      split_ifs
      · decide
      · decide
  | typeDeclaration htype =>
    obtain ⟨kind, hkind, hconstruct⟩ := Construct.exists_ofType_typeDeclaration _ htype
    have hkinds : ∀ kind ∈ Kind.typeDeclarations, kind ∉ Kind.separators := by decide
    rw [convertRow, hconstruct]
    exact ⟨_, _, rfl, ⟨rfl, rfl⟩, .inl (hkinds kind hkind)⟩
  | plain htype hchildren =>
    have hplain : ∀ type ∈ plainStatements,
        Construct.ofType type = .generic ∧ kindOfType type ∉ Kind.separators := by decide
    obtain ⟨hconstruct, hkind⟩ := hplain _ htype
    rw [convertRow, hconstruct]
    refine ⟨_, _, rfl, ?_⟩
    rw [generic, if_neg (by rwa [List.isEmpty_iff])]
    exact ⟨⟨rfl, rfl⟩, .inl hkind⟩
  | empty htype hchildren =>
    rw [convertRow, htype]
    refine ⟨_, _, rfl, ?_⟩
    rw [generic, if_pos (by rw [hchildren]; rfl)]
    exact ⟨⟨rfl, rfl⟩, .inr rfl⟩

end StartsWith

/-- The row is a child of the block, between the rows `front` and `back`, and no row outside it
starts on the line: neither the block nor the rows `before` the block and `after` it, nor those
below its other children. No call has the block for its arguments, where it would not be shaped as a
block. -/
structure IsAloneOnLine (source : SourceText) (root block row : Cst) (line : Nat)
    (before after front back : List Cst) : Prop where
  rows_eq : root.rows = before ++ block.rows ++ after
  children_eq : block.children = front ++ row :: back
  type_mem : block.type ∈ ["block", "constructor_body"]
  arguments_ne : ∀ c ∈ root.rows, Construct.ofType c.type = .methodCall →
    c.field? "arguments" ≠ some block
  line_ne : ∀ c ∈ before ++ block :: (rowsOfAll front ++ rowsOfAll back) ++ after,
    source.line c.start ≠ line

namespace IsAloneOnLine

variable {root block lead : Cst} {line : Nat} {before after front back : List Cst}
  (h : IsAloneOnLine source root block row line before after front back)

include h

theorem construct_eq : Construct.ofType block.type = .block := by
  have hconstruct : ∀ type ∈ ["block", "constructor_body"], Construct.ofType type = .block := by
    decide
  exact hconstruct _ h.type_mem

theorem line_block_ne : source.line block.start ≠ line := by
  refine h.line_ne block (List.mem_append_left _ ?_)
  exact List.mem_append_right _ List.mem_cons_self

theorem line_ne_of_mem_rowsOfAll {c : Cst} (hc : c ∈ rowsOfAll front ++ rowsOfAll back) :
    source.line c.start ≠ line := by
  refine h.line_ne c (List.mem_append_left _ ?_)
  exact List.mem_append_right _ (List.mem_cons_of_mem _ hc)

/-- The whole tree is off the line, but for the block. -/
theorem clear : Clear (fun c ↦ source.line c.start ≠ line) block root := by
  refine .of_rows_eq h.rows_eq fun c hc ↦ h.line_ne c ?_
  obtain hc | hc := List.mem_append.1 hc
  · exact List.mem_append_left _ (List.mem_append_left _ hc)
  · exact List.mem_append_right _ hc

/-- The other children of the block are off the line. -/
theorem clear_of_mem_children {c : Cst} (hc : c ∈ block.children) (hne : c ≠ row) :
    Clear (fun c ↦ source.line c.start ≠ line) block c := by
  refine .of_forall c fun d hd ↦ h.line_ne_of_mem_rowsOfAll ?_
  rw [h.children_eq, List.mem_append, List.mem_cons] at hc
  obtain hc | rfl | hc := hc
  · exact List.mem_append_left _ (mem_rowsOfAll_of_mem hc hd)
  · exact absurd rfl hne
  · exact List.mem_append_right _ (mem_rowsOfAll_of_mem hc hd)

/-- What the block itself is shaped to is one node, off the line. -/
theorem covered_of_block (n : Nat) (ho : o ∈ (shaper source n).convertRow block ∨
    o ∈ (shaper source n).typePartsOf block) :
    Covered (fun o ↦ o.token.line = line) (fun o ↦ ∃ m, o = (shaper source (m + 1)).block block)
      o := by
  have hblock : o = (shaper source n).block block := by
    have hconvert : (shaper source n).convertRow block = [(shaper source n).block block] := by
      rw [convertRow, h.construct_eq]
    have htypes : ∀ type ∈ ["block", "constructor_body"], type ≠ "type_arguments" := by decide
    rw [typePartsOf, if_neg (htypes _ h.type_mem), or_self, hconvert] at ho
    exact List.mem_singleton.1 ho
  cases n with
  | zero =>
    subst hblock
    refine .off (fun hline ↦ h.line_block_ne ?_) fun p hp ↦ ?_
    · exact Int.ofNat_inj.1 hline
    · obtain ⟨c, -, hp⟩ := List.mem_flatMap.1 hp
      cases hp
  | succ m => exact .site ⟨m, hblock⟩

/-- Each outline on the line stands below the node of the block. -/
theorem covered (hline : 1 < line) (hrow : row.type ≠ "]") (n : Nat)
    (ho : o ∈ (shaper source n).convertRow root) :
    Covered (fun o ↦ o.token.line = line) (fun o ↦ ∃ m, o = (shaper source (m + 1)).block block)
      o := by
  by_cases hroot : root = block
  · exact h.covered_of_block n (.inl (hroot ▸ ho))
  have hnear : ∀ {c d : Cst}, Clear (fun c ↦ source.line c.start ≠ line) block c → c ≠ block →
      c ∈ root.rows → c.Near d → Clear (fun c ↦ source.line c.start ≠ line) block d := by
    intro c d hc hne hmem hd
    refine hc.of_near hne h.construct_eq (h.arguments_ne c hmem) (fun e he htype ↦ ?_) hd
    refine h.clear_of_mem_children he ?_
    rintro rfl
    exact hrow htype
  refine Stems.holds
    (R := fun _ c ↦ Clear (fun c ↦ source.line c.start ≠ line) block c ∧ c ≠ block ∧
      c ∈ root.rows) ?_ ?_ (n := n) ⟨h.clear, hroot, root.mem_rows_self⟩
    (accounts_convertRow o ho)
  · rintro m c d ⟨hc, hne, hmem⟩ hd
    by_cases hblock : d = block
    · subst hblock
      exact .inr fun p ↦ h.covered_of_block m
    · exact .inl ⟨hnear hc hne hmem hd.near, hblock, mem_rows_trans hmem hd.near.mem_rows⟩
  · rintro m c p ⟨hc, hne, hmem⟩ - hplace hbelow
    refine .off (fun hon ↦ ?_) hbelow
    obtain hunit | ⟨q, hq, hplace⟩ := hplace
    · rw [hunit] at hon
      exact absurd (Int.ofNat_inj.1 hon) hline.ne
    · rw [source_shaper] at hplace
      have hq : source.line q.start ≠ line := by
        cases hnear hc hne hmem hq with
        | block => exact h.line_block_ne
        | row hoff => exact hoff
      exact hq (Int.ofNat_inj.1 (hplace.1.symm.trans hon))

/-- Nothing in the other children of the block stands on the line. -/
theorem line_ne_of_mem_subtrees (hline : 1 < line) {c : Cst} (hc : c ∈ front ++ back)
    (ho : o ∈ (shaper source n).convertRow c) (hp : p ∈ o.subtrees) : p.token.line ≠ line := by
  intro hon
  obtain hunit | ⟨q, hq, hplace⟩ := (accounts_convertRow o ho).at_of_mem_subtrees hp
  · rw [hunit] at hon
    exact absurd (Int.ofNat_inj.1 hon) hline.ne
  · refine h.line_ne_of_mem_rowsOfAll ?_ (Int.ofNat_inj.1 (hplace.1.symm.trans hon))
    obtain hc | hc := List.mem_append.1 hc
    · exact List.mem_append_left _ (mem_rowsOfAll_of_mem hc hq)
    · exact List.mem_append_right _ (mem_rowsOfAll_of_mem hc hq)

/-- The node of the block stands above the outlines of its children, those of the row in their
place. -/
theorem children_block (hrow : row.type ≠ "\x7b") (n : Nat) :
    ((shaper source (n + 1)).block block).children
      = (front.filter fun c ↦ c.type ≠ "\x7b").flatMap (shaper source n).convertRow ++
        ((shaper source n).convertRow row ++
          (back.filter fun c ↦ c.type ≠ "\x7b").flatMap (shaper source n).convertRow) := by
  change (block.children.filter fun c ↦ c.type ≠ "\x7b").flatMap (shaper source n).convertRow = _
  have hfilter : (row :: back).filter (fun c ↦ c.type ≠ "\x7b")
      = row :: back.filter fun c ↦ c.type ≠ "\x7b" := List.filter_cons_of_pos (decide_eq_true hrow)
  rw [h.children_eq, List.filter_append, hfilter, List.flatMap_append, List.flatMap_cons]

end IsAloneOnLine

end Java

end LintMark

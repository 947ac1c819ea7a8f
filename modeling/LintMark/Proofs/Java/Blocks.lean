import LintMark.Proofs.Java.Comments.Source
import LintMark.Proofs.Java.Formatting.Source
import LintMark.Proofs.Syntax.Subtrees
import LintMark.Proofs.Window.Environment

/-!
# The statements of a block

A block of statements becomes a list node, and the members of that node are the statements, one for
one and in their order (`IsBlock.convertRow_eq`). Two statements are special: a local declaration
has one member for each of its declarators, and an empty statement has none. The semicolons, the
commas and the braces become separators, which the window of the enclosing statement passes over,
so what the window takes in front of a statement and behind it are the statements next to it
(`environmentWindow_of_isBlock`).

## Statements

`IsStatement` has one case for each form that the grammar allows in a block. Each form gives one
outline that is no sign, or is a local declaration, or is empty (`IsStatement.cases`), whatever the
shaper below makes of the parts of the statement.
-/

namespace LintMark

namespace Outline

/-- The outlines that are no separators. -/
def members (os : List Outline) : List Outline := os.filter fun o ↦ o.kind ∉ Kind.separators

theorem members_flatMap {α : Type} (xs : List α) (f : α → List Outline) :
    members (xs.flatMap f) = xs.flatMap fun x ↦ members (f x) := List.filter_flatMap

theorem members_cons_of_notMem {o : Outline} (h : o.kind ∉ Kind.separators) (os : List Outline) :
    members (o :: os) = o :: members os :=
  List.filter_cons_of_pos (decide_eq_true h)

theorem members_eq_nil {os : List Outline} (h : ∀ o ∈ os, o.kind ∈ Kind.separators) :
    members os = [] :=
  List.filter_eq_nil_iff.2 fun o ho ↦ by rw [decide_eq_true_iff, not_not]; exact h o ho

end Outline

theorem Tree.map_outline_members (t : Tree) (c : Nat) :
    (t.members c).map t.outline = Outline.members (t.outline c).children := by
  rw [members, Outline.members, children_outline, List.filter_map]
  rfl

namespace Java

open Outline Shaper

/-! ## Signs -/

/-- The kinds of punctuation. Separators are among them. -/
def signKinds : List Kind := punctuation.map Prod.snd

theorem separators_subset_signKinds : Kind.separators ⊆ signKinds := by decide

/-- No keyword is mistaken for a sign. -/
theorem keyword_notMem_signKinds (word : String) : Kind.keyword word ∉ signKinds := by
  have hsigns : ∀ kind ∈ signKinds, kind.name.toList.take 2 ≠ ['L', 'I'] := by decide
  intro hmem
  refine hsigns _ hmem ?_
  rw [Kind.keyword, String.toList_append]
  rfl

/-- A sign as the source has it: a token without a name, of which the text is the type. -/
structure IsSign (source : SourceText) (row : Cst) : Prop where
  named_eq : row.named = false
  children_eq : row.children = []
  text_eq : row.text source = row.type

instance (source : SourceText) (row : Cst) : Decidable (IsSign source row) :=
  decidable_of_iff (row.named = false ∧ row.children = [] ∧ row.text source = row.type)
    ⟨fun h ↦ ⟨h.1, h.2.1, h.2.2⟩, fun h ↦ ⟨h.named_eq, h.children_eq, h.text_eq⟩⟩

/-- The braces around a block. -/
def braces : List String := ["\x7b", "\x7d"]

/-- The signs that become separators. -/
def separatorSigns : List String := braces ++ [",", ";"]

namespace Shaper

variable {s : Shaper}

@[simp] theorem kind_node (kind : Kind) (row : Cst) (text : String) (children : List Outline) :
    (s.node kind row text children).kind = kind := rfl

@[simp] theorem kind_leaf (kind : Kind) (row : Cst) : (s.leaf kind row).kind = kind := rfl

@[simp] theorem kind_expr (row : Cst) : (s.expr row).kind = .expr := rfl

@[simp] theorem kind_variableDef (row d : Cst) (terminator : Option Outline) :
    (s.variableDef row d terminator).kind = .variableDef := rfl

/-- A sign becomes a leaf of its kind. -/
theorem convertRow_of_isSign {row : Cst} (h : IsSign s.source row)
    (hconstruct : Construct.ofType row.type = .generic) :
    s.convertRow row = [s.leaf (tokenKind row.type) row] := by
  rw [convertRow, hconstruct]
  change [s.generic row] = _
  rw [generic, h.children_eq, List.isEmpty_nil, if_pos rfl, h.named_eq, if_neg Bool.false_ne_true,
    text, h.text_eq]

theorem members_convertRow_of_isSign {row : Cst} (h : IsSign s.source row)
    (htype : row.type ∈ separatorSigns) : members (s.convertRow row) = [] := by
  have hsigns : ∀ type ∈ separatorSigns,
      Construct.ofType type = .generic ∧ tokenKind type ∈ Kind.separators := by decide
  obtain ⟨hgeneric, hkind⟩ := hsigns row.type htype
  refine members_eq_nil fun o ho ↦ ?_
  rw [convertRow_of_isSign h hgeneric, List.mem_singleton] at ho
  rwa [ho]

/-! ## Rows of statements -/

theorem kind_mem_separators_of_mem_separators {row : Cst} {o : Outline} (h : o ∈ s.separators row) :
    o.kind ∈ Kind.separators := by
  obtain ⟨c, -, hc⟩ := List.mem_filterMap.1 h
  split_ifs at hc
  · cases hc
    rw [kind_leaf]
    decide
  · cases hc
    rw [kind_leaf]
    decide

/-- A local declaration has one member for each declarator. -/
theorem members_localVariable (row : Cst) :
    members (s.localVariable row) = (declarators row).map fun d ↦ s.variableDef row d none := by
  have hbody : ∀ p ∈ (declarators row).zipIdx,
      members (s.variableDef row p.1 none :: (s.separators row)[p.2]?.toList)
        = [s.variableDef row p.1 none] := by
    intro p _
    rw [members_cons_of_notMem (by rw [kind_variableDef]; decide), members_eq_nil]
    intro o ho
    exact kind_mem_separators_of_mem_separators (List.mem_of_getElem? (Option.mem_toList.1 ho))
  rw [localVariable, members_flatMap, List.flatMap_congr hbody, ← List.map_eq_flatMap]
  change (declarators row).zipIdx.map ((fun d ↦ s.variableDef row d none) ∘ Prod.fst) = _
  rw [← List.map_map, List.zipIdx_map_fst]

/-- An expression that stands as a statement is one member. -/
theorem members_expressionStatement {row c : Cst}
    (h : (row.content.filter fun c ↦ c.type ≠ ";") = [c]) :
    members (s.expressionStatement row) = [s.expr c] := by
  have hpart : ∀ d : Cst,
      decide ((if d.type = ";" then s.leaf .semi d else s.expr d).kind ∉ Kind.separators)
        = decide (d.type ≠ ";") := by
    intro d
    by_cases hd : d.type = ";"
    · rw [if_pos hd, decide_eq_false (not_not.2 hd), kind_leaf]
      decide
    · rw [if_neg hd, decide_eq_true hd, kind_expr]
      decide
  have hc : c.type ≠ ";" := by
    have hmem : c ∈ row.content.filter fun c ↦ c.type ≠ ";" := by
      rw [h]
      exact List.mem_singleton_self c
    exact of_decide_eq_true (List.mem_filter.1 hmem).2
  rw [expressionStatement, members, List.filter_map]
  change (row.content.filter fun d ↦
    decide ((if d.type = ";" then s.leaf .semi d else s.expr d).kind ∉ Kind.separators)).map _ = _
  rw [List.filter_congr fun d _ ↦ hpart d, h, List.map_singleton, if_neg hc]

end Shaper

/-! ## Statements -/

/-- A statement as the grammar has it in a block. -/
inductive IsStatement (source : SourceText) (row : Cst) : Prop
  | localVariable (htype : row.type = "local_variable_declaration")
  | expression (htype : row.type = "expression_statement") (c : Cst)
      (hcontent : (row.content.filter fun c ↦ c.type ≠ ";") = [c])
  | keyword (htype : row.type ∈ Construct.keywordStatements) (hcontent : row.content ≠ [])
  | enhancedFor (htype : row.type = "enhanced_for_statement")
  | labeled (htype : row.type = "labeled_statement") (hchildren : row.children ≠ [])
  | block (htype : row.type = "block")
  | typeDeclaration (htype : row.type ∈ Construct.typeDeclarations.map Prod.fst)
  | constructorCall (htype : row.type = "explicit_constructor_invocation")
  | empty (htype : row.type = ";") (hsign : IsSign source row)

/-- What a block has a member for: a declarator of a local declaration, or a whole statement. -/
inductive BlockItem where
  | declarator (row d : Cst)
  | statement (row : Cst)

/-- What a block has members for, of one of its children. -/
def blockItemsOf (c : Cst) : List BlockItem :=
  if c.isComment ∨ c.type ∈ braces ∨ c.type = ";" then []
  else if c.type = "local_variable_declaration" then (declarators c).map (.declarator c)
  else [.statement c]

/-- The statements and declarators of a block, in their order. -/
def blockItems (row : Cst) : List BlockItem := row.children.flatMap blockItemsOf

/-- The outline is what the item is shaped to, separators not counted. -/
def Shaper.Shapes (s : Shaper) : BlockItem → Outline → Prop
  | .declarator row d, o => o = s.variableDef row d none
  | .statement row, o => members (s.convertRow row) = [o]

/-- The types of the rows that are one item of a block. -/
def wholeStatements : List String :=
  Construct.keywordStatements ++ Construct.typeDeclarations.map Prod.fst ++
    ["expression_statement", "enhanced_for_statement", "labeled_statement", "block",
      "explicit_constructor_invocation"]

theorem blockItemsOf_of_mem_wholeStatements {row : Cst} (h : row.type ∈ wholeStatements) :
    blockItemsOf row = [.statement row] := by
  have htypes : ∀ type ∈ wholeStatements, type ∉ Cst.commentTypes ∧ type ∉ braces ∧ type ≠ ";" ∧
      type ≠ "local_variable_declaration" := by decide
  obtain ⟨hcomment, hbrace, hsemi, hlocal⟩ := htypes row.type h
  rw [blockItemsOf, if_neg, if_neg hlocal]
  rintro (h | h | h)
  · exact hcomment (of_decide_eq_true h)
  · exact hbrace h
  · exact hsemi h

theorem Construct.ofType_keywordStatement :
    ∀ type ∈ keywordStatements, ofType type = .keywordStatement := by decide

theorem Construct.exists_ofType_typeDeclaration : ∀ type ∈ typeDeclarations.map Prod.fst,
    ∃ kind ∈ Kind.typeDeclarations, ofType type = .typeDeclaration kind := by decide

variable {s : Shaper} {row : Cst}

/-! ## Single items -/

/-- The row is one item of a block, shaped to one outline that is no sign. -/
def IsOneItem (s : Shaper) (row : Cst) : Prop :=
  blockItemsOf row = [.statement row] ∧
    ∃ o, members (s.convertRow row) = [o] ∧ o.kind ∉ signKinds

theorem isOneItem_of_singleton (htype : row.type ∈ wholeStatements) {o : Outline}
    (ho : s.convertRow row = [o]) (hkind : o.kind ∉ signKinds) : IsOneItem s row := by
  refine ⟨blockItemsOf_of_mem_wholeStatements htype, o, ?_, hkind⟩
  rw [ho]
  exact members_cons_of_notMem (fun h ↦ hkind (separators_subset_signKinds h)) []

theorem isOneItem_expression (htype : row.type = "expression_statement") {c : Cst}
    (hcontent : (row.content.filter fun c ↦ c.type ≠ ";") = [c]) : IsOneItem s row := by
  refine ⟨blockItemsOf_of_mem_wholeStatements (by rw [htype]; decide), s.expr c, ?_, ?_⟩
  · rw [convertRow, htype]
    exact members_expressionStatement hcontent
  · rw [kind_expr]
    decide

theorem isOneItem_keyword (htype : row.type ∈ Construct.keywordStatements)
    (hcontent : row.content ≠ []) : IsOneItem s row := by
  obtain ⟨keyword, parts, hcontent⟩ := List.exists_cons_of_ne_nil hcontent
  have hconvert : s.convertRow row = [s.node (.keyword (Text.toUpper (s.text keyword))) row
      (s.text keyword) (s.statementParts parts)] := by
    rw [convertRow, Construct.ofType_keywordStatement _ htype]
    dsimp only
    rw [keywordStatement, hcontent]
  exact isOneItem_of_singleton (List.mem_append_left _ (List.mem_append_left _ htype)) hconvert
    (keyword_notMem_signKinds _)

theorem isOneItem_enhancedFor (htype : row.type = "enhanced_for_statement") :
    IsOneItem s row := by
  have hconvert : s.convertRow row = [s.enhancedFor row] := by
    rw [convertRow, htype]
    rfl
  exact isOneItem_of_singleton (by rw [htype]; decide) hconvert
    (by decide : Kind.literalFor ∉ signKinds)

theorem isOneItem_labeled (htype : row.type = "labeled_statement")
    (hchildren : row.children ≠ []) : IsOneItem s row := by
  have hconvert : s.convertRow row
      = [s.node .labeledStat row "" (s.convertAll row.children)] := by
    rw [convertRow, htype]
    change [s.generic row] = _
    rw [generic, if_neg (by rwa [List.isEmpty_iff]), htype]
    rfl
  exact isOneItem_of_singleton (by rw [htype]; decide) hconvert
    (by decide : Kind.labeledStat ∉ signKinds)

theorem isOneItem_block (htype : row.type = "block") : IsOneItem s row := by
  have hconvert : s.convertRow row = [s.block row] := by
    rw [convertRow, htype]
    rfl
  exact isOneItem_of_singleton (by rw [htype]; decide) hconvert
    (by decide : Kind.slist ∉ signKinds)

theorem isOneItem_typeDeclaration (htype : row.type ∈ Construct.typeDeclarations.map Prod.fst) :
    IsOneItem s row := by
  obtain ⟨kind, hkind, hconstruct⟩ := Construct.exists_ofType_typeDeclaration _ htype
  have hconvert : s.convertRow row = [s.typeDeclaration kind row] := by
    rw [convertRow, hconstruct]
  have hkinds : ∀ kind ∈ Kind.typeDeclarations, kind ∉ signKinds := by decide
  exact isOneItem_of_singleton (List.mem_append_left _ (List.mem_append_right _ htype)) hconvert
    (hkinds kind hkind)

theorem isOneItem_constructorCall (htype : row.type = "explicit_constructor_invocation") :
    IsOneItem s row := by
  have hconvert : s.convertRow row = [s.constructorCall row] := by
    rw [convertRow, htype]
    rfl
  refine isOneItem_of_singleton (by rw [htype]; decide) hconvert ?_
  change (if row.children.any fun c ↦ c.type = "super" then Kind.superCtorCall
    else Kind.ctorCall) ∉ signKinds
  split_ifs
  · decide
  · decide

namespace IsStatement

/-- A statement is a local declaration, or it is empty, or it is one item. -/
theorem cases (h : IsStatement s.source row) :
    (row.type = "local_variable_declaration" ∧ s.convertRow row = s.localVariable row) ∨
    (row.type = ";" ∧ members (s.convertRow row) = []) ∨ IsOneItem s row := by
  cases h with
  | localVariable htype =>
    refine .inl ⟨htype, ?_⟩
    rw [convertRow, htype]
    rfl
  | empty htype hsign =>
    exact .inr (.inl ⟨htype, members_convertRow_of_isSign hsign (by rw [htype]; decide)⟩)
  | expression htype c hcontent => exact .inr (.inr (isOneItem_expression htype hcontent))
  | keyword htype hcontent => exact .inr (.inr (isOneItem_keyword htype hcontent))
  | enhancedFor htype => exact .inr (.inr (isOneItem_enhancedFor htype))
  | labeled htype hchildren => exact .inr (.inr (isOneItem_labeled htype hchildren))
  | block htype => exact .inr (.inr (isOneItem_block htype))
  | typeDeclaration htype => exact .inr (.inr (isOneItem_typeDeclaration htype))
  | constructorCall htype => exact .inr (.inr (isOneItem_constructorCall htype))

/-- No member of a statement is a sign. -/
theorem kind_notMem_signKinds (h : IsStatement s.source row) {o : Outline}
    (ho : o ∈ members (s.convertRow row)) : o.kind ∉ signKinds := by
  obtain ⟨-, hconvert⟩ | ⟨-, hconvert⟩ | ⟨-, p, hp, hkind⟩ := h.cases
  · rw [hconvert, members_localVariable] at ho
    obtain ⟨d, -, rfl⟩ := List.mem_map.1 ho
    rw [kind_variableDef]
    decide
  · rw [hconvert] at ho
    cases ho
  · rw [hp, List.mem_singleton] at ho
    rwa [ho]

/-- The members of a statement are its items, one for one. -/
theorem forall₂_shapes (h : IsStatement s.source row) :
    List.Forall₂ s.Shapes (blockItemsOf row) (members (s.convertRow row)) := by
  obtain ⟨htype, hconvert⟩ | ⟨htype, hconvert⟩ | ⟨hitems, o, ho, -⟩ := h.cases
  · have hitems : blockItemsOf row = (declarators row).map (.declarator row) := by
      rw [blockItemsOf, Cst.isComment, htype]
      rfl
    rw [hitems, hconvert, members_localVariable, List.forall₂_map_left_iff,
      List.forall₂_map_right_iff, List.forall₂_same]
    exact fun d _ ↦ rfl
  · have hitems : blockItemsOf row = [] := by
      rw [blockItemsOf, if_pos (.inr (.inr htype))]
    rw [hitems, hconvert]
    exact .nil
  · rw [hitems, ho]
    exact .cons ho .nil

end IsStatement

/-! ## Blocks -/

/-- A block as the grammar has it: braces, comments and statements. -/
structure IsBlock (source : SourceText) (row : Cst) : Prop where
  type_mem : row.type ∈ ["block", "constructor_body"]
  children : ∀ c ∈ row.children,
    c.isComment = true ∨ c.type ∈ braces ∧ IsSign source c ∨ IsStatement source c

/-- Members that contribute nothing to a list may be left out. -/
theorem flatMap_filter_of_eq_nil {α β : Type} {p : α → Bool} {f : α → List β} {xs : List α}
    (h : ∀ x ∈ xs, p x = false → f x = []) : (xs.filter p).flatMap f = xs.flatMap f := by
  induction xs with
  | nil => rfl
  | cons x xs ih =>
    have ih := ih fun y hy ↦ h y (List.mem_cons_of_mem x hy)
    rw [List.filter_cons, List.flatMap_cons]
    cases hp : p x with
    | true => rw [if_pos rfl, List.flatMap_cons, ih]
    | false => rw [if_neg Bool.false_ne_true, h x List.mem_cons_self hp, List.nil_append, ih]

/-- The items of a block do not depend on its opening brace, which is the node itself. -/
theorem flatMap_blockItemsOf_filter (row : Cst) :
    (row.children.filter fun c ↦ c.type ≠ "\x7b").flatMap blockItemsOf = blockItems row := by
  refine flatMap_filter_of_eq_nil fun c _ hc ↦ ?_
  have htype : c.type = "\x7b" := not_not.1 (of_decide_eq_false hc)
  rw [blockItemsOf, if_pos (.inr (.inl (by rw [htype]; decide)))]

namespace IsBlock

variable {source : SourceText} {row : Cst} (h : IsBlock source row)

include h

theorem convertRow_eq_block (s : Shaper) : s.convertRow row = [s.block row] := by
  have hconstruct : ∀ type ∈ ["block", "constructor_body"], Construct.ofType type = .block := by
    decide
  rw [convertRow, hconstruct _ h.type_mem]

/-- The members of a child of a block are its items, one for one. -/
theorem forall₂_shapes_of_mem_children {s : Shaper} (hs : s.source = source) {c : Cst}
    (hc : c ∈ row.children) :
    List.Forall₂ s.Shapes (blockItemsOf c) (members (s.convertRow c)) := by
  subst hs
  obtain hcomment | ⟨hbrace, hsign⟩ | hstatement := h.children c hc
  · rw [blockItemsOf, if_pos (.inl hcomment), convertRow_of_isComment hcomment]
    exact .nil
  · rw [blockItemsOf, if_pos (.inr (.inl hbrace)),
      members_convertRow_of_isSign hsign (List.mem_append_left _ hbrace)]
    exact .nil
  · exact hstatement.forall₂_shapes

/-- The members of a block are its items, one for one. -/
theorem forall₂_shapes (n : Nat) :
    List.Forall₂ (shaper source n).Shapes (blockItems row)
      (members ((shaper source (n + 1)).block row).children) := by
  have hchildren : ((shaper source (n + 1)).block row).children
      = (row.children.filter fun c ↦ c.type ≠ "\x7b").flatMap (shaper source n).convertRow := rfl
  rw [← flatMap_blockItemsOf_filter, hchildren, members_flatMap]
  refine List.rel_flatMap (R := fun c d ↦ c = d ∧ c ∈ row.children) (List.forall₂_same.2 ?_) ?_
  · exact fun c hc ↦ ⟨rfl, (List.mem_filter.1 hc).1⟩
  · rintro c d ⟨rfl, hc⟩
    exact h.forall₂_shapes_of_mem_children (source_shaper source n) hc

end IsBlock

/-- Lists that correspond one for one can be cut at the same place. -/
theorem exists_append_cons_of_forall₂ {α β : Type} {R : α → β → Prop} {as : List α}
    {bs bs' : List β} {b : β} (h : List.Forall₂ R as (bs ++ b :: bs')) :
    ∃ front a back, as = front ++ a :: back ∧ List.Forall₂ R front bs ∧ R a b ∧
      List.Forall₂ R back bs' := by
  have hfront := List.forall₂_take_append as bs (b :: bs') h
  have hback := List.forall₂_drop_append as bs (b :: bs') h
  obtain ⟨a, back, ha, hrest, hdrop⟩ := List.forall₂_cons_right_iff.1 hback
  exact ⟨as.take bs.length, a, back, by rw [← hdrop, List.take_append_drop], hfront, ha, hrest⟩

/-- **The statements of a block.** A block becomes one list node, whose members are the statements
of the block in their order: one for each declarator of a local declaration, none for an empty
statement, and one for any other statement. Wherever the node stands in a tree, the window of a
statement of the block holds the statement itself, the one in front of it and the one behind it. -/
theorem environmentWindow_of_isBlock {source : SourceText} (n : Nat) {row : Cst}
    (h : IsBlock source row) :
    ∃ o, (shaper source (n + 1)).convertRow row = [o] ∧ o.kind = .slist ∧
      List.Forall₂ (shaper source n).Shapes (blockItems row) (members o.children) ∧
      ∀ os i, (subtreesAll os)[i]? = some o →
        let t := Tree.ofOutlines os
        let Shapes (item : BlockItem) (x : Nat) := (shaper source n).Shapes item (t.outline x)
        ∀ line a x, IsLeast {j | j < t.size ∧ t.line j = line} a → t.IsInnermostMember a x i →
          t.kind x ∉ Kind.separators →
          ∃ before item after before' after',
            blockItems row = before ++ item :: after ∧ t.members i = before' ++ x :: after' ∧
            List.Forall₂ Shapes before before' ∧ Shapes item x ∧ List.Forall₂ Shapes after after' ∧
            (Site.ofLine t line).window .environment
              = t.subtrees (before'.getLast?.toList ++ x :: after'.head?.toList) := by
  refine ⟨_, h.convertRow_eq_block _, rfl, h.forall₂_shapes n, fun os i hi ↦ ?_⟩
  intro t Shapes line a x ha hx hkind
  obtain ⟨before', after', hmembers⟩ :=
    List.append_of_mem (Tree.mem_members_iff.2 ⟨hx.mem_children, hkind⟩)
  have hshapes := h.forall₂_shapes n
  rw [← Tree.outline_of_getElem?_subtreesAll hi, ← Tree.map_outline_members,
    List.forall₂_map_right_iff] at hshapes
  change List.Forall₂ Shapes _ (t.members i) at hshapes
  rw [hmembers] at hshapes
  obtain ⟨before, item, after, hitems, hbefore, hitem, hafter⟩ :=
    exists_append_cons_of_forall₂ hshapes
  exact ⟨before, item, after, before', after', hitems, hmembers, hbefore, hitem, hafter,
    Site.environmentWindow_of_isInnermostMember ha hx hmembers⟩

/-- The source of a block with a local declaration on its second line and a call on its third. -/
def declareAndCallSource : SourceText := .ofBytes "\x7b\nint a,b;\nf();;\n\x7d".toUTF8

/-- The block: a declaration of two variables, a call and an empty statement. -/
def declareAndCall : Cst :=
  ⟨"block", 0, 18, true, false, none,
    [⟨"\x7b", 0, 1, false, false, none, []⟩,
      ⟨"local_variable_declaration", 2, 10, true, false, none,
        [⟨"integral_type", 2, 5, true, false, some "type", []⟩,
          ⟨"variable_declarator", 6, 7, true, false, some "declarator",
            [⟨"identifier", 6, 7, true, false, some "name", []⟩]⟩,
          ⟨",", 7, 8, false, false, none, []⟩,
          ⟨"variable_declarator", 8, 9, true, false, some "declarator",
            [⟨"identifier", 8, 9, true, false, some "name", []⟩]⟩,
          ⟨";", 9, 10, false, false, none, []⟩]⟩,
      ⟨"expression_statement", 11, 15, true, false, none,
        [⟨"method_invocation", 11, 14, true, false, none,
            [⟨"identifier", 11, 12, true, false, some "name", []⟩,
              ⟨"argument_list", 12, 14, true, false, some "arguments",
                [⟨"(", 12, 13, false, false, none, []⟩, ⟨")", 13, 14, false, false, none, []⟩]⟩]⟩,
          ⟨";", 14, 15, false, false, none, []⟩]⟩,
      ⟨";", 15, 16, false, false, none, []⟩, ⟨"\x7d", 17, 18, false, false, none, []⟩]⟩

theorem isBlock_declareAndCall : IsBlock declareAndCallSource declareAndCall := by
  refine ⟨by decide, ?_⟩
  rw [declareAndCall]
  simp only [List.forall_mem_cons]
  exact ⟨.inr (.inl (by decide +kernel)), .inr (.inr (.localVariable rfl)),
    .inr (.inr (.expression rfl _ rfl)), .inr (.inr (.empty rfl (by decide +kernel))),
    .inr (.inl (by decide +kernel)), List.forall_mem_nil _⟩

/-- On the line of the call the window is that of the call and of its neighbours. -/
theorem environmentWindow_declareAndCall :
    let t := Tree.ofOutlines ((shaper declareAndCallSource 4).convertRow declareAndCall)
    IsBlock declareAndCallSource declareAndCall ∧ t.IsInnermostMember 13 13 0 ∧
    ∃ before item after before' after',
      blockItems declareAndCall = before ++ item :: after ∧ t.members 0 = before' ++ 13 :: after' ∧
      List.Forall₂ (fun item x ↦ (shaper declareAndCallSource 3).Shapes item (t.outline x))
        before before' ∧
      (Site.ofLine t 3).window .environment
        = t.subtrees (before'.getLast?.toList ++ 13 :: after'.head?.toList) := by
  intro t
  have hleast : IsLeast {j | j < t.size ∧ t.line j = 3} 13 := Site.isLeast_line (by decide +kernel)
  have hchildren : t.children 0 = [1, 6, 7, 12, 13, 18, 19, 20] :=
    Tree.children_eq_of_links (by decide +kernel) (by decide +kernel)
  have hinner : t.IsInnermostMember 13 13 0 :=
    Tree.isInnermostMember_self (by rw [hchildren]; decide) (by decide +kernel)
  have hkind : t.kind 13 ∉ Kind.separators := by decide +kernel
  obtain ⟨o, ho, -, -, hblock⟩ := environmentWindow_of_isBlock 3 isBlock_declareAndCall
  have hfirst : (subtreesAll ((shaper declareAndCallSource 4).convertRow declareAndCall))[0]?
      = some o := by
    rw [ho, subtreesAll, subtrees_eq]
    rfl
  obtain ⟨before, item, after, before', after', hitems, hmembers, hbefore, -, -, hneighbours⟩ :=
    hblock _ 0 hfirst 3 13 13 hleast hinner hkind
  exact ⟨isBlock_declareAndCall, hinner, before, item, after, before', after', hitems, hmembers,
    hbefore, hneighbours⟩

end Java

end LintMark

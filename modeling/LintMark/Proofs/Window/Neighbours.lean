import LintMark.Proofs.Java.Members
import LintMark.Proofs.Java.Origin.Source

/-!
# What stands around a statement

The members that the window of the enclosing statement selects stand in a list of statements or of
members. Three rules make such lists: blocks, bodies of types, and groups of a switch, which have no
rule of their own. In the list of a block or of a type every member is a statement or a member of
the type, since all signs in it are separators (`Reading.hasPart_of_isBlock`,
`Reading.hasPart_of_isTypeBody`).

A group of a switch starts with its labels, and the colon behind a label is no separator. So the
colons are members like the labels and the statements (`Reading.exists_isGroup`), and the window
selects one of them unless another statement of the group stands in front of the one at hand
(`Reading.environmentWindow_neighbours`).
-/

namespace LintMark

open Java

/-- The outline is a sign with nothing below it. -/
def Outline.IsBareSign (o : Outline) : Prop := o.children = [] ∧ o.kind ∈ signKinds

namespace Reading

open Cst Outline Shaper

/-! ## Readings -/

/-- The lists of statements and of members in a reading are as the grammar has them, and no other
row with children spells out the kind of such a list. -/
structure IsGrammatical (r : Reading) : Prop where
  block : ∀ row ∈ r.root.rows, Construct.ofType row.type = .block → IsBlock r.source row
  typeBody : ∀ row ∈ r.root.rows, Construct.ofType row.type = .typeBody → IsTypeBody r.source row
  switchGroup : ∀ row ∈ r.root.rows, row.type = "switch_block_statement_group" →
    IsSwitchGroup r.source row
  generic : ∀ row ∈ r.root.rows, row.children ≠ [] → Construct.ofType row.type = .generic →
    kindOfType row.type ∈ Kind.statementContainers → row.type = "switch_block_statement_group"

/-- The outline is shaped from a row with the property, and it is no sign. -/
def HasPart (r : Reading) (P : Cst → Prop) (o : Outline) : Prop :=
  ∃ row ∈ r.root.rows, P row ∧ (∃ n, o ∈ (shaper r.source n).convertRow row) ∧ o.kind ∉ signKinds

/-- The outline is a statement, a label of a switch, or a member of a type. -/
def IsItem (r : Reading) (o : Outline) : Prop :=
  r.HasPart (fun row ↦ IsStatement r.source row ∨ IsMember row ∨ row.type = "switch_label") o

variable {r : Reading} {o : Outline} {row : Cst}

theorem HasPart.mono {P Q : Cst → Prop} (h : r.HasPart P o) (hPQ : ∀ row, P row → Q row) :
    r.HasPart Q o := by
  obtain ⟨row, hrow, hP, hpart⟩ := h
  exact ⟨row, hrow, hPQ row hP, hpart⟩

theorem IsItem.not_isBareSign (h : r.IsItem o) : ¬ o.IsBareSign := by
  obtain ⟨-, -, -, -, hkind⟩ := h
  exact fun hsign ↦ hkind hsign.2

/-! ## Blocks and bodies of types -/

theorem hasPart_of_isBlock (hrow : row ∈ r.root.rows) (h : IsBlock r.source row) {n : Nat}
    (ho : o ∈ members ((shaper r.source n).block row).children) :
    r.HasPart (IsStatement r.source) o := by
  obtain ⟨ho, hkind⟩ := List.mem_filter.1 ho
  obtain ⟨c, hc, ho⟩ := List.mem_flatMap.1 ho
  have hc := (List.mem_filter.1 hc).1
  obtain ⟨m, ho⟩ := exists_of_mem_convert_shaper ho
  have hmembers : o ∈ members ((shaper r.source m).convertRow c) := List.mem_filter.2 ⟨ho, hkind⟩
  have hsource := source_shaper r.source m
  obtain hcomment | ⟨hbrace, hsign⟩ | hstatement := h.children c hc
  · rw [convertRow_of_isComment hcomment] at ho
    cases ho
  · rw [members_convertRow_of_isSign (by rwa [hsource]) (List.mem_append_left _ hbrace)] at hmembers
    cases hmembers
  · refine ⟨c, mem_rows_trans hrow (mem_rows_of_mem_children hc c.mem_rows_self), hstatement,
      ⟨m, ho⟩, ?_⟩
    exact IsStatement.kind_notMem_signKinds (by rwa [hsource]) hmembers

theorem hasPart_of_isBodyPart (hrow : row ∈ r.root.rows) (h : IsBodyPart r.source row) {n : Nat}
    (ho : o ∈ members ((shaper r.source n).convertRow row)) : r.HasPart IsMember o := by
  have hsource := source_shaper r.source n
  obtain hcomment | ⟨htype, hsign⟩ | hmember := h
  · rw [convertRow_of_isComment hcomment] at ho
    cases ho
  · rw [members_convertRow_of_isSign (by rwa [hsource]) htype] at ho
    cases ho
  · have ho := (List.mem_filter.1 ho).1
    exact ⟨row, hrow, hmember, ⟨n, ho⟩, hmember.kind_notMem_signKinds ho⟩

theorem hasPart_of_isTypeBody (hrow : row ∈ r.root.rows) (h : IsTypeBody r.source row) {n : Nat}
    (ho : o ∈ members ((shaper r.source n).typeBody row).children) : r.HasPart IsMember o := by
  obtain ⟨ho, hkind⟩ := List.mem_filter.1 ho
  obtain ⟨c, hc, ho⟩ := List.mem_flatMap.1 ho
  have hcrow := mem_rows_trans hrow (mem_rows_of_mem_children hc c.mem_rows_self)
  obtain ⟨m, ho⟩ := exists_of_mem_convert_shaper ho
  obtain hpart | ⟨htype, hparts⟩ := h.children c hc
  · exact hasPart_of_isBodyPart hcrow hpart (List.mem_filter.2 ⟨ho, hkind⟩)
  · -- The row of the members behind the constants leaves its place to them.
    have hconvert : (shaper r.source m).convertRow c
        = (shaper r.source m).convertAll c.children := by
      rw [convertRow, htype]
      rfl
    rw [hconvert] at ho
    obtain ⟨d, hd, ho⟩ := List.mem_flatMap.1 ho
    obtain ⟨k, ho⟩ := exists_of_mem_convert_shaper ho
    exact hasPart_of_isBodyPart
      (mem_rows_trans hcrow (mem_rows_of_mem_children hd d.mem_rows_self)) (hparts d hd)
      (List.mem_filter.2 ⟨ho, hkind⟩)

/-! ## Groups of a switch -/

/-- A list that maps to pairs put one behind the other is made of pairs itself. -/
theorem exists_pairs_of_map_eq {α β γ : Type} {f : α → β} {g g' : γ → β} {ps : List γ} {xs : List α}
    (h : xs.map f = ps.flatMap fun p ↦ [g p, g' p]) :
    ∃ qs : List (α × α), xs = qs.flatMap (fun q ↦ [q.1, q.2]) ∧ qs.length = ps.length ∧
      ∀ q ∈ qs, ∃ p ∈ ps, f q.1 = g p ∧ f q.2 = g' p := by
  induction ps generalizing xs with
  | nil => exact ⟨[], List.map_eq_nil_iff.1 h, rfl, nofun⟩
  | cons p ps ih =>
    obtain ⟨x, xs, rfl, hx, h⟩ := List.map_eq_cons_iff.1 h
    obtain ⟨y, xs, rfl, hy, h⟩ := List.map_eq_cons_iff.1 h
    obtain ⟨qs, rfl, hlength, hqs⟩ := ih h
    refine ⟨(x, y) :: qs, rfl, by rw [List.length_cons, List.length_cons, hlength],
      List.forall_mem_cons.2 ⟨⟨p, List.mem_cons_self, hx, hy⟩, fun q hq ↦ ?_⟩⟩
    obtain ⟨p', hp', heq⟩ := hqs q hq
    exact ⟨p', List.mem_cons_of_mem p hp', heq⟩

/-- Near every place among the labels of a group, and right behind them, there is a colon. -/
theorem exists_colon_near {labels : List (ℕ × ℕ)} {statements before after : List ℕ} {x : ℕ}
    (h : labels.flatMap (fun p ↦ [p.1, p.2]) ++ statements = before ++ x :: after)
    (hlabels : labels ≠ []) (hplace : before.length ≤ 2 * labels.length) :
    ∃ p ∈ labels, p.2 ∈ before.getLast?.toList ++ x :: after.head?.toList := by
  induction labels generalizing before with
  | nil => exact absurd rfl hlabels
  | cons p labels ih =>
    simp only [List.flatMap_cons, List.cons_append, List.nil_append] at h
    match before, h with
    | [], h =>
      -- The place is that of a label, and its colon is next.
      obtain ⟨-, rfl⟩ := List.cons.inj h
      exact ⟨p, List.mem_cons_self, List.mem_cons_of_mem x List.mem_cons_self⟩
    | [_], h =>
      -- The place is that of a colon.
      obtain ⟨rfl, -⟩ := List.cons.inj (List.cons.inj h).2
      exact ⟨p, List.mem_cons_self, List.mem_cons_of_mem _ List.mem_cons_self⟩
    | [_, _], h =>
      -- The place is right behind a colon.
      obtain ⟨rfl, -⟩ := List.cons.inj (List.cons.inj h).2
      exact ⟨p, List.mem_cons_self, List.mem_cons_self⟩
    | l :: l' :: d :: before, h =>
      have hrest : labels.flatMap (fun p ↦ [p.1, p.2]) ++ statements
          = (d :: before) ++ x :: after := (List.cons.inj (List.cons.inj h).2).2
      simp only [List.length_cons] at hplace
      have hne : labels ≠ [] := by
        rintro rfl
        rw [List.length_nil] at hplace
        omega
      obtain ⟨q, hq, hmem⟩ := ih hrest hne (by rw [List.length_cons]; omega)
      refine ⟨q, List.mem_cons_of_mem p hq, ?_⟩
      rwa [List.getLast?_cons_cons, List.getLast?_cons_cons]

/-! ## Containers in a tree -/

/-- The members of a node are those of a group of a switch: labels, each with its colon behind it,
and then statements. -/
structure IsGroup (r : Reading) (t : Tree) (c : ℕ) (labels : List (ℕ × ℕ)) (statements : List ℕ) :
    Prop where
  members_eq : t.members c = labels.flatMap (fun p ↦ [p.1, p.2]) ++ statements
  labels_ne_nil : labels ≠ []
  label : ∀ p ∈ labels, r.HasPart (fun row ↦ row.type = "switch_label") (t.outline p.1)
  colon : ∀ p ∈ labels, (t.outline p.2).IsBareSign
  statement : ∀ y ∈ statements, r.HasPart (IsStatement r.source) (t.outline y)

variable {path : Text} {strict : Bool} {t : Tree} {c : ℕ}

/-- A tree is laid out from what its root is shaped to, and the root does not nest too deep. -/
theorem fitsInto_and_eq_of_tree (ht : r.tree path strict = .ok t) :
    fitsInto nestingLimit r.root = true ∧
      t = Tree.ofOutlines ((shaper r.source nestingLimit).convertRow r.root) := by
  rw [tree] at ht
  split at ht
  · cases ht
  · split at ht
    · next os hos =>
      rw [outlines] at hos
      split at hos
      · cases hos
      · next hfits =>
        split at hos
        · cases hos
        · cases hos
          cases ht
          exact ⟨by simpa using hfits, rfl⟩
    · cases ht
    · cases ht

theorem eq_ofOutlines_of_tree (ht : r.tree path strict = .ok t) :
    t = Tree.ofOutlines ((shaper r.source nestingLimit).convertRow r.root) :=
  (fitsInto_and_eq_of_tree ht).2

theorem exists_makes_outline (ht : r.tree path strict = .ok t) (hc : c < t.size) :
    ∃ m, ∃ row ∈ r.root.rows, (shaper r.source m).Makes row (t.outline c) := by
  rw [eq_ofOutlines_of_tree ht] at hc ⊢
  obtain ⟨m, -, hmakes⟩ := exists_makes (Tree.outline_mem_subtreesAll hc)
  exact ⟨m, hmakes⟩

theorem outline_mem_members {y : ℕ} (hy : y ∈ t.members c) :
    t.outline y ∈ members (t.outline c).children := by
  rw [← t.map_outline_members]
  exact List.mem_map_of_mem hy

theorem exists_isGroup {n : ℕ} (hrow : row ∈ r.root.rows) (h : IsSwitchGroup r.source row)
    (ho : (t.outline c).children = (shaper r.source (n + 1)).convertAll row.children) :
    ∃ labels statements, r.IsGroup t c labels statements := by
  obtain ⟨labels, statements, hne, hlabels, hstatements, hcontent, hmembers⟩ :=
    members_of_isSwitchGroup h n
  have hmem : ∀ d ∈ row.content, d ∈ r.root.rows := fun d hd ↦ mem_rows_trans hrow
    (mem_rows_of_mem_children (mem_children_of_mem_content hd) d.mem_rows_self)
  rw [hcontent] at hmem
  rw [← ho, ← t.map_outline_members] at hmembers
  obtain ⟨front, back, hsplit, hfront, hback⟩ := List.map_eq_append_iff.1 hmembers
  obtain ⟨pairs, rfl, hlength, hpairs⟩ := exists_pairs_of_map_eq hfront
  refine ⟨pairs, back, hsplit, ?_, fun q hq ↦ ?_, fun q hq ↦ ?_, fun y hy ↦ ?_⟩
  · rintro rfl
    exact hne (List.length_eq_zero_iff.1 hlength.symm)
  · obtain ⟨p, hp, hlabel, -⟩ := hpairs q hq
    obtain ⟨hconvert, hkind⟩ := members_convertRow_of_switchLabel (hlabels p hp)
    refine ⟨p.1, hmem _ ?_, hlabels p hp, ⟨n, ?_⟩, by rwa [hlabel]⟩
    · exact List.mem_append_left _ (List.mem_flatMap.2 ⟨p, hp, List.mem_cons_self⟩)
    · rw [hlabel]
      exact (List.mem_filter.1 (hconvert ▸ List.mem_singleton_self _)).1
  · obtain ⟨p, hp, -, hcolon⟩ := hpairs q hq
    rw [hcolon]
    exact ⟨rfl, (by decide : Kind.colon ∈ signKinds)⟩
  · have hy : t.outline y ∈ back.map t.outline := List.mem_map_of_mem hy
    rw [hback] at hy
    obtain ⟨d, hd, hy⟩ := List.mem_flatMap.1 hy
    refine ⟨d, hmem d (List.mem_append_right _ hd), hstatements d hd,
      ⟨n, (List.mem_filter.1 hy).1⟩, ?_⟩
    exact IsStatement.kind_notMem_signKinds (by rw [source_shaper]; exact hstatements d hd) hy

/-- The members of a list of statements or members are items, or those of a group of a switch. -/
theorem members_cases (hr : r.IsGrammatical) (ht : r.tree path strict = .ok t)
    (hkind : t.kind c ∈ Kind.statementContainers) (hchildren : t.children c ≠ []) :
    (t.kind c ≠ .caseGroup ∧ ∀ y ∈ t.members c, r.IsItem (t.outline y)) ∨
    (t.kind c = .caseGroup ∧ ∃ labels statements, r.IsGroup t c labels statements) := by
  obtain ⟨m, row, hrow, hmakes⟩ :=
    exists_makes_outline ht (Tree.lt_size_of_children_ne_nil hchildren)
  rw [← Tree.kind_outline] at hkind ⊢
  have hne : (t.outline c).children ≠ [] := by
    rwa [Tree.children_outline, ne_eq, List.map_eq_nil_iff]
  obtain ⟨hconstruct, ho⟩ | ⟨hconstruct, ho⟩ | ⟨hconstruct, hrowChildren, ho⟩ :=
    hmakes.of_mem_statementContainers hkind hne
  · refine .inl ⟨by rw [ho]; exact (by decide : Kind.slist ≠ .caseGroup), fun y hy ↦ ?_⟩
    have hy := outline_mem_members hy
    rw [ho] at hy
    exact (hasPart_of_isBlock hrow (hr.block row hrow hconstruct) hy).mono fun _ h ↦ .inl h
  · refine .inl ⟨by rw [ho]; exact (by decide : Kind.objBlock ≠ .caseGroup), fun y hy ↦ ?_⟩
    have hy := outline_mem_members hy
    rw [ho] at hy
    exact (hasPart_of_isTypeBody hrow (hr.typeBody row hrow hconstruct) hy).mono
      fun _ h ↦ .inr (.inl h)
  · have htype : row.type = "switch_block_statement_group" := by
      refine hr.generic row hrow hrowChildren hconstruct ?_
      rwa [ho] at hkind
    refine .inr ⟨by rw [ho, kind_node, htype]; rfl, ?_⟩
    cases m with
    | zero =>
      refine absurd ?_ hne
      rw [ho]
      exact List.flatMap_eq_nil_iff.2 fun _ _ ↦ rfl
    | succ n => exact exists_isGroup hrow (hr.switchGroup row hrow htype) (by rw [ho]; rfl)

/-! ## The window -/

/-- A statement that some other statement of its group precedes has statements around it. -/
theorem IsGroup.isItem_of_near {labels : List (ℕ × ℕ)} {statements before after : List ℕ} {x y : ℕ}
    (h : r.IsGroup t c labels statements) (hmembers : t.members c = before ++ x :: after)
    (hplace : 2 * labels.length < before.length)
    (hy : y ∈ before.getLast?.toList ++ x :: after.head?.toList) : r.IsItem (t.outline y) := by
  have hlength : (labels.flatMap fun p ↦ [p.1, p.2]).length = 2 * labels.length := by
    simp only [List.length_flatMap, List.length_cons, List.length_nil, List.map_const',
      List.sum_replicate_nat]
    exact Nat.mul_comm _ _
  obtain ⟨others, hbefore, hstatements⟩ | ⟨others, hbefore, hstatements⟩ :=
    List.append_eq_append_iff.1 (h.members_eq.symm.trans hmembers)
  · refine (h.statement y ?_).mono fun _ hrow ↦ .inl hrow
    rw [hstatements]
    have hne : others ≠ [] := by
      rintro rfl
      rw [hbefore, List.append_nil, hlength] at hplace
      exact absurd hplace (Nat.lt_irrefl _)
    obtain hy | hy := List.mem_append.1 hy
    · rw [hbefore, List.getLast?_append_of_ne_nil _ hne] at hy
      exact List.mem_append_left _ (List.mem_of_getLast? (Option.mem_toList.1 hy))
    · refine List.mem_append_right _ ?_
      obtain rfl | hy := List.mem_cons.1 hy
      · exact List.mem_cons_self
      · exact List.mem_cons_of_mem _ (List.mem_of_head? (Option.mem_toList.1 hy))
  · have hle : before.length ≤ 2 * labels.length := by
      rw [← hlength, hbefore, List.length_append]
      exact Nat.le_add_right _ _
    exact absurd hplace (Nat.not_lt.2 hle)

/-- **The neighbours of a statement.** Where the window of the enclosing statement is not that of
the line, it consists of the subtrees of at most three members of one list. If that is a block or
the body of a type, each of the members is a statement or a member of a type, and none is a bare
sign. If it is a group of a switch, its members are the labels, the colons behind them and the
statements, and the window selects no colon exactly when there are more members in front of the one
at hand than the labels and their colons, that is, when another statement of the group stands
there. -/
theorem environmentWindow_neighbours (hr : r.IsGrammatical) (ht : r.tree path strict = .ok t)
    {line : Int} {a x : ℕ} (ha : IsLeast {i | i < t.size ∧ t.line i = line} a)
    (hx : t.IsInnermostMember a x c) (hkind : t.kind x ∉ Kind.separators) :
    ∃ before after, t.members c = before ++ x :: after ∧
      let chosen := before.getLast?.toList ++ x :: after.head?.toList
      (Site.ofLine t line).window .environment = t.subtrees chosen ∧
      (t.kind c ≠ .caseGroup →
        ∀ y ∈ chosen, r.IsItem (t.outline y) ∧ ¬ (t.outline y).IsBareSign) ∧
      (t.kind c = .caseGroup → ∃ labels statements, r.IsGroup t c labels statements ∧
        ((∀ y ∈ chosen, ¬ (t.outline y).IsBareSign) ↔ 2 * labels.length < before.length) ∧
        (2 * labels.length < before.length → ∀ y ∈ chosen, r.IsItem (t.outline y))) := by
  obtain ⟨before, after, hmembers⟩ :=
    List.append_of_mem (Tree.mem_members_iff.2 ⟨hx.mem_children, hkind⟩)
  have hchosen : before.getLast?.toList ++ x :: after.head?.toList ⊆ t.members c := by
    rw [hmembers]
    refine List.append_subset.2 ⟨fun y hy ↦ ?_, fun y hy ↦ ?_⟩
    · exact List.mem_append_left _ (List.mem_of_getLast? (Option.mem_toList.1 hy))
    · refine List.mem_append_right _ (List.cons_subset_cons x (fun z hz ↦ ?_) hy)
      exact List.mem_of_head? (Option.mem_toList.1 hz)
  have hwindow : (Site.ofLine t line).window .environment
      = t.subtrees (before.getLast?.toList ++ x :: after.head?.toList) := by
    obtain rfl := eq_ofOutlines_of_tree ht
    exact Site.environmentWindow_of_isInnermostMember ha hx hmembers
  refine ⟨before, after, hmembers, hwindow, fun hne ↦ ?_, fun hgroup ↦ ?_⟩
  · obtain ⟨-, hitems⟩ | ⟨hgroup, -⟩ :=
      members_cases hr ht hx.kind_mem (List.ne_nil_of_mem hx.mem_children)
    · exact fun y hy ↦ ⟨hitems y (hchosen hy), (hitems y (hchosen hy)).not_isBareSign⟩
    · exact absurd hgroup hne
  · obtain ⟨hne, -⟩ | ⟨-, labels, statements, h⟩ :=
      members_cases hr ht hx.kind_mem (List.ne_nil_of_mem hx.mem_children)
    · exact absurd hgroup hne
    · have hitems := fun hplace y hy ↦ h.isItem_of_near (y := y) hmembers hplace hy
      refine ⟨labels, statements, h, ⟨fun hbare ↦ ?_, fun hplace y hy ↦ ?_⟩, hitems⟩
      · by_contra hplace
        obtain ⟨p, hp, hnear⟩ := exists_colon_near (h.members_eq.symm.trans hmembers)
          h.labels_ne_nil (Nat.not_lt.1 hplace)
        exact hbare p.2 hnear (h.colon p hp)
      · exact (hitems hplace y hy).not_isBareSign

/-! ## A label on two lines -/

/-- A group with one label and two calls. -/
def wrappedGroup : Cst :=
  let call (start : ℕ) : Cst :=
    ⟨"expression_statement", start, start + 5, true, false, none,
      [⟨"method_invocation", start, start + 4, true, false, none,
          [⟨"identifier", start, start + 1, true, false, some "name", []⟩,
            ⟨"argument_list", start + 1, start + 4, true, false, some "arguments",
              [⟨"(", start + 1, start + 2, false, false, none, []⟩,
                ⟨"decimal_integer_literal", start + 2, start + 3, true, false, none, []⟩,
                ⟨")", start + 3, start + 4, false, false, none, []⟩]⟩]⟩,
        ⟨";", start + 4, start + 5, false, false, none, []⟩]⟩
  ⟨"switch_block_statement_group", 39, 58, true, false, none,
    [⟨"switch_label", 39, 45, true, false, none,
        [⟨"case", 39, 43, false, false, none, []⟩,
          ⟨"decimal_integer_literal", 44, 45, true, false, none, []⟩]⟩,
      ⟨":", 45, 46, false, false, none, []⟩, call 47, call 53]⟩

/-- The block of the switch. -/
def wrappedBlock : Cst :=
  ⟨"block", 24, 62, true, false, some "body",
    [⟨"\x7b", 24, 25, false, false, none, []⟩,
      ⟨"switch_expression", 26, 60, true, false, none,
        [⟨"switch", 26, 32, false, false, none, []⟩,
          ⟨"parenthesized_expression", 33, 36, true, false, some "condition",
            [⟨"(", 33, 34, false, false, none, []⟩, ⟨"identifier", 34, 35, true, false, none, []⟩,
              ⟨")", 35, 36, false, false, none, []⟩]⟩,
          ⟨"switch_block", 37, 60, true, false, some "body",
            [⟨"\x7b", 37, 38, false, false, none, []⟩, wrappedGroup,
              ⟨"\x7d", 59, 60, false, false, none, []⟩]⟩]⟩,
      ⟨"\x7d", 61, 62, false, false, none, []⟩]⟩

/-- The body of the class. -/
def wrappedBody : Cst :=
  ⟨"class_body", 8, 64, true, false, some "body",
    [⟨"\x7b", 8, 9, false, false, none, []⟩,
      ⟨"method_declaration", 10, 62, true, false, none,
        [⟨"void_type", 10, 14, true, false, some "type", []⟩,
          ⟨"identifier", 15, 16, true, false, some "name", []⟩,
          ⟨"formal_parameters", 16, 23, true, false, some "parameters",
            [⟨"(", 16, 17, false, false, none, []⟩,
              ⟨"formal_parameter", 17, 22, true, false, none,
                [⟨"integral_type", 17, 20, true, false, some "type",
                    [⟨"int", 17, 20, false, false, none, []⟩]⟩,
                  ⟨"identifier", 21, 22, true, false, some "name", []⟩]⟩,
              ⟨")", 22, 23, false, false, none, []⟩]⟩,
          wrappedBlock]⟩,
      ⟨"\x7d", 63, 64, false, false, none, []⟩]⟩

/-- A class with a method that switches. The label starts on the fourth line, and the rest of it and
its colon are on the fifth; the calls are on the sixth line and on the seventh. -/
def wrappedLabel : Reading where
  source := .ofBytes ("class A \x7b\nvoid m(int x) \x7b\nswitch (x) \x7b\ncase\n1:\nf(2);\ng(3);\n" ++
    "\x7d\n\x7d\n\x7d\n").toUTF8
  root :=
    ⟨"program", 0, 65, true, false, none,
      [⟨"class_declaration", 0, 64, true, false, none,
          [⟨"class", 0, 5, false, false, none, []⟩,
            ⟨"identifier", 6, 7, true, false, some "name", []⟩,
            wrappedBody]⟩]⟩
  flagged := false

theorem isSwitchGroup_wrappedGroup : IsSwitchGroup wrappedLabel.source wrappedGroup where
  exists_content := by
    refine ⟨[(_, _)], [_, _], rfl, List.cons_ne_nil _ _, ?_, ?_⟩
    · simp only [List.forall_mem_cons]
      exact ⟨by decide +kernel, List.forall_mem_nil _⟩
    · simp only [List.forall_mem_cons]
      exact ⟨.expression rfl _ rfl, .expression rfl _ rfl, List.forall_mem_nil _⟩

theorem isBlock_wrappedBlock : IsBlock wrappedLabel.source wrappedBlock := by
  refine ⟨by decide, ?_⟩
  rw [wrappedBlock]
  simp only [List.forall_mem_cons]
  exact ⟨.inr (.inl (by decide +kernel)), .inr (.inr (.keyword (by decide) (List.cons_ne_nil _ _))),
    .inr (.inl (by decide +kernel)), List.forall_mem_nil _⟩

theorem isTypeBody_wrappedBody : IsTypeBody wrappedLabel.source wrappedBody := by
  refine ⟨?_⟩
  rw [wrappedBody]
  simp only [List.forall_mem_cons]
  exact ⟨.inl (.inr (.inl (by decide +kernel))), .inl (.inr (.inr (.method rfl))),
    .inl (.inr (.inl (by decide +kernel))), List.forall_mem_nil _⟩

theorem eq_of_filter_eq_singleton {α : Type} {p : α → Bool} {xs : List α} {x y : α}
    (h : xs.filter p = [y]) (hx : x ∈ xs) (hp : p x = true) : x = y := by
  have hmem := List.mem_filter.2 ⟨hx, hp⟩
  rw [h] at hmem
  exact List.mem_singleton.1 hmem

theorem isGrammatical_wrappedLabel : wrappedLabel.IsGrammatical := by
  have hblock : (wrappedLabel.root.rows.filter fun row ↦ Construct.ofType row.type = .block)
      = [wrappedBlock] := by rfl
  have hbody : (wrappedLabel.root.rows.filter fun row ↦ Construct.ofType row.type = .typeBody)
      = [wrappedBody] := by rfl
  have hgroup : (wrappedLabel.root.rows.filter fun row ↦
      row.type = "switch_block_statement_group") = [wrappedGroup] := by rfl
  refine ⟨fun row hrow htype ↦ ?_, fun row hrow htype ↦ ?_, fun row hrow htype ↦ ?_,
    by decide +kernel⟩
  · rw [eq_of_filter_eq_singleton hblock hrow (decide_eq_true htype)]
    exact isBlock_wrappedBlock
  · rw [eq_of_filter_eq_singleton hbody hrow (decide_eq_true htype)]
    exact isTypeBody_wrappedBody
  · rw [eq_of_filter_eq_singleton hgroup hrow (decide_eq_true htype)]
    exact isSwitchGroup_wrappedGroup

/-- The tree of the class. -/
def wrappedTree : Tree :=
  .ofOutlines ((shaper wrappedLabel.source nestingLimit).convertRow wrappedLabel.root)

theorem tree_wrappedLabel : wrappedLabel.tree "A.java" true = .ok wrappedTree := by rfl

/-- The nodes of the group that are not below the calls: their kinds and their links. -/
theorem nodes_wrappedTree : ∀ p ∈ [(28, Kind.caseGroup, some 29, some 49),
      (29, .literalCase, some 30, some 32), (30, .expr, some 31, none), (31, .numInt, none, none),
      (32, .colon, none, some 33), (33, .expr, some 34, some 40), (40, .semi, none, some 41),
      (41, .expr, some 42, some 48), (48, .semi, none, none)],
    wrappedTree.kind p.1 = p.2.1 ∧ (wrappedTree.node p.1).firstChild = p.2.2.1 ∧
      (wrappedTree.node p.1).nextSibling = p.2.2.2 := by decide +kernel

theorem isLeast_wrappedTree : ∀ p ∈ [((5 : ℤ), 30), (6, 33), (7, 41)],
    IsLeast {i | i < wrappedTree.size ∧ wrappedTree.line i = p.1} p.2 := by
  have hfirst : ∀ p ∈ [((5 : ℤ), 30), (6, 33), (7, 41)], p.2 < wrappedTree.size ∧
      wrappedTree.line p.2 = p.1 ∧ ∀ i < p.2, wrappedTree.line i ≠ p.1 := by decide +kernel
  exact fun p hp ↦ Site.isLeast_line (hfirst p hp)

theorem children_wrappedTree : wrappedTree.children 28 = [29, 32, 33, 40, 41, 48] ∧
    wrappedTree.children 29 = [30] ∧ wrappedTree.children 30 = [31] ∧
    wrappedTree.children 31 = [] ∧ wrappedTree.children 32 = [] := by
  have hnodes := nodes_wrappedTree
  simp only [List.forall_mem_cons] at hnodes
  obtain ⟨h28, h29, h30, h31, h32, h33, h40, h41, h48, -⟩ := hnodes
  refine ⟨Tree.children_eq_of_links h28.2.1 ?_, Tree.children_eq_of_links h29.2.1 ?_,
    Tree.children_eq_of_links h30.2.1 ?_, ?_, ?_⟩
  · simp [h29, h32, h33, h40, h41, h48]
  · simp [h30]
  · simp [h31]
  · simp [Tree.children, h31]
  · simp [Tree.children, h32]

theorem members_wrappedTree : wrappedTree.members 28 = [29, 32, 33, 41] := by
  have hnodes := nodes_wrappedTree
  simp only [List.forall_mem_cons] at hnodes
  obtain ⟨-, h29, -, -, h32, h33, h40, h41, h48, -⟩ := hnodes
  rw [Tree.members, children_wrappedTree.1]
  simp only [List.filter_cons, h29.1, h32.1, h33.1, h40.1, h41.1, h48.1]
  decide

theorem isInnermostMember_wrappedTree {x : ℕ} (hx : x ∈ wrappedTree.members 28) :
    wrappedTree.IsInnermostMember x x 28 := by
  refine Tree.isInnermostMember_self (Tree.mem_members_iff.1 hx).1 ?_
  rw [(nodes_wrappedTree (28, _, _, _) List.mem_cons_self).1]
  decide

/-- On the line of the second call the window consists of the two calls. -/
theorem environmentWindow_secondCall :
    (Site.ofLine wrappedTree 7).window .environment = wrappedTree.subtrees [33, 41] ∧
    ∀ y ∈ [33, 41], wrappedLabel.IsItem (wrappedTree.outline y) := by
  have hcall : 41 ∈ wrappedTree.members 28 := by
    rw [members_wrappedTree]
    decide
  obtain ⟨before, after, hmembers, hwindow, -, hgroup⟩ := environmentWindow_neighbours
    isGrammatical_wrappedLabel tree_wrappedLabel (isLeast_wrappedTree (7, 41) (by decide))
    (isInnermostMember_wrappedTree hcall) (Tree.mem_members_iff.1 hcall).2
  have hnodes := nodes_wrappedTree
  simp only [List.forall_mem_cons] at hnodes
  obtain ⟨h28, -, -, -, -, h33, -, h41, -⟩ := hnodes
  obtain ⟨labels, statements, -, hiff, hitems⟩ := hgroup h28.1
  have hsplit : [29, 32, 33] ++ 41 :: [] = before ++ 41 :: after :=
    members_wrappedTree.symm.trans hmembers
  obtain ⟨rfl, -, rfl⟩ := (List.append_cons_inj_of_notMem (by decide) (by decide)).1 hsplit
  have hkinds : ∀ y ∈ [33, 41], wrappedTree.kind y ∉ signKinds := by
    simp only [List.forall_mem_cons, h33.1, h41.1]
    decide
  exact ⟨hwindow, hitems (hiff.1 fun y hy hbare ↦ hkinds y hy hbare.2)⟩

/-- On the second line of the label the window consists of the label and its colon; the first call
is not in it. On the line of the first call the window starts with the colon. -/
theorem environmentWindow_wrappedLabel :
    wrappedLabel.IsGrammatical ∧ wrappedLabel.hasFault = false ∧
    wrappedLabel.tree "A.java" true = .ok wrappedTree ∧
    wrappedTree.kind 29 = .literalCase ∧ (wrappedTree.outline 32).IsBareSign ∧
    wrappedTree.members 28 = [29, 32, 33, 41] ∧
    IsLeast {i | i < wrappedTree.size ∧ wrappedTree.line i = 5} 30 ∧
    wrappedTree.IsInnermostMember 30 29 28 ∧
    (Site.ofLine wrappedTree 5).window .environment = wrappedTree.subtrees [29, 32] ∧
    33 ∉ (Site.ofLine wrappedTree 5).window .environment ∧
    IsLeast {i | i < wrappedTree.size ∧ wrappedTree.line i = 6} 33 ∧
    wrappedTree.IsInnermostMember 33 33 28 ∧
    (Site.ofLine wrappedTree 6).window .environment = wrappedTree.subtrees [32, 33, 41] := by
  have hlabelLine := isLeast_wrappedTree (5, 30) (by decide)
  have hcallLine := isLeast_wrappedTree (6, 33) (by decide)
  have hnodes := nodes_wrappedTree
  simp only [List.forall_mem_cons] at hnodes
  obtain ⟨-, h29, -, -, h32, -⟩ := hnodes
  obtain ⟨-, h29Children, h30Children, h31Children, h32Children⟩ := children_wrappedTree
  have hlaidOut : wrappedTree.LaidOut := Tree.laidOut_ofOutlines _
  have hlabel : wrappedTree.IsInnermostMember 30 29 28 := by
    refine hlaidOut.isInnermostMember_of_mem_children
      (isInnermostMember_wrappedTree (by rw [members_wrappedTree]; decide)) ?_ ?_
    · rw [h29Children]
      exact List.mem_singleton_self 30
    · rw [h29.1]
      decide
  have hcall : wrappedTree.IsInnermostMember 33 33 28 :=
    isInnermostMember_wrappedTree (by rw [members_wrappedTree]; decide)
  have hlabelMembers : wrappedTree.members 28 = [] ++ 29 :: [32, 33, 41] := members_wrappedTree
  have hcallMembers : wrappedTree.members 28 = [29, 32] ++ 33 :: [41] := members_wrappedTree
  have hlabelWindow : (Site.ofLine wrappedTree 5).window .environment
      = wrappedTree.subtrees [29, 32] :=
    Site.environmentWindow_of_isInnermostMember hlabelLine hlabel hlabelMembers
  have hcallWindow : (Site.ofLine wrappedTree 6).window .environment
      = wrappedTree.subtrees [32, 33, 41] :=
    Site.environmentWindow_of_isInnermostMember hcallLine hcall hcallMembers
  have hbare : (wrappedTree.outline 32).IsBareSign := by
    refine ⟨?_, ?_⟩
    · rw [Tree.children_outline, h32Children, List.map_nil]
    · rw [Tree.kind_outline, h32.1]
      decide
  refine ⟨isGrammatical_wrappedLabel, by decide +kernel, tree_wrappedLabel, h29.1, hbare,
    members_wrappedTree, hlabelLine, hlabel, hlabelWindow, ?_, hcallLine, hcall, hcallWindow⟩
  rw [hlabelWindow]
  -- The subtree of the label ends in front of the colon, and the colon has nothing below it.
  have hsubtree : wrappedTree.subtrees [29, 32] = [29, 30, 31, 32] := by
    rw [Tree.subtrees, List.flatMap_cons, List.flatMap_singleton,
      ← wrappedTree.cons_subtrees_children 29, h29Children, Tree.subtrees, List.flatMap_singleton,
      ← wrappedTree.cons_subtrees_children 30, h30Children, Tree.subtrees, List.flatMap_singleton,
      ← wrappedTree.cons_subtrees_children 31, h31Children,
      ← wrappedTree.cons_subtrees_children 32, h32Children]
    rfl
  exact fun hmem ↦ absurd (hsubtree ▸ hmem : 33 ∈ [29, 30, 31, 32]) (by decide)

end Reading

end LintMark

import LintMark.Java.Shape.Descent
import LintMark.Proofs.Java.Comments

/-!
# Comments and the levels of a tree

The rows that shaping a row goes down to are those of the row without comments, and the comments
among them. A comment takes a level but hides nothing, so it never is what makes a tree too deep:
next to it stands a row that is no comment and takes a level as well. Nor is a comment ever an
increment.
-/

namespace LintMark.Java

open Cst

variable {row : Cst}

theorem Construct.ofType_of_isComment {c : Cst} (hc : c.isComment = true) :
    Construct.ofType c.type = .comment := by
  have hmem : c.type ∈ commentTypes := of_decide_eq_true hc
  rw [commentTypes, List.mem_cons, List.mem_cons, List.mem_singleton] at hmem
  obtain htype | htype | htype := hmem
  · rw [htype]
    decide
  · rw [htype]
    decide
  · rw [htype]
    decide

theorem shapedBelow_of_isComment {c : Cst} (hc : c.isComment = true) : shapedBelow c = [] := by
  rw [shapedBelow, Construct.ofType_of_isComment hc]

/-! ## Lists that differ in comments -/

/-- The second list is the first one without comments, and the members of the first one are
tidy. -/
structure Clears (cs ds : List Cst) : Prop where
  tidy : ∀ c ∈ cs, c.Tidy
  eq : ds = dropComments cs

namespace Clears

variable {cs ds cs' ds' : List Cst}

theorem nil : Clears [] [] := ⟨fun _ h ↦ absurd h List.not_mem_nil, rfl⟩

theorem append (h : Clears cs ds) (h' : Clears cs' ds') : Clears (cs ++ cs') (ds ++ ds') := by
  refine ⟨fun c hc ↦ ?_, by rw [h.eq, h'.eq, dropComments_append]⟩
  obtain hc | hc := List.mem_append.1 hc
  · exact h.tidy c hc
  · exact h'.tidy c hc

theorem flatMap {f g : Cst → List Cst} (h : ∀ c ∈ cs, Clears (f c) (g c.withoutComments)) :
    Clears (cs.flatMap f) ((cs.map withoutComments).flatMap g) := by
  induction cs with
  | nil => exact nil
  | cons c cs ih =>
    rw [List.map_cons, List.flatMap_cons, List.flatMap_cons]
    exact (h c List.mem_cons_self).append (ih fun d hd ↦ h d (List.mem_cons_of_mem c hd))

theorem children (h : row.TidyBelow) : Clears row.children row.withoutComments.children :=
  ⟨h, row.children_withoutComments_eq⟩

theorem filter {p : Cst → Bool} (h : row.TidyBelow) (hp : ∀ c, p c.withoutComments = p c) :
    Clears (row.children.filter p) (row.withoutComments.children.filter p) :=
  ⟨fun c hc ↦ h c (List.mem_filter.1 hc).1,
    by rw [children_withoutComments_eq, filter_dropComments hp]⟩

theorem modifierParts (h : row.TidyBelow) :
    Clears (modifierParts row) (modifierParts row.withoutComments) := by
  rw [Java.modifierParts, Java.modifierParts, find?_type_withoutComments (by decide)]
  cases hc : row.children.find? fun c ↦ c.type = "modifiers" with
  | none => exact nil
  | some c => exact children (h.of_find? hc).tidyBelow

end Clears

/-! ## Rows in fields -/

theorem inFields_withoutComments (h : row.TidyBelow) (fields : List String) :
    inFields row.withoutComments fields = (inFields row fields).map withoutComments := by
  rw [inFields, inFields, List.map_filterMap]
  exact List.filterMap_congr fun field _ ↦ h.field?_eq field

theorem TidyBelow.of_mem_inFields (h : row.TidyBelow) {fields : List String} {c : Cst}
    (hc : c ∈ inFields row fields) : c.Tidy := by
  obtain ⟨field, -, hfield⟩ := List.mem_filterMap.1 hc
  exact h.of_field? hfield

/-- A comment stands in no field. -/
theorem isComment_of_mem_inFields (h : row.TidyBelow) {fields : List String} {c : Cst}
    (hc : c ∈ inFields row fields) : c.isComment = false := by
  obtain ⟨field, -, hfield⟩ := List.mem_filterMap.1 hc
  exact h.isComment_of_field? hfield

theorem Clears.inFields (h : row.TidyBelow) (fields : List String) :
    Clears (inFields row fields) (inFields row.withoutComments fields) := by
  refine ⟨fun c ↦ TidyBelow.of_mem_inFields h, ?_⟩
  rw [inFields_withoutComments h,
    dropComments_eq_map_of_forall fun c ↦ isComment_of_mem_inFields h]

/-! ## Rows below -/

/-- **Deleting the comments below a row deletes the comments among the rows that shaping it goes
down to, and the comments below these rows.** -/
theorem clears_shapedBelow (h : row.TidyBelow) :
    Clears (shapedBelow row) (shapedBelow row.withoutComments) := by
  rw [shapedBelow, shapedBelow, type_withoutComments]
  cases Construct.ofType row.type with
  | comment | leaf | integer | float | primitiveType => exact Clears.nil
  | importDecl => exact Clears.filter h fun c ↦ by rw [type_withoutComments]
  | field | localVariable =>
    dsimp only
    rw [filter_type_withoutComments (by decide)]
    refine Clears.flatMap fun d hd ↦ ?_
    have hd : d.TidyBelow := (h d (List.mem_filter.1 hd).1).tidyBelow
    exact ((Clears.modifierParts h).append (Clears.inFields h _)).append (Clears.inFields hd _)
  | methodCall =>
    dsimp only
    rw [inFields_withoutComments h ["arguments"]]
    exact (Clears.inFields h _).append
      (Clears.flatMap fun c hc ↦ Clears.children (TidyBelow.of_mem_inFields h hc).tidyBelow)
  | arrayAccess | arrayType => exact Clears.inFields h _
  | enhancedFor => exact (Clears.modifierParts h).append (Clears.inFields h _)
  | keywordStatement =>
    have hmem : ∀ c ∈ row.content.tail, c ∈ row.content := fun c ↦ List.mem_of_mem_tail
    refine ⟨fun c hc ↦ h.of_mem_content (hmem c hc), ?_⟩
    dsimp only
    rw [content_withoutComments, ← List.map_tail,
      dropComments_eq_map_of_forall fun c hc ↦ isComment_of_mem_content (hmem c hc)]
  | _ => exact Clears.children h

/-! ## Rows next to a comment -/

/-- A list of siblings that is not made of comments alone. -/
def Remains (cs : List Cst) : Prop := dropComments cs = [] → cs = []

theorem Remains.append {cs ds : List Cst} (hcs : Remains cs) (hds : Remains ds) :
    Remains (cs ++ ds) := by
  intro hnil
  rw [dropComments_append, List.append_eq_nil_iff] at hnil
  rw [hcs hnil.1, hds hnil.2, List.nil_append]

theorem Remains.flatMap {cs : List Cst} {f : Cst → List Cst} (h : ∀ c ∈ cs, Remains (f c)) :
    Remains (cs.flatMap f) := by
  induction cs with
  | nil => exact fun _ ↦ rfl
  | cons c cs ih =>
    rw [List.flatMap_cons]
    exact (h c List.mem_cons_self).append (ih fun d hd ↦ h d (List.mem_cons_of_mem c hd))

theorem remains_of_forall {cs : List Cst} (h : ∀ c ∈ cs, c.isComment = false) : Remains cs := by
  intro hnil
  rwa [dropComments_eq_map_of_forall h, List.map_eq_nil_iff] at hnil

theorem remains_children (h : row.Tidy) : Remains row.children := by
  intro hnil
  rw [← children_withoutComments_eq, children_withoutComments, List.map_eq_nil_iff] at hnil
  by_contra hchildren
  exact h.content_ne_nil hchildren hnil

theorem remains_inFields (h : row.TidyBelow) (fields : List String) :
    Remains (inFields row fields) := remains_of_forall fun _ ↦ isComment_of_mem_inFields h

theorem remains_modifierParts (h : row.TidyBelow) : Remains (modifierParts row) := by
  rw [modifierParts]
  cases hc : row.children.find? fun c ↦ c.type = "modifiers" with
  | none => exact fun _ ↦ rfl
  | some c => exact remains_children (h.of_find? hc)

theorem remains_shapedBelow (h : row.Tidy) : Remains (shapedBelow row) := by
  have hbelow : row.TidyBelow := h.tidyBelow
  rw [shapedBelow]
  cases Construct.ofType row.type with
  | comment | leaf | integer | float | primitiveType => exact fun _ ↦ rfl
  | importDecl =>
    refine remains_of_forall fun c hc ↦ ?_
    rw [← Bool.not_eq_true]
    intro hcomment
    exact type_notMem_of_isComment hcomment (by decide) (of_decide_eq_true (List.mem_filter.1 hc).2)
  | field | localVariable =>
    refine Remains.flatMap fun d hd ↦ ?_
    have hd : d.TidyBelow := (hbelow d (List.mem_filter.1 hd).1).tidyBelow
    exact ((remains_modifierParts hbelow).append (remains_inFields hbelow _)).append
      (remains_inFields hd _)
  | methodCall =>
    exact (remains_inFields hbelow _).append
      (Remains.flatMap fun c hc ↦ remains_children (TidyBelow.of_mem_inFields hbelow hc))
  | arrayAccess | arrayType => exact remains_inFields hbelow _
  | enhancedFor => exact (remains_modifierParts hbelow).append (remains_inFields hbelow _)
  | keywordStatement =>
    exact remains_of_forall fun c hc ↦ isComment_of_mem_content (List.mem_of_mem_tail hc)
  | _ => exact remains_children h

/-! ## Levels -/

theorem all_fitsInto_zero (cs : List Cst) : cs.all (fitsInto 0) = cs.isEmpty := by
  cases cs with
  | nil => rfl
  | cons c cs => rfl

theorem fitsInto_succ_of_isComment (n : ℕ) {c : Cst} (hc : c.isComment = true) :
    fitsInto (n + 1) c = true := by
  rw [fitsInto, shapedBelow_of_isComment hc, List.all_nil]

/-- The induction is on the levels. On the last one a row fits only if nothing stands below it, and
there a row that remains has to stand in for the comments. -/
theorem fitsInto_withoutComments (n : ℕ) (h : row.Tidy) :
    fitsInto n row.withoutComments = fitsInto n row := by
  induction n generalizing row with
  | zero => rfl
  | succ n ih =>
    obtain ⟨htidy, heq⟩ := clears_shapedBelow h.tidyBelow
    rw [fitsInto, fitsInto, heq]
    cases n with
    | zero =>
      rw [all_fitsInto_zero, all_fitsInto_zero, Bool.eq_iff_iff, List.isEmpty_iff,
        List.isEmpty_iff]
      refine ⟨remains_shapedBelow h, fun hnil ↦ ?_⟩
      rw [hnil, dropComments]
    | succ n =>
      exact all_dropComments (fun c _ ↦ fitsInto_succ_of_isComment n) fun c hc ↦ ih (htidy c hc)

/-- The root may consist of comments alone, as long as there are two levels. -/
theorem fitsInto_root_withoutComments (n : ℕ) (h : row.TidyBelow) :
    fitsInto (n + 2) row.withoutComments = fitsInto (n + 2) row := by
  obtain ⟨htidy, heq⟩ := clears_shapedBelow h
  rw [fitsInto, fitsInto, heq]
  exact all_dropComments (fun c _ ↦ fitsInto_succ_of_isComment n)
    fun c hc ↦ fitsInto_withoutComments (n + 1) (htidy c hc)

/-! ## Bare increments -/

theorem isBareUpdate_withoutComments (row : Cst) :
    isBareUpdate row.withoutComments = isBareUpdate row := by
  rw [isBareUpdate, type_withoutComments, content_withoutComments, List.isEmpty_map, isBareUpdate]

theorem meetsBareUpdate_of_isComment (n : ℕ) {c : Cst} (hc : c.isComment = true) :
    meetsBareUpdate n c = false := by
  cases n with
  | zero => rfl
  | succ n =>
    rw [meetsBareUpdate, isBareUpdate, Construct.ofType_of_isComment hc,
      shapedBelow_of_isComment hc]
    rfl

theorem meetsBareUpdate_withoutComments (n : ℕ) (h : row.TidyBelow) :
    meetsBareUpdate n row.withoutComments = meetsBareUpdate n row := by
  induction n generalizing row with
  | zero => rfl
  | succ n ih =>
    obtain ⟨htidy, heq⟩ := clears_shapedBelow h
    rw [meetsBareUpdate, isBareUpdate_withoutComments, heq,
      any_dropComments (fun c _ ↦ meetsBareUpdate_of_isComment n)
        fun c hc ↦ ih (htidy c hc).tidyBelow,
      meetsBareUpdate]

end LintMark.Java

import LintMark.Java.Cst
import Mathlib.Data.List.Basic

/-!
# Rows without comments

`Cst.withoutComments` deletes the comments below a row and leaves every other row as it is, with its
type, its flags, its field and its offsets.

## What a grammar promises of comments

`Cst.Tidy` says of a row, and of everything below it, that comments have a name, no field, no
children and no fault, and that no row consists of comments alone. Without the last condition the
deletion would turn a construct into a leaf.

## Lists of siblings

A rule looks at the children of a row through a list operation: it folds or collects over them,
looks for the first one in a field, or asks for its place. There is one law for each operation. All
of them ask that the test or the function at hand ignores comments, and that it cannot tell a row
from the same row without comments.
-/

namespace LintMark

namespace Cst

mutual

/-- The row without the comments below it. -/
def withoutComments : Cst → Cst
  | ⟨type, start, stop, named, missing, field, children⟩ =>
    ⟨type, start, stop, named, missing, field, dropComments children⟩

/-- The members of a list of siblings that are no comments, without the comments below them. -/
def dropComments : List Cst → List Cst
  | [] => []
  | c :: cs => if c.isComment then dropComments cs else c.withoutComments :: dropComments cs

end

/-! ## The rows that stay -/

theorem withoutComments_eq (row : Cst) :
    row.withoutComments = { row with children := dropComments row.children } := by
  cases row
  rw [withoutComments]

variable (row : Cst)

@[simp] theorem type_withoutComments : row.withoutComments.type = row.type := by
  rw [withoutComments_eq]

@[simp] theorem start_withoutComments : row.withoutComments.start = row.start := by
  rw [withoutComments_eq]

@[simp] theorem stop_withoutComments : row.withoutComments.stop = row.stop := by
  rw [withoutComments_eq]

@[simp] theorem named_withoutComments : row.withoutComments.named = row.named := by
  rw [withoutComments_eq]

@[simp] theorem missing_withoutComments : row.withoutComments.missing = row.missing := by
  rw [withoutComments_eq]

@[simp] theorem field_withoutComments : row.withoutComments.field = row.field := by
  rw [withoutComments_eq]

@[simp] theorem isComment_withoutComments : row.withoutComments.isComment = row.isComment := by
  rw [isComment, type_withoutComments, isComment]

@[simp] theorem isFaulty_withoutComments : row.withoutComments.isFaulty = row.isFaulty := by
  rw [isFaulty, type_withoutComments, missing_withoutComments, isFaulty]

@[simp] theorem text_withoutComments (source : SourceText) :
    row.withoutComments.text source = row.text source := by
  rw [text, start_withoutComments, stop_withoutComments, text]

theorem children_withoutComments_eq :
    row.withoutComments.children = dropComments row.children := by
  rw [withoutComments_eq]

variable {row}

theorem dropComments_eq_map (cs : List Cst) :
    dropComments cs = (cs.filter fun c ↦ !c.isComment).map withoutComments := by
  induction cs with
  | nil => rfl
  | cons c cs ih =>
    rw [dropComments, List.filter_cons, ih]
    cases c.isComment
    · rfl
    · rfl

theorem children_withoutComments (row : Cst) :
    row.withoutComments.children = row.content.map withoutComments := by
  rw [children_withoutComments_eq, dropComments_eq_map, content]

theorem content_withoutComments (row : Cst) :
    row.withoutComments.content = row.content.map withoutComments := by
  rw [content, children_withoutComments, List.filter_map, content, List.filter_filter]
  refine congrArg _ (List.filter_congr fun c _ ↦ ?_)
  rw [Function.comp_apply, isComment_withoutComments, Bool.and_self]

theorem dropComments_append (cs ds : List Cst) :
    dropComments (cs ++ ds) = dropComments cs ++ dropComments ds := by
  rw [dropComments_eq_map, dropComments_eq_map, dropComments_eq_map, List.filter_append,
    List.map_append]

theorem dropComments_eq_map_of_forall {cs : List Cst} (h : ∀ c ∈ cs, c.isComment = false) :
    dropComments cs = cs.map withoutComments := by
  rw [dropComments_eq_map, List.filter_eq_self.2 fun c hc ↦ by rw [h c hc, Bool.not_false]]

theorem type_ne_of_isComment {c : Cst} (hc : c.isComment = true) {type : String}
    (htype : type ∉ commentTypes) : c.type ≠ type := by
  rintro rfl
  exact htype (of_decide_eq_true hc)

theorem type_notMem_of_isComment {c : Cst} (hc : c.isComment = true) {types : List String}
    (htypes : ∀ type ∈ types, type ∉ commentTypes) : c.type ∉ types :=
  fun h ↦ htypes c.type h (of_decide_eq_true hc)

/-! ## Tidy rows -/

/-- A row that is a mere comment: it has a name, no fault, no field and nothing below it. -/
def IsPlain (row : Cst) : Prop :=
  row.named = true ∧ row.missing = false ∧ row.field = none ∧ row.children = []

instance (row : Cst) : Decidable row.IsPlain :=
  inferInstanceAs (Decidable (_ ∧ _ ∧ _ ∧ _))

/-- Among the row and the rows below it, comments are mere comments, and where there are children
there is a child that is no comment. -/
def Tidy (row : Cst) : Prop :=
  ∀ c ∈ row.rows, (c.isComment = true → c.IsPlain) ∧ (c.children ≠ [] → c.content ≠ [])

instance (row : Cst) : Decidable row.Tidy :=
  inferInstanceAs (Decidable (∀ c ∈ row.rows, _ ∧ _))

theorem mem_rows_self (row : Cst) : row ∈ row.rows := by
  rw [rows_eq]
  exact List.mem_cons_self

theorem mem_rows_of_mem_children {row c d : Cst} (hc : c ∈ row.children) (hd : d ∈ c.rows) :
    d ∈ row.rows := by
  rw [rows_eq, rowsOfAll_eq_flatMap]
  exact List.mem_cons_of_mem _ (List.mem_flatMap.2 ⟨c, hc, hd⟩)

theorem Tidy.of_mem_children {row c : Cst} (h : row.Tidy) (hc : c ∈ row.children) : c.Tidy :=
  fun d hd ↦ h d (mem_rows_of_mem_children hc hd)

theorem Tidy.isPlain {row : Cst} (h : row.Tidy) (hrow : row.isComment = true) : row.IsPlain :=
  (h row row.mem_rows_self).1 hrow

theorem Tidy.content_ne_nil {row : Cst} (h : row.Tidy) (hrow : row.children ≠ []) :
    row.content ≠ [] := (h row row.mem_rows_self).2 hrow

/-- The rows below are tidy. The root of a file is only held to this. -/
def TidyBelow (row : Cst) : Prop := ∀ c ∈ row.children, c.Tidy

instance (row : Cst) : Decidable row.TidyBelow :=
  inferInstanceAs (Decidable (∀ c ∈ row.children, c.Tidy))

theorem Tidy.tidyBelow {row : Cst} (h : row.Tidy) : row.TidyBelow := fun _ hc ↦ h.of_mem_children hc

theorem TidyBelow.of_find? {row c : Cst} {p : Cst → Bool} (h : row.TidyBelow)
    (hc : row.children.find? p = some c) : c.Tidy := h c (List.mem_of_find?_eq_some hc)

theorem TidyBelow.of_field? {row c : Cst} {field : String} (h : row.TidyBelow)
    (hc : row.field? field = some c) : c.Tidy := h.of_find? hc

/-- A comment keeps no field to be found in. -/
theorem TidyBelow.field_eq_none {row c : Cst} (h : row.TidyBelow) (hc : c ∈ row.children)
    (hcomment : c.isComment = true) : c.field = none := ((h c hc).isPlain hcomment).2.2.1

theorem TidyBelow.named_eq_true {row c : Cst} (h : row.TidyBelow) (hc : c ∈ row.children)
    (hcomment : c.isComment = true) : c.named = true := ((h c hc).isPlain hcomment).1

/-! ## Collecting over siblings -/

variable {α : Type} {cs : List Cst}

theorem foldl_dropComments {g : α → Cst → α}
    (hcomment : ∀ a, ∀ c ∈ cs, c.isComment = true → g a c = a)
    (hg : ∀ a, ∀ c ∈ cs, g a c.withoutComments = g a c) (a : α) :
    (dropComments cs).foldl g a = cs.foldl g a := by
  induction cs generalizing a with
  | nil => rfl
  | cons c cs ih =>
    have ih := ih (fun a d hd ↦ hcomment a d (List.mem_cons_of_mem c hd))
      fun a d hd ↦ hg a d (List.mem_cons_of_mem c hd)
    rw [dropComments, List.foldl_cons]
    by_cases hc : c.isComment = true
    · rw [if_pos hc, ih, hcomment a c List.mem_cons_self hc]
    · rw [if_neg hc, List.foldl_cons, ih, hg a c List.mem_cons_self]

theorem flatMap_dropComments {f : Cst → List α}
    (hcomment : ∀ c ∈ cs, c.isComment = true → f c = [])
    (hf : ∀ c ∈ cs, f c.withoutComments = f c) :
    (dropComments cs).flatMap f = cs.flatMap f := by
  rw [List.flatMap_eq_foldl, List.flatMap_eq_foldl]
  refine foldl_dropComments (fun as c hc hcomment' ↦ ?_) (fun as c hc ↦ ?_) []
  · rw [hcomment c hc hcomment', List.append_nil]
  · rw [hf c hc]

theorem all_dropComments {p : Cst → Bool} (hcomment : ∀ c ∈ cs, c.isComment = true → p c = true)
    (hp : ∀ c ∈ cs, p c.withoutComments = p c) : (dropComments cs).all p = cs.all p := by
  induction cs with
  | nil => rfl
  | cons c cs ih =>
    have ih := ih (fun d hd ↦ hcomment d (List.mem_cons_of_mem c hd))
      fun d hd ↦ hp d (List.mem_cons_of_mem c hd)
    rw [dropComments, List.all_cons]
    by_cases hc : c.isComment = true
    · rw [if_pos hc, ih, hcomment c List.mem_cons_self hc, Bool.true_and]
    · rw [if_neg hc, List.all_cons, ih, hp c List.mem_cons_self]

theorem any_dropComments {p : Cst → Bool} (hcomment : ∀ c ∈ cs, c.isComment = true → p c = false)
    (hp : ∀ c ∈ cs, p c.withoutComments = p c) : (dropComments cs).any p = cs.any p := by
  rw [List.any_eq_not_all_not, List.any_eq_not_all_not, all_dropComments]
  · exact fun c hc hcomment' ↦ by rw [hcomment c hc hcomment', Bool.not_false]
  · exact fun c hc ↦ by rw [hp c hc]

theorem filter_dropComments {p : Cst → Bool} (hp : ∀ c, p c.withoutComments = p c) :
    (dropComments cs).filter p = dropComments (cs.filter p) := by
  rw [dropComments_eq_map, dropComments_eq_map, List.filter_map, List.filter_filter,
    List.filter_filter]
  refine congrArg _ (List.filter_congr fun c _ ↦ ?_)
  rw [Function.comp_apply, hp, Bool.and_comm]

theorem dropComments_filter {p : Cst → Bool}
    (hcomment : ∀ c ∈ cs, c.isComment = true → p c = false) :
    dropComments (cs.filter p) = (cs.filter p).map withoutComments := by
  rw [dropComments_eq_map, List.filter_filter]
  refine congrArg _ (List.filter_congr fun c hc ↦ ?_)
  cases h : c.isComment with
  | false => simp
  | true => simp [hcomment c hc h]

theorem find?_dropComments {p : Cst → Bool} (hp : ∀ c, p c.withoutComments = p c)
    (hcomment : ∀ c ∈ cs, c.isComment = true → p c = false) :
    (dropComments cs).find? p = (cs.find? p).map withoutComments := by
  rw [← List.head?_filter, filter_dropComments hp, dropComments_filter hcomment, List.head?_map,
    List.head?_filter]

/-- What a function makes of the members that pass a test which no comment passes. -/
theorem map_filter_dropComments {p : Cst → Bool} {f : Cst → α}
    (hp : ∀ c, p c.withoutComments = p c) (hcomment : ∀ c ∈ cs, c.isComment = true → p c = false)
    (hf : ∀ c ∈ cs, f c.withoutComments = f c) :
    ((dropComments cs).filter p).map f = (cs.filter p).map f := by
  rw [filter_dropComments hp, dropComments_filter hcomment, List.map_map]
  exact List.map_congr_left fun c hc ↦ hf c (List.mem_filter.1 hc).1

/-! ## Children of a type -/

section

variable {type : String} (htype : type ∉ commentTypes) (row : Cst)

include htype

/-- The first child of a type, which is not that of a comment. -/
theorem find?_type_withoutComments :
    (row.withoutComments.children.find? fun c ↦ c.type = type)
      = (row.children.find? fun c ↦ c.type = type).map withoutComments := by
  rw [children_withoutComments_eq]
  exact find?_dropComments (fun c ↦ by rw [type_withoutComments])
    fun c _ hc ↦ decide_eq_false (type_ne_of_isComment hc htype)

/-- The children of a type, which is not that of a comment. -/
theorem filter_type_withoutComments :
    (row.withoutComments.children.filter fun c ↦ c.type = type)
      = (row.children.filter fun c ↦ c.type = type).map withoutComments := by
  rw [children_withoutComments_eq, filter_dropComments fun c ↦ by rw [type_withoutComments]]
  exact dropComments_filter fun c _ hc ↦ decide_eq_false (type_ne_of_isComment hc htype)

theorem any_type_withoutComments :
    (row.withoutComments.children.any fun c ↦ c.type = type)
      = row.children.any fun c ↦ c.type = type := by
  rw [← List.isSome_find?, find?_type_withoutComments htype, Option.isSome_map, List.isSome_find?]

end

/-! ## Content -/

theorem isComment_of_mem_content {row c : Cst} (hc : c ∈ row.content) : c.isComment = false := by
  have htest : (!c.isComment) = true := (List.mem_filter.1 hc).2
  rwa [Bool.not_eq_true'] at htest

theorem TidyBelow.of_mem_content {row c : Cst} (h : row.TidyBelow) (hc : c ∈ row.content) :
    c.Tidy := h c (List.mem_filter.1 hc).1

theorem TidyBelow.flatMap_content {row : Cst} (h : row.TidyBelow) {f : Cst → List α}
    (hf : ∀ c, c.Tidy → f c.withoutComments = f c) :
    row.withoutComments.content.flatMap f = row.content.flatMap f := by
  rw [content_withoutComments, List.flatMap_map]
  exact List.flatMap_congr fun c hc ↦ hf c (h.of_mem_content hc)

/-! ## Fields -/

theorem TidyBelow.field_test {row c : Cst} (h : row.TidyBelow) (hc : c ∈ row.children)
    (hcomment : c.isComment = true) (field : String) : decide (c.field = some field) = false := by
  rw [h.field_eq_none hc hcomment]
  rfl

/-- Comments fill no field, so a field is found in the same row. -/
theorem TidyBelow.field?_eq {row : Cst} (h : row.TidyBelow) (field : String) :
    row.withoutComments.field? field = (row.field? field).map withoutComments := by
  rw [field?, children_withoutComments_eq, field?]
  exact find?_dropComments (fun c ↦ by rw [field_withoutComments])
    fun c hc hcomment ↦ h.field_test hc hcomment field

/-- There is a place for a field exactly when there is a child in it. -/
theorem isSome_fieldPlace? (row : Cst) (field : String) :
    (row.fieldPlace? field).isSome = (row.field? field).isSome := by
  rw [fieldPlace?, List.findIdx?_isSome, field?, List.isSome_find?]

theorem TidyBelow.isSome_fieldPlace?_eq {row : Cst} (h : row.TidyBelow) (field : String) :
    (row.withoutComments.fieldPlace? field).isSome = (row.fieldPlace? field).isSome := by
  rw [isSome_fieldPlace?, h.field?_eq, Option.isSome_map, isSome_fieldPlace?]

theorem TidyBelow.isComment_of_field? {row c : Cst} {field : String} (h : row.TidyBelow)
    (hc : row.field? field = some c) : c.isComment = false := by
  rw [field?] at hc
  have hfield := List.find?_some hc
  rw [decide_eq_true_iff] at hfield
  rw [← Bool.not_eq_true]
  intro hcomment
  rw [h.field_eq_none (List.mem_of_find?_eq_some hc) hcomment] at hfield
  cases hfield

theorem TidyBelow.flatMap_field? {row : Cst} (h : row.TidyBelow) (field : String)
    {f g : Cst → List α} (hf : ∀ c, c.Tidy → f c.withoutComments = g c) :
    (row.withoutComments.field? field).toList.flatMap f
      = (row.field? field).toList.flatMap g := by
  rw [h.field?_eq, Option.toList_map, List.flatMap_map]
  exact List.flatMap_congr fun c hc ↦ hf c (h.of_field? (Option.mem_toList.1 hc))

theorem TidyBelow.map_field? {row : Cst} (h : row.TidyBelow) (field : String) {f g : Cst → α}
    (hf : ∀ c, c.Tidy → f c.withoutComments = g c) :
    (row.withoutComments.field? field).toList.map f = (row.field? field).toList.map g := by
  rw [h.field?_eq, Option.toList_map, List.map_map]
  exact List.map_congr_left fun c hc ↦ hf c (h.of_field? (Option.mem_toList.1 hc))

/-! ## The first of its kind among siblings -/

/-- Collects over a list by a function that is told whether a member is the first one to pass a
test. -/
def flatMapFirst {β : Type} (p : α → Bool) (f : α → Bool → List β) : List α → List β
  | [] => []
  | a :: as =>
    if p a then f a true ++ as.flatMap (f · false) else f a false ++ flatMapFirst p f as

theorem flatMap_zipIdx_findIdx?_add {β : Type} (p : α → Bool) (f : α → Bool → List β) (as : List α)
    (k : Nat) :
    (as.zipIdx k).flatMap (fun x ↦ f x.1 (decide ((as.findIdx? p).map (· + k) = some x.2)))
      = flatMapFirst p f as := by
  induction as generalizing k with
  | nil => rfl
  | cons a as ih =>
    rw [List.zipIdx_cons, List.flatMap_cons, flatMapFirst, List.findIdx?_cons]
    by_cases hp : p a = true
    · rw [if_pos hp, if_pos hp, Option.map_some, Nat.zero_add, decide_eq_true rfl]
      -- All places behind the first one are larger.
      have hlater : ∀ x ∈ as.zipIdx (k + 1), f x.1 (decide (some k = some x.2)) = f x.1 false := by
        intro x hx
        have hle := List.le_snd_of_mem_zipIdx hx
        rw [decide_eq_false]
        intro h
        cases h
        omega
      rw [List.flatMap_congr hlater]
      conv_rhs => rw [← List.zipIdx_map_fst (k + 1) as, List.flatMap_map]
    · rw [if_neg hp, if_neg hp, ← ih (k + 1)]
      have hshift : ((as.findIdx? p).map (· + 1)).map (· + k)
          = (as.findIdx? p).map (· + (k + 1)) := by
        rw [Option.map_map]
        congr 1
        funext i
        simp only [Function.comp_apply]
        omega
      rw [hshift]
      congr 1
      rw [decide_eq_false]
      intro h
      obtain ⟨i, -, hi⟩ := Option.map_eq_some_iff.1 h
      omega

/-- Comparing places with the place of the first member that passes the test tells the same. -/
theorem flatMap_zipIdx_findIdx? {β : Type} (p : α → Bool) (f : α → Bool → List β) (as : List α) :
    as.zipIdx.flatMap (fun x ↦ f x.1 (decide (as.findIdx? p = some x.2)))
      = flatMapFirst p f as := by
  rw [← flatMap_zipIdx_findIdx?_add p f as 0]
  refine List.flatMap_congr fun x _ ↦ congrArg (f x.1) (decide_eq_decide.2 ?_)
  rw [show (fun i : ℕ ↦ i + 0) = id from rfl, Option.map_id_fun, id_eq]

theorem flatMapFirst_dropComments {p : Cst → Bool} {f : Cst → Bool → List α}
    (hp : ∀ c, p c.withoutComments = p c)
    (hpcomment : ∀ c ∈ cs, c.isComment = true → p c = false)
    (hcomment : ∀ c ∈ cs, c.isComment = true → f c false = [])
    (hf : ∀ c ∈ cs, ∀ b, f c.withoutComments b = f c b) :
    flatMapFirst p f (dropComments cs) = flatMapFirst p f cs := by
  induction cs with
  | nil => rfl
  | cons c cs ih =>
    have hcomment' : ∀ d ∈ cs, d.isComment = true → f d false = [] :=
      fun d hd ↦ hcomment d (List.mem_cons_of_mem c hd)
    have hf' : ∀ d ∈ cs, ∀ b, f d.withoutComments b = f d b :=
      fun d hd ↦ hf d (List.mem_cons_of_mem c hd)
    have ih := ih (fun d hd ↦ hpcomment d (List.mem_cons_of_mem c hd)) hcomment' hf'
    rw [dropComments, flatMapFirst]
    by_cases hc : c.isComment = true
    · rw [if_pos hc, hpcomment c List.mem_cons_self hc, if_neg Bool.false_ne_true, ih,
        hcomment c List.mem_cons_self hc, List.nil_append]
    · rw [if_neg hc, flatMapFirst, hp, hf c List.mem_cons_self, hf c List.mem_cons_self, ih,
        flatMap_dropComments hcomment' fun d hd ↦ hf' d hd false]

/-- A rule that compares places with the place of a field makes the same of the row. -/
theorem TidyBelow.flatMap_fieldPlace? {row : Cst} (h : row.TidyBelow) (field : String)
    (f : Cst → Bool → List α) {g g' : Cst × Nat → List α}
    (hg' : ∀ x, g' x = f x.1 (decide (row.withoutComments.fieldPlace? field = some x.2)))
    (hg : ∀ x, g x = f x.1 (decide (row.fieldPlace? field = some x.2)))
    (hcomment : ∀ c, c.isComment = true → f c false = [])
    (hf : ∀ c, c.Tidy → ∀ first, f c.withoutComments first = f c first) :
    row.withoutComments.children.zipIdx.flatMap g' = row.children.zipIdx.flatMap g := by
  have hfirst : ∀ r : Cst, (r.children.zipIdx.flatMap fun x ↦
      f x.1 (decide (r.fieldPlace? field = some x.2)))
        = flatMapFirst (fun c ↦ c.field = some field) f r.children :=
    fun r ↦ flatMap_zipIdx_findIdx? _ f r.children
  rw [funext hg', funext hg, hfirst, hfirst, children_withoutComments_eq]
  exact flatMapFirst_dropComments (fun c ↦ by rw [field_withoutComments])
    (fun c hc hc' ↦ h.field_test hc hc' field) (fun c _ ↦ hcomment c) fun c hc ↦ hf c (h c hc)

end Cst

end LintMark

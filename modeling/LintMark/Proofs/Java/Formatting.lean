import LintMark.Java.Construct
import Mathlib.Data.List.Forall2

/-!
# Rows that differ in places

Formatting moves rows. It leaves the tokens of a source as they are, but not the offsets of its
rows, and not the texts of the rows that have other rows below them: such a text takes in the blanks
between the tokens. `Cst.Matches` relates a row to the row that stands for it after formatting.

## Which texts stay

The text of a row has to stay wherever shaping may ask for it. `Cst.showsText` says so of a row by
itself: a leaf, a sign, a name, an operator. Three rules ask for a text because of the row above, and
`Cst.SameTexts` has a field for each: the keyword of a statement, the sign of an increment, and the
first word of a label.

## Two rows at a time

No map takes one row to the other, since offsets may change at will. All laws about lists of
siblings are therefore about two lists whose members match one by one.
-/

namespace LintMark

open Java

namespace Cst

/-! ## Rows without places -/

mutual

/-- The row with all offsets forgotten. -/
def unplaced : Cst → Cst
  | ⟨type, _, _, named, missing, field, children⟩ =>
    ⟨type, 0, 0, named, missing, field, unplacedAll children⟩

/-- The rows of a list of siblings with all offsets forgotten. -/
def unplacedAll : List Cst → List Cst
  | [] => []
  | c :: cs => c.unplaced :: unplacedAll cs

end

variable (row : Cst)

@[simp] theorem type_unplaced : row.unplaced.type = row.type := by
  cases row
  rw [unplaced]

@[simp] theorem named_unplaced : row.unplaced.named = row.named := by
  cases row
  rw [unplaced]

@[simp] theorem missing_unplaced : row.unplaced.missing = row.missing := by
  cases row
  rw [unplaced]

@[simp] theorem field_unplaced : row.unplaced.field = row.field := by
  cases row
  rw [unplaced]

theorem children_unplaced : row.unplaced.children = unplacedAll row.children := by
  cases row
  rw [unplaced]

variable {row}

mutual

theorem rows_unplaced : (row : Cst) → row.unplaced.rows = row.rows.map unplaced
  | ⟨type, start, stop, named, missing, field, children⟩ => by
    rw [unplaced, rows, rowsOfAll_unplacedAll children, rows, List.map_cons, unplaced]

theorem rowsOfAll_unplacedAll : (cs : List Cst) →
    rowsOfAll (unplacedAll cs) = (rowsOfAll cs).map unplaced
  | [] => rfl
  | c :: cs => by
    rw [unplacedAll, rowsOfAll, rows_unplaced c, rowsOfAll_unplacedAll cs, rowsOfAll,
      List.map_append]

end

theorem length_rows_eq {c c' : Cst} (h : c.unplaced = c'.unplaced) :
    c.rows.length = c'.rows.length := by
  have hmap : c.rows.map unplaced = c'.rows.map unplaced := by
    rw [← rows_unplaced, h, rows_unplaced]
  simpa using congrArg List.length hmap

/-! ## Rows with the same texts -/

/-- The signs that stand for themselves: punctuation, the brackets of type arguments, and the bar
between caught types. -/
def signs : List String := punctuation.map Prod.fst ++ ["<", ">", "|"]

/-- Whether shaping asks rows of this type for their text, whatever stands below them. -/
def typeShowsText (type : String) : Bool :=
  type ∈ signs || match Construct.ofType type with
    | .leaf _ | .integer | .float | .primitiveType => true
    | _ => false

/-- Whether shaping may ask the row for its text, wherever it stands. -/
def showsText (row : Cst) : Bool :=
  (row.children.isEmpty && !row.isComment) || !row.named || typeShowsText row.type
    || row.field = some "name" || row.field = some "operator"

/-- The sign of an increment or a decrement: the first part if that has no name, and otherwise the
last one. -/
def updateSign? (row : Cst) : Option Cst :=
  match row.content.head? with
  | some first => if first.named then row.content.getLast? else some first
  | none => none

/-- Two rows of two sources show the same texts. -/
structure SameTexts (source source' : SourceText) (c c' : Cst) : Prop where
  /-- They have the same text if shaping may ask for it. -/
  text_eq : c.showsText = true → c.text source = c'.text source'
  /-- Keyword statements start with the same word. -/
  keyword_eq : Construct.ofType c.type = .keywordStatement →
    c.content.head?.map (·.text source) = c'.content.head?.map (·.text source')
  /-- Increments and decrements have the same sign. -/
  updateSign_eq : Construct.ofType c.type = .update →
    c.updateSign?.map (·.text source) = c'.updateSign?.map (·.text source')
  /-- Labels start with the same word, as far as the default label is concerned. -/
  label_iff : Construct.ofType c.type = .switchLabel →
    ("default".toList <+: (c.text source).toList ↔ "default".toList <+: (c'.text source').toList)

instance (source source' : SourceText) (c c' : Cst) : Decidable (SameTexts source source' c c') :=
  decidable_of_iff
    ((c.showsText = true → c.text source = c'.text source') ∧
      (Construct.ofType c.type = .keywordStatement →
        c.content.head?.map (·.text source) = c'.content.head?.map (·.text source')) ∧
      (Construct.ofType c.type = .update →
        c.updateSign?.map (·.text source) = c'.updateSign?.map (·.text source')) ∧
      (Construct.ofType c.type = .switchLabel →
        ("default".toList <+: (c.text source).toList
          ↔ "default".toList <+: (c'.text source').toList)))
    ⟨fun ⟨htext, hkeyword, hsign, hlabel⟩ ↦ ⟨htext, hkeyword, hsign, hlabel⟩,
      fun ⟨htext, hkeyword, hsign, hlabel⟩ ↦ ⟨htext, hkeyword, hsign, hlabel⟩⟩

/-- Two rows of two sources are equal up to offsets, and row by row show the same texts. -/
structure Matches (source source' : SourceText) (c c' : Cst) : Prop where
  unplaced_eq : c.unplaced = c'.unplaced
  sameTexts : List.Forall₂ (SameTexts source source') c.rows c'.rows

namespace Matches

variable {source source' : SourceText} {c c' : Cst} (h : Matches source source' c c')

include h

/-! ## Rows that match -/

theorem type_eq : c.type = c'.type := by
  rw [← type_unplaced, h.unplaced_eq, type_unplaced]

theorem named_eq : c.named = c'.named := by
  rw [← named_unplaced, h.unplaced_eq, named_unplaced]

theorem field_eq : c.field = c'.field := by
  rw [← field_unplaced, h.unplaced_eq, field_unplaced]

theorem isComment_eq : c.isComment = c'.isComment := by rw [isComment, isComment, h.type_eq]

theorem head : SameTexts source source' c c' := by
  have hrows := h.sameTexts
  cases c
  cases c'
  rw [rows, rows] at hrows
  exact (List.forall₂_cons.1 hrows).1

omit h in
/-- Siblings match one by one if their rows show the same texts. -/
theorem forall₂_of_rowsOfAll {cs cs' : List Cst} (hunplaced : unplacedAll cs = unplacedAll cs')
    (htexts : List.Forall₂ (SameTexts source source') (rowsOfAll cs) (rowsOfAll cs')) :
    List.Forall₂ (Matches source source') cs cs' := by
  induction cs generalizing cs' with
  | nil =>
    cases cs' with
    | nil => exact .nil
    | cons c' cs' => cases hunplaced
  | cons c cs ih =>
    cases cs' with
    | nil => cases hunplaced
    | cons c' cs' =>
      obtain ⟨hc, hcs⟩ := List.cons.inj hunplaced
      rw [rowsOfAll, rowsOfAll] at htexts
      -- The rows of the first sibling are as many on both sides.
      have hlength := length_rows_eq hc
      have hfirst := List.forall₂_take c.rows.length htexts
      have hrest := List.forall₂_drop c.rows.length htexts
      rw [List.take_left, hlength, List.take_left] at hfirst
      rw [List.drop_left, hlength, List.drop_left] at hrest
      exact .cons ⟨hc, hfirst⟩ (ih hcs hrest)

theorem children : List.Forall₂ (Matches source source') c.children c'.children := by
  refine forall₂_of_rowsOfAll ?_ ?_
  · rw [← children_unplaced, h.unplaced_eq, children_unplaced]
  · have hrows := h.sameTexts
    cases c
    cases c'
    rw [rows, rows] at hrows
    exact (List.forall₂_cons.1 hrows).2

/-! ## Texts -/

theorem text_eq_of_type {type : String} (htype : c'.type = type)
    (hshows : typeShowsText type = true) : c.text source = c'.text source' := by
  refine h.head.text_eq ?_
  simp [showsText, h.type_eq, htype, hshows]

theorem text_eq_of_not_named (hnamed : c'.named = false) : c.text source = c'.text source' := by
  refine h.head.text_eq ?_
  simp [showsText, h.named_eq, hnamed]

theorem text_eq_of_field {field : String} (hfield : c'.field = some field)
    (hshows : field = "name" ∨ field = "operator") : c.text source = c'.text source' := by
  refine h.head.text_eq ?_
  obtain rfl | rfl := hshows
  · simp [showsText, h.field_eq, hfield]
  · simp [showsText, h.field_eq, hfield]

theorem text_eq_of_isEmpty (hempty : c.children.isEmpty = true) (hcomment : c.isComment = false) :
    c.text source = c'.text source' := by
  refine h.head.text_eq ?_
  simp [showsText, hempty, hcomment]

end Matches

/-! ## Lists of siblings

A test that is passed is passed on both sides, so the members that it finds match and pass it. -/

section Related

variable {α β : Type} {R S : α → β → Prop}

theorem rel_cases {a : Option α} {b : Option β} (h : Option.Rel R a b) :
    (a = none ∧ b = none) ∨ ∃ x y, a = some x ∧ b = some y ∧ R x y := by
  cases h with
  | none => exact .inl ⟨rfl, rfl⟩
  | some hxy => exact .inr ⟨_, _, rfl, rfl, hxy⟩

theorem rel_imp {a : Option α} {b : Option β} (h : Option.Rel R a b)
    (hRS : ∀ x y, R x y → S x y) : Option.Rel S a b := by
  cases h with
  | none => exact .none
  | some hxy => exact .some (hRS _ _ hxy)

theorem forall₂_toList {a : Option α} {b : Option β} (h : Option.Rel R a b) :
    List.Forall₂ R a.toList b.toList := by
  cases h with
  | none => exact .nil
  | some hxy => exact .cons hxy .nil

variable {as : List α} {bs : List β} (h : List.Forall₂ R as bs)

include h

theorem isEmpty_eq_of_forall₂ : as.isEmpty = bs.isEmpty := by
  cases h with
  | nil => rfl
  | cons _ _ => rfl

theorem forall₂_zipIdx (n : Nat) :
    List.Forall₂ (fun a b ↦ R a.1 b.1 ∧ a.2 = b.2) (as.zipIdx n) (bs.zipIdx n) := by
  induction h generalizing n with
  | nil => exact .nil
  | cons hab _ ih => exact .cons ⟨hab, rfl⟩ (ih (n + 1))

theorem rel_head? : Option.Rel R as.head? bs.head? := by
  cases h with
  | nil => exact .none
  | cons hab _ => exact .some hab

theorem rel_getLast? : Option.Rel R as.getLast? bs.getLast? := by
  rw [← List.head?_reverse, ← List.head?_reverse]
  exact rel_head? (List.rel_reverse h)

theorem rel_getElem? (i : Nat) : Option.Rel R as[i]? bs[i]? := by
  induction h generalizing i with
  | nil => exact .none
  | cons hab _ ih =>
    cases i with
    | zero => exact .some hab
    | succ i => exact ih i

end Related

section Tests

variable {source source' : SourceText} {cs cs' : List Cst} {p : Cst → Bool}
  (h : List.Forall₂ (Matches source source') cs cs')
  (hp : ∀ c c', Matches source source' c c' → p c = p c')

include h hp

theorem filter_matches :
    List.Forall₂ (fun c c' ↦ Matches source source' c c' ∧ p c' = true)
      (cs.filter p) (cs'.filter p) := by
  induction h with
  | nil => exact .nil
  | @cons c c' _ _ hc _ ih =>
    rw [List.filter_cons, List.filter_cons, hp c c' hc]
    cases htest : p c' with
    | true => exact .cons ⟨hc, htest⟩ ih
    | false => exact ih

theorem find?_matches :
    Option.Rel (fun c c' ↦ Matches source source' c c' ∧ p c' = true)
      (cs.find? p) (cs'.find? p) := by
  induction h with
  | nil => exact .none
  | @cons c c' _ _ hc _ ih =>
    rw [List.find?_cons, List.find?_cons, hp c c' hc]
    cases htest : p c' with
    | true => exact .some ⟨hc, htest⟩
    | false => exact ih

theorem findIdx?_eq_of_matches : cs.findIdx? p = cs'.findIdx? p := by
  induction h with
  | nil => rfl
  | @cons c c' _ _ hc _ ih => rw [List.findIdx?_cons, List.findIdx?_cons, hp c c' hc, ih]

theorem any_eq_of_matches : cs.any p = cs'.any p := by
  induction h with
  | nil => rfl
  | @cons c c' _ _ hc _ ih => rw [List.any_cons, List.any_cons, hp c c' hc, ih]

theorem all_eq_of_matches : cs.all p = cs'.all p := by
  induction h with
  | nil => rfl
  | @cons c c' _ _ hc _ ih => rw [List.all_cons, List.all_cons, hp c c' hc, ih]

theorem takeWhile_matches :
    List.Forall₂ (Matches source source') (cs.takeWhile p) (cs'.takeWhile p) := by
  induction h with
  | nil => exact .nil
  | @cons c c' _ _ hc _ ih =>
    rw [List.takeWhile_cons, List.takeWhile_cons, hp c c' hc]
    split
    · exact .cons hc ih
    · exact .nil

theorem dropWhile_matches :
    List.Forall₂ (Matches source source') (cs.dropWhile p) (cs'.dropWhile p) := by
  induction h with
  | nil => exact .nil
  | @cons c c' _ _ hc hcs ih =>
    rw [List.dropWhile_cons, List.dropWhile_cons, hp c c' hc]
    split
    · exact ih
    · exact .cons hc hcs

end Tests

/-! ## Children and fields -/

namespace Matches

variable {source source' : SourceText} {c c' : Cst} (h : Matches source source' c c')

include h

theorem content : List.Forall₂ (Matches source source') c.content c'.content :=
  (filter_matches h.children fun _ _ hd ↦ by rw [hd.isComment_eq]).imp fun _ _ hd ↦ hd.1

theorem filter_type (type : String) :
    List.Forall₂ (fun d d' ↦ Matches source source' d d' ∧ d'.type = type)
      (c.children.filter fun d ↦ d.type = type) (c'.children.filter fun d ↦ d.type = type) :=
  (filter_matches h.children fun _ _ hd ↦ by rw [hd.type_eq]).imp fun _ _ hd ↦
    ⟨hd.1, of_decide_eq_true hd.2⟩

theorem filter_type_ne (type : String) :
    List.Forall₂ (Matches source source') (c.children.filter fun d ↦ d.type ≠ type)
      (c'.children.filter fun d ↦ d.type ≠ type) :=
  (filter_matches h.children fun _ _ hd ↦ by rw [hd.type_eq]).imp fun _ _ hd ↦ hd.1

theorem any_type_eq (type : String) :
    (c.children.any fun d ↦ d.type = type) = c'.children.any fun d ↦ d.type = type :=
  any_eq_of_matches h.children fun _ _ hd ↦ by rw [hd.type_eq]

theorem find?_type (type : String) :
    Option.Rel (Matches source source') (c.children.find? fun d ↦ d.type = type)
      (c'.children.find? fun d ↦ d.type = type) :=
  rel_imp (find?_matches h.children fun _ _ hd ↦ by rw [hd.type_eq]) fun _ _ hd ↦ hd.1

theorem field? (field : String) :
    Option.Rel (fun d d' ↦ Matches source source' d d' ∧ d'.field = some field)
      (c.field? field) (c'.field? field) := by
  have hfind := find?_matches (p := fun d ↦ d.field = some field) h.children fun _ _ hd ↦ by
    rw [hd.field_eq]
  rw [Cst.field?, Cst.field?]
  exact rel_imp hfind fun _ _ hd ↦ ⟨hd.1, of_decide_eq_true hd.2⟩

theorem field?_rel (field : String) :
    Option.Rel (Matches source source') (c.field? field) (c'.field? field) :=
  rel_imp (h.field? field) fun _ _ hd ↦ hd.1

theorem fieldPlace?_eq (field : String) : c.fieldPlace? field = c'.fieldPlace? field :=
  findIdx?_eq_of_matches h.children fun _ _ hd ↦ by rw [hd.field_eq]

end Matches

end Cst

end LintMark

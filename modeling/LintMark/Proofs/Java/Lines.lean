import LintMark.Proofs.Java.Dimensions
import Mathlib.Data.List.Flatten

/-!
# Rows in the order in which they are read

Most rules read the rows below theirs as they stand in the source. The others take some of them out
of their place (`detour`): an operator comes before its operands, the closing brackets of an array
before its element type, a declaration comes once more for each of its variables, and modifiers,
parentheses and fields come in an order of their own.

Whatever a rule reads, its outlines follow: if the rows that it reads stand on lines that do not
descend, neither do the lines of the nodes (`Follows`). There is one lemma for each rule in the
modules `LintMark.Proofs.Java.Lines.*`. A rule that makes a detour is to be trusted only where the
rows on the detour ascend as well, and this is what a row and all rows below it are asked for
(`Shaper.Orderly`).
-/

namespace LintMark

/-! ## Source order -/

/-- A later position is on no earlier line. -/
theorem SourceText.line_mono (source : SourceText) {p q : Nat} (h : p ≤ q) :
    source.line p ≤ source.line q := by
  rw [line, line]
  refine Nat.succ_le_succ ?_
  induction source.newlines with
  | nil => exact Nat.le_refl _
  | cons newline newlines ih =>
    rw [List.takeWhile_cons, List.takeWhile_cons]
    by_cases hp : newline < p
    · rw [if_pos (decide_eq_true hp), if_pos (decide_eq_true (Nat.lt_of_lt_of_le hp h))]
      exact Nat.succ_le_succ ih
    · rw [if_neg (by simpa using hp)]
      exact Nat.zero_le _

namespace Cst

/-- The rows of a tree stand in source order: each inside the row above it, and in pre-order none in
front of an earlier one. -/
structure InSourceOrder (root : Cst) : Prop where
  inside : ∀ row ∈ root.rows, ∀ c ∈ row.children, row.start ≤ c.start ∧ c.stop ≤ row.stop
  starts : root.rows.Pairwise fun c d ↦ c.start ≤ d.start

/-- None of the rows starts on an earlier line than a row in front of it. -/
def Ascends (source : SourceText) (rows : List Cst) : Prop :=
  rows.Pairwise fun c d ↦ source.line c.start ≤ source.line d.start

instance (source : SourceText) (rows : List Cst) : Decidable (Ascends source rows) :=
  inferInstanceAs (Decidable (List.Pairwise _ _))

theorem InSourceOrder.ascends {root : Cst} (h : root.InSourceOrder) (source : SourceText) :
    Ascends source root.rows := h.starts.imp fun hle ↦ source.line_mono hle

theorem rowsOfAll_sublist {row : Cst} {cs : List Cst} (h : cs.Sublist row.children) :
    (cs.flatMap rows).Sublist (rowsOfAll row.children) := by
  rw [rowsOfAll_eq_flatMap]
  exact h.flatMap rows

/-- The rows below a row of a tree are a stretch of the rows of the tree. -/
theorem rows_sublist_of_mem_children {row c : Cst} (h : c ∈ row.children) :
    c.rows.Sublist row.rows := by
  have hbelow : ([c].flatMap rows).Sublist (rowsOfAll row.children) :=
    rowsOfAll_sublist (List.singleton_sublist.2 h)
  rw [List.flatMap_singleton] at hbelow
  rw [rows_eq row]
  exact hbelow.cons row

end Cst

namespace Outline

/-- The lines of the nodes of a forest, in document order. -/
def lines (os : List Outline) : List Int := (subtreesAll os).map fun o ↦ o.token.line

theorem lines_append (os ps : List Outline) : lines (os ++ ps) = lines os ++ lines ps := by
  rw [lines, subtreesAll_eq_flatMap, List.flatMap_append, List.map_append, lines, lines,
    subtreesAll_eq_flatMap, subtreesAll_eq_flatMap]

theorem lines_cons (o : Outline) (os : List Outline) :
    lines (o :: os) = o.token.line :: (lines o.children ++ lines os) := by
  rw [lines, subtreesAll, subtrees_eq, List.cons_append, List.map_cons, List.map_append, lines,
    lines]

end Outline

namespace Java

open Cst hiding unplaced unplacedAll
open Outline

/-! ## Outlines that follow rows -/

/-- The outlines follow the rows: if the rows ascend, the lines of the nodes do so too, and each of
them is the line of one of the rows. -/
def Follows (source : SourceText) (rows : List Cst) (os : List Outline) : Prop :=
  Ascends source rows → (lines os).Pairwise (· ≤ ·) ∧
    ∀ line ∈ lines os, ∃ c ∈ rows, line = source.line c.start

namespace Follows

variable {source : SourceText} {rows rows' : List Cst} {os os' : List Outline}

theorem nil : Follows source rows [] := fun _ ↦ ⟨.nil, nofun⟩

theorem append (h : Follows source rows os) (h' : Follows source rows' os') :
    Follows source (rows ++ rows') (os ++ os') := by
  intro hrows
  obtain ⟨hrows, hrows', hcross⟩ := List.pairwise_append.1 hrows
  obtain ⟨hsorted, hmem⟩ := h hrows
  obtain ⟨hsorted', hmem'⟩ := h' hrows'
  rw [lines_append]
  refine ⟨List.pairwise_append.2 ⟨hsorted, hsorted', fun l hl l' hl' ↦ ?_⟩, fun l hl ↦ ?_⟩
  · obtain ⟨c, hc, rfl⟩ := hmem l hl
    obtain ⟨c', hc', rfl⟩ := hmem' l' hl'
    exact Int.ofNat_le.2 (hcross c hc c' hc')
  · obtain hl | hl := List.mem_append.1 hl
    · obtain ⟨c, hc, hline⟩ := hmem l hl
      exact ⟨c, List.mem_append_left _ hc, hline⟩
    · obtain ⟨c, hc, hline⟩ := hmem' l hl
      exact ⟨c, List.mem_append_right _ hc, hline⟩

/-- Rows that nothing stands for do no harm. -/
theorem of_sublist (h : Follows source rows os) (hrows : rows.Sublist rows') :
    Follows source rows' os := by
  intro hrows'
  obtain ⟨hsorted, hmem⟩ := h (hrows'.sublist hrows)
  refine ⟨hsorted, fun l hl ↦ ?_⟩
  obtain ⟨c, hc, hline⟩ := hmem l hl
  exact ⟨c, hrows.subset hc, hline⟩

/-- A node at the first of the rows may stand above what follows the rows. -/
theorem node {o : Outline} {c : Cst} (hline : o.token.line = source.line c.start)
    (h : Follows source (c :: rows) o.children) : Follows source (c :: rows) [o] := by
  intro hrows
  obtain ⟨hsorted, hmem⟩ := h hrows
  have hlines : lines [o] = (source.line c.start : Int) :: lines o.children := by
    rw [lines_cons, hline]
    exact congrArg (List.cons _) (List.append_nil _)
  rw [hlines]
  refine ⟨List.pairwise_cons.2 ⟨fun l hl ↦ ?_, hsorted⟩, fun l hl ↦ ?_⟩
  · obtain ⟨d, hd, rfl⟩ := hmem l hl
    obtain rfl | hd := List.mem_cons.1 hd
    · exact Int.le_refl _
    · exact Int.ofNat_le.2 ((List.pairwise_cons.1 hrows).1 d hd)
  · obtain rfl | hl := List.mem_cons.1 hl
    · exact ⟨c, List.mem_cons_self, rfl⟩
    · exact hmem l hl

/-- A node may stand above what follows the rows behind its own. -/
theorem above {o : Outline} {c : Cst} (hline : o.token.line = source.line c.start)
    (h : Follows source rows o.children) : Follows source (c :: rows) [o] :=
  node hline (h.of_sublist (List.sublist_cons_self c rows))

theorem head? (h : Follows source rows os) : Follows source rows os.head?.toList := by
  cases os with
  | nil => exact h
  | cons o os =>
    intro hrows
    obtain ⟨hsorted, hmem⟩ := h hrows
    rw [← List.singleton_append, lines_append] at hsorted hmem
    exact ⟨(List.pairwise_append.1 hsorted).1, fun l hl ↦ hmem l (List.mem_append_left _ hl)⟩

variable {α : Type} {xs : List α}

theorem flatMap {f : α → List Cst} {g : α → List Outline}
    (h : ∀ x ∈ xs, Follows source (f x) (g x)) :
    Follows source (xs.flatMap f) (xs.flatMap g) := by
  induction xs with
  | nil => exact nil
  | cons x xs ih =>
    obtain ⟨hx, hxs⟩ := List.forall_mem_cons.1 h
    exact hx.append (ih hxs)

theorem map {f : α → List Cst} {g : α → Outline} (h : ∀ x ∈ xs, Follows source (f x) [g x]) :
    Follows source (xs.flatMap f) (xs.map g) := by
  rw [List.map_eq_flatMap]
  exact flatMap h

/-- The outlines of siblings and their places follow the siblings. -/
theorem flatMap_zipIdx {cs : List Cst} {f : Cst → List Cst} {g : Cst × Nat → List Outline}
    (h : ∀ c ∈ cs, ∀ i, Follows source (f c) (g (c, i))) :
    Follows source (cs.flatMap f) (cs.zipIdx.flatMap g) := by
  have hplaces : cs.flatMap f = cs.zipIdx.flatMap fun p ↦ f p.1 := by
    rw [← List.flatMap_map Prod.fst f, List.zipIdx_map_fst]
  rw [hplaces]
  refine flatMap ?_
  rintro ⟨c, i⟩ hp
  exact h c (List.fst_mem_of_mem_zipIdx hp) i

variable {s : Shaper} {row c : Cst}

theorem leaf (kind : Kind) : Follows s.source [c] [s.leaf kind c] := node rfl nil

theorem mapLeaf (kind : Kind) (cs : List Cst) : Follows s.source cs (cs.map (s.leaf kind)) := by
  have h : Follows s.source (cs.flatMap ([·])) (cs.map (s.leaf kind)) := map fun _ _ ↦ leaf kind
  rwa [List.flatMap_singleton'] at h

/-- What follows the rows of some children follows the rows of their parent. -/
theorem of_children {cs : List Cst} (h : Follows s.source (cs.flatMap Cst.rows) os)
    (hcs : cs.Sublist row.children) : Follows s.source row.rows os := by
  rw [rows_eq]
  exact h.of_sublist ((rowsOfAll_sublist hcs).cons row)

/-- A node at the place of a row may stand above what follows the row. -/
theorem node_rows (h : Follows s.source row.rows os) (kind : Kind) (text : String) :
    Follows s.source row.rows [s.node kind row text os] := by
  rw [rows_eq] at h ⊢
  exact node rfl h

theorem leaf_rows (kind : Kind) : Follows s.source row.rows [s.leaf kind row] :=
  node_rows nil kind _

end Follows

/-! ## Rows that are read in another order -/

/-- The first row of modifiers with the rows below it. A declaration without modifiers stands for
them itself. -/
def modifierDetour (row : Cst) : List Cst :=
  match row.children.find? fun c ↦ c.type = "modifiers" with
  | some c => c.rows
  | none => [row]

/-- A type, with its dimensions around it: the opening brackets stand at the closing ones. -/
def typeDetour (dimensions : Option Cst) (row : Cst) : List Cst :=
  row :: ((closingBrackets dimensions).reverse ++ row.rows ++ closingBrackets dimensions)

/-- A declaration, its modifiers and its other parts. -/
def declarationDetour (part : Cst → List Cst) (row : Cst) : List Cst :=
  row :: (modifierDetour row ++
    row.children.flatMap fun c ↦ if c.type = "modifiers" ∨ c.isComment then [] else part c)

/-- The definition of one variable of a declaration. -/
def variableDetour (row declarator : Cst) : List Cst :=
  let type := (row.field? "type").toList.flatMap (typeDetour (declarator.field? "dimensions"))
  let value := (declarator.field? "value").toList.flatMap fun c ↦
    (declarator.children.find? fun d ↦ d.type = "=").getD c :: c.rows
  row :: (modifierDetour row ++ type ++ (declarator.field? "name").toList ++ value)

/-- The definitions of all variables of a declaration, and behind each its separator. -/
def variablesDetour (row : Cst) : List Cst :=
  (Shaper.declarators row).zipIdx.flatMap fun (d, i) ↦
    variableDetour row d ++ (row.children.filter fun c ↦ c.type ∈ [",", ";"])[i]?.toList

/-- A list in parentheses: the list stands behind the opening one, at the place of the row. -/
def listDetour (row : Cst) : List Cst :=
  (row.children.filter fun c ↦ c.type = "(") ++
    row :: ((row.children.flatMap fun c ↦ if c.type ∈ ["(", ")"] then [] else c.rows) ++
      row.children.filter fun c ↦ c.type = ")")

/-- A call: its object, its name and its arguments. -/
def callDetour (row : Cst) : List Cst :=
  row :: ((row.field? "object").toList.flatMap Cst.rows ++ (row.field? "name").toList ++
    (row.field? "arguments").toList.flatMap listDetour)

/-- An operation: the operator and the operands. -/
def operationDetour (row : Cst) (place : Option Nat) : List Cst :=
  (place.bind fun i ↦ row.children[i]?).getD row ::
    row.children.zipIdx.flatMap fun (c, i) ↦ if place = some i then [] else c.rows

/-- The place of the sign of an increment or decrement. -/
def signPlace? (row : Cst) : Option Nat :=
  let parts := row.children.zipIdx.filter fun (c, _) ↦ !c.isComment
  parts.head?.bind fun (first, i) ↦ if first.named then parts.getLast?.map Prod.snd else some i

/-- An access to an array: the array, the index and the brackets behind it. -/
def accessDetour (row : Cst) : List Cst :=
  row :: ((row.field? "array").toList.flatMap Cst.rows ++
    (row.field? "index").toList.flatMap Cst.rows ++ row.children.filter fun c ↦ c.type = "]")

/-- A length of an array that is created: the length, and the brackets behind it. -/
def lengthDetour (row : Cst) : List Cst :=
  row :: ((row.children.filter fun c ↦ c.named && !c.isComment).flatMap Cst.rows ++
    row.children.filter fun c ↦ c.type = "]")

/-- An array type: its brackets stand around its element type. -/
def arrayDetour (row : Cst) : List Cst :=
  let brackets := closingBrackets (row.field? "dimensions")
  brackets.reverse ++ (row.field? "element").toList.flatMap Cst.rows ++ brackets

/-- A loop over a collection: behind the opening parenthesis stands all that is between the two. -/
def loopDetour (row : Cst) : List Cst :=
  let type := (row.field? "type").toList.flatMap (typeDetour (row.field? "dimensions"))
  let name := (row.field? "name").toList.flatMap Cst.rows
  let value := (row.field? "value").toList.flatMap Cst.rows
  let clause := row :: (modifierDetour row ++ type ++ name ++
    row.children.filter (fun c ↦ c.type = ":") ++ value)
  let head := row.children.flatMap fun c ↦
    if c.type = "(" then c :: clause else if c.type = ")" then [c] else []
  row :: (head ++ (row.field? "body").toList.flatMap Cst.rows)

/-- The name of an import so far. An asterisk stands in front of the name. -/
def nameDetour (name : List Cst) (c : Cst) : List Cst :=
  if c.type ∈ ["identifier", "scoped_identifier"] then c.rows
  else if c.type = "asterisk" then c :: (name ++ [c])
  else name

/-- An import: its name and its semicolon. -/
def importDetour (row : Cst) : List Cst :=
  row :: ((row.children.filter fun c ↦ c.type ≠ "static").foldl nameDetour [] ++
    row.children.filter fun c ↦ c.type = ";")

/-- The rows that the rule of a row reads, in the order in which it reads them. Nothing is said
about rows that are read as they stand in the source. -/
def detour (row : Cst) : List Cst :=
  match Construct.ofType row.type with
  | .importDecl => importDetour row
  | .typeDeclaration _ | .method | .constructor => declarationDetour Cst.rows row
  | .field | .localVariable => variablesDetour row
  | .parameters | .arguments => listDetour row
  | .methodCall => callDetour row
  | .binary | .assignment => operationDetour row (Shaper.operatorPlace? row)
  | .update => operationDetour row (signPlace? row)
  | .arrayAccess => accessDetour row
  | .arrayType => arrayDetour row
  | .enhancedFor => loopDetour row
  | .generic =>
    if row.type ∈ ["formal_parameter", "spread_parameter"] then
      declarationDetour (fun c ↦
        if c.type ∈ typeReferences then typeDetour (row.field? "dimensions") c else c.rows) row
    else if row.type = "catch_formal_parameter" then declarationDetour Cst.rows row
    else if row.type = "dimensions_expr" then lengthDetour row
    else []
  | _ => []

/-! ## What is read stands below -/

section Subset

variable {row c : Cst}

theorem flatMap_subset_of_forall {α β : Type} {xs : List α} {f : α → List β} {ys : List β}
    (h : ∀ x ∈ xs, f x ⊆ ys) : xs.flatMap f ⊆ ys := by
  intro y hy
  obtain ⟨x, hx, hy⟩ := List.mem_flatMap.1 hy
  exact h x hx hy

theorem rows_subset (hc : c ∈ row.children) : c.rows ⊆ row.rows :=
  (rows_sublist_of_mem_children hc).subset

theorem filter_children_subset (p : Cst → Bool) : row.children.filter p ⊆ row.rows :=
  fun _ hd ↦ mem_rows_of_mem (List.mem_filter.1 hd).1

theorem field?_children_subset (field : String) : (row.field? field).toList ⊆ row.children :=
  fun _ hd ↦ mem_children_of_field? (Option.mem_toList.1 hd)

theorem field?_rows_subset (field : String) :
    (row.field? field).toList.flatMap Cst.rows ⊆ row.rows :=
  flatMap_subset_of_forall fun _ hd ↦ rows_subset (field?_children_subset field hd)

theorem closingBrackets_subset (field : String) :
    closingBrackets (row.field? field) ⊆ row.rows := by
  cases hd : row.field? field with
  | none => exact List.nil_subset _
  | some d => exact fun _ he ↦ rows_subset (mem_children_of_field? hd) (filter_children_subset _ he)

theorem modifierDetour_subset : modifierDetour row ⊆ row.rows := by
  rw [modifierDetour]
  split
  · next d hd => exact rows_subset (List.mem_of_find?_eq_some hd)
  · exact List.cons_subset.2 ⟨row.mem_rows_self, List.nil_subset _⟩

theorem typeDetour_subset {dimensions : Option Cst} (hc : c ∈ row.children)
    (hdimensions : closingBrackets dimensions ⊆ row.rows) :
    typeDetour dimensions c ⊆ row.rows := by
  refine List.cons_subset.2 ⟨mem_rows_of_mem hc, ?_⟩
  refine List.append_subset.2 ⟨List.append_subset.2 ⟨?_, rows_subset hc⟩, hdimensions⟩
  exact fun d hd ↦ hdimensions (List.mem_reverse.1 hd)

theorem declarationDetour_subset {part : Cst → List Cst}
    (hpart : ∀ c ∈ row.children, part c ⊆ row.rows) : declarationDetour part row ⊆ row.rows := by
  refine List.cons_subset.2 ⟨row.mem_rows_self, List.append_subset.2 ⟨modifierDetour_subset, ?_⟩⟩
  refine flatMap_subset_of_forall fun c hc ↦ ?_
  split_ifs
  · exact List.nil_subset _
  · exact hpart c hc

theorem variablesDetour_subset : variablesDetour row ⊆ row.rows := by
  refine flatMap_subset_of_forall ?_
  rintro ⟨d, i⟩ hp
  have hd : d ∈ row.children := (List.mem_filter.1 (List.fst_mem_of_mem_zipIdx hp)).1
  refine List.append_subset.2 ⟨List.cons_subset.2 ⟨row.mem_rows_self, ?_⟩, fun c hc ↦ ?_⟩
  · refine List.append_subset.2 ⟨List.append_subset.2 ⟨List.append_subset.2
      ⟨modifierDetour_subset, flatMap_subset_of_forall fun c hc ↦ ?_⟩, fun c hc ↦ ?_⟩,
      flatMap_subset_of_forall fun c hc ↦ ?_⟩
    · exact typeDetour_subset (field?_children_subset _ hc)
        (List.Subset.trans (closingBrackets_subset _) (rows_subset hd))
    · exact rows_subset hd (mem_rows_of_mem (field?_children_subset _ hc))
    · have hc := field?_children_subset _ hc
      refine List.cons_subset.2 ⟨?_, List.Subset.trans (rows_subset hc) (rows_subset hd)⟩
      cases hequals : d.children.find? fun e ↦ e.type = "=" with
      | none => exact rows_subset hd (mem_rows_of_mem hc)
      | some e => exact rows_subset hd (mem_rows_of_mem (List.mem_of_find?_eq_some hequals))
  · exact filter_children_subset _ (List.mem_of_getElem? (Option.mem_toList.1 hc))

theorem listDetour_subset : listDetour row ⊆ row.rows := by
  refine List.append_subset.2 ⟨filter_children_subset _, List.cons_subset.2 ⟨row.mem_rows_self,
    List.append_subset.2 ⟨flatMap_subset_of_forall fun c hc ↦ ?_, filter_children_subset _⟩⟩⟩
  split_ifs
  · exact List.nil_subset _
  · exact rows_subset hc

theorem operationDetour_subset (place : Option Nat) : operationDetour row place ⊆ row.rows := by
  refine List.cons_subset.2 ⟨?_, flatMap_subset_of_forall ?_⟩
  · cases hsign : place.bind fun i ↦ row.children[i]? with
    | none => exact row.mem_rows_self
    | some c =>
      obtain ⟨i, -, hc⟩ := Option.bind_eq_some_iff.1 hsign
      exact mem_rows_of_mem (List.mem_of_getElem? hc)
  · rintro ⟨c, i⟩ hp
    dsimp only
    split_ifs
    · exact List.nil_subset _
    · exact rows_subset (List.fst_mem_of_mem_zipIdx hp)

theorem loopDetour_subset : loopDetour row ⊆ row.rows := by
  refine List.cons_subset.2 ⟨row.mem_rows_self,
    List.append_subset.2 ⟨flatMap_subset_of_forall fun c hc ↦ ?_, field?_rows_subset _⟩⟩
  have htype : (row.field? "type").toList.flatMap (typeDetour (row.field? "dimensions"))
      ⊆ row.rows := flatMap_subset_of_forall fun d hd ↦
    typeDetour_subset (field?_children_subset _ hd) (closingBrackets_subset _)
  split_ifs
  · refine List.cons_subset.2 ⟨mem_rows_of_mem hc, List.cons_subset.2 ⟨row.mem_rows_self, ?_⟩⟩
    simp only [List.append_subset]
    exact ⟨⟨⟨⟨modifierDetour_subset, htype⟩, field?_rows_subset _⟩, filter_children_subset _⟩,
      field?_rows_subset _⟩
  · exact List.cons_subset.2 ⟨mem_rows_of_mem hc, List.nil_subset _⟩
  · exact List.nil_subset _

theorem foldl_nameDetour_subset {cs : List Cst} (hcs : cs ⊆ row.children) {name : List Cst}
    (hname : name ⊆ row.rows) : cs.foldl nameDetour name ⊆ row.rows := by
  induction cs generalizing name with
  | nil => exact hname
  | cons c cs ih =>
    obtain ⟨hc, hcs⟩ := List.cons_subset.1 hcs
    refine ih hcs ?_
    rw [nameDetour]
    split_ifs
    · exact rows_subset hc
    · simp only [List.cons_subset, List.append_subset]
      exact ⟨mem_rows_of_mem hc, hname, mem_rows_of_mem hc, List.nil_subset _⟩
    · exact hname

/-- A detour stays among the rows below. -/
theorem detour_subset (row : Cst) : detour row ⊆ row.rows := by
  rw [detour]
  cases Construct.ofType row.type with
  | importDecl =>
    exact List.cons_subset.2 ⟨row.mem_rows_self, List.append_subset.2
      ⟨foldl_nameDetour_subset (List.filter_subset_self _) (List.nil_subset _),
        filter_children_subset _⟩⟩
  | typeDeclaration | method | constructor =>
    exact declarationDetour_subset fun c hc ↦ rows_subset hc
  | field | localVariable => exact variablesDetour_subset
  | parameters | arguments => exact listDetour_subset
  | methodCall =>
    refine List.cons_subset.2 ⟨row.mem_rows_self, ?_⟩
    simp only [List.append_subset]
    refine ⟨⟨field?_rows_subset _, fun c hc ↦ mem_rows_of_mem (field?_children_subset _ hc)⟩,
      flatMap_subset_of_forall fun c hc ↦ ?_⟩
    exact List.Subset.trans listDetour_subset (rows_subset (field?_children_subset _ hc))
  | binary | assignment | update => exact operationDetour_subset _
  | arrayAccess =>
    refine List.cons_subset.2 ⟨row.mem_rows_self, ?_⟩
    simp only [List.append_subset]
    exact ⟨⟨field?_rows_subset _, field?_rows_subset _⟩, filter_children_subset _⟩
  | arrayType =>
    refine List.append_subset.2 ⟨List.append_subset.2
      ⟨fun c hc ↦ closingBrackets_subset _ (List.mem_reverse.1 hc), field?_rows_subset _⟩,
      closingBrackets_subset _⟩
  | enhancedFor => exact loopDetour_subset
  | generic =>
    dsimp only
    split_ifs
    · refine declarationDetour_subset fun c hc ↦ ?_
      split_ifs
      · exact typeDetour_subset hc (closingBrackets_subset _)
      · exact rows_subset hc
    · exact declarationDetour_subset fun c hc ↦ rows_subset hc
    · refine List.cons_subset.2 ⟨row.mem_rows_self, List.append_subset.2
        ⟨flatMap_subset_of_forall fun c hc ↦ rows_subset (List.mem_filter.1 hc).1,
          filter_children_subset _⟩⟩
    · exact List.nil_subset _
  | _ => exact List.nil_subset _

end Subset

/-! ## Orderly rows -/

/-- The outlines that a shaper has for a row and for the rows below it follow those rows, and all
detours in them ascend. -/
structure Shaper.Orderly (s : Shaper) (row : Cst) : Prop where
  convert : ∀ c ∈ row.rows, Follows s.source c.rows (s.convert c)
  typeParts : ∀ c ∈ row.rows, Follows s.source c.rows (s.typeParts c)
  ascends : ∀ c ∈ row.rows, Ascends s.source (detour c)

namespace Shaper.Orderly

variable {s : Shaper} {row c : Cst} {os : List Outline}

theorem child (h : s.Orderly row) (hc : c ∈ row.children) : s.Orderly c where
  convert d hd := h.convert d (mem_rows_of_mem_children hc hd)
  typeParts d hd := h.typeParts d (mem_rows_of_mem_children hc hd)
  ascends d hd := h.ascends d (mem_rows_of_mem_children hc hd)

/-- What follows the detour of a row follows the rows. -/
theorem follows_of_detour (h : s.Orderly row) (hos : Follows s.source (detour row) os) :
    Follows s.source row.rows os := by
  intro _
  obtain ⟨hsorted, hmem⟩ := hos (h.ascends row row.mem_rows_self)
  refine ⟨hsorted, fun l hl ↦ ?_⟩
  obtain ⟨c, hc, hline⟩ := hmem l hl
  exact ⟨c, detour_subset row hc, hline⟩

end Shaper.Orderly

end Java

end LintMark

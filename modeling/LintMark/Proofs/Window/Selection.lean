import LintMark.Proofs.Syntax.SameShape
import LintMark.Window.Selection

/-!
# What a window depends on

A window consists of nodes of the arena (`lt_size_of_mem_window`), and which nodes it has depends
on the shape of the tree and on the nodes of the line, and on nothing else
(`SameShape.window_eq`): two trees of one shape have the same windows on any two lines that hold
the same nodes. Texts and columns never count, and lines count only through the nodes that stand
on the line of the warning.
-/

namespace LintMark

open LintMark.Tree

namespace Site

variable {t : Tree} {line : Int}

@[simp] theorem tree_ofLine : (ofLine t line).tree = t := rfl

@[simp] theorem sameLine_ofLine : (ofLine t line).sameLine = t.nodesOnLine t.root line := rfl

@[simp] theorem constants_ofLine : (ofLine t line).constants = t.constants := rfl

/-! ## Windows stay in the arena -/

theorem lt_size_of_mem_sameLine {i : Nat} (hi : i ∈ (ofLine t line).sameLine) : i < t.size :=
  lt_size_of_mem_walk t.inArena_root (List.mem_filter.1 hi).1

theorem lt_size_of_anchor {i : Nat} (hi : (ofLine t line).anchor = some i) : i < t.size :=
  lt_size_of_mem_sameLine (List.mem_of_head? hi)

theorem mem_of_mem_neighbours {xs : List Nat} {x y : Nat} (hy : y ∈ neighbours xs x) : y ∈ xs :=
  List.mem_of_mem_drop (List.mem_of_mem_take hy)

theorem lt_size_of_mem_environmentWindow {i : Nat}
    (hi : i ∈ (ofLine t line).environmentWindow) : i < t.size := by
  rw [environmentWindow] at hi
  split at hi
  · cases hi
  · split at hi
    · exact lt_size_of_mem_sameLine hi
    · dsimp only at hi
      split at hi
      · refine lt_size_of_mem_subtrees (fun j hj ↦ ?_) hi
        exact lt_size_of_mem_children (List.mem_filter.1 (mem_of_mem_neighbours hj)).1
      · exact lt_size_of_mem_sameLine hi

theorem lt_size_of_method? {i : Nat} (hi : (ofLine t line).method? = some i) : i < t.size := by
  obtain ⟨anchor, hanchor, henclosing⟩ := Option.bind_eq_some_iff.1 hi
  exact lt_size_of_enclosing (lt_size_of_anchor hanchor) henclosing

theorem lt_size_of_firstType? {i : Nat} (hi : t.firstType? = some i) : i < t.size :=
  List.mem_range.1 (List.mem_of_find?_eq_some hi)

theorem lt_size_of_type? {i : Nat} (hi : (ofLine t line).type? = some i) : i < t.size := by
  rw [type?, Option.orElse_eq_orElse, Option.orElse_eq_or] at hi
  rcases Option.or_eq_some_iff.1 hi with hi | ⟨-, hi⟩
  · obtain ⟨anchor, hanchor, henclosing⟩ := Option.bind_eq_some_iff.1 hi
    exact lt_size_of_enclosing (lt_size_of_anchor hanchor) henclosing
  · exact lt_size_of_firstType? hi

theorem lt_size_of_mem_methodWindow {i : Nat} (hi : i ∈ (ofLine t line).methodWindow) :
    i < t.size := by
  rw [methodWindow] at hi
  split at hi
  · exact lt_size_of_mem_sameLine hi
  · next hmethod => exact lt_size_of_mem_descendants (lt_size_of_method? hmethod) hi

theorem lt_size_of_mem_typeWindow {i : Nat} (hi : i ∈ (ofLine t line).typeWindow) :
    i < t.size := by
  rw [typeWindow] at hi
  split at hi
  · exact lt_size_of_mem_sameLine hi
  · next htype =>
    rcases List.mem_cons.1 hi with rfl | hi
    · exact lt_size_of_type? htype
    · exact lt_size_of_mem_subtrees
        (fun j hj ↦ lt_size_of_mem_children (List.mem_filter.1 hj).1) hi

theorem lt_size_of_mem_fieldsWindow {keep : Nat → Bool} {i : Nat}
    (hi : i ∈ (ofLine t line).fieldsWindow keep) : i < t.size := by
  rw [fieldsWindow] at hi
  split at hi
  · cases hi
  · split at hi
    · cases hi
    · exact lt_size_of_mem_subtrees
        (fun j hj ↦ lt_size_of_mem_children (List.mem_filter.1 hj).1) hi

theorem lt_size_of_mem_nameOf {item i : Nat} (hitem : item < t.size) (hi : i ∈ nameOf t item) :
    i < t.size := by
  rw [nameOf] at hi
  split at hi
  · exact lt_size_of_mem_descendants hitem hi
  · split at hi
    · exact lt_size_of_findChild (Option.mem_toList.1 hi)
    · cases hi

theorem lt_size_of_mem_namePackageWindow {i : Nat}
    (hi : i ∈ (ofLine t line).namePackageWindow) : i < t.size := by
  rw [namePackageWindow] at hi
  split at hi
  · cases hi
  · obtain ⟨item, hitem, hi⟩ := List.mem_flatMap.1 hi
    exact lt_size_of_mem_nameOf (lt_size_of_mem_children hitem) hi

/-- Every node of a window is a node of the arena. -/
theorem lt_size_of_mem_window {strategy : Strategy} {i : Nat}
    (hi : i ∈ (ofLine t line).window strategy) : i < t.size := by
  cases strategy with
  | line => exact lt_size_of_mem_sameLine hi
  | environment => exact lt_size_of_mem_environmentWindow hi
  | method => exact lt_size_of_mem_methodWindow hi
  | typeHeader => exact lt_size_of_mem_typeWindow hi
  | fields => exact lt_size_of_mem_fieldsWindow hi
  | instanceFields => exact lt_size_of_mem_fieldsWindow hi
  | methodOrType =>
    rw [window, methodOrTypeWindow] at hi
    split at hi
    · exact lt_size_of_mem_methodWindow hi
    · exact lt_size_of_mem_typeWindow hi
  | namePackage => exact lt_size_of_mem_namePackageWindow hi

/-! ## The items of the environment -/

/-- The statement around the warning with its neighbours, at most three nodes in document order;
nothing where no statement is found, or where a separator stands in its place. -/
def environmentItems (site : Site) : Option (List Nat) :=
  site.anchor.bind fun anchor ↦
    (site.tree.statement? site.tree.parents anchor).bind fun (statement, container) ↦
      let siblings := (site.tree.children container).filter fun c ↦
        site.tree.kind c ∉ Kind.separators
      if statement ∈ siblings then some (neighbours siblings statement) else none

/-- The window of the environment is made of whole items, or is that of the line. -/
theorem environmentWindow_eq_elim (site : Site) :
    site.environmentWindow = site.environmentItems.elim site.lineWindow site.tree.subtrees := by
  rw [environmentWindow, environmentItems]
  cases hanchor : site.anchor with
  | none => exact (List.head?_eq_none_iff.1 hanchor).symm
  | some anchor =>
    rw [Option.bind_some]
    dsimp only
    cases site.tree.statement? site.tree.parents anchor with
    | none => rfl
    | some found =>
      obtain ⟨statement, container⟩ := found
      rw [Option.bind_some]
      dsimp only
      split
      · rfl
      · rfl

end Site

namespace Tree.SameShape

variable {s t : Tree} {l l' : Int}

/-! ## Windows of trees of one shape -/

/-- The lines `l` and `l'` hold the same nodes. -/
theorem nodesOnLine_eq (h : SameShape s t)
    (hline : ∀ i < s.size, s.line i = l ↔ t.line i = l') :
    s.nodesOnLine s.root l = t.nodesOnLine t.root l' := by
  rw [nodesOnLine, nodesOnLine, h.walk_eq, h.root_eq]
  refine List.filter_congr fun i hi ↦ ?_
  have hsize : i < s.size := by
    rw [h.size_eq]
    exact lt_size_of_mem_walk t.inArena_root hi
  exact decide_eq_decide.2 (hline i hsize)

theorem anchor_eq (hline : s.nodesOnLine s.root l = t.nodesOnLine t.root l') :
    (Site.ofLine s l).anchor = (Site.ofLine t l').anchor :=
  congrArg List.head? hline

variable (h : SameShape s t) (hline : s.nodesOnLine s.root l = t.nodesOnLine t.root l')

include h hline

theorem environmentWindow_eq :
    (Site.ofLine s l).environmentWindow = (Site.ofLine t l').environmentWindow := by
  rw [Site.environmentWindow, Site.environmentWindow, anchor_eq hline, Site.lineWindow,
    Site.lineWindow, Site.tree_ofLine, Site.tree_ofLine, Site.sameLine_ofLine,
    Site.sameLine_ofLine, h.parents_eq, h.statement?_eq, h.children_eq, h.kind_eq, h.subtrees_eq,
    hline]

theorem method?_eq : (Site.ofLine s l).method? = (Site.ofLine t l').method? := by
  rw [Site.method?, Site.method?, anchor_eq hline, Site.tree_ofLine, Site.tree_ofLine,
    h.parents_eq, h.enclosing_eq]

theorem type?_eq : (Site.ofLine s l).type? = (Site.ofLine t l').type? := by
  rw [Site.type?, Site.type?, anchor_eq hline, Site.tree_ofLine, Site.tree_ofLine,
    h.parents_eq, h.enclosing_eq, h.firstType?_eq]

theorem methodWindow_eq : (Site.ofLine s l).methodWindow = (Site.ofLine t l').methodWindow := by
  rw [Site.methodWindow, Site.methodWindow, h.method?_eq hline, Site.lineWindow, Site.lineWindow,
    Site.tree_ofLine, Site.tree_ofLine, Site.sameLine_ofLine, Site.sameLine_ofLine,
    h.descendants_eq, hline]

theorem typeWindow_eq : (Site.ofLine s l).typeWindow = (Site.ofLine t l').typeWindow := by
  rw [Site.typeWindow, Site.typeWindow, h.type?_eq hline, Site.lineWindow, Site.lineWindow,
    Site.tree_ofLine, Site.tree_ofLine, Site.sameLine_ofLine, Site.sameLine_ofLine,
    h.subtrees_eq, h.children_eq, h.kind_eq, hline]

theorem fieldsWindow_eq (keep : Nat → Bool) :
    (Site.ofLine s l).fieldsWindow keep = (Site.ofLine t l').fieldsWindow keep := by
  rw [Site.fieldsWindow, Site.fieldsWindow, h.type?_eq hline, Site.tree_ofLine,
    Site.tree_ofLine, h.findChild_eq, h.subtrees_eq, h.children_eq, h.kind_eq]

omit hline in
theorem namePackageWindow_eq :
    (Site.ofLine s l).namePackageWindow = (Site.ofLine t l').namePackageWindow := by
  have hname : Site.nameOf s = Site.nameOf t := by
    funext i
    rw [Site.nameOf, Site.nameOf, h.kind_eq, h.descendants_eq, h.findChild_eq]
  rw [Site.namePackageWindow, Site.namePackageWindow, Site.tree_ofLine, Site.tree_ofLine,
    h.root_eq, h.children_eq, hname]

/-- Trees of one shape have the same windows on lines that hold the same nodes. -/
theorem window_eq (strategy : Strategy) :
    (Site.ofLine s l).window strategy = (Site.ofLine t l').window strategy := by
  cases strategy with
  | line => exact hline
  | environment => exact h.environmentWindow_eq hline
  | method => exact h.methodWindow_eq hline
  | typeHeader => exact h.typeWindow_eq hline
  | fields => exact h.fieldsWindow_eq hline _
  | instanceFields =>
    rw [Site.window, Site.window, h.fieldsWindow_eq hline, Site.tree_ofLine, Site.tree_ofLine,
      h.isStatic_eq]
  | methodOrType =>
    rw [Site.window, Site.window, Site.methodOrTypeWindow, Site.methodOrTypeWindow,
      h.method?_eq hline, h.methodWindow_eq hline, h.typeWindow_eq hline]
  | namePackage => exact h.namePackageWindow_eq

end Tree.SameShape

end LintMark

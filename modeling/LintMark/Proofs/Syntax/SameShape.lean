import LintMark.Constant.Recognition
import LintMark.Proofs.Syntax.Walk

/-!
# Trees of one shape

Two trees have the same shape when they have the same links and the same kinds; texts, lines and
columns may differ. Everything that follows links and asks for kinds alone has the same result on
both: walks, parents, searches for an enclosing node, and the constant pass.

## Functions instead of values

The results are stated as equations between functions, `s.children = t.children` and the like, so
that a definition that is built from them is carried over by rewriting.

## Changing tokens

`Tree.mapTokens` changes the tokens of a tree and leaves its links alone. Where the change keeps
kinds, the shape is kept.
-/

namespace LintMark

namespace Tree

/-! ## Trees of one shape -/

/-- Two trees with the same links and the same kinds. -/
structure SameShape (s t : Tree) : Prop where
  size_eq : s.size = t.size
  kind_eq : s.kind = t.kind
  firstChild_eq : ∀ i, (s.node i).firstChild = (t.node i).firstChild
  nextSibling_eq : ∀ i, (s.node i).nextSibling = (t.node i).nextSibling

/-- Nodes outside both arenas are blank, so that a comparison of the nodes inside suffices. -/
theorem node_eq_of_size_le {s t : Tree} (hsize : s.size = t.size) {i : Nat} (hi : s.size ≤ i) :
    s.node i = t.node i := by
  have hi' : t.size ≤ i := by
    rw [← hsize]
    exact hi
  rw [s.node_of_size_le hi, t.node_of_size_le hi']

theorem SameShape.of_nodes {s t : Tree} (hsize : s.size = t.size)
    (hnode : ∀ i < s.size, s.kind i = t.kind i ∧ (s.node i).firstChild = (t.node i).firstChild ∧
      (s.node i).nextSibling = (t.node i).nextSibling) : SameShape s t where
  size_eq := hsize
  kind_eq := by
    funext i
    rcases Nat.lt_or_ge i s.size with hi | hi
    · exact (hnode i hi).1
    · rw [kind, kind, node_eq_of_size_le hsize hi]
  firstChild_eq i := by
    rcases Nat.lt_or_ge i s.size with hi | hi
    · exact (hnode i hi).2.1
    · rw [node_eq_of_size_le hsize hi]
  nextSibling_eq i := by
    rcases Nat.lt_or_ge i s.size with hi | hi
    · exact (hnode i hi).2.2
    · rw [node_eq_of_size_le hsize hi]

namespace SameShape

variable {s t : Tree} (h : SameShape s t)

include h

theorem root_eq : s.root = t.root := by
  have hempty : s.nodes.isEmpty = t.nodes.isEmpty := by
    rw [Array.isEmpty, Array.isEmpty, show s.nodes.size = t.nodes.size from h.size_eq]
  rw [root, root, hempty]

/-! ### Walks -/

theorem chain_eq : s.chain = t.chain := by
  funext o
  fun_induction chain s o with
  | case1 => rw [chain_none]
  | case2 i ih => rw [ih, h.nextSibling_eq, chain_some]

theorem children_eq : s.children = t.children := by
  funext i
  rw [children, children, h.chain_eq, h.firstChild_eq]

theorem childCount_eq : s.childCount = t.childCount := by
  funext i
  rw [childCount, childCount, h.children_eq]

theorem findChild_eq : s.findChild = t.findChild := by
  funext i kind
  rw [findChild, findChild, h.children_eq, h.kind_eq]

theorem pre_eq : s.pre = t.pre := by
  funext o
  fun_induction pre s o with
  | case1 => rw [pre_none]
  | case2 i ihChild ihSibling =>
    rw [ihChild, ihSibling, h.firstChild_eq, h.nextSibling_eq, pre_some]

theorem walk_eq : s.walk = t.walk := by
  funext o
  rw [walk_eq_pre, walk_eq_pre, h.pre_eq]

theorem descendants_eq : s.descendants = t.descendants := by
  funext o
  cases o with
  | none => rfl
  | some i => rw [descendants, descendants, h.walk_eq, h.firstChild_eq]

theorem subtrees_eq : s.subtrees = t.subtrees := by
  funext is
  rw [subtrees, subtrees, h.descendants_eq]

/-! ### Ancestry -/

theorem parents_eq : s.parents = t.parents := by
  have hclaim : s.claimChildren = t.claimChildren := by
    funext table i
    rw [claimChildren, claimChildren, h.children_eq]
  have htable : s.parentTable = t.parentTable := by
    rw [parentTable, parentTable, hclaim, h.size_eq]
  rw [parents, parents]
  congr 1

theorem enclosing_eq : s.enclosing = t.enclosing := by
  funext p i kinds
  rw [enclosing, enclosing, h.kind_eq]

theorem statement?_eq : s.statement? = t.statement? := by
  funext p i
  rw [statement?, statement?, h.kind_eq]

theorem firstType?_eq : s.firstType? = t.firstType? := by
  rw [firstType?, firstType?, h.size_eq, h.kind_eq]

theorem isStatic_eq : s.isStatic = t.isStatic := by
  funext i
  rw [isStatic, isStatic, h.findChild_eq]

/-! ### Constants -/

theorem initializerToken_eq : s.initializerToken = t.initializerToken := by
  funext i
  rw [initializerToken, initializerToken, h.firstChild_eq]
  exact congrArg _ (funext h.firstChild_eq)

theorem constant?_eq : s.constant? = t.constant? := by
  funext i
  rw [constant?, constant?, h.kind_eq, h.children_eq, h.childCount_eq, h.initializerToken_eq]

theorem constants_eq : s.constants = t.constants := by
  have hbind : s.bindConstant = t.bindConstant := by
    funext i b
    rw [bindConstant, bindConstant, h.constant?_eq]
  rw [constants, constants, constantsFrom, constantsFrom, h.walk_eq, h.root_eq, hbind]

end SameShape

/-! ## Changing tokens -/

/-- The tree with every token changed by `f`. -/
def mapTokens (f : Token → Token) (t : Tree) : Tree where
  nodes := t.nodes.map fun node ↦ { node with toToken := f node.toToken }
  acyclic := by
    obtain ⟨rank, hrank⟩ := t.acyclic
    refine ⟨rank, fun i hi j hj ↦ ?_⟩
    rw [Array.size_map] at hi ⊢
    rw [Array.getElem_map] at hj
    exact hrank i hi j hj

variable {t : Tree} {f : Token → Token}

@[simp] theorem size_mapTokens : (t.mapTokens f).size = t.size := Array.size_map

theorem node_mapTokens {i : Nat} (hi : i < t.size) :
    (t.mapTokens f).node i = { t.node i with toToken := f (t.node i).toToken } := by
  have hi' : i < (t.mapTokens f).nodes.size := by
    rw [← size, size_mapTokens]
    exact hi
  rw [node_eq_getElem _ hi', node_eq_getElem _ hi]
  exact Array.getElem_map ..

theorem sameShape_mapTokens (hf : ∀ token, (f token).kind = token.kind) :
    SameShape (t.mapTokens f) t := by
  refine SameShape.of_nodes size_mapTokens fun i hi ↦ ?_
  rw [size_mapTokens] at hi
  rw [kind, node_mapTokens hi]
  exact ⟨hf _, rfl, rfl⟩

end Tree

end LintMark

import LintMark.Window.Site
import LintMark.Window.Strategy

/-!
# Selecting a window

A window is the ordered list of nodes that describe a warning. Each strategy is a function from
the site of the warning to its window. Where the construct that a strategy looks for does not
enclose the warning, the strategy falls back: to the line, or for the strategies on types to the
first type of the file.
-/

namespace LintMark

namespace Kind

/-- The kinds of nodes whose children are statements or members. -/
def statementContainers : List Kind := [slist, objBlock, caseGroup]

/-- The separators that stand among statements and members. -/
def separators : List Kind := [semi, lcurly, rcurly, comma]

end Kind

namespace Tree

/-- The subtrees of the given nodes, one after the other. -/
def subtrees (t : Tree) (is : List Nat) : List Nat := is.flatMap fun i ↦ t.descendants (some i)

/-- The innermost node among `i` and its ancestors that stands in a statement container, together
with that container. -/
def statement? (t : Tree) (p : Parents) (i : Nat) : Option (Nat × Nat) :=
  (i :: p.ancestors i).findSome? fun c ↦
    (p.parent? c).bind fun container ↦
      if t.kind container ∈ Kind.statementContainers then some (c, container) else none

/-- The first type declaration of the arena. -/
def firstType? (t : Tree) : Option Nat :=
  (List.range t.size).find? fun i ↦ t.kind i ∈ Kind.typeDeclarations

/-- Whether a declaration is marked static. -/
def isStatic (t : Tree) (declaration : Nat) : Bool :=
  match t.findChild declaration Kind.modifiers with
  | some modifiers => (t.findChild modifiers Kind.literalStatic).isSome
  | none => false

end Tree

/-- The members of a list from the one in front of the first `x` to the one behind it. -/
def neighbours (xs : List Nat) (x : Nat) : List Nat :=
  let position := xs.idxOf x
  -- Subtraction stops at zero, so the first member has no member in front of it.
  (xs.drop (position - 1)).take (position + 2 - (position - 1))

namespace Site

/-- The window of the line. -/
def lineWindow (site : Site) : List Nat := site.sameLine

/-- The window of the enclosing statement: its subtree and those of its neighbours. -/
def environmentWindow (site : Site) : List Nat :=
  match site.anchor with
  | none => []
  | some anchor =>
    match site.tree.statement? site.tree.parents anchor with
    | none => site.lineWindow
    | some (statement, container) =>
      -- A separator is nobody's neighbour.
      let siblings := (site.tree.children container).filter fun c ↦
        site.tree.kind c ∉ Kind.separators
      if statement ∈ siblings then site.tree.subtrees (neighbours siblings statement)
      else site.lineWindow

/-- The method or constructor around the warning. -/
def method? (site : Site) : Option Nat :=
  site.anchor.bind fun anchor ↦
    site.tree.enclosing site.tree.parents anchor Kind.methodDeclarations

/-- The type declaration around the warning; outside of any type, the first one of the file. -/
def type? (site : Site) : Option Nat :=
  let around := site.anchor.bind fun anchor ↦
    site.tree.enclosing site.tree.parents anchor Kind.typeDeclarations
  around <|> site.tree.firstType?

/-- The window of the enclosing method. -/
def methodWindow (site : Site) : List Nat :=
  match site.method? with
  | none => site.lineWindow
  | some method => site.tree.descendants (some method)

/-- The window of the enclosing type's header: the declaration without its body. -/
def typeWindow (site : Site) : List Nat :=
  match site.type? with
  | none => site.lineWindow
  | some decl =>
    decl :: site.tree.subtrees ((site.tree.children decl).filter fun c ↦
      site.tree.kind c ≠ Kind.objBlock)

/-- The window of the enclosing type's fields that satisfy `keep`. -/
def fieldsWindow (site : Site) (keep : Nat → Bool) : List Nat :=
  match site.type? with
  | none => []
  | some decl =>
    match site.tree.findChild decl Kind.objBlock with
    | none => []
    | some body =>
      site.tree.subtrees ((site.tree.children body).filter fun m ↦
        site.tree.kind m = Kind.variableDef && keep m)

/-- The window of the enclosing method, or else of the enclosing type's header. -/
def methodOrTypeWindow (site : Site) : List Nat :=
  if site.method?.isSome then site.methodWindow else site.typeWindow

/-- What a top-level item adds to the window of names: a package declaration its subtree, a type
its name. -/
def nameOf (t : Tree) (item : Nat) : List Nat :=
  if t.kind item = Kind.packageDef then t.descendants (some item)
  else if t.kind item ∈ Kind.typeDeclarations then (t.findChild item Kind.ident).toList
  else []

/-- The window of the package and the top-level type names. -/
def namePackageWindow (site : Site) : List Nat :=
  match site.tree.root with
  | none => []
  | some root => (site.tree.children root).flatMap (nameOf site.tree)

/-- The window that a strategy selects. -/
def window (site : Site) : Strategy → List Nat
  | .line => site.lineWindow
  | .environment => site.environmentWindow
  | .method => site.methodWindow
  | .typeHeader => site.typeWindow
  | .fields => site.fieldsWindow fun _ ↦ true
  | .instanceFields => site.fieldsWindow fun m ↦ !site.tree.isStatic m
  | .methodOrType => site.methodOrTypeWindow
  | .namePackage => site.namePackageWindow

end Site

end LintMark

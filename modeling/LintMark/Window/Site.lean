import LintMark.Constant.Recognition
import LintMark.Syntax.Ancestry

/-!
# The site of a warning

Everything that one fingerprint needs to know about a file: the tree, the line of the warning,
the nodes on that line and the constants of the file. A site is made afresh for each warning.
-/

namespace LintMark

/-- A line of a file with what a fingerprint needs to know about both. -/
structure Site where
  /-- The tree of the file. -/
  tree : Tree
  /-- The line of the warning. -/
  line : Int
  /-- The nodes on the line, in document order. -/
  sameLine : List Nat
  /-- The constants of the file. -/
  constants : Bindings
  /-- The line on which the first type body of the file ends. -/
  lastLine : Option Int

namespace Site

/-- The site of a line. -/
def ofLine (tree : Tree) (line : Int) : Site where
  tree := tree
  line := line
  sameLine := tree.nodesOnLine tree.root line
  constants := tree.constants
  lastLine := tree.lastLine

/-- The first node on the line. -/
def anchor (site : Site) : Option Nat := site.sameLine.head?

end Site

end LintMark

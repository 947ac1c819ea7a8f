import LintMark.Fingerprinter.Request
import LintMark.Java.Grammar
import LintMark.Session.Basic
import LintMark.Proofs.Fingerprint.LineShift
import LintMark.Proofs.Fingerprint.Locality
import LintMark.Proofs.Fingerprint.Renaming
import LintMark.Proofs.Java.Comments.Source
import LintMark.Proofs.Syntax.Builder
import LintMark.Syntax.Agreement
import LintMark.Proofs.Syntax.Layout
import LintMark.Proofs.Fingerprinter.Batch
import LintMark.Proofs.Session.Loads
import LintMark.Proofs.Java.Formatting
import LintMark.Proofs.Java.Formatting.Types
import LintMark.Proofs.Java.Formatting.Declarations
import LintMark.Proofs.Java.Formatting.Statements
import LintMark.Proofs.Java.Formatting.Source
import LintMark.Proofs.Fingerprint.Formatting
import LintMark.Proofs.Fingerprint.Code
import LintMark.Proofs.Fingerprinter.EntryPoints
import LintMark.Proofs.Window.Order
import LintMark.Proofs.Json.Reader
import LintMark.Proofs.Json.Tokens
import LintMark.Proofs.Report.Loading
import LintMark.Proofs.Session.Agreement
import LintMark.Proofs.Syntax.Ancestry
import LintMark.Proofs.Syntax.Subtrees
import LintMark.Proofs.Window.Environment
import LintMark.Proofs.Constant.Fields
import LintMark.Proofs.Java.Blocks
import LintMark.Proofs.Java.Reach
import LintMark.Proofs.Java.Origin
import LintMark.Proofs.Java.Origin.Expressions
import LintMark.Proofs.Java.Origin.Statements
import LintMark.Proofs.Java.Origin.Source
import LintMark.Proofs.Window.Neighbours
import LintMark.Proofs.Syntax.Comparison
import LintMark.Proofs.Syntax.Enclosing
import LintMark.Proofs.Java.Places
import LintMark.Proofs.Java.Fields
import LintMark.Proofs.Window.Anchor
import LintMark.Proofs.Window.Fields
import LintMark.Proofs.Fingerprint.Spelling
import LintMark.Proofs.Constant.Passes
import LintMark.Proofs.Constant.Values
import LintMark.Proofs.Java.Names
import LintMark.Proofs.Java.Names.Expressions
import LintMark.Proofs.Java.Names.Statements
import LintMark.Proofs.Java.Names.Source
import LintMark.Proofs.Report.Lookup
import LintMark.Proofs.Java.Levels
import LintMark.Proofs.Java.Modifiers
import LintMark.Proofs.Java.Dimensions
import LintMark.Proofs.Java.Lines
import LintMark.Proofs.Java.Lines.Expressions
import LintMark.Proofs.Java.Lines.Statements
import LintMark.Proofs.Java.Lines.Source
import LintMark.Proofs.Fingerprint.Signed
import LintMark.Proofs.Fingerprinter.Comparison
import LintMark.Proofs.Report.Entries
import LintMark.Proofs.Report.Layouts
import LintMark.Proofs.Syntax.Preorder
import LintMark.Proofs.Java.Faults

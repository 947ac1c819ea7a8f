import LintMark.Workspace.Path

/-!
# Files

The files that a workspace holds, as a value: a map from absolute paths to regular files and
directories. A path in use is text; it is found component by component from the root or from the
working directory, so `.` and `..` and doubled slashes mean what they mean to the operating
system, and every component but the last has to be a directory.
-/

namespace LintMark

/-- What stands under a path. -/
inductive Entry where
  /-- A regular file with its bytes. -/
  | file (bytes : ByteArray)
  /-- A directory. -/
  | directory

/-- Why a file cannot be opened for reading. -/
inductive OpenError where
  /-- Nothing stands under the path. -/
  | missing
  /-- A directory stands under the path. -/
  | isDirectory
  /-- A component that should be a directory is a regular file. -/
  | notDirectory
deriving DecidableEq, Repr

/-- The wording of the error for a path. -/
def OpenError.message (e : OpenError) (path : Text) : String :=
  let cause := match e with
    | .missing => "[Errno 2] No such file or directory"
    | .isDirectory => "[Errno 21] Is a directory"
    | .notDirectory => "[Errno 20] Not a directory"
  cause ++ ": " ++ path.quoted

/-- The files of a machine, and the working directory that relative paths start from. Paths are
lists of components, the last one first. -/
structure Files where
  /-- The entries below the root. An earlier pair hides a later one of the same path. -/
  entries : List (List Text × Entry)
  /-- The working directory. -/
  here : List Text

namespace Files

/-- The entry under a path of components. The root is a directory. -/
def entry? (fs : Files) (path : List Text) : Option Entry :=
  if path.isEmpty then some .directory else fs.entries.lookup path

/-- Steps from a path to the next component. -/
def step (fs : Files) (path : List Text) (component : Text) :
    Except OpenError (List Text) :=
  match fs.entry? path with
  | none => .error .missing
  | some (.file _) => .error .notDirectory
  | some .directory =>
    if component = "" ∨ component = "." then .ok path
    else if component = ".." then .ok path.tail
    -- Whether the component exists shows at the next step, or at the end.
    else .ok (component :: path)

/-- The components of a path text: those between its slashes. -/
def components (path : Text) : List Text := (path.symbols.splitOn (.char '/')).map .mk

/-- The entry that a path text leads to. -/
def resolve (fs : Files) (path : Text) : Except OpenError Entry := do
  if path.isEmpty then .error .missing
  let start := if Path.isAbsolute path then [] else fs.here
  let target ← (components path).foldlM fs.step start
  match fs.entry? target with
  | some entry => .ok entry
  | none => .error .missing

/-- Whether a path text leads to anything. A path that cannot be handed over does not. -/
def holds (fs : Files) (path : Text) : Bool :=
  match Path.fault? path, fs.resolve path with
  | none, .ok _ => true
  | _, _ => false

/-- The bytes of the regular file that a path text leads to. -/
def read (fs : Files) (path : Text) : Except OpenError ByteArray :=
  match fs.resolve path with
  | .ok (.file bytes) => .ok bytes
  | .ok .directory => .error .isDirectory
  | .error e => .error e

end Files

end LintMark

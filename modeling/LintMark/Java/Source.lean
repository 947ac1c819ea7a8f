import LintMark.Java.Shape
import LintMark.Workspace.Files

/-!
# Reading Java sources

From the bytes of a source to its syntax tree: a grammar reads the bytes, a strict reader refuses
a source with a fault, and shaping gives the outline that is laid out as a tree. A file is
checked before it is read: it may not be too large, nor look binary, and it has to be UTF-8.
-/

namespace LintMark

/-- Why a source has no tree. -/
inductive SourceFault where
  /-- The file cannot be opened under the given path. -/
  | unreadable (cause : OpenError)
  /-- The file is larger than a source may be. -/
  | tooLarge
  /-- The file has a zero byte near its start. -/
  | binary
  /-- The file is not UTF-8. -/
  | notUtf8 (fault : Utf8.Fault)
  /-- The source is not well-formed; the first fault is on the given line. -/
  | syntaxError (line : Nat)
  /-- Its constructs nest too deep. -/
  | tooDeep
deriving DecidableEq

/-- A source without a tree. -/
structure SourceError where
  /-- The path that was read. -/
  path : Text
  /-- What is wrong with it. -/
  fault : SourceFault
deriving DecidableEq

/-- The largest number of bytes that a source may have. -/
def maxSourceBytes : Nat := 10 * 1024 * 1024

/-- The number of bytes at the start of a file among which no byte may be zero. -/
def sniffedBytes : Nat := 8192

/-- The wording of what is wrong with a sequence of bytes. -/
def Utf8.Fault.message (fault : Utf8.Fault) : String :=
  let place :=
    if fault.length = 1 then
      "byte 0x" ++ String.ofList (Text.hexDigits 2 fault.byte.toNat) ++ " in position "
        ++ toString fault.start
    else
      "bytes in position " ++ toString fault.start ++ "-"
        ++ toString (fault.start + fault.length - 1)
  let reason := match fault.reason with
    | .invalidStart => "invalid start byte"
    | .invalidContinuation => "invalid continuation byte"
    | .unexpectedEnd => "unexpected end of data"
  "'utf-8' codec can't decode " ++ place ++ ": " ++ reason

namespace SourceError

/-- The reason that the message gives. -/
def reason (e : SourceError) : String :=
  match e.fault with
  | .unreadable cause => cause.message e.path
  | .tooLarge => "file exceeds " ++ toString maxSourceBytes ++ " bytes"
  | .binary => "binary file"
  | .notUtf8 fault => "not valid UTF-8: " ++ fault.message
  | .syntaxError line => "syntax error near line " ++ toString line
  | .tooDeep => "expression nesting too deep"

/-- The wording of the error. -/
def message (e : SourceError) : Text := "Cannot parse " ++ e.path ++ ": " ++ e.reason

end SourceError

/-- Why reading a source ends without a tree. -/
inductive ReadError where
  /-- The source is refused. -/
  | source (e : SourceError)
  /-- The path cannot be handed over for opening. -/
  | path (e : PathFault)
  /-- An increment or decrement of the concrete tree has no sign. -/
  | bareUpdate
deriving DecidableEq

/-! ## Sources -/

/-- The tree of what a grammar has read. A strict reader refuses a source with a fault. -/
def Reading.tree (r : Reading) (path : Text) (strict : Bool) : Except ReadError Tree :=
  if strict && r.hasFault then .error (.source ⟨path, .syntaxError r.faultLine⟩)
  else match Java.outlines r.source r.root with
    | .ok outlines => .ok (.ofOutlines outlines)
    | .error .tooDeep => .error (.source ⟨path, .tooDeep⟩)
    | .error .bareUpdate => .error .bareUpdate

/-! ## Files -/

/-- The byte-order mark of UTF-8. -/
def byteOrderMark : List UInt8 := [0xEF, 0xBB, 0xBF]

/-- The bytes without a byte-order mark in front. -/
def withoutByteOrderMark (bytes : ByteArray) : ByteArray :=
  if (bytes.extract 0 3).toList = byteOrderMark then bytes.extract 3 bytes.size else bytes

/-- The bytes of a source file, if they can be the bytes of a source. -/
def checkedSource (bytes : ByteArray) : Except SourceFault ByteArray :=
  if bytes.size > maxSourceBytes then .error .tooLarge
  else if (bytes.extract 0 sniffedBytes).toList.contains 0 then .error .binary
  else
    let content := withoutByteOrderMark bytes
    match Utf8.fault? content with
    | some fault => .error (.notUtf8 fault)
    | none => .ok content

/-- The tree of a source file. -/
def Files.tree (fs : Files) (grammar : Grammar) (path : Text) (strict : Bool) :
    Except ReadError Tree :=
  match Path.fault? path with
  | some e => .error (.path e)
  | none =>
    match fs.read path with
    | .error cause => .error (.source ⟨path, .unreadable cause⟩)
    | .ok bytes =>
      match checkedSource bytes with
      | .error fault => .error (.source ⟨path, fault⟩)
      | .ok content => (grammar content).tree path strict

end LintMark

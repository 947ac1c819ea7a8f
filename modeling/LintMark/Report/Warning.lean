import LintMark.Json.Value
import LintMark.Window.Strategy
import LintMark.Workspace.Path

/-!
# Warnings

A warning as a tool reports it, and how one is made from an entry of a report. Tools use different
keys for the same thing, so each field is the first value that counts as present among several
keys. The place of a warning may stand in an object of its own, whose values go before those of
the entry.
-/

namespace LintMark

/-- A reported warning. -/
structure Warning where
  /-- The file, with slashes in its path. -/
  file : Text
  /-- The line. -/
  line : Int
  /-- The name of the rule. -/
  rule : Text := ""
  /-- The category of the rule. -/
  category : Text := ""
  /-- The wording of the warning. -/
  message : Text := ""
  /-- How severe the warning is. -/
  severity : Text := "normal"
  /-- A name that qualifies the place of the warning. -/
  contextName : Option Text := none
  /-- The strategy that the report asks for. -/
  strategy : Option Strategy := none
deriving DecidableEq, Repr

/-- Why an entry of a report gives no warning. -/
inductive EntryError where
  /-- The entry is no object. -/
  | notObject
  /-- The entry names no file. -/
  | noFile
  /-- The line is no integer. -/
  | badLine
  /-- The line is infinite. -/
  | infiniteLine
  /-- The strategy is none. -/
  | badStrategy
deriving DecidableEq, Repr

namespace Warning

/-- The value of the first of the keys under which an object has a value that counts as present. -/
def firstPresent (object : Json) (keys : List Text) : Option Json :=
  keys.findSome? fun key ↦ (object.get? key).filter Json.isTruthy

/-- The text of the first value that counts as present, or else `other`. -/
def firstText (object : Json) (keys : List Text) (other : Text) : Text :=
  ((firstPresent object keys).map Json.text).getD other

/-- The object that holds the place of the warning. Where there is none, null stands for it. -/
def location (entry : Json) : Json :=
  match entry.get? "location" with
  | some (.obj members) => .obj members
  | _ => .null

/-- The value that names the file. -/
def fileValue (entry : Json) : Option Json :=
  firstPresent (location entry) ["path", "file"] <|>
    firstPresent entry ["file", "path", "fileName"]

/-- The value that gives the line; zero where there is none. -/
def lineValue (entry : Json) : Json :=
  (firstPresent (location entry) ["startLine", "line"] <|>
    firstPresent entry ["line", "startLine", "lineNumber"]).getD (.int 0)

/-- The qualifying name. The second key counts even if its value does not count as present. -/
def contextNameOf (entry : Json) : Option Text :=
  match firstPresent entry ["contextName"] with
  | some v => some v.text
  | none =>
    match entry.get? "name" with
    | none | some .null => none
    | some v => some v.text

/-- The strategy that an entry asks for, in letters of either case. -/
def strategyOf (entry : Json) : Except EntryError (Option Strategy) :=
  match firstPresent entry ["strategy", "context"] with
  | none => .ok none
  | some v =>
    match Strategy.ofName v.text.toLower with
    | .ok strategy => .ok (some strategy)
    | .error _ => .error .badStrategy

/-- The line of an entry. -/
def lineOf (entry : Json) : Except EntryError Int :=
  match (lineValue entry).toInt with
  | .ok line => .ok line
  | .error .infinite => .error .infiniteLine
  | .error .notNumeric => .error .badLine

/-- The warning of an entry that is an object. -/
def ofObject (entry : Json) : Except EntryError Warning := do
  let file ← match fileValue entry with
    | some v => .ok (Path.withSlashes v.text)
    | none => .error .noFile
  let line ← lineOf entry
  let strategy ← strategyOf entry
  return {
    file, line, strategy
    rule := firstText entry ["type", "warningType", "rule", "ruleId", "checkId"] ""
    category := firstText entry ["category"] ""
    message := firstText entry ["message", "msg"] ""
    severity := (firstText entry ["severity", "priority"] "normal").toLower
    contextName := contextNameOf entry }

/-- The warning of an entry. -/
def ofEntry (entry : Json) : Except EntryError Warning :=
  match entry with
  | .obj _ => ofObject entry
  | _ => .error .notObject

end Warning

end LintMark

import LintMark.Text.Case
import LintMark.Text.Quoted

/-!
# Strategies

A strategy says which part of a file describes a warning. The set is closed. Tools name their
rules, and `Strategy.forWarning` picks the strategy that fits a rule: by the rule's name, by the
last part of a qualified check name, by the category, and the enclosing statement otherwise.
-/

namespace LintMark

/-- The ways to choose the part of a file that describes a warning. -/
inductive Strategy where
  /-- The nodes on the line of the warning. -/
  | line
  /-- The enclosing statement and its two neighbours. -/
  | environment
  /-- The enclosing method or constructor. -/
  | method
  /-- The header of the enclosing type declaration. -/
  | typeHeader
  /-- All fields of the enclosing type. -/
  | fields
  /-- The fields of the enclosing type that are not static. -/
  | instanceFields
  /-- The method inside a method, the type header elsewhere. -/
  | methodOrType
  /-- The package declaration and the names of the top-level types. -/
  | namePackage
deriving DecidableEq, Repr, Inhabited

/-- A text that names no strategy. -/
structure StrategyError where
  /-- The text. -/
  name : Text
deriving DecidableEq, Repr

/-- The wording of the error. -/
def StrategyError.message (e : StrategyError) : String :=
  e.name.quoted ++ " is not a valid ContextStrategy"

namespace Strategy

/-- The name under which a strategy is chosen. -/
def name : Strategy → String
  | line => "line"
  | environment => "environment"
  | method => "method"
  | typeHeader => "class"
  | fields => "fields"
  | instanceFields => "instance_fields"
  | methodOrType => "method_or_class"
  | namePackage => "name_package"

/-- All strategies. -/
def all : List Strategy :=
  [line, environment, method, typeHeader, fields, instanceFields, methodOrType, namePackage]

/-- The strategy with the given name. -/
def ofName (name : Text) : Except StrategyError Strategy :=
  match all.find? fun s ↦ s.name = name with
  | some s => .ok s
  | none => .error ⟨name⟩

theorem ofName_name (s : Strategy) : ofName s.name = .ok s := by cases s <;> rfl

/-! ## Rules and categories -/

/-- The strategies of the rules that are known by name. -/
def ofRule : List (Text × Strategy) :=
  [("UnusedPrivateMethod", method), ("UnusedFormalParameter", method),
    ("CyclomaticComplexity", method), ("NPathComplexity", method),
    ("ExcessiveMethodLength", method), ("MethodLength", method), ("ReturnCount", method),
    ("DesignForExtension", method), ("FinalParameters", method), ("JavadocMethod", method),
    ("ClassNamingConventions", typeHeader), ("TypeName", typeHeader), ("FinalClass", typeHeader),
    ("HideUtilityClassConstructor", typeHeader), ("JavadocType", typeHeader),
    ("SE_NO_SERIALVERSIONID", typeHeader), ("AbstractClassWithoutAbstractMethod", typeHeader),
    ("UnusedPrivateField", fields), ("SingularField", fields), ("ImmutableField", fields),
    ("VisibilityModifier", instanceFields), ("BeanMembersShouldSerialize", instanceFields),
    ("PackageName", namePackage), ("PackageDeclaration", namePackage),
    ("OuterTypeFilename", namePackage),
    ("MagicNumber", line), ("LineLength", line), ("AvoidStarImport", line),
    ("UnusedImports", line),
    ("JavadocStyle", methodOrType), ("MissingSwitchDefault", methodOrType)]

/-- The strategies of the categories, by lower-case name. -/
def ofCategory : List (Text × Strategy) :=
  [("naming", namePackage), ("imports", line), ("sizes", method), ("metrics", method),
    ("design", methodOrType), ("javadoc", methodOrType)]

/-- The part of a dotted name behind the last dot. -/
def lastPart (dotted : List Symbol) : List Symbol :=
  (dotted.reverse.takeWhile (· ≠ .char '.')).reverse

/-- The rule that a qualified check name stands for: its last part, without a final `Check`. -/
def shortRule (warningType : Text) : Text :=
  let short := lastPart warningType.symbols
  let suffix := (Text.ofString "Check").symbols
  ⟨if suffix <:+ short then short.take (short.length - suffix.length) else short⟩

/-- The strategy for a warning: that of its rule, else that of the rule its qualified name stands
for, else that of its category, else the enclosing statement. -/
def forWarning (warningType category : Text) : Strategy :=
  (ofRule.lookup warningType).getD <|
    (ofRule.lookup (shortRule warningType)).getD <|
      (ofCategory.lookup category.toLower).getD environment

end Strategy

end LintMark

import LintMark.Java.Grammar.Expressions

/-!
# Declarations

Types, their members, and the declarations of packages, imports and modules. Words such as `record`
and `module` are reserved nowhere; they are known by their place.

This is part of the stand-in grammar, on which no theorem depends.
-/

namespace LintMark.Java.Phrase

open Pattern

/-! ## Modifiers -/

/-- The words that modify a declaration. -/
def modifierWords : Phrase :=
  oneOf
    ["public", "protected", "private", "abstract", "static", "final", "strictfp", "default",
      "synchronized", "native", "transient", "volatile", "non-sealed"]

/-- The word `sealed`, where a declaration follows. -/
def sealedWord : Phrase :=
  all
    [ahead (all ["identifier", oneOf [modifierWords, "class", "interface", "@", "@interface"]]),
      word "sealed"]

/-- The modifiers of a declaration, if it has any. -/
def modifiers : Phrase :=
  optional (row "modifiers" (several (oneOf [call .annotationUse, modifierWords, sealedWord])))

/-! ## Variables and parameters -/

/-- The name of a variable, with dimensions perhaps. -/
def variableName : Phrase :=
  all [field "name" "identifier", optional (field "dimensions" dimensions)]

/-- A variable, with a first value perhaps. -/
def declarator : Phrase :=
  row "variable_declarator" <| all
    [variableName,
      optional
        (all ["=", field "value" (oneOf [call .arrayInitializer, call (.expression true)])])]

/-- The declaration of variables: modifiers, a type, and the variables. -/
def variableDeclaration (rowType : String) : Phrase :=
  row rowType <| all
    [modifiers, field "type" plainType, separated "," (field "declarator" declarator), ";"]

/-- The parameters of a method. -/
def parameters : Phrase :=
  row "formal_parameters" <| all
    ["(",
      list <| oneOf
        [row "receiver_parameter"
            (all [annotations, plainType, repeated (all ["identifier", "."]), "this"]),
          row "spread_parameter"
            (all [modifiers, plainType, "...", annotations,
              row "variable_declarator" variableName]),
          row "formal_parameter" (all [modifiers, field "type" plainType, variableName])],
      ")"]

/-! ## Methods and constructors -/

/-- The exceptions that a method may throw. -/
def throwsClause : Phrase := row "throws" (all ["throws", separated "," (call .type)])

/-- A method. -/
def method : Phrase :=
  row "method_declaration" <| all
    [modifiers, optional (all [field "type_parameters" typeParameters, annotations]),
      field "type" plainType, field "name" "identifier", field "parameters" (call .parameters),
      optional (field "dimensions" dimensions), optional throwsClause,
      oneOf [field "body" (call .block), ";"]]

/-- A call of another constructor at the start of a constructor. -/
def constructorCall : Phrase :=
  let typeArguments := optional (field "type_arguments" (call .typeArguments))
  let arguments := field "arguments" (call .arguments)
  row "explicit_constructor_invocation" <| all
    [oneOf
      [all [typeArguments, field "constructor" (oneOf ["this", "super"]), arguments],
        all [field "object" (call .primary), ".", typeArguments, field "constructor" "super",
          arguments]],
      ";"]

/-- A constructor. -/
def constructor : Phrase :=
  row "constructor_declaration" <| all
    [modifiers, optional (field "type_parameters" typeParameters), field "name" "identifier",
      field "parameters" (call .parameters), optional throwsClause,
      field "body" <| row "constructor_body" <| all
        ["\x7b", optional constructorCall, repeated (call .statement), "\x7d"]]

/-- A constructor of a record without parameters of its own. -/
def compactConstructor : Phrase :=
  row "compact_constructor_declaration"
    (all [modifiers, field "name" "identifier", field "body" (call .block)])

/-! ## Types -/

/-- A member of a class. -/
def classMember : Phrase :=
  oneOf
    [";", row "static_initializer" (all ["static", call .block]), call .block,
      call .typeDeclaration, constructor, compactConstructor, method,
      variableDeclaration "field_declaration"]

/-- The body of a class. -/
def classBody : Phrase := row "class_body" (all ["\x7b", repeated classMember, "\x7d"])

/-- The interfaces of a class. -/
def superInterfaces : Phrase :=
  optional (field "interfaces" (row "super_interfaces" (all ["implements", typeList])))

/-- The types that may extend a sealed type. -/
def permits : Phrase :=
  optional (field "permits" (row "permits" (all [word "permits", typeList])))

/-- A class. -/
def classDeclaration : Phrase :=
  row "class_declaration" <| all
    [modifiers, "class", field "name" "identifier",
      optional (field "type_parameters" typeParameters),
      optional (field "superclass" (row "superclass" (all ["extends", call .type]))),
      superInterfaces, permits, field "body" (call .classBody)]

/-- An interface. -/
def interfaceDeclaration : Phrase :=
  row "interface_declaration" <| all
    [modifiers, "interface", field "name" "identifier",
      optional (field "type_parameters" typeParameters),
      optional (row "extends_interfaces" (all ["extends", typeList])), permits,
      field "body" <| row "interface_body" <| all
        ["\x7b",
          repeated <| oneOf
            [";", call .typeDeclaration, method, variableDeclaration "constant_declaration"],
          "\x7d"]]

/-- A constant of an enumeration. -/
def enumConstant : Phrase :=
  row "enum_constant" <| all
    [modifiers, field "name" "identifier", optional (field "arguments" (call .arguments)),
      optional (field "body" (call .classBody))]

/-- An enumeration. -/
def enumDeclaration : Phrase :=
  row "enum_declaration" <| all
    [modifiers, "enum", field "name" "identifier", superInterfaces,
      field "body" <| row "enum_body" <| all
        ["\x7b", list enumConstant, optional ",",
          optional (row "enum_body_declarations" (all [";", repeated classMember])), "\x7d"]]

/-- A record. -/
def recordDeclaration : Phrase :=
  row "record_declaration" <| all
    [modifiers, word "record", field "name" "identifier",
      optional (field "type_parameters" typeParameters), field "parameters" (call .parameters),
      superInterfaces, field "body" (call .classBody)]

/-- An element of an annotation type. -/
def annotationElement : Phrase :=
  row "annotation_type_element_declaration" <| all
    [modifiers, field "type" plainType, field "name" "identifier", "(", ")",
      optional (field "dimensions" dimensions),
      optional (all ["default", field "value" (call .elementValue)]), ";"]

/-- An annotation type. -/
def annotationDeclaration : Phrase :=
  row "annotation_type_declaration" <| all
    [modifiers, "@interface", field "name" "identifier",
      field "body" <| row "annotation_type_body" <| all
        ["\x7b",
          repeated <| oneOf
            [";", call .typeDeclaration, annotationElement,
              variableDeclaration "constant_declaration"],
          "\x7d"]]

/-- The declaration of a type. -/
def typeDeclaration : Phrase :=
  oneOf
    [classDeclaration, interfaceDeclaration, enumDeclaration, recordDeclaration,
      annotationDeclaration]

/-! ## Packages, imports and modules -/

/-- The package of a source. -/
def packageDeclaration : Phrase :=
  row "package_declaration" (all [annotations, "package", name, ";"])

/-- An import. -/
def importDeclaration : Phrase :=
  row "import_declaration"
    (all ["import", optional "static", name, optional (all [".", row "asterisk" "*"]), ";"])

/-- The word `transitive`, where a name follows. -/
def transitiveWord : Phrase :=
  all [ahead (all ["identifier", oneOf ["identifier", "static"]]), word "transitive"]

/-- What a module requires, exports, opens, uses or provides. -/
def directive : Phrase :=
  let targets := optional (all [word "to", separated "," (field "modules" name)])
  oneOf
    [row "requires_module_directive" <| all
        [word "requires",
          repeated (field "modifiers" (row "requires_modifier" (oneOf [transitiveWord, "static"]))),
          field "module" name, ";"],
      row "exports_module_directive"
        (all [word "exports", field "package" name, targets, ";"]),
      row "opens_module_directive" (all [word "opens", field "package" name, targets, ";"]),
      row "uses_module_directive" (all [word "uses", field "type" name, ";"]),
      row "provides_module_directive" <| all
        [word "provides", field "provided" name, word "with", name,
          repeated (all [",", field "provider" name]), ";"]]

/-- A module. -/
def moduleDeclaration : Phrase :=
  row "module_declaration" <| all
    [annotations, optional (word "open"), word "module", field "name" name,
      field "body" (row "module_body" (all ["\x7b", repeated directive, "\x7d"]))]

end LintMark.Java.Phrase

import LintMark.Java.Grammar.Rule

/-!
# Names, annotations and types

A type is read from the left: a name, which dots and type arguments extend, and then its dimensions.
Annotations may stand in front of a type, of a part of its name, and of a dimension.

This is part of the stand-in grammar, on which no theorem depends.
-/

namespace LintMark.Java.Phrase

open Pattern

/-! ## Names -/

/-- A name, which may be qualified. -/
def name : Phrase :=
  all
    ["identifier",
      repeated (extend "scoped_identifier" "scope" (all [".", field "name" "identifier"]))]

/-- A name with a type in mind. -/
def typeName : Phrase := lexeme "identifier" "type_identifier"

/-! ## Annotations -/

/-- One element of an annotation by its name. -/
def elementPair : Phrase :=
  row "element_value_pair"
    (all [field "key" "identifier", "=", field "value" (call .elementValue)])

/-- The elements of an annotation. -/
def annotationArguments : Phrase :=
  row "annotation_argument_list"
    (all ["(", oneOf [separated "," elementPair, optional (call .elementValue)], ")"])

/-- An annotation, with elements or without. -/
def annotationUse : Phrase :=
  oneOf
    [row "annotation" (all ["@", field "name" name, field "arguments" annotationArguments]),
      row "marker_annotation" (all ["@", field "name" name])]

/-- The value of an element. -/
def elementValue : Phrase :=
  oneOf
    [call .annotationUse,
      row "element_value_array_initializer"
        (all ["\x7b", list (call .elementValue), optional ",", "\x7d"]),
      call (.expression true)]

/-- Annotations, if there are any. -/
def annotations : Phrase := repeated (call .annotationUse)

/-! ## Types -/

/-- A type of the language itself. -/
def primitiveType : Phrase :=
  oneOf
    [row "integral_type" (oneOf ["byte", "short", "int", "long", "char"]),
      row "floating_point_type" (oneOf ["float", "double"]),
      lexeme "boolean" "boolean_type", lexeme "void" "void_type"]

/-- The name of a class, with type arguments or without. -/
def classType : Phrase :=
  all
    [typeName,
      repeated <| oneOf
        [extend "generic_type" none (call .typeArguments),
          extend "scoped_type_identifier" none (all [".", annotations, typeName])]]

/-- A type without dimensions. -/
def elementType : Phrase := oneOf [primitiveType, classType]

/-- Dimensions without a length. -/
def dimensions : Phrase := row "dimensions" (several (all [annotations, "[", "]"]))

/-- A type without an annotation in front. -/
def plainType : Phrase :=
  all [elementType, optional (extend "array_type" "element" (field "dimensions" dimensions))]

/-- A type. -/
def type : Phrase :=
  oneOf [row "annotated_type" (all [several (call .annotationUse), plainType]), plainType]

/-- A wildcard among type arguments. -/
def wildcard : Phrase :=
  row "wildcard"
    (all [annotations, "?",
      optional (oneOf [all ["extends", call .type], all ["super", call .type]])])

/-- The arguments of a generic type. -/
def typeArguments : Phrase :=
  row "type_arguments" (all ["<", list (oneOf [wildcard, call .type]), ">"])

/-- Several types with commas in between. -/
def typeList : Phrase := row "type_list" (separated "," (call .type))

/-! ## Type parameters -/

/-- What a type parameter extends. -/
def typeBound : Phrase :=
  row "type_bound" (all ["extends", separated "&" (call .type)])

/-- The parameters of a generic declaration. -/
def typeParameters : Phrase :=
  row "type_parameters"
    (all ["<",
      separated "," (row "type_parameter" (all [annotations, typeName, optional typeBound])), ">"])

end LintMark.Java.Phrase

/-!
# Node kinds

The vocabulary in which the shape of a Java program is written down. A kind is a name, and the
family of names is open: the reader of a source file derives kinds for keywords and for
constructs without an entry here, so a kind is a wrapped name and not an enumeration. The
constants below are the kinds that some rule of this library asks about.
-/

namespace LintMark

/-- The kind of a syntax node, known by its name. -/
structure Kind where
  /-- The upper-case name under which the kind enters a canonical string. -/
  name : String
deriving DecidableEq, Inhabited, Repr

namespace Kind

/-! ## Declarations -/

def compilationUnit : Kind := ⟨"COMPILATION_UNIT"⟩
def packageDef : Kind := ⟨"PACKAGE_DEF"⟩
def importDef : Kind := ⟨"IMPORT"⟩
def staticImport : Kind := ⟨"STATIC_IMPORT"⟩
def classDef : Kind := ⟨"CLASS_DEF"⟩
def interfaceDef : Kind := ⟨"INTERFACE_DEF"⟩
def enumDef : Kind := ⟨"ENUM_DEF"⟩
def recordDef : Kind := ⟨"RECORD_DEF"⟩
def annotationDef : Kind := ⟨"ANNOTATION_DEF"⟩
def enumConstantDef : Kind := ⟨"ENUM_CONSTANT_DEF"⟩
def objBlock : Kind := ⟨"OBJBLOCK"⟩
def methodDef : Kind := ⟨"METHOD_DEF"⟩
def ctorDef : Kind := ⟨"CTOR_DEF"⟩
def staticInit : Kind := ⟨"STATIC_INIT"⟩
def variableDef : Kind := ⟨"VARIABLE_DEF"⟩
def parameters : Kind := ⟨"PARAMETERS"⟩
def parameterDef : Kind := ⟨"PARAMETER_DEF"⟩
def modifiers : Kind := ⟨"MODIFIERS"⟩
def annot : Kind := ⟨"ANNOTATION"⟩
def extendsClause : Kind := ⟨"EXTENDS_CLAUSE"⟩
def implementsClause : Kind := ⟨"IMPLEMENTS_CLAUSE"⟩
def throwsClause : Kind := ⟨"LITERAL_THROWS"⟩

/-! ## Types -/

def type : Kind := ⟨"TYPE"⟩
def typeArguments : Kind := ⟨"TYPE_ARGUMENTS"⟩
def typeArgument : Kind := ⟨"TYPE_ARGUMENT"⟩
def typeParameters : Kind := ⟨"TYPE_PARAMETERS"⟩
def wildcardType : Kind := ⟨"WILDCARD_TYPE"⟩
def arrayDeclarator : Kind := ⟨"ARRAY_DECLARATOR"⟩

/-! ## Statements -/

def slist : Kind := ⟨"SLIST"⟩
def forEachClause : Kind := ⟨"FOR_EACH_CLAUSE"⟩
def caseGroup : Kind := ⟨"CASE_GROUP"⟩
def literalFor : Kind := ⟨"LITERAL_FOR"⟩
def literalCase : Kind := ⟨"LITERAL_CASE"⟩
def literalDefault : Kind := ⟨"LITERAL_DEFAULT"⟩
def literalCatch : Kind := ⟨"LITERAL_CATCH"⟩
def literalFinally : Kind := ⟨"LITERAL_FINALLY"⟩
def literalElse : Kind := ⟨"LITERAL_ELSE"⟩
def labeledStat : Kind := ⟨"LABELED_STAT"⟩
def ctorCall : Kind := ⟨"CTOR_CALL"⟩
def superCtorCall : Kind := ⟨"SUPER_CTOR_CALL"⟩

/-! ## Expressions -/

def expr : Kind := ⟨"EXPR"⟩
def elist : Kind := ⟨"ELIST"⟩
def methodCall : Kind := ⟨"METHOD_CALL"⟩
def indexOp : Kind := ⟨"INDEX_OP"⟩
def typecast : Kind := ⟨"TYPECAST"⟩
def arrayInit : Kind := ⟨"ARRAY_INIT"⟩
def lambda : Kind := ⟨"LAMBDA"⟩
def methodRef : Kind := ⟨"METHOD_REF"⟩
def literalNew : Kind := ⟨"LITERAL_NEW"⟩
def literalInstanceof : Kind := ⟨"LITERAL_INSTANCEOF"⟩
def literalStatic : Kind := ⟨"LITERAL_STATIC"⟩
def binary : Kind := ⟨"BINARY"⟩
def unary : Kind := ⟨"UNARY"⟩
def inc : Kind := ⟨"INC"⟩
def postInc : Kind := ⟨"POST_INC"⟩
def dec : Kind := ⟨"DEC"⟩
def postDec : Kind := ⟨"POST_DEC"⟩

/-! ## Leaves -/

def ident : Kind := ⟨"IDENT"⟩
def numInt : Kind := ⟨"NUM_INT"⟩
def numLong : Kind := ⟨"NUM_LONG"⟩
def numFloat : Kind := ⟨"NUM_FLOAT"⟩
def numDouble : Kind := ⟨"NUM_DOUBLE"⟩
def stringLiteral : Kind := ⟨"STRING_LITERAL"⟩
def charLiteral : Kind := ⟨"CHAR_LITERAL"⟩
def textBlock : Kind := ⟨"TEXT_BLOCK_LITERAL_BEGIN"⟩
def literalTrue : Kind := ⟨"LITERAL_TRUE"⟩
def literalFalse : Kind := ⟨"LITERAL_FALSE"⟩
def literalNull : Kind := ⟨"LITERAL_NULL"⟩
def literalThis : Kind := ⟨"LITERAL_THIS"⟩
def literalSuper : Kind := ⟨"LITERAL_SUPER"⟩

/-! ## Punctuation -/

def semi : Kind := ⟨"SEMI"⟩
def comma : Kind := ⟨"COMMA"⟩
def dot : Kind := ⟨"DOT"⟩
def lparen : Kind := ⟨"LPAREN"⟩
def rparen : Kind := ⟨"RPAREN"⟩
def lcurly : Kind := ⟨"LCURLY"⟩
def rcurly : Kind := ⟨"RCURLY"⟩
def lbrack : Kind := ⟨"LBRACK"⟩
def rbrack : Kind := ⟨"RBRACK"⟩
def genericStart : Kind := ⟨"GENERIC_START"⟩
def genericEnd : Kind := ⟨"GENERIC_END"⟩
def assign : Kind := ⟨"ASSIGN"⟩
def colon : Kind := ⟨"COLON"⟩
def question : Kind := ⟨"QUESTION"⟩
def atSign : Kind := ⟨"AT"⟩
def ellipsis : Kind := ⟨"ELLIPSIS"⟩
def star : Kind := ⟨"STAR"⟩
def bor : Kind := ⟨"BOR"⟩
/-- A token that is neither punctuation, operator nor word. -/
def token : Kind := ⟨"TOKEN"⟩

/-- The kind of the keyword `word`, which is given in upper case. -/
def keyword (word : String) : Kind := ⟨"LITERAL_" ++ word⟩

/-! ## Families -/

/-- The kinds of a type declaration: class, interface, enum, record and annotation type. -/
def typeDeclarations : List Kind := [classDef, interfaceDef, enumDef, recordDef, annotationDef]

/-- The kinds of a declaration with a statement body. -/
def methodDeclarations : List Kind := [methodDef, ctorDef]

/-- The kinds of a literal. -/
def literals : List Kind :=
  [numInt, numLong, numFloat, numDouble, stringLiteral, charLiteral, textBlock, literalTrue,
    literalFalse, literalNull]

end Kind

end LintMark

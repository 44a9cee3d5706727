import TreeBridge.Text.Decimal
/-!
# Problem ids

Every problem has a number, and every known number a name. The high bits
of a number say what the problem is related to; the numbers themselves
are shared with other tools and never change. A number with the sign bit
is that of a problem in a doc comment.
-/

namespace TreeBridge

namespace Problem

/-! ## Categories -/

namespace Category

/-- Set for problems with types. -/
def typeRelated : Int := 0x01000000

/-- Set for problems with fields and variables. -/
def fieldRelated : Int := 0x02000000

/-- Set for problems with methods. -/
def methodRelated : Int := 0x04000000

/-- Set for problems with constructors. -/
def constructorRelated : Int := 0x08000000

/-- Set for problems with imports. -/
def importRelated : Int := 0x10000000

/-- Set for problems with anything inside a declaration. -/
def internal : Int := 0x20000000

/-- Set for problems with the form of the source text. -/
def syntaxRelated : Int := 0x40000000

/-- Set for problems in doc comments: the sign bit. -/
def javadocRelated : Int := -0x80000000

/-- Whether a number has any bit of a category. -/
def covers (category code : Int) : Bool :=
  BitVec.ofInt 32 code &&& BitVec.ofInt 32 category != 0#32

end Category

/-- Whether a number is that of a problem in a doc comment. -/
def isJavadoc (code : Int) : Bool :=
  Category.covers Category.javadocRelated code

/-! ## The known problems -/

/-- The known problems. The first stands for no problem at all. -/
inductive Id
  | ignored
  | undefinedType
  | notVisibleType
  | ambiguousType
  | typeMismatch
  | unhandledException
  | unhandledExceptionInDefaultConstructor
  | unhandledExceptionOnAutoClose
  | invalidClassInstantiation
  | classExtendFinalClass
  | anonymousClassCannotExtendFinalClass
  | publicClassMustMatchFileName
  | abstractMethodMustBeImplemented
  | rawTypeReference
  | missingSerialVersion
  | typeMissingDeprecationMark
  | shouldImplementHashcode
  | invalidUnionTypeReferenceSequence
  | illegalModifierForClass
  | illegalModifierForInterface
  | illegalModifierForMemberClass
  | illegalModifierForMemberInterface
  | illegalModifierForLocalClass
  | illegalModifierForEnum
  | illegalModifierForMemberEnum
  | illegalModifierForLocalEnumDeclaration
  | illegalVisibilityModifierCombinationForMemberType
  | illegalVisibilityModifierForInterfaceMemberType
  | illegalModifierCombinationFinalAbstractForClass
  | recordIllegalModifierForRecord
  | recordIllegalModifierForInnerRecord
  | recordIllegalModifierForLocalRecord
  | sealedMissingClassModifier
  | sealedSealedTypeMissingPermits
  | sealedSuperClassDoesNotPermit
  | sealedSuperInterfaceDoesNotPermit
  | undefinedField
  | notVisibleField
  | finalFieldAssignment
  | unresolvedVariable
  | undefinedName
  | instanceFieldDuringConstructorInvocation
  | fieldMissingDeprecationMark
  | illegalModifierForField
  | illegalModifierForInterfaceField
  | illegalVisibilityModifierCombinationForField
  | illegalModifierCombinationFinalVolatileForField
  | undefinedMethod
  | notVisibleMethod
  | ambiguousMethod
  | parameterMismatch
  | noMessageSendOnArrayType
  | nonStaticAccessToStaticMethod
  | missingReturnType
  | bodyForAbstractMethod
  | duplicateMethod
  | methodRequiresBody
  | methodReturnsVoid
  | voidMethodReturnsValue
  | shouldReturnValue
  | incompatibleExceptionInThrowsClause
  | incompatibleReturnType
  | finalMethodCannotBeOverridden
  | cannotOverrideAStaticMethodWithAnInstanceMethod
  | unsafeRawMethodInvocation
  | methodMissingDeprecationMark
  | illegalModifierForMethod
  | illegalModifierForInterfaceMethod
  | illegalModifierForInterfaceMethod18
  | illegalModifierForInterfaceMethod9
  | illegalModifierForAnnotationMethod
  | illegalVisibilityModifierCombinationForMethod
  | illegalModifierCombinationForInterfaceMethod
  | illegalStrictfpForAbstractInterfaceMethod
  | undefinedAnnotationMember
  | missingValueForAnnotationMember
  | annotationValueMustBeConstant
  | undefinedConstructor
  | notVisibleConstructor
  | undefinedConstructorInDefaultConstructor
  | notVisibleConstructorInDefaultConstructor
  | illegalModifierForConstructor
  | illegalModifierForEnumConstructor
  | conflictingImport
  | packageDoesNotExistOrIsEmpty
  | uninitializedLocalVariable
  | codeCannotBeReached
  | unreachableCatch
  | invalidCatchBlockSequence
  | invalidExpressionAsStatement
  | varargsConflict
  | duplicateModifierForArgument
  | illegalModifierForArgument
  | illegalModifiers
  | emptyControlFlowStatement
  | unnecessaryCast
  | strictfpNotRequired
  | nonSerializableInstanceField
  | syntaxError
  | parsingErrorInsertTokenBefore
  | parsingErrorInsertTokenAfter
  | parsingErrorInsertToComplete
  | parsingErrorUnexpectedEof
  | invalidCharacterConstant
  | invalidFloat
  | unterminatedString
  | unterminatedComment
  | javadocUnexpectedTag
  | javadocMissingParamTag
  | javadocMissingIdentifier
  | javadocDuplicateParamName
  | javadocInvalidParamName
  | javadocMissingReturnTag
  | javadocMissingThrowsTag
  | javadocInvalidThrowsClassName
  | javadocUnterminatedInlineTag
  | javadocUnexpectedText
  deriving DecidableEq, Repr

namespace Id

/-- The number of a problem. -/
def code : Id → Int
  | ignored => 0
  | undefinedType => Category.typeRelated + 2
  | notVisibleType => Category.typeRelated + 3
  | ambiguousType => Category.typeRelated + 4
  | typeMismatch => Category.typeRelated + 17
  | unhandledException => Category.typeRelated + 156
  | unhandledExceptionInDefaultConstructor => Category.typeRelated + 157
  | unhandledExceptionOnAutoClose => Category.typeRelated + 885
  | invalidClassInstantiation => Category.typeRelated + 160
  | classExtendFinalClass => Category.typeRelated + 311
  | anonymousClassCannotExtendFinalClass => Category.typeRelated + 307
  | publicClassMustMatchFileName => Category.typeRelated + 325
  | abstractMethodMustBeImplemented => Category.typeRelated + 400
  | rawTypeReference => Category.typeRelated + 658
  | missingSerialVersion => Category.typeRelated + 660
  | typeMissingDeprecationMark => Category.internal + Category.typeRelated + 629
  | shouldImplementHashcode => Category.typeRelated + 659
  | invalidUnionTypeReferenceSequence => Category.internal + Category.typeRelated + 863
  | illegalModifierForClass => Category.typeRelated + 301
  | illegalModifierForInterface => Category.typeRelated + 302
  | illegalModifierForMemberClass => Category.typeRelated + 303
  | illegalModifierForMemberInterface => Category.typeRelated + 304
  | illegalModifierForLocalClass => Category.typeRelated + 305
  | illegalModifierForEnum => Category.typeRelated + 750
  | illegalModifierForMemberEnum => Category.typeRelated + 752
  | illegalModifierForLocalEnumDeclaration => Category.typeRelated + 1833
  | illegalVisibilityModifierCombinationForMemberType => Category.typeRelated + 308
  | illegalVisibilityModifierForInterfaceMemberType => Category.typeRelated + 309
  | illegalModifierCombinationFinalAbstractForClass => Category.typeRelated + 310
  | recordIllegalModifierForRecord => Category.typeRelated + 1720
  | recordIllegalModifierForInnerRecord => Category.typeRelated + 1721
  | recordIllegalModifierForLocalRecord => Category.typeRelated + 1722
  | sealedMissingClassModifier => Category.typeRelated + 1850
  | sealedSealedTypeMissingPermits => Category.typeRelated + 1854
  | sealedSuperClassDoesNotPermit => Category.typeRelated + 1856
  | sealedSuperInterfaceDoesNotPermit => Category.typeRelated + 1857
  | undefinedField => Category.fieldRelated + 70
  | notVisibleField => Category.fieldRelated + 71
  | finalFieldAssignment => Category.fieldRelated + 80
  | unresolvedVariable => Category.fieldRelated + 83
  | undefinedName => Category.internal + Category.fieldRelated + 50
  | instanceFieldDuringConstructorInvocation => Category.fieldRelated + 119
  | fieldMissingDeprecationMark => Category.internal + Category.fieldRelated + 627
  | illegalModifierForField => Category.fieldRelated + 340
  | illegalModifierForInterfaceField => Category.fieldRelated + 341
  | illegalVisibilityModifierCombinationForField => Category.fieldRelated + 342
  | illegalModifierCombinationFinalVolatileForField => Category.fieldRelated + 343
  | undefinedMethod => Category.methodRelated + 100
  | notVisibleMethod => Category.methodRelated + 101
  | ambiguousMethod => Category.methodRelated + 102
  | parameterMismatch => Category.methodRelated + 115
  | noMessageSendOnArrayType => Category.methodRelated + 117
  | nonStaticAccessToStaticMethod => Category.internal + Category.methodRelated + 118
  | missingReturnType => Category.typeRelated + 346
  | bodyForAbstractMethod => Category.methodRelated + 354
  | duplicateMethod => Category.methodRelated + 355
  | methodRequiresBody => Category.internal + Category.methodRelated + 390
  | methodReturnsVoid => Category.methodRelated + 357
  | voidMethodReturnsValue => Category.methodRelated + 358
  | shouldReturnValue => Category.internal + Category.methodRelated + 330
  | incompatibleExceptionInThrowsClause => Category.methodRelated + 408
  | incompatibleReturnType => Category.methodRelated + 411
  | finalMethodCannotBeOverridden => Category.methodRelated + 405
  | cannotOverrideAStaticMethodWithAnInstanceMethod => Category.methodRelated + 406
  | unsafeRawMethodInvocation => Category.methodRelated + 520
  | methodMissingDeprecationMark => Category.internal + Category.methodRelated + 628
  | illegalModifierForMethod => Category.methodRelated + 359
  | illegalModifierForInterfaceMethod => Category.methodRelated + 360
  | illegalModifierForInterfaceMethod18 => Category.methodRelated + 1050
  | illegalModifierForInterfaceMethod9 => Category.methodRelated + 1059
  | illegalModifierForAnnotationMethod => Category.methodRelated + 600
  | illegalVisibilityModifierCombinationForMethod => Category.methodRelated + 361
  | illegalModifierCombinationForInterfaceMethod => Category.methodRelated + 1051
  | illegalStrictfpForAbstractInterfaceMethod => Category.methodRelated + 362
  | undefinedAnnotationMember => Category.internal + Category.methodRelated + 614
  | missingValueForAnnotationMember => Category.internal + Category.methodRelated + 615
  | annotationValueMustBeConstant => Category.internal + 640
  | undefinedConstructor => Category.constructorRelated + 130
  | notVisibleConstructor => Category.constructorRelated + 131
  | undefinedConstructorInDefaultConstructor => Category.constructorRelated + 140
  | notVisibleConstructorInDefaultConstructor => Category.constructorRelated + 141
  | illegalModifierForConstructor => Category.constructorRelated + 143
  | illegalModifierForEnumConstructor => Category.constructorRelated + 144
  | conflictingImport => Category.importRelated + 385
  | packageDoesNotExistOrIsEmpty => Category.importRelated + 1450
  | uninitializedLocalVariable => Category.internal + 55
  | codeCannotBeReached => Category.internal + 161
  | unreachableCatch => Category.typeRelated + Category.methodRelated + 165
  | invalidCatchBlockSequence => Category.internal + Category.typeRelated + 166
  | invalidExpressionAsStatement => Category.internal + 167
  | varargsConflict => Category.internal + 179
  | duplicateModifierForArgument => Category.internal + 180
  | illegalModifierForArgument => Category.internal + 181
  | illegalModifiers => Category.internal + 182
  | emptyControlFlowStatement => Category.internal + 187
  | unnecessaryCast => Category.internal + Category.typeRelated + 101
  | strictfpNotRequired => Category.internal + 186
  | nonSerializableInstanceField => 99999999
  | syntaxError => Category.syntaxRelated
  | parsingErrorInsertTokenBefore => Category.syntaxRelated + Category.internal + 231
  | parsingErrorInsertTokenAfter => Category.syntaxRelated + Category.internal + 232
  | parsingErrorInsertToComplete => Category.syntaxRelated + Category.internal + 240
  | parsingErrorUnexpectedEof => Category.syntaxRelated + Category.internal + 210
  | invalidCharacterConstant => Category.syntaxRelated + Category.internal + 252
  | invalidFloat => Category.syntaxRelated + Category.internal + 254
  | unterminatedString => Category.syntaxRelated + Category.internal + 258
  | unterminatedComment => Category.syntaxRelated + Category.internal + 259
  | javadocUnexpectedTag => Category.javadocRelated + Category.internal + 470
  | javadocMissingParamTag => Category.javadocRelated + Category.internal + 471
  | javadocMissingIdentifier => Category.javadocRelated + Category.internal + 472
  | javadocDuplicateParamName => Category.javadocRelated + Category.internal + 473
  | javadocInvalidParamName => Category.javadocRelated + Category.internal + 474
  | javadocMissingReturnTag => Category.javadocRelated + Category.internal + 475
  | javadocMissingThrowsTag => Category.javadocRelated + Category.internal + 477
  | javadocInvalidThrowsClassName => Category.javadocRelated + Category.internal + 481
  | javadocUnterminatedInlineTag => Category.javadocRelated + Category.internal + 492
  | javadocUnexpectedText => Category.javadocRelated + Category.internal + 518

/-- The name of a problem. -/
def title : Id → String
  | ignored => "IGNORED"
  | undefinedType => "UNDEFINED_TYPE"
  | notVisibleType => "NOT_VISIBLE_TYPE"
  | ambiguousType => "AMBIGUOUS_TYPE"
  | typeMismatch => "TYPE_MISMATCH"
  | unhandledException => "UNHANDLED_EXCEPTION"
  | unhandledExceptionInDefaultConstructor => "UNHANDLED_EXCEPTION_IN_DEFAULT_CONSTRUCTOR"
  | unhandledExceptionOnAutoClose => "UNHANDLED_EXCEPTION_ON_AUTO_CLOSE"
  | invalidClassInstantiation => "INVALID_CLASS_INSTANTIATION"
  | classExtendFinalClass => "CLASS_EXTEND_FINAL_CLASS"
  | anonymousClassCannotExtendFinalClass => "ANONYMOUS_CLASS_CANNOT_EXTEND_FINAL_CLASS"
  | publicClassMustMatchFileName => "PUBLIC_CLASS_MUST_MATCH_FILE_NAME"
  | abstractMethodMustBeImplemented => "ABSTRACT_METHOD_MUST_BE_IMPLEMENTED"
  | rawTypeReference => "RAW_TYPE_REFERENCE"
  | missingSerialVersion => "MISSING_SERIAL_VERSION"
  | typeMissingDeprecationMark => "TYPE_MISSING_DEPRECATED_ANNOTATION"
  | shouldImplementHashcode => "SHOULD_IMPLEMENT_HASHCODE"
  | invalidUnionTypeReferenceSequence => "INVALID_UNION_TYPE_REFERENCE_SEQUENCE"
  | illegalModifierForClass => "ILLEGAL_MODIFIER_FOR_CLASS"
  | illegalModifierForInterface => "ILLEGAL_MODIFIER_FOR_INTERFACE"
  | illegalModifierForMemberClass => "ILLEGAL_MODIFIER_FOR_MEMBER_CLASS"
  | illegalModifierForMemberInterface => "ILLEGAL_MODIFIER_FOR_MEMBER_INTERFACE"
  | illegalModifierForLocalClass => "ILLEGAL_MODIFIER_FOR_LOCAL_CLASS"
  | illegalModifierForEnum => "ILLEGAL_MODIFIER_FOR_ENUM"
  | illegalModifierForMemberEnum => "ILLEGAL_MODIFIER_FOR_MEMBER_ENUM"
  | illegalModifierForLocalEnumDeclaration => "ILLEGAL_MODIFIER_FOR_LOCAL_ENUM_DECLARATION"
  | illegalVisibilityModifierCombinationForMemberType =>
    "ILLEGAL_VISIBILITY_MODIFIER_COMBINATION_FOR_MEMBER_TYPE"
  | illegalVisibilityModifierForInterfaceMemberType =>
    "ILLEGAL_VISIBILITY_MODIFIER_FOR_INTERFACE_MEMBER_TYPE"
  | illegalModifierCombinationFinalAbstractForClass =>
    "ILLEGAL_MODIFIER_COMBINATION_FINAL_ABSTRACT_FOR_CLASS"
  | recordIllegalModifierForRecord => "RECORD_ILLEGAL_MODIFIER_FOR_RECORD"
  | recordIllegalModifierForInnerRecord => "RECORD_ILLEGAL_MODIFIER_FOR_INNER_RECORD"
  | recordIllegalModifierForLocalRecord => "RECORD_ILLEGAL_MODIFIER_FOR_LOCAL_RECORD"
  | sealedMissingClassModifier => "SEALED_MISSING_CLASS_MODIFIER"
  | sealedSealedTypeMissingPermits => "SEALED_SEALED_TYPE_MISSING_PERMITS"
  | sealedSuperClassDoesNotPermit => "SEALED_SUPER_CLASS_DOES_NOT_PERMIT"
  | sealedSuperInterfaceDoesNotPermit => "SEALED_SUPER_INTERFACE_DOES_NOT_PERMIT"
  | undefinedField => "UNDEFINED_FIELD"
  | notVisibleField => "NOT_VISIBLE_FIELD"
  | finalFieldAssignment => "FINAL_FIELD_ASSIGNMENT"
  | unresolvedVariable => "UNRESOLVED_VARIABLE"
  | undefinedName => "UNDEFINED_NAME"
  | instanceFieldDuringConstructorInvocation => "INSTANCE_FIELD_DURING_CONSTRUCTOR_INVOCATION"
  | fieldMissingDeprecationMark => "FIELD_MISSING_DEPRECATED_ANNOTATION"
  | illegalModifierForField => "ILLEGAL_MODIFIER_FOR_FIELD"
  | illegalModifierForInterfaceField => "ILLEGAL_MODIFIER_FOR_INTERFACE_FIELD"
  | illegalVisibilityModifierCombinationForField =>
    "ILLEGAL_VISIBILITY_MODIFIER_COMBINATION_FOR_FIELD"
  | illegalModifierCombinationFinalVolatileForField =>
    "ILLEGAL_MODIFIER_COMBINATION_FINAL_VOLATILE_FOR_FIELD"
  | undefinedMethod => "UNDEFINED_METHOD"
  | notVisibleMethod => "NOT_VISIBLE_METHOD"
  | ambiguousMethod => "AMBIGUOUS_METHOD"
  | parameterMismatch => "PARAMETER_MISMATCH"
  | noMessageSendOnArrayType => "NO_MESSAGE_SEND_ON_ARRAY_TYPE"
  | nonStaticAccessToStaticMethod => "NON_STATIC_ACCESS_TO_STATIC_METHOD"
  | missingReturnType => "MISSING_RETURN_TYPE"
  | bodyForAbstractMethod => "BODY_FOR_ABSTRACT_METHOD"
  | duplicateMethod => "DUPLICATE_METHOD"
  | methodRequiresBody => "METHOD_REQUIRES_BODY"
  | methodReturnsVoid => "METHOD_RETURNS_VOID"
  | voidMethodReturnsValue => "VOID_METHOD_RETURNS_VALUE"
  | shouldReturnValue => "SHOULD_RETURN_VALUE"
  | incompatibleExceptionInThrowsClause => "INCOMPATIBLE_EXCEPTION_IN_THROWS_CLAUSE"
  | incompatibleReturnType => "INCOMPATIBLE_RETURN_TYPE"
  | finalMethodCannotBeOverridden => "FINAL_METHOD_CANNOT_BE_OVERRIDDEN"
  | cannotOverrideAStaticMethodWithAnInstanceMethod =>
    "CANNOT_OVERRIDE_A_STATIC_METHOD_WITH_AN_INSTANCE_METHOD"
  | unsafeRawMethodInvocation => "UNSAFE_RAW_METHOD_INVOCATION"
  | methodMissingDeprecationMark => "METHOD_MISSING_DEPRECATED_ANNOTATION"
  | illegalModifierForMethod => "ILLEGAL_MODIFIER_FOR_METHOD"
  | illegalModifierForInterfaceMethod => "ILLEGAL_MODIFIER_FOR_INTERFACE_METHOD"
  | illegalModifierForInterfaceMethod18 => "ILLEGAL_MODIFIER_FOR_INTERFACE_METHOD_18"
  | illegalModifierForInterfaceMethod9 => "ILLEGAL_MODIFIER_FOR_INTERFACE_METHOD_9"
  | illegalModifierForAnnotationMethod => "ILLEGAL_MODIFIER_FOR_ANNOTATION_METHOD"
  | illegalVisibilityModifierCombinationForMethod =>
    "ILLEGAL_VISIBILITY_MODIFIER_COMBINATION_FOR_METHOD"
  | illegalModifierCombinationForInterfaceMethod =>
    "ILLEGAL_MODIFIER_COMBINATION_FOR_INTERFACE_METHOD"
  | illegalStrictfpForAbstractInterfaceMethod => "ILLEGAL_STRICTFP_FOR_ABSTRACT_INTERFACE_METHOD"
  | undefinedAnnotationMember => "UNDEFINED_ANNOTATION_MEMBER"
  | missingValueForAnnotationMember => "MISSING_VALUE_FOR_ANNOTATION_MEMBER"
  | annotationValueMustBeConstant => "ANNOTATION_VALUE_MUST_BE_CONSTANT"
  | undefinedConstructor => "UNDEFINED_CONSTRUCTOR"
  | notVisibleConstructor => "NOT_VISIBLE_CONSTRUCTOR"
  | undefinedConstructorInDefaultConstructor => "UNDEFINED_CONSTRUCTOR_IN_DEFAULT_CONSTRUCTOR"
  | notVisibleConstructorInDefaultConstructor => "NOT_VISIBLE_CONSTRUCTOR_IN_DEFAULT_CONSTRUCTOR"
  | illegalModifierForConstructor => "ILLEGAL_MODIFIER_FOR_CONSTRUCTOR"
  | illegalModifierForEnumConstructor => "ILLEGAL_MODIFIER_FOR_ENUM_CONSTRUCTOR"
  | conflictingImport => "CONFLICTING_IMPORT"
  | packageDoesNotExistOrIsEmpty => "PACKAGE_DOES_NOT_EXIST_OR_IS_EMPTY"
  | uninitializedLocalVariable => "UNINITIALIZED_LOCAL_VARIABLE"
  | codeCannotBeReached => "CODE_CANNOT_BE_REACHED"
  | unreachableCatch => "UNREACHABLE_CATCH"
  | invalidCatchBlockSequence => "INVALID_CATCH_BLOCK_SEQUENCE"
  | invalidExpressionAsStatement => "INVALID_EXPRESSION_AS_STATEMENT"
  | varargsConflict => "VARARGS_CONFLICT"
  | duplicateModifierForArgument => "DUPLICATE_MODIFIER_FOR_ARGUMENT"
  | illegalModifierForArgument => "ILLEGAL_MODIFIER_FOR_ARGUMENT"
  | illegalModifiers => "ILLEGAL_MODIFIERS"
  | emptyControlFlowStatement => "EMPTY_CONTROL_FLOW_STATEMENT"
  | unnecessaryCast => "UNNECESSARY_CAST"
  | strictfpNotRequired => "STRICTFP_NOT_REQUIRED"
  | nonSerializableInstanceField => "NON_SERIALIZABLE_INSTANCE_FIELD"
  | syntaxError => "SYNTAX"
  | parsingErrorInsertTokenBefore => "PARSING_ERROR_INSERT_TOKEN_BEFORE"
  | parsingErrorInsertTokenAfter => "PARSING_ERROR_INSERT_TOKEN_AFTER"
  | parsingErrorInsertToComplete => "PARSING_ERROR_INSERT_TO_COMPLETE"
  | parsingErrorUnexpectedEof => "PARSING_ERROR_UNEXPECTED_EOF"
  | invalidCharacterConstant => "INVALID_CHARACTER_CONSTANT"
  | invalidFloat => "INVALID_FLOAT"
  | unterminatedString => "UNTERMINATED_STRING"
  | unterminatedComment => "UNTERMINATED_COMMENT"
  | javadocUnexpectedTag => "JAVADOC_UNEXPECTED_TAG"
  | javadocMissingParamTag => "JAVADOC_MISSING_PARAM_TAG"
  | javadocMissingIdentifier => "JAVADOC_MISSING_IDENTIFIER"
  | javadocDuplicateParamName => "JAVADOC_DUPLICATE_PARAM_NAME"
  | javadocInvalidParamName => "JAVADOC_INVALID_PARAM_NAME"
  | javadocMissingReturnTag => "JAVADOC_MISSING_RETURN_TAG"
  | javadocMissingThrowsTag => "JAVADOC_MISSING_THROWS_TAG"
  | javadocInvalidThrowsClassName => "JAVADOC_INVALID_THROWS_CLASS_NAME"
  | javadocUnterminatedInlineTag => "JAVADOC_UNTERMINATED_INLINE_TAG"
  | javadocUnexpectedText => "JAVADOC_UNEXPECTED_TEXT"

/-- All known problems. -/
def all : List Id :=
  [.ignored, .undefinedType, .notVisibleType, .ambiguousType, .typeMismatch, .unhandledException,
    .unhandledExceptionInDefaultConstructor, .unhandledExceptionOnAutoClose,
    .invalidClassInstantiation, .classExtendFinalClass, .anonymousClassCannotExtendFinalClass,
    .publicClassMustMatchFileName, .abstractMethodMustBeImplemented, .rawTypeReference,
    .missingSerialVersion, .typeMissingDeprecationMark, .shouldImplementHashcode,
    .invalidUnionTypeReferenceSequence, .illegalModifierForClass, .illegalModifierForInterface,
    .illegalModifierForMemberClass, .illegalModifierForMemberInterface,
    .illegalModifierForLocalClass, .illegalModifierForEnum, .illegalModifierForMemberEnum,
    .illegalModifierForLocalEnumDeclaration, .illegalVisibilityModifierCombinationForMemberType,
    .illegalVisibilityModifierForInterfaceMemberType,
    .illegalModifierCombinationFinalAbstractForClass, .recordIllegalModifierForRecord,
    .recordIllegalModifierForInnerRecord, .recordIllegalModifierForLocalRecord,
    .sealedMissingClassModifier, .sealedSealedTypeMissingPermits, .sealedSuperClassDoesNotPermit,
    .sealedSuperInterfaceDoesNotPermit, .undefinedField, .notVisibleField, .finalFieldAssignment,
    .unresolvedVariable, .undefinedName, .instanceFieldDuringConstructorInvocation,
    .fieldMissingDeprecationMark, .illegalModifierForField, .illegalModifierForInterfaceField,
    .illegalVisibilityModifierCombinationForField,
    .illegalModifierCombinationFinalVolatileForField, .undefinedMethod, .notVisibleMethod,
    .ambiguousMethod, .parameterMismatch, .noMessageSendOnArrayType,
    .nonStaticAccessToStaticMethod, .missingReturnType, .bodyForAbstractMethod, .duplicateMethod,
    .methodRequiresBody, .methodReturnsVoid, .voidMethodReturnsValue, .shouldReturnValue,
    .incompatibleExceptionInThrowsClause, .incompatibleReturnType, .finalMethodCannotBeOverridden,
    .cannotOverrideAStaticMethodWithAnInstanceMethod, .unsafeRawMethodInvocation,
    .methodMissingDeprecationMark, .illegalModifierForMethod, .illegalModifierForInterfaceMethod,
    .illegalModifierForInterfaceMethod18, .illegalModifierForInterfaceMethod9,
    .illegalModifierForAnnotationMethod, .illegalVisibilityModifierCombinationForMethod,
    .illegalModifierCombinationForInterfaceMethod, .illegalStrictfpForAbstractInterfaceMethod,
    .undefinedAnnotationMember, .missingValueForAnnotationMember, .annotationValueMustBeConstant,
    .undefinedConstructor, .notVisibleConstructor, .undefinedConstructorInDefaultConstructor,
    .notVisibleConstructorInDefaultConstructor, .illegalModifierForConstructor,
    .illegalModifierForEnumConstructor, .conflictingImport, .packageDoesNotExistOrIsEmpty,
    .uninitializedLocalVariable, .codeCannotBeReached, .unreachableCatch,
    .invalidCatchBlockSequence, .invalidExpressionAsStatement, .varargsConflict,
    .duplicateModifierForArgument, .illegalModifierForArgument, .illegalModifiers,
    .emptyControlFlowStatement, .unnecessaryCast, .strictfpNotRequired,
    .nonSerializableInstanceField, .syntaxError, .parsingErrorInsertTokenBefore,
    .parsingErrorInsertTokenAfter, .parsingErrorInsertToComplete, .parsingErrorUnexpectedEof,
    .invalidCharacterConstant, .invalidFloat, .unterminatedString, .unterminatedComment,
    .javadocUnexpectedTag, .javadocMissingParamTag, .javadocMissingIdentifier,
    .javadocDuplicateParamName, .javadocInvalidParamName, .javadocMissingReturnTag,
    .javadocMissingThrowsTag, .javadocInvalidThrowsClassName, .javadocUnterminatedInlineTag,
    .javadocUnexpectedText]

/-- The problem with a number. -/
def ofCode? (n : Int) : Option Id :=
  all.find? (fun id => id.code == n)

end Id

/-- A number with the name of its problem, or alone if it has none. -/
def codeText (n : Int) : String :=
  match Id.ofCode? n with
  | some id => id.title ++ "(" ++ Text.decimal n ++ ")"
  | none => Text.decimal n

end Problem

end TreeBridge

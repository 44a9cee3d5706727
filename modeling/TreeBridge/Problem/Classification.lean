import TreeBridge.Problem.Message
import TreeBridge.Problem.Scene
/-!
# Classifying diagnostics

The problem that a diagnostic reports. Most codes name their problem;
others depend on the arguments of the diagnostic, on the trees around it
or on its message. A code that nobody knows reports no problem.
-/

namespace TreeBridge

namespace Problem

open Foreign (Tree Shape Tag ClassKind Diagnostic)

/-- The problems of the codes that depend on nothing else. -/
def fixedCodes : List (String × Id) :=
  [("compiler.warn.dangling.doc.comment", .ignored),
    ("compiler.err.expected", .parsingErrorInsertTokenAfter),
    ("compiler.err.expected2", .parsingErrorInsertTokenBefore),
    ("compiler.err.expected3", .parsingErrorInsertToComplete),
    ("compiler.err.bad.initializer", .parsingErrorInsertToComplete),
    ("compiler.err.unclosed.comment", .unterminatedComment),
    ("compiler.err.illegal.start.of.type", .syntaxError),
    ("compiler.err.illegal.start.of.expr", .syntaxError),
    ("compiler.err.variable.not.allowed", .syntaxError),
    ("compiler.err.premature.eof", .parsingErrorUnexpectedEof),
    ("compiler.err.unclosed.str.lit", .unterminatedString),
    ("compiler.err.illegal.char", .invalidCharacterConstant),
    ("compiler.err.unclosed.char.lit", .invalidCharacterConstant),
    ("compiler.err.empty.char.lit", .invalidCharacterConstant),
    ("compiler.err.malformed.fp.lit", .invalidFloat),
    ("compiler.err.cant.resolve.location.args.params", .undefinedMethod),
    ("compiler.err.cant.resolve.args.params", .undefinedMethod),
    ("compiler.err.enum.label.must.be.unqualified.enum", .undefinedField),
    ("compiler.err.doesnt.exist", .packageDoesNotExistOrIsEmpty),
    ("compiler.err.already.defined.this.unit", .conflictingImport),
    ("compiler.err.not.def.public.cant.access", .notVisibleType),
    ("compiler.err.illegal.initializer.for.type", .typeMismatch),
    ("compiler.err.invalid.meth.decl.ret.type.req", .missingReturnType),
    ("compiler.err.missing.ret.stmt", .shouldReturnValue),
    ("compiler.err.abstract.meth.cant.have.body", .bodyForAbstractMethod),
    ("compiler.err.intf.meth.cant.have.body", .bodyForAbstractMethod),
    ("compiler.err.missing.meth.body.or.decl.abstract", .methodRequiresBody),
    ("compiler.err.already.defined", .duplicateMethod),
    ("compiler.err.does.not.override.abstract", .abstractMethodMustBeImplemented),
    ("compiler.err.override.meth.doesnt.throw", .incompatibleExceptionInThrowsClause),
    ("compiler.err.override.incompatible.ret", .incompatibleReturnType),
    ("compiler.err.non-static.cant.be.ref", .nonStaticAccessToStaticMethod),
    ("compiler.err.cant.ref.before.ctor.called", .instanceFieldDuringConstructorInvocation),
    ("compiler.err.cant.assign.val.to.var", .finalFieldAssignment),
    ("compiler.err.var.might.not.have.been.initialized", .uninitializedLocalVariable),
    ("compiler.err.unreported.exception.need.to.catch.or.throw", .unhandledException),
    ("compiler.err.unreported.exception.default.constructor",
      .unhandledExceptionInDefaultConstructor),
    ("compiler.err.unreported.exception.implicit.close", .unhandledExceptionOnAutoClose),
    ("compiler.err.unreachable.stmt", .codeCannotBeReached),
    ("compiler.err.except.never.thrown.in.try", .unreachableCatch),
    ("compiler.err.except.already.caught", .invalidCatchBlockSequence),
    ("compiler.err.multicatch.types.must.be.disjoint", .invalidUnionTypeReferenceSequence),
    ("compiler.err.not.stmt", .invalidExpressionAsStatement),
    ("compiler.err.varargs.and.old.array.syntax", .varargsConflict),
    ("compiler.err.class.public.should.be.in.file", .publicClassMustMatchFileName),
    ("compiler.err.qualified.new.of.static.class", .invalidClassInstantiation),
    ("compiler.err.abstract.cant.be.instantiated", .invalidClassInstantiation),
    ("compiler.err.annotation.missing.default.value", .missingValueForAnnotationMember),
    ("compiler.err.annotation.value.must.be.name.value", .undefinedAnnotationMember),
    ("compiler.err.expression.not.allowable.as.annotation.value",
      .annotationValueMustBeConstant),
    ("compiler.err.repeated.modifier", .duplicateModifierForArgument),
    ("compiler.err.non.sealed.sealed.or.final.expected", .sealedMissingClassModifier),
    ("compiler.err.sealed.class.must.have.subclasses", .sealedSealedTypeMissingPermits),
    ("compiler.warn.raw.class.use", .rawTypeReference),
    ("compiler.warn.unchecked.call.mbr.of.raw.type", .unsafeRawMethodInvocation),
    ("compiler.warn.missing.SVUID", .missingSerialVersion),
    ("compiler.warn.non.serializable.instance.field", .nonSerializableInstanceField),
    ("compiler.warn.override.equals.but.not.hashcode", .shouldImplementHashcode),
    ("compiler.warn.empty.if", .emptyControlFlowStatement),
    ("compiler.warn.redundant.cast", .unnecessaryCast),
    ("compiler.err.dc.identifier.expected", .javadocMissingIdentifier),
    ("compiler.err.dc.unterminated.inline.tag", .javadocUnterminatedInlineTag)]

/-! ## By arguments -/

/-- A symbol that cannot be found. -/
def unresolvedSymbol (d : Diagnostic) : Id :=
  match d.kindName? with
  | some .classKind => .undefinedType
  | some .methodKind => .undefinedMethod
  | some .variableKind => .unresolvedVariable
  | _ => .undefinedName

/-- A reference that two declarations fit. -/
def ambiguousReference (d : Diagnostic) : Id :=
  match d.kindName? with
  | some .classKind => .ambiguousType
  | some .methodKind => .ambiguousMethod
  | _ => .ignored

/-- Whether the first type among the arguments is an interface. -/
def interfaceArgument? (d : Diagnostic) : Option Bool :=
  d.arguments.findSome? (fun a =>
    match a with
    | .symbol (.type isInterface) _ => some isInterface
    | _ => none)

/-- A supertype that does not permit its subtype. -/
def forbiddenSupertype (d : Diagnostic) : Id :=
  match interfaceArgument? d with
  | some true => .sealedSuperInterfaceDoesNotPermit
  | some false => .sealedSuperClassDoesNotPermit
  | none => .ignored

/-! ## By the trees around -/

/-- A name that cannot be found. -/
def unresolvedName (tree : Option Tree) : Id :=
  if tree.any (fun t => t.tag == .select) then .undefinedField else .unresolvedVariable

/-- A deprecated declaration without its mark. -/
def unmarkedDeprecation (tree : Option Tree) : Id :=
  match tree.map Tree.tag with
  | some .varDef => .fieldMissingDeprecationMark
  | some .methodDef => .methodMissingDeprecationMark
  | some .classDef => .typeMissingDeprecationMark
  | _ => .ignored

/-- Something that cannot be accessed, by the first argument. -/
def inaccessible (d : Diagnostic) (tree : Option Tree) : Id :=
  match d.arguments.head? with
  | some (.symbol (.method true) _) =>
    if (tree.bind Tree.identName?) == some "super" then
      .notVisibleConstructorInDefaultConstructor
    else .notVisibleConstructor
  | some (.symbol (.method false) _) => .notVisibleMethod
  | some (.symbol (.type _) _) => .notVisibleType
  | some (.symbol .var _) => .notVisibleField
  | _ => .ignored

/-- A constructor or method that does not fit its arguments. -/
def inapplicable (d : Diagnostic) (tree : Option Tree) : Id :=
  match d.kindName? with
  | some .constructorKind =>
    if d.multiline then .undefinedConstructorInDefaultConstructor
    else
      match d.nested?.map Diagnostic.code with
      | some "compiler.misc.report.access" => inaccessible d tree
      | some "compiler.misc.arg.length.mismatch" => .undefinedConstructorInDefaultConstructor
      | _ => .undefinedConstructor
  | some .methodKind => .parameterMismatch
  | _ => .ignored

/-- Whether a nested diagnostic speaks of an array. -/
def hasArrayReceiver (d : Diagnostic) : Bool :=
  d.nested?.any (fun nested => nested.arguments.any (fun a =>
    match a with
    | .type type => type.isArray
    | _ => false))

/-- A method that cannot be found; in the value of an annotation it is a
member of that. -/
def unresolvedMethod (d : Diagnostic) (trail : List Tree) : Id :=
  if hasArrayReceiver d then .noMessageSendOnArrayType
  else if d.code = "compiler.err.cant.resolve.args" ∧ d.kindName? = some .constructorKind then
    .undefinedConstructor
  else
    match trail.map Tree.tag with
    | _ :: .assign :: .annotationUse :: _ => .undefinedAnnotationMember
    | _ => .undefinedMethod

/-- The problem that the cause of a type mismatch names. -/
def mismatchCause? (cause : Diagnostic) : Option Id :=
  match cause.code, cause.arguments with
  | "compiler.misc.inconvertible.types", _ :: .type type :: _ =>
    if type.isVoid then some .methodReturnsVoid else none
  | "compiler.misc.unexpected.ret.val", _ => some .voidMethodReturnsValue
  | "compiler.misc.missing.ret.val", _ => some .shouldReturnValue
  | _, _ => none

/-- Whether a tree is part of an argument of a call, that is, whether
there is a call among the expressions right around it. -/
def isInCall (trail : List Tree) : Bool :=
  ((trail.drop 1).takeWhile Tree.isExpression).any (fun t => t.tag == .call)

/-- A value of the wrong type. -/
def mismatch (d : Diagnostic) (trail : List Tree) : Id :=
  match d.nested?.bind mismatchCause? with
  | some id => id
  | none => if isInCall trail then .parameterMismatch else .typeMismatch

/-- Whether the nearest class or creation of an instance in a trail is
the creation of an anonymous class. -/
def isInAnonymousClass (trail : List Tree) : Bool :=
  (trail.findSome? (fun t =>
    match t.shape with
    | .newClass _ _ _ _ body => some body.isSome
    | .classDef .. => some false
    | _ => none)).getD false

/-- The kind of type that a tree declares. -/
def classKind? (t : Tree) : Option ClassKind :=
  match t.shape with
  | .classDef _ _ classKind _ _ _ _ _ => some classKind
  | _ => none

/-- A modifier that a method may not have. -/
def illegalMethodModifier (isConstructor : Bool) (owner : Option ClassKind) : Id :=
  match owner, isConstructor with
  | some .enumType, true => .illegalModifierForEnumConstructor
  | some _, true => .illegalModifierForConstructor
  | some .interfaceType, false => .illegalModifierForInterfaceMethod
  | some .annotationType, false => .illegalModifierForAnnotationMethod
  | _, _ => .illegalModifierForMethod

/-- A modifier that a type may not have: one inside a type, at the top of
a unit or in a body. -/
def illegalTypeModifier (kind : ClassKind) (parent : Option Tag) : Id :=
  match parent, kind with
  | some .classDef, .recordType => .recordIllegalModifierForInnerRecord
  | some .classDef, .enumType => .illegalModifierForMemberEnum
  | some .classDef, .interfaceType => .illegalModifierForMemberInterface
  | some .classDef, _ => .illegalModifierForMemberClass
  | some .unit, .recordType => .recordIllegalModifierForRecord
  | some .unit, .enumType => .illegalModifierForEnum
  | some .unit, .interfaceType => .illegalModifierForInterface
  | some .unit, _ => .illegalModifierForClass
  | _, .recordType => .recordIllegalModifierForLocalRecord
  | _, .enumType => .illegalModifierForLocalEnumDeclaration
  | _, _ => .illegalModifierForLocalClass

/-- A modifier that a variable may not have; `none` for a variable that
is neither a parameter nor a field. -/
def illegalVariableModifier? (parent : Option Tree) : Option Id :=
  match parent with
  | none => none
  | some t =>
    match t.shape with
    | .methodDef .. => some .illegalModifierForArgument
    | .classDef _ _ .interfaceType _ _ _ _ _ => some .illegalModifierForInterfaceField
    | .classDef .. => some .illegalModifierForField
    | _ => none

/-- The problem of a modifier on a tree itself, if it can have one. -/
def illegalModifierOn? (t : Tree) (parent : Option Tree) : Option Id :=
  match t.shape with
  | .methodDef _ _ _ returnType _ _ _ _ _ =>
    some (illegalMethodModifier returnType.isNone (parent.bind classKind?))
  | .classDef _ _ kind _ _ _ _ _ => some (illegalTypeModifier kind (parent.map Tree.tag))
  | .varDef .. => illegalVariableModifier? parent
  | _ => none

/-- A modifier that may not stand where it does, by the innermost
declaration of a trail. -/
def illegalModifier : List Tree → Id
  | [] => .illegalModifiers
  | t :: above =>
    match illegalModifierOn? t above.head? with
    | some id => id
    | none => illegalModifier above

/-- Modifiers of access that exclude each other. -/
def accessCombination (t : Tree) (parent : Option Tree) : Id :=
  match t.tag, parent.bind classKind? with
  | .methodDef, _ => .illegalVisibilityModifierCombinationForMethod
  | .classDef, some .interfaceType => .illegalVisibilityModifierForInterfaceMemberType
  | .classDef, some _ => .illegalVisibilityModifierCombinationForMemberType
  | .varDef, some _ => .illegalVisibilityModifierCombinationForField
  | _, _ => .illegalModifiers

/-- Other modifiers that exclude each other. -/
def otherCombination (mentions : String → Bool) (t : Tree) (parent : Option Tree) : Id :=
  match t.tag, parent.bind classKind? with
  | .methodDef, some .interfaceType => .illegalModifierCombinationForInterfaceMethod
  | .methodDef, some _ =>
    if mentions "abstract" && mentions "final" then
      .illegalModifierCombinationFinalAbstractForClass
    else .illegalModifiers
  | .varDef, some _ =>
    if mentions "volatile" && mentions "final" then
      .illegalModifierCombinationFinalVolatileForField
    else .illegalModifiers
  | _, _ => .illegalModifiers

/-- Modifiers that exclude each other, by the words of the message. -/
def illegalCombination (message : String) : List Tree → Id
  | [] => .illegalModifiers
  | t :: above =>
    let mentions := Message.namesModifier message
    if mentions "public" || mentions "protected" || mentions "private" then
      accessCombination t above.head?
    else otherCombination mentions t above.head?

/-- A modifier of strict arithmetic without effect. -/
def uselessStrictness (trail : List Tree) : Id :=
  match trail.map Tree.tag with
  | .methodDef :: .classDef :: _ => .illegalStrictfpForAbstractInterfaceMethod
  | _ => .strictfpNotRequired

/-! ## By the message -/

/-- An override that is not allowed. -/
def forbiddenOverride (message : String) : Id :=
  if Message.isAboutStatic message then .cannotOverrideAStaticMethodWithAnInstanceMethod
  else .finalMethodCannotBeOverridden

/-- A kind of interface method that the source level does not have. -/
def unsupportedMethod (message : String) : Id :=
  match Message.sourceLevel? message with
  | some 8 => .illegalModifierForInterfaceMethod18
  | some 9 => .illegalModifierForInterfaceMethod9
  | _ => .illegalModifierForInterfaceMethod

/-! ## All codes -/

/-- The problem of a code that depends on more than the code. -/
def classifyByScene (scene : Scene) (d : Diagnostic) : Id :=
  match d.code with
  | "compiler.err.cant.resolve.location" => unresolvedSymbol d
  | "compiler.err.cant.resolve.location.args" | "compiler.err.cant.resolve.args" =>
    unresolvedMethod d (scene.trail d)
  | "compiler.err.cant.resolve" => unresolvedName (scene.tree? d)
  | "compiler.err.cant.apply.symbol" | "compiler.err.cant.apply.symbols" =>
    inapplicable d (scene.tree? d)
  | "compiler.err.report.access" => inaccessible d (scene.tree? d)
  | "compiler.err.ref.ambiguous" => ambiguousReference d
  | "compiler.err.prob.found.req" => mismatch d (scene.trail d)
  | "compiler.err.override.meth" => forbiddenOverride d.message
  | "compiler.err.cant.inherit.from.final" =>
    if isInAnonymousClass (scene.trail d) then .anonymousClassCannotExtendFinalClass
    else .classExtendFinalClass
  | "compiler.err.mod.not.allowed.here" | "compiler.err.invalid.permits.clause" =>
    illegalModifier (scene.trail d)
  | "compiler.err.illegal.combination.of.modifiers" =>
    illegalCombination d.message (scene.trail d)
  | "compiler.warn.strictfp" => uselessStrictness (scene.trail d)
  | "compiler.err.feature.not.supported.in.source.plural" => unsupportedMethod d.message
  | "compiler.err.cant.inherit.from.sealed" => forbiddenSupertype d
  | "compiler.warn.missing.deprecated.annotation" => unmarkedDeprecation (scene.tree? d)
  | "compiler.warn.proc.messager" | "compiler.err.proc.messager" =>
    Message.docProblem d.message
  | code =>
    if "compiler.err.dc.".toList.isPrefixOf code.toList then .javadocUnexpectedText
    else .ignored

/-- **The problem that a diagnostic reports.** -/
def classify (scene : Scene) (d : Diagnostic) : Id :=
  match fixedCodes.find? (fun c => c.1 == d.code) with
  | some c => c.2
  | none => classifyByScene scene d

end Problem

end TreeBridge

import TreeBridge.Unified.Operator
/-!
# Node kinds

The kinds of nodes of the unified tree with the attributes each carries,
and the slots through which a node owns its children.
-/

namespace TreeBridge

namespace Unified

/-- The kinds of nodes. -/
inductive NodeKind
  | compilationUnit
  | packageDeclaration
  | importDeclaration (isStatic : Bool) (onDemand : Bool)
  | typeDeclaration (isInterface : Bool)
  | enumDeclaration
  | recordDeclaration
  | annotationTypeDeclaration
  | annotationTypeMemberDeclaration
  | enumConstantDeclaration
  | fieldDeclaration
  | methodDeclaration (isConstructor : Bool) (extraDimensions : Nat)
  | initializer
  | anonymousClassDeclaration
  | singleVariableDeclaration (varargs : Bool) (extraDimensions : Nat)
  | variableDeclarationFragment (extraDimensions : Nat)
  | typeParameter
  | modifier (keyword : Keyword)
  | annotationMarker
  | annotationNormal
  | annotationSingleMember
  | memberValuePair
  | javadoc
  | block
  | emptyStatement
  | expressionStatement
  | variableDeclarationStatement
  | typeDeclarationStatement
  | ifStatement
  | whileStatement
  | doStatement
  | forStatement
  | enhancedForStatement
  | returnStatement
  | throwStatement
  | breakStatement
  | continueStatement
  | yieldStatement
  | labeledStatement
  | switchStatement
  | switchCase (switchLabeledRule : Bool) (isDefault : Bool)
  | synchronizedStatement
  | tryStatement
  | catchClause
  | assertStatement
  | constructorInvocation
  | superConstructorInvocation
  | simpleName (identifier : String)
  | qualifiedName
  | thisExpression
  | numberLiteral (token : String)
  | stringLiteral (escaped : String)
  | textBlock (escaped : String)
  | characterLiteral (escaped : String)
  | booleanLiteral (value : Bool)
  | nullLiteral
  | typeLiteral
  | fieldAccess
  | superFieldAccess
  | methodInvocation
  | superMethodInvocation
  | classInstanceCreation
  | arrayCreation
  | arrayInitializer
  | arrayAccess
  | infixExpression (operator : Option InfixOperator)
  | prefixExpression (operator : PrefixOperator)
  | postfixExpression (operator : PostfixOperator)
  | parenthesizedExpression
  | assignment (operator : AssignmentOperator)
  | conditionalExpression
  | castExpression
  | instanceofExpression
  | patternInstanceofExpression
  | typePattern
  | lambdaExpression (parentheses : Bool)
  | creationReference
  | expressionMethodReference
  | superMethodReference
  | typeMethodReference
  | switchExpression
  | variableDeclarationExpression
  | primitiveType (code : PrimitiveCode)
  | simpleType
  | qualifiedType
  | arrayType
  | dimension
  | parameterizedType
  | wildcardType (upperBound : Bool)
  | unionType
  | intersectionType
  deriving DecidableEq, Repr

namespace NodeKind

/-- The name of a kind, without its attributes. -/
def name : NodeKind → String
  | compilationUnit => "CompilationUnit"
  | packageDeclaration => "PackageDeclaration"
  | importDeclaration .. => "ImportDeclaration"
  | typeDeclaration .. => "TypeDeclaration"
  | enumDeclaration => "EnumDeclaration"
  | recordDeclaration => "RecordDeclaration"
  | annotationTypeDeclaration => "AnnotationTypeDeclaration"
  | annotationTypeMemberDeclaration => "AnnotationTypeMemberDeclaration"
  | enumConstantDeclaration => "EnumConstantDeclaration"
  | fieldDeclaration => "FieldDeclaration"
  | methodDeclaration .. => "MethodDeclaration"
  | initializer => "Initializer"
  | anonymousClassDeclaration => "AnonymousClassDeclaration"
  | singleVariableDeclaration .. => "SingleVariableDeclaration"
  | variableDeclarationFragment .. => "VariableDeclarationFragment"
  | typeParameter => "TypeParameter"
  | modifier .. => "Modifier"
  | annotationMarker => "MarkerAnnotation"
  | annotationNormal => "NormalAnnotation"
  | annotationSingleMember => "SingleMemberAnnotation"
  | memberValuePair => "MemberValuePair"
  | javadoc => "Javadoc"
  | block => "Block"
  | emptyStatement => "EmptyStatement"
  | expressionStatement => "ExpressionStatement"
  | variableDeclarationStatement => "VariableDeclarationStatement"
  | typeDeclarationStatement => "TypeDeclarationStatement"
  | ifStatement => "IfStatement"
  | whileStatement => "WhileStatement"
  | doStatement => "DoStatement"
  | forStatement => "ForStatement"
  | enhancedForStatement => "EnhancedForStatement"
  | returnStatement => "ReturnStatement"
  | throwStatement => "ThrowStatement"
  | breakStatement => "BreakStatement"
  | continueStatement => "ContinueStatement"
  | yieldStatement => "YieldStatement"
  | labeledStatement => "LabeledStatement"
  | switchStatement => "SwitchStatement"
  | switchCase .. => "SwitchCase"
  | synchronizedStatement => "SynchronizedStatement"
  | tryStatement => "TryStatement"
  | catchClause => "CatchClause"
  | assertStatement => "AssertStatement"
  | constructorInvocation => "ConstructorInvocation"
  | superConstructorInvocation => "SuperConstructorInvocation"
  | simpleName .. => "SimpleName"
  | qualifiedName => "QualifiedName"
  | thisExpression => "ThisExpression"
  | numberLiteral .. => "NumberLiteral"
  | stringLiteral .. => "StringLiteral"
  | textBlock .. => "TextBlock"
  | characterLiteral .. => "CharacterLiteral"
  | booleanLiteral .. => "BooleanLiteral"
  | nullLiteral => "NullLiteral"
  | typeLiteral => "TypeLiteral"
  | fieldAccess => "FieldAccess"
  | superFieldAccess => "SuperFieldAccess"
  | methodInvocation => "MethodInvocation"
  | superMethodInvocation => "SuperMethodInvocation"
  | classInstanceCreation => "ClassInstanceCreation"
  | arrayCreation => "ArrayCreation"
  | arrayInitializer => "ArrayInitializer"
  | arrayAccess => "ArrayAccess"
  | infixExpression .. => "InfixExpression"
  | prefixExpression .. => "PrefixExpression"
  | postfixExpression .. => "PostfixExpression"
  | parenthesizedExpression => "ParenthesizedExpression"
  | assignment .. => "Assignment"
  | conditionalExpression => "ConditionalExpression"
  | castExpression => "CastExpression"
  | instanceofExpression => "InstanceofExpression"
  | patternInstanceofExpression => "PatternInstanceofExpression"
  | typePattern => "TypePattern"
  | lambdaExpression .. => "LambdaExpression"
  | creationReference => "CreationReference"
  | expressionMethodReference => "ExpressionMethodReference"
  | superMethodReference => "SuperMethodReference"
  | typeMethodReference => "TypeMethodReference"
  | switchExpression => "SwitchExpression"
  | variableDeclarationExpression => "VariableDeclarationExpression"
  | primitiveType .. => "PrimitiveType"
  | simpleType => "SimpleType"
  | qualifiedType => "QualifiedType"
  | arrayType => "ArrayType"
  | dimension => "Dimension"
  | parameterizedType => "ParameterizedType"
  | wildcardType .. => "WildcardType"
  | unionType => "UnionType"
  | intersectionType => "IntersectionType"

/-- Whether two kinds differ in their attributes at most. -/
def sameVariant (a b : NodeKind) : Bool :=
  a.name == b.name

/-- The declarations of types. -/
def isTypeDeclaration : NodeKind → Bool
  | typeDeclaration _ | enumDeclaration | recordDeclaration | annotationTypeDeclaration => true
  | _ => false

/-- The declarations that may own a doc comment inside a unit or a
type. -/
def isBodyDeclaration : NodeKind → Bool
  | typeDeclaration _ | enumDeclaration | recordDeclaration | annotationTypeDeclaration
  | annotationTypeMemberDeclaration | enumConstantDeclaration | fieldDeclaration
  | methodDeclaration _ _ | initializer => true
  | _ => false

/-- Simple and qualified names. -/
def isName : NodeKind → Bool
  | simpleName _ | qualifiedName => true
  | _ => false

/-- Annotations in their three forms. -/
def annotates : NodeKind → Bool
  | annotationMarker | annotationNormal | annotationSingleMember => true
  | _ => false

/-- The kinds of types. -/
def isType : NodeKind → Bool
  | primitiveType _ | simpleType | qualifiedType | arrayType | parameterizedType
  | wildcardType _ | unionType | intersectionType => true
  | _ => false

end NodeKind

/-- The slots through which a node owns its children. -/
inductive Slot
  | javadoc
  | modifiers
  | annotations
  | name
  | package
  | imports
  | types
  | typeParameters
  | superclassType
  | superInterfaceTypes
  | permittedTypes
  | bodyDeclarations
  | enumConstants
  | recordComponents
  | type
  | fragments
  | returnType
  | parameters
  | thrownExceptionTypes
  | body
  | initializer
  | expression
  | statements
  | thenStatement
  | elseStatement
  | initializers
  | updaters
  | parameter
  | label
  | expressions
  | resources
  | catchClauses
  | finallyBlock
  | exception
  | message
  | typeArguments
  | arguments
  | qualifier
  | anonymousClassDeclaration
  | dimensions
  | leftOperand
  | rightOperand
  | extendedOperands
  | operand
  | leftHandSide
  | rightHandSide
  | thenExpression
  | elseExpression
  | pattern
  | typeName
  | values
  | value
  | default
  | elementType
  | bound
  | bounds
  | array
  | index
  | declaration
  deriving DecidableEq, Repr

/-- The name of a slot. -/
def Slot.title : Slot → String
  | javadoc => "Javadoc"
  | modifiers => "Modifiers"
  | annotations => "Annotations"
  | name => "Name"
  | package => "Package"
  | imports => "Imports"
  | types => "Types"
  | typeParameters => "TypeParameters"
  | superclassType => "SuperclassType"
  | superInterfaceTypes => "SuperInterfaceTypes"
  | permittedTypes => "PermittedTypes"
  | bodyDeclarations => "BodyDeclarations"
  | enumConstants => "EnumConstants"
  | recordComponents => "RecordComponents"
  | type => "Type"
  | fragments => "Fragments"
  | returnType => "ReturnType"
  | parameters => "Parameters"
  | thrownExceptionTypes => "ThrownExceptionTypes"
  | body => "Body"
  | initializer => "Initializer"
  | expression => "Expression"
  | statements => "Statements"
  | thenStatement => "ThenStatement"
  | elseStatement => "ElseStatement"
  | initializers => "Initializers"
  | updaters => "Updaters"
  | parameter => "Parameter"
  | label => "Label"
  | expressions => "Expressions"
  | resources => "Resources"
  | catchClauses => "CatchClauses"
  | finallyBlock => "Finally"
  | exception => "Exception"
  | message => "Message"
  | typeArguments => "TypeArguments"
  | arguments => "Arguments"
  | qualifier => "Qualifier"
  | anonymousClassDeclaration => "AnonymousClassDeclaration"
  | dimensions => "Dimensions"
  | leftOperand => "LeftOperand"
  | rightOperand => "RightOperand"
  | extendedOperands => "ExtendedOperands"
  | operand => "Operand"
  | leftHandSide => "LeftHandSide"
  | rightHandSide => "RightHandSide"
  | thenExpression => "ThenExpression"
  | elseExpression => "ElseExpression"
  | pattern => "Pattern"
  | typeName => "TypeName"
  | values => "Values"
  | value => "Value"
  | default => "Default"
  | elementType => "ElementType"
  | bound => "Bound"
  | bounds => "Bounds"
  | array => "Array"
  | index => "Index"
  | declaration => "Declaration"

/-- All slots. -/
def Slot.all : List Slot :=
  [.javadoc, .modifiers, .annotations, .name, .package, .imports, .types, .typeParameters,
    .superclassType, .superInterfaceTypes, .permittedTypes, .bodyDeclarations, .enumConstants,
    .recordComponents, .type, .fragments, .returnType, .parameters, .thrownExceptionTypes, .body,
    .initializer, .expression, .statements, .thenStatement, .elseStatement, .initializers,
    .updaters, .parameter, .label, .expressions, .resources, .catchClauses, .finallyBlock,
    .exception, .message, .typeArguments, .arguments, .qualifier, .anonymousClassDeclaration,
    .dimensions, .leftOperand, .rightOperand, .extendedOperands, .operand, .leftHandSide,
    .rightHandSide, .thenExpression, .elseExpression, .pattern, .typeName, .values, .value,
    .default, .elementType, .bound, .bounds, .array, .index, .declaration]

end Unified

end TreeBridge

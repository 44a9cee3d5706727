import TreeBridge.Interchange.Read
import TreeBridge.Unified.Kind
/-!
# Node kinds as documents

The attributes of a kind are fields named after them. A kind is read from
its name and its attributes.
-/

namespace TreeBridge

namespace Unified

namespace NodeKind

/-- One kind of every name. -/
def bare : List NodeKind :=
  [.compilationUnit, .packageDeclaration, .importDeclaration false false, .typeDeclaration false,
    .enumDeclaration, .recordDeclaration, .annotationTypeDeclaration,
    .annotationTypeMemberDeclaration, .enumConstantDeclaration, .fieldDeclaration,
    .methodDeclaration false 0, .initializer, .anonymousClassDeclaration,
    .singleVariableDeclaration false 0, .variableDeclarationFragment 0, .typeParameter,
    .modifier .final, .annotationMarker, .annotationNormal, .annotationSingleMember,
    .memberValuePair, .javadoc, .block, .emptyStatement, .expressionStatement,
    .variableDeclarationStatement, .typeDeclarationStatement, .ifStatement, .whileStatement,
    .doStatement, .forStatement, .enhancedForStatement, .returnStatement, .throwStatement,
    .breakStatement, .continueStatement, .yieldStatement, .labeledStatement, .switchStatement,
    .switchCase false false, .synchronizedStatement, .tryStatement, .catchClause,
    .assertStatement, .constructorInvocation, .superConstructorInvocation, .simpleName "",
    .qualifiedName, .thisExpression, .numberLiteral "", .stringLiteral "", .textBlock "",
    .characterLiteral "", .booleanLiteral false, .nullLiteral, .typeLiteral, .fieldAccess,
    .superFieldAccess, .methodInvocation, .superMethodInvocation, .classInstanceCreation,
    .arrayCreation, .arrayInitializer, .arrayAccess, .infixExpression none,
    .prefixExpression .plus, .postfixExpression .increment, .parenthesizedExpression,
    .assignment .assign, .conditionalExpression, .castExpression, .instanceofExpression,
    .patternInstanceofExpression, .typePattern, .lambdaExpression false, .creationReference,
    .expressionMethodReference, .superMethodReference, .typeMethodReference, .switchExpression,
    .variableDeclarationExpression, .primitiveType .int, .simpleType, .qualifiedType, .arrayType,
    .dimension, .parameterizedType, .wildcardType false, .unionType, .intersectionType]

/-- The attributes of a kind. -/
def attributes : NodeKind → List (String × Json)
  | importDeclaration isStatic onDemand =>
    [("is_static", .bool isStatic), ("on_demand", .bool onDemand)]
  | typeDeclaration isInterface => [("is_interface", .bool isInterface)]
  | methodDeclaration isConstructor dims =>
    [("is_constructor", .bool isConstructor), ("extra_dimensions", .number dims)]
  | singleVariableDeclaration varargs dims =>
    [("varargs", .bool varargs), ("extra_dimensions", .number dims)]
  | variableDeclarationFragment dims => [("extra_dimensions", .number dims)]
  | modifier keyword => [("keyword", .text keyword.name)]
  | switchCase isRule isDefault =>
    [("switch_labeled_rule", .bool isRule), ("is_default", .bool isDefault)]
  | simpleName identifier => [("identifier", .text identifier)]
  | numberLiteral token => [("token", .text token)]
  | stringLiteral escaped | textBlock escaped | characterLiteral escaped =>
    [("escaped", .text escaped)]
  | booleanLiteral value => [("value", .bool value)]
  | infixExpression operator => [("operator", .ofOption (fun o => .text o.name) operator)]
  | prefixExpression operator => [("operator", .text operator.name)]
  | postfixExpression operator => [("operator", .text operator.name)]
  | assignment operator => [("operator", .text operator.name)]
  | lambdaExpression parentheses => [("parentheses", .bool parentheses)]
  | primitiveType code => [("code", .text code.name)]
  | wildcardType upperBound => [("upper_bound", .bool upperBound)]
  | _ => []

/-- The kind with the attributes that the fields of a document give. -/
def withAttributes (j : Json) : NodeKind → NodeKind
  | importDeclaration _ _ =>
    importDeclaration (j.field "is_static").asBool (j.field "on_demand").asBool
  | typeDeclaration _ => typeDeclaration (j.field "is_interface").asBool
  | methodDeclaration _ _ =>
    methodDeclaration (j.field "is_constructor").asBool (j.field "extra_dimensions").asNat
  | singleVariableDeclaration _ _ =>
    singleVariableDeclaration (j.field "varargs").asBool (j.field "extra_dimensions").asNat
  | variableDeclarationFragment _ =>
    variableDeclarationFragment (j.field "extra_dimensions").asNat
  | modifier _ => modifier ((j.field "keyword").asNamed .final Keyword.all Keyword.name)
  | switchCase _ _ =>
    switchCase (j.field "switch_labeled_rule").asBool (j.field "is_default").asBool
  | simpleName _ => simpleName (j.field "identifier").asText
  | numberLiteral _ => numberLiteral (j.field "token").asText
  | stringLiteral _ => stringLiteral (j.field "escaped").asText
  | textBlock _ => textBlock (j.field "escaped").asText
  | characterLiteral _ => characterLiteral (j.field "escaped").asText
  | booleanLiteral _ => booleanLiteral (j.field "value").asBool
  | infixExpression _ =>
    infixExpression (InfixOperator.all.find? (fun o => o.name == (j.field "operator").asText))
  | prefixExpression _ =>
    prefixExpression ((j.field "operator").asNamed .plus PrefixOperator.all PrefixOperator.name)
  | postfixExpression _ =>
    postfixExpression
      ((j.field "operator").asNamed .increment PostfixOperator.all PostfixOperator.name)
  | assignment _ =>
    assignment
      ((j.field "operator").asNamed .assign AssignmentOperator.all AssignmentOperator.name)
  | lambdaExpression _ => lambdaExpression (j.field "parentheses").asBool
  | primitiveType _ =>
    primitiveType ((j.field "code").asNamed .int PrimitiveCode.all PrimitiveCode.name)
  | wildcardType _ => wildcardType (j.field "upper_bound").asBool
  | kind => kind

/-- The document of a kind: its name and its attributes. -/
def document (kind : NodeKind) : Json :=
  .object (("kind", .text kind.name) :: kind.attributes)

/-- Reads a kind from its document. -/
def ofDocument (j : Json) : NodeKind :=
  ((j.field "kind").asNamed .compilationUnit bare name).withAttributes j

end NodeKind

/-- Reads the name of a slot. -/
def Slot.read (j : Json) : Slot :=
  j.asNamed .javadoc Slot.all title

end Unified

end TreeBridge

/-!
# Kinds of concrete nodes

The vocabulary of the grammar: the kinds of nodes that have a meaning of
their own, and the fields that a node fills in its parent. Every other
node is a token, known by its text.
-/

namespace TreeBridge

namespace Concrete

/-- The kinds of concrete nodes. -/
inductive Kind
  | packageDeclaration
  | importDeclaration
  | moduleDeclaration
  | classDeclaration
  | interfaceDeclaration
  | enumDeclaration
  | recordDeclaration
  | annotationTypeDeclaration
  | modifiers
  | annotationMarker
  | annotationUse
  | elementValuePair
  | elementValueArrayInitializer
  | identifier
  | scopedIdentifier
  | typeIdentifier
  | asterisk
  | lineComment
  | blockComment
  | extendsInterfaces
  | typeList
  | throws
  | typeParameter
  | typeBound
  | typeArguments
  | classBody
  | enumConstant
  | enumBodyDeclarations
  | fieldDeclaration
  | constantDeclaration
  | methodDeclaration
  | annotationTypeElementDeclaration
  | constructorDeclaration
  | compactConstructorDeclaration
  | staticInitializer
  | variableDeclarator
  | formalParameters
  | formalParameter
  | spreadParameter
  | receiverParameter
  | integralType
  | floatingPointType
  | booleanType
  | voidType
  | scopedTypeIdentifier
  | genericType
  | arrayType
  | annotatedType
  | wildcard
  | dimensions
  | dimensionsExpr
  | block
  | localVariableDeclaration
  | expressionStatement
  | ifStatement
  | whileStatement
  | doStatement
  | forStatement
  | enhancedForStatement
  | labeledStatement
  | breakStatement
  | continueStatement
  | returnStatement
  | yieldStatement
  | throwStatement
  | switchExpression
  | synchronizedStatement
  | tryStatement
  | tryWithResourcesStatement
  | assertStatement
  | explicitConstructorInvocation
  | resource
  | catchClause
  | catchFormalParameter
  | catchType
  | finallyClause
  | switchBlockStatementGroup
  | switchLabel
  | switchRule
  | guardClause
  | pattern
  | typePattern
  | recordPattern
  | recordPatternComponent
  | underscorePattern
  | thisKeyword
  | superKeyword
  | decimalIntegerLiteral
  | hexIntegerLiteral
  | octalIntegerLiteral
  | binaryIntegerLiteral
  | decimalFloatingPointLiteral
  | hexFloatingPointLiteral
  | trueLiteral
  | falseLiteral
  | characterLiteral
  | stringLiteral
  | textBlock
  | nullLiteral
  | parenthesizedExpression
  | binaryExpression
  | unaryExpression
  | updateExpression
  | assignmentExpression
  | ternaryExpression
  | castExpression
  | instanceofExpression
  | lambdaExpression
  | methodInvocation
  | objectCreationExpression
  | fieldAccess
  | arrayAccess
  | arrayCreationExpression
  | arrayInitializer
  | classLiteral
  | methodReference
  | templateExpression
  | token (text : String)
  deriving DecidableEq, Repr

namespace Kind

/-- The name of a kind; a token is named by its text. -/
def text : Kind → String
  | packageDeclaration => "package_declaration"
  | importDeclaration => "import_declaration"
  | moduleDeclaration => "module_declaration"
  | classDeclaration => "class_declaration"
  | interfaceDeclaration => "interface_declaration"
  | enumDeclaration => "enum_declaration"
  | recordDeclaration => "record_declaration"
  | annotationTypeDeclaration => "annotation_type_declaration"
  | modifiers => "modifiers"
  | annotationMarker => "marker_annotation"
  | annotationUse => "annotation"
  | elementValuePair => "element_value_pair"
  | elementValueArrayInitializer => "element_value_array_initializer"
  | identifier => "identifier"
  | scopedIdentifier => "scoped_identifier"
  | typeIdentifier => "type_identifier"
  | asterisk => "asterisk"
  | lineComment => "line_comment"
  | blockComment => "block_comment"
  | extendsInterfaces => "extends_interfaces"
  | typeList => "type_list"
  | throws => "throws"
  | typeParameter => "type_parameter"
  | typeBound => "type_bound"
  | typeArguments => "type_arguments"
  | classBody => "class_body"
  | enumConstant => "enum_constant"
  | enumBodyDeclarations => "enum_body_declarations"
  | fieldDeclaration => "field_declaration"
  | constantDeclaration => "constant_declaration"
  | methodDeclaration => "method_declaration"
  | annotationTypeElementDeclaration => "annotation_type_element_declaration"
  | constructorDeclaration => "constructor_declaration"
  | compactConstructorDeclaration => "compact_constructor_declaration"
  | staticInitializer => "static_initializer"
  | variableDeclarator => "variable_declarator"
  | formalParameters => "formal_parameters"
  | formalParameter => "formal_parameter"
  | spreadParameter => "spread_parameter"
  | receiverParameter => "receiver_parameter"
  | integralType => "integral_type"
  | floatingPointType => "floating_point_type"
  | booleanType => "boolean_type"
  | voidType => "void_type"
  | scopedTypeIdentifier => "scoped_type_identifier"
  | genericType => "generic_type"
  | arrayType => "array_type"
  | annotatedType => "annotated_type"
  | wildcard => "wildcard"
  | dimensions => "dimensions"
  | dimensionsExpr => "dimensions_expr"
  | block => "block"
  | localVariableDeclaration => "local_variable_declaration"
  | expressionStatement => "expression_statement"
  | ifStatement => "if_statement"
  | whileStatement => "while_statement"
  | doStatement => "do_statement"
  | forStatement => "for_statement"
  | enhancedForStatement => "enhanced_for_statement"
  | labeledStatement => "labeled_statement"
  | breakStatement => "break_statement"
  | continueStatement => "continue_statement"
  | returnStatement => "return_statement"
  | yieldStatement => "yield_statement"
  | throwStatement => "throw_statement"
  | switchExpression => "switch_expression"
  | synchronizedStatement => "synchronized_statement"
  | tryStatement => "try_statement"
  | tryWithResourcesStatement => "try_with_resources_statement"
  | assertStatement => "assert_statement"
  | explicitConstructorInvocation => "explicit_constructor_invocation"
  | resource => "resource"
  | catchClause => "catch_clause"
  | catchFormalParameter => "catch_formal_parameter"
  | catchType => "catch_type"
  | finallyClause => "finally_clause"
  | switchBlockStatementGroup => "switch_block_statement_group"
  | switchLabel => "switch_label"
  | switchRule => "switch_rule"
  | guardClause => "guard"
  | pattern => "pattern"
  | typePattern => "type_pattern"
  | recordPattern => "record_pattern"
  | recordPatternComponent => "record_pattern_component"
  | underscorePattern => "underscore_pattern"
  | thisKeyword => "this"
  | superKeyword => "super"
  | decimalIntegerLiteral => "decimal_integer_literal"
  | hexIntegerLiteral => "hex_integer_literal"
  | octalIntegerLiteral => "octal_integer_literal"
  | binaryIntegerLiteral => "binary_integer_literal"
  | decimalFloatingPointLiteral => "decimal_floating_point_literal"
  | hexFloatingPointLiteral => "hex_floating_point_literal"
  | trueLiteral => "true"
  | falseLiteral => "false"
  | characterLiteral => "character_literal"
  | stringLiteral => "string_literal"
  | textBlock => "text_block"
  | nullLiteral => "null_literal"
  | parenthesizedExpression => "parenthesized_expression"
  | binaryExpression => "binary_expression"
  | unaryExpression => "unary_expression"
  | updateExpression => "update_expression"
  | assignmentExpression => "assignment_expression"
  | ternaryExpression => "ternary_expression"
  | castExpression => "cast_expression"
  | instanceofExpression => "instanceof_expression"
  | lambdaExpression => "lambda_expression"
  | methodInvocation => "method_invocation"
  | objectCreationExpression => "object_creation_expression"
  | fieldAccess => "field_access"
  | arrayAccess => "array_access"
  | arrayCreationExpression => "array_creation_expression"
  | arrayInitializer => "array_initializer"
  | classLiteral => "class_literal"
  | methodReference => "method_reference"
  | templateExpression => "template_expression"
  | token text => text

/-- The kinds that are no tokens. -/
def named : List Kind :=
  [.packageDeclaration, .importDeclaration, .moduleDeclaration, .classDeclaration,
    .interfaceDeclaration, .enumDeclaration, .recordDeclaration, .annotationTypeDeclaration,
    .modifiers, .annotationMarker, .annotationUse, .elementValuePair,
    .elementValueArrayInitializer, .identifier, .scopedIdentifier, .typeIdentifier, .asterisk,
    .lineComment, .blockComment, .extendsInterfaces, .typeList, .throws, .typeParameter,
    .typeBound, .typeArguments, .classBody, .enumConstant, .enumBodyDeclarations,
    .fieldDeclaration, .constantDeclaration, .methodDeclaration,
    .annotationTypeElementDeclaration, .constructorDeclaration, .compactConstructorDeclaration,
    .staticInitializer, .variableDeclarator, .formalParameters, .formalParameter,
    .spreadParameter, .receiverParameter, .integralType, .floatingPointType, .booleanType,
    .voidType, .scopedTypeIdentifier, .genericType, .arrayType, .annotatedType, .wildcard,
    .dimensions, .dimensionsExpr, .block, .localVariableDeclaration, .expressionStatement,
    .ifStatement, .whileStatement, .doStatement, .forStatement, .enhancedForStatement,
    .labeledStatement, .breakStatement, .continueStatement, .returnStatement, .yieldStatement,
    .throwStatement, .switchExpression, .synchronizedStatement, .tryStatement,
    .tryWithResourcesStatement, .assertStatement, .explicitConstructorInvocation, .resource,
    .catchClause, .catchFormalParameter, .catchType, .finallyClause, .switchBlockStatementGroup,
    .switchLabel, .switchRule, .guardClause, .pattern, .typePattern, .recordPattern,
    .recordPatternComponent, .underscorePattern, .thisKeyword, .superKeyword,
    .decimalIntegerLiteral, .hexIntegerLiteral, .octalIntegerLiteral, .binaryIntegerLiteral,
    .decimalFloatingPointLiteral, .hexFloatingPointLiteral, .trueLiteral, .falseLiteral,
    .characterLiteral, .stringLiteral, .textBlock, .nullLiteral, .parenthesizedExpression,
    .binaryExpression, .unaryExpression, .updateExpression, .assignmentExpression,
    .ternaryExpression, .castExpression, .instanceofExpression, .lambdaExpression,
    .methodInvocation, .objectCreationExpression, .fieldAccess, .arrayAccess,
    .arrayCreationExpression, .arrayInitializer, .classLiteral, .methodReference,
    .templateExpression]

/-- The kind with a name; a name that no kind has is a token. -/
def ofText (text : String) : Kind :=
  (named.find? (fun k => k.text == text)).getD (.token text)

/-- Comments may stand anywhere between other nodes. -/
def isComment : Kind → Bool
  | lineComment | blockComment => true
  | _ => false

/-- Uses of annotations, with and without arguments. -/
def annotates : Kind → Bool
  | annotationMarker | annotationUse => true
  | _ => false

/-- The declarations of types. -/
def isTypeDeclaration : Kind → Bool
  | classDeclaration | interfaceDeclaration | enumDeclaration | recordDeclaration
  | annotationTypeDeclaration => true
  | _ => false

/-- The kinds of types. -/
def isType : Kind → Bool
  | integralType | floatingPointType | booleanType | voidType | typeIdentifier
  | scopedTypeIdentifier | genericType | arrayType | annotatedType | wildcard => true
  | _ => false

/-- The kinds of statements. -/
def isStatement : Kind → Bool
  | block | localVariableDeclaration | expressionStatement | ifStatement | whileStatement
  | doStatement | forStatement | enhancedForStatement | labeledStatement | breakStatement
  | continueStatement | returnStatement | yieldStatement | throwStatement | switchExpression
  | synchronizedStatement | tryStatement | tryWithResourcesStatement | assertStatement
  | explicitConstructorInvocation => true
  | kind => kind.isTypeDeclaration

/-- The kinds of expressions. -/
def isExpression : Kind → Bool
  | identifier | thisKeyword | superKeyword | decimalIntegerLiteral | hexIntegerLiteral
  | octalIntegerLiteral | binaryIntegerLiteral | decimalFloatingPointLiteral
  | hexFloatingPointLiteral | trueLiteral | falseLiteral | characterLiteral | stringLiteral
  | textBlock | nullLiteral | parenthesizedExpression | binaryExpression | unaryExpression
  | updateExpression | assignmentExpression | ternaryExpression | castExpression
  | instanceofExpression | lambdaExpression | methodInvocation | objectCreationExpression
  | fieldAccess | arrayAccess | arrayCreationExpression | arrayInitializer | classLiteral
  | methodReference | switchExpression | templateExpression => true
  | _ => false

end Kind

/-- The fields that nodes fill in their parents. -/
inductive Field
  | alternative
  | arguments
  | array
  | body
  | condition
  | consequence
  | constructorKeyword
  | declarator
  | dimensions
  | element
  | field
  | index
  | initial
  | interfaces
  | key
  | left
  | name
  | object
  | operand
  | operator
  | parameters
  | pattern
  | permits
  | resources
  | right
  | scope
  | superclass
  | type
  | typeArguments
  | typeParameters
  | update
  | value
  deriving DecidableEq, Repr

/-- The name of a field. -/
def Field.text : Field → String
  | alternative => "alternative"
  | arguments => "arguments"
  | array => "array"
  | body => "body"
  | condition => "condition"
  | consequence => "consequence"
  | constructorKeyword => "constructor"
  | declarator => "declarator"
  | dimensions => "dimensions"
  | element => "element"
  | field => "field"
  | index => "index"
  | initial => "init"
  | interfaces => "interfaces"
  | key => "key"
  | left => "left"
  | name => "name"
  | object => "object"
  | operand => "operand"
  | operator => "operator"
  | parameters => "parameters"
  | pattern => "pattern"
  | permits => "permits"
  | resources => "resources"
  | right => "right"
  | scope => "scope"
  | superclass => "superclass"
  | type => "type"
  | typeArguments => "type_arguments"
  | typeParameters => "type_parameters"
  | update => "update"
  | value => "value"

/-- The fields of the grammar that are read. -/
def Field.all : List Field :=
  [.alternative, .arguments, .array, .body, .condition, .consequence, .constructorKeyword,
    .declarator, .dimensions, .element, .field, .index, .initial, .interfaces, .key, .left, .name,
    .object, .operand, .operator, .parameters, .pattern, .permits, .resources, .right, .scope,
    .superclass, .type, .typeArguments, .typeParameters, .update, .value]

/-- The field with a name. -/
def Field.ofText? (text : String) : Option Field :=
  all.find? (fun f => f.text == text)

end Concrete

end TreeBridge

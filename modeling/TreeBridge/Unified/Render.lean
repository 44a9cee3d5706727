import TreeBridge.Unified.Tree
/-!
# Canonical text

`Tree.render` writes a tree in a stable textual form. The text of a node
is a function of its kind and of the texts of its children
(`NodeKind.render`); it does not reproduce the formatting of the source.
-/

namespace TreeBridge

namespace Unified

/-- The text of a subtree, with the texts of its own children. -/
structure Rendered where
  text : String
  parts : List (Slot × String)
  deriving DecidableEq, Repr

/-- The rendered children of a node, with their slots. -/
abbrev Parts := List (Slot × Rendered)

namespace Parts

/-- The first child in a slot. -/
def first? (ps : Parts) (slot : Slot) : Option Rendered :=
  (ps.find? (fun p => p.1 == slot)).map (·.2)

/-- Whether a slot is in use. -/
def has (ps : Parts) (slot : Slot) : Bool :=
  (first? ps slot).isSome

/-- The text of the first child in a slot, or nothing. -/
def opt (ps : Parts) (slot : Slot) : String :=
  ((first? ps slot).map (·.text)).getD ""

/-- The texts of the children in a slot. -/
def texts (ps : Parts) (slot : Slot) : List String :=
  (ps.filter (fun p => p.1 == slot)).map (·.2.text)

/-- The children in a slot, with `separator` between them. -/
def list (ps : Parts) (slot : Slot) (separator : String) : String :=
  String.intercalate separator (texts ps slot)

/-- The children in a slot, each between `before` and `after`. -/
def each (ps : Parts) (slot : Slot) (before after : String) : String :=
  String.join ((texts ps slot).map (fun text => before ++ text ++ after))

/-- `text` when a slot is in use. -/
def whenUsed (ps : Parts) (slot : Slot) (text : String) : String :=
  if has ps slot then text else ""

/-- The first child in a slot and a text after it, or nothing. -/
def optThen (ps : Parts) (slot : Slot) (after : String) : String :=
  whenUsed ps slot (opt ps slot ++ after)

/-- The modifiers of a declaration, each followed by a space. -/
def modifiers (ps : Parts) : String :=
  each ps .modifiers "" " "

/-- The type parameters of a declaration, if any, in angle brackets. -/
def typeParameters (ps : Parts) : String :=
  whenUsed ps .typeParameters ("<" ++ list ps .typeParameters "," ++ ">")

/-- The type arguments of a node, if any, in angle brackets. -/
def typeArguments (ps : Parts) : String :=
  whenUsed ps .typeArguments ("<" ++ list ps .typeArguments "," ++ ">")

/-- The arguments of a call, in parentheses. -/
def arguments (ps : Parts) : String :=
  "(" ++ list ps .arguments "," ++ ")"

/-- The members of a type, in braces on lines of their own. -/
def body (ps : Parts) : String :=
  "\x7b\n" ++ list ps .bodyDeclarations "" ++ "\x7d\n"

/-- The interfaces of a declaration, if any, after a keyword. -/
def interfaces (ps : Parts) (keyword : String) : String :=
  whenUsed ps .superInterfaceTypes (keyword ++ list ps .superInterfaceTypes ", " ++ " ")

/-- An initializer, if any, after an equals sign. -/
def assigned (ps : Parts) : String :=
  whenUsed ps .initializer ("=" ++ opt ps .initializer)

/-- Pairs of square brackets. -/
def dims (count : Nat) : String :=
  String.join (List.replicate count "[]")

/-- An array creation: the element type of its array type, the dimension
expressions, the dimensions that have none, and the initializer. -/
def creation (ps : Parts) : String :=
  let below := ((first? ps .type).map (·.parts)).getD []
  let element := ((below.find? (fun p => p.1 == Slot.elementType)).map (·.2)).getD ""
  let total := (below.filter (fun p => p.1 == Slot.dimensions)).length
  "new " ++ element ++ each ps .dimensions "[" "]" ++
    dims (total - (texts ps .dimensions).length) ++ opt ps .initializer

end Parts

open Parts in
/-- **The text of a node**, given its children's. -/
def NodeKind.render (kind : NodeKind) (ps : Parts) : String :=
  match kind with
  | .compilationUnit => opt ps .package ++ list ps .imports "" ++ list ps .types ""
  | .packageDeclaration =>
    opt ps .javadoc ++ each ps .annotations "" " " ++ "package " ++ opt ps .name ++ ";\n"
  | .importDeclaration isStatic onDemand =>
    "import " ++ (if isStatic then "static " else "") ++ opt ps .name ++
      (if onDemand then ".*" else "") ++ ";\n"
  | .typeDeclaration isInterface =>
    opt ps .javadoc ++ modifiers ps ++ (if isInterface then "interface " else "class ") ++
      opt ps .name ++ typeParameters ps ++ " " ++
      whenUsed ps .superclassType ("extends " ++ opt ps .superclassType ++ " ") ++
      interfaces ps (if isInterface then "extends " else "implements ") ++
      whenUsed ps .permittedTypes ("permits " ++ list ps .permittedTypes ", " ++ " ") ++ body ps
  | .enumDeclaration =>
    opt ps .javadoc ++ modifiers ps ++ "enum " ++ opt ps .name ++ " " ++
      interfaces ps "implements " ++ "\x7b" ++ list ps .enumConstants ", " ++
      whenUsed ps .bodyDeclarations ("; " ++ list ps .bodyDeclarations "") ++ "\x7d\n"
  | .recordDeclaration =>
    opt ps .javadoc ++ modifiers ps ++ "record " ++ opt ps .name ++ typeParameters ps ++ "(" ++
      list ps .recordComponents "," ++ ") " ++ interfaces ps "implements " ++ body ps
  | .annotationTypeDeclaration =>
    opt ps .javadoc ++ modifiers ps ++ "@interface " ++ opt ps .name ++ " " ++ body ps
  | .annotationTypeMemberDeclaration =>
    opt ps .javadoc ++ modifiers ps ++ opt ps .type ++ " " ++ opt ps .name ++ "()" ++
      whenUsed ps .default (" default " ++ opt ps .default) ++ ";\n"
  | .enumConstantDeclaration =>
    opt ps .javadoc ++ modifiers ps ++ opt ps .name ++ whenUsed ps .arguments (arguments ps) ++
      opt ps .anonymousClassDeclaration
  | .fieldDeclaration =>
    opt ps .javadoc ++ modifiers ps ++ opt ps .type ++ " " ++ list ps .fragments ", " ++ ";\n"
  | .methodDeclaration isConstructor extraDimensions =>
    opt ps .javadoc ++ modifiers ps ++ whenUsed ps .typeParameters (typeParameters ps ++ " ") ++
      (if isConstructor then "" else optThen ps .returnType " ") ++ opt ps .name ++ "(" ++
      list ps .parameters "," ++ ")" ++ dims extraDimensions ++
      whenUsed ps .thrownExceptionTypes (" throws " ++ list ps .thrownExceptionTypes ", ") ++
      " " ++ (if has ps .body then opt ps .body else ";\n")
  | .initializer => opt ps .javadoc ++ modifiers ps ++ opt ps .body
  | .anonymousClassDeclaration => body ps
  | .singleVariableDeclaration varargs extraDimensions =>
    modifiers ps ++ opt ps .type ++ (if varargs then "..." else "") ++ " " ++ opt ps .name ++
      dims extraDimensions ++ assigned ps
  | .variableDeclarationFragment extraDimensions =>
    opt ps .name ++ dims extraDimensions ++ assigned ps
  | .typeParameter =>
    modifiers ps ++ opt ps .name ++ whenUsed ps .bounds (" extends " ++ list ps .bounds " & ")
  | .modifier keyword => keyword.text
  | .annotationMarker => "@" ++ opt ps .typeName
  | .annotationNormal => "@" ++ opt ps .typeName ++ "(" ++ list ps .values "," ++ ")"
  | .annotationSingleMember => "@" ++ opt ps .typeName ++ "(" ++ opt ps .value ++ ")"
  | .memberValuePair => opt ps .name ++ "=" ++ opt ps .value
  | .javadoc => "/** */ "
  | .block => "\x7b\n" ++ list ps .statements "" ++ "\x7d\n"
  | .emptyStatement => ";\n"
  | .expressionStatement => opt ps .expression ++ ";\n"
  | .variableDeclarationStatement =>
    modifiers ps ++ opt ps .type ++ " " ++ list ps .fragments ", " ++ ";\n"
  | .variableDeclarationExpression =>
    modifiers ps ++ opt ps .type ++ " " ++ list ps .fragments ", "
  | .typeDeclarationStatement => opt ps .declaration
  | .ifStatement =>
    "if (" ++ opt ps .expression ++ ") " ++ opt ps .thenStatement ++
      whenUsed ps .elseStatement (" else " ++ opt ps .elseStatement)
  | .whileStatement => "while (" ++ opt ps .expression ++ ") " ++ opt ps .body
  | .doStatement => "do " ++ opt ps .body ++ " while (" ++ opt ps .expression ++ ");\n"
  | .forStatement =>
    "for (" ++ list ps .initializers ", " ++ "; " ++ opt ps .expression ++ "; " ++
      list ps .updaters ", " ++ ") " ++ opt ps .body
  | .enhancedForStatement =>
    "for (" ++ opt ps .parameter ++ " : " ++ opt ps .expression ++ ") " ++ opt ps .body
  | .returnStatement =>
    "return" ++ whenUsed ps .expression (" " ++ opt ps .expression) ++ ";\n"
  | .throwStatement => "throw " ++ opt ps .expression ++ ";\n"
  | .breakStatement => "break" ++ whenUsed ps .label (" " ++ opt ps .label) ++ ";\n"
  | .continueStatement => "continue" ++ whenUsed ps .label (" " ++ opt ps .label) ++ ";\n"
  | .yieldStatement => "yield " ++ opt ps .expression ++ ";\n"
  | .labeledStatement => opt ps .label ++ ": " ++ opt ps .body
  | .switchStatement | .switchExpression =>
    "switch (" ++ opt ps .expression ++ ") \x7b\n" ++ list ps .statements "" ++ "\x7d\n"
  | .switchCase switchLabeledRule isDefault =>
    (if isDefault then "default" else "case " ++ list ps .expressions ", ") ++
      (if switchLabeledRule then " ->" else ":\n")
  | .synchronizedStatement => "synchronized (" ++ opt ps .expression ++ ") " ++ opt ps .body
  | .tryStatement =>
    "try " ++ whenUsed ps .resources ("(" ++ list ps .resources "; " ++ ") ") ++ opt ps .body ++
      list ps .catchClauses "" ++ whenUsed ps .finallyBlock (" finally " ++ opt ps .finallyBlock)
  | .catchClause => "catch (" ++ opt ps .exception ++ ") " ++ opt ps .body
  | .assertStatement =>
    "assert " ++ opt ps .expression ++ whenUsed ps .message (" : " ++ opt ps .message) ++ ";\n"
  | .constructorInvocation => typeArguments ps ++ "this" ++ arguments ps ++ ";\n"
  | .superConstructorInvocation =>
    optThen ps .expression "." ++ typeArguments ps ++ "super" ++ arguments ps ++ ";\n"
  | .simpleName identifier => identifier
  | .qualifiedName => opt ps .qualifier ++ "." ++ opt ps .name
  | .thisExpression => optThen ps .qualifier "." ++ "this"
  | .numberLiteral token => token
  | .stringLiteral escaped => escaped
  | .textBlock escaped => escaped
  | .characterLiteral escaped => escaped
  | .booleanLiteral value => if value then "true" else "false"
  | .nullLiteral => "null"
  | .typeLiteral => opt ps .type ++ ".class"
  | .fieldAccess => opt ps .expression ++ "." ++ opt ps .name
  | .superFieldAccess => optThen ps .qualifier "." ++ "super." ++ opt ps .name
  | .methodInvocation =>
    optThen ps .expression "." ++ typeArguments ps ++ opt ps .name ++ arguments ps
  | .superMethodInvocation =>
    optThen ps .qualifier "." ++ "super." ++ typeArguments ps ++ opt ps .name ++ arguments ps
  | .classInstanceCreation =>
    optThen ps .expression "." ++ "new " ++ typeArguments ps ++ opt ps .type ++ arguments ps ++
      opt ps .anonymousClassDeclaration
  | .arrayCreation => creation ps
  | .arrayInitializer => "\x7b" ++ list ps .expressions "," ++ "\x7d"
  | .arrayAccess => opt ps .array ++ "[" ++ opt ps .index ++ "]"
  | .infixExpression operator =>
    let symbol := (operator.map (·.symbol)).getD "?"
    opt ps .leftOperand ++ " " ++ symbol ++ " " ++ opt ps .rightOperand ++
      each ps .extendedOperands (" " ++ symbol ++ " ") ""
  | .prefixExpression operator => operator.symbol ++ opt ps .operand
  | .postfixExpression operator => opt ps .operand ++ operator.symbol
  | .parenthesizedExpression => "(" ++ opt ps .expression ++ ")"
  | .assignment operator => opt ps .leftHandSide ++ operator.symbol ++ opt ps .rightHandSide
  | .conditionalExpression =>
    opt ps .expression ++ " ? " ++ opt ps .thenExpression ++ " : " ++ opt ps .elseExpression
  | .castExpression => "(" ++ opt ps .type ++ ")" ++ opt ps .expression
  | .instanceofExpression => opt ps .leftOperand ++ " instanceof " ++ opt ps .type
  | .patternInstanceofExpression => opt ps .leftOperand ++ " instanceof " ++ opt ps .pattern
  | .typePattern => opt ps .parameter
  | .lambdaExpression parentheses =>
    (if parentheses then "(" else "") ++ list ps .parameters "," ++
      (if parentheses then ")" else "") ++ " -> " ++ opt ps .body
  | .creationReference => opt ps .type ++ "::" ++ typeArguments ps ++ "new"
  | .expressionMethodReference | .typeMethodReference =>
    (if has ps .expression then opt ps .expression else opt ps .type) ++ "::" ++
      typeArguments ps ++ opt ps .name
  | .superMethodReference =>
    optThen ps .qualifier "." ++ "super::" ++ typeArguments ps ++ opt ps .name
  | .primitiveType code => code.keyword
  | .simpleType => opt ps .name
  | .qualifiedType => opt ps .qualifier ++ "." ++ opt ps .name
  | .arrayType => opt ps .elementType ++ list ps .dimensions ""
  | .dimension => each ps .annotations " " " " ++ "[]"
  | .parameterizedType => opt ps .type ++ "<" ++ list ps .typeArguments "," ++ ">"
  | .wildcardType upperBound =>
    "?" ++ whenUsed ps .bound ((if upperBound then " extends " else " super ") ++ opt ps .bound)
  | .unionType => list ps .types "|"
  | .intersectionType => list ps .types " & "

namespace Tree

/-- A tree with its text and the texts of its children. -/
def rendered (t : Tree) : Rendered :=
  let parts := t.children.attach.map (fun c => (c.1.1, rendered c.1.2))
  ⟨t.kind.render parts, parts.map (fun p => (p.1, p.2.text))⟩
termination_by sizeOf t
decreasing_by exact sizeOf_lt_of_mem c.2

/-- The canonical text of a tree. -/
def render (t : Tree) : String :=
  t.rendered.text

end Tree

/-- The canonical text of the subtree at a node. -/
def Arena.render (a : Arena) (id : NodeId) : String :=
  (a.tree id).render

end Unified

end TreeBridge

import TreeBridge.Lowering.Switch
/-!
# Expressions

The lowering of expressions.
-/

namespace TreeBridge

namespace Lowering

open Foreign (Tag TypeTag)
open Concrete (Node Kind Field)
open Concrete.Node (Part Parts)

section

variable (s : Source) {n : Node} (below : Below n)

/-- Whether a text ends in one of two characters. -/
def endsIn (text : String) (lower upper : Char) : Bool :=
  text.toList.getLast? == some lower || text.toList.getLast? == some upper

/-- Reads a literal. -/
def literal (n : Node) (type : TypeTag) : Build Foreign.Tree :=
  spanning n (.literal type (n.text s))

/-- Reads a binary expression. -/
def binary : Build Foreign.Tree :=
  match n.parts.field? .operator with
  | none => malformed below
  | some operator =>
    match Tag.binary? operator.kind.text with
    | none => malformed below
    | some op => do
      let left ← requiredExpression below .left
      let right ← requiredExpression below .right
      makeOver n operator.start (.binary op left right)

/-- The tag of a sign before an operand. -/
def unaryTag? (text : String) : Option Tag :=
  match text with
  | "+" => some .unaryPlus
  | "-" => some .unaryMinus
  | "!" => some .logicalNot
  | "~" => some .complement
  | _ => none

/-- Reads a sign before an operand. -/
def unary : Build Foreign.Tree :=
  match (n.parts.field? .operator).bind (fun p => unaryTag? p.kind.text) with
  | none => malformed below
  | some op => do
    let operand ← requiredExpression below .operand
    spanning n (.unary op operand)

/-- The tag and the position of an increment or decrement. -/
def updateForm? (n : Node) : Option (Tag × Int) :=
  let first := n.children.head?.map Node.kind
  let last := n.children.getLast?.map Node.kind
  if first = some (.token "++") then some (.preIncrement, n.start)
  else if first = some (.token "--") then some (.preDecrement, n.start)
  else if last = some (.token "++") then some (.postIncrement, (n.stop : Int) - 2)
  else if last = some (.token "--") then some (.postDecrement, (n.stop : Int) - 2)
  else none

/-- Reads an increment or decrement. -/
def update : Build Foreign.Tree :=
  match updateForm? n with
  | none => malformed below
  | some (op, position) => do
    let operand ← firstExpression below n.parts n.stop
    makeOver n position (.unary op operand)

/-- The shape of an assignment. -/
def assignmentShape? (symbol : String) (left right : Foreign.Tree) :
    Option (Foreign.Shape Foreign.Tree) :=
  if symbol = "=" then some (.assign left right)
  else (Tag.assignment? symbol).map (fun op => .assignOp op left right)

/-- Reads an assignment. Its sides are made before an unknown operator is
noticed. -/
def assignment : Build Foreign.Tree :=
  match n.parts.field? .operator with
  | none => malformed below
  | some operator => do
    let left ← requiredExpression below .left
    let right ← requiredExpression below .right
    match assignmentShape? operator.kind.text left right with
    | some shape => makeOver n operator.start shape
    | none => malformed below

/-- Reads a conditional expression. -/
def conditional : Build Foreign.Tree := do
  let condition ← requiredExpression below .condition
  let whenTrue ← requiredExpression below .consequence
  let whenFalse ← requiredExpression below .alternative
  makeOver n (tokenOr n.parts "?" n.start) (.conditional condition whenTrue whenFalse)

/-- Reads the type of a cast; several types are an intersection. -/
def castType : Build Foreign.Tree :=
  match n.parts.inField .type with
  | [] => placeholder n.start
  | [single] => (below single).type
  | first :: rest => do
    let bounds ← each below (first :: rest) (·.type)
    make first.start first.start (stopOr rest.getLast? first.stop) (.typeIntersection bounds)

/-- Reads a cast. -/
def cast : Build Foreign.Tree := do
  let type ← castType below
  let expression ← requiredExpression below .value
  spanning n (.typeCast type expression)

/-- Reads what the right side of a type test asks for: a record pattern,
a pattern of a type and a name, or a type. -/
def testedPattern : Build Foreign.Tree :=
  match n.parts.field? .pattern, n.parts.field? .name with
  | some record, _ => (below record).pattern
  | none, some name => do
    let type := n.parts.field? .right
    let binder ← bindingVariable s below n type (some name)
    let start := startOr type name.start
    make start start name.stop (.bindingPattern binder)
  | none, none => orPlaceholder below (n.parts.field? .right) n.stop (·.type)

/-- Reads a type test. -/
def typeTest : Build Foreign.Tree := do
  let expression ← requiredExpression below .left
  let pattern ← testedPattern s below
  makeOver n (tokenOr n.parts "instanceof" n.start) (.typeTest expression pattern)

/-! ## Lambdas -/

/-- Reads a parameter without a type. -/
def implicitParameter (p : Part n) : Build Foreign.Tree :=
  spanning p.1 (.varDef .empty (p.text s) none 0 none)

/-- Reads the parameters of a lambda. -/
def lambdaParameters (list : Option (Part n)) : Build (List Foreign.Tree) :=
  match list with
  | none => pure []
  | some p =>
    match p.kind with
    | .identifier => do pure [← implicitParameter s p]
    | .formalParameters => formalParameters s below (some p)
    | _ => p.parts.named.mapM (implicitParameter s)

/-- Reads the body of a lambda: a block or an expression. -/
def lambdaBody : Build Foreign.Tree :=
  match n.parts.field? .body with
  | none => placeholder n.stop
  | some p => if p.kind = .block then blockAt below p else (below p).expression

/-- Reads a lambda. -/
def lambda : Build Foreign.Tree := do
  let list := n.parts.field? .parameters
  let parameters ← lambdaParameters s below list
  let body ← lambdaBody below
  makeOver n (tokenOr n.parts "->" n.start)
    (.lambda parameters body (!list.any (fun p => p.kind == .identifier)))

/-! ## Members of objects -/

/-- Reads the receiver of a field access or a call, with the word `super`
that may stand between it and the member. -/
def receiver (object : Part n) : Build Foreign.Tree := do
  let selected ← (below object).expression
  match n.parts.named.find? (fun p => p.kind == .superKeyword &&
      decide (object.start < p.start)) with
  | some word => make object.start (dotBefore n.parts word) word.stop (.select selected "super")
  | none => pure selected

/-- Reads a field access. -/
def fieldAccess : Build Foreign.Tree :=
  match n.parts.field? .object, n.parts.field? .field with
  | some object, some field => do
    let selected ← receiver below object
    makeOver n (dotBefore n.parts field) (.select selected (field.text s))
  | _, _ => malformed below

/-- Reads the method that a call names. -/
def calledMethod (name : Part n) : Build Foreign.Tree :=
  match n.parts.field? .object with
  | none => identifier s name.1
  | some object => do
    let selected ← receiver below object
    make object.start (dotBefore n.parts name) name.stop (.select selected (name.text s))

/-- Reads the type arguments of a node. -/
def ownTypeArguments : Build (List Foreign.Tree) :=
  eachOf below (n.parts.field? .typeArguments) (·.type)

/-- Reads a call. -/
def call : Build Foreign.Tree :=
  match n.parts.field? .name with
  | none => malformed below
  | some name => do
    let method ← calledMethod s below name
    let typeArguments ← ownTypeArguments below
    let list := n.parts.field? .arguments
    let arguments ← arguments below list
    makeOver n (startOr list name.stop) (.call typeArguments method arguments)

/-- Reads the instances that enclose a new one: the named parts before
the word `new`. Only the last is kept. -/
def enclosing (found : Option Foreign.Tree) : Parts n → Build (Option Foreign.Tree)
  | [] => pure found
  | p :: rest =>
    if p.kind = .token "new" then pure found
    else if p.isCode then do
      let t ← (below p).expression
      enclosing (some t) rest
    else enclosing found rest

/-- Reads the creation of an instance. -/
def newClass : Build Foreign.Tree := do
  let outer ← enclosing below none n.parts
  let typeArguments ← ownTypeArguments below
  let type ← orPlaceholder below (n.parts.field? .type) n.stop (·.type)
  let arguments ← arguments below (n.parts.field? .arguments)
  let body ← optionalClass below (n.parts.ofKind? .classBody)
  makeOver n (tokenOr n.parts "new" n.start) (.newClass outer typeArguments type arguments body)

/-! ## Arrays -/

/-- Reads an initializer in braces. -/
def arrayInitializer : Build Foreign.Tree := do
  let elements ← each below n.parts.named (·.initial)
  spanning n (.newArray none [] 0 (some elements))

/-- Reads the sizes between the brackets of an array creation. -/
def arraySizes (ps : Parts n) : Build (List Foreign.Tree) :=
  (ps.filter (fun p => p.kind == .dimensionsExpr)).mapM
    (fun p => firstExpression below p.parts p.stop)

/-- The number of empty brackets of an array creation. -/
def emptyBrackets (ps : Parts n) : Nat :=
  (ps.filter (fun p => p.kind == .dimensions)).foldl (fun total p => total + p.parts.dimensions) 0

/-- Reads the elements of an array creation. -/
def arrayElements : Build (Option (List Foreign.Tree)) :=
  match n.parts.field? .value with
  | none => pure none
  | some list => do pure (some (← each below list.parts.named (·.initial)))

/-- Reads the creation of an array. -/
def newArray : Build Foreign.Tree := do
  let elementType ← optional below (n.parts.field? .type) (·.type)
  let brackets := n.parts.inField .dimensions
  let sizes ← arraySizes below brackets
  let elements ← arrayElements below
  spanning n (.newArray elementType sizes (emptyBrackets brackets) elements)

/-! ## References -/

/-- Reads a class literal. -/
def classLiteral : Build Foreign.Tree := do
  let selected ← orPlaceholder below n.parts.named.head? n.start (·.type)
  let dot :=
    match n.parts.tokenBefore? "." n.stop with
    | some dot => dot
    | none => n.start
  makeOver n dot (.select selected "class")

/-- Reads the left side of a method reference, a type or an
expression. -/
def referenceTarget : Build Foreign.Tree :=
  match n.parts.named.head? with
  | some p => if p.kind.isType then (below p).type else (below p).expression
  | none => placeholder n.start

/-- The name on the right side of a method reference. -/
def referenceName (n : Node) : String :=
  textOf s ((n.parts.named.drop 1).reverse.find? (fun p => p.kind == .identifier))

/-- Reads a method reference. -/
def methodReference : Build Foreign.Tree := do
  let expression ← referenceTarget below
  let typeArguments ← eachOf below (n.parts.ofKind? .typeArguments) (·.type)
  let position := tokenOr n.parts "::" n.start
  if n.parts.hasToken "new" then
    makeOver n position (.reference .create "<init>" expression typeArguments)
  else
    makeOver n position (.reference .invoke (referenceName s n) expression typeArguments)

/-- Reads a switch as an expression. -/
def switchExpression : Build Foreign.Tree := do
  let selector ← requiredExpression below .condition
  let read ← cases below true
  spanning n (.switchExpression selector read)

/-- Reads an element of an array by its index. -/
def arrayAccess : Build Foreign.Tree := do
  let array ← requiredExpression below .array
  let index ← requiredExpression below .index
  spanning n (.indexed array index)

/-- Reads a parenthesized expression. -/
def parenthesized : Build Foreign.Tree := do
  let expression ← firstExpression below n.parts n.stop
  spanning n (.parens expression)

/-- **Reads a node as an expression.** -/
def expression : Build Foreign.Tree :=
  match n.kind with
  | .identifier | .typeIdentifier | .thisKeyword | .superKeyword => identifier s n
  | .decimalIntegerLiteral | .hexIntegerLiteral | .octalIntegerLiteral
  | .binaryIntegerLiteral =>
    literal s n (if endsIn (n.text s) 'l' 'L' then .long else .int)
  | .decimalFloatingPointLiteral | .hexFloatingPointLiteral =>
    literal s n (if endsIn (n.text s) 'f' 'F' then .float else .double)
  | .trueLiteral | .falseLiteral => literal s n .boolean
  | .characterLiteral => literal s n .char
  | .stringLiteral | .textBlock => literal s n .reference
  | .nullLiteral => literal s n .nullReference
  | .parenthesizedExpression => parenthesized below
  | .binaryExpression => binary below
  | .unaryExpression => unary below
  | .updateExpression => update below
  | .assignmentExpression => assignment below
  | .ternaryExpression => conditional below
  | .castExpression => cast below
  | .instanceofExpression => typeTest s below
  | .lambdaExpression => lambda s below
  | .methodInvocation => call s below
  | .objectCreationExpression => newClass below
  | .fieldAccess => fieldAccess s below
  | .arrayAccess => arrayAccess below
  | .arrayCreationExpression => newArray below
  | .arrayInitializer => arrayInitializer below
  | .classLiteral => classLiteral below
  | .methodReference => methodReference s below
  | .switchExpression => switchExpression below
  | .annotationMarker | .annotationUse => annotated below
  | .elementValueArrayInitializer => elementArray below
  | .scopedIdentifier => scopedName s below
  | .templateExpression =>
    unsupported below "compiler.err.illegal.start.of.expr" "string templates are not supported"
  | kind => if kind.isType then type s below else malformed below

/-- Reads a node as a dotted name. -/
def name : Build Foreign.Tree :=
  match n.kind with
  | .identifier | .typeIdentifier => identifier s n
  | .scopedIdentifier => scopedName s below
  | _ => expression s below

/-- Reads a node as a value of an annotation element. -/
def element : Build Foreign.Tree :=
  match n.kind with
  | .elementValueArrayInitializer => elementArray below
  | .annotationMarker | .annotationUse => annotated below
  | _ => expression s below

/-- Reads a node as an initial value. -/
def initial : Build Foreign.Tree :=
  match n.kind with
  | .arrayInitializer => arrayInitializer below
  | _ => expression s below

/-- Reads a node as a pattern. -/
def pattern : Build Foreign.Tree :=
  match n.kind with
  | .pattern =>
    match n.parts.named.head? with
    | some inner => (below inner).pattern
    | none => malformed below
  | .typePattern => typePattern s below
  | .recordPattern => recordPattern s below
  | .underscorePattern => spanning n .anyPattern
  | _ => expression s below

end

end Lowering

end TreeBridge

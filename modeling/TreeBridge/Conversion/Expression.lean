import TreeBridge.Conversion.Member
/-!
# Expressions

The conversion of expressions, of uses of annotations and of switch
bodies. A chain of one operator nested to the left is one infix
expression.
-/

namespace TreeBridge

namespace Conversion

open Foreign (Tree Tag)
open Foreign.Tree (Part Parts)
open Unified (NodeId NodeKind Slot)

/-- The infix operator that a tag names. -/
def infixOperator? : Tag → Option Unified.InfixOperator
  | .logicalOr => some .conditionalOr
  | .logicalAnd => some .conditionalAnd
  | .bitOr => some .or
  | .bitXor => some .xor
  | .bitAnd => some .and
  | .equal => some .equals
  | .notEqual => some .notEquals
  | .less => some .less
  | .greater => some .greater
  | .lessEqual => some .lessEquals
  | .greaterEqual => some .greaterEquals
  | .shiftLeft => some .leftShift
  | .shiftRight => some .rightShiftSigned
  | .shiftRightUnsigned => some .rightShiftUnsigned
  | .add => some .plus
  | .subtract => some .minus
  | .multiply => some .times
  | .divide => some .divide
  | .remainder => some .remainder
  | _ => none

/-- The kind of a unary expression that a tag names. -/
def unaryKind? : Tag → Option NodeKind
  | .unaryPlus => some (.prefixExpression .plus)
  | .unaryMinus => some (.prefixExpression .minus)
  | .logicalNot => some (.prefixExpression .not)
  | .complement => some (.prefixExpression .complement)
  | .preIncrement => some (.prefixExpression .increment)
  | .preDecrement => some (.prefixExpression .decrement)
  | .postIncrement => some (.postfixExpression .increment)
  | .postDecrement => some (.postfixExpression .decrement)
  | _ => none

/-- The assignment operator that a tag names. -/
def assignmentOperator? : Tag → Option Unified.AssignmentOperator
  | .assignAdd => some .plusAssign
  | .assignSubtract => some .minusAssign
  | .assignMultiply => some .timesAssign
  | .assignDivide => some .divideAssign
  | .assignRemainder => some .remainderAssign
  | .assignBitAnd => some .bitAndAssign
  | .assignBitOr => some .bitOrAssign
  | .assignBitXor => some .bitXorAssign
  | .assignShiftLeft => some .leftShiftAssign
  | .assignShiftRight => some .rightShiftSignedAssign
  | .assignShiftRightUnsigned => some .rightShiftUnsignedAssign
  | _ => none

/-- Whether a tree can only be a type. -/
def isTypeTree (t : Tree) : Bool :=
  match t.tag with
  | .typeIdent | .typeArray | .typeApply | .annotatedType | .typeUnion | .typeIntersection
  | .wildcard => true
  | _ => false

section

variable {t : Tree} (below : Below t)

/-- Stops at an operator that has no counterpart. -/
def unsupportedOperator {α : Type} (t : Tree) (operator : Tag) : Convert α :=
  throw ⟨.tree operator, t.start⟩

/-- The part inside syntactic parentheses. -/
def unparenthesized (p : Part t) : Part t :=
  match p.parts with
  | .parens inner => inner
  | _ => p

/-- Converts a condition, without its parentheses. -/
def condition (p : Part t) : Convert NodeId :=
  (below (unparenthesized p)).expression

/-! ## Uses of annotations -/

/-- Whether a part is a pair of an element and its value. -/
def isPair (p : Part t) : Bool :=
  p.tag == .assign

/-- The only argument of a use of an annotation, if it is no pair. -/
def bareValue? (arguments : Parts t) : Option (Part t) :=
  match arguments with
  | [only] => if isPair only then none else some only
  | _ => none

/-- Converts a pair of an element and its value under a use of an
annotation. A value without an element is dropped. -/
def addPair (owner : NodeId) (p : Part t) : Convert Unit :=
  match p.parts with
  | .assign left right => do
    let name ← (below left).name
    let value ← (below right).expression
    let pair ← alloc p.1 .memberValuePair
    addChild pair .name name
    addChild pair .value value
    addChild owner .values pair
  | _ => pure ()

/-- Converts a use of an annotation with the name made: with one bare
value, without an argument list, or with pairs. -/
def annotatedWith (type : Part t) (arguments : Parts t) (name : NodeId) : Convert NodeId := do
  match bareValue? arguments with
  | some value =>
    let value ← (below value).expression
    let id ← alloc t .annotationSingleMember
    addChild id .typeName name
    addChild id .value value
    pure id
  | none =>
    let list ← findToken? "(" type.1.stop t.stop
    if arguments.isEmpty && list.isNone then
      let id ← alloc t .annotationMarker
      addChild id .typeName name
      pure id
    else
      let id ← alloc t .annotationNormal
      addChild id .typeName name
      arguments.forM (addPair below id)
      pure id

/-- Converts a use of an annotation. -/
def annotated : Convert NodeId :=
  match t.parts with
  | .annotationUse type arguments => do
    let name ← (below type).name
    annotatedWith below type arguments name
  | _ => unsupported t

/-! ## Switches -/

/-- Converts the label of a case: a pattern of a type and a name, or an
expression. -/
def caseLabel (p : Part t) : Convert NodeId :=
  match p.parts with
  | .bindingPattern binder => do
    let id ← alloc p.1 .typePattern
    addPart id .parameter (parameter below binder 0)
    pure id
  | .recordPattern .. | .anyPattern => unsupported p.1
  | _ => (below p).expression

/-- Where the labels of a case end. -/
def labelsEnd (p : Part t) (labels : Parts t) : Int :=
  max ((labels.map (fun l => l.1.stop)).max?.getD p.1.start) p.1.start

/-- The end of a case: that of the arrow or colon after its labels. -/
def caseEnd (p : Part t) (labels : Parts t) (rule : Bool) : Convert Int := do
  let start := labelsEnd p labels
  let token ← findToken? (if rule then "->" else ":") start (max p.1.stop (wrap32 (start + 1)))
  pure (match token with
    | some token => token.stop
    | none => p.1.stop)

/-- Converts a case under a switch: a node for its labels, followed by
its statements. -/
def addCase (owner : NodeId) (p : Part t) : Convert Unit :=
  match p.parts with
  | .switchCase labels isDefault rule statements => do
    let stop ← caseEnd p labels rule
    let id ← allocAt p.1 (.switchCase rule isDefault) (.ofBounds p.1.start stop)
    addEach id .expressions labels (caseLabel below)
    addChild owner .statements id
    addStatements below owner statements
  | _ => unsupported p.1

/-- Converts the cases of a switch. -/
def addCases (owner : NodeId) (cases : Parts t) : Convert Unit :=
  cases.forM (addCase below owner)

/-! ## Operators -/

/-- The operands of a part of a chain of one operator, from the left. -/
def leftOperands (operator : Tag) (p : Part t) : Parts t :=
  match p.1.parts with
  | .binary o left right =>
    if o = operator then leftOperands operator (p.within left) ++ [p.within right] else [p]
  | _ => [p]
termination_by sizeOf p.1
decreasing_by exact left.2

/-- The slot of an operand by its index. -/
def operandSlot : Nat → Slot
  | 0 => .leftOperand
  | 1 => .rightOperand
  | _ => .extendedOperands

/-- Converts the operands of an infix expression. -/
def addOperands (owner : NodeId) (operands : Parts t) : Convert Unit :=
  operands.zipIdx.forM (fun p => addPart owner (operandSlot p.2) (below p.1).expression)

/-- Converts an assignment. -/
def assignment (operator : Unified.AssignmentOperator) (left right : Part t) :
    Convert NodeId := do
  let left ← (below left).expression
  let right ← (below right).expression
  let id ← alloc t (.assignment operator)
  addChild id .leftHandSide left
  addChild id .rightHandSide right
  pure id

/-- Converts a type test: against a pattern of a type and a name, or
against a type. -/
def typeTest (expression pattern : Part t) : Convert NodeId :=
  match pattern.parts with
  | .bindingPattern binder => do
    let left ← (below expression).expression
    let typePattern ← alloc pattern.1 .typePattern
    addPart typePattern .parameter (parameter below binder 0)
    let id ← alloc t .patternInstanceofExpression
    addChild id .leftOperand left
    addChild id .pattern typePattern
    pure id
  | .anyPattern | .recordPattern .. => unsupported pattern.1
  | _ => do
    let left ← (below expression).expression
    let type ← (below pattern).type
    let id ← alloc t .instanceofExpression
    addChild id .leftOperand left
    addChild id .type type
    pure id

/-! ## Members of objects -/

/-- The word `super` with the type before it, if a part is that. -/
def outerOfSuper? (p : Part t) : Option (Part t) :=
  match p.parts with
  | .select outer _ => some outer
  | _ => none

/-- Converts the type before the word `super` under a node. -/
def addOuter (owner : NodeId) (p : Part t) : Convert Unit :=
  addOptional owner .qualifier (outerOfSuper? p) (fun outer => (below outer).name)

/-- Converts a selection. -/
def selection (selected : Part t) (identifier : String) : Convert NodeId := do
  if identifier = "class" then
    let type ← (below selected).type
    let id ← alloc t .typeLiteral
    addChild id .type type
    pure id
  else if identifier = "this" then
    let qualifier ← (below selected).name
    let id ← alloc t .thisExpression
    addChild id .qualifier qualifier
    pure id
  else if isSuper selected.1 then
    let id ← alloc t .superFieldAccess
    addOuter below id selected
    addPart id .name (nameEndingAt identifier t.stop)
    pure id
  else if isNameChain t then name below
  else
    let receiver ← (below selected).expression
    let id ← alloc t .fieldAccess
    addChild id .expression receiver
    addPart id .name (nameEndingAt identifier t.stop)
    pure id

/-- Converts a call. -/
def call (typeArguments : Parts t) (method : Part t) (arguments : Parts t) : Convert NodeId :=
  match method.parts with
  | .select selected identifier => do
    if isSuper selected.1 then
      let id ← alloc t .superMethodInvocation
      addOuter below id selected
      addTypeArguments below id typeArguments
      addPart id .name (nameEndingAt identifier method.1.stop)
      addArguments below id arguments
      pure id
    else
      let receiver ← (below selected).expression
      let id ← alloc t .methodInvocation
      addChild id .expression receiver
      addTypeArguments below id typeArguments
      addPart id .name (nameEndingAt identifier method.1.stop)
      addArguments below id arguments
      pure id
  | .ident identifier => do
    let id ← alloc t .methodInvocation
    addTypeArguments below id typeArguments
    addPart id .name (simpleName identifier (spanOf method.1))
    addArguments below id arguments
    pure id
  | _ => unsupported method.1

/-- Makes the node of a reference to a method, by what stands before
it. -/
def referenceNode (expression : Part t) : Convert NodeId := do
  if isSuper expression.1 then
    let id ← alloc t .superMethodReference
    addOuter below id expression
    pure id
  else if isTypeTree expression.1 then
    let type ← (below expression).type
    let id ← alloc t .typeMethodReference
    addChild id .type type
    pure id
  else
    let receiver ← (below expression).expression
    let id ← alloc t .expressionMethodReference
    addChild id .expression receiver
    pure id

/-- Converts a method reference. -/
def reference (mode : Foreign.ReferenceMode) (identifier : String) (expression : Part t)
    (typeArguments : Parts t) : Convert NodeId :=
  match mode with
  | .create => do
    let type ← (below expression).type
    let id ← alloc t .creationReference
    addChild id .type type
    addTypeArguments below id typeArguments
    pure id
  | .invoke => do
    let id ← referenceNode below expression
    addTypeArguments below id typeArguments
    addPart id .name (nameEndingAt identifier t.stop)
    pure id

/-- Converts the creation of an instance. -/
def newClass (enclosing : Option (Part t)) (typeArguments : Parts t) (type : Part t)
    (arguments : Parts t) (body : Option (Part t)) : Convert NodeId := do
  let id ← alloc t .classInstanceCreation
  addOptional id .expression enclosing (fun p => (below p).expression)
  addTypeArguments below id typeArguments
  addPart id .type (below type).type
  addArguments below id arguments
  addOptional id .anonymousClassDeclaration body (anonymousClass below)
  pure id

/-- Converts the body of a lambda: a block or an expression. -/
def lambdaBody (p : Part t) : Convert NodeId :=
  match p.parts with
  | .block .. => blockAt below p
  | _ => (below p).expression

/-- Converts a lambda. -/
def lambda (parameters : Parts t) (body : Part t) (parenthesized : Bool) : Convert NodeId := do
  let id ← alloc t (.lambdaExpression parenthesized)
  addEach id .parameters parameters (lambdaParameter below)
  addPart id .body (lambdaBody below body)
  pure id

/-! ## Arrays -/

/-- What reading the tokens of an array creation has found: how many
brackets and parentheses are open, where the last outermost one opened,
the spans of the outermost brackets, and the outermost brace. -/
structure BracketRead where
  depth : Nat
  opened : Int
  brackets : List Span
  brace : Option Int

/-- Reads one token of an array creation. After the brace nothing is
read. -/
def readBracket (read : BracketRead) (token : Lexical.Token) : BracketRead :=
  if read.brace.isSome then read
  else
    match token.kind with
    | .leftBracket | .leftParen =>
      { read with
        opened := if read.depth = 0 then token.start else read.opened
        depth := read.depth + 1 }
    | .rightBracket =>
      if read.depth - 1 = 0 then
        { read with
          depth := 0
          brackets := read.brackets ++ [.ofBounds read.opened token.stop] }
      else { read with depth := read.depth - 1 }
    | .rightParen => { read with depth := read.depth - 1 }
    | .leftBrace => if read.depth = 0 then { read with brace := some token.start } else read
    | _ => read

/-- Converts the elements of an array in braces. -/
def addElements (owner : NodeId) (elements : Parts t) : Convert Unit :=
  addEach owner .expressions elements (fun p => (below p).expression)

/-- Converts the elements of an array creation under it. -/
def addInitializer (owner : NodeId) (brace : Option Int) (elements : Option (Parts t)) :
    Convert Unit :=
  match elements with
  | none => pure ()
  | some elements => do
    let id ← synthetic .arrayInitializer (.ofBounds (brace.getD (-1)) t.stop)
    addElements below id elements
    addChild owner .initializer id

/-- Converts the creation of an array. The type has a dimension for every
outermost pair of brackets, but not more than the tree has. -/
def arrayCreation (elementType : Part t) (dims : Parts t) (extraDims : Nat)
    (elements : Option (Parts t)) : Convert NodeId := do
  let tokens ← tokensBetween elementType.1.stop t.stop
  let read := tokens.foldl readBracket ⟨0, -1, [], none⟩
  let type ← arrayTypeWith below elementType (read.brackets.take (dims.length + extraDims))
  let id ← alloc t .arrayCreation
  addChild id .type type
  addEach id .dimensions dims (fun p => (below p).expression)
  addInitializer below id read.brace elements
  pure id

/-- Converts an array in braces without a type. -/
def arrayInitializer (elements : Parts t) : Convert NodeId := do
  let id ← alloc t .arrayInitializer
  addElements below id elements
  pure id

/-! ## All expressions -/

/-- The expression that malformed source leaves: the only one, also as a
statement. -/
def salvagedExpression? (salvaged : Parts t) : Option (Part t) :=
  match salvaged with
  | [only] =>
    match only.parts with
    | .execute expression => some expression
    | _ => if only.1.isExpression then some only else none
  | _ => none

/-- Converts a malformed expression. -/
def malformedExpression (salvaged : Parts t) : Convert NodeId :=
  match salvagedExpression? salvaged with
  | some p => do
    let id ← (below p).expression
    markRecovered id
    pure id
  | none => placeholder t .parenthesizedExpression

/-- Converts a conditional expression. -/
def conditional (test whenTrue whenFalse : Part t) : Convert NodeId := do
  let test ← (below test).expression
  let whenTrue ← (below whenTrue).expression
  let whenFalse ← (below whenFalse).expression
  let id ← alloc t .conditionalExpression
  addChild id .expression test
  addChild id .thenExpression whenTrue
  addChild id .elseExpression whenFalse
  pure id

/-- Converts a unary expression. The operand is made before an unknown
operator is noticed. -/
def unary (operator : Tag) (operand : Part t) : Convert NodeId := do
  let operand ← (below operand).expression
  match unaryKind? operator with
  | none => unsupportedOperator t operator
  | some kind =>
    let id ← alloc t kind
    addChild id .operand operand
    pure id

/-- **Converts a tree to an expression.** -/
def expression : Convert NodeId :=
  match t.parts with
  | .ident identifier => if identifier = "this" then alloc t .thisExpression else name below
  | .literal type value => alloc t (literalKind type value)
  | .parens inner => do
    let inner ← (below inner).expression
    let id ← alloc t .parenthesizedExpression
    addChild id .expression inner
    pure id
  | .select selected identifier => selection below selected identifier
  | .call typeArguments method arguments => call below typeArguments method arguments
  | .newClass enclosing typeArguments type arguments body =>
    newClass below enclosing typeArguments type arguments body
  | .newArray none _ _ elements => arrayInitializer below (elements.getD [])
  | .newArray (some elementType) dims extraDims elements =>
    arrayCreation below elementType dims extraDims elements
  | .lambda parameters body parenthesized => lambda below parameters body parenthesized
  | .assign left right => assignment below .assign left right
  | .assignOp operator left right =>
    match assignmentOperator? operator with
    | some operator => assignment below operator left right
    | none => unsupportedOperator t operator
  | .unary operator operand => unary below operator operand
  | .binary operator left right => do
    let id ← alloc t (.infixExpression (infixOperator? operator))
    addOperands below id (leftOperands operator left ++ [right])
    pure id
  | .conditional test whenTrue whenFalse => conditional below test whenTrue whenFalse
  | .typeCast type operand => do
    let type ← (below type).type
    let operand ← (below operand).expression
    let id ← alloc t .castExpression
    addChild id .type type
    addChild id .expression operand
    pure id
  | .typeTest operand pattern => typeTest below operand pattern
  | .indexed array index => do
    let array ← (below array).expression
    let index ← (below index).expression
    let id ← alloc t .arrayAccess
    addChild id .array array
    addChild id .index index
    pure id
  | .reference mode identifier operand typeArguments =>
    reference below mode identifier operand typeArguments
  | .switchExpression selector cases => do
    let id ← alloc t .switchExpression
    addPart id .expression (condition below selector)
    addCases below id cases
    pure id
  | .annotationUse type arguments => do
    let name ← (below type).name
    annotatedWith below type arguments name
  | .erroneous salvaged => malformedExpression below salvaged
  | .typeIdent _ | .typeArray _ | .typeApply .. | .annotatedType .. =>
    placeholder t .parenthesizedExpression
  | _ => unsupported t

end

end Conversion

end TreeBridge

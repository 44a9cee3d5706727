import TreeBridge.Conversion.Expression
/-!
# Statements

The conversion of statements.
-/

namespace TreeBridge

namespace Conversion

open Foreign (Tree)
open Foreign.Tree (Part Parts)
open Unified (NodeId NodeKind)

section

variable {t : Tree} (below : Below t)

/-- Converts a conditional statement. -/
def branch (test thenPart : Part t) (elsePart : Option (Part t)) : Convert NodeId := do
  let id ← alloc t .ifStatement
  addPart id .expression (condition below test)
  addPart id .thenStatement (below thenPart).statement
  addOptional id .elseStatement elsePart (fun p => (below p).statement)
  pure id

/-- Converts the head of a loop: variables, or an expression that may
stand as a statement. -/
def executed (p : Part t) : Convert NodeId :=
  match p.parts with
  | .execute expression => (below expression).expression
  | _ => (below p).expression

/-- Converts variables or an expression in the head of a loop. -/
def loopStart : Group t → Convert NodeId
  | .together first more => declarationExpression below first more
  | .single p => executed below p

/-- Converts a loop with a head. -/
def forLoop (initial : Parts t) (test : Option (Part t)) (step : Parts t) (body : Part t) :
    Convert NodeId := do
  let id ← alloc t .forStatement
  addEach id .initializers (groups initial) (loopStart below)
  addOptional id .expression test (fun p => (below p).expression)
  addEach id .updaters step (executed below)
  addPart id .body (below body).statement
  pure id

/-- Converts a loop over elements. -/
def foreachLoop (binder expression body : Part t) : Convert NodeId := do
  let id ← alloc t .enhancedForStatement
  addPart id .parameter (parameter below binder 0)
  addPart id .expression (below expression).expression
  addPart id .body (below body).statement
  pure id

/-- Converts a jump to a label. -/
def jump (t : Tree) (kind : NodeKind) (label : Option String) : Convert NodeId := do
  let id ← alloc t kind
  addOptional id .label label (fun label => simpleName label .unset)
  pure id

/-- Converts a statement of one expression. -/
def ofExpression (kind : NodeKind) (expression : Option (Part t)) : Convert NodeId := do
  let id ← alloc t kind
  addOptional id .expression expression (fun p => (below p).expression)
  pure id

/-- Converts a resource: a variable or an expression. -/
def resource (p : Part t) : Convert NodeId :=
  match declared? p with
  | some v => declarationExpression below v []
  | none => (below p).expression

/-- Converts a catch clause. -/
def catchClause (p : Part t) : Convert NodeId :=
  match p.parts with
  | .catcher param body => do
    let id ← alloc p.1 .catchClause
    addPart id .exception (parameter below param 0)
    addPart id .body (blockAt below body)
    pure id
  | _ => unsupported p.1

/-- Converts a try statement. -/
def tryBlock (resources : Parts t) (body : Part t) (catchers : Parts t)
    (finalizer : Option (Part t)) : Convert NodeId := do
  let id ← alloc t .tryStatement
  addEach id .resources resources (resource below)
  addPart id .body (blockAt below body)
  addEach id .catchClauses catchers (catchClause below)
  addOptional id .finallyBlock finalizer (blockAt below)
  pure id

/-- The kind of constructor call that a called method makes. -/
def constructorCall? (method : Part t) : Option NodeKind :=
  match method.parts with
  | .ident "this" => some .constructorInvocation
  | .ident "super" => some .superConstructorInvocation
  | .select _ "super" => some .superConstructorInvocation
  | _ => none

/-- Converts a call of another constructor. -/
def constructorCall (kind : NodeKind) (typeArguments : Parts t) (method : Part t)
    (arguments : Parts t) : Convert NodeId := do
  let id ← alloc t kind
  addOptional id .expression (outerOfSuper? method) (fun p => (below p).expression)
  addTypeArguments below id typeArguments
  addArguments below id arguments
  pure id

/-- Converts an expression statement. Calls of constructors are
recognized here. -/
def execute (p : Part t) : Convert NodeId :=
  match p.parts with
  | .call typeArguments method arguments =>
    match constructorCall? method with
    | some kind => constructorCall below kind typeArguments method arguments
    | none => ofExpression below .expressionStatement (some p)
  | _ => ofExpression below .expressionStatement (some p)

/-- Converts a malformed statement: a lone statement or expression is
kept, anything else is an empty block. -/
def malformedStatement (salvaged : Parts t) : Convert NodeId :=
  match salvaged with
  | [only] =>
    if only.1.isExpression then do
      let inner ← (below only).expression
      let id ← alloc t .expressionStatement
      addChild id .expression inner
      markRecovered id
      pure id
    else do
      let id ← (below only).statement
      markRecovered id
      pure id
  | _ => placeholder t .block

/-- Converts statements to a block over a tree. -/
def block (statements : Parts t) : Convert NodeId := do
  let id ← alloc t .block
  addStatements below id statements
  pure id

/-- Makes a statement of the declaration of a type. -/
def typeStatement : Convert NodeId := do
  let declaration ← typeDeclaration below
  let id ← alloc t .typeDeclarationStatement
  addChild id .declaration declaration
  pure id

/-- **Converts a tree to a statement.** -/
def statement : Convert NodeId :=
  match t.parts with
  | .block _ statements => block below statements
  | .skip => alloc t .emptyStatement
  | .execute expression => execute below expression
  | .varDef mods name type dims value =>
    declaration below .variableDeclarationStatement ⟨t, ⟨mods, name, type, dims, value⟩⟩ []
  | .classDef .. => typeStatement below
  | .branch test thenPart elsePart => branch below test thenPart elsePart
  | .whileLoop test body => do
    let id ← alloc t .whileStatement
    addPart id .expression (condition below test)
    addPart id .body (below body).statement
    pure id
  | .doLoop body test => do
    let id ← alloc t .doStatement
    addPart id .body (below body).statement
    addPart id .expression (condition below test)
    pure id
  | .forLoop initial test step body => forLoop below initial test step body
  | .foreachLoop binder expression body => foreachLoop below binder expression body
  | .labelled label body => do
    let id ← alloc t .labeledStatement
    addPart id .label (simpleName label .unset)
    addPart id .body (below body).statement
    pure id
  | .breakTo label => jump t .breakStatement label
  | .continueTo label => jump t .continueStatement label
  | .yieldValue value => ofExpression below .yieldStatement (some value)
  | .returnValue value => ofExpression below .returnStatement value
  | .throwing value => ofExpression below .throwStatement (some value)
  | .switch selector cases => do
    let id ← alloc t .switchStatement
    addPart id .expression (condition below selector)
    addCases below id cases
    pure id
  | .synchronized lock body => do
    let id ← alloc t .synchronizedStatement
    addPart id .expression (condition below lock)
    addPart id .body (blockAt below body)
    pure id
  | .tryBlock resources body catchers finalizer =>
    tryBlock below resources body catchers finalizer
  | .assertion test detail => do
    let id ← alloc t .assertStatement
    addPart id .expression (below test).expression
    addOptional id .message detail (fun p => (below p).expression)
    pure id
  | .erroneous salvaged => malformedStatement below salvaged
  | _ => unsupported t

end

end Conversion

end TreeBridge

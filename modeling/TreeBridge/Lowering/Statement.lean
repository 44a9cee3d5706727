import TreeBridge.Lowering.Expression
/-!
# Statements

The lowering of statements. A declaration of several variables is the one
statement that lowers to several trees.
-/

namespace TreeBridge

namespace Lowering

open Concrete (Node Kind Field)
open Concrete.Node (Part Parts)

section

variable (s : Source) {n : Node} (below : Below n)

/-- Wraps several trees, or none, in one block; a single tree stays
bare. -/
def asOne (n : Node) (ts : List Foreign.Tree) : Build Foreign.Tree :=
  match ts with
  | [only] => pure only
  | ts => spanning n (.block false ts)

/-- Reads a part as exactly one statement. -/
def singleStatement (p : Part n) : Build Foreign.Tree := do
  let ts ← (below p).statements
  asOne p.1 ts

/-- Reads a part as exactly one statement, or makes a placeholder. -/
def requiredStatement (p : Option (Part n)) : Build Foreign.Tree :=
  match p with
  | some p => singleStatement below p
  | none => placeholder n.stop

/-- Reads a part as exactly one statement if there is one. -/
def optionalStatement (p : Option (Part n)) : Build (Option Foreign.Tree) :=
  match p with
  | some p => do pure (some (← singleStatement below p))
  | none => pure none

/-- Reads an expression as a statement. -/
def executed (p : Part n) : Build Foreign.Tree := do
  let expression ← (below p).expression
  spanning p.1 (.execute expression)

/-- Reads an expression statement. -/
def expressionStatement : Build Foreign.Tree := do
  let expression ← firstExpression below n.parts n.start
  spanning n (.execute expression)

/-- Reads a conditional statement. -/
def ifStatement : Build Foreign.Tree := do
  let condition ← requiredExpression below .condition
  let thenPart ← requiredStatement below (n.parts.field? .consequence)
  let elsePart ← optionalStatement below (n.parts.field? .alternative)
  spanning n (.branch condition thenPart elsePart)

/-- Reads a loop that tests first. -/
def whileStatement : Build Foreign.Tree := do
  let condition ← requiredExpression below .condition
  let body ← requiredStatement below (n.parts.field? .body)
  spanning n (.whileLoop condition body)

/-- Reads a loop that tests last. -/
def doStatement : Build Foreign.Tree := do
  let body ← requiredStatement below (n.parts.field? .body)
  let condition ← requiredExpression below .condition
  spanning n (.doLoop body condition)

/-- Reads a part of the head of a loop: variables or an expression. -/
def loopStart (p : Part n) : Build (List Foreign.Tree) :=
  if p.kind = .localVariableDeclaration then (below p).statements
  else do pure [← executed below p]

/-- Reads a loop with a head. -/
def forStatement : Build Foreign.Tree := do
  let initial ← gather (loopStart below) (n.parts.inField .initial)
  let condition ← optional below (n.parts.field? .condition) (·.expression)
  let step ← (n.parts.inField .update).mapM (executed below)
  let body ← requiredStatement below (n.parts.field? .body)
  spanning n (.forLoop initial condition step body)

/-- Reads the variable of a loop over elements after its modifiers. -/
def loopVariableAfter (mods : Foreign.Modifiers Foreign.Tree) : Build Foreign.Tree := do
  let type := n.parts.field? .type
  let read ← optional below type (·.type)
  let name := n.parts.field? .name
  let dims := n.parts.field? .dimensions
  let start := startOr (n.parts.ofKind? .modifiers) (startOr type n.start)
  make start (startOr name start) (stopOr dims (stopOr name start))
    (.varDef mods (textOf s name) read (dimensionsOf dims) none)

/-- Reads the variable of a loop over elements, which settles no
report. -/
def loopVariable : Build Foreign.Tree :=
  declaring s below n.parts false (loopVariableAfter s below)

/-- Reads a loop over elements. -/
def enhancedForStatement : Build Foreign.Tree := do
  let binder ← loopVariable s below
  let expression ← requiredExpression below .value
  let body ← requiredStatement below (n.parts.field? .body)
  spanning n (.foreachLoop binder expression body)

/-- Reads a statement with a label. -/
def labeledStatement : Build Foreign.Tree := do
  let body ← requiredStatement below n.parts.named[1]?
  spanning n (.labelled (textOf s n.parts.named[0]?) body)

/-- The label that a jump names. -/
def jumpLabel? (n : Node) : Option String :=
  (n.parts.ofKind? .identifier).map (fun p => p.text s)

/-- Reads the return of a value. -/
def returnStatement : Build Foreign.Tree := do
  let expression ← optional below n.parts.named.head? (·.expression)
  spanning n (.returnValue expression)

/-- Reads the yield of a value. -/
def yieldStatement : Build Foreign.Tree := do
  let value ← firstExpression below n.parts n.stop
  spanning n (.yieldValue value)

/-- Reads the throw of an exception. -/
def throwStatement : Build Foreign.Tree := do
  let expression ← firstExpression below n.parts n.stop
  spanning n (.throwing expression)

/-- Reads a switch as a statement. -/
def switchStatement : Build Foreign.Tree := do
  let selector ← requiredExpression below .condition
  let read ← cases below false
  spanning n (.switch selector read)

/-- Reads a synchronized block. -/
def synchronizedStatement : Build Foreign.Tree := do
  let lock ← orPlaceholder below (n.parts.ofKind? .parenthesizedExpression) n.start
    (·.expression)
  let body ← requiredStatement below (n.parts.field? .body)
  spanning n (.synchronized lock body)

/-- Reads an assertion. -/
def assertStatement : Build Foreign.Tree := do
  let condition ← firstExpression below n.parts n.stop
  let detail ← optional below n.parts.named[1]? (·.expression)
  spanning n (.assertion condition detail)

/-! ## Constructor calls -/

/-- Reads the constructor that a call names. -/
def calledConstructor (keyword : Option (Part n)) : Build Foreign.Tree :=
  match n.parts.field? .object, keyword with
  | some object, some word => do
    let selected ← (below object).expression
    make object.start (dotBefore n.parts word) word.stop (.select selected (word.text s))
  | none, some word => makeIdent word.start (word.text s)
  | _, none => placeholder n.start

/-- Reads a call of another constructor as an expression statement. -/
def constructorCall : Build Foreign.Tree := do
  let method ← calledConstructor s below (n.parts.field? .constructorKeyword)
  let typeArguments ← ownTypeArguments below
  let list := n.parts.field? .arguments
  let arguments ← arguments below list
  let call ← make n.start (startOr list n.start) (stopOr list n.stop)
    (.call typeArguments method arguments)
  spanning n (.execute call)

/-! ## Try statements -/

/-- Reads a variable as a resource after its modifiers. -/
def resourceAfter (p type : Part n) (mods : Foreign.Modifiers Foreign.Tree) :
    Build Foreign.Tree := do
  let read ← (below type).type
  let name := p.parts.field? .name
  let value ← optional below (p.parts.field? .value) (·.expression)
  makeOver p.1 (startOr name p.start)
    (.varDef mods (textOf s name) (some read) (dimensionsOf (p.parts.field? .dimensions)) value)

/-- Reads a resource: a variable, which settles no report, or a bare
expression. -/
def resource (p : Part n) : Build Foreign.Tree :=
  match p.parts.field? .type with
  | none => firstExpression below p.parts p.stop
  | some type => declaring s below p.parts false (resourceAfter s below p type)

/-- Reads the type of a caught exception; several types are a union. -/
def caughtType (types : Option (Part n)) : Build (Option Foreign.Tree) :=
  match types with
  | none => pure none
  | some types => do
    match ← each below types.parts.named (·.type) with
    | [only] => pure (some only)
    | alternatives => do pure (some (← spanning types.1 (.typeUnion alternatives)))

/-- Reads the parameter of a catch clause after its modifiers. -/
def caughtAfter (p : Part n) (mods : Foreign.Modifiers Foreign.Tree) : Build Foreign.Tree := do
  let type ← caughtType below (p.parts.ofKind? .catchType)
  parameter s p mods type (p.parts.field? .name) (dimensionsOf (p.parts.field? .dimensions))

/-- Reads the parameter of a catch clause. -/
def caughtParameter (clause : Part n) : Build Foreign.Tree :=
  match clause.parts.ofKind? .catchFormalParameter with
  | none => placeholder clause.start
  | some p => declaring s below p.parts true (caughtAfter s below p)

/-- Reads a catch clause. -/
def catchClause (clause : Part n) : Build Foreign.Tree := do
  let param ← caughtParameter s below clause
  let body ← requiredBlock below (clause.parts.field? .body) clause.stop
  spanning clause.1 (.catcher param body)

/-- Reads one clause after others: the catch clauses so far and the last
final block. -/
def tryClause (read : List Foreign.Tree × Option Foreign.Tree) (p : Part n) :
    Build (List Foreign.Tree × Option Foreign.Tree) :=
  match p.kind with
  | .catchClause => do
    let clause ← catchClause s below p
    pure (read.1 ++ [clause], read.2)
  | .finallyClause =>
    match p.parts.ofKind? .block with
    | some block => do
      let finalizer ← blockAt below block
      pure (read.1, some finalizer)
    | none => pure read
  | _ => pure read

/-- The resources of a try statement. -/
def resourceParts (n : Node) : Parts n :=
  match n.parts.field? .resources with
  | some list => list.parts.named.filter (fun p => p.kind == .resource)
  | none => []

/-- Reads a try statement. -/
def tryStatement : Build Foreign.Tree := do
  let resources ← (resourceParts n).mapM (resource s below)
  let body ← requiredBlock below (n.parts.field? .body) n.stop
  let (catchers, finalizer) ← n.parts.named.foldlM (tryClause s below) ([], none)
  spanning n (.tryBlock resources body catchers finalizer)

/-! ## All statements -/

/-- **Reads a node as one statement**, declarations of variables
aside. -/
def statement : Build Foreign.Tree :=
  match n.kind with
  | .block => block below
  | .token ";" => spanning n .skip
  | .expressionStatement => expressionStatement below
  | .ifStatement => ifStatement below
  | .whileStatement => whileStatement below
  | .doStatement => doStatement below
  | .forStatement => forStatement below
  | .enhancedForStatement => enhancedForStatement s below
  | .labeledStatement => labeledStatement s below
  | .breakStatement => spanning n (.breakTo (jumpLabel? s n))
  | .continueStatement => spanning n (.continueTo (jumpLabel? s n))
  | .returnStatement => returnStatement below
  | .yieldStatement => yieldStatement below
  | .throwStatement => throwStatement below
  | .switchExpression => switchStatement below
  | .synchronizedStatement => synchronizedStatement below
  | .tryStatement | .tryWithResourcesStatement => tryStatement s below
  | .assertStatement => assertStatement below
  | .explicitConstructorInvocation => constructorCall s below
  | kind =>
    if kind.isTypeDeclaration then typeDeclaration s below
    else if kind.isExpression then do
      let read ← expression s below
      spanning n (.execute read)
    else malformed below

/-- Reads a node as statements. -/
def statements : Build (List Foreign.Tree) :=
  match n.kind with
  | .localVariableDeclaration => declaredVariables s below
  | _ => do pure [← statement s below]

end

end Lowering

end TreeBridge

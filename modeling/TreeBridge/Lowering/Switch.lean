import TreeBridge.Lowering.Declaration
/-!
# Patterns and switch blocks

The lowering of patterns and of the bodies of switches. A group of labels
before statements lowers to one case per label; all but the last have no
statements.
-/

namespace TreeBridge

namespace Lowering

open Concrete (Node Kind)
open Concrete.Node (Part Parts)

section

variable (s : Source) {n : Node} (below : Below n)

/-! ## Patterns -/

/-- Makes the variable that a pattern binds, from its type to its
name. -/
def bindingVariable (whole : Node) (type name : Option (Part n)) : Build Foreign.Tree := do
  let read ← optional below type (·.type)
  let position := startOr name whole.start
  make (startOr type position) position (stopOr name whole.stop)
    (.varDef .empty (textOf s name) read 0 none)

/-- Reads a component of a record pattern. -/
def patternComponent (p : Part n) : Build Foreign.Tree :=
  if p.kind = .recordPatternComponent then
    match p.parts.named with
    | [type, name] => do
      let binder ← bindingVariable s below p.1 (some type) (some name)
      spanning p.1 (.bindingPattern binder)
    | [only] => (below only).pattern
    | _ => (below p).malformed
  else (below p).pattern

/-- Reads a record pattern. -/
def recordPattern : Build Foreign.Tree := do
  let deconstructor ← orPlaceholder below n.parts.named.head? n.start (·.type)
  let nested ← ((n.parts.named.drop 1).flatMap (fun body => body.parts.named)).mapM
    (patternComponent s below)
  spanning n (.recordPattern deconstructor nested)

/-- Reads a pattern of a type and a name. -/
def typePattern : Build Foreign.Tree := do
  let binder ← bindingVariable s below n n.parts.named[0]? n.parts.named[1]?
  spanning n (.bindingPattern binder)

/-! ## Switches -/

/-- Reads the label of a case. A guard is dropped. -/
def caseLabels (label : Part n) : Build (List Foreign.Tree) :=
  each below (label.parts.named.filter (fun p => p.kind != .guardClause)) (·.pattern)

/-- Whether a label is the default. -/
def isDefaultLabel (label : Part n) : Bool :=
  label.parts.any (fun p => p.kind == .token "default")

/-- Reads a statement of a group. -/
def groupStatement (p : Part n) : Build (List Foreign.Tree) :=
  if p.kind = .token ";" then do pure [← spanning p.1 .skip] else (below p).statements

/-- The end of the colon after a label. -/
def colonStop (group label : Part n) : Int :=
  match group.parts.find? (fun p => p.kind == .token ":" && decide (label.stop ≤ p.start)) with
  | some colon => colon.stop
  | none => label.stop

/-- Makes the case of a label. -/
def groupCase (label : Part n) (stop : Int) (statements : Parts n) : Build Foreign.Tree := do
  let labels ← caseLabels below label
  let read ← gather (groupStatement below) statements
  make label.start label.start stop (.switchCase labels (isDefaultLabel label) false read)

/-- Reads the labels of a group, of which the last takes the
statements. -/
def groupCases (group : Part n) (statements : Parts n) :
    Parts n → Build (List Foreign.Tree)
  | [] => pure []
  | [label] => do
    pure [← groupCase below label (stopOr statements.getLast? (colonStop group label)) statements]
  | label :: rest => do
    let t ← groupCase below label (colonStop group label) []
    let ts ← groupCases group statements rest
    pure (t :: ts)

/-- Reads the body of a rule. An expression as the body of a rule of a
switch expression yields its value. -/
def ruleBody (inExpression : Bool) (body : Option (Part n)) : Build (List Foreign.Tree) :=
  match body with
  | none => pure []
  | some p =>
    if inExpression && p.kind == .expressionStatement then do
      let value ← firstExpression below p.parts p.stop
      pure [← spanning p.1 (.yieldValue value)]
    else (below p).statements

/-- Reads a rule. -/
def ruleCase (inExpression : Bool) (rule : Part n) : Build Foreign.Tree := do
  let label := rule.parts.ofKind? .switchLabel
  let labels ←
    match label with
    | some label => caseLabels below label
    | none => pure []
  let body := (rule.parts.named.filter (fun p => p.kind != .switchLabel)).getLast?
  let statements ← ruleBody below inExpression body
  spanning rule.1 (.switchCase labels (label.any isDefaultLabel) true statements)

/-- Reads a node in the block of a switch. -/
def switchMember (inExpression : Bool) (p : Part n) : Build (List Foreign.Tree) :=
  match p.kind with
  | .switchBlockStatementGroup =>
    groupCases below p (p.parts.named.filter (fun c => c.kind != .switchLabel))
      (p.parts.named.filter (fun c => c.kind == .switchLabel))
  | .switchRule => do pure [← ruleCase below inExpression p]
  | _ => do pure [← (below p).malformed]

/-- Reads the cases of a switch. -/
def cases (inExpression : Bool) : Build (List Foreign.Tree) :=
  match n.parts.field? .body with
  | some block => gather (switchMember below inExpression) block.parts.named
  | none => pure []

end

end Lowering

end TreeBridge

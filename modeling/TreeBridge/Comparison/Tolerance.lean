import TreeBridge.Text.Blank
import TreeBridge.Unified.Render
/-!
# Tolerated shapes

Two nodes of different kinds may still encode the same source text: a
field access and a qualified name, a signed literal and a sign before a
literal, a short and a long name, a folded and an unfolded string. The
texts decide.
-/

namespace TreeBridge

namespace Comparison

open Unified

/-- Whether a tree is a string literal. -/
def isStringLiteral (t : Tree) : Bool :=
  match t.kind with
  | .stringLiteral _ => true
  | _ => false

/-- Whether a tree is a number. -/
def isNumberLiteral (t : Tree) : Bool :=
  match t.kind with
  | .numberLiteral _ => true
  | _ => false

/-- The operands of an infix expression, from the left. -/
def operands (t : Tree) : List Tree :=
  (t.child? .leftOperand).toList ++ (t.child? .rightOperand).toList ++ t.list .extendedOperands

/-- A sum of string literals alone. -/
def isLiteralConcatenation (t : Tree) : Bool :=
  t.kind == .infixExpression (some .plus) && !(operands t).isEmpty &&
    (operands t).all isStringLiteral

/-- The text of a concatenation with the joints between its literals
erased: each closing quote, plus sign and opening quote. -/
def joinedText (t : Tree) : String :=
  String.ofList (Text.erase "\" + \"".toList 0 t.render.toList)

/-- Whether the first tree may stand for the second. -/
def toleratedOneWay (a b : Tree) : Bool :=
  match a.kind, b.kind with
  | .fieldAccess, .qualifiedName =>
    match a.child? .expression, a.child? .name, b.child? .qualifier, b.child? .name with
    | some receiver, some field, some qualifier, some name =>
      receiver.render == qualifier.render && field.render == name.render
    | _, _, _, _ => false
  | .numberLiteral _, .prefixExpression operator =>
    (operator == .minus || operator == .plus) && (b.child? .operand).any isNumberLiteral &&
      a.render == b.render
  | .simpleName _, .qualifiedName => a.render == b.render
  | .simpleType, .qualifiedType => a.render == b.render
  | .stringLiteral escaped, .infixExpression _ =>
    isLiteralConcatenation b && joinedText b == escaped
  | _, _ => false

/-- Whether two trees of different kinds encode the same source text. -/
def tolerated (l r : Tree) : Bool :=
  toleratedOneWay l r || toleratedOneWay r l

end Comparison

end TreeBridge

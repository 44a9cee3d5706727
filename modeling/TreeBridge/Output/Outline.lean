import TreeBridge.Resolution.Unit
/-!
# Outlines

An outline shows a tree with one node on a line: the slot it hangs from,
its kind, its span and its own text.
-/

namespace TreeBridge

namespace Output

open Unified (NodeId NodeKind Arena)

/-- The span of a node in an outline. -/
def spanText (s : Span) : String :=
  if s.isSet then "[" ++ Text.decimal s.start ++ ", " ++ Text.decimal s.stop ++ ")"
  else "[unset]"

/-- The text that a kind of node carries itself. -/
def ownText : NodeKind → String
  | .simpleName identifier => " `" ++ identifier ++ "`"
  | .numberLiteral token => " " ++ token
  | .stringLiteral escaped | .textBlock escaped | .characterLiteral escaped => " " ++ escaped
  | .modifier keyword => " " ++ keyword.text
  | .infixExpression (some operator) => " " ++ operator.symbol
  | .prefixExpression operator => " " ++ operator.symbol
  | .postfixExpression operator => " " ++ operator.symbol
  | .assignment operator => " " ++ operator.symbol
  | .primitiveType code => " " ++ code.keyword
  | _ => ""

/-- The slot that a node hangs from. -/
def slotText (a : Arena) (id : NodeId) : String :=
  match a.location? id with
  | some slot => slot.title ++ ": "
  | none => ""

/-- The line of one node, indented by two spaces for every ancestor. -/
def outlineLine (a : Arena) (id : NodeId) : String :=
  String.ofList (List.replicate (2 * (a.ancestors id).length) ' ') ++ slotText a id ++
    (a.kind id).name ++ " " ++ spanText (a.span id) ++ ownText (a.kind id) ++ "\n"

/-- **The outline of a tree.** -/
def outline (a : Arena) (root : NodeId) : String :=
  String.join ((a.preorder root).map (outlineLine a))

end Output

end TreeBridge

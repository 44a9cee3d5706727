import TreeBridge.Concrete.Node
/-!
# Trees in pre-order

A concrete tree may be given as the list of its nodes in pre-order, each
with the number of its children. Read from its end the list is a stack
machine: a node takes its children off the stack and puts itself on.
-/

namespace TreeBridge

namespace Concrete

/-- A node of a tree in pre-order. -/
structure Row where
  kind : Kind
  field : Option Field
  isNamed : Bool
  isMissing : Bool
  isError : Bool
  start : Nat
  stop : Nat
  childCount : Nat

/-- Puts the node of a row over its children, which are the first trees
of the stack. -/
def Row.push (row : Row) (stack : List Node) : List Node :=
  .mk row.kind row.field row.isNamed row.isMissing row.isError row.start row.stop
    (stack.take row.childCount) :: stack.drop row.childCount

/-- The tree whose nodes are listed in pre-order; without a node it is
empty. -/
def ofPreorder (rows : List Row) : Node :=
  (rows.foldr Row.push []).headD default

end Concrete

end TreeBridge

import TreeBridge.Concrete.Node
import TreeBridge.Foreign.Diagnostic
/-!
# Reports of malformed source

Every outermost error node and missing node of a concrete tree is
reported once, in the order of the source text. Below a node without any
error nothing is looked at.
-/

namespace TreeBridge

namespace Lowering

open Foreign (Diagnostic)
open Concrete (Node)

/-- The report of a token that the parser made up. -/
def expected (n : Node) : Diagnostic :=
  { Diagnostic.errorAt "compiler.err.expected" ("'" ++ n.kind.text ++ "' expected")
      n.start n.start with
    arguments := [.text n.kind.text] }

/-- The report of text that the parser could not place; one that reaches
the end of the content is a premature end. -/
def misplaced (contentEnd : Nat) (n : Node) : Diagnostic :=
  if contentEnd ≤ n.stop then
    .errorAt "compiler.err.premature.eof" "reached end of file while parsing" n.start n.stop
  else
    .errorAt "compiler.err.illegal.start.of.expr" "illegal start of expression" n.start n.stop

/-- **The reports of the outermost errors** of a tree. -/
def malformedReports (contentEnd : Nat) (n : Node) : List Diagnostic :=
  if n.isMissing then [expected n]
  else if n.isError then [misplaced contentEnd n]
  else if n.hasError then
    n.children.attach.flatMap (fun c => malformedReports contentEnd c.1)
  else []
termination_by sizeOf n
decreasing_by exact Node.sizeOf_lt_of_mem c.2

end Lowering

end TreeBridge

import TreeBridge.Concrete.Preorder
import TreeBridge.Text.Decimal
/-!
# Listings of concrete trees

A listing has a line for every node of a tree, in pre-order: its flags,
its start, its end, the number of its children, its field or a dash, and
its kind, with a space between any two.
-/

namespace TreeBridge

namespace Concrete

/-- The row of a node with words for its kind and its field, and a word
of flags: 1 for a named node, 2 for a missing one and 4 for an error. -/
def Row.ofWords (kind field : String) (flags start stop childCount : Nat) : Row :=
  ⟨.ofText kind, Field.ofText? field, flags.testBit 0, flags.testBit 1, flags.testBit 2, start,
    stop, childCount⟩

/-- Reads the line of a node. -/
def Row.ofLine? (line : List Char) : Option Row :=
  match line.splitOn ' ' with
  | flags :: start :: stop :: childCount :: field :: kind => do
    let field := if field = ['-'] then "" else String.ofList field
    pure (.ofWords (String.intercalate " " (kind.map String.ofList)) field
      (← Text.readNumber? flags) (← Text.readNumber? start) (← Text.readNumber? stop)
      (← Text.readNumber? childCount))
  | _ => none

/-- The tree of a listing; `none` if a line is malformed. -/
def ofListing? (text : String) : Option Node :=
  (((text.toList.splitOn '\n').filter (fun line => !line.isEmpty)).mapM Row.ofLine?).map
    ofPreorder

end Concrete

end TreeBridge

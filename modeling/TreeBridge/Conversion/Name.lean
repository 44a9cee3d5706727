import TreeBridge.Conversion.Build
/-!
# Names and literals

Chains of identifiers and selections read as dotted names. A selection
keeps no position of its last identifier, which ends where the selection
does.
-/

namespace TreeBridge

namespace Conversion

open Foreign (Tree TypeTag)
open Unified (NodeId NodeKind)

/-- The words after a dot that no dotted name ends in. -/
def nonNames : List String :=
  ["this", "super", "class", "*", "<init>"]

/-- Whether a tree reads as a dotted name. -/
def isNameChain : Tree → Bool
  | .node _ _ _ _ (.ident name) => !nonNames.contains name
  | .node _ _ _ _ (.select selected name) => !nonNames.contains name && isNameChain selected
  | _ => false

/-- Whether a tree is the word `super`, qualified or not. -/
def isSuper (t : Tree) : Bool :=
  match t.shape with
  | .ident name => name == "super"
  | .select _ name => name == "super"
  | _ => false

/-- The primitive type that a type tag names. -/
def primitiveCode? : TypeTag → Option Unified.PrimitiveCode
  | .byte => some .byte
  | .char => some .char
  | .short => some .short
  | .int => some .int
  | .long => some .long
  | .float => some .float
  | .double => some .double
  | .boolean => some .boolean
  | .void => some .void
  | .reference | .nullReference => none

/-- Whether a literal is a text block. -/
def isTextBlock (value : String) : Bool :=
  "\"\"\"".toList.isPrefixOf value.toList

/-- The kind of a literal. -/
def literalKind (type : TypeTag) (value : String) : NodeKind :=
  match type with
  | .boolean => .booleanLiteral (value == "true")
  | .char => .characterLiteral value
  | .reference => if isTextBlock value then .textBlock value else .stringLiteral value
  | .nullReference | .void => .nullLiteral
  | .byte | .short | .int | .long | .float | .double => .numberLiteral value

section

variable {t : Tree} (below : Below t)

/-- Converts a tree to a name. -/
def name : Convert NodeId :=
  match t.parts with
  | .ident identifier => alloc t (.simpleName identifier)
  | .select selected identifier => do
    let qualifier ← (below selected).name
    let last ← nameEndingAt identifier t.stop
    let whole ← alloc t .qualifiedName
    addChild whole .qualifier qualifier
    addChild whole .name last
    pure whole
  | .erroneous _ => placeholder t missingName
  | _ => unsupported t

end

end Conversion

end TreeBridge

import TreeBridge.Conversion.Name
/-!
# Types

The conversion of types. A dotted name is a simple type; a selection from
a type that is no name is a qualified type. Nested array types are one
type with a dimension for every pair of brackets.
-/

namespace TreeBridge

namespace Conversion

open Foreign (Tree)
open Foreign.Tree (Part Parts)
open Unified (NodeId NodeKind)

/-- The spans of the brackets of an array type, the innermost type's
first. -/
def arrayBrackets : Tree → List Span
  | .node _ _ position stop (.typeArray element) =>
    arrayBrackets element ++ [.ofBounds position stop]
  | _ => []

section

variable {t : Tree} (below : Below t)

/-- The element type under all brackets of a part. -/
def arrayElement (p : Part t) : Part t :=
  match p.1.parts with
  | .typeArray element => arrayElement (p.within element)
  | _ => p
termination_by sizeOf p.1
decreasing_by exact element.2

/-- Makes a dimension over every span. -/
def addDimensions (owner : NodeId) (spans : List Span) : Convert Unit :=
  addEach owner .dimensions spans (fun span => synthetic .dimension span)

/-- Makes a simple type of the name of a tree. -/
def namedType (t : Tree) (name : Convert NodeId) : Convert NodeId := do
  let name ← name
  let type ← alloc t .simpleType
  addChild type .name name
  pure type

/-- Makes a type in the place of a malformed one. -/
def missingType (t : Tree) : Convert NodeId := do
  let name ← placeholder t missingName
  let type ← placeholder t .simpleType
  addChild type .name name
  pure type

/-- Puts the uses of annotations of a type before its other children. -/
def addFirstEach (owner : NodeId) (annotations : Parts t) : Convert Unit :=
  annotations.reverse.forM (fun p => do
    let a ← (below p).annotated
    change (fun arena => arena.addChildFirst owner .annotations a))

/-- **Converts a tree to a type.** -/
def type : Convert NodeId :=
  match t.parts with
  | .typeIdent tag =>
    match primitiveCode? tag with
    | some code => alloc t (.primitiveType code)
    | none => throw ⟨.literalType tag, t.start⟩
  | .ident _ => namedType t (name below)
  | .select selected identifier => do
    if isNameChain t then namedType t (name below)
    else
      let qualifier ← (below selected).type
      let last ← nameEndingAt identifier t.stop
      let type ← alloc t .qualifiedType
      addChild type .qualifier qualifier
      addChild type .name last
      pure type
  | .typeApply base arguments => do
    let base ← (below base).type
    let type ← alloc t .parameterizedType
    addChild type .type base
    addEach type .typeArguments arguments (fun p => (below p).type)
    pure type
  | .typeArray element => do
    let element ← (below (arrayElement element)).type
    let type ← alloc t .arrayType
    addChild type .elementType element
    addDimensions type (arrayBrackets t)
    pure type
  | .wildcard kind inner => do
    let type ← alloc t (.wildcardType (kind != .lower))
    addOptional type .bound inner (fun p => (below p).type)
    pure type
  | .typeUnion alternatives => do
    let type ← alloc t .unionType
    addEach type .types alternatives (fun p => (below p).type)
    pure type
  | .typeIntersection bounds => do
    let type ← alloc t .intersectionType
    addEach type .types bounds (fun p => (below p).type)
    pure type
  | .annotatedType annotations underlying => do
    let type ← (below underlying).type
    addFirstEach below type annotations
    change (fun arena => arena.setSpan type (spanOf t))
    pure type
  | .erroneous _ => missingType t
  | _ => unsupported t

/-- Makes an array type of an element type and the spans of brackets
after it. -/
def arrayTypeWith (element : Part t) (brackets : List Span) : Convert NodeId := do
  let elementType ← (below element).type
  let stop := match brackets.getLast? with
    | some last => last.stop
    | none => element.1.stop
  let type ← synthetic .arrayType (.ofBounds element.1.start stop)
  addChild type .elementType elementType
  addDimensions type brackets
  pure type

/-- Converts type arguments under a node. -/
def addTypeArguments (owner : NodeId) (arguments : Parts t) : Convert Unit :=
  addEach owner .typeArguments arguments (fun p => (below p).type)

/-- Converts arguments under a node. -/
def addArguments (owner : NodeId) (arguments : Parts t) : Convert Unit :=
  addEach owner .arguments arguments (fun p => (below p).expression)

end

end Conversion

end TreeBridge

import TreeBridge.Lowering.Name
/-!
# Types

The lowering of types, of type arguments and of type parameters.
-/

namespace TreeBridge

namespace Lowering

open Foreign (BoundKind)
open Concrete (Node Kind)
open Concrete.Node (Part Parts)

section

variable (s : Source) {n : Node} (below : Below n)

/-- Reads the keyword of a primitive type. -/
def primitiveType : Build Foreign.Tree :=
  match Foreign.TypeTag.ofKeyword? (n.text s) with
  | some type => spanning n (.typeIdent type)
  | none => malformed below

/-- Reads a dotted type name; annotations inside it are dropped. -/
def scopedType : Build Foreign.Tree :=
  let ps := n.parts.named.filter (fun p => !p.kind.annotates)
  match ps, ps.getLast? with
  | first :: _ :: _, some last => do
    let selected ← (below first).type
    makeOver n (dotBefore n.parts last) (.select selected (last.text s))
  | _, _ => malformed below

/-- Reads a type with type arguments. -/
def genericType : Build Foreign.Tree :=
  match n.parts.named.find? (fun p => p.kind != .typeArguments) with
  | none => malformed below
  | some base => do
    let type ← (below base).type
    let list := n.parts.ofKind? .typeArguments
    let arguments ← eachOf below list (·.type)
    makeOver n (startOr list n.start) (.typeApply type arguments)

/-- Wraps an element type in one array type for every pair of brackets
among tokens. `opened` is the offset of the last opening bracket. -/
def arrayDimensions (start : Int) : Int → Foreign.Tree → List Node → Build Foreign.Tree
  | _, t, [] => pure t
  | opened, t, token :: rest =>
    if token.kind = .token "[" then arrayDimensions start token.start t rest
    else if token.kind = .token "]" then do
      let array ← make start opened token.stop (.typeArray t)
      arrayDimensions start opened array rest
    else arrayDimensions start opened t rest

/-- Reads an array type. -/
def arrayType : Build Foreign.Tree :=
  match n.parts.field? .element with
  | none => malformed below
  | some element => do
    let t ← (below element).type
    let brackets := ((n.parts.field? .dimensions).map (fun p => p.1.children)).getD []
    arrayDimensions n.start (-1) t brackets

/-- Reads a type after its annotations. The last part that is no
annotation is the type. -/
def annotatedStep (read : List Foreign.Tree × Option (Part n)) (p : Part n) :
    Build (List Foreign.Tree × Option (Part n)) :=
  if p.kind.annotates then do
    let a ← (below p).annotated
    pure (read.1 ++ [a], read.2)
  else pure (read.1, some p)

/-- Reads a type with annotations. -/
def annotatedType : Build Foreign.Tree := do
  let (annotations, underlying) ← n.parts.named.foldlM (annotatedStep below) ([], none)
  let t ← orPlaceholder below underlying n.stop (·.type)
  spanning n (.annotatedType annotations t)

/-- The kind of bound of a wildcard. -/
def boundKind (n : Node) : BoundKind :=
  if n.parts.hasToken "extends" then .upper
  else if n.parts.named.any (fun p => p.kind == .superKeyword) then .lower
  else .unbound

/-- Reads a wildcard. The last type in it is its bound. -/
def wildcard : Build Foreign.Tree := do
  let bound :=
    match boundKind n with
    | .unbound => none
    | _ => n.parts.named.reverse.find? (fun p => p.kind.isType || p.kind == .identifier)
  let inner ← optional below bound (·.type)
  makeOver n (tokenOr n.parts "?" n.start) (.wildcard (boundKind n) inner)

/-- Reads a node as a type. -/
def type : Build Foreign.Tree :=
  match n.kind with
  | .integralType | .floatingPointType | .booleanType | .voidType => primitiveType s below
  | .typeIdentifier | .identifier => identifier s n
  | .scopedTypeIdentifier => scopedType s below
  | .genericType => genericType below
  | .arrayType => arrayType below
  | .annotatedType => annotatedType below
  | .wildcard => wildcard below
  | .scopedIdentifier => scopedName s below
  | _ => malformed below

/-- What a type parameter has been read as: its annotations, its name and
its bounds. -/
structure ParameterRead where
  annotations : List Foreign.Tree
  name : String
  bounds : List Foreign.Tree

/-- Reads one part of a type parameter after others. -/
def parameterStep (read : ParameterRead) (p : Part n) : Build ParameterRead :=
  match p.kind with
  | .annotationMarker | .annotationUse => do
    let a ← (below p).annotated
    pure { read with annotations := read.annotations ++ [a] }
  | .typeIdentifier | .identifier => pure { read with name := p.text s }
  | .typeBound => do
    let bounds ← each below p.parts.named (·.type)
    pure { read with bounds := read.bounds ++ bounds }
  | _ => pure read

/-- Reads a type parameter. -/
def typeParameter (p : Part n) : Build Foreign.Tree := do
  let read ← p.parts.named.foldlM (parameterStep s below) ⟨[], "", []⟩
  spanning p.1 (.typeParameter read.name read.annotations read.bounds)

/-- Reads the type parameters of a declaration. -/
def typeParameters (list : Option (Part n)) : Build (List Foreign.Tree) :=
  match list with
  | none => pure []
  | some list =>
    (list.parts.named.filter (fun p => p.kind == .typeParameter)).mapM (typeParameter s below)

/-- Reads a list of types, inside its wrapper or bare. -/
def typeList (list : Option (Part n)) : Build (List Foreign.Tree) :=
  match list with
  | none => pure []
  | some list => each below ((list.parts.ofKind? .typeList).getD list).parts.named (·.type)

end

end Lowering

end TreeBridge

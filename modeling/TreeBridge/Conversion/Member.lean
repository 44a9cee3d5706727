import TreeBridge.Conversion.Variable
/-!
# Members of types

The conversion of the members of a type: fields, methods, initializers and
member types, and of anonymous classes. A constructor takes the name of
the type around it.
-/

namespace TreeBridge

namespace Conversion

open Foreign (Tree ClassKind)
open Foreign.Tree (Part Parts)
open Unified (NodeId NodeKind)

/-- The flags of enum constants that nobody spells. -/
def enumConstantImplied : UInt64 :=
  Foreign.Flag.publicAccess ||| Foreign.Flag.static ||| Foreign.Flag.final |||
    Foreign.Flag.enumType

/-- The flags of record components that nobody spells. -/
def componentImplied : UInt64 :=
  Foreign.Flag.recordType ||| Foreign.Flag.privateAccess ||| Foreign.Flag.final

/-- The name that every constructor has in a foreign tree. -/
def constructorName : String :=
  "<init>"

section

variable {t : Tree} (below : Below t)

/-- Converts one type parameter. -/
def typeParameter (p : Part t) : Convert NodeId :=
  match p.parts with
  | .typeParameter name annotations bounds => do
    let id ← alloc p.1 .typeParameter
    addEach id .modifiers annotations (fun p => (below p).annotated)
    addPart id .name (simpleName name .unset)
    addEach id .bounds bounds (fun p => (below p).type)
    pure id
  | _ => unsupported p.1

/-- Converts type parameters under a declaration. -/
def addTypeParameters (owner : NodeId) (ps : Parts t) : Convert Unit :=
  addEach owner .typeParameters ps (typeParameter below)

/-- Whether a parameter is malformed, which drops it. -/
def isMalformed (p : Part t) : Bool :=
  p.tag == .erroneous

/-- The name of a method; that of a constructor is the name of the type
around it. -/
def methodName (name : String) (position : Int) : Convert NodeId := do
  if name = constructorName then nameAt (← read).typeName position
  else nameAt name position

/-- Converts a method or a constructor. -/
def method (p : Part t) : Convert NodeId :=
  match p.parts with
  | .methodDef mods name typeParameters returnType parameters dims thrown body _ => do
    let id ← alloc p.1 (.methodDeclaration (name == constructorName) dims)
    addModifiers below id mods 0
    addTypeParameters below id typeParameters
    addOptional id .returnType returnType (fun p => (below p).type)
    addPart id .name (methodName name p.1.position)
    addEach id .parameters (parameters.filter (fun p => !isMalformed p))
      (fun p => parameter below p 0)
    addEach id .thrownExceptionTypes thrown (fun p => (below p).type)
    addOptional id .body body (blockAt below)
    pure id
  | _ => unsupported p.1

/-- Converts a member of an annotation type. -/
def annotationMember (p : Part t) : Convert NodeId :=
  match p.parts with
  | .methodDef mods name _ returnType _ _ _ _ defaultValue => do
    let id ← alloc p.1 .annotationTypeMemberDeclaration
    addModifiers below id mods 0
    addOptional id .type returnType (fun p => (below p).type)
    addPart id .name (nameAt name p.1.position)
    addOptional id .default defaultValue (fun p => (below p).expression)
    pure id
  | _ => unsupported p.1

/-- Converts an initializer: the word `static` becomes a modifier without
a position, the braces a block of their own. -/
def initializer (p : Part t) (isStatic : Bool) (statements : Parts t) : Convert NodeId := do
  let id ← alloc p.1 .initializer
  if isStatic then addPart id .modifiers (synthetic (.modifier .static) .unset)
  let brace ← findToken? "\x7b" p.1.start p.1.stop
  let start := match brace with
    | some brace => (brace.start : Int)
    | none => p.1.start
  let body ← allocAt p.1 .block (.ofBounds start p.1.stop)
  addStatements below body statements
  addChild id .body body
  pure id

/-- Converts a member that is no variable; `none` for one that has no
unified counterpart. -/
def member? (classKind : ClassKind) (p : Part t) : Convert (Option NodeId) :=
  match p.parts with
  | .classDef .. => do pure (some (← (below p).typeDeclaration))
  | .methodDef mods .. =>
    if Foreign.Flag.isIn Foreign.Flag.generatedConstructor mods.flags then pure none
    else if classKind = .annotationType then do pure (some (← annotationMember below p))
    else do pure (some (← method below p))
  | .block isStatic statements => do pure (some (← initializer below p isStatic statements))
  | .skip | .erroneous _ => pure none
  | _ => unsupported p.1

/-- Converts a member or the variables declared together. -/
def groupedMember? (classKind : ClassKind) : Group t → Convert (Option NodeId)
  | .together first more => do pure (some (← declaration below .fieldDeclaration first more))
  | .single p => member? below classKind p

/-- Converts the members of a body under a node. -/
def addMembers (owner : NodeId) (classKind : ClassKind) (ps : Parts t) : Convert Unit :=
  (groups ps).forM (fun g => do
    match ← groupedMember? below classKind g with
    | some id => addChild owner .bodyDeclarations id
    | none => pure ())

/-- Runs a conversion inside a type with a name. -/
def insideType {α : Type} (name : String) (convert : Convert α) : Convert α :=
  withReader (fun ctx => { ctx with typeName := name }) convert

/-- Converts the body of an anonymous class. -/
def anonymousClass (p : Part t) : Convert NodeId :=
  match p.parts with
  | .classDef _ _ _ _ _ _ _ members => do
    let id ← alloc p.1 .anonymousClassDeclaration
    insideType "" (addMembers below id .classType members)
    pure id
  | _ => unsupported p.1

/-- Converts the arguments and the body in the value of an enum constant.
The rest of it has no source text. -/
def addConstantValue (owner : NodeId) (value : Option (Part t)) : Convert Unit :=
  match value with
  | none => pure ()
  | some value =>
    match value.parts with
    | .newClass _ _ _ arguments body => do
      addArguments below owner arguments
      addOptional owner .anonymousClassDeclaration body (anonymousClass below)
    | _ => pure ()

/-- Converts an enum constant. -/
def enumConstant (p : Part t) : Convert NodeId :=
  match declared? p with
  | none => unsupported p.1
  | some v => do
    let id ← alloc p.1 .enumConstantDeclaration
    addModifiers below id v.parts.mods enumConstantImplied
    addPart id .name (nameAt v.parts.name p.1.position)
    addConstantValue below id v.parts.value
    pure id

/-- The flags of a variable; none of any other tree. -/
def variableFlags (p : Part t) : UInt64 :=
  match declared? p with
  | some v => v.parts.mods.flags
  | none => 0

/-- Whether a member of an enum is one of its constants. -/
def isEnumConstant (classKind : ClassKind) (p : Part t) : Bool :=
  classKind == .enumType && Foreign.Flag.isIn Foreign.Flag.enumType (variableFlags p)

/-- Whether a member of a record is one of its components. -/
def isComponent (classKind : ClassKind) (p : Part t) : Bool :=
  classKind == .recordType && Foreign.Flag.isIn Foreign.Flag.recordType (variableFlags p)

/-- Converts the constants of an enum and the components of a record. -/
def addHeadMembers (owner : NodeId) (classKind : ClassKind) (ps : Parts t) : Convert Unit :=
  ps.forM (fun p => do
    if isEnumConstant classKind p then addPart owner .enumConstants (enumConstant below p)
    else if isComponent classKind p then
      addPart owner .recordComponents (parameter below p componentImplied))

/-- The members that are neither constants nor components. -/
def bodyMembers (classKind : ClassKind) (ps : Parts t) : Parts t :=
  ps.filter (fun p => !isEnumConstant classKind p && !isComponent classKind p)

/-- The kind of the declaration of a type. -/
def typeKind : ClassKind → NodeKind
  | .classType => .typeDeclaration false
  | .interfaceType => .typeDeclaration true
  | .enumType => .enumDeclaration
  | .recordType => .recordDeclaration
  | .annotationType => .annotationTypeDeclaration

/-- Converts the types that a type permits, at levels that show them. -/
def addPermitted (owner : NodeId) (ps : Parts t) : Convert Unit := do
  if (← read).level.supportsSealedTypes then
    addEach owner .permittedTypes ps (fun p => (below p).type)

/-- **Converts the declaration of a type.** -/
def typeDeclaration : Convert NodeId :=
  match t.parts with
  | .classDef mods name classKind typeParameters extending implementing permitting members => do
    let id ← alloc t (typeKind classKind)
    addModifiers below id mods 0
    addPart id .name (simpleName name .unset)
    addTypeParameters below id typeParameters
    addOptional id .superclassType extending (fun p => (below p).type)
    addEach id .superInterfaceTypes implementing (fun p => (below p).type)
    addPermitted below id permitting
    insideType name do
      addHeadMembers below id classKind members
      addMembers below id classKind (bodyMembers classKind members)
    pure id
  | _ => unsupported t

end

end Conversion

end TreeBridge

import TreeBridge.Lowering.Type
/-!
# Declarations

The lowering of types and of their members: variables, methods,
constructors, enum constants and initializer blocks. A declaration of
several variables lowers to one tree per declarator, all with the start
of the declaration, of which only the last reaches its end.
-/

namespace TreeBridge

namespace Lowering

open Foreign (ClassKind)
open Concrete (Node Kind)
open Concrete.Node (Part Parts)

section

variable (s : Source) {n : Node} (below : Below n)

/-- The number of dimensions after a declarator. -/
def dimensionsOf (p : Option (Part n)) : Nat :=
  match p with
  | some p => p.parts.dimensions
  | none => 0

/-! ## Blocks -/

/-- Reads a node inside a block. -/
def blockStatement (p : Part n) : Build (List Foreign.Tree) :=
  if p.kind.isComment || p.1.isMissing then pure []
  else if p.kind = .token "\x7b" ∨ p.kind = .token "\x7d" then pure []
  else if p.kind = .token ";" then do pure [← spanning p.1 .skip]
  else if p.1.isNamed then (below p).statements
  else pure []

/-- Reads the statements among the parts of a block. -/
def blockStatements (ps : Parts n) : Build (List Foreign.Tree) :=
  gather (blockStatement below) ps

/-- Reads a part as a block. -/
def blockAt (p : Part n) : Build Foreign.Tree := do
  let statements ← blockStatements below p.parts
  spanning p.1 (.block false statements)

/-- Reads a block if there is one. -/
def optionalBlock (p : Option (Part n)) : Build (Option Foreign.Tree) :=
  match p with
  | some p => do pure (some (← blockAt below p))
  | none => pure none

/-- Reads a block, or makes a placeholder. -/
def requiredBlock (p : Option (Part n)) (offset : Int) : Build Foreign.Tree :=
  match p with
  | some p => blockAt below p
  | none => placeholder offset

/-! ## Parameters -/

/-- Makes a parameter. -/
def parameter (p : Part n) (mods : Foreign.Modifiers Foreign.Tree)
    (type : Option Foreign.Tree) (name : Option (Part n)) (dims : Nat) : Build Foreign.Tree :=
  makeOver p.1 (startOr name p.start) (.varDef mods (textOf s name) type dims none)

/-- Reads a parameter after its modifiers. -/
def formalAfter (p : Part n) (mods : Foreign.Modifiers Foreign.Tree) : Build Foreign.Tree := do
  let type ← optional below (p.parts.field? .type) (·.type)
  parameter s p mods type (p.parts.field? .name) (dimensionsOf (p.parts.field? .dimensions))

/-- Reads a parameter of any number of values after its modifiers. -/
def spreadAfter (p : Part n) (mods : Foreign.Modifiers Foreign.Tree) : Build Foreign.Tree := do
  let type ← optional below (p.parts.named.find? (fun c => c.kind.isType)) (·.type)
  let declarator := p.parts.ofKind? .variableDeclarator
  parameter s p (mods.withFlags Foreign.Flag.varargs) type
    (declarator.bind (fun d => d.parts.field? .name))
    (dimensionsOf (declarator.bind (fun d => d.parts.field? .dimensions)))

/-- Reads a parameter of a method or a lambda. A receiver parameter is
dropped. -/
def formalParameter (p : Part n) : Build (List Foreign.Tree) :=
  match p.kind with
  | .formalParameter => do
    pure [← declaring s below p.parts true (formalAfter s below p)]
  | .spreadParameter => do
    pure [← declaring s below p.parts true (spreadAfter s below p)]
  | .receiverParameter => pure []
  | _ => do pure [← (below p).malformed]

/-- Reads a list of parameters. -/
def formalParameters (list : Option (Part n)) : Build (List Foreign.Tree) :=
  match list with
  | some list => gather (formalParameter s below) list.parts.named
  | none => pure []

/-! ## Variables -/

/-- Reads a declarator after the modifiers of its declaration. -/
def variableAfter (stop : Int) (d : Part n) (mods : Foreign.Modifiers Foreign.Tree) :
    Build Foreign.Tree := do
  let type ← optional below (n.parts.field? .type) (·.type)
  let name := d.parts.field? .name
  let value ← optional below (d.parts.field? .value) (·.initial)
  make n.start (startOr name d.start) stop
    (.varDef mods (textOf s name) type (dimensionsOf (d.parts.field? .dimensions)) value)

/-- Reads modifiers once more and takes back what is reported on them. -/
def modifiersAgain (ps : Parts n) : Build (Foreign.Modifiers Foreign.Tree) := do
  let reported := (← get).reports.length
  let mods ← modifiersOf s below ps
  retract reported
  pure mods

/-- Reads one declarator of a declaration. The modifiers and the type are
read again for every declarator, but only the first reports on them. -/
def declarator (first : Bool) (stop : Int) (d : Part n) : Build Foreign.Tree :=
  if first then declaring s below n.parts true (variableAfter s below stop d)
  else do
    let mods ← modifiersAgain s below n.parts
    settled (variableAfter s below stop d mods)

/-- Reads the declarators of a declaration. -/
def declarators : Bool → Parts n → Build (List Foreign.Tree)
  | _, [] => pure []
  | first, d :: rest => do
    let t ← declarator s below first (if rest.isEmpty then n.stop else d.stop) d
    let ts ← declarators false rest
    pure (t :: ts)

/-- Reads a declaration of variables. -/
def declaredVariables : Build (List Foreign.Tree) :=
  match n.parts.inField .declarator with
  | [] => do pure [← malformed below]
  | ds => declarators s below true ds

/-! ## Methods -/

/-- Reads the types that a method throws. -/
def thrown : Build (List Foreign.Tree) :=
  eachOf below (n.parts.ofKind? .throws) (·.type)

/-- Reads a method after its modifiers. -/
def methodAfter (mods : Foreign.Modifiers Foreign.Tree) : Build Foreign.Tree := do
  let typeParameters ← typeParameters s below (n.parts.field? .typeParameters)
  let returnType ← optional below (n.parts.field? .type) (·.type)
  let name := n.parts.field? .name
  let parameters ← formalParameters s below (n.parts.field? .parameters)
  let thrown ← thrown below
  let body ← optionalBlock below (n.parts.field? .body)
  let defaultValue ← optional below (n.parts.field? .value) (·.element)
  makeOver n (startOr name n.start)
    (.methodDef mods (textOf s name) typeParameters returnType parameters
      (dimensionsOf (n.parts.field? .dimensions)) thrown body defaultValue)

/-- Reads a method. -/
def method : Build Foreign.Tree :=
  declaring s below n.parts true (methodAfter s below)

/-- The flags that the form of a constructor adds. -/
def constructorFlags (n : Node) : UInt64 :=
  if n.kind = .compactConstructorDeclaration then Foreign.Flag.compactConstructor else 0

/-- Reads a constructor after its modifiers. -/
def constructorAfter (mods : Foreign.Modifiers Foreign.Tree) : Build Foreign.Tree := do
  let typeParameters ← typeParameters s below (n.parts.field? .typeParameters)
  let parameters ← formalParameters s below (n.parts.field? .parameters)
  let thrown ← thrown below
  let body ← optionalBlock below (n.parts.field? .body)
  makeOver n (startOr (n.parts.field? .name) n.start)
    (.methodDef (mods.withFlags (constructorFlags n)) "<init>" typeParameters none parameters 0
      thrown body none)

/-- Reads a constructor. -/
def constructor : Build Foreign.Tree :=
  declaring s below n.parts true (constructorAfter s below)

/-! ## Types -/

/-- Reads the members among the parts of a body. -/
def membersOf (ps : Parts n) : Build (List Foreign.Tree) :=
  gather (fun p => (below p).members) ps.named

/-- Reads the body of an anonymous class. -/
def anonymousClass (body : Part n) : Build Foreign.Tree := do
  let members ← membersOf below body.parts
  spanning body.1 (.classDef .empty "" .classType [] none [] [] members)

/-- Reads the arguments of a call. -/
def arguments (list : Option (Part n)) : Build (List Foreign.Tree) :=
  eachOf below list (·.expression)

/-- Reads an optional anonymous class. -/
def optionalClass (body : Option (Part n)) : Build (Option Foreign.Tree) :=
  match body with
  | some body => do pure (some (← anonymousClass below body))
  | none => pure none

/-- The flags of every enum constant. -/
def enumConstantFlags : UInt64 :=
  Foreign.Flag.publicAccess ||| Foreign.Flag.static ||| Foreign.Flag.final |||
    Foreign.Flag.enumType

/-- Reads an enum constant after its modifiers, as a variable whose value
is a new instance of the enum. The two mentions of the enum have no
position. -/
def enumConstantAfter (enumName : String) (p : Part n) (mods : Foreign.Modifiers Foreign.Tree) :
    Build Foreign.Tree := do
  let name := p.parts.field? .name
  let position := startOr name p.start
  let type ← makeIdent (-1) enumName
  let created ← makeIdent (-1) enumName
  let arguments ← arguments below (p.parts.field? .arguments)
  let body ← optionalClass below (p.parts.field? .body)
  let value ← make position position p.stop (.newClass none [] created arguments body)
  makeOver p.1 position
    (.varDef (mods.withFlags enumConstantFlags) (textOf s name) (some type) 0 (some value))

/-- Reads an enum constant, which settles no report. -/
def enumConstant (enumName : String) (p : Part n) : Build Foreign.Tree :=
  declaring s below p.parts false (enumConstantAfter s below enumName p)

/-- Reads a node in the body of an enum. -/
def enumMember (enumName : String) (p : Part n) : Build (List Foreign.Tree) :=
  match p.kind with
  | .enumConstant => do pure [← enumConstant s below enumName p]
  | .enumBodyDeclarations => membersOf below p.parts
  | _ => do pure [← (below p).malformed]

/-- The form that a declaration of a type has. -/
structure TypeForm where
  classKind : ClassKind
  keyword : String
  flags : UInt64

/-- The form of a declaration by its kind. -/
def typeForm : Kind → TypeForm
  | .interfaceDeclaration => ⟨.interfaceType, "interface", Foreign.Flag.interfaceType⟩
  | .enumDeclaration => ⟨.enumType, "enum", Foreign.Flag.enumType⟩
  | .recordDeclaration => ⟨.recordType, "record", Foreign.Flag.recordType⟩
  | .annotationTypeDeclaration =>
    ⟨.annotationType, "@interface", Foreign.Flag.annotationType ||| Foreign.Flag.interfaceType⟩
  | _ => ⟨.classType, "class", 0⟩

/-- The flags of every component of a record. -/
def componentFlags : UInt64 :=
  Foreign.Flag.recordType ||| Foreign.Flag.privateAccess ||| Foreign.Flag.final

/-- Reads the components of a record. -/
def components (form : TypeForm) : Build (List Foreign.Tree) :=
  match form.classKind with
  | .recordType => do
    let parameters ← formalParameters s below (n.parts.field? .parameters)
    pure (parameters.map (Foreign.Tree.withVariableFlags componentFlags))
  | _ => pure []

/-- Reads the body of a type. -/
def typeBody (form : TypeForm) (name : String) : Build (List Foreign.Tree) :=
  match n.parts.field? .body, form.classKind with
  | none, _ => pure []
  | some body, .enumType => gather (enumMember s below name) body.parts.named
  | some body, _ => membersOf below body.parts

/-- The type right below a part. -/
def superclass? (p : Option (Part n)) : Option (Part n) :=
  p.bind (fun p => p.parts.named.head?)

/-- The list of interfaces of a type. -/
def interfaces? (n : Node) : Option (Part n) :=
  match n.parts.field? .interfaces with
  | some list => some list
  | none => n.parts.ofKind? .extendsInterfaces

/-- Reads the declaration of a type after its modifiers. -/
def typeAfter (mods : Foreign.Modifiers Foreign.Tree) : Build Foreign.Tree := do
  let form := typeForm n.kind
  let name := textOf s (n.parts.field? .name)
  let typeParameters ← typeParameters s below (n.parts.field? .typeParameters)
  let extending ← optional below (superclass? (n.parts.field? .superclass)) (·.type)
  let implementing ← typeList below (interfaces? n)
  let permitting ← typeList below (n.parts.field? .permits)
  let components ← components s below form
  let members ← typeBody s below form name
  makeOver n (tokenOr n.parts form.keyword n.start)
    (.classDef (mods.withFlags form.flags) name form.classKind typeParameters extending
      implementing permitting (components ++ members))

/-- Reads the declaration of a type. -/
def typeDeclaration : Build Foreign.Tree :=
  declaring s below n.parts true (typeAfter s below)

/-- Reads a static initializer. -/
def staticInitializer : Build Foreign.Tree := do
  let statements ←
    match n.parts.ofKind? .block with
    | some block => blockStatements below block.parts
    | none => pure []
  spanning n (.block true statements)

/-- Reads a node as a block. -/
def block : Build Foreign.Tree := do
  let statements ← blockStatements below n.parts
  spanning n (.block false statements)

/-- Reads a node as members of a type. -/
def members : Build (List Foreign.Tree) :=
  match n.kind with
  | .fieldDeclaration | .constantDeclaration => declaredVariables s below
  | .methodDeclaration | .annotationTypeElementDeclaration => do pure [← method s below]
  | .constructorDeclaration | .compactConstructorDeclaration => do
    pure [← constructor s below]
  | .block => do pure [← block below]
  | .staticInitializer => do pure [← staticInitializer below]
  | kind =>
    if kind.isTypeDeclaration then do pure [← typeDeclaration s below]
    else do pure [← malformed below]

end

end Lowering

end TreeBridge

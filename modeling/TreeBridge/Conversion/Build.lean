import TreeBridge.Foreign.Tree
import TreeBridge.Lexical.Scan
import TreeBridge.Unified.Arena
import TreeBridge.Unified.Level
/-!
# Building unified trees

A conversion allocates nodes in an arena and remembers from which foreign
tree a node came. It reads the source text, the API level and the name of
the type around it, and it stops at the first foreign tree that has no
unified counterpart.

The conversion of a tree consists of actions on the trees below it. The
actions of one tree are a record, so that a step from trees to a tree is a
plain definition.
-/

namespace TreeBridge

namespace Conversion

open Unified (NodeId NodeKind Slot Arena)

/-- What a foreign tree has that no unified tree can express. -/
inductive Construct
  | tree (tag : Foreign.Tag)
  | literalType (type : Foreign.TypeTag)
  deriving DecidableEq, Repr

/-- The name of a construct. -/
def Construct.name : Construct → String
  | tree tag => tag.name
  | literalType type => type.name

/-- A construct without a unified counterpart, at the start of its
tree. -/
structure Unsupported where
  construct : Construct
  offset : Int
  deriving DecidableEq, Repr

/-- What a conversion reads. The name of the type around a member is
empty at the top of a unit and in an anonymous class. -/
structure Context where
  source : Source
  level : Unified.Level
  typeName : String

/-- What a conversion has made: the nodes, and the foreign trees that
nodes came from. -/
structure State where
  arena : Arena
  origins : List (NodeId × Nat)

/-- Nothing made yet. Every node will carry the flag of converted
nodes. -/
def State.initial : State :=
  ⟨Arena.empty.withDefaultFlags Unified.Flag.converted, []⟩

/-- A computation that makes nodes. -/
abbrev Convert (α : Type) : Type :=
  ReaderT Context (StateT State (Except Unsupported)) α

/-- Stops at a tree. -/
def unsupported {α : Type} (t : Foreign.Tree) : Convert α :=
  throw ⟨.tree t.tag, t.start⟩

/-- The span of a foreign tree. -/
def spanOf (t : Foreign.Tree) : Span :=
  .ofBounds t.start t.stop

/-- Makes a node that comes from no foreign tree. -/
def synthetic (kind : NodeKind) (span : Span) : Convert NodeId :=
  fun _ σ =>
    let (id, arena) := σ.arena.alloc kind span
    .ok (id, { σ with arena := arena })

/-- Makes a node that comes from a foreign tree, over any span. -/
def allocAt (t : Foreign.Tree) (kind : NodeKind) (span : Span) : Convert NodeId :=
  fun _ σ =>
    let (id, arena) := σ.arena.alloc kind span
    .ok (id, ⟨arena, σ.origins ++ [(id, t.id)]⟩)

/-- Makes a node that comes from a foreign tree, over the span of it. -/
def alloc (t : Foreign.Tree) (kind : NodeKind) : Convert NodeId :=
  allocAt t kind (spanOf t)

/-- Changes the arena. -/
def change (f : Arena → Arena) : Convert Unit :=
  fun _ σ => .ok ((), { σ with arena := f σ.arena })

/-- Makes a node the last child of another. -/
def addChild (parent : NodeId) (slot : Slot) (child : NodeId) : Convert Unit :=
  change (fun a => a.addChild parent slot child)

/-- Makes a simple name over a span. -/
def simpleName (identifier : String) (span : Span) : Convert NodeId :=
  synthetic (.simpleName identifier) span

/-- Makes a simple name that starts at an offset, which may be
unknown. -/
def nameAt (identifier : String) (offset : Int) : Convert NodeId :=
  simpleName identifier (.ofBounds offset (wrap32 (offset + identifier.utf8ByteSize)))

/-- Makes a simple name that ends at an offset, which may be unknown. -/
def nameEndingAt (identifier : String) (stop : Int) : Convert NodeId :=
  simpleName identifier
    (if stop < 0 then .unset else .ofBounds (stop - identifier.utf8ByteSize) stop)

/-- Marks a node as salvaged from malformed source. -/
def markRecovered (id : NodeId) : Convert Unit :=
  change (fun a => a.addFlags id Unified.Flag.recovered)

/-- Makes a node in the place of a malformed tree. -/
def placeholder (t : Foreign.Tree) (kind : NodeKind) : Convert NodeId := do
  let id ← alloc t kind
  change (fun a => a.addFlags id (Unified.Flag.malformed ||| Unified.Flag.recovered))
  pure id

/-- The identifier of a name that malformed source leaves out. -/
def missingName : NodeKind :=
  .simpleName "MISSING"

/-- The code tokens between two offsets. -/
def tokensBetween (start stop : Int) : Convert (List Lexical.Token) := do
  pure (Lexical.codeTokensBetween (← read).source start stop)

/-- The first code token between two offsets with a spelling. -/
def findToken? (word : String) (start stop : Int) : Convert (Option Lexical.Token) := do
  pure (Lexical.findToken? (← read).source word start stop)

/-- The actions of a conversion on one tree: making a name, a type, an
expression, a use of an annotation, a statement or the declaration of a
type of it. -/
structure Actions where
  name : Convert NodeId
  type : Convert NodeId
  expression : Convert NodeId
  annotated : Convert NodeId
  statement : Convert NodeId
  typeDeclaration : Convert NodeId

/-- The actions on every part of a tree. -/
abbrev Below (t : Foreign.Tree) : Type :=
  Foreign.Tree.Part t → Actions

section

variable {t : Foreign.Tree}

/-- Converts a part and makes it the last child of a node. -/
def addPart (owner : NodeId) (slot : Slot) (convert : Convert NodeId) : Convert Unit := do
  let child ← convert
  addChild owner slot child

/-- Converts a part, if there is one, and makes it the last child of a
node. -/
def addOptional {α : Type} (owner : NodeId) (slot : Slot) (p : Option α)
    (convert : α → Convert NodeId) : Convert Unit :=
  match p with
  | some p => addPart owner slot (convert p)
  | none => pure ()

/-- Converts several things in order and makes them the last children of
a node. -/
def addEach {α : Type} (owner : NodeId) (slot : Slot) (ps : List α)
    (convert : α → Convert NodeId) : Convert Unit :=
  ps.forM (fun p => addPart owner slot (convert p))

end

end Conversion

end TreeBridge

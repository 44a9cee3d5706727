import TreeBridge.Text.Span
import TreeBridge.Unified.Kind
/-!
# The arena of unified nodes

One arena owns every node of a unit. A node is addressed by its id, the
number of nodes allocated before it; parents and children are ids. A node
owns its children through slots, in one list that keeps their order
across slots. Look-ups are total: an id that no node has reads as a node
of its own that nothing was said about.
-/

namespace TreeBridge

namespace Unified

/-- The address of a node in its arena. -/
abbrev NodeId := Nat

/-- A child and the slot it hangs from. -/
structure Child where
  slot : Slot
  node : NodeId
  deriving DecidableEq, Repr

/-- What the arena keeps about a node. -/
structure Node where
  kind : NodeKind
  span : Span
  flags : UInt32
  parent : Option NodeId
  children : List Child
  deriving DecidableEq, Repr

instance : Inhabited Node := ⟨⟨.compilationUnit, Span.unset, 0, none, []⟩⟩

/-! ## Bookkeeping flags -/

namespace Flag

/-- Set on placeholders for malformed source. -/
def malformed : UInt32 := 1

/-- Set on every node that a conversion makes. -/
def converted : UInt32 := 2

/-- Set on nodes a client protects from changes. -/
def protect : UInt32 := 4

/-- Set on nodes salvaged from malformed source. -/
def recovered : UInt32 := 8

/-- The flags that carry no meaning when two trees are compared. -/
def bookkeeping : UInt32 :=
  malformed ||| converted ||| protect ||| recovered

end Flag

/-- The nodes of one unit, and the flags that new nodes start with. -/
structure Arena where
  nodes : Array Node
  defaultFlags : UInt32
  deriving DecidableEq, Repr

namespace Arena

/-- The arena without nodes. -/
def empty : Arena := ⟨#[], 0⟩

instance : Inhabited Arena := ⟨empty⟩

/-- The number of nodes. -/
def size (a : Arena) : Nat :=
  a.nodes.size

/-- The same arena with other flags for the nodes to come. -/
def withDefaultFlags (a : Arena) (flags : UInt32) : Arena :=
  { a with defaultFlags := flags }

/-- Adds a node without parent and children; its id is the number of
nodes before it. -/
def alloc (a : Arena) (kind : NodeKind) (span : Span) : NodeId × Arena :=
  (a.size, { a with nodes := a.nodes.push ⟨kind, span, a.defaultFlags, none, []⟩ })

/-- Whether an id addresses a node. -/
def contains (a : Arena) (id : NodeId) : Bool :=
  decide (id < a.size)

/-! ## Reading a node -/

/-- The node with an id. -/
def node (a : Arena) (id : NodeId) : Node :=
  a.nodes.getD id default

/-- The kind of a node. -/
def kind (a : Arena) (id : NodeId) : NodeKind :=
  (a.node id).kind

/-- The span of a node. -/
def span (a : Arena) (id : NodeId) : Span :=
  (a.node id).span

/-- The flags of a node. -/
def flags (a : Arena) (id : NodeId) : UInt32 :=
  (a.node id).flags

/-- The parent of a node. -/
def parent (a : Arena) (id : NodeId) : Option NodeId :=
  (a.node id).parent

/-- The child entries of a node. -/
def entries (a : Arena) (id : NodeId) : List Child :=
  (a.node id).children

/-- The children of a node, in order. -/
def children (a : Arena) (id : NodeId) : List NodeId :=
  (a.entries id).map (·.node)

/-- The children of a node in one slot, in order. -/
def list (a : Arena) (id : NodeId) (slot : Slot) : List NodeId :=
  ((a.entries id).filter (fun c => c.slot == slot)).map (·.node)

/-- The first child of a node in a slot. -/
def child? (a : Arena) (id : NodeId) (slot : Slot) : Option NodeId :=
  ((a.entries id).find? (fun c => c.slot == slot)).map (·.node)

/-- The slots a node uses, in the order of their first entries. -/
def slots (a : Arena) (id : NodeId) : List Slot :=
  ((a.entries id).map (·.slot)).eraseDups

/-- The slot from which a node hangs from its parent. -/
def location? (a : Arena) (id : NodeId) : Option Slot :=
  match a.parent id with
  | none => none
  | some parent => ((a.entries parent).find? (fun c => c.node == id)).map (·.slot)

/-- The identifier of a simple name. -/
def identifier? (a : Arena) (id : NodeId) : Option String :=
  match a.kind id with
  | .simpleName identifier => some identifier
  | _ => none

/-! ## Changing a node -/

/-- The arena with one node changed. -/
def modify (a : Arena) (id : NodeId) (f : Node → Node) : Arena :=
  { a with nodes := a.nodes.modify id f }

/-- Gives a node a span. -/
def setSpan (a : Arena) (id : NodeId) (span : Span) : Arena :=
  a.modify id (fun n => { n with span := span })

/-- Gives a node a kind. -/
def setKind (a : Arena) (id : NodeId) (kind : NodeKind) : Arena :=
  a.modify id (fun n => { n with kind := kind })

/-- Sets further flags on a node. -/
def addFlags (a : Arena) (id : NodeId) (flags : UInt32) : Arena :=
  a.modify id (fun n => { n with flags := n.flags ||| flags })

/-- Makes `child` the last child of `parent`. -/
def addChild (a : Arena) (parent : NodeId) (slot : Slot) (child : NodeId) : Arena :=
  (a.modify child (fun n => { n with parent := some parent })).modify parent
    (fun n => { n with children := n.children ++ [⟨slot, child⟩] })

/-- Makes `child` the last child of `parent`, if there is one. -/
def addOpt (a : Arena) (parent : NodeId) (slot : Slot) (child : Option NodeId) : Arena :=
  match child with
  | none => a
  | some child => a.addChild parent slot child

/-- Adds several children to one slot, in order. -/
def addAll (a : Arena) (parent : NodeId) (slot : Slot) (children : List NodeId) : Arena :=
  children.foldl (fun a child => a.addChild parent slot child) a

/-- Makes `child` the first child of `parent`. -/
def addChildFirst (a : Arena) (parent : NodeId) (slot : Slot) (child : NodeId) : Arena :=
  (a.modify child (fun n => { n with parent := some parent })).modify parent
    (fun n => { n with children := ⟨slot, child⟩ :: n.children })

/-! ## Sorting a slot -/

/-- The order of children by start offset, children without a position
last. -/
def startsBefore (a : Arena) (c d : Child) : Bool :=
  let s := a.span c.node
  let t := a.span d.node
  if s.isSet == t.isSet then decide (s.start ≤ t.start) else s.isSet

/-- The entries with those of one slot replaced, in order, by the given
ones; the other entries keep their places. -/
def refill (slot : Slot) : List Child → List Child → List Child
  | [], _ => []
  | c :: rest, given =>
    if c.slot == slot then
      match given with
      | [] => c :: refill slot rest []
      | g :: given => g :: refill slot rest given
    else c :: refill slot rest given

/-- Sorts the children of one slot by start offset, among the places they
hold in the list; children that start together keep their order. -/
def sortSlot (a : Arena) (id : NodeId) (slot : Slot) : Arena :=
  let sorted := ((a.entries id).filter (fun c => c.slot == slot)).mergeSort a.startsBefore
  a.modify id (fun n => { n with children := refill slot n.children sorted })

/-! ## Walks -/

/-- The nodes of the subtree at `id` down to a depth, each before its
children. -/
def preorderWithin (a : Arena) : Nat → NodeId → List NodeId
  | 0, id => [id]
  | depth + 1, id => id :: (a.children id).flatMap (preorderWithin a depth)

/-- The nodes of the subtree at `id`, each before its children. No path
down a forest is longer than the number of its nodes. -/
def preorder (a : Arena) (id : NodeId) : List NodeId :=
  a.preorderWithin a.size id

/-- The first ancestors of a node, nearest first. -/
def ancestorsWithin (a : Arena) : Nat → NodeId → List NodeId
  | 0, _ => []
  | height + 1, id =>
    match a.parent id with
    | none => []
    | some parent => parent :: ancestorsWithin a height parent

/-- The ancestors of a node, nearest first. -/
def ancestors (a : Arena) (id : NodeId) : List NodeId :=
  a.ancestorsWithin a.size id

/-- Every id of the arena, in order. -/
def ids (a : Arena) : List NodeId :=
  List.range a.size

end Arena

end Unified

end TreeBridge

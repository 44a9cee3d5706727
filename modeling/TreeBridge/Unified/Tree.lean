import TreeBridge.Unified.Arena
/-!
# Unified trees

A subtree of an arena, unfolded into a tree of its own. Everything that
only reads a subtree recurses on this tree: rendering, names, comparison.
-/

namespace TreeBridge

namespace Unified

/-- A node with the subtrees below it. -/
inductive Tree where
  | node (id : NodeId) (kind : NodeKind) (span : Span) (flags : UInt32)
      (children : List (Slot × Tree))

namespace Tree

/-- The id a node has in its arena. -/
def id : Tree → NodeId
  | node id _ _ _ _ => id

/-- The kind of the root. -/
def kind : Tree → NodeKind
  | node _ kind _ _ _ => kind

/-- The span of the root. -/
def span : Tree → Span
  | node _ _ span _ _ => span

/-- The flags of the root. -/
def flags : Tree → UInt32
  | node _ _ _ flags _ => flags

/-- The subtrees below the root, with their slots. -/
def children : Tree → List (Slot × Tree)
  | node _ _ _ _ children => children

/-- The subtrees in one slot, in order. -/
def list (t : Tree) (slot : Slot) : List Tree :=
  (t.children.filter (fun c => c.1 == slot)).map (·.2)

/-- The first subtree in a slot. -/
def child? (t : Tree) (slot : Slot) : Option Tree :=
  (t.children.find? (fun c => c.1 == slot)).map (·.2)

/-- The slots in use, in the order of their first entries. -/
def slots (t : Tree) : List Slot :=
  (t.children.map (·.1)).eraseDups

/-- The identifier of a simple name. -/
def identifier? (t : Tree) : Option String :=
  match t.kind with
  | .simpleName identifier => some identifier
  | _ => none

/-- A subtree is smaller than the tree it hangs from. -/
theorem sizeOf_lt_of_mem {t : Tree} {c : Slot × Tree} (h : c ∈ t.children) :
    sizeOf c.2 < sizeOf t := by
  obtain ⟨id, kind, span, flags, children⟩ := t
  have hc := List.sizeOf_lt_of_mem (show c ∈ children from h)
  obtain ⟨slot, t⟩ := c
  simp only [Prod.mk.sizeOf_spec, node.sizeOf_spec] at hc ⊢
  omega

/-- The first subtree in a slot is one of the subtrees. -/
theorem sizeOf_lt_of_child? {t u : Tree} {slot : Slot} (h : t.child? slot = some u) :
    sizeOf u < sizeOf t := by
  obtain ⟨c, hc, rfl⟩ := Option.map_eq_some_iff.1 h
  exact sizeOf_lt_of_mem (List.mem_of_find?_eq_some hc)

/-- The subtrees in a slot are among the subtrees. -/
theorem sizeOf_lt_of_mem_list {t u : Tree} {slot : Slot} (h : u ∈ t.list slot) :
    sizeOf u < sizeOf t := by
  obtain ⟨c, hc, rfl⟩ := List.mem_map.1 h
  exact sizeOf_lt_of_mem (List.mem_filter.1 hc).1

end Tree

/-- The subtree at a node down to a depth. -/
def Arena.treeWithin (a : Arena) : Nat → NodeId → Tree
  | 0, id => .node id (a.kind id) (a.span id) (a.flags id) []
  | depth + 1, id =>
    .node id (a.kind id) (a.span id) (a.flags id)
      ((a.entries id).map (fun c => (c.slot, treeWithin a depth c.node)))

/-- The subtree at a node. No path down a forest is longer than the
number of its nodes. -/
def Arena.tree (a : Arena) (id : NodeId) : Tree :=
  a.treeWithin a.size id

end Unified

end TreeBridge

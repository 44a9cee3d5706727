import TreeBridge.Foreign.Tree
/-!
# Finding foreign trees

An index over a foreign tree finds subtrees by id, the parent of a
subtree, the path from the root down to it and the innermost subtree at
an offset. Where two subtrees share an id, the one visited last counts;
the visit takes the last child of a tree before the others.
-/

namespace TreeBridge

namespace Foreign

/-- The visited subtrees of a root and the links from their children to
them, the latest first. -/
structure Index where
  root : Tree
  visited : List Tree
  links : List (Nat × Tree)

namespace Index

/-- The index of a tree. -/
def ofTree (root : Tree) : Index :=
  let visited := root.lastFirst
  ⟨root, visited.reverse,
    (visited.flatMap (fun t => t.children.map (fun c => (c.id, t)))).reverse⟩

/-- The subtree with an id. -/
def get? (ix : Index) (id : Nat) : Option Tree :=
  ix.visited.find? (fun t => t.id == id)

/-- The id of the parent of a subtree. -/
def parentId? (ix : Index) (id : Nat) : Option Nat :=
  (ix.links.find? (fun l => l.1 == id)).map (fun l => l.2.id)

/-- The parent of a subtree. -/
def parent? (ix : Index) (id : Nat) : Option Tree :=
  (ix.parentId? id).bind ix.get?

/-- The ancestors of a subtree, nearest first, up to a height. -/
def ancestorsWithin (ix : Index) : Nat → Nat → Option (List Tree)
  | 0, _ => some []
  | height + 1, id =>
    match ix.parentId? id with
    | none => some []
    | some parent =>
      match ix.get? parent, ancestorsWithin ix height parent with
      | some t, some above => some (t :: above)
      | _, _ => none

/-- A chain of trees from a root down, the leaf first. -/
structure Path where
  leaf : Tree
  ancestors : List Tree

/-- The path from the root down to a subtree. A path is not longer than
the number of links. -/
def path? (ix : Index) (id : Nat) : Option Path :=
  match ix.get? id, ix.ancestorsWithin ix.links.length id with
  | some leaf, some ancestors => some ⟨leaf, ancestors⟩
  | _, _ => none

/-- Whether the source text of a tree holds an offset. -/
def holds (t : Tree) (offset : Int) : Bool :=
  decide (0 ≤ t.start) && decide (t.start ≤ offset) && decide (offset < t.stop)

/-- The innermost tree below `t` whose source text holds an offset: the
first child that holds it leads on. -/
def innermostBelow (offset : Int) (t : Tree) : Tree :=
  match t.children.attach.find? (fun c => holds c.1 offset) with
  | some c => innermostBelow offset c.1
  | none => t
termination_by sizeOf t
decreasing_by exact Tree.sizeOf_lt_of_mem c.2

/-- The innermost tree whose source text holds an offset; the root when
no child of it does. -/
def innermost (ix : Index) (offset : Int) : Tree :=
  innermostBelow offset ix.root

namespace Path

/-- The trees of a path, the leaf first. -/
def trees (p : Path) : List Tree :=
  p.leaf :: p.ancestors

/-- The parent of the leaf. -/
def parent? (p : Path) : Option Tree :=
  p.ancestors.head?

/-- The number of trees on a path. -/
def length (p : Path) : Nat :=
  p.trees.length

/-- The innermost tree with a tag, the leaf included. -/
def nearest? (p : Path) (tag : Tag) : Option Tree :=
  p.trees.find? (fun t => t.tag == tag)

end Path

end Index

end Foreign

end TreeBridge

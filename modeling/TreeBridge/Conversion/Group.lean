import TreeBridge.Foreign.Tree
/-!
# Variables declared together

One declaration of several variables reaches the foreign tree as
neighbours that share one start. Grouping puts them together again:
consecutive variables with one known start are one group.
-/

namespace TreeBridge

namespace Conversion

open Foreign (Tree)

/-- The parts of a variable. -/
structure Variable (α : Type) where
  mods : Foreign.Modifiers α
  name : String
  type : Option α
  dims : Nat
  value : Option α

/-- The parts of a variable, if a shape is one. -/
def asVariable? {α : Type} : Foreign.Shape α → Option (Variable α)
  | .varDef mods name type dims value => some ⟨mods, name, type, dims, value⟩
  | _ => none

/-- A variable inside a tree, or the tree itself if it is one. -/
structure Declared (t : Tree) where
  tree : Tree
  parts : Variable (Tree.Part t)

/-- The variable that a part is. -/
def declared? {t : Tree} (p : Tree.Part t) : Option (Declared t) :=
  (asVariable? p.parts).map (fun v => ⟨p.1, v⟩)

/-- Variables declared together, the first apart from the others, or one
tree of any other form. -/
inductive Group (t : Tree) where
  | together (first : Declared t) (more : List (Declared t))
  | single (tree : Tree.Part t)

/-- Whether a variable belongs to the declaration of the one before
it. -/
def joins {t : Tree} (v w : Declared t) : Bool :=
  decide (0 ≤ w.tree.start) && v.tree.start == w.tree.start

/-- Puts a variable before groups: into the first of them if it belongs
there. -/
def consVariable {t : Tree} (v : Declared t) : List (Group t) → List (Group t)
  | .together first more :: rest =>
    if joins v first then .together v (first :: more) :: rest
    else .together v [] :: .together first more :: rest
  | rest => .together v [] :: rest

/-- **The groups of a list of trees**, in order. -/
def groups {t : Tree} : Tree.Parts t → List (Group t)
  | [] => []
  | p :: rest =>
    match declared? p with
    | some v => consVariable v (groups rest)
    | none => .single p :: groups rest

end Conversion

end TreeBridge

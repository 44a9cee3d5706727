import TreeBridge.Foreign.Diagnostic
import TreeBridge.Foreign.Index
import TreeBridge.Text.Source
/-!
# The scene of a diagnostic

What a diagnostic is read against: the name of the file, its source and
the index of its foreign tree.
-/

namespace TreeBridge

namespace Problem

/-- What a diagnostic is read against. -/
structure Scene where
  file : String
  source : Source
  index : Foreign.Index

namespace Scene

/-- The tree that a diagnostic is about. -/
def tree? (scene : Scene) (d : Foreign.Diagnostic) : Option Foreign.Tree :=
  d.tree.bind scene.index.get?

/-- The trees from one with an id up to the root, the one itself first;
none when there is no path. -/
def upFrom (scene : Scene) (id : Nat) : List Foreign.Tree :=
  match scene.index.path? id with
  | some path => path.trees
  | none => []

/-- The trees from the one that a diagnostic is about up to the root. -/
def trail (scene : Scene) (d : Foreign.Diagnostic) : List Foreign.Tree :=
  match d.tree with
  | some id => scene.upFrom id
  | none => []

end Scene

end Problem

end TreeBridge

import TreeBridge.Comparison.Divergence
import TreeBridge.Comparison.Match
import TreeBridge.Resolution.Unit
/-!
# Comparing units

Two resolved units are compared in legacy mode when either was resolved
at a level from before generics.
-/

namespace TreeBridge

namespace Comparison

/-- The first divergence of two units. -/
def unitDivergence (l r : CompilationUnit) : Option Divergence :=
  firstDivergence (l.level.isLegacy || r.level.isLegacy) l.tree r.tree

/-- Whether the trees of two units match, constant strings folded. -/
def unitsMatch (l r : CompilationUnit) : Bool :=
  matchTrees true l.tree r.tree

end Comparison

end TreeBridge

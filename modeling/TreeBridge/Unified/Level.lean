import TreeBridge.Text.Decimal
/-!
# API levels

The level that a client asks for decides the shape of a unified tree. A
level is an ordinal of the list 2, 3, 4, 8 to 21.
-/

namespace TreeBridge

namespace Unified

namespace Level

/-- Whether an ordinal is that of a level. -/
def isKnown (ordinal : Nat) : Bool :=
  ordinal == 2 || ordinal == 3 || ordinal == 4 || (8 ≤ ordinal && ordinal ≤ 21)

end Level

/-- An API level. -/
structure Level where
  ordinal : Nat
  known : Level.isKnown ordinal = true
  deriving DecidableEq

namespace Level

/-- The level with an ordinal. -/
def ofOrdinal? (ordinal : Nat) : Option Level :=
  if h : isKnown ordinal then some ⟨ordinal, h⟩ else none

/-- The newest level. -/
def latest : Level := ⟨21, rfl⟩

instance : Inhabited Level := ⟨latest⟩

/-- Levels from before generics have a view of their own. -/
def isLegacy (level : Level) : Bool :=
  decide (level.ordinal < 3)

/-- Levels with sealed types show the types that a type permits. -/
def supportsSealedTypes (level : Level) : Bool :=
  decide (17 ≤ level.ordinal)

/-- The name of a level. -/
def text (level : Level) : String :=
  "JLS" ++ Text.decimal level.ordinal

end Level

end Unified

end TreeBridge

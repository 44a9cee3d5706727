import TreeBridge.Comparison.Tolerance
import TreeBridge.Text.Decimal
import TreeBridge.Unified.Legacy
/-!
# The first divergence of two trees

`firstDivergence` walks two trees in lock-step and reports the first
place where they differ in kind, attributes, position, flags or number of
children. A length off by one is not a divergence, and neither is a
tolerated shape at an equal position. In legacy mode modifiers compare as
words of flags and supertypes as names.
-/

namespace TreeBridge

namespace Comparison

open Unified

/-- Why two nodes diverge. -/
inductive Cause
  | attributes (left right : String)
  | kinds (left right : String)
  | starts (left right : Int)
  | lengths (left right : Int)
  | flags (difference : UInt32)
  | modifierFlags (left right : UInt32)
  | superclassNames
  | superInterfaceNames
  | sizes (slot : Slot) (left right : Nat)
  deriving DecidableEq, Repr

/-- The wording of a cause. -/
def Cause.message : Cause → String
  | attributes l r => "attributes differ: `" ++ l ++ "` vs `" ++ r ++ "`"
  | kinds l r => "kind differs: " ++ l ++ " vs " ++ r
  | starts l r => "start position differs: " ++ Text.decimal l ++ " vs " ++ Text.decimal r
  | lengths l r => "length differs: " ++ Text.decimal l ++ " vs " ++ Text.decimal r
  | flags d => "flags differ: " ++ Text.hexadecimal d.toNat
  | modifierFlags l r =>
    "modifier flags differ: " ++ Text.hexadecimal l.toNat ++ " vs " ++ Text.hexadecimal r.toNat
  | superclassNames => "superclass names differ"
  | superInterfaceNames => "super interface names differ"
  | sizes slot l r =>
    slot.title ++ " sizes differ: " ++ Text.decimal l ++ " vs " ++ Text.decimal r

/-- A place in two trees, as the steps down from the root, and why they
diverge there. -/
structure Divergence where
  steps : List String
  cause : Cause
  deriving DecidableEq, Repr

namespace Divergence

/-- The steps to a divergence, joined by slashes. -/
def path (d : Divergence) : String :=
  String.intercalate "/" d.steps

/-- The wording of a divergence, without its path. -/
def message (d : Divergence) : String :=
  d.cause.message

/-- The path and the wording of a divergence. -/
def text (d : Divergence) : String :=
  d.path ++ ": " ++ d.message

end Divergence

/-- The flags in which two nodes differ, bookkeeping aside. -/
def flagDifference (l r : Tree) : UInt32 :=
  (l.flags ^^^ r.flags) &&& ~~~Flag.bookkeeping

/-- How the positions or flags of two nodes differ. -/
def standardCause? (l r : Tree) : Option Cause :=
  if l.span.start ≠ r.span.start then some (.starts l.span.start r.span.start)
  else if 1 < (l.span.length - r.span.length).natAbs then
    some (.lengths l.span.length r.span.length)
  else if flagDifference l r ≠ 0 then some (.flags (flagDifference l r))
  else none

/-- How the legacy views of two nodes of one kind differ. -/
def legacyCause? (l r : Tree) : Option Cause :=
  if l.kind.isBodyDeclaration && l.modifierFlags != r.modifierFlags then
    some (.modifierFlags l.modifierFlags r.modifierFlags)
  else if l.kind.isTypeDeclaration && l.superclassName? != r.superclassName? then
    some .superclassNames
  else if l.kind.isTypeDeclaration && l.superInterfaceNames != r.superInterfaceNames then
    some .superInterfaceNames
  else none

/-- The slots that the legacy view of a kind replaces. -/
def legacySlots (kind : NodeKind) : List Slot :=
  (if kind.isBodyDeclaration then [.modifiers] else []) ++
    (if kind.isTypeDeclaration then [.superclassType, .superInterfaceTypes] else [])

/-- The slots of two nodes: those of the first, then the others of the
second. -/
def sharedSlots (l r : Tree) : List Slot :=
  l.slots ++ r.slots.filter (fun slot => !l.slots.contains slot)

/-- The step down to a child: its slot, with its index when it is not
alone. -/
def step (slot : Slot) (index count : Nat) : String :=
  if 1 < count then slot.title ++ "[" ++ Text.decimal index ++ "]" else slot.title

/-- Why two nodes diverge, their children aside. -/
def rootCause? (legacy : Bool) (l r : Tree) : Option Cause :=
  if l.kind = r.kind then
    match standardCause? l r with
    | some cause => some cause
    | none => if legacy then legacyCause? l r else none
  else if tolerated l r then standardCause? l r
  else if l.kind.sameVariant r.kind then some (.attributes l.render r.render)
  else some (.kinds l.kind.name r.kind.name)

/-- The slots of two nodes whose children are compared; a tolerated pair
has none. -/
def comparedSlots (legacy : Bool) (l r : Tree) : List Slot :=
  if l.kind = r.kind then
    (sharedSlots l r).filter (fun slot => !(legacy && (legacySlots l.kind).contains slot))
  else []

/-- **The first divergence** of two trees below the given steps. -/
def divergenceBelow (legacy : Bool) (steps : List String) (l r : Tree) : Option Divergence :=
  match rootCause? legacy l r with
  | some cause => some ⟨steps, cause⟩
  | none =>
    (comparedSlots legacy l r).findSome? (fun slot =>
      let ls := l.list slot
      let rs := r.list slot
      if ls.length = rs.length then
        ((ls.attach.zip rs).zipIdx).findSome? (fun p =>
          divergenceBelow legacy (steps ++ [step slot p.2 ls.length]) p.1.1.1 p.1.2)
      else some ⟨steps, .sizes slot ls.length rs.length⟩)
termination_by sizeOf l
decreasing_by exact Tree.sizeOf_lt_of_mem_list p.1.1.2

/-- The first divergence of two trees. -/
def firstDivergence (legacy : Bool) (l r : Tree) : Option Divergence :=
  divergenceBelow legacy [l.kind.name] l r

end Comparison

end TreeBridge

import TreeBridge.Text.Decimal
import TreeBridge.Unified.Arena
/-!
# Containment and separation

The check that every positioned child lies inside its positioned parent
and that no two positioned siblings overlap. The type of an array
creation may span the dimension expressions beside it; it only has to
stay clear of the other children.
-/

namespace TreeBridge

namespace Unified

/-- The two ways in which spans can be wrong. -/
inductive ViolationKind
  | notContained
  | overlap
  deriving DecidableEq, Repr

/-- A wrong span: a child with its span, its parent, the sibling it
overlaps if any, and the span it clashes with. -/
structure Violation where
  kind : ViolationKind
  parent : NodeId
  child : NodeId
  other : Option NodeId
  childSpan : Span
  otherSpan : Span
  deriving DecidableEq, Repr

namespace Violation

/-- A span as a half-open interval. -/
def interval (s : Span) : String :=
  "[" ++ Text.decimal s.start ++ ", " ++ Text.decimal s.stop ++ ")"

/-- The text of a node id. -/
def nodeText (id : NodeId) : String :=
  "#" ++ Text.decimal id

/-- The wording of a violation. -/
def text (v : Violation) : String :=
  match v.kind, v.other with
  | .overlap, some other =>
    nodeText v.child ++ " " ++ interval v.childSpan ++ " overlaps sibling " ++ nodeText other ++
      " " ++ interval v.otherSpan ++ " under " ++ nodeText v.parent
  | _, _ =>
    nodeText v.child ++ " " ++ interval v.childSpan ++ " is not contained in parent " ++
      nodeText v.parent ++ " " ++ interval v.otherSpan

/-- A child outside its parent. -/
def outside (parent child : NodeId) (childSpan parentSpan : Span) : Violation :=
  ⟨.notContained, parent, child, none, childSpan, parentSpan⟩

/-- A child that overlaps a sibling. -/
def overlapping (parent child : NodeId) (childSpan : Span) (other : NodeId)
    (otherSpan : Span) : Violation :=
  ⟨.overlap, parent, child, some other, childSpan, otherSpan⟩

end Violation

/-- A positioned child. -/
abbrev Placed := NodeId × Span

/-- Placed children ordered by start, then by length. -/
def Placed.le (p q : Placed) : Bool :=
  decide (p.2.start < q.2.start) || (p.2.start == q.2.start && decide (p.2.length ≤ q.2.length))

namespace Arena

/-- The positioned children of a node. -/
def placedChildren (a : Arena) (id : NodeId) : List Placed :=
  ((a.children id).map (fun c => (c, a.span c))).filter (fun p => p.2.isSet)

/-- The positioned children outside a positioned parent. -/
def escapes (a : Arena) (parent : NodeId) : List Violation :=
  if (a.span parent).isSet then
    ((a.placedChildren parent).filter (fun p => !(a.span parent).contains p.2)).map
      (fun p => .outside parent p.1 p.2 (a.span parent))
  else []

/-- The child that may span its siblings: the type of an array
creation. -/
def spanningType? (a : Arena) (parent : NodeId) : Option NodeId :=
  match a.kind parent with
  | .arrayCreation => a.child? parent .type
  | _ => none

/-- The children that overlap a spanning type without being dimensions of
it. -/
def typeClashes (a : Arena) (parent type : NodeId) (others : List Placed) : List Violation :=
  (others.filter (fun p =>
      (a.span type).isSet && a.location? p.1 != some .dimensions && (a.span type).overlaps p.2)).map
    (fun p => .overlapping parent p.1 p.2 type (a.span type))

/-- The overlaps in a list of children ordered by start. `furthest` is
the child before them that reaches furthest. -/
def overlapsAfter (parent : NodeId) : Option Placed → List Placed → List Violation
  | _, [] => []
  | none, p :: rest => overlapsAfter parent (some p) rest
  | some f, p :: rest =>
    (if f.2.overlaps p.2 then [.overlapping parent p.1 p.2 f.1 f.2] else []) ++
      overlapsAfter parent (some (if p.2.stop ≤ f.2.stop then f else p)) rest

/-- The violations among a node and its children. -/
def violationsAt (a : Arena) (parent : NodeId) : List Violation :=
  let placed := a.placedChildren parent
  match a.spanningType? parent with
  | none => a.escapes parent ++ overlapsAfter parent none (placed.mergeSort Placed.le)
  | some type =>
    let others := placed.filter (fun p => p.1 != type)
    a.escapes parent ++ a.typeClashes parent type others ++
      overlapsAfter parent none (others.mergeSort Placed.le)

/-- **The violations in a subtree**, parents before children. -/
def violations (a : Arena) (root : NodeId) : List Violation :=
  (a.preorder root).flatMap a.violationsAt

end Arena

end Unified

end TreeBridge

import TreeBridge.Lexical.Scan
import TreeBridge.Text.Word
import TreeBridge.Unified.Arena
/-!
# Positioning nodes

After a conversion the names of declarations, labels and the keywords of
modifiers have no span. Each is searched for as a whole word inside the
span of its parent, clear of its positioned siblings, of comments and of
words that were found before. What is still without a span then takes
one from its children, and modifiers are put into the order of the text.
-/

namespace TreeBridge

namespace Completion

open Unified (NodeId NodeKind Arena)

/-- A word to search for. A modifier may stand anywhere in its parent; a
name stands after the siblings before it. -/
structure Sought where
  word : String
  anywhere : Bool
  deriving DecidableEq, Repr

/-- What to search for to position a node; `none` for a node whose span
follows from those of its children. -/
def sought? : NodeKind → Option Sought
  | .simpleName identifier => some ⟨identifier, false⟩
  | .modifier keyword => some ⟨keyword.text, true⟩
  | _ => none

/-- How many nodes a pass has found in the text, derived from their
children and missed. -/
structure Tally where
  positioned : Nat
  derived : Nat
  missed : Nat
  deriving DecidableEq, Repr

/-! ## Searching -/

/-- A pass over a tree: the arena, the words found so far, and how often
a search succeeded and failed. -/
structure Pass where
  arena : Arena
  claimed : List Stretch
  positioned : Nat
  missed : Nat

/-- A pass inside one parent: what no word may overlap there, and the
offset after the siblings so far. -/
structure Search where
  pass : Pass
  excluded : List Stretch
  after : Int

/-- Searches for one word in a window. -/
def place (s : Source) (window : Span) (child : NodeId) (sought : Sought) (search : Search) :
    Search :=
  let pass := search.pass
  let start := if sought.anywhere then window.start else search.after
  match findWord s sought.word start window.stop (search.excluded ++ pass.claimed) with
  | some hit =>
    let found : Span := ⟨hit, wrap32 sought.word.utf8ByteSize⟩
    { pass :=
        { pass with
          arena := pass.arena.setSpan child found
          claimed := pass.claimed ++ [.ofSpan found]
          positioned := pass.positioned + 1 }
      excluded := search.excluded ++ [.ofSpan found]
      after := if sought.anywhere then search.after else max search.after found.stop }
  | none => { search with pass := { pass with missed := pass.missed + 1 } }

/-- Visits one child of a parent over a window. -/
def visitChild (s : Source) (window : Span) (search : Search) (child : NodeId) : Search :=
  let span := search.pass.arena.span child
  if span.isSet then { search with after := max search.after span.stop }
  else
    match sought? (search.pass.arena.kind child) with
    | some sought => place s window child sought search
    | none => search

/-- The stretches of the positioned children of a node. -/
def positionedChildren (a : Arena) (id : NodeId) : List Stretch :=
  (((a.children id).map a.span).filter Span.isSet).map Stretch.ofSpan

/-- Positions the children of one parent; a parent without a span has no
window to search. -/
def visitParent (s : Source) (comments : List Stretch) (pass : Pass) (parent : NodeId) : Pass :=
  let window := pass.arena.span parent
  if window.isSet then
    let excluded := positionedChildren pass.arena parent ++ comments
    ((pass.arena.children parent).foldl (visitChild s window)
      ⟨pass, excluded, window.start⟩).pass
  else pass

/-! ## Deriving -/

/-- The span that a node takes from its children. A qualified name runs
from its qualifier to the end of its name; any other node covers its
children. -/
def derivedSpan (a : Arena) (id : NodeId) : Span :=
  match a.kind id, a.child? id .qualifier, a.child? id .name with
  | .qualifiedName, some qualifier, some name =>
    .ofBounds (a.span qualifier).start (a.span name).stop
  | _, _, _ => ((a.children id).map a.span).foldl Span.cover .unset

/-- Derives the span of one node, if it has none, and counts it. -/
def derive (a : Arena × Nat) (id : NodeId) : Arena × Nat :=
  if (a.1.span id).isSet then a
  else
    let span := derivedSpan a.1 id
    if span.isSet then (a.1.setSpan id span, a.2 + 1) else a

/-- Puts the modifiers of a node into the order of the text. -/
def sortModifiers (a : Arena) (id : NodeId) : Arena :=
  if (a.child? id .modifiers).isSome then a.sortSlot id .modifiers else a

end Completion

open Completion in
/-- **Positions the nodes of a tree** that have no span: parents before
children in the search, children before parents in the derivation. -/
def reconcile (s : Source) (comments : List Comment) (root : Unified.NodeId)
    (arena : Unified.Arena) : Tally × Unified.Arena :=
  let order := arena.preorder root
  let pass := order.foldl (visitParent s (comments.map (fun c => .ofSpan c.span)))
    ⟨arena, [], 0, 0⟩
  let (arena, derived) := order.reverse.foldl derive (pass.arena, 0)
  (⟨pass.positioned, derived, pass.missed⟩, order.foldl sortModifiers arena)

end TreeBridge

import TreeBridge.Concrete.Node
import TreeBridge.Foreign.Diagnostic
import TreeBridge.Foreign.Tree
/-!
# Building foreign trees

Lowering numbers foreign trees in the order in which it makes them and
collects reports. A report about modifiers is raised before the
declaration that owns them exists, so it waits, unsettled, for an owner:
the next declaration that settles reports takes all that wait.

A lowering of a node consists of actions on the nodes below it. The
actions of one node are a record, so that a step from nodes to a node is
a plain definition.
-/

namespace TreeBridge

namespace Lowering

open Foreign (Diagnostic Shape)
open Concrete (Node Field)
open Concrete.Node (Part Parts)

/-- What a lowering has made so far: the id of the next tree, the reports
in order, and the places of the reports that wait for an owner. -/
structure State where
  next : Nat
  reports : List Diagnostic
  waiting : List Nat

/-- Nothing made yet. -/
def State.initial : State :=
  ⟨0, [], []⟩

/-- A computation that makes trees. -/
abbrev Build (α : Type) : Type :=
  StateM State α

/-- Makes a tree with the next id. A negative end is not recorded. -/
def make (start position stop : Int) (shape : Shape Foreign.Tree) : Build Foreign.Tree :=
  fun σ =>
    (.node σ.next start position (if 0 ≤ stop then stop else -1) shape,
      { σ with next := σ.next + 1 })

/-- Makes a tree over the text of a node. -/
def makeOver (n : Node) (position : Int) (shape : Shape Foreign.Tree) : Build Foreign.Tree :=
  make n.start position n.stop shape

/-- Makes a tree over the text of a node that points at its start. -/
def spanning (n : Node) (shape : Shape Foreign.Tree) : Build Foreign.Tree :=
  makeOver n n.start shape

/-- Makes an empty malformed tree in the place of a missing one. -/
def placeholder (offset : Int) : Build Foreign.Tree :=
  make offset offset offset (.erroneous [])

/-- Makes an identifier at an offset, which may be unknown. -/
def makeIdent (offset : Int) (name : String) : Build Foreign.Tree :=
  make offset offset (if offset < 0 then offset else offset + name.utf8ByteSize) (.ident name)

/-- Adds a report. -/
def report (d : Diagnostic) : Build Unit :=
  fun σ => ((), { σ with reports := σ.reports ++ [d] })

/-- Adds a report that waits for an owner. -/
def reportUnsettled (d : Diagnostic) : Build Unit :=
  fun σ => ((), { σ with
    reports := σ.reports ++ [d]
    waiting := σ.waiting ++ [σ.reports.length] })

/-- Makes a tree the owner of every report that waits. -/
def settle (owner : Nat) : Build Unit :=
  fun σ => ((), { σ with
    reports := σ.waiting.foldl (fun ds i => ds.modify i (·.aboutTree owner)) σ.reports
    waiting := [] })

/-- Takes back the reports past the first `count`; none waits any
longer. -/
def retract (count : Nat) : Build Unit :=
  fun σ => ((), { σ with reports := σ.reports.take count, waiting := [] })

/-- Makes a tree that settles the reports that wait. -/
def settled (build : Build Foreign.Tree) : Build Foreign.Tree := do
  let t ← build
  settle t.id
  pure t

/-- The trees made from a list of things, in order. -/
def gather {α : Type} (f : α → Build (List Foreign.Tree)) (xs : List α) :
    Build (List Foreign.Tree) := do
  pure (← xs.mapM f).flatten

/-- The actions of a lowering on one node: reading it as an expression,
a type, a dotted name, a use of an annotation, a value of an annotation
element, an initial value, a pattern, statements, members of a type, the
declaration of a type, or malformed text. -/
structure Actions where
  expression : Build Foreign.Tree
  type : Build Foreign.Tree
  name : Build Foreign.Tree
  annotated : Build Foreign.Tree
  element : Build Foreign.Tree
  initial : Build Foreign.Tree
  pattern : Build Foreign.Tree
  statements : Build (List Foreign.Tree)
  members : Build (List Foreign.Tree)
  typeDeclaration : Build Foreign.Tree
  malformed : Build Foreign.Tree

/-- The actions on every part of a node. -/
abbrev Below (n : Node) : Type :=
  Part n → Actions

section

variable {n : Node} (below : Below n)

/-- Reads a part if there is one, or makes a placeholder. -/
def orPlaceholder (p : Option (Part n)) (offset : Int) (read : Actions → Build Foreign.Tree) :
    Build Foreign.Tree :=
  match p with
  | some p => read (below p)
  | none => placeholder offset

/-- Reads a part if there is one. -/
def optional (p : Option (Part n)) (read : Actions → Build Foreign.Tree) :
    Build (Option Foreign.Tree) :=
  match p with
  | some p => do pure (some (← read (below p)))
  | none => pure none

/-- Reads several parts in order. -/
def each (ps : Parts n) (read : Actions → Build Foreign.Tree) : Build (List Foreign.Tree) :=
  ps.mapM (fun p => read (below p))

/-- Reads the named parts of a part if there is one. -/
def eachOf (p : Option (Part n)) (read : Actions → Build Foreign.Tree) :
    Build (List Foreign.Tree) :=
  match p with
  | some p => each below p.parts.named read
  | none => pure []

/-- Reads the part in a field as an expression. -/
def requiredExpression (f : Field) : Build Foreign.Tree :=
  orPlaceholder below (n.parts.field? f) n.stop (·.expression)

/-- Reads the first named part as an expression. -/
def firstExpression (ps : Parts n) (stop : Int) : Build Foreign.Tree :=
  orPlaceholder below ps.named.head? stop (·.expression)

/-- Wraps what can be salvaged of malformed text. -/
def malformed : Build Foreign.Tree := do
  let salvaged ← gather (fun p =>
    if p.kind.isStatement then (below p).statements
    else if p.kind.isExpression then do pure [← (below p).expression]
    else pure []) n.parts.named
  spanning n (.erroneous salvaged)

/-- Reads text that has no lowering: malformed, with an error on all of
it. -/
def unsupported (code message : String) : Build Foreign.Tree := do
  let t ← malformed below
  report ((Diagnostic.errorAt code message n.start n.stop).aboutTree t.id)
  pure t

end

end Lowering

end TreeBridge

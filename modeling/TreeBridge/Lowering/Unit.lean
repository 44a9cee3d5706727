import TreeBridge.Lowering.Malformed
import TreeBridge.Lowering.Statement
import TreeBridge.Text.Lines
/-!
# Lowering a unit

`actions` ties the lowering of all nodes together by recursion on the
size of a node. `parse` lowers the concrete tree of a source and stamps
every report with its line and column.
-/

namespace TreeBridge

namespace Lowering

open Foreign (Diagnostic)
open Concrete (Node)
open Concrete.Node (Part Parts)

/-- The actions on a node, given those on its parts. -/
def step (s : Source) (n : Node) (below : Below n) : Actions where
  expression := expression s below
  type := type s below
  name := name s below
  annotated := annotated below
  element := element s below
  initial := initial s below
  pattern := pattern s below
  statements := statements s below
  members := members s below
  typeDeclaration := typeDeclaration s below
  malformed := malformed below

/-- The actions on a node. -/
def actions (s : Source) (n : Node) : Actions :=
  step s n (fun p => actions s p.1)
termination_by sizeOf n
decreasing_by exact p.2.sizeOf_lt

/-! ## Units -/

section

variable (s : Source) {n : Node} (below : Below n)

/-- Reads the clause that names the package. The last part that is no
annotation is the name. -/
def packageClause (p : Part n) : Build Foreign.Tree := do
  let (annotations, last) ← p.parts.named.foldlM (annotatedStep below) ([], none)
  let name ← orPlaceholder below last p.stop (·.name)
  makeOver p.1 (tokenOr p.parts "package" p.start) (.package annotations name)

/-- Reads the star of an import on demand. -/
def onDemand (p : Part n) (qualifier : Foreign.Tree) : Build Foreign.Tree :=
  match p.parts.ofKind? .asterisk with
  | none => pure qualifier
  | some star =>
    make qualifier.start (dotBefore p.parts star) star.stop (.select qualifier "*")

/-- Reads an import. -/
def importClause (p : Part n) : Build Foreign.Tree := do
  let name ← orPlaceholder below
    (p.parts.named.find? (fun c => c.kind == .identifier || c.kind == .scopedIdentifier))
    p.stop (·.name)
  let whole ← onDemand p name
  spanning p.1 (.importing whole (p.parts.hasToken "static"))

/-- Reads the declaration of a module, which has no lowering. -/
def moduleDeclaration (p : Part n) : Build Foreign.Tree := do
  let t ← (below p).malformed
  report ((Diagnostic.errorAt "compiler.err.illegal.start.of.type"
    "module declarations are not supported" p.start p.stop).aboutTree t.id)
  pure t

/-- What a unit has been read as: its package, its imports and its
types. -/
structure UnitRead where
  clause : Option Foreign.Tree
  imports : List Foreign.Tree
  members : List Foreign.Tree

/-- Reads one node at the top of a unit after others. -/
def unitStep (read : UnitRead) (p : Part n) : Build UnitRead :=
  match p.kind with
  | .packageDeclaration => do
    let clause ← packageClause below p
    pure { read with clause := some clause }
  | .importDeclaration => do
    let t ← importClause below p
    pure { read with imports := read.imports ++ [t] }
  | .moduleDeclaration => do
    let t ← moduleDeclaration below p
    pure { read with members := read.members ++ [t] }
  | kind => do
    let t ← if kind.isTypeDeclaration then (below p).typeDeclaration else (below p).malformed
    pure { read with members := read.members ++ [t] }

/-- Reads the root of a concrete tree. -/
def unit : Build Foreign.Tree := do
  let read ← n.parts.named.foldlM (unitStep below) ⟨none, [], []⟩
  make 0 0 s.size (.unit read.clause read.imports read.members)

end

/-- **The lowering of a concrete tree**, with the state it ends in. -/
def lower (s : Source) (n : Node) : Foreign.Tree × State :=
  (unit s (fun p : Part n => actions s p.1)).run .initial

/-! ## The front end -/

/-- A diagnostic with the line and column of its position; an unknown
position counts as the start of the text. -/
def stamp (starts : LineStarts) (d : Diagnostic) : Diagnostic :=
  let (line, column) := starts.lineAndColumn (max d.position 0)
  { d with line := line, column := column }

/-- Diagnostics are ordered by start, then by end. -/
def reportsBefore (d e : Diagnostic) : Bool :=
  decide (d.start < e.start) || (d.start == e.start && decide (d.stop ≤ e.stop))

end Lowering

/-- A foreign tree with the diagnostics of its source. -/
structure ForeignUnit where
  root : Foreign.Tree
  diagnostics : List Foreign.Diagnostic

/-- **Parses a source**: lowers its concrete tree, and lists the reports
of malformed text and those of the lowering by position. -/
def parse (s : Source) (tree : Concrete.Node) : ForeignUnit :=
  let (root, σ) := Lowering.lower s tree
  let starts := LineStarts.ofBytes s.bytes
  let reports := Lowering.malformedReports s.contentEnd tree ++ σ.reports
  ⟨root, (reports.map (Lowering.stamp starts)).mergeSort Lowering.reportsBefore⟩

end TreeBridge

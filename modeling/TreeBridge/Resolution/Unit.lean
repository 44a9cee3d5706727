import TreeBridge.Binding.Reference
import TreeBridge.Lexical.Scan
import TreeBridge.Problem.Report
import TreeBridge.Text.Summary
import TreeBridge.Text.Lines
import TreeBridge.Unified.Level
/-!
# Compilation units

A resolved unit: its unified tree with the table of its lines, its
comments, its problems and the bindings of its declarations.
-/

namespace TreeBridge

/-- A resolved unit. It has no bindings when nobody asked for them. -/
structure CompilationUnit where
  file : String
  source : Source
  arena : Unified.Arena
  root : Unified.NodeId
  level : Unified.Level
  lineEnds : LineEnds
  comments : List Comment
  problems : List Problem.Report
  origins : List (Unified.NodeId × Nat)
  bindings : Option Binding.Ledger

namespace CompilationUnit

open Unified (NodeId)

/-- The tree of a unit. -/
def tree (u : CompilationUnit) : Unified.Tree :=
  u.arena.tree u.root

/-- The line of an offset. -/
def lineNumber? (u : CompilationUnit) (offset : Int) : Option Nat :=
  u.lineEnds.lineNumber? offset

/-- The column of an offset. -/
def columnNumber? (u : CompilationUnit) (offset : Int) : Option Nat :=
  u.lineEnds.columnNumber? offset

/-- The offset of a line and a column. -/
def positionOf? (u : CompilationUnit) (line column : Nat) : Option Int :=
  u.lineEnds.offsetOf? line column

/-- The text of a span. -/
def text? (u : CompilationUnit) (span : Span) : Option String :=
  u.source.textOf? span

/-- The key of the binding of a node. -/
def bindingKey? (u : CompilationUnit) (id : NodeId) : Option String :=
  u.bindings.bind (fun ledger => ledger.resolve? u.arena id)

/-- The binding of a node. -/
def binding? (u : CompilationUnit) (id : NodeId) : Option Binding :=
  (u.bindingKey? id).bind (fun key => u.bindings.bind (fun ledger => ledger.binding? key))

/-- A one-line summary of a unit. -/
def summary (u : CompilationUnit) : String :=
  "CompilationUnit \x7b file: " ++ Text.inSummary u.file ++
    ", api_level: ApiLevel(" ++ Text.decimal u.level.ordinal ++
    "), nodes: " ++ Text.decimal u.arena.size ++
    ", comments: " ++ Text.decimal u.comments.length ++
    ", problems: " ++ Text.decimal u.problems.length ++ " \x7d"

end CompilationUnit

end TreeBridge

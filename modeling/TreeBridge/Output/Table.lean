import TreeBridge.Resolution.Unit
import TreeBridge.Text.Sequence
import TreeBridge.Unified.Containment
/-!
# Tables

A table is drawn in ASCII: a rule between any two rows and around the
whole, a space on both sides of every cell, and every column as wide as
its widest cell. A cell can have several lines, which stand at the top of
its row; a row is as high as its highest cell.
-/

namespace TreeBridge

namespace Output

/-! ## Drawing -/

/-- The lines of a cell. -/
def cellLines (cell : String) : List String :=
  (cell.toList.splitOn '\n').map String.ofList

/-- The width of a cell, which is that of its widest line. -/
def cellWidth (cell : String) : Nat :=
  (cellLines cell).foldl (fun widest line => max widest (Text.lineWidth line)) 0

/-- The height of a row, which is that of its highest cell. -/
def rowHeight (cells : List String) : Nat :=
  cells.foldl (fun highest cell => max highest (cellLines cell).length) 0

/-- The widths of the columns of rows. -/
def columnWidths (rows : List (List String)) : List Nat :=
  rows.foldl (fun widths row => (widths.zip (row.map cellWidth)).map (fun w => max w.1 w.2))
    ((rows.headD []).map (fun _ => 0))

/-- A character several times. -/
def repeated (c : Char) (count : Nat) : String :=
  String.ofList (List.replicate count c)

/-- The rule between rows. -/
def rule (widths : List Nat) : String :=
  "+" ++ String.join (widths.map (fun w => repeated '-' (w + 2) ++ "+"))

/-- One line of a row, from the lines of its cells. -/
def rowLine (widths : List Nat) (lines : List String) : String :=
  "|" ++ String.join ((widths.zip lines).map (fun p =>
    " " ++ p.2 ++ repeated ' ' (p.1 - Text.lineWidth p.2) ++ " |"))

/-- A row of cells. A cell without a line at some height is blank there. -/
def row (widths : List Nat) (cells : List String) : String :=
  "\n".intercalate ((List.range (rowHeight cells)).map (fun height =>
    rowLine widths (cells.map (fun cell => (cellLines cell).getD height ""))))

/-- A table of rows, the first of them the head. -/
def table (rows : List (List String)) : String :=
  let widths := columnWidths rows
  rule widths ++ String.join (rows.map (fun cells =>
    "\n" ++ row widths cells ++ "\n" ++ rule widths))

/-! ## Rows -/

/-- The head of a table of problems. -/
def problemHead : List String :=
  ["severity", "id", "line", "range", "message"]

/-- The row of a problem. -/
def problemRow (r : Problem.Report) : List String :=
  [r.severity.text, Problem.codeText r.id.code, Text.decimal r.line,
    Text.decimal r.start ++ "..=" ++ Text.decimal r.last, r.message]

/-- A table of problems. -/
def problemTable (rs : List Problem.Report) : String :=
  table (problemHead :: rs.map problemRow)

/-- The head of a table of checked files. -/
def checkHead : List String :=
  ["file", "nodes", "problems", "violations"]

/-- The row of a checked unit; a dash stands for no violations. -/
def checkRow (u : CompilationUnit) (violations : Nat) : List String :=
  [u.file, Text.decimal u.arena.size, Text.decimal u.problems.length,
    if violations = 0 then "-" else Text.decimal violations]

/-- The row of a file that could not be resolved. -/
def failedRow (file message : String) : List String :=
  [file, "0", "0", "failed: " ++ message]

end Output

end TreeBridge

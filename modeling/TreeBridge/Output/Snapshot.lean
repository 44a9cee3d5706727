import TreeBridge.Interchange.Kind
import TreeBridge.Resolution.Unit
/-!
# Snapshots

The document of a resolved unit: its nodes in the order of their ids, its
line ends, its comments and its problems.
-/

namespace TreeBridge

namespace Output

open Unified (Child Node)

/-- The document of a span. -/
def spanDocument (s : Span) : Json :=
  .object [("start", .number s.start), ("length", .number s.length)]

/-- The document of a child entry. -/
def childDocument (c : Child) : Json :=
  .object [("prop", .text c.slot.title), ("node", .number c.node)]

/-- The document of a node. -/
def nodeDocument (n : Node) : Json :=
  .object [("kind", n.kind.document), ("range", spanDocument n.span),
    ("flags", .number n.flags.toNat), ("parent", .ofOption (fun id => .number id) n.parent),
    ("children", .ofList childDocument n.children)]

/-- The name of a kind of comment. -/
def commentKindName : CommentKind → String
  | .line => "Line"
  | .block => "Block"
  | .doc => "Doc"

/-- The document of a comment. -/
def commentDocument (c : Comment) : Json :=
  .object [("kind", .text (commentKindName c.kind)), ("range", spanDocument c.span)]

/-- The name of a severity. -/
def severityName : Problem.Severity → String
  | .error => "Error"
  | .warning => "Warning"
  | .info => "Info"
  | .ignore => "Ignore"

/-- The document of a problem. -/
def problemDocument (r : Problem.Report) : Json :=
  .object [("original_file", .text r.file), ("message", .text r.message),
    ("foreign_code", .text r.foreignCode), ("id", .number r.id.code),
    ("arguments", .ofList .text r.arguments), ("severity", .text (severityName r.severity)),
    ("source_start", .number r.start), ("source_end", .number r.last), ("line", .number r.line),
    ("column", .number r.column)]

/-- **The document of a resolved unit.** -/
def snapshot (u : CompilationUnit) : Json :=
  .object [("file", .text u.file), ("api_level", .number u.level.ordinal),
    ("root", .number u.root),
    ("ast", .object [("nodes", .ofList nodeDocument u.arena.nodes.toList)]),
    ("line_ends", .ofList .number u.lineEnds), ("comments", .ofList commentDocument u.comments),
    ("problems", .ofList problemDocument u.problems)]

end Output

end TreeBridge

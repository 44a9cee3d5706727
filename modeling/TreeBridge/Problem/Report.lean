import TreeBridge.Options.Table
import TreeBridge.Problem.Classification
import TreeBridge.Problem.Highlight
/-!
# Reporting problems

A diagnostic becomes a problem: an id, a severity, a span and the texts
of the arguments. A diagnostic whose problem or whose severity is ignored
is not reported.
-/

namespace TreeBridge

namespace Problem

open Foreign (Diagnostic DiagnosticKind)

/-- A reported problem. The end is the offset of the last byte. -/
structure Report where
  file : String
  message : String
  foreignCode : String
  id : Id
  arguments : List String
  severity : Severity
  start : Int
  last : Int
  line : Int
  column : Int
  deriving DecidableEq, Repr

/-- The severity of a kind of diagnostic. -/
def severityOfKind : DiagnosticKind → Severity
  | .error => .error
  | .warning | .mandatoryWarning => .warning
  | .note => .info
  | .other => .ignore

/-- The severity of a problem: the chosen one where there is a choice,
else that of the diagnostic. -/
def severity (o : Options) (id : Id) (kind : DiagnosticKind) : Severity :=
  (o.severity? id.code).getD (severityOfKind kind)

/-- The texts of the arguments: those of the first subdiagnostic where
there is one, and of the diagnostic in the first argument where that is
one. -/
def argumentTexts (d : Diagnostic) : List String :=
  let arguments := (d.subdiagnostics.head?.getD d).arguments
  match arguments with
  | .diagnostic nested :: _ => nested.arguments.map Diagnostic.argumentText
  | _ => arguments.map Diagnostic.argumentText

/-- **The problem that a diagnostic reports**, if it is not ignored. -/
def report? (o : Options) (scene : Scene) (d : Diagnostic) : Option Report :=
  let id := classify scene d
  let severity := severity o id d.kind
  if id = .ignored ∨ severity = .ignore then none
  else
    let span := highlight scene id d
    some
      { file := scene.file
        message := d.message
        foreignCode := d.code
        id := id
        arguments := argumentTexts d
        severity := severity
        start := span.start
        last := wrap32 (span.start + span.length - 1)
        line := d.line
        column := d.column }

/-- The problems that diagnostics report, in order. -/
def reports (o : Options) (scene : Scene) (ds : List Diagnostic) : List Report :=
  ds.filterMap (report? o scene)

namespace Report

/-- Whether a problem is an error. -/
def isError (r : Report) : Bool :=
  r.severity == .error

/-- Whether a problem is a warning. -/
def isWarning (r : Report) : Bool :=
  r.severity == .warning

end Report

end Problem

end TreeBridge

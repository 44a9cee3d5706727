import TreeBridge.Completion.Documentation
import TreeBridge.Completion.Position
import TreeBridge.Conversion.Unit
import TreeBridge.Lowering.Unit
import TreeBridge.Resolution.Failure
import TreeBridge.Resolution.Unit
/-!
# Resolving units

From the source of a unit to the resolved unit: the foreign tree is
converted, nodes without a span are positioned, doc comments are attached
and diagnostics become problems, in this order. Several units are
resolved each on its own.
-/

namespace TreeBridge

/-- How units are to be resolved. -/
structure Settings where
  level : Unified.Level
  options : Options
  withBindings : Bool

/-- The newest level, no options, and bindings. -/
def Settings.default : Settings :=
  ⟨.latest, .empty, true⟩

/-- **Resolves a unit from its foreign tree.** -/
def resolveParsed (settings : Settings) (file : String) (source : Source)
    (parsed : ForeignUnit) : Except Failure CompilationUnit :=
  match convert source settings.level parsed.root with
  | .error what => .error (.unsupported what)
  | .ok converted =>
    let comments := Lexical.comments source
    let (_, arena) := reconcile source comments converted.root converted.arena
    let (_, arena) := attachDocs source comments converted.root arena
    let scene : Problem.Scene := ⟨file, source, .ofTree parsed.root⟩
    .ok
      { file := file
        source := source
        arena := arena
        root := converted.root
        level := settings.level
        lineEnds := .ofBytes source.bytes
        comments := comments
        problems := Problem.reports settings.options scene parsed.diagnostics
        origins := converted.origins
        bindings :=
          if settings.withBindings then some (.ofRoot arena converted.root) else none }

/-- A unit to resolve: the name of its file, its source and the concrete
tree of the source. -/
structure Input where
  file : String
  source : Source
  tree : Concrete.Node

/-- **Resolves a unit from its source.** -/
def resolve (settings : Settings) (input : Input) : Except Failure CompilationUnit :=
  resolveParsed settings input.file input.source (parse input.source input.tree)

/-- Resolves several units. Once the work is cancelled no unit is
resolved any more. -/
def resolveAll (settings : Settings) (isCancelled : Bool) (inputs : List Input) :
    List (Except Failure CompilationUnit) :=
  inputs.map (fun input => if isCancelled then .error .cancelled else resolve settings input)

end TreeBridge

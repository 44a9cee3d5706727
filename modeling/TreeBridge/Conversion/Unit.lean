import TreeBridge.Conversion.Statement
/-!
# Units

The conversion of a whole unit: its package clause, its imports and its
types. Other trees at the top of a unit are dropped. The unit spans the
source text, whatever its tree says.
-/

namespace TreeBridge

namespace Conversion

open Foreign (Tree)
open Foreign.Tree (Part Parts)
open Unified (NodeId Arena)

/-- **The actions of a conversion on a tree.** -/
def actions (t : Tree) : Actions :=
  let below : Below t := fun p => actions p.1
  { name := name below
    type := type below
    expression := expression below
    annotated := annotated below
    statement := statement below
    typeDeclaration := typeDeclaration below }
termination_by sizeOf t
decreasing_by exact p.2

section

variable {t : Tree} (below : Below t)

/-- Converts a package clause. -/
def packageClause (p : Part t) : Convert NodeId :=
  match p.parts with
  | .package annotations name => do
    let id ← alloc p.1 .packageDeclaration
    addEach id .annotations annotations (fun p => (below p).annotated)
    addPart id .name (below name).name
    pure id
  | _ => unsupported p.1

/-- The name that an import names, and whether it imports on demand: a
selection of `*` does. -/
def importedName (p : Part t) : Part t × Bool :=
  match p.parts with
  | .select selected "*" => (selected, true)
  | _ => (p, false)

/-- Converts an import under a unit. -/
def addImport (owner : NodeId) (p : Part t) : Convert Unit :=
  match p.parts with
  | .importing whole isStatic => do
    let (imported, onDemand) := importedName whole
    let id ← alloc p.1 (.importDeclaration isStatic onDemand)
    addPart id .name (below imported).name
    addChild owner .imports id
  | _ => pure ()

/-- Converts a member of a unit under it. -/
def addTopLevel (owner : NodeId) (p : Part t) : Convert Unit :=
  match p.parts with
  | .classDef .. => addPart owner .types (below p).typeDeclaration
  | _ => pure ()

/-- Converts a tree to a unit. -/
def unit : Convert NodeId :=
  match t.parts with
  | .unit clause imports members => do
    let id ← allocAt t .compilationUnit ⟨0, wrap32 (← read).source.size⟩
    addOptional id .package clause (packageClause below)
    imports.forM (addImport below id)
    members.forM (addTopLevel below id)
    pure id
  | _ => unsupported t

end

end Conversion

/-- A unified tree in its arena, with the ids of the foreign trees that
its nodes came from. -/
structure ConvertedUnit where
  arena : Unified.Arena
  root : Unified.NodeId
  origins : List (Unified.NodeId × Nat)

/-- **Converts the foreign tree of a source** at an API level. -/
def convert (source : Source) (level : Unified.Level) (root : Foreign.Tree) :
    Except Conversion.Unsupported ConvertedUnit := do
  let (id, σ) ← Conversion.unit (fun p : Foreign.Tree.Part root => Conversion.actions p.1)
    ⟨source, level, ""⟩ Conversion.State.initial
  pure ⟨σ.arena, id, σ.origins⟩

end TreeBridge

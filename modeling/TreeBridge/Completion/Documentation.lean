import TreeBridge.Lexical.Scan
import TreeBridge.Unified.Arena
/-!
# Attaching doc comments

A doc comment documents the declaration that starts at the first code
token after it. The declaration gets a node for the comment as its first
child and its span grows back to the start of the comment. A declaration
that already has one, or that has an earlier sibling which reaches past
the start of the comment, is left alone.
-/

namespace TreeBridge

namespace Completion

open Unified (NodeId NodeKind Arena)

/-- Package clauses and members of bodies can be documented. -/
def isDocumentable (kind : NodeKind) : Bool :=
  kind.isBodyDeclaration || kind == .packageDeclaration

/-- The positioned nodes of a tree that can be documented. -/
def documentable (a : Arena) (root : NodeId) : List NodeId :=
  (a.preorder root).filter (fun id => isDocumentable (a.kind id) && (a.span id).isSet)

/-- Whether a sibling before a node reaches past the start of a span. -/
def reachedByEarlierSibling (a : Arena) (target : NodeId) (span : Span) : Bool :=
  match a.parent target with
  | none => false
  | some parent =>
    ((a.children parent).takeWhile (fun c => c != target)).any (fun c =>
      (a.span c).overlaps span || decide (span.start < (a.span c).stop))

/-- Grows the statement around a local type with the type. -/
def widenStatement (a : Arena) (target : NodeId) (span : Span) : Arena :=
  match a.parent target with
  | some parent =>
    if a.kind parent = .typeDeclarationStatement then
      a.setSpan parent ((a.span parent).cover span)
    else a
  | none => a

/-- Attaches the comment over a span to a declaration. -/
def document (a : Arena) (target : NodeId) (span : Span) : Arena :=
  let (doc, a) := a.alloc .javadoc span
  let a := a.addChildFirst target .javadoc doc
  let grown := span.cover (a.span target)
  widenStatement (a.setSpan target grown) target grown

/-- The declaration that a comment over a span documents. -/
def documented? (s : Source) (candidates : List NodeId) (a : Arena) (span : Span) :
    Option NodeId :=
  match Lexical.codeTokens s span.stop with
  | [] => none
  | next :: _ =>
    match candidates.find? (fun id => (a.span id).start == next.start) with
    | none => none
    | some target =>
      if (a.child? target .javadoc).isSome || reachedByEarlierSibling a target span then none
      else some target

/-- Attaches one comment, if it documents a declaration, and counts
it. -/
def attachDoc (s : Source) (candidates : List NodeId) (a : Arena × Nat) (c : Comment) :
    Arena × Nat :=
  match documented? s candidates a.1 c.span with
  | some target => (document a.1 target c.span, a.2 + 1)
  | none => a

end Completion

open Completion in
/-- **Attaches the doc comments of a source** to the declarations of a
tree, in the order of the text, and counts the attached ones. -/
def attachDocs (s : Source) (comments : List Comment) (root : Unified.NodeId)
    (arena : Unified.Arena) : Nat × Unified.Arena :=
  let candidates := documentable arena root
  let (arena, attached) := (comments.filter Comment.isDoc).foldl (attachDoc s candidates)
    (arena, 0)
  (attached, arena)

end TreeBridge

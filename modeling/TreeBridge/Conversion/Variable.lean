import TreeBridge.Conversion.Group
import TreeBridge.Conversion.Type
/-!
# Modifiers and variables

The conversion of modifiers, of parameters and of declarations of
variables. Names of variables stand at the position of their tree; the
keywords of modifiers have no position yet.
-/

namespace TreeBridge

namespace Conversion

open Foreign (Tree)
open Foreign.Tree (Part Parts)
open Unified (NodeId NodeKind)

section

variable {t : Tree} (below : Below t)

/-! ## Modifiers -/

/-- The keywords that spell the flags of a word. -/
def keywordsOf (flags : UInt64) : List Unified.Keyword :=
  (Foreign.Flag.keywordsIn flags).filterMap Unified.Keyword.ofText?

/-- Converts modifiers under a declaration: the uses of annotations, then
the keywords. Flags in `implied` were spelled by nobody. -/
def addModifiers (owner : NodeId) (mods : Foreign.Modifiers (Part t)) (implied : UInt64) :
    Convert Unit := do
  addEach owner .modifiers mods.annotations (fun p => (below p).annotated)
  addEach owner .modifiers (keywordsOf (mods.flags &&& ~~~implied))
    (fun keyword => synthetic (.modifier keyword) .unset)

/-! ## Fragments -/

/-- The end of a number of bracket pairs after an offset, or the offset
itself if there are not as many. -/
def dimensionsEnd (after : Int) (dims : Nat) (limit : Int) : Convert Int := do
  let tokens ← tokensBetween after limit
  let brackets := tokens.filter (fun token => token.kind == .rightBracket)
  match dims with
  | 0 => pure after
  | dims + 1 =>
    match brackets[dims]? with
    | some bracket => pure bracket.stop
    | none => pure after

/-- The end of a fragment: that of its value, or that of its name with
the dimensions. -/
def fragmentEnd (v : Declared t) : Convert Int :=
  match v.parts.value with
  | some value => pure value.1.stop
  | none =>
    dimensionsEnd (wrap32 (v.tree.position + v.parts.name.utf8ByteSize)) v.parts.dims
      v.tree.stop

/-- Converts an expression if there is one. -/
def optionalExpression (p : Option (Part t)) : Convert (Option NodeId) :=
  match p with
  | some p => do pure (some (← (below p).expression))
  | none => pure none

/-- Converts the name, the dimensions and the value of a variable. -/
def fragment (v : Declared t) : Convert NodeId := do
  let name ← nameAt v.parts.name v.tree.position
  let value ← optionalExpression below v.parts.value
  let stop ← fragmentEnd v
  let id ← allocAt v.tree (.variableDeclarationFragment v.parts.dims)
    (.ofBounds v.tree.position stop)
  addChild id .name name
  change (fun a => a.addOpt id .initializer value)
  pure id

/-- Converts variables declared together to one declaration. The
modifiers and the type are those of the first; the others repeat them. -/
def mergedDeclaration (kind : NodeKind) (first : Declared t) (more : List (Declared t))
    (stop : Int) : Convert NodeId := do
  let id ← allocAt first.tree kind (.ofBounds first.tree.start stop)
  addModifiers below id first.parts.mods 0
  addOptional id .type first.parts.type (fun p => (below p).type)
  addEach id .fragments (first :: more) (fragment below)
  pure id

/-- The end of the last of several variables. -/
def groupEnd (first : Declared t) (more : List (Declared t)) : Int :=
  (more.getLastD first).tree.stop

/-- Converts variables declared together to a declaration that ends where
the last of them does. -/
def declaration (kind : NodeKind) (first : Declared t) (more : List (Declared t)) :
    Convert NodeId :=
  mergedDeclaration below kind first more (groupEnd first more)

/-- The byte of a semicolon. -/
def semicolon : UInt8 := 0x3b

/-- The end of a declaration in an expression: a closing semicolon does
not belong to it. -/
def expressionEnd (start stop : Int) : Convert Int := do
  let s := (← read).source
  if 0 < stop && s.bytes[(stop - 1).toNat]? == some semicolon then
    let tokens ← tokensBetween start (stop - 1)
    match tokens.getLast? with
    | some token => pure token.stop
    | none => pure (stop - 1)
  else pure stop

/-- Converts variables declared together as an expression: in the head of
a loop or as a resource. -/
def declarationExpression (first : Declared t) (more : List (Declared t)) :
    Convert NodeId := do
  let stop ← expressionEnd first.tree.start (groupEnd first more)
  mergedDeclaration below .variableDeclarationExpression first more stop

/-! ## Parameters -/

/-- Converts a parameter or any other variable that is declared alone. -/
def parameter (p : Part t) (implied : UInt64) : Convert NodeId :=
  match declared? p with
  | none => unsupported p.1
  | some v => do
    let id ← alloc p.1 (.singleVariableDeclaration
      (Foreign.Flag.isIn Foreign.Flag.varargs v.parts.mods.flags) v.parts.dims)
    addModifiers below id v.parts.mods implied
    addOptional id .type v.parts.type (fun p => (below p).type)
    addPart id .name (nameAt v.parts.name p.1.position)
    addOptional id .initializer v.parts.value (fun p => (below p).expression)
    pure id

/-- Converts a parameter of a lambda: one without a type is a bare
fragment. -/
def lambdaParameter (p : Part t) : Convert NodeId :=
  match declared? p with
  | some ⟨_, ⟨_, identifier, none, _, _⟩⟩ => do
    let name ← nameAt identifier p.1.position
    let id ← alloc p.1 (.variableDeclarationFragment 0)
    addChild id .name name
    pure id
  | _ => parameter below p 0

/-! ## Blocks -/

/-- Converts a statement or the variables declared together. -/
def groupedStatement : Group t → Convert NodeId
  | .together first more => declaration below .variableDeclarationStatement first more
  | .single p => (below p).statement

/-- Converts statements under a node. -/
def addStatements (owner : NodeId) (ps : Parts t) : Convert Unit :=
  addEach owner .statements (groups ps) (groupedStatement below)

/-- Converts a part to a block. -/
def blockAt (p : Part t) : Convert NodeId :=
  match p.parts with
  | .block _ statements => do
    let id ← alloc p.1 .block
    addStatements below id statements
    pure id
  | _ => unsupported p.1

end

end Conversion

end TreeBridge

import TreeBridge.Lowering.Build
/-!
# Names, annotations and modifiers

The lowering of dotted names, of uses of annotations with their values,
and of the modifiers of a declaration.
-/

namespace TreeBridge

namespace Lowering

open Foreign (Diagnostic)
open Concrete (Node Kind)
open Concrete.Node (Part Parts)

section

variable (s : Source) {n : Node} (below : Below n)

/-- The text of a part if there is one. -/
def textOf (p : Option (Part n)) : String :=
  match p with
  | some p => p.text s
  | none => ""

/-- The start of a part, or another offset if there is none. -/
def startOr (p : Option (Part n)) (offset : Int) : Int :=
  match p with
  | some p => p.start
  | none => offset

/-- The end of a part, or another offset if there is none. -/
def stopOr (p : Option (Part n)) (offset : Int) : Int :=
  match p with
  | some p => p.stop
  | none => offset

/-- The start of a token among parts, or another offset if there is
none. -/
def tokenOr (ps : Parts n) (text : String) (offset : Int) : Int :=
  match ps.tokenStart? text with
  | some start => start
  | none => offset

/-- The offset of the dot before a part; without a dot, the offset right
before it. -/
def dotBefore (ps : Parts n) (last : Part n) : Int :=
  match ps.tokenBefore? "." last.start with
  | some dot => dot
  | none => (last.start : Int) - 1

/-- Reads a node as an identifier. -/
def identifier (n : Node) : Build Foreign.Tree :=
  spanning n (.ident (n.text s))

/-- Reads a dotted name. -/
def scopedName : Build Foreign.Tree :=
  match n.parts.field? .scope, n.parts.field? .name with
  | some scope, some last => do
    let selected ← (below scope).name
    makeOver n (dotBefore n.parts last) (.select selected (last.text s))
  | _, _ => malformed below

/-- Reads a pair of an element and its value in a use of an
annotation. -/
def elementPair (pair : Part n) : Build Foreign.Tree := do
  let left ← orPlaceholder below (pair.parts.field? .key) pair.start (·.name)
  let right ← orPlaceholder below (pair.parts.field? .value) pair.stop (·.element)
  makeOver pair.1 (tokenOr pair.parts "=" pair.start) (.assign left right)

/-- Reads a use of an annotation. -/
def annotated : Build Foreign.Tree := do
  let type ← orPlaceholder below (n.parts.field? .name) n.start (·.name)
  let list := (n.parts.field? .arguments).map (fun p => p.parts.named)
  let arguments ← (list.getD []).mapM (fun p =>
    if p.kind = .elementValuePair then elementPair below p else (below p).element)
  spanning n (.annotationUse type arguments)

/-- Reads the braces around several values of an annotation element. -/
def elementArray : Build Foreign.Tree := do
  let elements ← each below n.parts.named (·.element)
  spanning n (.newArray none [] 0 (some elements))

/-! ## Modifiers -/

/-- The report of a keyword that is repeated. -/
def repeatedModifier (p : Part n) : Diagnostic :=
  .errorAt "compiler.err.repeated.modifier" "repeated modifier" p.start p.stop

/-- The report of two keywords of access together. -/
def accessConflict (mods : Part n) (first second : String) : Diagnostic :=
  { Diagnostic.errorAt "compiler.err.illegal.combination.of.modifiers"
      ("illegal combination of modifiers: " ++ first ++ " and " ++ second)
      mods.start mods.stop with
    arguments := [.text first, .text second] }

/-- Reads one modifier after others. A word that is no keyword is passed
over. -/
def addModifier (mods : Foreign.Modifiers Foreign.Tree) (p : Part n) :
    Build (Foreign.Modifiers Foreign.Tree) :=
  if p.kind.annotates then do
    let a ← (below p).annotated
    pure { mods with annotations := mods.annotations ++ [a] }
  else if p.kind.isComment then pure mods
  else
    match Foreign.Flag.ofKeyword? (p.text s) with
    | none => pure mods
    | some flag => do
      if Foreign.Flag.isIn flag mods.flags then reportUnsettled (repeatedModifier p)
      pure (mods.withFlags flag)

/-- Reports the first two keywords of access among modifiers. -/
def reportAccess (p : Part n) (mods : Foreign.Modifiers Foreign.Tree) : Build Unit :=
  match Foreign.Flag.keywordsIn (mods.flags &&& Foreign.Flag.access) with
  | first :: second :: _ => reportUnsettled (accessConflict p first second)
  | _ => pure ()

/-- Reads the modifiers that are left in a node after others. -/
def modifiersAfter (p : Part n) (mods : Foreign.Modifiers Foreign.Tree) (ps : Parts n) :
    Build (Foreign.Modifiers Foreign.Tree) := do
  let mods ← ps.foldlM (addModifier s below) mods
  reportAccess p mods
  pure mods

/-- The modifiers in a node before any is read. -/
def modifiersAt (p : Part n) : Foreign.Modifiers Foreign.Tree :=
  ⟨0, [], p.start, p.stop⟩

/-- Reads the modifiers of a declaration. -/
def modifiers (mods : Option (Part n)) : Build (Foreign.Modifiers Foreign.Tree) :=
  match mods with
  | none => pure .empty
  | some p => modifiersAfter s below p (modifiersAt p) p.parts

/-- Reads the modifiers among parts. -/
def modifiersOf (ps : Parts n) : Build (Foreign.Modifiers Foreign.Tree) :=
  modifiers s below (ps.ofKind? .modifiers)

/-- Reads a declaration: the modifiers among parts, then the rest. It may
be one that settles the reports that wait. -/
def declaring (ps : Parts n) (settles : Bool)
    (rest : Foreign.Modifiers Foreign.Tree → Build Foreign.Tree) : Build Foreign.Tree := do
  let mods ← modifiersOf s below ps
  if settles then settled (rest mods) else rest mods

end

end Lowering

end TreeBridge

import TreeBridge.Lexical.Scan
import TreeBridge.Problem.Message
import TreeBridge.Problem.Scene
/-!
# Highlighting problems

The span of the source that a problem is reported at. A diagnostic says
where it is, but some problems are better shown at a name, at the head of
a method or at the token next to an empty position. That place comes from
the trees around and from the tokens of the source.
-/

namespace TreeBridge

namespace Problem

open Foreign (Tree Shape Tag Diagnostic)

/-- The span from one offset over a stretch that ends at another. -/
def spanTo (start stop : Int) : Span :=
  ⟨start, wrap32 (stop - start)⟩

/-- The span that a diagnostic itself gives, from the earlier of its
position and its start. -/
def ownSpan (d : Diagnostic) : Span :=
  let start := min d.position d.start
  spanTo start (max d.stop start)

/-- The span of the text of a tree. -/
def treeSpan (t : Tree) : Span :=
  .ofBounds t.start t.stop

/-! ## Names -/

/-- The span of the first occurrence of a name at or after the position
of a diagnostic, or its own. -/
def nameSpan (s : Source) (name : String) (d : Diagnostic) : Span :=
  if name.isEmpty then ownSpan d
  else
    match s.find? (utf8 name.toList) d.position with
    | some hit => ⟨hit, wrap32 name.utf8ByteSize⟩
    | none => ownSpan d

/-- Whether a member of a class was written by nobody. -/
def isGenerated (t : Tree) : Bool :=
  match t.shape with
  | .methodDef mods _ _ _ _ _ _ _ _ =>
    Foreign.Flag.isIn Foreign.Flag.generatedConstructor mods.flags
  | _ => false

/-- The span of a problem with a class: its name, unless the class starts
with its first member. -/
def classSpan (s : Source) (name : String) (members : List Tree) (start : Int)
    (d : Diagnostic) : Span :=
  if d.position != -1 && (members.all isGenerated || members.head?.map Tree.start != some start)
  then nameSpan s name d
  else ownSpan d

/-! ## Methods -/

/-- The problems that are shown up to the end of the parameters. -/
def showsParameters (id : Id) : Bool :=
  id == .finalMethodCannotBeOverridden ||
    id == .cannotOverrideAStaticMethodWithAnInstanceMethod

/-- The offset of the first closing parenthesis at or after the position
of a diagnostic. -/
def closing? (s : Source) (d : Diagnostic) : Option Int :=
  if d.position = -1 then none else s.find? (utf8 [')']) d.position

/-- The span of a problem with a method. -/
def methodSpan (s : Source) (name : String) (id : Id) (d : Diagnostic) : Span :=
  match showsParameters id, closing? s d with
  | true, some close => spanTo d.position (close + 1)
  | _, _ => nameSpan s name d

/-- What reading the tokens before a body has found of the head of its
method: the name and the two parentheses. -/
structure HeadRead where
  name : Option Lexical.Token
  left : Option Lexical.Token
  right : Option Lexical.Token

/-- Reads one token before a body. -/
def readHead (read : HeadRead) (token : Lexical.Token) : HeadRead :=
  match token.kind with
  | .identifier => if read.left.isNone then { read with name := some token } else read
  | .leftParen => { read with left := some token }
  | .rightParen => if read.name.isSome then { read with right := some token } else read
  | .rightBrace | .semicolon => ⟨none, none, none⟩
  | _ => read

/-- The span of the head of the method whose body starts at an offset,
without the parenthesis that closes it. -/
def headSpan? (s : Source) (start : Int) : Option Span :=
  let tokens := (Lexical.codeTokens s 0).takeWhile (fun t => decide ((t.start : Int) ≤ start))
  match tokens.foldl readHead ⟨none, none, none⟩ with
  | ⟨some name, some _, some right⟩ =>
    some ⟨min (name.start : Int) (s.size - 1), max ((right.stop : Int) - name.start - 1) 0⟩
  | _ => none

/-- The span of a missing return, which is shown at the head of the
method. -/
def missingReturnSpan (s : Source) (t : Option Tree) (d : Diagnostic) : Span :=
  match t with
  | none => ownSpan d
  | some t =>
    match t.shape with
    | .block .. => (headSpan? s t.start).getD (ownSpan d)
    | _ => ownSpan d

/-! ## Empty positions -/

/-- The token at an offset, or the one before it where that is a bracket
and the one before is none; after the last token, the last one. -/
def tokenNear (offset : Int) (tokens : List Lexical.Token) : Option Lexical.Token :=
  let earlier := tokens.takeWhile (fun t => decide ((t.stop : Int) ≤ offset))
  match tokens[earlier.length]?, earlier.getLast? with
  | some next, some previous =>
    if next.kind.isBracket && !previous.kind.isBracket then some previous else some next
  | some next, none => some next
  | none, previous => previous

/-- The span of the token near an offset, without its last byte. -/
def spanNear (s : Source) (offset : Int) : Span :=
  match tokenNear offset (Lexical.codeTokens s 0) with
  | some token =>
    ⟨min (token.start : Int) (s.size - 1), max ((token.stop : Int) - token.start - 1) 0⟩
  | none => ⟨max offset 0, 0⟩

/-! ## Doc comments -/

/-- Whether a diagnostic is about a doc comment. -/
def isAboutDoc (d : Diagnostic) : Bool :=
  Text.hasInfix ".dc".toList d.code.toList || d.code == "compiler.warn.proc.messager"

/-- The span of the parameter with a name among parameters. -/
def parameterSpan? (name : String) (parameters : List Tree) : Option Span :=
  parameters.findSome? (fun p =>
    match p.shape with
    | .varDef _ own _ _ _ =>
      if own = name then some ⟨p.position, wrap32 own.utf8ByteSize⟩ else none
    | _ => none)

/-- The part of a method that a problem in its doc comment is about. -/
def documentedSpan? (id : Id) (message : String) (t : Tree) : Option Span :=
  match t.shape with
  | .methodDef _ _ _ returnType parameters _ thrown _ _ =>
    match id with
    | .javadocMissingParamTag =>
      (Message.undocumented? message).bind (fun name => parameterSpan? name parameters)
    | .javadocMissingReturnTag => returnType.map treeSpan
    | .javadocMissingThrowsTag => thrown.head?.map treeSpan
    | _ => none
  | _ => none

/-! ## Choosing the tree -/

/-- The last end of several trees, if one is known. -/
def lastEnd? (trees : List Tree) : Option Int :=
  ((trees.map Tree.stop).max?).filter (fun stop => decide (0 ≤ stop))

/-- The span from the name of a method to the end of its throws clause. -/
def throwsSpan? (t : Option Tree) : Option Span :=
  match t with
  | none => none
  | some t =>
    match t.shape with
    | .methodDef _ _ _ _ _ _ thrown _ _ => (lastEnd? thrown).map (spanTo t.position)
    | _ => none

/-- The call whose argument a trail starts in, with the trees above it:
the first tree above the leaf that is a call or no expression. -/
def toCall (trail : List Tree) : List Tree :=
  (trail.drop 1).dropWhile (fun t => t.isExpression && t.tag != .call)

/-- The span of the name of the method that a tree calls. -/
def calledSpan? (t : Tree) : Option Span :=
  match t.shape with
  | .call _ method _ =>
    match method.shape with
    | .ident _ => some (treeSpan method)
    | .select _ _ => some (.ofBounds (wrap32 (method.position + 1)) method.stop)
    | _ => none
  | _ => none

/-- The superclass of a class. -/
def superclass? (t : Tree) : Option Tree :=
  match t.shape with
  | .classDef _ _ _ _ extending _ _ _ => extending
  | _ => none

/-- The name of the first type among the arguments of a diagnostic. -/
def typeArgument? (d : Diagnostic) : Option String :=
  d.arguments.findSome? (fun a =>
    match a with
    | .symbol (.type _) name => some name
    | _ => none)

/-- The part of a dotted name after its last dot. -/
def lastSegment (name : String) : String :=
  String.ofList (name.toList.reverse.takeWhile (fun c => c != '.')).reverse

/-- The interface of a class with a simple name. -/
def interface? (name : String) (t : Tree) : Option Tree :=
  match t.shape with
  | .classDef _ _ _ _ _ implementing _ _ =>
    implementing.find? (fun i => i.identName? == some name)
  | _ => none

/-- The trail to a part of the leaf of a trail, if the leaf has it. -/
def trailTo (scene : Scene) (trail : List Tree) (part? : Tree → Option Tree) : List Tree :=
  match trail.head?.bind part? with
  | some part => scene.upFrom part.id
  | none => trail

/-- The trail from the tree that a problem is shown at. -/
def shownTrail (scene : Scene) (id : Id) (d : Diagnostic) : List Tree :=
  let trail := scene.trail d
  match id with
  | .parameterMismatch => toCall trail
  | .notVisibleConstructorInDefaultConstructor
  | .undefinedConstructorInDefaultConstructor => trail.dropWhile (fun t => t.tag != .classDef)
  | .sealedSuperClassDoesNotPermit => trailTo scene trail superclass?
  | .sealedSuperInterfaceDoesNotPermit =>
    match typeArgument? d with
    | some name => trailTo scene trail (interface? (lastSegment name))
    | none => trail
  | _ => trail

/-- Whether a diagnostic names a package. -/
def namesPackage (d : Diagnostic) : Bool :=
  d.kindName? == some .packageKind || d.arguments.any (fun a =>
    match a with
    | .symbol .package _ => true
    | _ => false)

/-- The span of a problem with a tree that has no name. -/
def unnamedSpan (scene : Scene) (t : Tree) (d : Diagnostic) : Span :=
  if d.code = "compiler.err.missing.ret.stmt" then
    missingReturnSpan scene.source (scene.tree? d) d
  else if d.start = d.stop then spanNear scene.source t.position
  else ownSpan d

/-- The span of a problem with a tree. -/
def elementSpan (scene : Scene) (id : Id) (d : Diagnostic) (t : Tree) : Span :=
  match t.shape with
  | .classDef _ name _ _ _ _ _ members => classSpan scene.source name members t.start d
  | .varDef _ name _ _ _ => nameSpan scene.source name d
  | .ident name => nameSpan scene.source name d
  | .methodDef _ name _ _ _ _ _ _ _ => methodSpan scene.source name id d
  | .select _ name =>
    if namesPackage d then unnamedSpan scene t d
    else ⟨wrap32 (t.position + 1), wrap32 name.utf8ByteSize⟩
  | _ => unnamedSpan scene t d

/-- The span that the end of a throws clause or the name of a called
method gives. -/
def specialSpan? (scene : Scene) (id : Id) (d : Diagnostic) : Option Span :=
  match id with
  | .incompatibleExceptionInThrowsClause => throwsSpan? (scene.tree? d)
  | .parameterMismatch => (toCall (scene.trail d)).head?.bind calledSpan?
  | _ => none

/-- The span of a problem by the trees around. -/
def sceneSpan (scene : Scene) (id : Id) (d : Diagnostic) : Span :=
  match specialSpan? scene id d with
  | some span => span
  | none =>
    match (shownTrail scene id d).head?.or (scene.tree? d) with
    | some t => elementSpan scene id d t
    | none => ownSpan d

/-- **The span that a problem is reported at.** -/
def highlight (scene : Scene) (id : Id) (d : Diagnostic) : Span :=
  if isAboutDoc d then
    ((scene.tree? d).bind (documentedSpan? id d.message)).getD (ownSpan d)
  else sceneSpan scene id d

end Problem

end TreeBridge

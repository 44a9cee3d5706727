import TreeBridge.Conversion.Unit
/-!
# What a conversion refuses

A tree is converted in a role: as a name, a type, an expression, a use of
an annotation, a statement or the declaration of a type. A role asks for
the parts of the tree in roles of their own, in a fixed order, and a tree
that has no counterpart in its role is refused. The first refusal in that
order is a function of the tree and of whether permitted types are shown:
no source text, no position and no node of the arena has a say in it.
-/

namespace TreeBridge

namespace Conversion

open Foreign (Tree Tag ClassKind)
open Foreign.Tree (Part Parts)

/-- The first refusal of a tree in each of the roles. -/
structure Refusals where
  name : Option Unsupported
  type : Option Unsupported
  expression : Option Unsupported
  annotated : Option Unsupported
  statement : Option Unsupported
  typeDeclaration : Option Unsupported

/-- The refusals of every part of a tree. -/
abbrev RefusalsBelow (t : Tree) : Type :=
  Part t → Refusals

namespace Refusal

/-- The refusal of a tree itself. -/
def here (t : Tree) : Option Unsupported :=
  some ⟨.tree t.tag, t.start⟩

/-- The first refusal among several things. -/
def each {α : Type} (xs : List α) (f : α → Option Unsupported) : Option Unsupported :=
  xs.findSome? f

/-- The refusal of a thing that may be missing. -/
def optional {α : Type} (x : Option α) (f : α → Option Unsupported) : Option Unsupported :=
  x.bind f

section

variable {t : Tree} (below : RefusalsBelow t)

def types (ps : Parts t) : Option Unsupported :=
  each ps fun p => (below p).type

def expressions (ps : Parts t) : Option Unsupported :=
  each ps fun p => (below p).expression

def annotations (ps : Parts t) : Option Unsupported :=
  each ps fun p => (below p).annotated

/-! ## Names and types -/

def name : Option Unsupported :=
  match t.parts with
  | .ident _ => none
  | .select selected _ => (below selected).name
  | .erroneous _ => none
  | _ => here t

def type : Option Unsupported :=
  match t.parts with
  | .typeIdent tag =>
    match primitiveCode? tag with
    | some _ => none
    | none => some ⟨.literalType tag, t.start⟩
  | .ident _ => name below
  | .select selected _ => if isNameChain t then name below else (below selected).type
  | .typeApply base arguments =>
    (below base).type.or (types below arguments)
  | .typeArray element => (below (arrayElement element)).type
  | .wildcard _ inner => optional inner fun p => (below p).type
  | .typeUnion alternatives => types below alternatives
  | .typeIntersection bounds => types below bounds
  | .annotatedType list underlying =>
    (below underlying).type.or (annotations below list.reverse)
  | .erroneous _ => none
  | _ => here t

/-! ## Variables -/

def modifiers (mods : Foreign.Modifiers (Part t)) : Option Unsupported :=
  annotations below mods.annotations

def fragment (v : Declared t) : Option Unsupported :=
  optional v.parts.value fun p => (below p).expression

def declaration (first : Declared t) (more : List (Declared t)) : Option Unsupported :=
  (modifiers below first.parts.mods).or
    ((optional first.parts.type fun p => (below p).type).or
      (each (first :: more) (fragment below)))

def parameter (p : Part t) : Option Unsupported :=
  match declared? p with
  | none => here p.1
  | some v =>
    (modifiers below v.parts.mods).or
      ((optional v.parts.type fun p => (below p).type).or
        (optional v.parts.value fun p => (below p).expression))

def lambdaParameter (p : Part t) : Option Unsupported :=
  match declared? p with
  | some ⟨_, ⟨_, _, none, _, _⟩⟩ => none
  | _ => parameter below p

def groupedStatement : Group t → Option Unsupported
  | .together first more => declaration below first more
  | .single p => (below p).statement

def statements (ps : Parts t) : Option Unsupported :=
  each (groups ps) (groupedStatement below)

def blockAt (p : Part t) : Option Unsupported :=
  match p.parts with
  | .block _ ps => statements below ps
  | _ => here p.1

/-! ## Members -/

def typeParameter (p : Part t) : Option Unsupported :=
  match p.parts with
  | .typeParameter _ list bounds => (annotations below list).or (types below bounds)
  | _ => here p.1

def method (p : Part t) : Option Unsupported :=
  match p.parts with
  | .methodDef mods _ typeParameters returnType parameters _ thrown body _ =>
    (modifiers below mods).or <| (each typeParameters (typeParameter below)).or <|
      (optional returnType fun p => (below p).type).or <|
      (each (parameters.filter (fun p => !isMalformed p)) (parameter below)).or <|
      (types below thrown).or (optional body (blockAt below))
  | _ => here p.1

def annotationMember (p : Part t) : Option Unsupported :=
  match p.parts with
  | .methodDef mods _ _ returnType _ _ _ _ defaultValue =>
    (modifiers below mods).or <| (optional returnType fun p => (below p).type).or
      (optional defaultValue fun p => (below p).expression)
  | _ => here p.1

def member (classKind : ClassKind) (p : Part t) : Option Unsupported :=
  match p.parts with
  | .classDef .. => (below p).typeDeclaration
  | .methodDef mods .. =>
    if Foreign.Flag.isIn Foreign.Flag.generatedConstructor mods.flags then none
    else if classKind = .annotationType then annotationMember below p
    else method below p
  | .block _ ps => statements below ps
  | .skip | .erroneous _ => none
  | _ => here p.1

def groupedMember (classKind : ClassKind) : Group t → Option Unsupported
  | .together first more => declaration below first more
  | .single p => member below classKind p

def members (classKind : ClassKind) (ps : Parts t) : Option Unsupported :=
  each (groups ps) (groupedMember below classKind)

def anonymousClass (p : Part t) : Option Unsupported :=
  match p.parts with
  | .classDef _ _ _ _ _ _ _ ps => members below .classType ps
  | _ => here p.1

def constantValue (value : Option (Part t)) : Option Unsupported :=
  match value with
  | none => none
  | some value =>
    match value.parts with
    | .newClass _ _ _ arguments body =>
      (expressions below arguments).or (optional body (anonymousClass below))
    | _ => none

def enumConstant (p : Part t) : Option Unsupported :=
  match declared? p with
  | none => here p.1
  | some v => (modifiers below v.parts.mods).or (constantValue below v.parts.value)

def headMember (classKind : ClassKind) (p : Part t) : Option Unsupported :=
  if isEnumConstant classKind p then enumConstant below p
  else if isComponent classKind p then parameter below p
  else none

def typeDeclaration (permitsShown : Bool) : Option Unsupported :=
  match t.parts with
  | .classDef mods _ classKind typeParameters extending implementing permitting ps =>
    (modifiers below mods).or <| (each typeParameters (typeParameter below)).or <|
      (optional extending fun p => (below p).type).or <|
      (types below implementing).or <|
      (if permitsShown then types below permitting else none).or <|
      (each ps (headMember below classKind)).or
        (members below classKind (bodyMembers classKind ps))
  | _ => here t

/-! ## Expressions -/

def pair (p : Part t) : Option Unsupported :=
  match p.parts with
  | .assign left right => (below left).name.or (below right).expression
  | _ => none

def annotatedWith (arguments : Parts t) : Option Unsupported :=
  match bareValue? arguments with
  | some value => (below value).expression
  | none => each arguments (pair below)

def annotated : Option Unsupported :=
  match t.parts with
  | .annotationUse type arguments => (below type).name.or (annotatedWith below arguments)
  | _ => here t

def caseLabel (p : Part t) : Option Unsupported :=
  match p.parts with
  | .bindingPattern binder => parameter below binder
  | .recordPattern .. | .anyPattern => here p.1
  | _ => (below p).expression

def switchCase (p : Part t) : Option Unsupported :=
  match p.parts with
  | .switchCase labels _ _ ps => (each labels (caseLabel below)).or (statements below ps)
  | _ => here p.1

def condition (p : Part t) : Option Unsupported :=
  (below (unparenthesized p)).expression

def switch (selector : Part t) (cases : Parts t) : Option Unsupported :=
  (condition below selector).or (each cases (switchCase below))

def both (left right : Part t) : Option Unsupported :=
  (below left).expression.or (below right).expression

def typeTest (expression pattern : Part t) : Option Unsupported :=
  match pattern.parts with
  | .bindingPattern binder => (below expression).expression.or (parameter below binder)
  | .anyPattern | .recordPattern .. => here pattern.1
  | _ => (below expression).expression.or (below pattern).type

def outer (p : Part t) : Option Unsupported :=
  optional (outerOfSuper? p) fun outer => (below outer).name

def selection (selected : Part t) (identifier : String) : Option Unsupported :=
  if identifier = "class" then (below selected).type
  else if identifier = "this" then (below selected).name
  else if isSuper selected.1 then outer below selected
  else if isNameChain t then name below
  else (below selected).expression

def call (typeArguments : Parts t) (method : Part t) (arguments : Parts t) :
    Option Unsupported :=
  match method.parts with
  | .select selected _ =>
    (if isSuper selected.1 then outer below selected else (below selected).expression).or <|
      (types below typeArguments).or (expressions below arguments)
  | .ident _ => (types below typeArguments).or (expressions below arguments)
  | _ => here method.1

def referenceTarget (expression : Part t) : Option Unsupported :=
  if isSuper expression.1 then outer below expression
  else if isTypeTree expression.1 then (below expression).type
  else (below expression).expression

def reference (mode : Foreign.ReferenceMode) (expression : Part t) (typeArguments : Parts t) :
    Option Unsupported :=
  match mode with
  | .create => (below expression).type.or (types below typeArguments)
  | .invoke => (referenceTarget below expression).or (types below typeArguments)

def newClass (enclosing : Option (Part t)) (typeArguments : Parts t) (type : Part t)
    (arguments : Parts t) (body : Option (Part t)) : Option Unsupported :=
  (optional enclosing fun p => (below p).expression).or <|
    (types below typeArguments).or <| (below type).type.or <|
    (expressions below arguments).or (optional body (anonymousClass below))

def lambdaBody (p : Part t) : Option Unsupported :=
  match p.parts with
  | .block .. => blockAt below p
  | _ => (below p).expression

def arrayCreation (elementType : Part t) (dims : Parts t) (elements : Option (Parts t)) :
    Option Unsupported :=
  (below elementType).type.or <| (expressions below dims).or
    (optional elements (expressions below))

def malformedExpression (salvaged : Parts t) : Option Unsupported :=
  optional (salvagedExpression? salvaged) fun p => (below p).expression

def unary (operator : Tag) (operand : Part t) : Option Unsupported :=
  (below operand).expression.or <|
    match unaryKind? operator with
    | none => some ⟨.tree operator, t.start⟩
    | some _ => none

def expression : Option Unsupported :=
  match t.parts with
  | .ident identifier => if identifier = "this" then none else name below
  | .literal _ _ => none
  | .parens inner => (below inner).expression
  | .select selected identifier => selection below selected identifier
  | .call typeArguments method arguments => call below typeArguments method arguments
  | .newClass enclosing typeArguments type arguments body =>
    newClass below enclosing typeArguments type arguments body
  | .newArray none _ _ elements => expressions below (elements.getD [])
  | .newArray (some elementType) dims _ elements => arrayCreation below elementType dims elements
  | .lambda parameters body _ =>
    (each parameters (lambdaParameter below)).or (lambdaBody below body)
  | .assign left right => both below left right
  | .assignOp operator left right =>
    match assignmentOperator? operator with
    | some _ => both below left right
    | none => some ⟨.tree operator, t.start⟩
  | .unary operator operand => unary below operator operand
  | .binary operator left right => expressions below (leftOperands operator left ++ [right])
  | .conditional test whenTrue whenFalse =>
    (below test).expression.or (both below whenTrue whenFalse)
  | .typeCast type operand => (below type).type.or (below operand).expression
  | .typeTest operand pattern => typeTest below operand pattern
  | .indexed array index => both below array index
  | .reference mode _ operand typeArguments => reference below mode operand typeArguments
  | .switchExpression selector cases => switch below selector cases
  | .annotationUse type arguments => (below type).name.or (annotatedWith below arguments)
  | .erroneous salvaged => malformedExpression below salvaged
  | .typeIdent _ | .typeArray _ | .typeApply .. | .annotatedType .. => none
  | _ => here t

/-! ## Statements -/

def executed (p : Part t) : Option Unsupported :=
  match p.parts with
  | .execute expression => (below expression).expression
  | _ => (below p).expression

def loopStart : Group t → Option Unsupported
  | .together first more => declaration below first more
  | .single p => executed below p

def resource (p : Part t) : Option Unsupported :=
  match declared? p with
  | some v => declaration below v []
  | none => (below p).expression

def catchClause (p : Part t) : Option Unsupported :=
  match p.parts with
  | .catcher param body => (parameter below param).or (blockAt below body)
  | _ => here p.1

def constructorCall (typeArguments : Parts t) (method : Part t) (arguments : Parts t) :
    Option Unsupported :=
  (optional (outerOfSuper? method) fun p => (below p).expression).or <|
    (types below typeArguments).or (expressions below arguments)

def execute (p : Part t) : Option Unsupported :=
  match p.parts with
  | .call typeArguments method arguments =>
    match constructorCall? method with
    | some _ => constructorCall below typeArguments method arguments
    | none => (below p).expression
  | _ => (below p).expression

def malformedStatement (salvaged : Parts t) : Option Unsupported :=
  match salvaged with
  | [only] => if only.1.isExpression then (below only).expression else (below only).statement
  | _ => none

def statement (permitsShown : Bool) : Option Unsupported :=
  match t.parts with
  | .block _ ps => statements below ps
  | .skip => none
  | .execute expression => execute below expression
  | .varDef mods name type dims value => declaration below ⟨t, ⟨mods, name, type, dims, value⟩⟩ []
  | .classDef .. => typeDeclaration below permitsShown
  | .branch test thenPart elsePart =>
    (condition below test).or <| (below thenPart).statement.or
      (optional elsePart fun p => (below p).statement)
  | .whileLoop test body => (condition below test).or (below body).statement
  | .doLoop body test => (below body).statement.or (condition below test)
  | .forLoop initial test step body =>
    (each (groups initial) (loopStart below)).or <|
      (optional test fun p => (below p).expression).or <|
      (each step (executed below)).or (below body).statement
  | .foreachLoop binder expression body =>
    (parameter below binder).or <| (below expression).expression.or (below body).statement
  | .labelled _ body => (below body).statement
  | .breakTo _ => none
  | .continueTo _ => none
  | .yieldValue value => (below value).expression
  | .returnValue value => optional value fun p => (below p).expression
  | .throwing value => (below value).expression
  | .switch selector cases => switch below selector cases
  | .synchronized lock body => (condition below lock).or (blockAt below body)
  | .tryBlock resources body catchers finalizer =>
    (each resources (resource below)).or <| (blockAt below body).or <|
      (each catchers (catchClause below)).or (optional finalizer (blockAt below))
  | .assertion test detail =>
    (below test).expression.or (optional detail fun p => (below p).expression)
  | .erroneous salvaged => malformedStatement below salvaged
  | _ => here t

/-! ## Units -/

def packageClause (p : Part t) : Option Unsupported :=
  match p.parts with
  | .package list name => (annotations below list).or (below name).name
  | _ => here p.1

def importing (p : Part t) : Option Unsupported :=
  match p.parts with
  | .importing whole _ => (below (importedName whole).1).name
  | _ => none

def topLevel (p : Part t) : Option Unsupported :=
  match p.parts with
  | .classDef .. => (below p).typeDeclaration
  | _ => none

def unit : Option Unsupported :=
  match t.parts with
  | .unit clause imports ps =>
    (optional clause (packageClause below)).or <| (each imports (importing below)).or
      (each ps (topLevel below))
  | _ => here t

end

end Refusal

/-- **What a tree is refused for**, in every role. -/
def refusals (permitsShown : Bool) (t : Tree) : Refusals :=
  let below : RefusalsBelow t := fun p => refusals permitsShown p.1
  { name := Refusal.name below
    type := Refusal.type below
    expression := Refusal.expression below
    annotated := Refusal.annotated below
    statement := Refusal.statement below permitsShown
    typeDeclaration := Refusal.typeDeclaration below permitsShown }
termination_by sizeOf t
decreasing_by exact p.2

end Conversion

open Conversion in
/-- **The first refusal of a unit.** -/
def firstRefusal (permitsShown : Bool) (root : Foreign.Tree) : Option Unsupported :=
  Refusal.unit fun p : Foreign.Tree.Part root => refusals permitsShown p.1

end TreeBridge

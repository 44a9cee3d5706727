import TreeBridge.Foreign.Flag
import TreeBridge.Foreign.Tag
/-!
# Shapes of foreign trees

The shape of a foreign tree says what form it has and holds its parts.
The type is open in what the parts are: the trees of a unit are shapes of
trees, and a function that needs to know that a part is a part works on
a shape of parts with evidence (`attachWith`).
-/

namespace TreeBridge

namespace Foreign

/-- The modifiers of a declaration: the flags, the annotations and the
bounds of the source text that spells them. -/
structure Modifiers (α : Type) where
  flags : UInt64
  annotations : List α
  start : Int
  stop : Int

/-- The modifiers of a declaration that spells none. -/
def Modifiers.empty {α : Type} : Modifiers α :=
  ⟨0, [], -1, -1⟩

/-- The same modifiers with further flags. -/
def Modifiers.withFlags {α : Type} (m : Modifiers α) (flags : UInt64) : Modifiers α :=
  { m with flags := m.flags ||| flags }

/-- The same modifiers with a function applied to every annotation. -/
def Modifiers.map {α β : Type} (f : α → β) (m : Modifiers α) : Modifiers β :=
  ⟨m.flags, m.annotations.map f, m.start, m.stop⟩

/-- The modifiers with every annotation joined to evidence that holds of
all. -/
def Modifiers.attachWith {α : Type} (P : α → Prop) (m : Modifiers α)
    (h : ∀ a ∈ m.annotations, P a) : Modifiers { a // P a } :=
  ⟨m.flags, m.annotations.attachWith P h, m.start, m.stop⟩

/-- The forms of foreign trees with their parts. -/
inductive Shape (α : Type) where
  | unit (clause : Option α) (imports members : List α)
  | package (annotations : List α) (name : α)
  | importing (name : α) (isStatic : Bool)
  | classDef (mods : Modifiers α) (name : String) (classKind : ClassKind)
      (typeParameters : List α) (extending : Option α)
      (implementing permitting members : List α)
  | methodDef (mods : Modifiers α) (name : String) (typeParameters : List α)
      (returnType : Option α) (parameters : List α) (dims : Nat) (thrown : List α)
      (body defaultValue : Option α)
  | varDef (mods : Modifiers α) (name : String) (type : Option α) (dims : Nat)
      (value : Option α)
  | skip
  | block (isStatic : Bool) (statements : List α)
  | doLoop (body condition : α)
  | whileLoop (condition body : α)
  | forLoop (initial : List α) (condition : Option α) (step : List α) (body : α)
  | foreachLoop (binder expression body : α)
  | labelled (label : String) (body : α)
  | switch (selector : α) (cases : List α)
  | switchExpression (selector : α) (cases : List α)
  | switchCase (labels : List α) (isDefault rule : Bool) (statements : List α)
  | synchronized (lock body : α)
  | tryBlock (resources : List α) (body : α) (catchers : List α) (finalizer : Option α)
  | catcher (param body : α)
  | conditional (condition whenTrue whenFalse : α)
  | branch (condition thenPart : α) (elsePart : Option α)
  | execute (expression : α)
  | breakTo (label : Option String)
  | yieldValue (value : α)
  | continueTo (label : Option String)
  | returnValue (expression : Option α)
  | throwing (expression : α)
  | assertion (condition : α) (detail : Option α)
  | call (typeArguments : List α) (method : α) (arguments : List α)
  | newClass (enclosing : Option α) (typeArguments : List α) (type : α) (arguments : List α)
      (body : Option α)
  | newArray (elementType : Option α) (dims : List α) (extraDims : Nat)
      (elements : Option (List α))
  | lambda (parameters : List α) (body : α) (parenthesized : Bool)
  | parens (expression : α)
  | assign (left right : α)
  | assignOp (operator : Tag) (left right : α)
  | unary (operator : Tag) (operand : α)
  | binary (operator : Tag) (left right : α)
  | typeCast (type expression : α)
  | typeTest (expression pattern : α)
  | bindingPattern (binder : α)
  | recordPattern (deconstructor : α) (nested : List α)
  | anyPattern
  | indexed (array index : α)
  | select (selected : α) (name : String)
  | reference (mode : ReferenceMode) (name : String) (expression : α) (typeArguments : List α)
  | ident (name : String)
  | literal (type : TypeTag) (value : String)
  | typeIdent (type : TypeTag)
  | typeArray (elementType : α)
  | typeApply (type : α) (arguments : List α)
  | typeUnion (alternatives : List α)
  | typeIntersection (bounds : List α)
  | typeParameter (name : String) (annotations bounds : List α)
  | wildcard (kind : BoundKind) (inner : Option α)
  | annotationUse (type : α) (arguments : List α)
  | annotatedType (annotations : List α) (underlying : α)
  | erroneous (salvaged : List α)

namespace Shape

variable {α β : Type}

/-- The tag of a shape; a tree of an operator has the operator as its
tag. -/
def tag : Shape α → Tag
  | unit .. => .unit
  | package .. => .package
  | importing .. => .importing
  | classDef .. => .classDef
  | methodDef .. => .methodDef
  | varDef .. => .varDef
  | skip => .skip
  | block .. => .block
  | doLoop .. => .doLoop
  | whileLoop .. => .whileLoop
  | forLoop .. => .forLoop
  | foreachLoop .. => .foreachLoop
  | labelled .. => .labelled
  | switch .. => .switch
  | switchExpression .. => .switchExpression
  | switchCase .. => .switchCase
  | synchronized .. => .synchronized
  | tryBlock .. => .tryBlock
  | catcher .. => .catcher
  | conditional .. => .conditional
  | branch .. => .branch
  | execute .. => .execute
  | breakTo .. => .breakTo
  | yieldValue .. => .yieldValue
  | continueTo .. => .continueTo
  | returnValue .. => .returnValue
  | throwing .. => .throwing
  | assertion .. => .assertion
  | call .. => .call
  | newClass .. => .newClass
  | newArray .. => .newArray
  | lambda .. => .lambda
  | parens .. => .parens
  | assign .. => .assign
  | assignOp operator _ _ => operator
  | unary operator _ => operator
  | binary operator _ _ => operator
  | typeCast .. => .typeCast
  | typeTest .. => .typeTest
  | bindingPattern .. => .bindingPattern
  | recordPattern .. => .recordPattern
  | anyPattern => .anyPattern
  | indexed .. => .indexed
  | select .. => .select
  | reference .. => .reference
  | ident .. => .ident
  | literal .. => .literal
  | typeIdent .. => .typeIdent
  | typeArray .. => .typeArray
  | typeApply .. => .typeApply
  | typeUnion .. => .typeUnion
  | typeIntersection .. => .typeIntersection
  | typeParameter .. => .typeParameter
  | wildcard .. => .wildcard
  | annotationUse .. => .annotationUse
  | annotatedType .. => .annotatedType
  | erroneous .. => .erroneous

/-- Whether a shape is an expression. -/
def isExpression : Shape α → Bool
  | conditional .. | call .. | newClass .. | newArray .. | lambda .. | parens .. | assign ..
  | assignOp .. | unary .. | binary .. | typeCast .. | typeTest .. | indexed .. | select ..
  | reference .. | ident .. | literal .. | switchExpression .. => true
  | _ => false

/-- The parts of a shape, in the order of the source text. -/
def children : Shape α → List α
  | unit clause imports members => clause.toList ++ imports ++ members
  | package annotations name => annotations ++ [name]
  | importing name _ => [name]
  | classDef mods _ _ typeParameters extending implementing permitting members =>
    mods.annotations ++ typeParameters ++ extending.toList ++ implementing ++ permitting ++
      members
  | methodDef mods _ typeParameters returnType parameters _ thrown body defaultValue =>
    mods.annotations ++ typeParameters ++ returnType.toList ++ parameters ++ thrown ++
      body.toList ++ defaultValue.toList
  | varDef mods _ type _ value => mods.annotations ++ type.toList ++ value.toList
  | skip => []
  | block _ statements => statements
  | doLoop body condition => [body, condition]
  | whileLoop condition body => [condition, body]
  | forLoop initial condition step body => initial ++ condition.toList ++ step ++ [body]
  | foreachLoop binder expression body => [binder, expression, body]
  | labelled _ body => [body]
  | switch selector cases => [selector] ++ cases
  | switchExpression selector cases => [selector] ++ cases
  | switchCase labels _ _ statements => labels ++ statements
  | synchronized lock body => [lock, body]
  | tryBlock resources body catchers finalizer =>
    resources ++ [body] ++ catchers ++ finalizer.toList
  | catcher param body => [param, body]
  | conditional condition whenTrue whenFalse => [condition, whenTrue, whenFalse]
  | branch condition thenPart elsePart => [condition, thenPart] ++ elsePart.toList
  | execute expression => [expression]
  | breakTo .. => []
  | yieldValue value => [value]
  | continueTo .. => []
  | returnValue expression => expression.toList
  | throwing expression => [expression]
  | assertion condition detail => [condition] ++ detail.toList
  | call typeArguments method arguments => typeArguments ++ [method] ++ arguments
  | newClass enclosing typeArguments type arguments body =>
    enclosing.toList ++ typeArguments ++ [type] ++ arguments ++ body.toList
  | newArray elementType dims _ elements => elementType.toList ++ dims ++ elements.getD []
  | lambda parameters body _ => parameters ++ [body]
  | parens expression => [expression]
  | assign left right => [left, right]
  | assignOp _ left right => [left, right]
  | unary _ operand => [operand]
  | binary _ left right => [left, right]
  | typeCast type expression => [type, expression]
  | typeTest expression pattern => [expression, pattern]
  | bindingPattern binder => [binder]
  | recordPattern deconstructor nested => [deconstructor] ++ nested
  | anyPattern => []
  | indexed array index => [array, index]
  | select selected _ => [selected]
  | reference _ _ expression typeArguments => [expression] ++ typeArguments
  | ident .. => []
  | literal .. => []
  | typeIdent .. => []
  | typeArray elementType => [elementType]
  | typeApply type arguments => [type] ++ arguments
  | typeUnion alternatives => alternatives
  | typeIntersection bounds => bounds
  | typeParameter _ annotations bounds => annotations ++ bounds
  | wildcard _ inner => inner.toList
  | annotationUse type arguments => [type] ++ arguments
  | annotatedType annotations underlying => annotations ++ [underlying]
  | erroneous salvaged => salvaged

/-- The shape with a function applied to every part. -/
def map (f : α → β) : Shape α → Shape β
  | unit clause imports members => unit (clause.map f) (imports.map f) (members.map f)
  | package annotations name => package (annotations.map f) (f name)
  | importing name isStatic => importing (f name) isStatic
  | classDef mods name classKind typeParameters extending implementing permitting members =>
    classDef
      (mods.map f) name classKind (typeParameters.map f) (extending.map f) (implementing.map f)
      (permitting.map f) (members.map f)
  | methodDef mods name typeParameters returnType parameters dims thrown body defaultValue =>
    methodDef
      (mods.map f) name (typeParameters.map f) (returnType.map f) (parameters.map f) dims
      (thrown.map f) (body.map f) (defaultValue.map f)
  | varDef mods name type dims value => varDef (mods.map f) name (type.map f) dims (value.map f)
  | skip => skip
  | block isStatic statements => block isStatic (statements.map f)
  | doLoop body condition => doLoop (f body) (f condition)
  | whileLoop condition body => whileLoop (f condition) (f body)
  | forLoop initial condition step body => forLoop (initial.map f) (condition.map f)
      (step.map f) (f body)
  | foreachLoop binder expression body => foreachLoop (f binder) (f expression) (f body)
  | labelled label body => labelled label (f body)
  | switch selector cases => switch (f selector) (cases.map f)
  | switchExpression selector cases => switchExpression (f selector) (cases.map f)
  | switchCase labels isDefault rule statements => switchCase (labels.map f) isDefault rule
      (statements.map f)
  | synchronized lock body => synchronized (f lock) (f body)
  | tryBlock resources body catchers finalizer => tryBlock (resources.map f) (f body)
      (catchers.map f) (finalizer.map f)
  | catcher param body => catcher (f param) (f body)
  | conditional condition whenTrue whenFalse => conditional (f condition) (f whenTrue)
      (f whenFalse)
  | branch condition thenPart elsePart => branch (f condition) (f thenPart) (elsePart.map f)
  | execute expression => execute (f expression)
  | breakTo label => breakTo label
  | yieldValue value => yieldValue (f value)
  | continueTo label => continueTo label
  | returnValue expression => returnValue (expression.map f)
  | throwing expression => throwing (f expression)
  | assertion condition detail => assertion (f condition) (detail.map f)
  | call typeArguments method arguments => call (typeArguments.map f) (f method)
      (arguments.map f)
  | newClass enclosing typeArguments type arguments body => newClass (enclosing.map f)
      (typeArguments.map f) (f type) (arguments.map f) (body.map f)
  | newArray elementType dims extraDims elements => newArray (elementType.map f) (dims.map f)
      extraDims (elements.map (·.map f))
  | lambda parameters body parenthesized => lambda (parameters.map f) (f body) parenthesized
  | parens expression => parens (f expression)
  | assign left right => assign (f left) (f right)
  | assignOp operator left right => assignOp operator (f left) (f right)
  | unary operator operand => unary operator (f operand)
  | binary operator left right => binary operator (f left) (f right)
  | typeCast type expression => typeCast (f type) (f expression)
  | typeTest expression pattern => typeTest (f expression) (f pattern)
  | bindingPattern binder => bindingPattern (f binder)
  | recordPattern deconstructor nested => recordPattern (f deconstructor) (nested.map f)
  | anyPattern => anyPattern
  | indexed array index => indexed (f array) (f index)
  | select selected name => select (f selected) name
  | reference mode name expression typeArguments => reference mode name (f expression)
      (typeArguments.map f)
  | ident name => ident name
  | literal type value => literal type value
  | typeIdent type => typeIdent type
  | typeArray elementType => typeArray (f elementType)
  | typeApply type arguments => typeApply (f type) (arguments.map f)
  | typeUnion alternatives => typeUnion (alternatives.map f)
  | typeIntersection bounds => typeIntersection (bounds.map f)
  | typeParameter name annotations bounds => typeParameter name (annotations.map f)
      (bounds.map f)
  | wildcard kind inner => wildcard kind (inner.map f)
  | annotationUse type arguments => annotationUse (f type) (arguments.map f)
  | annotatedType annotations underlying => annotatedType (annotations.map f) (f underlying)
  | erroneous salvaged => erroneous (salvaged.map f)

/-- The shape with every part joined to evidence that holds of all. -/
def attachWith (P : α → Prop) : (s : Shape α) → (∀ a ∈ s.children, P a) → Shape { a // P a }
  | unit clause imports members, h =>
    unit (clause.attachWith P (fun a m => h a (by simp [children, m])))
      (imports.attachWith P (fun a m => h a (by simp [children, m])))
      (members.attachWith P (fun a m => h a (by simp [children, m])))
  | package annotations name, h =>
    package (annotations.attachWith P (fun a m => h a (by simp [children, m])))
      ⟨name, h name (by simp [children])⟩
  | importing name isStatic, h =>
    importing ⟨name, h name (by simp [children])⟩ isStatic
  | classDef mods name classKind typeParameters extending implementing permitting members, h =>
    classDef (mods.attachWith P (fun a m => h a (by simp [children, m]))) name classKind
      (typeParameters.attachWith P (fun a m => h a (by simp [children, m])))
      (extending.attachWith P (fun a m => h a (by simp [children, m])))
      (implementing.attachWith P (fun a m => h a (by simp [children, m])))
      (permitting.attachWith P (fun a m => h a (by simp [children, m])))
      (members.attachWith P (fun a m => h a (by simp [children, m])))
  | methodDef mods name typeParameters returnType parameters dims thrown body defaultValue, h =>
    methodDef (mods.attachWith P (fun a m => h a (by simp [children, m]))) name
      (typeParameters.attachWith P (fun a m => h a (by simp [children, m])))
      (returnType.attachWith P (fun a m => h a (by simp [children, m])))
      (parameters.attachWith P (fun a m => h a (by simp [children, m]))) dims
      (thrown.attachWith P (fun a m => h a (by simp [children, m])))
      (body.attachWith P (fun a m => h a (by simp [children, m])))
      (defaultValue.attachWith P (fun a m => h a (by simp [children, m])))
  | varDef mods name type dims value, h =>
    varDef (mods.attachWith P (fun a m => h a (by simp [children, m]))) name
      (type.attachWith P (fun a m => h a (by simp [children, m]))) dims
      (value.attachWith P (fun a m => h a (by simp [children, m])))
  | skip, _ => skip
  | block isStatic statements, h =>
    block isStatic (statements.attachWith P (fun a m => h a (by simp [children, m])))
  | doLoop body condition, h =>
    doLoop ⟨body, h body (by simp [children])⟩ ⟨condition, h condition (by simp [children])⟩
  | whileLoop condition body, h =>
    whileLoop ⟨condition, h condition (by simp [children])⟩ ⟨body, h body (by simp [children])⟩
  | forLoop initial condition step body, h =>
    forLoop (initial.attachWith P (fun a m => h a (by simp [children, m])))
      (condition.attachWith P (fun a m => h a (by simp [children, m])))
      (step.attachWith P (fun a m => h a (by simp [children, m])))
      ⟨body, h body (by simp [children])⟩
  | foreachLoop binder expression body, h =>
    foreachLoop ⟨binder, h binder (by simp [children])⟩
      ⟨expression, h expression (by simp [children])⟩ ⟨body, h body (by simp [children])⟩
  | labelled label body, h =>
    labelled label ⟨body, h body (by simp [children])⟩
  | switch selector cases, h =>
    switch ⟨selector, h selector (by simp [children])⟩
      (cases.attachWith P (fun a m => h a (by simp [children, m])))
  | switchExpression selector cases, h =>
    switchExpression ⟨selector, h selector (by simp [children])⟩
      (cases.attachWith P (fun a m => h a (by simp [children, m])))
  | switchCase labels isDefault rule statements, h =>
    switchCase (labels.attachWith P (fun a m => h a (by simp [children, m]))) isDefault rule
      (statements.attachWith P (fun a m => h a (by simp [children, m])))
  | synchronized lock body, h =>
    synchronized ⟨lock, h lock (by simp [children])⟩ ⟨body, h body (by simp [children])⟩
  | tryBlock resources body catchers finalizer, h =>
    tryBlock (resources.attachWith P (fun a m => h a (by simp [children, m])))
      ⟨body, h body (by simp [children])⟩
      (catchers.attachWith P (fun a m => h a (by simp [children, m])))
      (finalizer.attachWith P (fun a m => h a (by simp [children, m])))
  | catcher param body, h =>
    catcher ⟨param, h param (by simp [children])⟩ ⟨body, h body (by simp [children])⟩
  | conditional condition whenTrue whenFalse, h =>
    conditional ⟨condition, h condition (by simp [children])⟩
      ⟨whenTrue, h whenTrue (by simp [children])⟩ ⟨whenFalse, h whenFalse (by simp [children])⟩
  | branch condition thenPart elsePart, h =>
    branch ⟨condition, h condition (by simp [children])⟩
      ⟨thenPart, h thenPart (by simp [children])⟩
      (elsePart.attachWith P (fun a m => h a (by simp [children, m])))
  | execute expression, h =>
    execute ⟨expression, h expression (by simp [children])⟩
  | breakTo label, _ => breakTo label
  | yieldValue value, h =>
    yieldValue ⟨value, h value (by simp [children])⟩
  | continueTo label, _ => continueTo label
  | returnValue expression, h =>
    returnValue (expression.attachWith P (fun a m => h a (by simp [children, m])))
  | throwing expression, h =>
    throwing ⟨expression, h expression (by simp [children])⟩
  | assertion condition detail, h =>
    assertion ⟨condition, h condition (by simp [children])⟩
      (detail.attachWith P (fun a m => h a (by simp [children, m])))
  | call typeArguments method arguments, h =>
    call (typeArguments.attachWith P (fun a m => h a (by simp [children, m])))
      ⟨method, h method (by simp [children])⟩
      (arguments.attachWith P (fun a m => h a (by simp [children, m])))
  | newClass enclosing typeArguments type arguments body, h =>
    newClass (enclosing.attachWith P (fun a m => h a (by simp [children, m])))
      (typeArguments.attachWith P (fun a m => h a (by simp [children, m])))
      ⟨type, h type (by simp [children])⟩
      (arguments.attachWith P (fun a m => h a (by simp [children, m])))
      (body.attachWith P (fun a m => h a (by simp [children, m])))
  | newArray elementType dims extraDims elements, h =>
    newArray (elementType.attachWith P (fun a m => h a (by simp [children, m])))
      (dims.attachWith P (fun a m => h a (by simp [children, m]))) extraDims
      (elements.attach.map (fun l => l.1.attachWith P
        (fun a m => h a (by simp [children, l.2, m]))))
  | lambda parameters body parenthesized, h =>
    lambda (parameters.attachWith P (fun a m => h a (by simp [children, m])))
      ⟨body, h body (by simp [children])⟩ parenthesized
  | parens expression, h =>
    parens ⟨expression, h expression (by simp [children])⟩
  | assign left right, h =>
    assign ⟨left, h left (by simp [children])⟩ ⟨right, h right (by simp [children])⟩
  | assignOp operator left right, h =>
    assignOp operator ⟨left, h left (by simp [children])⟩ ⟨right, h right (by simp [children])⟩
  | unary operator operand, h =>
    unary operator ⟨operand, h operand (by simp [children])⟩
  | binary operator left right, h =>
    binary operator ⟨left, h left (by simp [children])⟩ ⟨right, h right (by simp [children])⟩
  | typeCast type expression, h =>
    typeCast ⟨type, h type (by simp [children])⟩ ⟨expression, h expression (by simp [children])⟩
  | typeTest expression pattern, h =>
    typeTest ⟨expression, h expression (by simp [children])⟩
      ⟨pattern, h pattern (by simp [children])⟩
  | bindingPattern binder, h =>
    bindingPattern ⟨binder, h binder (by simp [children])⟩
  | recordPattern deconstructor nested, h =>
    recordPattern ⟨deconstructor, h deconstructor (by simp [children])⟩
      (nested.attachWith P (fun a m => h a (by simp [children, m])))
  | anyPattern, _ => anyPattern
  | indexed array index, h =>
    indexed ⟨array, h array (by simp [children])⟩ ⟨index, h index (by simp [children])⟩
  | select selected name, h =>
    select ⟨selected, h selected (by simp [children])⟩ name
  | reference mode name expression typeArguments, h =>
    reference mode name ⟨expression, h expression (by simp [children])⟩
      (typeArguments.attachWith P (fun a m => h a (by simp [children, m])))
  | ident name, _ => ident name
  | literal type value, _ => literal type value
  | typeIdent type, _ => typeIdent type
  | typeArray elementType, h =>
    typeArray ⟨elementType, h elementType (by simp [children])⟩
  | typeApply type arguments, h =>
    typeApply ⟨type, h type (by simp [children])⟩
      (arguments.attachWith P (fun a m => h a (by simp [children, m])))
  | typeUnion alternatives, h =>
    typeUnion (alternatives.attachWith P (fun a m => h a (by simp [children, m])))
  | typeIntersection bounds, h =>
    typeIntersection (bounds.attachWith P (fun a m => h a (by simp [children, m])))
  | typeParameter name annotations bounds, h =>
    typeParameter name (annotations.attachWith P (fun a m => h a (by simp [children, m])))
      (bounds.attachWith P (fun a m => h a (by simp [children, m])))
  | wildcard kind inner, h =>
    wildcard kind (inner.attachWith P (fun a m => h a (by simp [children, m])))
  | annotationUse type arguments, h =>
    annotationUse ⟨type, h type (by simp [children])⟩
      (arguments.attachWith P (fun a m => h a (by simp [children, m])))
  | annotatedType annotations underlying, h =>
    annotatedType (annotations.attachWith P (fun a m => h a (by simp [children, m])))
      ⟨underlying, h underlying (by simp [children])⟩
  | erroneous salvaged, h =>
    erroneous (salvaged.attachWith P (fun a m => h a (by simp [children, m])))

end Shape

end Foreign

end TreeBridge

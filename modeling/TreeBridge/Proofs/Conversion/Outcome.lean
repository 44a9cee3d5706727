import TreeBridge.Lowering.Unit
import TreeBridge.Proofs.Conversion.Stopping
/-!
# The outcome of a conversion

Expressions and statements stop with their refusals too, so by induction
over the tree every action does, and a unit is converted exactly if it has
no refusal.

Malformed source is wrapped in trees that most roles have a counterpart
for: names, types, statements and expressions. The cases of a switch, the
blocks of a `try`, the parameters of a lambda or of a catch clause and the
methods of calls have none, so a malformed part in one of these places
stops the conversion of the whole unit.
-/

namespace TreeBridge

namespace Conversion

open Foreign (Tree Tag ClassKind)
open Foreign.Tree (Part Parts)
open Unified (NodeId NodeKind Slot)

variable {shown : Bool} {t : Tree} {below : Below t} {refused : RefusalsBelow t}
  (hb : ∀ p, (below p).Refused shown (refused p))

section

include hb

/-! ## Uses of annotations -/

theorem stops_addPair (owner : NodeId) (p : Part t) :
    Stops shown (Refusal.pair refused p) (addPair below owner p) := by
  unfold addPair Refusal.pair
  cases p.parts with
  | assign left right =>
    exact (hb left).name.bind fun _ => (hb right).expression.andThen fun _ =>
      (stops_alloc _ _).andThen fun _ => (stops_addChild _ _ _).andThen fun _ =>
      (stops_addChild _ _ _).andThen fun _ => stops_addChild _ _ _
  | _ => exact .pure

theorem stops_annotatedWith (type : Part t) (arguments : Parts t) (name : NodeId) :
    Stops shown (Refusal.annotatedWith refused arguments)
      (annotatedWith below type arguments name) := by
  unfold annotatedWith Refusal.annotatedWith
  cases bareValue? arguments with
  | some value =>
    exact (hb value).expression.andThen fun _ => (stops_alloc _ _).andThen fun _ =>
      (stops_addChild _ _ _).andThen fun _ => (stops_addChild _ _ _).andThen fun _ => .pure
  | none =>
    refine (stops_findToken? _ _ _).bind fun list => ?_
    split
    · next h =>
      -- a use without an argument list has no arguments to stop at
      have hempty : arguments = [] := by simp_all
      subst hempty
      exact (stops_alloc _ _).andThen fun _ => (stops_addChild _ _ _).andThen fun _ => .pure
    · exact (stops_alloc _ _).bind fun _ => (stops_addChild _ _ _).bind fun _ =>
        (stops_forM (stops_addPair hb _)).andThen fun _ => .pure

theorem stops_annotated : Stops shown (Refusal.annotated refused) (annotated below) := by
  unfold annotated Refusal.annotated
  cases t.parts with
  | annotationUse type => exact (hb type).name.bind fun _ => stops_annotatedWith hb _ _ _
  | _ => exact stops_unsupported _

/-! ## Switches -/

theorem stops_caseLabel (p : Part t) :
    Stops shown (Refusal.caseLabel refused p) (caseLabel below p) := by
  unfold caseLabel Refusal.caseLabel
  cases p.parts with
  | bindingPattern binder =>
    exact (stops_alloc _ _).bind fun _ =>
      (stops_addPart (stops_parameter hb _ _)).andThen fun _ => .pure
  | recordPattern | anyPattern => exact stops_unsupported _
  | _ => exact (hb p).expression

omit hb in
theorem stops_caseEnd (p : Part t) (labels : Parts t) (rule : Bool) :
    Stops shown none (caseEnd p labels rule) :=
  (stops_findToken? _ _ _).andThen fun _ => .pure

theorem stops_addCase (owner : NodeId) (p : Part t) :
    Stops shown (Refusal.switchCase refused p) (addCase below owner p) := by
  unfold addCase Refusal.switchCase
  cases p.parts with
  | switchCase =>
    exact (stops_caseEnd _ _ _).bind fun _ => (stops_allocAt _ _ _).bind fun _ =>
      (stops_addEach (stops_caseLabel hb)).bind fun _ => (stops_addChild _ _ _).bind fun _ =>
      stops_addStatements hb _ _
  | _ => exact stops_unsupported _

theorem stops_addCases (owner : NodeId) (cases : Parts t) :
    Stops shown (Refusal.each cases (Refusal.switchCase refused)) (addCases below owner cases) :=
  stops_forM (stops_addCase hb owner)

theorem stops_condition (p : Part t) :
    Stops shown (Refusal.condition refused p) (condition below p) :=
  (hb (unparenthesized p)).expression

/-! ## Operators -/

theorem stops_addOperands (owner : NodeId) (operands : Parts t) :
    Stops shown (Refusal.expressions refused operands) (addOperands below owner operands) := by
  have heach : Refusal.expressions refused operands =
      Refusal.each operands.zipIdx fun p => (refused p.1).expression := calc
    _ = Refusal.each (operands.zipIdx.map Prod.fst) fun p => (refused p).expression := by
      rw [List.zipIdx_map_fst]
      rfl
    _ = Refusal.each operands.zipIdx fun p => (refused p.1).expression := List.findSome?_map
  rw [heach]
  exact stops_forM fun p => stops_addPart (hb p.1).expression

/-- Two expressions, before steps that only make a node of them. -/
theorem stops_both {make : NodeId → NodeId → Convert NodeId} (left right : Part t)
    (hmake : ∀ l r, Stops shown none (make l r)) :
    Stops shown (Refusal.both refused left right) (do
      let l ← (below left).expression
      let r ← (below right).expression
      make l r) :=
  (hb left).expression.bind fun l => (hb right).expression.andThen fun r => hmake l r

omit hb in
/-- Making a node over two children never stops. -/
theorem stops_pairOf (u : Tree) (kind : NodeKind) (first second : Slot) (l r : NodeId) :
    Stops shown none (do
      let id ← alloc u kind
      addChild id first l
      addChild id second r
      Pure.pure id) :=
  (stops_alloc _ _).andThen fun _ => (stops_addChild _ _ _).andThen fun _ =>
    (stops_addChild _ _ _).andThen fun _ => .pure

theorem stops_assignment (operator : Unified.AssignmentOperator) (left right : Part t) :
    Stops shown (Refusal.both refused left right) (assignment below operator left right) :=
  stops_both hb left right fun _ _ => stops_pairOf _ _ _ _ _ _

theorem stops_typeTest (expression pattern : Part t) :
    Stops shown (Refusal.typeTest refused expression pattern)
      (typeTest below expression pattern) := by
  unfold typeTest Refusal.typeTest
  cases pattern.parts with
  | bindingPattern binder =>
    exact (hb expression).expression.bind fun _ => (stops_alloc _ _).bind fun _ =>
      (stops_addPart (stops_parameter hb _ _)).andThen fun _ => stops_pairOf _ _ _ _ _ _
  | anyPattern | recordPattern => exact stops_unsupported _
  | _ =>
    exact (hb expression).expression.bind fun _ => (hb pattern).type.andThen fun _ =>
      stops_pairOf _ _ _ _ _ _

/-! ## Members of objects -/

theorem stops_addOuter (owner : NodeId) (p : Part t) :
    Stops shown (Refusal.outer refused p) (addOuter below owner p) :=
  stops_addOptional fun outer => (hb outer).name

omit hb in
/-- Making a node over one child never stops. -/
theorem stops_over (u : Tree) (kind : NodeKind) (slot : Slot) (child : NodeId) :
    Stops shown none (do
      let id ← alloc u kind
      addChild id slot child
      Pure.pure id) :=
  (stops_alloc _ _).andThen fun _ => (stops_addChild _ _ _).andThen fun _ => .pure

theorem stops_selection (selected : Part t) (identifier : String) :
    Stops shown (Refusal.selection refused selected identifier)
      (selection below selected identifier) := by
  unfold selection Refusal.selection
  split
  · exact (hb selected).type.andThen fun _ => stops_over _ _ _ _
  split
  · exact (hb selected).name.andThen fun _ => stops_over _ _ _ _
  split
  · exact (stops_alloc _ _).bind fun _ => (stops_addOuter hb _ _).andThen fun _ =>
      (stops_addPart (stops_nameEndingAt _ _)).andThen fun _ => .pure
  split
  · exact stops_name hb
  · exact (hb selected).expression.andThen fun _ => (stops_alloc _ _).andThen fun _ =>
      (stops_addChild _ _ _).andThen fun _ =>
      (stops_addPart (stops_nameEndingAt _ _)).andThen fun _ => .pure

theorem stops_call (typeArguments : Parts t) (method : Part t) (arguments : Parts t) :
    Stops shown (Refusal.call refused typeArguments method arguments)
      (call below typeArguments method arguments) := by
  -- every form of a call ends with its type arguments, its name and its arguments
  have hend (id : NodeId) {convert : Convert NodeId} (h : Stops shown none convert) :
      Stops shown ((Refusal.types refused typeArguments).or
          (Refusal.expressions refused arguments)) (do
        addTypeArguments below id typeArguments
        addPart id .name convert
        addArguments below id arguments
        Pure.pure id) :=
    (stops_types hb _ _ _).bind fun _ => (stops_addPart h).bind fun _ =>
      (stops_expressions hb _ _ _).andThen fun _ => .pure
  unfold call Refusal.call
  cases method.parts with
  | select selected =>
    dsimp only
    split
    · exact (stops_alloc _ _).bind fun _ => (stops_addOuter hb _ _).bind fun _ =>
        hend _ (stops_nameEndingAt _ _)
    · exact (hb selected).expression.bind fun _ => (stops_alloc _ _).bind fun _ =>
        (stops_addChild _ _ _).bind fun _ => hend _ (stops_nameEndingAt _ _)
  | ident => exact (stops_alloc _ _).bind fun _ => hend _ (stops_simpleName _ _)
  | _ => exact stops_unsupported _

theorem stops_referenceNode (expression : Part t) :
    Stops shown (Refusal.referenceTarget refused expression)
      (referenceNode below expression) := by
  unfold referenceNode Refusal.referenceTarget
  split
  · exact (stops_alloc _ _).bind fun _ => (stops_addOuter hb _ _).andThen fun _ => .pure
  split
  · exact (hb expression).type.andThen fun _ => stops_over _ _ _ _
  · exact (hb expression).expression.andThen fun _ => stops_over _ _ _ _

theorem stops_reference (mode : Foreign.ReferenceMode) (identifier : String)
    (expression : Part t) (typeArguments : Parts t) :
    Stops shown (Refusal.reference refused mode expression typeArguments)
      (reference below mode identifier expression typeArguments) := by
  cases mode with
  | create =>
    exact (hb expression).type.bind fun _ => (stops_alloc _ _).bind fun _ =>
      (stops_addChild _ _ _).bind fun _ => (stops_types hb _ _ _).andThen fun _ => .pure
  | invoke =>
    exact (stops_referenceNode hb expression).bind fun _ =>
      (stops_types hb _ _ _).andThen fun _ =>
      (stops_addPart (stops_nameEndingAt _ _)).andThen fun _ => .pure

theorem stops_newClass (enclosing : Option (Part t)) (typeArguments : Parts t) (type : Part t)
    (arguments : Parts t) (body : Option (Part t)) :
    Stops shown (Refusal.newClass refused enclosing typeArguments type arguments body)
      (newClass below enclosing typeArguments type arguments body) :=
  (stops_alloc _ _).bind fun _ => (stops_addOptional fun p => (hb p).expression).bind fun _ =>
    (stops_types hb _ _ _).bind fun _ => (stops_addPart (hb type).type).bind fun _ =>
    (stops_expressions hb _ _ _).bind fun _ =>
    (stops_addOptional (stops_anonymousClass hb)).andThen fun _ => .pure

theorem stops_lambdaBody (p : Part t) :
    Stops shown (Refusal.lambdaBody refused p) (lambdaBody below p) := by
  unfold lambdaBody Refusal.lambdaBody
  cases p.parts with
  | block => exact stops_blockAt hb p
  | _ => exact (hb p).expression

theorem stops_lambda (parameters : Parts t) (body : Part t) (parenthesized : Bool) :
    Stops shown ((Refusal.each parameters (Refusal.lambdaParameter refused)).or
        (Refusal.lambdaBody refused body))
      (lambda below parameters body parenthesized) :=
  (stops_alloc _ _).bind fun _ => (stops_addEach (stops_lambdaParameter hb)).bind fun _ =>
    (stops_addPart (stops_lambdaBody hb body)).andThen fun _ => .pure

/-! ## Arrays -/

theorem stops_addInitializer (owner : NodeId) (brace : Option Int)
    (elements : Option (Parts t)) :
    Stops shown (Refusal.optional elements (Refusal.expressions refused))
      (addInitializer below owner brace elements) := by
  cases elements with
  | none => exact .pure
  | some ps =>
    exact (stops_synthetic _ _).bind fun _ => (stops_expressions hb _ _ _).andThen fun _ =>
      stops_addChild _ _ _

theorem stops_arrayTypeWith (element : Part t) (brackets : List Span) :
    Stops shown (refused element).type (arrayTypeWith below element brackets) :=
  (hb element).type.andThen fun _ => (stops_synthetic _ _).andThen fun _ =>
    (stops_addChild _ _ _).andThen fun _ => (stops_addDimensions _ _).andThen fun _ => .pure

theorem stops_arrayCreation (elementType : Part t) (dims : Parts t) (extraDims : Nat)
    (elements : Option (Parts t)) :
    Stops shown (Refusal.arrayCreation refused elementType dims elements)
      (arrayCreation below elementType dims extraDims elements) :=
  (stops_tokensBetween _ _).bind fun _ => (stops_arrayTypeWith hb _ _).bind fun _ =>
    (stops_alloc _ _).bind fun _ => (stops_addChild _ _ _).bind fun _ =>
    (stops_expressions hb _ _ _).bind fun _ =>
    (stops_addInitializer hb _ _ _).andThen fun _ => .pure

theorem stops_arrayInitializer (elements : Parts t) :
    Stops shown (Refusal.expressions refused elements) (arrayInitializer below elements) :=
  (stops_alloc _ _).bind fun _ => (stops_expressions hb _ _ _).andThen fun _ => .pure

/-! ## All expressions -/

theorem stops_malformedExpression (salvaged : Parts t) :
    Stops shown (Refusal.malformedExpression refused salvaged)
      (malformedExpression below salvaged) := by
  unfold malformedExpression Refusal.malformedExpression
  cases salvagedExpression? salvaged with
  | none => exact stops_placeholder _ _
  | some p =>
    exact (hb p).expression.andThen fun _ => (stops_markRecovered _).andThen fun _ => .pure

theorem stops_conditional (test whenTrue whenFalse : Part t) :
    Stops shown ((refused test).expression.or (Refusal.both refused whenTrue whenFalse))
      (conditional below test whenTrue whenFalse) :=
  (hb test).expression.bind fun _ => stops_both hb _ _ fun _ _ =>
    (stops_alloc _ _).andThen fun _ => (stops_addChild _ _ _).andThen fun _ =>
    (stops_addChild _ _ _).andThen fun _ => (stops_addChild _ _ _).andThen fun _ => .pure

theorem stops_unary (operator : Tag) (operand : Part t) :
    Stops shown (Refusal.unary refused operator operand) (unary below operator operand) := by
  refine (hb operand).expression.bind fun _ => ?_
  cases unaryKind? operator with
  | none => exact .stop
  | some kind => exact stops_over _ _ _ _

theorem stops_expression : Stops shown (Refusal.expression refused) (expression below) := by
  unfold expression Refusal.expression
  cases t.parts with
  | ident identifier =>
    dsimp only
    split
    · exact stops_alloc _ _
    · exact stops_name hb
  | literal => exact stops_alloc _ _
  | parens inner => exact (hb inner).expression.andThen fun _ => stops_over _ _ _ _
  | select => exact stops_selection hb _ _
  | call => exact stops_call hb _ _ _
  | newClass => exact stops_newClass hb _ _ _ _ _
  | newArray elementType =>
    cases elementType with
    | none => exact stops_arrayInitializer hb _
    | some elementType => exact stops_arrayCreation hb _ _ _ _
  | lambda => exact stops_lambda hb _ _ _
  | assign => exact stops_assignment hb _ _ _
  | assignOp operator =>
    dsimp only
    cases assignmentOperator? operator with
    | none => exact .stop
    | some operator => exact stops_assignment hb _ _ _
  | unary => exact stops_unary hb _ _
  | binary =>
    exact (stops_alloc _ _).bind fun _ => (stops_addOperands hb _ _).andThen fun _ => .pure
  | conditional => exact stops_conditional hb _ _ _
  | typeCast type operand =>
    exact (hb type).type.bind fun _ => (hb operand).expression.andThen fun _ =>
      stops_pairOf _ _ _ _ _ _
  | typeTest => exact stops_typeTest hb _ _
  | indexed => exact stops_both hb _ _ fun _ _ => stops_pairOf _ _ _ _ _ _
  | reference => exact stops_reference hb _ _ _ _
  | switchExpression =>
    exact (stops_alloc _ _).bind fun _ => (stops_addPart (stops_condition hb _)).bind fun _ =>
      (stops_addCases hb _ _).andThen fun _ => .pure
  | annotationUse type =>
    exact (hb type).name.bind fun _ => stops_annotatedWith hb _ _ _
  | erroneous => exact stops_malformedExpression hb _
  | typeIdent | typeArray | typeApply | annotatedType => exact stops_placeholder _ _
  | _ => exact stops_unsupported _

/-! ## Statements -/

theorem stops_executed (p : Part t) :
    Stops shown (Refusal.executed refused p) (executed below p) := by
  unfold executed Refusal.executed
  cases p.parts with
  | execute expression => exact (hb expression).expression
  | _ => exact (hb p).expression

theorem stops_loopStart (g : Group t) :
    Stops shown (Refusal.loopStart refused g) (loopStart below g) := by
  cases g with
  | together first more => exact stops_declarationExpression hb _ _
  | single p => exact stops_executed hb p

theorem stops_ofExpression (kind : NodeKind) (expression : Option (Part t)) :
    Stops shown (Refusal.optional expression fun p => (refused p).expression)
      (ofExpression below kind expression) :=
  (stops_alloc _ _).bind fun _ =>
    (stops_addOptional fun p => (hb p).expression).andThen fun _ => .pure

theorem stops_resource (p : Part t) :
    Stops shown (Refusal.resource refused p) (resource below p) := by
  unfold resource Refusal.resource
  cases declared? p with
  | some v => exact stops_declarationExpression hb _ _
  | none => exact (hb p).expression

theorem stops_catchClause (p : Part t) :
    Stops shown (Refusal.catchClause refused p) (catchClause below p) := by
  unfold catchClause Refusal.catchClause
  cases p.parts with
  | catcher =>
    exact (stops_alloc _ _).bind fun _ => (stops_addPart (stops_parameter hb _ _)).bind fun _ =>
      (stops_addPart (stops_blockAt hb _)).andThen fun _ => .pure
  | _ => exact stops_unsupported _

theorem stops_tryBlock (resources : Parts t) (body : Part t) (catchers : Parts t)
    (finalizer : Option (Part t)) :
    Stops shown
      ((Refusal.each resources (Refusal.resource refused)).or <|
        (Refusal.blockAt refused body).or <|
        (Refusal.each catchers (Refusal.catchClause refused)).or
          (Refusal.optional finalizer (Refusal.blockAt refused)))
      (tryBlock below resources body catchers finalizer) :=
  (stops_alloc _ _).bind fun _ => (stops_addEach (stops_resource hb)).bind fun _ =>
    (stops_addPart (stops_blockAt hb _)).bind fun _ =>
    (stops_addEach (stops_catchClause hb)).bind fun _ =>
    (stops_addOptional (stops_blockAt hb)).andThen fun _ => .pure

theorem stops_constructorCall (kind : NodeKind) (typeArguments : Parts t) (method : Part t)
    (arguments : Parts t) :
    Stops shown (Refusal.constructorCall refused typeArguments method arguments)
      (constructorCall below kind typeArguments method arguments) :=
  (stops_alloc _ _).bind fun _ => (stops_addOptional fun p => (hb p).expression).bind fun _ =>
    (stops_types hb _ _ _).bind fun _ => (stops_expressions hb _ _ _).andThen fun _ => .pure

theorem stops_execute (p : Part t) :
    Stops shown (Refusal.execute refused p) (execute below p) := by
  unfold execute Refusal.execute
  cases p.parts with
  | call _ method =>
    dsimp only
    cases constructorCall? method with
    | some kind => exact stops_constructorCall hb _ _ _ _
    | none => exact stops_ofExpression hb _ (some p)
  | _ => exact stops_ofExpression hb _ (some p)

theorem stops_malformedStatement (salvaged : Parts t) :
    Stops shown (Refusal.malformedStatement refused salvaged)
      (malformedStatement below salvaged) := by
  unfold malformedStatement Refusal.malformedStatement
  match salvaged with
  | [only] =>
    dsimp only
    split
    · exact (hb only).expression.andThen fun _ => (stops_alloc _ _).andThen fun _ =>
        (stops_addChild _ _ _).andThen fun _ => (stops_markRecovered _).andThen fun _ => .pure
    · exact (hb only).statement.andThen fun _ =>
        (stops_markRecovered _).andThen fun _ => .pure
  | [] | _ :: _ :: _ => exact stops_placeholder _ _

omit hb in
theorem stops_jump (u : Tree) (kind : NodeKind) (label : Option String) :
    Stops shown none (jump u kind label) := by
  refine (stops_alloc _ _).andThen fun _ => ?_
  cases label with
  | none => exact .pure
  | some label => exact (stops_addPart (stops_simpleName _ _)).andThen fun _ => .pure

theorem stops_statement :
    Stops shown (Refusal.statement refused shown) (statement below) := by
  unfold statement Refusal.statement
  cases t.parts with
  | block =>
    exact (stops_alloc _ _).bind fun _ => (stops_addStatements hb _ _).andThen fun _ => .pure
  | skip => exact stops_alloc _ _
  | execute => exact stops_execute hb _
  | varDef => exact stops_mergedDeclaration hb _ _ _ _
  | classDef =>
    exact (stops_typeDeclaration hb).andThen fun _ => stops_over _ _ _ _
  | branch _ thenPart =>
    exact (stops_alloc _ _).bind fun _ => (stops_addPart (stops_condition hb _)).bind fun _ =>
      (stops_addPart (hb thenPart).statement).bind fun _ =>
      (stops_addOptional fun p => (hb p).statement).andThen fun _ => .pure
  | whileLoop _ body =>
    exact (stops_alloc _ _).bind fun _ => (stops_addPart (stops_condition hb _)).bind fun _ =>
      (stops_addPart (hb body).statement).andThen fun _ => .pure
  | doLoop body =>
    exact (stops_alloc _ _).bind fun _ => (stops_addPart (hb body).statement).bind fun _ =>
      (stops_addPart (stops_condition hb _)).andThen fun _ => .pure
  | forLoop _ _ _ body =>
    exact (stops_alloc _ _).bind fun _ => (stops_addEach (stops_loopStart hb)).bind fun _ =>
      (stops_addOptional fun p => (hb p).expression).bind fun _ =>
      (stops_addEach (stops_executed hb)).bind fun _ =>
      (stops_addPart (hb body).statement).andThen fun _ => .pure
  | foreachLoop _ expression body =>
    exact (stops_alloc _ _).bind fun _ => (stops_addPart (stops_parameter hb _ _)).bind fun _ =>
      (stops_addPart (hb expression).expression).bind fun _ =>
      (stops_addPart (hb body).statement).andThen fun _ => .pure
  | labelled _ body =>
    exact (stops_alloc _ _).bind fun _ => (stops_addPart (stops_simpleName _ _)).bind fun _ =>
      (stops_addPart (hb body).statement).andThen fun _ => .pure
  | breakTo | continueTo => exact stops_jump _ _ _
  | yieldValue value | throwing value => exact stops_ofExpression hb _ (some value)
  | returnValue => exact stops_ofExpression hb _ _
  | switch =>
    exact (stops_alloc _ _).bind fun _ => (stops_addPart (stops_condition hb _)).bind fun _ =>
      (stops_addCases hb _ _).andThen fun _ => .pure
  | synchronized =>
    exact (stops_alloc _ _).bind fun _ => (stops_addPart (stops_condition hb _)).bind fun _ =>
      (stops_addPart (stops_blockAt hb _)).andThen fun _ => .pure
  | tryBlock => exact stops_tryBlock hb _ _ _ _
  | assertion test =>
    exact (stops_alloc _ _).bind fun _ => (stops_addPart (hb test).expression).bind fun _ =>
      (stops_addOptional fun p => (hb p).expression).andThen fun _ => .pure
  | erroneous => exact stops_malformedStatement hb _
  | _ => exact stops_unsupported _

/-! ## Units -/

theorem stops_packageClause (p : Part t) :
    Stops shown (Refusal.packageClause refused p) (packageClause below p) := by
  unfold packageClause Refusal.packageClause
  cases p.parts with
  | package _ clause =>
    exact (stops_alloc _ _).bind fun _ => (stops_annotations hb _ _ _).bind fun _ =>
      (stops_addPart (hb clause).name).andThen fun _ => .pure
  | _ => exact stops_unsupported _

theorem stops_addImport (owner : NodeId) (p : Part t) :
    Stops shown (Refusal.importing refused p) (addImport below owner p) := by
  unfold addImport Refusal.importing
  cases p.parts with
  | importing whole =>
    exact (stops_alloc _ _).bind fun _ =>
      (stops_addPart (hb (importedName whole).1).name).andThen fun _ => stops_addChild _ _ _
  | _ => exact .pure

theorem stops_addTopLevel (owner : NodeId) (p : Part t) :
    Stops shown (Refusal.topLevel refused p) (addTopLevel below owner p) := by
  unfold addTopLevel Refusal.topLevel
  cases p.parts with
  | classDef => exact stops_addPart (hb p).typeDeclaration
  | _ => exact .pure

theorem stops_unit : Stops shown (Refusal.unit refused) (unit below) := by
  unfold unit Refusal.unit
  cases t.parts with
  | unit =>
    exact stops_read.bind fun _ => (stops_allocAt _ _ _).bind fun _ =>
      (stops_addOptional (stops_packageClause hb)).bind fun _ =>
      (stops_forM (stops_addImport hb _)).bind fun _ =>
      (stops_forM (stops_addTopLevel hb _)).andThen fun _ => .pure
  | _ => exact stops_unsupported _

end

/-- **Every action on a tree stops with the refusal of the tree** in the
role of the action. -/
theorem refused_actions (shown : Bool) (t : Tree) :
    (actions t).Refused shown (refusals shown t) := by
  induction t using actions.induct with
  | case1 t ih =>
    rw [actions, refusals]
    have hb (p : Part t) : (actions p.1).Refused shown (refusals shown p.1) := ih p
    exact ⟨stops_name hb, stops_type hb, stops_expression hb, stops_annotated hb,
      stops_statement hb, stops_typeDeclaration hb⟩

end Conversion

open Conversion in
/-- **A conversion stops with the first refusal of its tree**, whatever
the source text is, and succeeds if there is none. -/
theorem errorOf_convert (source : Source) (level : Unified.Level) (root : Foreign.Tree) :
    errorOf (convert source level root) = firstRefusal level.supportsSealedTypes root := by
  have hunit := stops_unit (fun p : Foreign.Tree.Part root =>
    refused_actions level.supportsSealedTypes p.1) ⟨source, level, ""⟩ State.initial rfl
  unfold convert firstRefusal
  rw [← hunit]
  cases unit (fun p : Foreign.Tree.Part root => actions p.1) ⟨source, level, ""⟩
      State.initial with
  | error e => rfl
  | ok r => rfl

namespace Conversion

/-- The constructs that are known to have no unified counterpart. -/
def Construct.IsPattern : Construct → Prop
  | tree .recordPattern | tree .anyPattern => True
  | _ => False

/-- A conversion that makes a unit or stops at a pattern. -/
def Spares (x : Except Unsupported ConvertedUnit) : Prop :=
  ∀ e, x = .error e → e.construct.IsPattern

end Conversion

namespace Conversion

/-- A token of a concrete tree. -/
def caseToken (text : String) (start stop : Nat) : Concrete.Node :=
  .mk (.token text) none false false false start stop []

/-- The concrete tree of a switch over `x` with the word `case` alone in its
body. -/
def caseAlone : Concrete.Node :=
  .mk .switchExpression none true false false 21 40 [
    caseToken "switch" 21 27,
    .mk .parenthesizedExpression (some .condition) true false false 28 31 [
      caseToken "(" 28 29, .mk .identifier none true false false 29 30 [], caseToken ")" 30 31],
    .mk (.token "switch_block") (some .body) true false false 32 40 [
      caseToken "\x7b" 32 33,
      .mk (.token "ERROR") none true false true 34 38 [caseToken "case" 34 38],
      caseToken "\x7d" 39 40]]

/-- The concrete tree of `class A { void m() { switch (x) { case } } }`. -/
def caseAloneUnit : Concrete.Node :=
  .mk (.token "program") none true false false 0 44 [
    .mk .classDeclaration none true false false 0 44 [
      caseToken "class" 0 5,
      .mk .identifier (some .name) true false false 6 7 [],
      .mk .classBody (some .body) true false false 8 44 [
        caseToken "\x7b" 8 9,
        .mk .methodDeclaration none true false false 10 42 [
          .mk .voidType (some .type) true false false 10 14 [],
          .mk .identifier (some .name) true false false 15 16 [],
          .mk .formalParameters (some .parameters) true false false 16 18
            [caseToken "(" 16 17, caseToken ")" 17 18],
          .mk .block (some .body) true false false 19 42
            [caseToken "\x7b" 19 20, caseAlone, caseToken "\x7d" 41 42]],
        caseToken "\x7d" 43 44]]]

/-- The source text of the unit. -/
def caseAloneSource : Source :=
  .ofString "class A \x7b void m() \x7b switch (x) \x7b case \x7d \x7d \x7d"

end Conversion

end TreeBridge

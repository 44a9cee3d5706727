import TreeBridge.Proofs.Conversion.WholeArena
import TreeBridge.Proofs.Coupling.Declarations
/-!
# Coupled conversions of expressions, statements and units

Expressions and statements make nodes that belong together, and by
induction over the tree every action does. So two conversions of one unit
lead to states that belong together.
-/

namespace TreeBridge

namespace Conversion

namespace Coupling

open Foreign (Tree Tag Shape ClassKind)
open Foreign.Tree (Part Parts Subtree)
open Unified (NodeId NodeKind Slot Arena)

variable {C : Coupling} {t : Tree} {below : Below t} {w : C.Stage} {i j : NodeId}

section

variable (hb : ∀ p, C.Agree (below p))

include hb

/-! ## Uses of annotations -/

theorem fills_addPair (p : Part t) : C.Fills (fun id => addPair below id p) := by
  intro w i j hi
  unfold addPair
  cases p.parts with
  | assign left right =>
    refine ((hb left).name w).bind fun w₁ n n' hw₁ hn => ?_
    refine ((hb right).expression w₁).bind fun w₂ v v' hw₂ hv => ?_
    refine (makes_alloc _ _ w₂).bind fun w₃ d d' hw₃ hd => ?_
    refine (coupled_addChild hd (C.later hw₃ (C.later hw₂ hn))).andThen fun _ => ?_
    refine (coupled_addChild hd (C.later hw₃ hv)).andThen fun _ => ?_
    exact coupled_addChild (C.later hw₃ (C.later hw₂ (C.later hw₁ hi))) hd
  | _ => exact Coupled.same ()

theorem completes_annotatedWith (type : Part t) (arguments : Parts t) :
    C.Completes (annotatedWith below type arguments) := by
  intro w n n' hn
  unfold annotatedWith
  cases bareValue? arguments with
  | some value =>
    refine ((hb value).expression w).bind fun w₁ v v' hw hv => ?_
    exact coupled_pairOf _ _ (C.later hw hn) hv
  | none =>
    refine (coupled_findToken? _ _ _).andThen fun list => ?_
    split
    · exact coupled_over _ _ hn
    · refine (makes_alloc _ _ w).bind fun w₁ d d' hw hd => ?_
      refine (coupled_addChild hd (C.later hw hn)).andThen fun _ => ?_
      exact (Fills.forM (fills_addPair hb)).last hd

theorem makes_annotated : C.Makes (annotated below) := by
  unfold annotated
  cases t.parts with
  | annotationUse type => exact (hb type).name.andThen (completes_annotatedWith hb _ _)
  | _ => exact makes_unsupported _

/-! ## Switches -/

theorem makes_caseLabel (p : Part t) : C.Makes (caseLabel below p) := by
  unfold caseLabel
  cases p.parts with
  | bindingPattern => exact (makes_alloc _ _).andThen (fills_addPart (makes_parameter hb _ 0)).last
  | recordPattern | anyPattern => exact makes_unsupported _
  | _ => exact (hb p).expression

omit hb in
theorem coupled_caseEnd (p : Part t) (labels : Parts t) (rule : Bool) :
    C.Coupled w C.Same (caseEnd p labels rule) (caseEnd p labels rule) :=
  (coupled_findToken? _ _ _).andThen fun _ => Coupled.same _

theorem fills_addCase (p : Part t) : C.Fills (fun id => addCase below id p) := by
  intro w i j hi
  unfold addCase
  cases p.parts with
  | switchCase =>
    refine (coupled_caseEnd _ _ _).andThen fun stop => ?_
    refine (makes_allocAt _ _ _ w).bind fun w₁ d d' hw hd => ?_
    refine (fills_addEach (makes_caseLabel hb) hd).andThen fun _ => ?_
    refine (coupled_addChild (C.later hw hi) hd).andThen fun _ => ?_
    exact fills_addStatements hb _ (C.later hw hi)
  | _ => exact Coupled.stop

theorem fills_addCases (cases : Parts t) : C.Fills (fun id => addCases below id cases) :=
  Fills.forM (fills_addCase hb)

theorem makes_condition (p : Part t) : C.Makes (condition below p) :=
  (hb (unparenthesized p)).expression

/-! ## Operators -/

theorem fills_addOperands (operands : Parts t) :
    C.Fills (fun id => addOperands below id operands) := by
  refine Fills.forM fun p => ?_
  unfold operandSlot
  split <;> exact fills_addPart (hb p.1).expression

/-- Two expressions, before a node is made of them. -/
theorem makes_both {make : NodeId → NodeId → Convert NodeId} (left right : Part t)
    (hmake : ∀ {w l l' r r'}, C.Nodes w l l' → C.Nodes w r r' →
      C.Coupled w C.Nodes (make l r) (make l' r')) :
    C.Makes (do
      let l ← (below left).expression
      let r ← (below right).expression
      make l r) :=
  fun w => ((hb left).expression w).bind fun w₁ _ _ _ hl =>
    ((hb right).expression w₁).bind fun _ _ _ hw hr => hmake (C.later hw hl) hr

theorem makes_assignment (operator : Unified.AssignmentOperator) (left right : Part t) :
    C.Makes (assignment below operator left right) :=
  makes_both hb left right fun hl hr => coupled_pairOf _ _ hl hr

theorem makes_typeTest (expression pattern : Part t) :
    C.Makes (typeTest below expression pattern) := by
  intro w
  unfold typeTest
  cases pattern.parts with
  | bindingPattern binder =>
    refine ((hb expression).expression w).bind fun w₁ l l' _ hl => ?_
    refine (makes_alloc _ _ w₁).bind fun w₂ q q' hw hq => ?_
    refine (fills_addPart (makes_parameter hb _ 0) hq).andThen fun _ => ?_
    exact coupled_pairOf _ _ (C.later hw hl) hq
  | anyPattern | recordPattern => exact makes_unsupported _ w
  | _ =>
    refine ((hb expression).expression w).bind fun w₁ l l' _ hl => ?_
    refine ((hb pattern).type w₁).bind fun w₂ y y' hw hy => ?_
    exact coupled_pairOf _ _ (C.later hw hl) hy

/-! ## Members of objects -/

theorem fills_addOuter (p : Part t) : C.Fills (fun id => addOuter below id p) :=
  fills_addOptional fun outer => (hb outer).name

omit hb in
/-- A part, and a node over it alone. -/
theorem makes_over {m : Convert NodeId} (h : C.Makes m) (kind : NodeKind) {slot : Slot}
    [C.Shows (holdsPermitted slot)] :
    C.Makes (do
      let child ← m
      let id ← alloc t kind
      addChild id slot child
      pure id) :=
  fun w => (h w).bind fun _ _ _ _ hc => coupled_over _ _ hc

theorem makes_selection (selected : Part t) (identifier : String) :
    C.Makes (selection below selected identifier) := by
  unfold selection
  split
  · exact makes_over (hb selected).type _
  split
  · exact makes_over (hb selected).name _
  split
  · exact (makes_alloc _ _).andThen <|
      (fills_addOuter hb _).andThen (fills_addPart (makes_nameEndingAt _ _)).last
  split
  · exact makes_name hb
  · intro w
    refine ((hb selected).expression w).bind fun w₁ r r' _ hr => ?_
    refine (makes_alloc _ _ w₁).bind fun w₂ d d' hw hd => ?_
    refine (coupled_addChild hd (C.later hw hr)).andThen fun _ => ?_
    exact (fills_addPart (makes_nameEndingAt _ _)).last hd

theorem makes_call (typeArguments : Parts t) (method : Part t) (arguments : Parts t) :
    C.Makes (call below typeArguments method arguments) := by
  -- every form of a call ends with its type arguments, its name and its arguments
  have hend {convert : Convert NodeId} (h : C.Makes convert) : C.Completes (fun id => do
      addTypeArguments below id typeArguments
      addPart id .name convert
      addArguments below id arguments
      Pure.pure id) :=
    (fills_addTypeArguments hb _).andThen <|
      (fills_addPart h).andThen (fills_addArguments hb _).last
  unfold call
  cases method.parts with
  | select selected =>
    dsimp only
    split
    · exact (makes_alloc _ _).andThen <|
        (fills_addOuter hb _).andThen (hend (makes_nameEndingAt _ _))
    · intro w
      refine ((hb selected).expression w).bind fun w₁ r r' _ hr => ?_
      refine (makes_alloc _ _ w₁).bind fun w₂ d d' hw hd => ?_
      refine (coupled_addChild hd (C.later hw hr)).andThen fun _ => ?_
      exact hend (makes_nameEndingAt _ _) hd
  | ident => exact (makes_alloc _ _).andThen (hend (makes_simpleName _ _))
  | _ => exact makes_unsupported _

theorem makes_referenceNode (expression : Part t) : C.Makes (referenceNode below expression) := by
  unfold referenceNode
  split
  · exact (makes_alloc _ _).andThen (fills_addOuter hb _).last
  split
  · exact makes_over (hb expression).type _
  · exact makes_over (hb expression).expression _

theorem makes_reference (mode : Foreign.ReferenceMode) (identifier : String)
    (expression : Part t) (typeArguments : Parts t) :
    C.Makes (reference below mode identifier expression typeArguments) := by
  unfold reference
  cases mode with
  | create =>
    intro w
    refine ((hb expression).type w).bind fun w₁ y y' _ hy => ?_
    refine (makes_alloc _ _ w₁).bind fun w₂ d d' hw hd => ?_
    refine (coupled_addChild hd (C.later hw hy)).andThen fun _ => ?_
    exact (fills_addTypeArguments hb _).last hd
  | invoke =>
    exact (makes_referenceNode hb expression).andThen <|
      (fills_addTypeArguments hb _).andThen (fills_addPart (makes_nameEndingAt _ _)).last

theorem makes_newClass (enclosing : Option (Part t)) (typeArguments : Parts t) (type : Part t)
    (arguments : Parts t) (body : Option (Part t)) :
    C.Makes (newClass below enclosing typeArguments type arguments body) :=
  (makes_alloc _ _).andThen <| (fills_addOptional fun p => (hb p).expression).andThen <|
    (fills_addTypeArguments hb _).andThen <| (fills_addPart (hb type).type).andThen <|
    (fills_addArguments hb _).andThen (fills_addOptional (makes_anonymousClass hb)).last

theorem makes_lambdaBody (p : Part t) : C.Makes (lambdaBody below p) := by
  unfold lambdaBody
  cases p.parts with
  | block => exact makes_blockAt hb p
  | _ => exact (hb p).expression

theorem makes_lambda (parameters : Parts t) (body : Part t) (parenthesized : Bool) :
    C.Makes (lambda below parameters body parenthesized) :=
  (makes_alloc _ _).andThen <| (fills_addEach (makes_lambdaParameter hb)).andThen
    (fills_addPart (makes_lambdaBody hb body)).last

/-! ## Arrays -/

theorem fills_addInitializer (brace : Option Int) (elements : Option (Parts t)) :
    C.Fills (fun id => addInitializer below id brace elements) := by
  intro w i j hi
  unfold addInitializer
  cases elements with
  | none => exact Coupled.same ()
  | some elements =>
    refine (makes_synthetic _ _ w).bind fun w₁ d d' hw hd => ?_
    refine (fills_expressions hb elements hd).andThen fun _ => ?_
    exact coupled_addChild (C.later hw hi) hd

theorem makes_arrayCreation (elementType : Part t) (dims : Parts t) (extraDims : ℕ)
    (elements : Option (Parts t)) :
    C.Makes (arrayCreation below elementType dims extraDims elements) := by
  intro w
  refine (coupled_tokensBetween _ _).andThen fun tokens => ?_
  refine (makes_arrayTypeWith hb _ _ w).bind fun w₁ y y' _ hy => ?_
  refine (makes_alloc _ _ w₁).bind fun w₂ d d' hw hd => ?_
  refine (coupled_addChild hd (C.later hw hy)).andThen fun _ => ?_
  exact (fills_expressions hb dims).andThen (fills_addInitializer hb _ _).last hd

theorem makes_arrayInitializer (elements : Parts t) :
    C.Makes (arrayInitializer below elements) :=
  (makes_alloc _ _).andThen (fills_expressions hb elements).last

/-! ## All expressions -/

theorem makes_malformedExpression (salvaged : Parts t) :
    C.Makes (malformedExpression below salvaged) := by
  unfold malformedExpression
  cases salvagedExpression? salvaged with
  | none => exact makes_placeholder _ _
  | some p =>
    exact (hb p).expression.andThen (Fills.last fun _ _ _ hi => coupled_markRecovered hi)

theorem makes_conditional (test whenTrue whenFalse : Part t) :
    C.Makes (conditional below test whenTrue whenFalse) := by
  intro w
  refine ((hb test).expression w).bind fun w₁ c c' _ hc => ?_
  refine ((hb whenTrue).expression w₁).bind fun w₂ l l' hw₂ hl => ?_
  refine ((hb whenFalse).expression w₂).bind fun w₃ r r' hw₃ hr => ?_
  refine (makes_alloc _ _ w₃).bind fun w₄ d d' hw₄ hd => ?_
  refine (coupled_addChild hd (C.later hw₄ (C.later hw₃ (C.later hw₂ hc)))).andThen fun _ => ?_
  refine (coupled_addChild hd (C.later hw₄ (C.later hw₃ hl))).andThen fun _ => ?_
  exact (coupled_addChild hd (C.later hw₄ hr)).andThen fun _ => Coupled.node hd

theorem makes_unary (operator : Tag) (operand : Part t) :
    C.Makes (unary below operator operand) := by
  refine fun w => ((hb operand).expression w).bind fun w₁ c c' _ hc => ?_
  cases unaryKind? operator with
  | none => exact Coupled.stop
  | some kind => exact coupled_over _ _ hc

theorem makes_expression : C.Makes (expression below) := by
  unfold expression
  cases t.parts with
  | ident identifier =>
    dsimp only
    split
    · exact makes_alloc _ _
    · exact makes_name hb
  | literal => exact makes_alloc _ _
  | parens inner => exact makes_over (hb inner).expression _
  | select => exact makes_selection hb _ _
  | call => exact makes_call hb _ _ _
  | newClass => exact makes_newClass hb _ _ _ _ _
  | newArray elementType =>
    cases elementType with
    | none => exact makes_arrayInitializer hb _
    | some elementType => exact makes_arrayCreation hb _ _ _ _
  | lambda => exact makes_lambda hb _ _ _
  | assign => exact makes_assignment hb _ _ _
  | assignOp operator =>
    dsimp only
    cases assignmentOperator? operator with
    | none => exact Makes.stop
    | some operator => exact makes_assignment hb _ _ _
  | unary => exact makes_unary hb _ _
  | binary => exact (makes_alloc _ _).andThen (fills_addOperands hb _).last
  | conditional => exact makes_conditional hb _ _ _
  | typeCast type operand =>
    intro w
    refine ((hb type).type w).bind fun w₁ y y' _ hy => ?_
    refine ((hb operand).expression w₁).bind fun w₂ e e' hw he => ?_
    exact coupled_pairOf _ _ (C.later hw hy) he
  | typeTest => exact makes_typeTest hb _ _
  | indexed => exact makes_both hb _ _ fun hl hr => coupled_pairOf _ _ hl hr
  | reference => exact makes_reference hb _ _ _ _
  | switchExpression =>
    exact (makes_alloc _ _).andThen <|
      (fills_addPart (makes_condition hb _)).andThen (fills_addCases hb _).last
  | annotationUse type => exact (hb type).name.andThen (completes_annotatedWith hb _ _)
  | erroneous => exact makes_malformedExpression hb _
  | typeIdent | typeArray | typeApply | annotatedType => exact makes_placeholder _ _
  | _ => exact makes_unsupported _

/-! ## Statements -/

theorem makes_executed (p : Part t) : C.Makes (executed below p) := by
  unfold executed
  cases p.parts with
  | execute expression => exact (hb expression).expression
  | _ => exact (hb p).expression

theorem makes_loopStart (g : Group t) : C.Makes (loopStart below g) := by
  cases g with
  | together first more => exact makes_declarationExpression hb first more
  | single p => exact makes_executed hb p

omit hb in
theorem makes_jump (u : Tree) (kind : NodeKind) (label : Option String) :
    C.Makes (jump u kind label) :=
  (makes_alloc _ _).andThen (fills_addOptional fun _ => makes_simpleName _ _).last

theorem makes_ofExpression (kind : NodeKind) (expression : Option (Part t)) :
    C.Makes (ofExpression below kind expression) :=
  (makes_alloc _ _).andThen (fills_addOptional fun p => (hb p).expression).last

theorem makes_resource (p : Part t) : C.Makes (resource below p) := by
  unfold resource
  cases declared? p with
  | some v => exact makes_declarationExpression hb v []
  | none => exact (hb p).expression

theorem makes_catchClause (p : Part t) : C.Makes (catchClause below p) := by
  unfold catchClause
  cases p.parts with
  | catcher =>
    exact (makes_alloc _ _).andThen <|
      (fills_addPart (makes_parameter hb _ 0)).andThen (fills_addPart (makes_blockAt hb _)).last
  | _ => exact makes_unsupported _

theorem makes_tryBlock (resources : Parts t) (body : Part t) (catchers : Parts t)
    (finalizer : Option (Part t)) : C.Makes (tryBlock below resources body catchers finalizer) :=
  (makes_alloc _ _).andThen <| (fills_addEach (makes_resource hb)).andThen <|
    (fills_addPart (makes_blockAt hb _)).andThen <|
    (fills_addEach (makes_catchClause hb)).andThen (fills_addOptional (makes_blockAt hb)).last

theorem makes_constructorCall (kind : NodeKind) (typeArguments : Parts t) (method : Part t)
    (arguments : Parts t) :
    C.Makes (constructorCall below kind typeArguments method arguments) :=
  (makes_alloc _ _).andThen <| (fills_addOptional fun p => (hb p).expression).andThen <|
    (fills_addTypeArguments hb _).andThen (fills_addArguments hb _).last

theorem makes_execute (p : Part t) : C.Makes (execute below p) := by
  unfold execute
  cases p.parts with
  | call _ method =>
    dsimp only
    cases constructorCall? method with
    | some kind => exact makes_constructorCall hb _ _ _ _
    | none => exact makes_ofExpression hb _ _
  | _ => exact makes_ofExpression hb _ _

theorem makes_malformedStatement (salvaged : Parts t) :
    C.Makes (malformedStatement below salvaged) := by
  unfold malformedStatement
  match salvaged with
  | [only] =>
    dsimp only
    split
    · intro w
      refine ((hb only).expression w).bind fun w₁ e e' _ he => ?_
      refine (makes_alloc _ _ w₁).bind fun w₂ d d' hw hd => ?_
      refine (coupled_addChild hd (C.later hw he)).andThen fun _ => ?_
      exact (coupled_markRecovered hd).andThen fun _ => Coupled.node hd
    · exact (hb only).statement.andThen (Fills.last fun _ _ _ hi => coupled_markRecovered hi)
  | [] | _ :: _ :: _ => exact makes_placeholder _ _

theorem makes_typeStatement {K : ℕ → Prop} (hg : Grounded K below) :
    C.Makes (typeStatement below) :=
  makes_over (makes_typeDeclaration hb hg) _

theorem makes_statement {K : ℕ → Prop} (hg : Grounded K below) : C.Makes (statement below) := by
  unfold statement
  cases t.parts with
  | block => exact (makes_alloc _ _).andThen (fills_addStatements hb _).last
  | skip => exact makes_alloc _ _
  | execute => exact makes_execute hb _
  | varDef => exact makes_declaration hb _ _ _
  | classDef => exact makes_typeStatement hb hg
  | branch _ thenPart =>
    exact (makes_alloc _ _).andThen <| (fills_addPart (makes_condition hb _)).andThen <|
      (fills_addPart (hb thenPart).statement).andThen
      (fills_addOptional fun p => (hb p).statement).last
  | whileLoop _ body =>
    exact (makes_alloc _ _).andThen <| (fills_addPart (makes_condition hb _)).andThen
      (fills_addPart (hb body).statement).last
  | doLoop body =>
    exact (makes_alloc _ _).andThen <| (fills_addPart (hb body).statement).andThen
      (fills_addPart (makes_condition hb _)).last
  | forLoop _ _ _ body =>
    exact (makes_alloc _ _).andThen <| (fills_addEach (makes_loopStart hb)).andThen <|
      (fills_addOptional fun p => (hb p).expression).andThen <|
      (fills_addEach (makes_executed hb)).andThen (fills_addPart (hb body).statement).last
  | foreachLoop _ expression body =>
    exact (makes_alloc _ _).andThen <| (fills_addPart (makes_parameter hb _ 0)).andThen <|
      (fills_addPart (hb expression).expression).andThen (fills_addPart (hb body).statement).last
  | labelled _ body =>
    exact (makes_alloc _ _).andThen <| (fills_addPart (makes_simpleName _ _)).andThen
      (fills_addPart (hb body).statement).last
  | breakTo | continueTo => exact makes_jump _ _ _
  | yieldValue | throwing => exact makes_ofExpression hb _ _
  | returnValue => exact makes_ofExpression hb _ _
  | switch =>
    exact (makes_alloc _ _).andThen <|
      (fills_addPart (makes_condition hb _)).andThen (fills_addCases hb _).last
  | synchronized =>
    exact (makes_alloc _ _).andThen <| (fills_addPart (makes_condition hb _)).andThen
      (fills_addPart (makes_blockAt hb _)).last
  | tryBlock => exact makes_tryBlock hb _ _ _ _
  | assertion test =>
    exact (makes_alloc _ _).andThen <| (fills_addPart (hb test).expression).andThen
      (fills_addOptional fun p => (hb p).expression).last
  | erroneous => exact makes_malformedStatement hb _
  | _ => exact makes_unsupported _

/-! ## Units -/

theorem makes_packageClause (p : Part t) : C.Makes (packageClause below p) := by
  unfold packageClause
  cases p.parts with
  | package _ clause =>
    exact (makes_alloc _ _).andThen <| (fills_addEach fun p => (hb p).annotated).andThen
      (fills_addPart (hb clause).name).last
  | _ => exact makes_unsupported _

theorem fills_addImport (p : Part t) : C.Fills (fun id => addImport below id p) := by
  intro w i j hi
  unfold addImport
  cases p.parts with
  | importing whole =>
    refine (makes_alloc _ _ w).bind fun w₁ d d' hw hd => ?_
    have hname : C.Fills fun id => addPart id .name (below (importedName whole).1).name :=
      fills_addPart (hb (importedName whole).1).name
    exact (hname hd).andThen fun _ => coupled_addChild (C.later hw hi) hd
  | _ => exact Coupled.same ()

theorem fills_addTopLevel (p : Part t) : C.Fills (fun id => addTopLevel below id p) := by
  unfold addTopLevel
  cases p.parts with
  | classDef => exact fills_addPart (hb p).typeDeclaration
  | _ => exact fun _ _ _ _ => Coupled.same ()

theorem makes_unit : C.Makes (unit below) := by
  unfold unit
  cases t.parts with
  | unit =>
    refine fun w => coupled_read.bind fun w₁ ctx ctx' _ hctx => ?_
    rw [hctx.source]
    exact (makes_allocAt _ _ _).andThen
      ((fills_addOptional (makes_packageClause hb)).andThen <|
        (Fills.forM (fills_addImport hb)).andThen (Fills.forM (fills_addTopLevel hb)).last) w₁
  | _ => exact makes_unsupported _

end

/-- **Every action on a tree makes nodes that belong together.** -/
theorem agree_actions (C : Coupling) (t : Tree) : C.Agree (actions t) := by
  induction t using actions.induct with
  | case1 t ih =>
    have hb (p : Part t) : C.Agree (actions p.1) := ih p
    have hg := grounded_actions t
    rw [actions]
    exact ⟨makes_name hb, makes_type hb, makes_expression hb, makes_annotated hb,
      makes_statement hb hg, makes_typeDeclaration hb hg⟩

end Coupling

end Conversion

end TreeBridge

import TreeBridge.Conversion.Statement
import TreeBridge.Proofs.Conversion.Members
/-!
# Converted expressions and statements are subtrees

Every conversion of an expression or a statement leaves one loose root,
given that the conversions of the trees below do. The cases of a switch
are the one place where a part becomes several children of a node.
-/

namespace TreeBridge

namespace Conversion

open Foreign (Tree Shape)
open Foreign.Tree (Part Parts Subtree)
open Unified (NodeId NodeKind Slot)

variable {K : ℕ → Prop} {t : Tree} {below : Below t}

theorem subtree_unparenthesized {p : Part t} (hp : Subtree p.1 t) :
    Subtree (unparenthesized p).1 t := by
  unfold unparenthesized
  split
  · next inner h => exact subtree_of_partsOf hp h (by simp [Shape.children])
  · exact hp

theorem yields_condition (hb : Grounded K below) {p : Part t} (hp : Subtree p.1 t) :
    Yields K (condition below p) :=
  (hb.sound _ (subtree_unparenthesized hp)).expression

/-! ## Uses of annotations -/

theorem mem_of_bareValue? {arguments : Parts t} {value : Part t}
    (h : bareValue? arguments = some value) : value ∈ arguments := by
  unfold bareValue? at h
  split at h
  · split at h <;> simp_all
  · cases h

theorem keeps_addPair (hb : Grounded K below) (owner : NodeId) {p : Part t}
    (hp : Subtree p.1 t) : Keeps K owner (addPair below owner p) := by
  unfold addPair
  split
  · next left right h =>
    have hleft := subtree_of_partsOf hp h (by simp [Shape.children] : left ∈ _)
    have hright := subtree_of_partsOf hp h (by simp [Shape.children] : right ∈ _)
    refine (hb.sound left hleft).name.bindNew fun name => ?_
    refine (hb.sound right hright).expression.bindNew fun value => ?_
    refine (yields_alloc (hb.known _ hp) .memberValuePair rfl).bindNew fun pair => ?_
    refine Moves.attach .name (List.Perm.swap name value [owner]) ?_
    refine Moves.attach .value (List.Perm.refl [value, owner]) ?_
    exact (moves_addChild owner .values pair).permute (List.Perm.swap owner pair [])
      (fun _ => List.Perm.refl _)
  · exact Moves.pure rfl

theorem moves_annotatedWith (hb : Grounded K below) {type : Part t} {arguments : Parts t}
    (ha : ∀ p ∈ arguments, Subtree p.1 t) (name : NodeId) :
    Moves K [name] (annotatedWith below type arguments name) (fun id => [id]) := by
  unfold annotatedWith
  split
  · next value h =>
    refine (hb.sound value (ha value (mem_of_bareValue? h))).expression.bindNew fun v => ?_
    refine (yields_alloc hb.root .annotationSingleMember rfl).bindNew fun id => ?_
    exact Moves.attach .typeName (List.Perm.swap name v []) (Moves.attachLast .value)
  · refine (keeps_findToken? _ _ _).bind fun list => ?_
    split
    · exact (yields_alloc hb.root .annotationMarker rfl).bindNew fun id => Moves.attachLast _
    · refine (yields_alloc hb.root .annotationNormal rfl).bindNew fun id => ?_
      refine Moves.attach .typeName (List.Perm.refl [name]) ?_
      refine (keeps_forM fun p hp => ?_).bind fun _ => Moves.pure rfl
      exact keeps_addPair hb id (ha p hp)

theorem yields_annotated (hb : Grounded K below) : Yields K (annotated below) := by
  unfold annotated
  split
  · next type arguments h =>
    refine (hb.sound type (subtree_of_parts h (by simp [Shape.children]))).name.bind
      fun name => ?_
    exact moves_annotatedWith hb
      (fun p hp => subtree_of_parts h (by simp [Shape.children, hp])) name
  · exact Moves.stop

/-! ## Switches -/

/-- A pattern of a type and a name becomes a node over its variable. -/
theorem yields_caseLabel (hb : Grounded K below) {p : Part t} (hp : Subtree p.1 t) :
    Yields K (caseLabel below p) := by
  unfold caseLabel
  split
  · next binder h =>
    refine (yields_alloc (hb.known _ hp) .typePattern rfl).bind fun id => ?_
    refine (keeps_addPart .parameter (yields_parameter hb ?_ 0)).bind fun _ => Moves.pure rfl
    exact subtree_of_partsOf hp h (by simp [Shape.children])
  · exact Moves.stop
  · exact Moves.stop
  · exact (hb.sound p hp).expression

theorem keeps_caseEnd {pre : List NodeId} (p : Part t) (labels : Parts t) (rule : Bool) :
    Moves K pre (caseEnd p labels rule) (fun _ => pre) := by
  unfold caseEnd
  exact (keeps_findToken? _ _ _).bind fun _ => Moves.pure rfl

theorem keeps_addCase (hb : Grounded K below) (owner : NodeId) {p : Part t}
    (hp : Subtree p.1 t) : Keeps K owner (addCase below owner p) := by
  unfold addCase
  split
  · next labels isDefault rule statements h =>
    refine (keeps_caseEnd p labels rule).bind fun stop => ?_
    refine (yields_allocAt (hb.known _ hp) _ _ (by rfl)).bindNew fun id => ?_
    refine ((keeps_addEach .expressions fun q hq => ?_).frame [owner]).bind fun _ => ?_
    · exact yields_caseLabel hb (subtree_of_partsOf hp h (by simp [Shape.children, hq]))
    refine ((moves_addChild owner .statements id).permute (List.Perm.swap owner id [])
      (fun _ => List.Perm.refl _)).bind fun _ => ?_
    exact keeps_addStatements hb owner fun q hq =>
      subtree_of_partsOf hp h (by simp [Shape.children, hq])
  · exact Moves.stop

theorem keeps_addCases (hb : Grounded K below) (owner : NodeId) {cases : Parts t}
    (hc : ∀ p ∈ cases, Subtree p.1 t) : Keeps K owner (addCases below owner cases) :=
  keeps_forM fun p hp => keeps_addCase hb owner (hc p hp)

/-! ## Operators -/

/-- The operands of a chain are subtrees of it. -/
theorem subtree_of_mem_leftOperands (operator : Foreign.Tag) (p : Part t) :
    ∀ q ∈ leftOperands operator p, Subtree q.1 p.1 := by
  induction p using leftOperands.induct operator with
  | case1 p left right h ih =>
    intro q hq
    rw [leftOperands, h] at hq
    simp only [if_true, List.mem_append, List.mem_singleton] at hq
    have hmem {c : Part p.1} (hc : c ∈ p.1.parts.children) : Subtree c.1 p.1 :=
      Foreign.Tree.subtree_of_mem_parts hc
    rcases hq with hq | rfl
    · exact (ih q hq).trans (hmem (by simp [h, Shape.children]))
    · exact hmem (by simp [h, Shape.children])
  | case2 p o left right h ho =>
    intro q hq
    rw [leftOperands, h] at hq
    simp only [ho, if_false, List.mem_singleton] at hq
    rw [hq]
    exact Subtree.refl
  | case3 p h =>
    intro q hq
    unfold leftOperands at hq
    split at hq
    · next o left right hs => exact absurd hs (h o left right)
    · rw [List.mem_singleton.1 hq]
      exact Subtree.refl

theorem keeps_addOperands (hb : Grounded K below) (owner : NodeId) {operands : Parts t}
    (ho : ∀ p ∈ operands, Subtree p.1 t) : Keeps K owner (addOperands below owner operands) := by
  refine keeps_forM fun p hp => keeps_addPart _ ?_
  exact (hb.sound p.1 (ho p.1 (List.fst_mem_of_mem_zipIdx hp))).expression

theorem yields_assignment (hb : Grounded K below) (operator : Unified.AssignmentOperator)
    {left right : Part t} (hl : Subtree left.1 t) (hr : Subtree right.1 t) :
    Yields K (assignment below operator left right) := by
  unfold assignment
  refine (hb.sound left hl).expression.bind fun l => ?_
  refine (hb.sound right hr).expression.bindNew fun r => ?_
  refine (yields_alloc hb.root _ (by rfl)).bindNew fun id => ?_
  exact Moves.attach .leftHandSide (List.Perm.swap l r []) (Moves.attachLast .rightHandSide)

theorem yields_typeTest (hb : Grounded K below) {expression pattern : Part t}
    (he : Subtree expression.1 t) (hp : Subtree pattern.1 t) :
    Yields K (typeTest below expression pattern) := by
  unfold typeTest
  split
  · next binder h =>
    refine (hb.sound expression he).expression.bind fun left => ?_
    refine (yields_alloc (hb.known _ hp) .typePattern rfl).bindNew fun pattern => ?_
    refine ((keeps_addPart .parameter (yields_parameter hb ?_ 0)).frame [left]).bind fun _ => ?_
    · exact subtree_of_partsOf hp h (by simp [Shape.children])
    refine (yields_alloc hb.root .patternInstanceofExpression rfl).bindNew fun id => ?_
    exact Moves.attach .leftOperand (List.Perm.swap left pattern []) (Moves.attachLast .pattern)
  · exact Moves.stop
  · exact Moves.stop
  · refine (hb.sound expression he).expression.bind fun left => ?_
    refine (hb.sound pattern hp).type.bindNew fun type => ?_
    refine (yields_alloc hb.root .instanceofExpression rfl).bindNew fun id => ?_
    exact Moves.attach .leftOperand (List.Perm.swap left type []) (Moves.attachLast .type)

/-! ## Members of objects -/

theorem subtree_of_outerOfSuper? {p outer : Part t} (hp : Subtree p.1 t)
    (h : outerOfSuper? p = some outer) : Subtree outer.1 t := by
  unfold outerOfSuper? at h
  split at h
  · next o name hs =>
    cases h
    exact subtree_of_partsOf hp hs (by simp [Shape.children])
  · cases h

theorem keeps_addOuter (hb : Grounded K below) (owner : NodeId) {p : Part t}
    (hp : Subtree p.1 t) : Keeps K owner (addOuter below owner p) :=
  keeps_addOptional _ fun outer h => (hb.sound outer (subtree_of_outerOfSuper? hp h)).name

theorem yields_selection (hb : Grounded K below) {selected : Part t}
    (hs : Subtree selected.1 t) (identifier : String) :
    Yields K (selection below selected identifier) := by
  unfold selection
  split
  · refine (hb.sound selected hs).type.bind fun type => ?_
    exact (yields_alloc hb.root .typeLiteral rfl).bindNew fun id => Moves.attachLast .type
  split
  · refine (hb.sound selected hs).name.bind fun qualifier => ?_
    exact (yields_alloc hb.root .thisExpression rfl).bindNew fun id => Moves.attachLast .qualifier
  split
  · refine (yields_alloc hb.root .superFieldAccess rfl).bind fun id => ?_
    refine (keeps_addOuter hb id hs).bind fun _ => ?_
    exact (keeps_addPart .name (yields_nameEndingAt _ _)).bind fun _ => Moves.pure rfl
  split
  · exact yields_name hb
  · refine (hb.sound selected hs).expression.bind fun receiver => ?_
    refine (yields_alloc hb.root .fieldAccess rfl).bindNew fun id => ?_
    refine Moves.attach .expression (List.Perm.refl [receiver]) ?_
    exact (keeps_addPart .name (yields_nameEndingAt _ _)).bind fun _ => Moves.pure rfl

theorem yields_call (hb : Grounded K below) {typeArguments arguments : Parts t}
    {method : Part t} (hta : ∀ p ∈ typeArguments, Subtree p.1 t) (hm : Subtree method.1 t)
    (ha : ∀ p ∈ arguments, Subtree p.1 t) :
    Yields K (call below typeArguments method arguments) := by
  -- every form of a call ends with its type arguments, its name and its arguments
  have hend (id : NodeId) {name : Convert NodeId} (hname : Yields K name) :
      Moves K [id] (do
        addTypeArguments below id typeArguments
        addPart id .name name
        addArguments below id arguments
        Pure.pure id) (fun id => [id]) := by
    refine (keeps_addTypeArguments hb id hta).bind fun _ => ?_
    refine (keeps_addPart .name hname).bind fun _ => ?_
    exact (keeps_addArguments hb id ha).bind fun _ => Moves.pure rfl
  unfold call
  split
  · next selected identifier h =>
    have hs := subtree_of_partsOf hm h (by simp [Shape.children] : selected ∈ _)
    split
    · refine (yields_alloc hb.root .superMethodInvocation rfl).bind fun id => ?_
      exact (keeps_addOuter hb id hs).bind fun _ => hend id (yields_nameEndingAt _ _)
    · refine (hb.sound selected hs).expression.bind fun receiver => ?_
      refine (yields_alloc hb.root .methodInvocation rfl).bindNew fun id => ?_
      refine Moves.attach .expression (List.Perm.refl [receiver]) ?_
      exact hend id (yields_nameEndingAt _ _)
  · refine (yields_alloc hb.root .methodInvocation rfl).bind fun id => ?_
    exact hend id (yields_simpleName _ _)
  · exact Moves.stop

theorem yields_referenceNode (hb : Grounded K below) {expression : Part t}
    (he : Subtree expression.1 t) : Yields K (referenceNode below expression) := by
  unfold referenceNode
  split
  · refine (yields_alloc hb.root .superMethodReference rfl).bind fun id => ?_
    exact (keeps_addOuter hb id he).bind fun _ => Moves.pure rfl
  split
  · refine (hb.sound expression he).type.bind fun type => ?_
    exact (yields_alloc hb.root .typeMethodReference rfl).bindNew fun id => Moves.attachLast .type
  · refine (hb.sound expression he).expression.bind fun receiver => ?_
    exact (yields_alloc hb.root .expressionMethodReference rfl).bindNew fun id =>
      Moves.attachLast .expression

theorem yields_reference (hb : Grounded K below) (mode : Foreign.ReferenceMode)
    (identifier : String) {expression : Part t} {typeArguments : Parts t}
    (he : Subtree expression.1 t) (hta : ∀ p ∈ typeArguments, Subtree p.1 t) :
    Yields K (reference below mode identifier expression typeArguments) := by
  cases mode with
  | create =>
    refine (hb.sound expression he).type.bind fun type => ?_
    refine (yields_alloc hb.root .creationReference rfl).bindNew fun id => ?_
    refine Moves.attach .type (List.Perm.refl [type]) ?_
    exact (keeps_addTypeArguments hb id hta).bind fun _ => Moves.pure rfl
  | invoke =>
    refine (yields_referenceNode hb he).bind fun id => ?_
    refine (keeps_addTypeArguments hb id hta).bind fun _ => ?_
    exact (keeps_addPart .name (yields_nameEndingAt _ _)).bind fun _ => Moves.pure rfl

theorem yields_lambdaBody (hb : Grounded K below) {p : Part t} (hp : Subtree p.1 t) :
    Yields K (lambdaBody below p) := by
  unfold lambdaBody
  split
  · exact yields_blockAt hb hp
  · exact (hb.sound p hp).expression

/-! ## Arrays -/

theorem keeps_addElements (hb : Grounded K below) (owner : NodeId) {elements : Parts t}
    (he : ∀ p ∈ elements, Subtree p.1 t) : Keeps K owner (addElements below owner elements) :=
  keeps_addEach _ fun p hp => (hb.sound p (he p hp)).expression

theorem keeps_addInitializer (hb : Grounded K below) (owner : NodeId) (brace : Option Int)
    {elements : Option (Parts t)} (he : ∀ ps, elements = some ps → ∀ p ∈ ps, Subtree p.1 t) :
    Keeps K owner (addInitializer below owner brace elements) := by
  unfold addInitializer
  split
  · exact Moves.pure rfl
  · next ps =>
    refine (yields_synthetic .arrayInitializer _ rfl).bindNew fun id => ?_
    refine ((keeps_addElements hb id (he ps rfl)).frame [owner]).bind fun _ => ?_
    exact (moves_addChild owner .initializer id).permute (List.Perm.swap owner id [])
      (fun _ => List.Perm.refl _)

theorem yields_arrayCreation (hb : Grounded K below) {elementType : Part t} {dims : Parts t}
    (extraDims : ℕ) {elements : Option (Parts t)} (ht : Subtree elementType.1 t)
    (hd : ∀ p ∈ dims, Subtree p.1 t) (he : ∀ ps, elements = some ps → ∀ p ∈ ps, Subtree p.1 t) :
    Yields K (arrayCreation below elementType dims extraDims elements) := by
  unfold arrayCreation
  refine (keeps_tokensBetween _ _).bind fun tokens => ?_
  refine (yields_arrayTypeWith hb ht _).bind fun type => ?_
  refine (yields_alloc hb.root .arrayCreation rfl).bindNew fun id => ?_
  refine Moves.attach .type (List.Perm.refl [type]) ?_
  refine (keeps_addEach .dimensions fun p hp => (hb.sound p (hd p hp)).expression).bind
    fun _ => ?_
  exact (keeps_addInitializer hb id _ he).bind fun _ => Moves.pure rfl

/-! ## All expressions -/

theorem subtree_of_salvagedExpression? {salvaged : Parts t} {p : Part t}
    (hs : ∀ q ∈ salvaged, Subtree q.1 t) (h : salvagedExpression? salvaged = some p) :
    Subtree p.1 t := by
  unfold salvagedExpression? at h
  split at h
  · next only =>
    have honly := hs only (by simp)
    split at h
    · next expression hparts =>
      cases h
      exact subtree_of_partsOf honly hparts (by simp [Shape.children])
    · split at h
      · cases h
        exact honly
      · cases h
  · cases h

theorem yields_malformedExpression (hb : Grounded K below) {salvaged : Parts t}
    (hs : ∀ q ∈ salvaged, Subtree q.1 t) : Yields K (malformedExpression below salvaged) := by
  unfold malformedExpression
  split
  · next p h =>
    refine (hb.sound p (subtree_of_salvagedExpression? hs h)).expression.bind fun id => ?_
    exact (keeps_markRecovered id).bind fun _ => Moves.pure rfl
  · exact yields_placeholder hb.root _ rfl

theorem isConstructor_of_unaryKind? {operator : Foreign.Tag} {kind : NodeKind}
    (h : unaryKind? operator = some kind) : kind.isConstructor = false := by
  unfold unaryKind? at h
  split at h <;> cases h <;> rfl

theorem yields_unary (hb : Grounded K below) (operator : Foreign.Tag) {operand : Part t}
    (ho : Subtree operand.1 t) : Yields K (unary below operator operand) := by
  unfold unary
  refine (hb.sound operand ho).expression.bind fun o => ?_
  split
  · exact Moves.stop
  · next h =>
    exact (yields_alloc hb.root _ (isConstructor_of_unaryKind? h)).bindNew fun id =>
      Moves.attachLast .operand

theorem yields_conditional (hb : Grounded K below) {test whenTrue whenFalse : Part t}
    (h₁ : Subtree test.1 t) (h₂ : Subtree whenTrue.1 t) (h₃ : Subtree whenFalse.1 t) :
    Yields K (conditional below test whenTrue whenFalse) := by
  unfold conditional
  refine (hb.sound test h₁).expression.bind fun c => ?_
  refine (hb.sound whenTrue h₂).expression.bindNew fun x => ?_
  refine (hb.sound whenFalse h₃).expression.bindNew fun y => ?_
  refine (yields_alloc hb.root .conditionalExpression rfl).bindNew fun id => ?_
  refine Moves.attach .expression (List.perm_append_singleton c [y, x]) ?_
  exact Moves.attach .thenExpression (List.Perm.swap x y []) (Moves.attachLast .elseExpression)

theorem yields_newClass (hb : Grounded K below) {enclosing body : Option (Part t)}
    {typeArguments arguments : Parts t} {type : Part t}
    (he : ∀ p, enclosing = some p → Subtree p.1 t) (hta : ∀ p ∈ typeArguments, Subtree p.1 t)
    (ht : Subtree type.1 t) (ha : ∀ p ∈ arguments, Subtree p.1 t)
    (hbody : ∀ p, body = some p → Subtree p.1 t) :
    Yields K (newClass below enclosing typeArguments type arguments body) := by
  unfold newClass
  refine (yields_alloc hb.root .classInstanceCreation rfl).bind fun id => ?_
  refine (keeps_addOptional .expression fun p hp => (hb.sound p (he p hp)).expression).bind
    fun _ => ?_
  refine (keeps_addTypeArguments hb id hta).bind fun _ => ?_
  refine (keeps_addPart .type (hb.sound type ht).type).bind fun _ => ?_
  refine (keeps_addArguments hb id ha).bind fun _ => ?_
  refine (keeps_addOptional .anonymousClassDeclaration fun p hp => ?_).bind
    fun _ => Moves.pure rfl
  exact yields_anonymousClass hb (hbody p hp)

theorem yields_lambda (hb : Grounded K below) {parameters : Parts t} {body : Part t}
    (hp : ∀ p ∈ parameters, Subtree p.1 t) (hbody : Subtree body.1 t) (parenthesized : Bool) :
    Yields K (lambda below parameters body parenthesized) := by
  unfold lambda
  refine (yields_alloc hb.root _ (by rfl)).bind fun id => ?_
  refine (keeps_addEach .parameters fun p h => yields_lambdaParameter hb (hp p h)).bind
    fun _ => ?_
  exact (keeps_addPart .body (yields_lambdaBody hb hbody)).bind fun _ => Moves.pure rfl

theorem yields_arrayInitializer (hb : Grounded K below) {elements : Parts t}
    (he : ∀ p ∈ elements, Subtree p.1 t) : Yields K (arrayInitializer below elements) := by
  unfold arrayInitializer
  refine (yields_alloc hb.root .arrayInitializer rfl).bind fun id => ?_
  exact (keeps_addElements hb id he).bind fun _ => Moves.pure rfl

theorem isConstructor_literalKind (type : Foreign.TypeTag) (value : String) :
    (literalKind type value).isConstructor = false := by
  cases type with
  | reference =>
    show (if isTextBlock value then NodeKind.textBlock value
      else .stringLiteral value).isConstructor = false
    split <;> rfl
  | _ => rfl

theorem yields_expression (hb : Grounded K below) : Yields K (expression below) := by
  unfold expression
  split
  · split
    · exact yields_alloc hb.root _ rfl
    · exact yields_name hb
  · exact yields_alloc hb.root _ (isConstructor_literalKind _ _)
  · next inner h =>
    refine (hb.sound inner (subtree_of_parts h (by simp [Shape.children]))).expression.bind
      fun i => ?_
    exact (yields_alloc hb.root .parenthesizedExpression rfl).bindNew fun id =>
      Moves.attachLast .expression
  · next selected identifier h =>
    exact yields_selection hb (subtree_of_parts h (by simp [Shape.children])) identifier
  · next typeArguments method arguments h =>
    exact yields_call hb (fun p hp => subtree_of_parts h (by simp [Shape.children, hp]))
      (subtree_of_parts h (by simp [Shape.children]))
      (fun p hp => subtree_of_parts h (by simp [Shape.children, hp]))
  · next enclosing typeArguments type arguments body h =>
    exact yields_newClass hb (fun p hp => subtree_of_parts h (by simp [Shape.children, hp]))
      (fun p hp => subtree_of_parts h (by simp [Shape.children, hp]))
      (subtree_of_parts h (by simp [Shape.children]))
      (fun p hp => subtree_of_parts h (by simp [Shape.children, hp]))
      (fun p hp => subtree_of_parts h (by simp [Shape.children, hp]))
  · next dims extraDims elements h =>
    exact yields_arrayInitializer hb fun p hp =>
      subtree_of_parts h (by simp only [Shape.children, List.mem_append, hp, or_true])
  · next elementType dims extraDims elements h =>
    exact yields_arrayCreation hb extraDims (subtree_of_parts h (by simp [Shape.children]))
      (fun p hp => subtree_of_parts h (by simp [Shape.children, hp]))
      (fun ps hps p hp => subtree_of_parts h (by simp [Shape.children, hps, hp]))
  · next parameters body parenthesized h =>
    exact yields_lambda hb (fun p hp => subtree_of_parts h (by simp [Shape.children, hp]))
      (subtree_of_parts h (by simp [Shape.children])) parenthesized
  · next left right h =>
    exact yields_assignment hb _ (subtree_of_parts h (by simp [Shape.children]))
      (subtree_of_parts h (by simp [Shape.children]))
  · next operator left right h =>
    split
    · exact yields_assignment hb _ (subtree_of_parts h (by simp [Shape.children]))
        (subtree_of_parts h (by simp [Shape.children]))
    · exact Moves.stop
  · next operator operand h =>
    exact yields_unary hb operator (subtree_of_parts h (by simp [Shape.children]))
  · next operator left right h =>
    have hl := subtree_of_parts h (by simp [Shape.children] : left ∈ _)
    have hr := subtree_of_parts h (by simp [Shape.children] : right ∈ _)
    refine (yields_alloc hb.root _ (by rfl)).bind fun id => ?_
    refine (keeps_addOperands hb id fun p hp => ?_).bind fun _ => Moves.pure rfl
    rcases List.mem_append.1 hp with hp | hp
    · exact (subtree_of_mem_leftOperands operator left p hp).trans hl
    · exact List.mem_singleton.1 hp ▸ hr
  · next test whenTrue whenFalse h =>
    exact yields_conditional hb (subtree_of_parts h (by simp [Shape.children]))
      (subtree_of_parts h (by simp [Shape.children]))
      (subtree_of_parts h (by simp [Shape.children]))
  · next type operand h =>
    have ht := subtree_of_parts h (by simp [Shape.children] : type ∈ _)
    have ho := subtree_of_parts h (by simp [Shape.children] : operand ∈ _)
    refine (hb.sound type ht).type.bind fun x => ?_
    refine (hb.sound operand ho).expression.bindNew fun y => ?_
    refine (yields_alloc hb.root .castExpression rfl).bindNew fun id => ?_
    exact Moves.attach .type (List.Perm.swap x y []) (Moves.attachLast .expression)
  · next operand pattern h =>
    exact yields_typeTest hb (subtree_of_parts h (by simp [Shape.children]))
      (subtree_of_parts h (by simp [Shape.children]))
  · next array index h =>
    have ha := subtree_of_parts h (by simp [Shape.children] : array ∈ _)
    have hi := subtree_of_parts h (by simp [Shape.children] : index ∈ _)
    refine (hb.sound array ha).expression.bind fun x => ?_
    refine (hb.sound index hi).expression.bindNew fun y => ?_
    refine (yields_alloc hb.root .arrayAccess rfl).bindNew fun id => ?_
    exact Moves.attach .array (List.Perm.swap x y []) (Moves.attachLast .index)
  · next mode identifier operand typeArguments h =>
    exact yields_reference hb mode identifier (subtree_of_parts h (by simp [Shape.children]))
      (fun p hp => subtree_of_parts h (by simp [Shape.children, hp]))
  · next selector cases h =>
    refine (yields_alloc hb.root .switchExpression rfl).bind fun id => ?_
    refine (keeps_addPart .expression (yields_condition hb ?_)).bind fun _ => ?_
    · exact subtree_of_parts h (by simp [Shape.children])
    refine (keeps_addCases hb id fun p hp => ?_).bind fun _ => Moves.pure rfl
    exact subtree_of_parts h (by simp [Shape.children, hp])
  · next type arguments h =>
    refine (hb.sound type (subtree_of_parts h (by simp [Shape.children]))).name.bind
      fun name => ?_
    exact moves_annotatedWith hb
      (fun p hp => subtree_of_parts h (by simp [Shape.children, hp])) name
  · next salvaged h =>
    exact yields_malformedExpression hb fun p hp =>
      subtree_of_parts h (by simp [Shape.children, hp])
  · exact yields_placeholder hb.root _ rfl
  · exact yields_placeholder hb.root _ rfl
  · exact yields_placeholder hb.root _ rfl
  · exact yields_placeholder hb.root _ rfl
  · exact Moves.stop

/-! ## Statements -/

theorem yields_branch (hb : Grounded K below) {test thenPart : Part t}
    {elsePart : Option (Part t)} (h₁ : Subtree test.1 t) (h₂ : Subtree thenPart.1 t)
    (h₃ : ∀ p, elsePart = some p → Subtree p.1 t) :
    Yields K (branch below test thenPart elsePart) := by
  unfold branch
  refine (yields_alloc hb.root .ifStatement rfl).bind fun id => ?_
  refine (keeps_addPart .expression (yields_condition hb h₁)).bind fun _ => ?_
  refine (keeps_addPart .thenStatement (hb.sound thenPart h₂).statement).bind fun _ => ?_
  refine (keeps_addOptional .elseStatement fun p hp => ?_).bind fun _ => Moves.pure rfl
  exact (hb.sound p (h₃ p hp)).statement

theorem yields_executed (hb : Grounded K below) {p : Part t} (hp : Subtree p.1 t) :
    Yields K (executed below p) := by
  unfold executed
  split
  · next expression h =>
    exact (hb.sound _ (subtree_of_partsOf hp h (by simp [Shape.children]))).expression
  · exact (hb.sound p hp).expression

theorem yields_loopStart (hb : Grounded K below) {g : Group t} (hg : g.Inside) :
    Yields K (loopStart below g) := by
  cases g with
  | together first more => exact yields_declarationExpression hb hg
  | single p => exact yields_executed hb hg

theorem yields_forLoop (hb : Grounded K below) {initial step : Parts t}
    {test : Option (Part t)} {body : Part t} (h₁ : ∀ p ∈ initial, Subtree p.1 t)
    (h₂ : ∀ p, test = some p → Subtree p.1 t) (h₃ : ∀ p ∈ step, Subtree p.1 t)
    (h₄ : Subtree body.1 t) : Yields K (forLoop below initial test step body) := by
  unfold forLoop
  refine (yields_alloc hb.root .forStatement rfl).bind fun id => ?_
  refine (keeps_addEach .initializers fun g hg => ?_).bind fun _ => ?_
  · exact yields_loopStart hb (inside_of_mem_groups h₁ g hg)
  refine (keeps_addOptional .expression fun p hp => (hb.sound p (h₂ p hp)).expression).bind
    fun _ => ?_
  refine (keeps_addEach .updaters fun p hp => yields_executed hb (h₃ p hp)).bind fun _ => ?_
  exact (keeps_addPart .body (hb.sound body h₄).statement).bind fun _ => Moves.pure rfl

theorem yields_foreachLoop (hb : Grounded K below) {binder expression body : Part t}
    (h₁ : Subtree binder.1 t) (h₂ : Subtree expression.1 t) (h₃ : Subtree body.1 t) :
    Yields K (foreachLoop below binder expression body) := by
  unfold foreachLoop
  refine (yields_alloc hb.root .enhancedForStatement rfl).bind fun id => ?_
  refine (keeps_addPart .parameter (yields_parameter hb h₁ 0)).bind fun _ => ?_
  refine (keeps_addPart .expression (hb.sound expression h₂).expression).bind fun _ => ?_
  exact (keeps_addPart .body (hb.sound body h₃).statement).bind fun _ => Moves.pure rfl

theorem yields_jump (ht : K t.id) (kind : NodeKind) (label : Option String)
    (hkind : kind.isConstructor = false) : Yields K (jump t kind label) := by
  unfold jump
  refine (yields_alloc ht kind hkind).bind fun id => ?_
  exact (keeps_addOptional .label fun _ _ => yields_simpleName _ _).bind fun _ => Moves.pure rfl

theorem yields_ofExpression (hb : Grounded K below) (kind : NodeKind)
    (hkind : kind.isConstructor = false) {expression : Option (Part t)}
    (he : ∀ p, expression = some p → Subtree p.1 t) :
    Yields K (ofExpression below kind expression) := by
  unfold ofExpression
  refine (yields_alloc hb.root kind hkind).bind fun id => ?_
  exact (keeps_addOptional .expression fun p hp => (hb.sound p (he p hp)).expression).bind
    fun _ => Moves.pure rfl

theorem yields_resource (hb : Grounded K below) {p : Part t} (hp : Subtree p.1 t) :
    Yields K (resource below p) := by
  unfold resource
  split
  · next v hv =>
    exact yields_declarationExpression hb ⟨inside_of_declared? hp hv, by simp⟩
  · exact (hb.sound p hp).expression

theorem yields_catchClause (hb : Grounded K below) {p : Part t} (hp : Subtree p.1 t) :
    Yields K (catchClause below p) := by
  unfold catchClause
  split
  · next param body h =>
    refine (yields_alloc (hb.known _ hp) .catchClause rfl).bind fun id => ?_
    refine (keeps_addPart .exception (yields_parameter hb ?_ 0)).bind fun _ => ?_
    · exact subtree_of_partsOf hp h (by simp [Shape.children])
    refine (keeps_addPart .body (yields_blockAt hb ?_)).bind fun _ => Moves.pure rfl
    exact subtree_of_partsOf hp h (by simp [Shape.children])
  · exact Moves.stop

theorem yields_tryBlock (hb : Grounded K below) {resources catchers : Parts t} {body : Part t}
    {finalizer : Option (Part t)} (h₁ : ∀ p ∈ resources, Subtree p.1 t) (h₂ : Subtree body.1 t)
    (h₃ : ∀ p ∈ catchers, Subtree p.1 t) (h₄ : ∀ p, finalizer = some p → Subtree p.1 t) :
    Yields K (tryBlock below resources body catchers finalizer) := by
  unfold tryBlock
  refine (yields_alloc hb.root .tryStatement rfl).bind fun id => ?_
  refine (keeps_addEach .resources fun p hp => yields_resource hb (h₁ p hp)).bind fun _ => ?_
  refine (keeps_addPart .body (yields_blockAt hb h₂)).bind fun _ => ?_
  refine (keeps_addEach .catchClauses fun p hp => yields_catchClause hb (h₃ p hp)).bind
    fun _ => ?_
  exact (keeps_addOptional .finallyBlock fun p hp => yields_blockAt hb (h₄ p hp)).bind
    fun _ => Moves.pure rfl

theorem isConstructor_of_constructorCall? {method : Part t} {kind : NodeKind}
    (h : constructorCall? method = some kind) : kind.isConstructor = false := by
  unfold constructorCall? at h
  split at h <;> cases h <;> rfl

theorem yields_constructorCall (hb : Grounded K below) {kind : NodeKind}
    (hkind : kind.isConstructor = false)
    {typeArguments arguments : Parts t} {method : Part t}
    (hta : ∀ p ∈ typeArguments, Subtree p.1 t) (hm : Subtree method.1 t)
    (ha : ∀ p ∈ arguments, Subtree p.1 t) :
    Yields K (constructorCall below kind typeArguments method arguments) := by
  unfold constructorCall
  refine (yields_alloc hb.root kind hkind).bind fun id => ?_
  refine (keeps_addOptional .expression fun p hp => ?_).bind fun _ => ?_
  · exact (hb.sound p (subtree_of_outerOfSuper? hm hp)).expression
  refine (keeps_addTypeArguments hb id hta).bind fun _ => ?_
  exact (keeps_addArguments hb id ha).bind fun _ => Moves.pure rfl

theorem yields_execute (hb : Grounded K below) {p : Part t} (hp : Subtree p.1 t) :
    Yields K (execute below p) := by
  have hplain : Yields K (ofExpression below .expressionStatement (some p)) :=
    yields_ofExpression hb _ rfl fun q hq => Option.some.inj hq ▸ hp
  unfold execute
  split
  · next typeArguments method arguments h =>
    split
    · next hkind =>
      exact yields_constructorCall hb (isConstructor_of_constructorCall? hkind)
        (fun q hq => subtree_of_partsOf hp h (by simp [Shape.children, hq]))
        (subtree_of_partsOf hp h (by simp [Shape.children]))
        (fun q hq => subtree_of_partsOf hp h (by simp [Shape.children, hq]))
    · exact hplain
  · exact hplain

theorem yields_malformedStatement (hb : Grounded K below) {salvaged : Parts t}
    (hs : ∀ q ∈ salvaged, Subtree q.1 t) : Yields K (malformedStatement below salvaged) := by
  unfold malformedStatement
  split
  · next only =>
    have honly := hs only (by simp)
    split
    · refine (hb.sound only honly).expression.bind fun inner => ?_
      refine (yields_alloc hb.root .expressionStatement rfl).bindNew fun id => ?_
      refine Moves.attach .expression (List.Perm.refl [inner]) ?_
      exact (keeps_markRecovered id).bind fun _ => Moves.pure rfl
    · refine (hb.sound only honly).statement.bind fun id => ?_
      exact (keeps_markRecovered id).bind fun _ => Moves.pure rfl
  · exact yields_placeholder hb.root _ rfl

theorem yields_block (hb : Grounded K below) {statements : Parts t}
    (hs : ∀ p ∈ statements, Subtree p.1 t) : Yields K (block below statements) := by
  unfold block
  refine (yields_alloc hb.root .block rfl).bind fun id => ?_
  exact (keeps_addStatements hb id hs).bind fun _ => Moves.pure rfl

theorem yields_typeStatement (hb : Grounded K below) : Yields K (typeStatement below) := by
  unfold typeStatement
  refine (yields_typeDeclaration hb).bind fun declaration => ?_
  exact (yields_alloc hb.root .typeDeclarationStatement rfl).bindNew fun id =>
    Moves.attachLast .declaration

theorem yields_statement (hb : Grounded K below) : Yields K (statement below) := by
  unfold statement
  split
  · next isStatic statements h =>
    exact yields_block hb fun p hp => subtree_of_parts h (by simp [Shape.children, hp])
  · exact yields_alloc hb.root _ rfl
  · next expression h =>
    exact yields_execute hb (subtree_of_parts h (by simp [Shape.children]))
  · next mods name type dims value h =>
    refine yields_declaration hb _ rfl ⟨⟨Subtree.refl, fun p hp => ?_, fun p hp => ?_,
      fun p hp => ?_⟩, by simp⟩ <;> dsimp only at hp <;>
      exact subtree_of_parts h (by simp [Shape.children, hp])
  · exact yields_typeStatement hb
  · next test thenPart elsePart h =>
    exact yields_branch hb (subtree_of_parts h (by simp [Shape.children]))
      (subtree_of_parts h (by simp [Shape.children]))
      (fun p hp => subtree_of_parts h (by simp [Shape.children, hp]))
  · next test body h =>
    have htest := subtree_of_parts h (by simp [Shape.children] : test ∈ _)
    have hbody := subtree_of_parts h (by simp [Shape.children] : body ∈ _)
    refine (yields_alloc hb.root .whileStatement rfl).bind fun id => ?_
    refine (keeps_addPart .expression (yields_condition hb htest)).bind fun _ => ?_
    exact (keeps_addPart .body (hb.sound body hbody).statement).bind fun _ => Moves.pure rfl
  · next body test h =>
    have htest := subtree_of_parts h (by simp [Shape.children] : test ∈ _)
    have hbody := subtree_of_parts h (by simp [Shape.children] : body ∈ _)
    refine (yields_alloc hb.root .doStatement rfl).bind fun id => ?_
    refine (keeps_addPart .body (hb.sound body hbody).statement).bind fun _ => ?_
    exact (keeps_addPart .expression (yields_condition hb htest)).bind fun _ => Moves.pure rfl
  · next initial test step body h =>
    exact yields_forLoop hb (fun p hp => subtree_of_parts h (by simp [Shape.children, hp]))
      (fun p hp => subtree_of_parts h (by simp [Shape.children, hp]))
      (fun p hp => subtree_of_parts h (by simp [Shape.children, hp]))
      (subtree_of_parts h (by simp [Shape.children]))
  · next binder expression body h =>
    exact yields_foreachLoop hb (subtree_of_parts h (by simp [Shape.children]))
      (subtree_of_parts h (by simp [Shape.children]))
      (subtree_of_parts h (by simp [Shape.children]))
  · next label body h =>
    have hbody := subtree_of_parts h (by simp [Shape.children] : body ∈ _)
    refine (yields_alloc hb.root .labeledStatement rfl).bind fun id => ?_
    refine (keeps_addPart .label (yields_simpleName _ _)).bind fun _ => ?_
    exact (keeps_addPart .body (hb.sound body hbody).statement).bind fun _ => Moves.pure rfl
  · exact yields_jump hb.root _ _ rfl
  · exact yields_jump hb.root _ _ rfl
  · next value h =>
    exact yields_ofExpression hb _ rfl fun p hp =>
      Option.some.inj hp ▸ subtree_of_parts h (by simp [Shape.children])
  · next value h =>
    exact yields_ofExpression hb _ rfl fun p hp =>
      subtree_of_parts h (by simp [Shape.children, hp])
  · next value h =>
    exact yields_ofExpression hb _ rfl fun p hp =>
      Option.some.inj hp ▸ subtree_of_parts h (by simp [Shape.children])
  · next selector cases h =>
    refine (yields_alloc hb.root .switchStatement rfl).bind fun id => ?_
    refine (keeps_addPart .expression (yields_condition hb ?_)).bind fun _ => ?_
    · exact subtree_of_parts h (by simp [Shape.children])
    refine (keeps_addCases hb id fun p hp => ?_).bind fun _ => Moves.pure rfl
    exact subtree_of_parts h (by simp [Shape.children, hp])
  · next lock body h =>
    refine (yields_alloc hb.root .synchronizedStatement rfl).bind fun id => ?_
    refine (keeps_addPart .expression (yields_condition hb ?_)).bind fun _ => ?_
    · exact subtree_of_parts h (by simp [Shape.children])
    refine (keeps_addPart .body (yields_blockAt hb ?_)).bind fun _ => Moves.pure rfl
    exact subtree_of_parts h (by simp [Shape.children])
  · next resources body catchers finalizer h =>
    exact yields_tryBlock hb (fun p hp => subtree_of_parts h (by simp [Shape.children, hp]))
      (subtree_of_parts h (by simp [Shape.children]))
      (fun p hp => subtree_of_parts h (by simp [Shape.children, hp]))
      (fun p hp => subtree_of_parts h (by simp [Shape.children, hp]))
  · next test detail h =>
    have htest := subtree_of_parts h (by simp [Shape.children] : test ∈ _)
    refine (yields_alloc hb.root .assertStatement rfl).bind fun id => ?_
    refine (keeps_addPart .expression (hb.sound test htest).expression).bind fun _ => ?_
    refine (keeps_addOptional .message fun p hp => ?_).bind fun _ => Moves.pure rfl
    exact (hb.sound p (subtree_of_parts h (by simp [Shape.children, hp]))).expression
  · next salvaged h =>
    exact yields_malformedStatement hb fun p hp =>
      subtree_of_parts h (by simp [Shape.children, hp])
  · exact Moves.stop

end Conversion

end TreeBridge

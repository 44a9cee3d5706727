import TreeBridge.Lowering.Statement
import TreeBridge.Proofs.Lowering.Declarations
/-!
# Reading patterns, expressions and statements

Nothing in a body settles a report but the declarations in it, so all
that is read in a body is orderly.
-/

namespace TreeBridge

namespace Lowering

open Concrete (Node Kind Field)
open Concrete.Node (Part Parts)

variable {s : Source} {n : Node} {below : Below n} (hb : ∀ p, (below p).Steady)
include hb

/-! ## Patterns and switches -/

theorem orderly_bindingVariable (whole : Node) (type name : Option (Part n)) :
    Orderly (bindingVariable s below whole type name) := by
  obtain ⟨_, htype⟩ := orderly_optional (fun p => (hb p).type) type
  exact ⟨_, htype.bind fun _ => (Makes.make _ _ _ _).reads⟩

theorem orderly_patternComponent (p : Part n) : Orderly (patternComponent s below p) := by
  unfold patternComponent
  split
  · split
    · next type name _ =>
      obtain ⟨_, hbinder⟩ := orderly_bindingVariable (s := s) hb p.1 (some type) (some name)
      exact ⟨_, hbinder.bind fun _ => (makes_spanning _ _).reads⟩
    · next only _ => exact (hb only).pattern
    · exact (hb p).malformed
  · exact (hb p).pattern

theorem orderly_recordPattern : Orderly (recordPattern s below) := by
  obtain ⟨_, htype⟩ := orderly_orPlaceholder (fun p => (hb p).type) n.parts.named.head? n.start
  obtain ⟨_, hnested⟩ := orderly_mapM
    (fun p (_ : p ∈ (n.parts.named.drop 1).flatMap (fun body => body.parts.named)) =>
      orderly_patternComponent (s := s) hb p)
  exact ⟨_, htype.bind fun _ => hnested.bind fun _ => (makes_spanning _ _).reads⟩

theorem orderly_typePattern : Orderly (typePattern s below) := by
  obtain ⟨_, hbinder⟩ := orderly_bindingVariable (s := s) hb n n.parts.named[0]? n.parts.named[1]?
  exact ⟨_, hbinder.bind fun _ => (makes_spanning _ _).reads⟩

theorem orderly_caseLabels (label : Part n) : Orderly (caseLabels below label) :=
  orderly_each (fun p => (hb p).pattern) _

theorem orderly_groupStatement (p : Part n) : Orderly (groupStatement below p) := by
  unfold groupStatement
  split
  · exact orderly_one ⟨_, (makes_spanning _ _).reads⟩
  · exact (hb p).statements

theorem orderly_groupCase (label : Part n) (stop : Int) (statements : Parts n) :
    Orderly (groupCase below label stop statements) := by
  obtain ⟨_, hlabels⟩ := orderly_caseLabels hb label
  obtain ⟨_, hstatements⟩ := orderly_gather
    (fun p (_ : p ∈ statements) => orderly_groupStatement hb p)
  exact ⟨_, hlabels.bind fun _ => hstatements.bind fun _ => (Makes.make _ _ _ _).reads⟩

theorem orderly_groupCases (group : Part n) (statements labels : Parts n) :
    Orderly (groupCases below group statements labels) := by
  induction labels with
  | nil => exact ⟨_, .pure _⟩
  | cons label rest ih =>
    cases rest with
    | nil => exact orderly_one (orderly_groupCase hb _ _ _)
    | cons next rest =>
      obtain ⟨_, hlabel⟩ := orderly_groupCase hb label (colonStop group label) []
      obtain ⟨_, hrest⟩ := ih
      exact ⟨_, hlabel.bind fun _ => hrest.bind fun _ => .pure _⟩

theorem orderly_ruleBody (inExpression : Bool) (body : Option (Part n)) :
    Orderly (ruleBody below inExpression body) := by
  cases body with
  | none => exact ⟨_, .pure _⟩
  | some p =>
    simp only [ruleBody]
    split
    · obtain ⟨_, hvalue⟩ := orderly_firstExpression hb p.parts p.stop
      exact ⟨_, hvalue.bind fun _ => (makes_spanning _ _).reads.bind fun _ => .pure _⟩
    · exact (hb p).statements

theorem orderly_ruleCase (inExpression : Bool) (rule : Part n) :
    Orderly (ruleCase below inExpression rule) := by
  unfold ruleCase
  obtain ⟨_, hbody⟩ := orderly_ruleBody hb inExpression
    (rule.parts.named.filter (fun p => p.kind != .switchLabel)).getLast?
  dsimp only
  split
  · next label _ =>
    obtain ⟨_, hlabels⟩ := orderly_caseLabels hb label
    exact ⟨_, hlabels.bind fun _ => hbody.bind fun _ => (makes_spanning _ _).reads⟩
  · exact ⟨_, (Reads.pure _).bind fun _ => hbody.bind fun _ => (makes_spanning _ _).reads⟩

theorem orderly_switchMember (inExpression : Bool) (p : Part n) :
    Orderly (switchMember below inExpression p) := by
  unfold switchMember
  split
  · exact orderly_groupCases hb _ _ _
  · exact orderly_one (orderly_ruleCase hb _ _)
  · exact orderly_one (hb p).malformed

theorem orderly_cases (inExpression : Bool) : Orderly (cases below inExpression) := by
  unfold cases
  split
  · exact orderly_gather fun p _ => orderly_switchMember hb _ p
  · exact ⟨_, .pure _⟩

/-! ## Operators -/

omit hb in
theorem orderly_literal (m : Node) (type : Foreign.TypeTag) : Orderly (literal s m type) :=
  ⟨_, (makes_spanning _ _).reads⟩

theorem orderly_binary : Orderly (binary below) := by
  unfold binary
  split
  · exact orderly_malformed hb
  split
  · exact orderly_malformed hb
  · obtain ⟨_, hleft⟩ := orderly_requiredExpression hb .left
    obtain ⟨_, hright⟩ := orderly_requiredExpression hb .right
    exact ⟨_, hleft.bind fun _ => hright.bind fun _ => (makes_makeOver _ _ _).reads⟩

theorem orderly_unary : Orderly (unary below) := by
  unfold unary
  split
  · exact orderly_malformed hb
  · obtain ⟨_, hoperand⟩ := orderly_requiredExpression hb .operand
    exact ⟨_, hoperand.bind fun _ => (makes_spanning _ _).reads⟩

theorem orderly_update : Orderly (update below) := by
  unfold update
  split
  · exact orderly_malformed hb
  · obtain ⟨_, hoperand⟩ := orderly_firstExpression hb n.parts n.stop
    exact ⟨_, hoperand.bind fun _ => (makes_makeOver _ _ _).reads⟩

/-- Whether an assignment has an operator is seen from the symbol alone. -/
theorem orderly_assignment : Orderly (assignment below) := by
  unfold assignment
  split
  · exact orderly_malformed hb
  · next operator _ =>
    obtain ⟨_, hleft⟩ := orderly_requiredExpression hb .left
    obtain ⟨_, hright⟩ := orderly_requiredExpression hb .right
    obtain ⟨_, hm⟩ := orderly_malformed hb
    simp only [assignmentShape?]
    by_cases hequals : operator.kind.text = "="
    · simp only [hequals, if_true]
      exact ⟨_, hleft.bind fun _ => hright.bind fun _ => (makes_makeOver _ _ _).reads⟩
    simp only [hequals, if_false]
    cases Foreign.Tag.assignment? operator.kind.text with
    | none => exact ⟨_, hleft.bind fun _ => hright.bind fun _ => hm⟩
    | some op =>
      exact ⟨_, hleft.bind fun _ => hright.bind fun _ => (makes_makeOver _ _ _).reads⟩

theorem orderly_conditional : Orderly (conditional below) := by
  obtain ⟨_, hcondition⟩ := orderly_requiredExpression hb .condition
  obtain ⟨_, hthen⟩ := orderly_requiredExpression hb .consequence
  obtain ⟨_, helse⟩ := orderly_requiredExpression hb .alternative
  exact ⟨_, hcondition.bind fun _ => hthen.bind fun _ => helse.bind fun _ =>
    (makes_makeOver _ _ _).reads⟩

theorem orderly_castType : Orderly (castType below) := by
  unfold castType
  split
  · exact ⟨_, (makes_placeholder _).reads⟩
  · next single _ => exact (hb single).type
  · next first rest _ _ =>
    obtain ⟨_, hbounds⟩ := orderly_each (fun p => (hb p).type) (first :: rest)
    exact ⟨_, hbounds.bind fun _ => (Makes.make _ _ _ _).reads⟩

theorem orderly_cast : Orderly (cast below) := by
  obtain ⟨_, htype⟩ := orderly_castType hb
  obtain ⟨_, hvalue⟩ := orderly_requiredExpression hb .value
  exact ⟨_, htype.bind fun _ => hvalue.bind fun _ => (makes_spanning _ _).reads⟩

theorem orderly_testedPattern : Orderly (testedPattern s below) := by
  unfold testedPattern
  split
  · next record _ => exact (hb record).pattern
  · next name _ _ =>
    obtain ⟨_, hbinder⟩ := orderly_bindingVariable (s := s) hb n (n.parts.field? .right)
      (some name)
    exact ⟨_, hbinder.bind fun _ => (Makes.make _ _ _ _).reads⟩
  · exact orderly_orPlaceholder (fun p => (hb p).type) _ _

theorem orderly_typeTest : Orderly (typeTest s below) := by
  obtain ⟨_, hleft⟩ := orderly_requiredExpression hb .left
  obtain ⟨_, hpattern⟩ := orderly_testedPattern (s := s) hb
  exact ⟨_, hleft.bind fun _ => hpattern.bind fun _ => (makes_makeOver _ _ _).reads⟩

/-! ## Lambdas -/

omit hb in
theorem orderly_implicitParameter (p : Part n) : Orderly (implicitParameter s p) :=
  ⟨_, (makes_spanning _ _).reads⟩

theorem orderly_lambdaParameters (list : Option (Part n)) :
    Orderly (lambdaParameters s below list) := by
  cases list with
  | none => exact ⟨_, .pure _⟩
  | some p =>
    simp only [lambdaParameters]
    split
    · exact orderly_one (orderly_implicitParameter p)
    · exact orderly_formalParameters hb _
    · exact orderly_mapM fun q _ => orderly_implicitParameter q

theorem orderly_lambdaBody : Orderly (lambdaBody below) := by
  unfold lambdaBody
  split
  · exact ⟨_, (makes_placeholder _).reads⟩
  split
  · exact orderly_blockAt hb _
  · next p _ _ => exact (hb p).expression

theorem orderly_lambda : Orderly (lambda s below) := by
  obtain ⟨_, hparameters⟩ := orderly_lambdaParameters (s := s) hb (n.parts.field? .parameters)
  obtain ⟨_, hbody⟩ := orderly_lambdaBody hb
  exact ⟨_, hparameters.bind fun _ => hbody.bind fun _ => (makes_makeOver _ _ _).reads⟩

/-! ## Members of objects -/

theorem orderly_receiver (object : Part n) : Orderly (receiver below object) := by
  unfold receiver
  obtain ⟨_, hobject⟩ := (hb object).expression
  split
  · exact ⟨_, hobject.bind fun _ => (Makes.make _ _ _ _).reads⟩
  · exact ⟨_, hobject.bind fun _ => .pure _⟩

theorem orderly_fieldAccess : Orderly (fieldAccess s below) := by
  unfold fieldAccess
  split
  · next object _ _ _ =>
    obtain ⟨_, hobject⟩ := orderly_receiver hb object
    exact ⟨_, hobject.bind fun _ => (makes_makeOver _ _ _).reads⟩
  · exact orderly_malformed hb

theorem orderly_calledMethod (name : Part n) : Orderly (calledMethod s below name) := by
  unfold calledMethod
  split
  · exact orderly_identifier _
  · next object _ =>
    obtain ⟨_, hobject⟩ := orderly_receiver hb object
    exact ⟨_, hobject.bind fun _ => (Makes.make _ _ _ _).reads⟩

theorem orderly_ownTypeArguments : Orderly (ownTypeArguments below) :=
  orderly_eachOf (fun p => (hb p).type) _

theorem orderly_call : Orderly (call s below) := by
  unfold call
  split
  · exact orderly_malformed hb
  · next name _ =>
    obtain ⟨_, hmethod⟩ := orderly_calledMethod (s := s) hb name
    obtain ⟨_, htypes⟩ := orderly_ownTypeArguments hb
    obtain ⟨_, harguments⟩ := orderly_arguments hb (n.parts.field? .arguments)
    exact ⟨_, hmethod.bind fun _ => htypes.bind fun _ => harguments.bind fun _ =>
      (makes_makeOver _ _ _).reads⟩

theorem orderly_enclosing (ps : Parts n) : ∃ b, ∀ found, Reads b (enclosing below found ps) := by
  induction ps with
  | nil => exact ⟨_, fun _ => .pure _⟩
  | cons p ps ih =>
    obtain ⟨_, hps⟩ := ih
    simp only [enclosing]
    split
    · exact ⟨_, fun _ => .pure _⟩
    split
    · obtain ⟨_, hp⟩ := (hb p).expression
      exact ⟨_, fun _ => hp.bind fun _ => hps _⟩
    · exact ⟨_, hps⟩

theorem orderly_newClass : Orderly (newClass below) := by
  obtain ⟨_, houter⟩ := orderly_enclosing hb n.parts
  obtain ⟨_, htypes⟩ := orderly_ownTypeArguments hb
  obtain ⟨_, htype⟩ := orderly_orPlaceholder (fun p => (hb p).type) (n.parts.field? .type) n.stop
  obtain ⟨_, harguments⟩ := orderly_arguments hb (n.parts.field? .arguments)
  obtain ⟨_, hbody⟩ := orderly_optionalClass hb (n.parts.ofKind? .classBody)
  exact ⟨_, (houter _).bind fun _ => htypes.bind fun _ => htype.bind fun _ =>
    harguments.bind fun _ => hbody.bind fun _ => (makes_makeOver _ _ _).reads⟩

/-! ## Arrays and references -/

theorem orderly_arrayInitializer : Orderly (arrayInitializer below) := by
  obtain ⟨_, helements⟩ := orderly_each (fun p => (hb p).initial) n.parts.named
  exact ⟨_, helements.bind fun _ => (makes_spanning _ _).reads⟩

theorem orderly_arraySizes (ps : Parts n) : Orderly (arraySizes below ps) :=
  orderly_mapM fun p _ => orderly_firstExpression hb p.parts p.stop

theorem orderly_arrayElements : Orderly (arrayElements below) := by
  unfold arrayElements
  split
  · exact ⟨_, .pure _⟩
  · next list _ =>
    obtain ⟨_, helements⟩ := orderly_each (fun p => (hb p).initial) list.parts.named
    exact ⟨_, helements.bind fun _ => .pure _⟩

theorem orderly_newArray : Orderly (newArray below) := by
  obtain ⟨_, htype⟩ := orderly_optional (fun p => (hb p).type) (n.parts.field? .type)
  obtain ⟨_, hsizes⟩ := orderly_arraySizes hb (n.parts.inField .dimensions)
  obtain ⟨_, helements⟩ := orderly_arrayElements hb
  exact ⟨_, htype.bind fun _ => hsizes.bind fun _ => helements.bind fun _ =>
    (makes_spanning _ _).reads⟩

theorem orderly_classLiteral : Orderly (classLiteral below) := by
  obtain ⟨_, htype⟩ := orderly_orPlaceholder (fun p => (hb p).type) n.parts.named.head? n.start
  exact ⟨_, htype.bind fun _ => (makes_makeOver _ _ _).reads⟩

theorem orderly_referenceTarget : Orderly (referenceTarget below) := by
  unfold referenceTarget
  split
  · next p _ =>
    split
    · exact (hb p).type
    · exact (hb p).expression
  · exact ⟨_, (makes_placeholder _).reads⟩

theorem orderly_methodReference : Orderly (methodReference s below) := by
  unfold methodReference
  obtain ⟨_, htarget⟩ := orderly_referenceTarget hb
  obtain ⟨_, htypes⟩ := orderly_eachOf (fun p => (hb p).type) (n.parts.ofKind? .typeArguments)
  dsimp only
  split
  · exact ⟨_, htarget.bind fun _ => htypes.bind fun _ => (makes_makeOver _ _ _).reads⟩
  · exact ⟨_, htarget.bind fun _ => htypes.bind fun _ => (makes_makeOver _ _ _).reads⟩

theorem orderly_switchExpression : Orderly (switchExpression below) := by
  obtain ⟨_, hselector⟩ := orderly_requiredExpression hb .condition
  obtain ⟨_, hcases⟩ := orderly_cases hb true
  exact ⟨_, hselector.bind fun _ => hcases.bind fun _ => (makes_spanning _ _).reads⟩

theorem orderly_arrayAccess : Orderly (arrayAccess below) := by
  obtain ⟨_, harray⟩ := orderly_requiredExpression hb .array
  obtain ⟨_, hindex⟩ := orderly_requiredExpression hb .index
  exact ⟨_, harray.bind fun _ => hindex.bind fun _ => (makes_spanning _ _).reads⟩

theorem orderly_parenthesized : Orderly (parenthesized below) := by
  obtain ⟨_, hinner⟩ := orderly_firstExpression hb n.parts n.stop
  exact ⟨_, hinner.bind fun _ => (makes_spanning _ _).reads⟩

/-! ## All expressions -/

theorem orderly_expression : Orderly (expression s below) := by
  unfold expression
  split
  · exact orderly_identifier _
  · exact orderly_identifier _
  · exact orderly_identifier _
  · exact orderly_identifier _
  · exact orderly_literal _ _
  · exact orderly_literal _ _
  · exact orderly_literal _ _
  · exact orderly_literal _ _
  · exact orderly_literal _ _
  · exact orderly_literal _ _
  · exact orderly_literal _ _
  · exact orderly_literal _ _
  · exact orderly_literal _ _
  · exact orderly_literal _ _
  · exact orderly_literal _ _
  · exact orderly_literal _ _
  · exact orderly_parenthesized hb
  · exact orderly_binary hb
  · exact orderly_unary hb
  · exact orderly_update hb
  · exact orderly_assignment hb
  · exact orderly_conditional hb
  · exact orderly_cast hb
  · exact orderly_typeTest hb
  · exact orderly_lambda hb
  · exact orderly_call hb
  · exact orderly_newClass hb
  · exact orderly_fieldAccess hb
  · exact orderly_arrayAccess hb
  · exact orderly_newArray hb
  · exact orderly_arrayInitializer hb
  · exact orderly_classLiteral hb
  · exact orderly_methodReference hb
  · exact orderly_switchExpression hb
  · exact orderly_annotated hb
  · exact orderly_annotated hb
  · exact orderly_elementArray hb
  · exact orderly_scopedName hb
  · exact orderly_unsupported hb _ _
  · split
    · exact orderly_type hb
    · exact orderly_malformed hb

theorem orderly_name : Orderly (name s below) := by
  unfold name
  split
  · exact orderly_identifier _
  · exact orderly_identifier _
  · exact orderly_scopedName hb
  · exact orderly_expression hb

theorem orderly_element : Orderly (element s below) := by
  unfold element
  split
  · exact orderly_elementArray hb
  · exact orderly_annotated hb
  · exact orderly_annotated hb
  · exact orderly_expression hb

theorem orderly_initial : Orderly (initial s below) := by
  unfold initial
  split
  · exact orderly_arrayInitializer hb
  · exact orderly_expression hb

theorem orderly_pattern : Orderly (pattern s below) := by
  unfold pattern
  split
  · split
    · next inner _ => exact (hb inner).pattern
    · exact orderly_malformed hb
  · exact orderly_typePattern hb
  · exact orderly_recordPattern hb
  · exact ⟨_, (makes_spanning _ _).reads⟩
  · exact orderly_expression hb

/-! ## Statements -/

omit hb in
theorem orderly_asOne (m : Node) (ts : List Foreign.Tree) : Reads false (asOne m ts) := by
  unfold asOne
  split
  · exact .pure _
  · exact (makes_spanning _ _).reads

theorem orderly_singleStatement (p : Part n) : Orderly (singleStatement below p) := by
  obtain ⟨_, hp⟩ := (hb p).statements
  exact ⟨_, hp.bind fun _ => orderly_asOne _ _⟩

theorem orderly_requiredStatement (p : Option (Part n)) :
    Orderly (requiredStatement below p) := by
  cases p with
  | none => exact ⟨_, (makes_placeholder _).reads⟩
  | some p => exact orderly_singleStatement hb p

theorem orderly_optionalStatement (p : Option (Part n)) :
    Orderly (optionalStatement below p) := by
  cases p with
  | none => exact ⟨_, .pure _⟩
  | some p =>
    obtain ⟨_, hp⟩ := orderly_singleStatement hb p
    exact ⟨_, hp.bind fun _ => .pure _⟩

theorem orderly_executed (p : Part n) : Orderly (executed below p) := by
  obtain ⟨_, hp⟩ := (hb p).expression
  exact ⟨_, hp.bind fun _ => (makes_spanning _ _).reads⟩

theorem orderly_expressionStatement : Orderly (expressionStatement below) := by
  obtain ⟨_, hexpression⟩ := orderly_firstExpression hb n.parts n.start
  exact ⟨_, hexpression.bind fun _ => (makes_spanning _ _).reads⟩

theorem orderly_ifStatement : Orderly (ifStatement below) := by
  obtain ⟨_, hcondition⟩ := orderly_requiredExpression hb .condition
  obtain ⟨_, hthen⟩ := orderly_requiredStatement hb (n.parts.field? .consequence)
  obtain ⟨_, helse⟩ := orderly_optionalStatement hb (n.parts.field? .alternative)
  exact ⟨_, hcondition.bind fun _ => hthen.bind fun _ => helse.bind fun _ =>
    (makes_spanning _ _).reads⟩

theorem orderly_whileStatement : Orderly (whileStatement below) := by
  obtain ⟨_, hcondition⟩ := orderly_requiredExpression hb .condition
  obtain ⟨_, hbody⟩ := orderly_requiredStatement hb (n.parts.field? .body)
  exact ⟨_, hcondition.bind fun _ => hbody.bind fun _ => (makes_spanning _ _).reads⟩

theorem orderly_doStatement : Orderly (doStatement below) := by
  obtain ⟨_, hbody⟩ := orderly_requiredStatement hb (n.parts.field? .body)
  obtain ⟨_, hcondition⟩ := orderly_requiredExpression hb .condition
  exact ⟨_, hbody.bind fun _ => hcondition.bind fun _ => (makes_spanning _ _).reads⟩

theorem orderly_loopStart (p : Part n) : Orderly (loopStart below p) := by
  unfold loopStart
  split
  · exact (hb p).statements
  · exact orderly_one (orderly_executed hb p)

theorem orderly_forStatement : Orderly (forStatement below) := by
  obtain ⟨_, hinitial⟩ := orderly_gather
    (fun p (_ : p ∈ n.parts.inField .initial) => orderly_loopStart hb p)
  obtain ⟨_, hcondition⟩ := orderly_optional (fun p => (hb p).expression)
    (n.parts.field? .condition)
  obtain ⟨_, hstep⟩ := orderly_mapM
    (fun p (_ : p ∈ n.parts.inField .update) => orderly_executed hb p)
  obtain ⟨_, hbody⟩ := orderly_requiredStatement hb (n.parts.field? .body)
  exact ⟨_, hinitial.bind fun _ => hcondition.bind fun _ => hstep.bind fun _ =>
    hbody.bind fun _ => (makes_spanning _ _).reads⟩

theorem rest_loopVariableAfter : Rest (loopVariableAfter s below) := by
  obtain ⟨_, htype⟩ := orderly_optional (fun p => (hb p).type) (n.parts.field? .type)
  exact ⟨_, fun _ => .bind htype fun _ => .make _ _ _ _⟩

theorem orderly_enhancedForStatement : Orderly (enhancedForStatement s below) := by
  obtain ⟨_, hbinder⟩ := orderly_declaring hb (s := s) n.parts false (rest_loopVariableAfter hb)
  obtain ⟨_, hvalue⟩ := orderly_requiredExpression hb .value
  obtain ⟨_, hbody⟩ := orderly_requiredStatement hb (n.parts.field? .body)
  exact ⟨_, hbinder.bind fun _ => hvalue.bind fun _ => hbody.bind fun _ =>
    (makes_spanning _ _).reads⟩

theorem orderly_labeledStatement : Orderly (labeledStatement s below) := by
  obtain ⟨_, hbody⟩ := orderly_requiredStatement hb n.parts.named[1]?
  exact ⟨_, hbody.bind fun _ => (makes_spanning _ _).reads⟩

theorem orderly_returnStatement : Orderly (returnStatement below) := by
  obtain ⟨_, hvalue⟩ := orderly_optional (fun p => (hb p).expression) n.parts.named.head?
  exact ⟨_, hvalue.bind fun _ => (makes_spanning _ _).reads⟩

theorem orderly_yieldStatement : Orderly (yieldStatement below) := by
  obtain ⟨_, hvalue⟩ := orderly_firstExpression hb n.parts n.stop
  exact ⟨_, hvalue.bind fun _ => (makes_spanning _ _).reads⟩

theorem orderly_throwStatement : Orderly (throwStatement below) := by
  obtain ⟨_, hvalue⟩ := orderly_firstExpression hb n.parts n.stop
  exact ⟨_, hvalue.bind fun _ => (makes_spanning _ _).reads⟩

theorem orderly_switchStatement : Orderly (switchStatement below) := by
  obtain ⟨_, hselector⟩ := orderly_requiredExpression hb .condition
  obtain ⟨_, hcases⟩ := orderly_cases hb false
  exact ⟨_, hselector.bind fun _ => hcases.bind fun _ => (makes_spanning _ _).reads⟩

theorem orderly_synchronizedStatement : Orderly (synchronizedStatement below) := by
  obtain ⟨_, hlock⟩ := orderly_orPlaceholder (fun p => (hb p).expression)
    (n.parts.ofKind? .parenthesizedExpression) n.start
  obtain ⟨_, hbody⟩ := orderly_requiredStatement hb (n.parts.field? .body)
  exact ⟨_, hlock.bind fun _ => hbody.bind fun _ => (makes_spanning _ _).reads⟩

theorem orderly_assertStatement : Orderly (assertStatement below) := by
  obtain ⟨_, hcondition⟩ := orderly_firstExpression hb n.parts n.stop
  obtain ⟨_, hdetail⟩ := orderly_optional (fun p => (hb p).expression) n.parts.named[1]?
  exact ⟨_, hcondition.bind fun _ => hdetail.bind fun _ => (makes_spanning _ _).reads⟩

theorem orderly_calledConstructor (keyword : Option (Part n)) :
    Orderly (calledConstructor s below keyword) := by
  unfold calledConstructor
  split
  · next object _ _ =>
    obtain ⟨_, hobject⟩ := (hb object).expression
    exact ⟨_, hobject.bind fun _ => (Makes.make _ _ _ _).reads⟩
  · exact ⟨_, (makes_makeIdent _ _).reads⟩
  · exact ⟨_, (makes_placeholder _).reads⟩

theorem orderly_constructorCall : Orderly (constructorCall s below) := by
  obtain ⟨_, hmethod⟩ := orderly_calledConstructor (s := s) hb (n.parts.field? .constructorKeyword)
  obtain ⟨_, htypes⟩ := orderly_ownTypeArguments hb
  obtain ⟨_, harguments⟩ := orderly_arguments hb (n.parts.field? .arguments)
  exact ⟨_, hmethod.bind fun _ => htypes.bind fun _ => harguments.bind fun _ =>
    (Makes.make _ _ _ _).reads.bind fun _ => (makes_spanning _ _).reads⟩

/-! ## Try statements -/

theorem rest_resourceAfter (p type : Part n) : Rest (resourceAfter s below p type) := by
  obtain ⟨_, htype⟩ := (hb type).type
  obtain ⟨_, hvalue⟩ := orderly_optional (fun q => (hb q).expression) (p.parts.field? .value)
  exact ⟨_, fun _ => .bind htype fun _ => .bind hvalue fun _ => makes_makeOver _ _ _⟩

theorem orderly_resource (p : Part n) : Orderly (resource s below p) := by
  unfold resource
  split
  · exact orderly_firstExpression hb _ _
  · exact orderly_declaring hb _ _ (rest_resourceAfter hb _ _)

theorem orderly_caughtType (types : Option (Part n)) : Orderly (caughtType below types) := by
  cases types with
  | none => exact ⟨_, .pure _⟩
  | some types =>
    obtain ⟨b, htypes⟩ := orderly_each (fun p => (hb p).type) types.parts.named
    refine ⟨b || false, htypes.bind fun read => ?_⟩
    split
    · exact .pure _
    · exact (makes_spanning _ _).reads.bind fun _ => .pure _

theorem rest_caughtAfter (p : Part n) : Rest (caughtAfter s below p) := by
  obtain ⟨_, htype⟩ := orderly_caughtType hb (p.parts.ofKind? .catchType)
  exact ⟨_, fun _ => .bind htype fun _ => makes_makeOver _ _ _⟩

theorem orderly_caughtParameter (clause : Part n) :
    Orderly (caughtParameter s below clause) := by
  unfold caughtParameter
  split
  · exact ⟨_, (makes_placeholder _).reads⟩
  · exact orderly_declaring hb _ _ (rest_caughtAfter hb _)

theorem orderly_catchClause (clause : Part n) : Orderly (catchClause s below clause) := by
  obtain ⟨_, hparam⟩ := orderly_caughtParameter (s := s) hb clause
  obtain ⟨_, hbody⟩ := orderly_requiredBlock hb (clause.parts.field? .body) clause.stop
  exact ⟨_, hparam.bind fun _ => hbody.bind fun _ => (makes_spanning _ _).reads⟩

theorem orderly_tryClause (p : Part n) : ∃ b, ∀ acc, Reads b (tryClause s below acc p) := by
  unfold tryClause
  split
  · obtain ⟨_, hp⟩ := orderly_catchClause (s := s) hb p
    exact ⟨_, fun _ => hp.bind fun _ => .pure _⟩
  · split
    · next block _ =>
      obtain ⟨_, hblock⟩ := orderly_blockAt hb block
      exact ⟨_, fun _ => hblock.bind fun _ => .pure _⟩
    · exact ⟨_, fun _ => .pure _⟩
  · exact ⟨_, fun _ => .pure _⟩

theorem orderly_tryStatement : Orderly (tryStatement s below) := by
  obtain ⟨_, hresources⟩ := orderly_mapM
    (fun p (_ : p ∈ resourceParts n) => orderly_resource (s := s) hb p)
  obtain ⟨_, hbody⟩ := orderly_requiredBlock hb (n.parts.field? .body) n.stop
  obtain ⟨_, hclauses⟩ := orderly_foldlM
    (fun p (_ : p ∈ n.parts.named) => orderly_tryClause (s := s) hb p)
  exact ⟨_, hresources.bind fun _ => hbody.bind fun _ => (hclauses _).bind fun _ =>
    (makes_spanning _ _).reads⟩

/-! ## All statements -/

theorem orderly_statement : Orderly (statement s below) := by
  unfold statement
  split
  · exact orderly_block hb
  · exact ⟨_, (makes_spanning _ _).reads⟩
  · exact orderly_expressionStatement hb
  · exact orderly_ifStatement hb
  · exact orderly_whileStatement hb
  · exact orderly_doStatement hb
  · exact orderly_forStatement hb
  · exact orderly_enhancedForStatement hb
  · exact orderly_labeledStatement hb
  · exact ⟨_, (makes_spanning _ _).reads⟩
  · exact ⟨_, (makes_spanning _ _).reads⟩
  · exact orderly_returnStatement hb
  · exact orderly_yieldStatement hb
  · exact orderly_throwStatement hb
  · exact orderly_switchStatement hb
  · exact orderly_synchronizedStatement hb
  · exact orderly_tryStatement hb
  · exact orderly_tryStatement hb
  · exact orderly_assertStatement hb
  · exact orderly_constructorCall hb
  split
  · exact orderly_typeDeclaration hb
  split
  · obtain ⟨_, hexpression⟩ := orderly_expression (s := s) hb
    exact ⟨_, hexpression.bind fun _ => (makes_spanning _ _).reads⟩
  · exact orderly_malformed hb

theorem orderly_statements : Orderly (statements s below) := by
  unfold statements
  split
  · exact orderly_declaredVariables hb
  · exact orderly_one (orderly_statement hb)

end Lowering

end TreeBridge

import TreeBridge.Lowering.Statement
import TreeBridge.Proofs.Lowering.Composition.Declarations
/-!
# Composed bodies

The readings of patterns, expressions and statements are composed steps,
and with them all actions on every node of a concrete tree, and the
reading of a unit.
-/

namespace TreeBridge

namespace Lowering

open Concrete (Node Kind Field)
open Concrete.Node (Part Parts)

instance : Bears (List Foreign.Tree × Option Foreign.Tree) :=
  ⟨fun read => read.1 ++ read.2.toList⟩

variable {s : Source} {n : Node} {below : Below n} (hb : ∀ p, (below p).AllComposed (siting s n))
include hb

/-! ## Patterns and switches -/

theorem composed_bindingVariable (whole : Node) (type name : Option (Part n)) :
    Composed (siting s n) [] (bindingVariable s below whole type name) := by
  have htype := composed_optional (fun p => (hb p).type) type
  exact htype.after fun _ => .make (.of_eq (List.append_nil _)) fun _ => named_textOf rfl

theorem composed_patternComponent (p : Part n) :
    Composed (siting s n) [] (patternComponent s below p) := by
  unfold patternComponent
  split
  · split
    · next type name _ =>
      have hbinder := composed_bindingVariable (s := s) hb p.1 (some type) (some name)
      exact hbinder.after fun _ => composed_spanning (.refl _) fun _ => trivial
    · next only _ => exact (hb only).pattern
    · exact (hb p).malformed
  · exact (hb p).pattern

theorem composed_recordPattern : Composed (siting s n) [] (recordPattern s below) := by
  have htype := composed_orPlaceholder (fun p => (hb p).type) n.parts.named.head? n.start
  have hnested := composed_mapM
    (fun p (_ : p ∈ (n.parts.named.drop 1).flatMap (fun body => body.parts.named)) =>
      composed_patternComponent (s := s) hb p)
  exact htype.after fun _ => hnested.after fun _ => composed_spanning (.refl _) fun _ => trivial

theorem composed_typePattern : Composed (siting s n) [] (typePattern s below) := by
  have hbinder := composed_bindingVariable (s := s) hb n n.parts.named[0]? n.parts.named[1]?
  exact hbinder.after fun _ => composed_spanning (.refl _) fun _ => trivial

theorem composed_caseLabels (label : Part n) : Composed (siting s n) [] (caseLabels below label) :=
  composed_each (fun p => (hb p).pattern) _

theorem composed_groupStatement (p : Part n) :
    Composed (siting s n) [] (groupStatement below p) := by
  unfold groupStatement
  split
  · exact composed_one (composed_spanning (.refl _) fun _ => trivial)
  · exact (hb p).statements

theorem composed_groupCase (label : Part n) (stop : Int) (statements : Parts n) :
    Composed (siting s n) [] (groupCase below label stop statements) := by
  have hlabels := composed_caseLabels hb label
  have hstatements := composed_gather
    (fun p (_ : p ∈ statements) => composed_groupStatement hb p)
  exact hlabels.after fun _ => hstatements.after fun _ => Composed.make (.refl _) fun _ => trivial

theorem composed_groupCases (group : Part n) (statements labels : Parts n) :
    Composed (siting s n) [] (groupCases below group statements labels) := by
  induction labels with
  | nil => exact .pure (.refl _)
  | cons label rest ih =>
    cases rest with
    | nil => exact composed_one (composed_groupCase hb _ _ _)
    | cons next rest =>
      have hlabel := composed_groupCase hb label (colonStop group label) []
      exact hlabel.after fun _ => ih.after fun _ => .pure (.refl _)

theorem composed_ruleBody (inExpression : Bool) (body : Option (Part n)) :
    Composed (siting s n) [] (ruleBody below inExpression body) := by
  cases body with
  | none => exact .pure (.refl _)
  | some p =>
    simp only [ruleBody]
    split
    · have hvalue := composed_firstExpression hb p.parts p.stop
      exact hvalue.after fun _ => composed_one (composed_spanning (.refl _) fun _ => trivial)
    · exact (hb p).statements

theorem composed_ruleCase (inExpression : Bool) (rule : Part n) :
    Composed (siting s n) [] (ruleCase below inExpression rule) := by
  unfold ruleCase
  have hbody := composed_ruleBody hb inExpression
    (rule.parts.named.filter (fun p => p.kind != .switchLabel)).getLast?
  dsimp only
  split
  · next label _ =>
    have hlabels := composed_caseLabels hb label
    exact hlabels.after fun _ => hbody.after fun _ => composed_spanning (.refl _) fun _ => trivial
  · exact (Composed.pure (.refl [])).after fun _ => hbody.after fun _ =>
      composed_spanning (.refl _) fun _ => trivial

theorem composed_switchMember (inExpression : Bool) (p : Part n) :
    Composed (siting s n) [] (switchMember below inExpression p) := by
  unfold switchMember
  split
  · exact composed_groupCases hb _ _ _
  · exact composed_one (composed_ruleCase hb _ _)
  · exact composed_one (hb p).malformed

theorem composed_cases (inExpression : Bool) :
    Composed (siting s n) [] (cases below inExpression) := by
  unfold cases
  split
  · exact composed_gather fun p _ => composed_switchMember hb _ p
  · exact .pure (.refl _)

/-! ## Operators -/

omit hb in
theorem composed_literal (m : Node) (type : Foreign.TypeTag) :
    Composed (siting s n) [] (literal s m type) :=
  composed_spanning (.refl _) fun _ => trivial

theorem composed_binary : Composed (siting s n) [] (binary below) := by
  unfold binary
  split
  · exact composed_malformed hb
  split
  · exact composed_malformed hb
  · have hleft := composed_requiredExpression hb .left
    have hright := composed_requiredExpression hb .right
    exact hleft.after fun _ => hright.after fun _ => composed_makeOver (.refl _) fun _ => trivial

theorem composed_unary : Composed (siting s n) [] (unary below) := by
  unfold unary
  split
  · exact composed_malformed hb
  · have hoperand := composed_requiredExpression hb .operand
    exact hoperand.after fun _ => composed_spanning (.refl _) fun _ => trivial

theorem composed_update : Composed (siting s n) [] (update below) := by
  unfold update
  split
  · exact composed_malformed hb
  · have hoperand := composed_firstExpression hb n.parts n.stop
    exact hoperand.after fun _ => composed_makeOver (.refl _) fun _ => trivial

omit hb in
theorem assignmentShape?_cases {symbol : String} {left right : Foreign.Tree}
    {shape : Foreign.Shape Foreign.Tree} (h : assignmentShape? symbol left right = some shape) :
    shape = .assign left right ∨ ∃ op, shape = .assignOp op left right := by
  unfold assignmentShape? at h
  split at h
  · exact .inl (Option.some.inj h).symm
  · obtain ⟨op, -, rfl⟩ := Option.map_eq_some_iff.1 h
    exact .inr ⟨op, rfl⟩

theorem composed_assignment : Composed (siting s n) [] (assignment below) := by
  unfold assignment
  split
  · exact composed_malformed hb
  · have hleft := composed_requiredExpression hb .left
    have hright := composed_requiredExpression hb .right
    refine hleft.after fun left => hright.after fun right => ?_
    split
    · next shape hshape =>
      rcases assignmentShape?_cases hshape with rfl | ⟨op, rfl⟩
      · exact composed_makeOver (.refl _) fun _ => trivial
      · exact composed_makeOver (.refl _) fun _ => trivial
    -- both sides are dropped
    · exact (composed_malformed hb).mono .nil

theorem composed_conditional : Composed (siting s n) [] (conditional below) := by
  have hcondition := composed_requiredExpression hb .condition
  have hthen := composed_requiredExpression hb .consequence
  have helse := composed_requiredExpression hb .alternative
  exact hcondition.after fun _ => hthen.after fun _ => helse.after fun _ =>
    composed_makeOver (.refl _) fun _ => trivial

theorem composed_castType : Composed (siting s n) [] (castType below) := by
  unfold castType
  split
  · exact composed_placeholder _
  · next single _ => exact (hb single).type
  · next first rest _ _ =>
    have hbounds := composed_each (fun p => (hb p).type) (first :: rest)
    exact hbounds.after fun _ => Composed.make (.refl _) fun _ => trivial

theorem composed_cast : Composed (siting s n) [] (cast below) := by
  have htype := composed_castType hb
  have hvalue := composed_requiredExpression hb .value
  exact htype.after fun _ => hvalue.after fun _ => composed_spanning (.refl _) fun _ => trivial

theorem composed_testedPattern : Composed (siting s n) [] (testedPattern s below) := by
  unfold testedPattern
  split
  · next record _ => exact (hb record).pattern
  · next name _ _ =>
    have hbinder := composed_bindingVariable (s := s) hb n (n.parts.field? .right)
      (some name)
    exact hbinder.after fun _ => Composed.make (.refl _) fun _ => trivial
  · exact composed_orPlaceholder (fun p => (hb p).type) _ _

theorem composed_typeTest : Composed (siting s n) [] (typeTest s below) := by
  have hleft := composed_requiredExpression hb .left
  have hpattern := composed_testedPattern (s := s) hb
  exact hleft.after fun _ => hpattern.after fun _ => composed_makeOver (.refl _) fun _ => trivial

/-! ## Lambdas -/

omit hb in
theorem composed_implicitParameter (p : Part n) :
    Composed (siting s n) [] (implicitParameter s p) :=
  composed_spanning (.refl _) fun _ => .inr ⟨p.1, .inr p.2, rfl, rfl⟩

theorem composed_lambdaParameters (list : Option (Part n)) :
    Composed (siting s n) [] (lambdaParameters s below list) := by
  cases list with
  | none => exact .pure (.refl _)
  | some p =>
    simp only [lambdaParameters]
    split
    · exact composed_one (composed_implicitParameter p)
    · exact composed_formalParameters hb _
    · exact composed_mapM fun q _ => composed_implicitParameter q

theorem composed_lambdaBody : Composed (siting s n) [] (lambdaBody below) := by
  unfold lambdaBody
  split
  · exact composed_placeholder _
  split
  · exact composed_blockAt hb _
  · next p _ _ => exact (hb p).expression

theorem composed_lambda : Composed (siting s n) [] (lambda s below) := by
  have hparameters := composed_lambdaParameters (s := s) hb (n.parts.field? .parameters)
  have hbody := composed_lambdaBody hb
  exact hparameters.after fun _ => hbody.after fun _ => composed_makeOver (.refl _) fun _ => trivial

/-! ## Members of objects -/

theorem composed_receiver (object : Part n) : Composed (siting s n) [] (receiver below object) := by
  unfold receiver
  have hobject := (hb object).expression
  split
  · next word hword =>
    have hmem := (List.mem_filter.1 (List.mem_of_find?_eq_some hword)).1
    have hfound := List.find?_some hword
    simp only [Bool.and_eq_true, beq_iff_eq] at hfound
    have hsuper : ReadsAs s word.1 "super" := .inr (.inl ⟨hfound.1, rfl⟩)
    exact hobject.after fun _ => Composed.make (.refl _) fun _ =>
      sited_select n.map_val_parts (.refl n) hmem hsuper
  · exact hobject.after fun _ => .pure (.refl _)

theorem composed_fieldAccess : Composed (siting s n) [] (fieldAccess s below) := by
  unfold fieldAccess
  split
  · next object _ _ hfield =>
    have hobject := composed_receiver hb object
    have hmem := List.mem_of_find?_eq_some hfield
    exact hobject.after fun _ => composed_makeOver (.refl _) fun _ =>
      sited_select n.map_val_parts (.refl n) hmem (.inl rfl)
  · exact composed_malformed hb

theorem composed_calledMethod {name : Part n} (hname : name ∈ n.parts) :
    Composed (siting s n) [] (calledMethod s below name) := by
  unfold calledMethod
  split
  · exact composed_identifier (.inr name.2)
  · next object _ =>
    have hobject := composed_receiver hb object
    exact hobject.after fun _ => Composed.make (.refl _) fun _ =>
      sited_select n.map_val_parts (.refl n) hname (.inl rfl)

omit hb in
theorem called_calledMethod {name : Part n} (hname : name ∈ n.parts) (σ : State) :
    Called s n (calledMethod s below name σ).1 := by
  unfold calledMethod
  cases n.parts.field? .object with
  | none => exact nofun
  | some object => exact called_select hname

theorem composed_ownTypeArguments : Composed (siting s n) [] (ownTypeArguments below) :=
  composed_eachOf (fun p => (hb p).type) _

theorem composed_call : Composed (siting s n) [] (call s below) := by
  unfold call
  split
  · exact composed_malformed hb
  · next name hfield =>
    have hname := List.mem_of_find?_eq_some hfield
    have hmethod := composed_calledMethod (s := s) hb hname
    have htypes := composed_ownTypeArguments hb
    have harguments := composed_arguments hb (n.parts.field? .arguments)
    -- the method is read before the type arguments that stand in front of it
    have hheld : Spends ([] ++ []) [] := .refl []
    exact .bind hheld hmethod fun σ => htypes.after fun _ => harguments.after fun _ =>
      composed_makeOver (.of_perm (List.perm_append_comm.append_right _))
        fun _ => called_calledMethod hname σ

theorem composed_enclosing (ps : Parts n) : ∀ found : Option Foreign.Tree,
    Composed (siting s n) found.toList (enclosing below found ps) := by
  induction ps with
  | nil => exact fun _ => .pure (.refl _)
  | cons p ps ih =>
    simp only [enclosing]
    split
    · exact fun _ => .pure (.refl _)
    split
    · have hp := (hb p).expression
      -- the instance found before is dropped
      exact fun found => hp.after fun t => (ih (some t)).mono (.drop [] found.toList [t])
    · exact ih

theorem composed_newClass : Composed (siting s n) [] (newClass below) := by
  have houter := composed_enclosing hb n.parts
  have htypes := composed_ownTypeArguments hb
  have htype := composed_orPlaceholder (fun p => (hb p).type) (n.parts.field? .type) n.stop
  have harguments := composed_arguments hb (n.parts.field? .arguments)
  have hbody := composed_optionalClass hb (n.parts.ofKind? .classBody)
  exact (houter none).after fun _ => htypes.after fun _ => htype.after fun _ =>
    harguments.after fun _ => hbody.after fun _ => composed_makeOver (.refl _) fun _ => trivial

/-! ## Arrays and references -/

theorem composed_arrayInitializer : Composed (siting s n) [] (arrayInitializer below) := by
  have helements := composed_each (fun p => (hb p).initial) n.parts.named
  exact helements.after fun _ => composed_spanning (.refl _) fun _ => trivial

theorem composed_arraySizes (ps : Parts n) : Composed (siting s n) [] (arraySizes below ps) :=
  composed_mapM fun p _ => composed_firstExpression hb p.parts p.stop

theorem composed_arrayElements : Composed (siting s n) [] (arrayElements below) := by
  unfold arrayElements
  split
  · exact .pure (.refl _)
  · next list _ =>
    have helements := composed_each (fun p => (hb p).initial) list.parts.named
    exact helements.after fun _ => .pure (.refl _)

theorem composed_newArray : Composed (siting s n) [] (newArray below) := by
  have htype := composed_optional (fun p => (hb p).type) (n.parts.field? .type)
  have hsizes := composed_arraySizes hb (n.parts.inField .dimensions)
  have helements := composed_arrayElements hb
  exact htype.after fun _ => hsizes.after fun _ => helements.after fun _ =>
    composed_spanning (.refl _) fun _ => trivial

theorem composed_classLiteral (hkind : n.kind = .classLiteral) :
    Composed (siting s n) [] (classLiteral below) := by
  have htype := composed_orPlaceholder (fun p => (hb p).type) n.parts.named.head? n.start
  have hdot := Parts.tokenBefore?_dot n.map_val_parts n.stop
  refine htype.after fun _ => composed_makeOver (.refl _) fun _ =>
    ⟨n, .refl n, .inr ⟨hkind, rfl, ?_⟩⟩
  rw [← hdot]
  cases n.parts.tokenBefore? "." n.stop <;> rfl

theorem composed_referenceTarget : Composed (siting s n) [] (referenceTarget below) := by
  unfold referenceTarget
  split
  · next p _ =>
    split
    · exact (hb p).type
    · exact (hb p).expression
  · exact composed_placeholder _

theorem composed_methodReference : Composed (siting s n) [] (methodReference s below) := by
  unfold methodReference
  have htarget := composed_referenceTarget hb
  have htypes := composed_eachOf (fun p => (hb p).type) (n.parts.ofKind? .typeArguments)
  dsimp only
  split
  · exact htarget.after fun _ => htypes.after fun _ => composed_makeOver (.refl _) fun _ => trivial
  · exact htarget.after fun _ => htypes.after fun _ => composed_makeOver (.refl _) fun _ => trivial

theorem composed_switchExpression : Composed (siting s n) [] (switchExpression below) := by
  have hselector := composed_requiredExpression hb .condition
  have hcases := composed_cases hb true
  exact hselector.after fun _ => hcases.after fun _ => composed_spanning (.refl _) fun _ => trivial

theorem composed_arrayAccess : Composed (siting s n) [] (arrayAccess below) := by
  have harray := composed_requiredExpression hb .array
  have hindex := composed_requiredExpression hb .index
  exact harray.after fun _ => hindex.after fun _ => composed_spanning (.refl _) fun _ => trivial

theorem composed_parenthesized : Composed (siting s n) [] (parenthesized below) := by
  have hinner := composed_firstExpression hb n.parts n.stop
  exact hinner.after fun _ => composed_spanning (.refl _) fun _ => trivial

/-! ## All expressions -/

theorem composed_expression : Composed (siting s n) [] (expression s below) := by
  unfold expression
  split
  · exact composed_identifier (.refl n)
  · exact composed_identifier (.refl n)
  · exact composed_identifier (.refl n)
  · exact composed_identifier (.refl n)
  · exact composed_literal _ _
  · exact composed_literal _ _
  · exact composed_literal _ _
  · exact composed_literal _ _
  · exact composed_literal _ _
  · exact composed_literal _ _
  · exact composed_literal _ _
  · exact composed_literal _ _
  · exact composed_literal _ _
  · exact composed_literal _ _
  · exact composed_literal _ _
  · exact composed_literal _ _
  · exact composed_parenthesized hb
  · exact composed_binary hb
  · exact composed_unary hb
  · exact composed_update hb
  · exact composed_assignment hb
  · exact composed_conditional hb
  · exact composed_cast hb
  · exact composed_typeTest hb
  · exact composed_lambda hb
  · exact composed_call hb
  · exact composed_newClass hb
  · exact composed_fieldAccess hb
  · exact composed_arrayAccess hb
  · exact composed_newArray hb
  · exact composed_arrayInitializer hb
  · next hkind => exact composed_classLiteral hb hkind
  · exact composed_methodReference hb
  · exact composed_switchExpression hb
  · exact composed_annotated hb
  · exact composed_annotated hb
  · exact composed_elementArray hb
  · exact composed_scopedName hb
  · exact composed_unsupported hb (by decide) _
  · split
    · exact composed_type hb
    · exact composed_malformed hb

theorem composed_name : Composed (siting s n) [] (name s below) := by
  unfold name
  split
  · exact composed_identifier (.refl n)
  · exact composed_identifier (.refl n)
  · exact composed_scopedName hb
  · exact composed_expression hb

theorem composed_element : Composed (siting s n) [] (element s below) := by
  unfold element
  split
  · exact composed_elementArray hb
  · exact composed_annotated hb
  · exact composed_annotated hb
  · exact composed_expression hb

theorem composed_initial : Composed (siting s n) [] (initial s below) := by
  unfold initial
  split
  · exact composed_arrayInitializer hb
  · exact composed_expression hb

theorem composed_pattern : Composed (siting s n) [] (pattern s below) := by
  unfold pattern
  split
  · split
    · next inner _ => exact (hb inner).pattern
    · exact composed_malformed hb
  · exact composed_typePattern hb
  · exact composed_recordPattern hb
  · exact composed_spanning (.refl _) fun _ => trivial
  · exact composed_expression hb

/-! ## Statements -/

omit hb in
theorem composed_asOne (m : Node) (ts : List Foreign.Tree) :
    Composed (siting s n) ts (asOne m ts) := by
  unfold asOne
  split
  · exact .pure (.refl _)
  · exact composed_spanning (.refl _) fun _ => trivial

theorem composed_singleStatement (p : Part n) :
    Composed (siting s n) [] (singleStatement below p) := by
  have hp := (hb p).statements
  exact hp.andThen fun ts => composed_asOne _ ts

theorem composed_requiredStatement (p : Option (Part n)) :
    Composed (siting s n) [] (requiredStatement below p) := by
  cases p with
  | none => exact composed_placeholder _
  | some p => exact composed_singleStatement hb p

theorem composed_optionalStatement (p : Option (Part n)) :
    Composed (siting s n) [] (optionalStatement below p) := by
  cases p with
  | none => exact .pure (.refl _)
  | some p =>
    have hp := composed_singleStatement hb p
    exact hp.after fun _ => .pure (.refl _)

theorem composed_executed (p : Part n) : Composed (siting s n) [] (executed below p) := by
  have hp := (hb p).expression
  exact hp.after fun _ => composed_spanning (.refl _) fun _ => trivial

theorem composed_expressionStatement : Composed (siting s n) [] (expressionStatement below) := by
  have hexpression := composed_firstExpression hb n.parts n.start
  exact hexpression.after fun _ => composed_spanning (.refl _) fun _ => trivial

theorem composed_ifStatement : Composed (siting s n) [] (ifStatement below) := by
  have hcondition := composed_requiredExpression hb .condition
  have hthen := composed_requiredStatement hb (n.parts.field? .consequence)
  have helse := composed_optionalStatement hb (n.parts.field? .alternative)
  exact hcondition.after fun _ => hthen.after fun _ => helse.after fun _ =>
    composed_spanning (.refl _) fun _ => trivial

theorem composed_whileStatement : Composed (siting s n) [] (whileStatement below) := by
  have hcondition := composed_requiredExpression hb .condition
  have hbody := composed_requiredStatement hb (n.parts.field? .body)
  exact hcondition.after fun _ => hbody.after fun _ => composed_spanning (.refl _) fun _ => trivial

theorem composed_doStatement : Composed (siting s n) [] (doStatement below) := by
  have hbody := composed_requiredStatement hb (n.parts.field? .body)
  have hcondition := composed_requiredExpression hb .condition
  exact hbody.after fun _ => hcondition.after fun _ => composed_spanning (.refl _) fun _ => trivial

theorem composed_loopStart (p : Part n) : Composed (siting s n) [] (loopStart below p) := by
  unfold loopStart
  split
  · exact (hb p).statements
  · exact composed_one (composed_executed hb p)

theorem composed_forStatement : Composed (siting s n) [] (forStatement below) := by
  have hinitial := composed_gather
    (fun p (_ : p ∈ n.parts.inField .initial) => composed_loopStart hb p)
  have hcondition := composed_optional (fun p => (hb p).expression)
    (n.parts.field? .condition)
  have hstep := composed_mapM
    (fun p (_ : p ∈ n.parts.inField .update) => composed_executed hb p)
  have hbody := composed_requiredStatement hb (n.parts.field? .body)
  exact hinitial.after fun _ => hcondition.after fun _ => hstep.after fun _ =>
    hbody.after fun _ => composed_spanning (.refl _) fun _ => trivial

theorem composed_loopVariableAfter :
    ∀ mods, Composed (siting s n) mods.annotations (loopVariableAfter s below mods) := by
  have htype := composed_optional (fun p => (hb p).type) (n.parts.field? .type)
  exact fun _ => .after htype fun _ => .make (.of_eq (List.append_nil _))
    fun _ => named_textOf rfl

theorem composed_enhancedForStatement :
    Composed (siting s n) [] (enhancedForStatement s below) := by
  have hvariable := composed_loopVariableAfter (s := s) hb
  have hbinder := composed_declaring (s := s) hb n.parts false hvariable fun _ _ => rfl
  have hvalue := composed_requiredExpression hb .value
  have hbody := composed_requiredStatement hb (n.parts.field? .body)
  exact hbinder.after fun _ => hvalue.after fun _ => hbody.after fun _ =>
    composed_spanning (.refl _) fun _ => trivial

theorem composed_labeledStatement : Composed (siting s n) [] (labeledStatement s below) := by
  have hbody := composed_requiredStatement hb n.parts.named[1]?
  exact hbody.after fun _ => composed_spanning (.refl _) fun _ => trivial

theorem composed_returnStatement : Composed (siting s n) [] (returnStatement below) := by
  have hvalue := composed_optional (fun p => (hb p).expression) n.parts.named.head?
  exact hvalue.after fun _ => composed_spanning (.refl _) fun _ => trivial

theorem composed_yieldStatement : Composed (siting s n) [] (yieldStatement below) := by
  have hvalue := composed_firstExpression hb n.parts n.stop
  exact hvalue.after fun _ => composed_spanning (.refl _) fun _ => trivial

theorem composed_throwStatement : Composed (siting s n) [] (throwStatement below) := by
  have hvalue := composed_firstExpression hb n.parts n.stop
  exact hvalue.after fun _ => composed_spanning (.refl _) fun _ => trivial

theorem composed_switchStatement : Composed (siting s n) [] (switchStatement below) := by
  have hselector := composed_requiredExpression hb .condition
  have hcases := composed_cases hb false
  exact hselector.after fun _ => hcases.after fun _ => composed_spanning (.refl _) fun _ => trivial

theorem composed_synchronizedStatement :
    Composed (siting s n) [] (synchronizedStatement below) := by
  have hlock := composed_orPlaceholder (fun p => (hb p).expression)
    (n.parts.ofKind? .parenthesizedExpression) n.start
  have hbody := composed_requiredStatement hb (n.parts.field? .body)
  exact hlock.after fun _ => hbody.after fun _ => composed_spanning (.refl _) fun _ => trivial

theorem composed_assertStatement : Composed (siting s n) [] (assertStatement below) := by
  have hcondition := composed_firstExpression hb n.parts n.stop
  have hdetail := composed_optional (fun p => (hb p).expression) n.parts.named[1]?
  exact hcondition.after fun _ => hdetail.after fun _ =>
    composed_spanning (.refl _) fun _ => trivial

theorem composed_calledConstructor {keyword : Option (Part n)}
    (hkeyword : ∀ word ∈ keyword, word ∈ n.parts) :
    Composed (siting s n) [] (calledConstructor s below keyword) := by
  unfold calledConstructor
  split
  · next object word _ =>
    have hobject := (hb object).expression
    exact hobject.after fun _ => Composed.make (.refl _) fun _ =>
      sited_select n.map_val_parts (.refl n) (hkeyword word rfl) (.inl rfl)
  · next word _ => exact composed_makeIdent (.inr ⟨word.1, .inr word.2, rfl, rfl⟩)
  · exact composed_placeholder _

omit hb in
theorem called_calledConstructor {keyword : Option (Part n)}
    (hkeyword : ∀ word ∈ keyword, word ∈ n.parts) (σ : State) :
    Called s n (calledConstructor s below keyword σ).1 := by
  unfold calledConstructor
  cases n.parts.field? .object with
  | none => cases keyword <;> exact nofun
  | some object =>
    cases keyword with
    | none => exact nofun
    | some word => exact called_select (hkeyword word rfl)

theorem composed_constructorCall : Composed (siting s n) [] (constructorCall s below) := by
  have hkeyword : ∀ word ∈ n.parts.field? .constructorKeyword, word ∈ n.parts :=
    fun _ hword => List.mem_of_find?_eq_some hword
  have hmethod := composed_calledConstructor (s := s) hb hkeyword
  have htypes := composed_ownTypeArguments hb
  have harguments := composed_arguments hb (n.parts.field? .arguments)
  have hheld : Spends ([] ++ []) [] := .refl []
  refine .bind hheld hmethod fun σ => htypes.after fun types => harguments.after fun args => ?_
  have hcall (method : Foreign.Tree) :
      Spends (types ++ [method] ++ args) ([method] ++ types ++ args) :=
    .of_perm (List.perm_append_comm.append_right args)
  exact .andThen (.make (hcall _) fun _ => called_calledConstructor hkeyword σ) fun call =>
    composed_spanning (.refl [call]) fun _ => trivial

/-! ## Try statements -/

theorem composed_resourceAfter (p type : Part n) :
    ∀ mods, Composed (siting s n) mods.annotations (resourceAfter s below p type mods) := by
  have htype := (hb type).type
  have hvalue := composed_optional (fun q => (hb q).expression) (p.parts.field? .value)
  exact fun _ => .after htype fun _ => .after hvalue fun _ => composed_makeOver (.refl _)
    fun _ => named_textOf rfl

theorem composed_resource (p : Part n) : Composed (siting s n) [] (resource s below p) := by
  unfold resource
  split
  · exact composed_firstExpression hb _ _
  · exact composed_declaring hb _ _ (composed_resourceAfter hb _ _) fun _ _ => rfl

theorem composed_caughtType (types : Option (Part n)) :
    Composed (siting s n) [] (caughtType below types) := by
  cases types with
  | none => exact .pure (.refl _)
  | some types =>
    have htypes := composed_each (fun p => (hb p).type) types.parts.named
    refine htypes.after fun read => ?_
    split
    · exact .pure (.refl _)
    · exact .andThen (composed_spanning (.refl _) fun _ => trivial) fun t => .pure (.refl [t])

theorem composed_caughtAfter (p : Part n) :
    ∀ mods, Composed (siting s n) mods.annotations (caughtAfter s below p mods) := by
  have htype := composed_caughtType hb (p.parts.ofKind? .catchType)
  exact fun _ => .after htype fun _ => composed_makeOver (.of_eq (List.append_nil _))
    fun _ => named_textOf rfl

theorem composed_caughtParameter (clause : Part n) :
    Composed (siting s n) [] (caughtParameter s below clause) := by
  unfold caughtParameter
  split
  · exact composed_placeholder _
  · exact composed_declaring hb _ _ (composed_caughtAfter hb _) fun _ _ => rfl

theorem composed_catchClause (clause : Part n) :
    Composed (siting s n) [] (catchClause s below clause) := by
  have hparam := composed_caughtParameter (s := s) hb clause
  have hbody := composed_requiredBlock hb (clause.parts.field? .body) clause.stop
  exact hparam.after fun _ => hbody.after fun _ => composed_spanning (.refl _) fun _ => trivial

theorem composed_tryClause (p : Part n) (acc : List Foreign.Tree × Option Foreign.Tree) :
    Composed (siting s n) (acc.1 ++ acc.2.toList) (tryClause s below acc p) := by
  unfold tryClause
  split
  · have hp := composed_catchClause (s := s) hb p
    exact hp.after fun clause => .pure (.swap acc.1 acc.2.toList [clause])
  · split
    · next block _ =>
      have hblock := composed_blockAt hb block
      -- a final block read before is dropped
      exact hblock.after fun finalizer => .pure (.drop acc.1 acc.2.toList [finalizer])
    · exact .pure (.refl _)
  · exact .pure (.refl _)

theorem composed_tryStatement : Composed (siting s n) [] (tryStatement s below) := by
  have hresources := composed_mapM
    (fun p (_ : p ∈ resourceParts n) => composed_resource (s := s) hb p)
  have hbody := composed_requiredBlock hb (n.parts.field? .body) n.stop
  have hclauses := composed_foldlM
    (fun p (_ : p ∈ n.parts.named) => composed_tryClause (s := s) hb p) ([], none)
  exact hresources.after fun _ => hbody.after fun _ => hclauses.after fun _ =>
    composed_spanning (.of_eq (List.append_assoc _ _ _)) fun _ => trivial

/-! ## All statements -/

theorem composed_statement : Composed (siting s n) [] (statement s below) := by
  unfold statement
  split
  · exact composed_block hb
  · exact composed_spanning (.refl _) fun _ => trivial
  · exact composed_expressionStatement hb
  · exact composed_ifStatement hb
  · exact composed_whileStatement hb
  · exact composed_doStatement hb
  · exact composed_forStatement hb
  · exact composed_enhancedForStatement hb
  · exact composed_labeledStatement hb
  · exact composed_spanning (.refl _) fun _ => trivial
  · exact composed_spanning (.refl _) fun _ => trivial
  · exact composed_returnStatement hb
  · exact composed_yieldStatement hb
  · exact composed_throwStatement hb
  · exact composed_switchStatement hb
  · exact composed_synchronizedStatement hb
  · exact composed_tryStatement hb
  · exact composed_tryStatement hb
  · exact composed_assertStatement hb
  · exact composed_constructorCall hb
  split
  · exact composed_typeDeclaration hb
  split
  · have hexpression := composed_expression (s := s) hb
    exact hexpression.after fun _ => composed_spanning (.refl _) fun _ => trivial
  · exact composed_malformed hb

theorem composed_statements : Composed (siting s n) [] (statements s below) := by
  unfold statements
  split
  · exact composed_declaredVariables hb
  · exact composed_one (composed_statement hb)

end Lowering

end TreeBridge

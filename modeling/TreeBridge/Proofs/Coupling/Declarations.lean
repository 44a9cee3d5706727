import TreeBridge.Proofs.Conversion.Members
import TreeBridge.Proofs.Coupling.Runs
/-!
# Coupled conversions of names, types, variables and members

Nothing that these conversions do depends on which nodes were made
before, and of the context they only read the source and the name of the
type around them. The declaration of a type also reads whether it shows
the types that it permits: what only one of two runs hangs there, the
other need not match.
-/

namespace TreeBridge

namespace Conversion

namespace Coupling

open Foreign (Tree Shape ClassKind)
open Foreign.Tree (Part Parts Subtree)
open Unified (NodeId NodeKind Slot Arena Hangs)

variable {C : Coupling} {t : Tree} {below : Below t} {w : C.Stage} {i j : NodeId}

section

variable (hb : ∀ p, C.Agree (below p))

include hb

/-! ## Names and types -/

theorem makes_name : C.Makes (name below) := by
  unfold name
  cases t.parts with
  | ident => exact makes_alloc _ _
  | select selected =>
    intro w
    refine ((hb selected).name w).bind fun w₁ q q' _ hq => ?_
    refine (makes_nameEndingAt _ _ w₁).bind fun w₂ l l' hw hl => ?_
    exact coupled_pairOf _ _ (C.later hw hq) hl
  | erroneous => exact makes_placeholder _ _
  | _ => exact makes_unsupported _

omit hb in
theorem fills_addDimensions (spans : List Span) :
    C.Fills (fun id => addDimensions id spans) :=
  fills_addEach fun _ => makes_synthetic _ _

omit hb in
theorem makes_namedType (u : Tree) {name : Convert NodeId} (h : C.Makes name) :
    C.Makes (namedType u name) :=
  fun w => (h w).bind fun _ _ _ _ hn => coupled_over _ _ hn

omit hb in
theorem makes_missingType (u : Tree) : C.Makes (missingType u) := by
  intro w
  refine (makes_placeholder _ _ w).bind fun w₁ n n' _ hn => ?_
  refine (makes_placeholder _ _ w₁).bind fun w₂ d d' hw hd => ?_
  exact (coupled_addChild hd (C.later hw hn)).andThen fun _ => Coupled.node hd

theorem fills_addFirstEach (annotations : Parts t) :
    C.Fills (fun id => addFirstEach below id annotations) := by
  refine Fills.forM fun p w i j hi => ?_
  exact ((hb p).annotated w).bind fun w₁ a a' hw ha => coupled_addChildFirst (C.later hw hi) ha

theorem fills_types {slot : Slot} (ps : Parts t)
    [C.Shows (holdsPermitted slot)] :
    C.Fills (fun id => addEach id slot ps (fun p => (below p).type)) :=
  fills_addEach fun p => (hb p).type

theorem fills_expressions {slot : Slot} (ps : Parts t)
    [C.Shows (holdsPermitted slot)] :
    C.Fills (fun id => addEach id slot ps (fun p => (below p).expression)) :=
  fills_addEach fun p => (hb p).expression

theorem makes_type : C.Makes (type below) := by
  unfold type
  cases t.parts with
  | typeIdent tag =>
    dsimp only
    cases primitiveCode? tag with
    | some code => exact makes_alloc _ _
    | none => exact Makes.stop
  | ident => exact makes_namedType _ (makes_name hb)
  | select selected =>
    dsimp only
    split
    · exact makes_namedType _ (makes_name hb)
    · intro w
      refine ((hb selected).type w).bind fun w₁ q q' _ hq => ?_
      refine (makes_nameEndingAt _ _ w₁).bind fun w₂ l l' hw hl => ?_
      exact coupled_pairOf _ _ (C.later hw hq) hl
  | typeApply base =>
    intro w
    refine ((hb base).type w).bind fun w₁ b b' _ hbase => ?_
    refine (makes_alloc _ _ w₁).bind fun w₂ id id' hw hid => ?_
    refine (coupled_addChild hid (C.later hw hbase)).andThen fun _ => ?_
    exact (fills_types hb _).last hid
  | typeArray element =>
    intro w
    refine ((hb (arrayElement element)).type w).bind fun w₁ e e' _ he => ?_
    refine (makes_alloc _ _ w₁).bind fun w₂ id id' hw hid => ?_
    refine (coupled_addChild hid (C.later hw he)).andThen fun _ => ?_
    exact (fills_addDimensions _).last hid
  | wildcard =>
    exact (makes_alloc _ _).andThen (fills_addOptional fun p => (hb p).type).last
  | typeUnion | typeIntersection => exact (makes_alloc _ _).andThen (fills_types hb _).last
  | annotatedType _ underlying =>
    refine (hb underlying).type.andThen ((fills_addFirstEach hb _).andThen (Fills.last ?_))
    exact fun _ _ _ hi => coupled_setSpan hi _
  | erroneous => exact makes_missingType _
  | _ => exact makes_unsupported _

theorem makes_arrayTypeWith (element : Part t) (brackets : List Span) :
    C.Makes (arrayTypeWith below element brackets) := by
  intro w
  refine ((hb element).type w).bind fun w₁ e e' _ he => ?_
  refine (makes_synthetic _ _ w₁).bind fun w₂ id id' hw hid => ?_
  refine (coupled_addChild hid (C.later hw he)).andThen fun _ => ?_
  exact (fills_addDimensions _).last hid

theorem fills_addTypeArguments (arguments : Parts t) :
    C.Fills (fun id => addTypeArguments below id arguments) :=
  fills_types hb arguments

theorem fills_addArguments (arguments : Parts t) :
    C.Fills (fun id => addArguments below id arguments) :=
  fills_expressions hb arguments

/-! ## Variables -/

theorem fills_addModifiers (mods : Foreign.Modifiers (Part t)) (implied : UInt64) :
    C.Fills (fun id => addModifiers below id mods implied) :=
  (fills_addEach fun p => (hb p).annotated).bind (fills_addEach fun _ => makes_synthetic _ _)

omit hb in
theorem coupled_fragmentEnd (v : Declared t) :
    C.Coupled w C.Same (fragmentEnd v) (fragmentEnd v) := by
  unfold fragmentEnd
  split
  · exact Coupled.same _
  · unfold dimensionsEnd
    refine (coupled_tokensBetween _ _).andThen fun tokens => ?_
    dsimp only
    split
    · exact Coupled.same _
    · split <;> exact Coupled.same _

/-- An expression is made in both runs or in none. -/
theorem coupled_optionalExpression (p : Option (Part t)) :
    C.Coupled w (fun w => Option.Rel (C.Nodes w)) (optionalExpression below p)
      (optionalExpression below p) := by
  cases p with
  | none => exact Coupled.pure fun _ _ => .none
  | some p =>
    exact ((hb p).expression w).bind fun w₁ i j _ hi =>
      Coupled.pure fun w₂ hw => .some (C.later hw hi)

omit hb in
theorem coupled_addOpt {c d : Option NodeId} (hi : C.Nodes w i j)
    (hc : Option.Rel (C.Nodes w) c d) :
    C.Coupled w C.Same (change fun a => a.addOpt i .initializer c)
      (change fun a => a.addOpt j .initializer d) := by
  cases hc with
  | none => exact Coupled.change fun _ _ _ _ hσ => hσ
  | some hc => exact coupled_addChild hi hc

theorem makes_fragment (v : Declared t) : C.Makes (fragment below v) := by
  intro w
  refine (makes_nameAt _ _ w).bind fun w₁ n n' _ hn => ?_
  refine (coupled_optionalExpression hb _).bind fun w₂ c c' hw₂ hc => ?_
  refine (coupled_fragmentEnd v).andThen fun stop => ?_
  refine (makes_allocAt _ _ _ w₂).bind fun w₃ id id' hw₃ hid => ?_
  refine (coupled_addChild hid (C.later hw₃ (C.later hw₂ hn))).andThen fun _ => ?_
  have hc₃ : Option.Rel (C.Nodes w₃) c c' := by
    cases hc with
    | none => exact .none
    | some hc => exact .some (C.later hw₃ hc)
  exact (coupled_addOpt hid hc₃).andThen fun _ => Coupled.node hid

theorem makes_mergedDeclaration (kind : NodeKind) (first : Declared t)
    (more : List (Declared t)) (stop : Int) :
    C.Makes (mergedDeclaration below kind first more stop) :=
  (makes_allocAt _ _ _).andThen <| (fills_addModifiers hb _ _).andThen <|
    (fills_addOptional fun p => (hb p).type).andThen (fills_addEach (makes_fragment hb)).last

theorem makes_declaration (kind : NodeKind) (first : Declared t) (more : List (Declared t)) :
    C.Makes (declaration below kind first more) :=
  makes_mergedDeclaration hb kind first more _

omit hb in
theorem coupled_expressionEnd (start stop : Int) :
    C.Coupled w C.Same (expressionEnd start stop) (expressionEnd start stop) := by
  unfold expressionEnd
  refine coupled_read.bind fun w₁ ctx ctx' _ hctx => ?_
  rw [hctx.source]
  dsimp only
  split
  · refine (coupled_tokensBetween _ _).andThen fun tokens => ?_
    split <;> exact Coupled.same _
  · exact Coupled.same _

theorem makes_declarationExpression (first : Declared t) (more : List (Declared t)) :
    C.Makes (declarationExpression below first more) :=
  fun w => (coupled_expressionEnd _ _).andThen fun stop =>
    makes_mergedDeclaration hb _ first more stop w

theorem makes_parameter (p : Part t) (implied : UInt64) :
    C.Makes (parameter below p implied) := by
  unfold parameter
  cases declared? p with
  | none => exact makes_unsupported _
  | some v =>
    exact (makes_alloc _ _).andThen <| (fills_addModifiers hb _ _).andThen <|
      (fills_addOptional fun p => (hb p).type).andThen <|
      (fills_addPart (makes_nameAt _ _)).andThen
      (fills_addOptional fun p => (hb p).expression).last

theorem makes_lambdaParameter (p : Part t) : C.Makes (lambdaParameter below p) := by
  unfold lambdaParameter
  split
  · exact fun w => (makes_nameAt _ _ w).bind fun _ _ _ _ hn => coupled_over _ _ hn
  · exact makes_parameter hb p 0

theorem makes_groupedStatement (g : Group t) : C.Makes (groupedStatement below g) := by
  cases g with
  | together first more => exact makes_declaration hb _ first more
  | single p => exact (hb p).statement

theorem fills_addStatements (ps : Parts t) :
    C.Fills (fun id => addStatements below id ps) :=
  fills_addEach (makes_groupedStatement hb)

theorem makes_blockAt (p : Part t) : C.Makes (blockAt below p) := by
  unfold blockAt
  cases p.parts with
  | block => exact (makes_alloc _ _).andThen (fills_addStatements hb _).last
  | _ => exact makes_unsupported _

/-! ## Members -/

theorem makes_typeParameter (p : Part t) : C.Makes (typeParameter below p) := by
  unfold typeParameter
  cases p.parts with
  | typeParameter =>
    exact (makes_alloc _ _).andThen <| (fills_addEach fun p => (hb p).annotated).andThen <|
      (fills_addPart (makes_simpleName _ _)).andThen (fills_types hb _).last
  | _ => exact makes_unsupported _

theorem fills_addTypeParameters (ps : Parts t) :
    C.Fills (fun id => addTypeParameters below id ps) :=
  fills_addEach (makes_typeParameter hb)

omit hb in
/-- The name of a constructor is that of the type around it, which is one
in both runs. -/
theorem makes_methodName (identifier : String) (position : Int) :
    C.Makes (methodName identifier position) := by
  unfold methodName
  split
  · refine fun w => coupled_read.bind fun w₁ ctx ctx' _ hctx => ?_
    rw [hctx.typeName]
    exact makes_nameAt _ _ w₁
  · exact makes_nameAt _ _

theorem makes_method (p : Part t) : C.Makes (method below p) := by
  unfold method
  cases p.parts with
  | methodDef =>
    exact (makes_alloc _ _).andThen <| (fills_addModifiers hb _ _).andThen <|
      (fills_addTypeParameters hb _).andThen <|
      (fills_addOptional fun p => (hb p).type).andThen <|
      (fills_addPart (makes_methodName _ _)).andThen <|
      (fills_addEach fun p => makes_parameter hb p 0).andThen <|
      (fills_types hb _).andThen (fills_addOptional (makes_blockAt hb)).last
  | _ => exact makes_unsupported _

theorem makes_annotationMember (p : Part t) : C.Makes (annotationMember below p) := by
  unfold annotationMember
  cases p.parts with
  | methodDef =>
    exact (makes_alloc _ _).andThen <| (fills_addModifiers hb _ _).andThen <|
      (fills_addOptional fun p => (hb p).type).andThen <|
      (fills_addPart (makes_nameAt _ _)).andThen
      (fills_addOptional fun p => (hb p).expression).last
  | _ => exact makes_unsupported _

theorem makes_initializer (p : Part t) (isStatic : Bool) (statements : Parts t) :
    C.Makes (initializer below p isStatic statements) := by
  -- the body is the same with and without the modifier before it
  have hrest (start : Option Lexical.Token → Int) : C.Completes (fun id => do
      let brace ← findToken? "\x7b" p.1.start p.1.stop
      let body ← allocAt p.1 .block (.ofBounds (start brace) p.1.stop)
      addStatements below body statements
      addChild id .body body
      Pure.pure id) := by
    intro w i j hi
    refine (coupled_findToken? _ _ _).andThen fun brace => ?_
    refine (makes_allocAt _ _ _ w).bind fun w₁ d d' hw hd => ?_
    refine (fills_addStatements hb statements hd).andThen fun _ => ?_
    exact (coupled_addChild (C.later hw hi) hd).andThen fun _ => Coupled.node (C.later hw hi)
  unfold initializer
  refine (makes_alloc _ _).andThen ?_
  cases isStatic with
  | false => exact hrest _
  | true => exact (fills_addPart (makes_synthetic _ _)).andThen (hrest _)

omit hb in
/-- What is made is given on. -/
theorem Makes.member {m : Convert NodeId} (h : C.Makes m) :
    C.Coupled w (fun w => Option.Rel (C.Nodes w)) (do Pure.pure (some (← m)))
      (do Pure.pure (some (← m))) :=
  (h w).bind fun _ _ _ _ hi => Coupled.pure fun _ hw => .some (C.later hw hi)

theorem coupled_member? (classKind : ClassKind) (p : Part t) :
    C.Coupled w (fun w => Option.Rel (C.Nodes w)) (member? below classKind p)
      (member? below classKind p) := by
  unfold member?
  cases p.parts with
  | classDef => exact (hb p).typeDeclaration.member
  | methodDef =>
    dsimp only
    split
    · exact Coupled.pure fun _ _ => .none
    split
    · exact (makes_annotationMember hb p).member
    · exact (makes_method hb p).member
  | block => exact (makes_initializer hb p _ _).member
  | skip | erroneous => exact Coupled.pure fun _ _ => .none
  | _ => exact Coupled.stop

theorem coupled_groupedMember? (classKind : ClassKind) (g : Group t) :
    C.Coupled w (fun w => Option.Rel (C.Nodes w)) (groupedMember? below classKind g)
      (groupedMember? below classKind g) := by
  cases g with
  | together first more => exact (makes_declaration hb _ first more).member
  | single p => exact coupled_member? hb classKind p

theorem fills_addMembers (classKind : ClassKind) (ps : Parts t) :
    C.Fills (fun id => addMembers below id classKind ps) := by
  refine Fills.forM fun g w i j hi => ?_
  refine (coupled_groupedMember? hb classKind g).bind fun w₁ c d hw hc => ?_
  cases hc with
  | none => exact Coupled.same ()
  | some hc => exact coupled_addChild (C.later hw hi) hc

theorem makes_anonymousClass (p : Part t) : C.Makes (anonymousClass below p) := by
  unfold anonymousClass
  cases p.parts with
  | classDef =>
    refine (makes_alloc _ _).andThen (Fills.last fun w i j hi => ?_)
    exact (fills_addMembers hb _ _ hi).insideType _
  | _ => exact makes_unsupported _

theorem fills_addConstantValue (value : Option (Part t)) :
    C.Fills (fun id => addConstantValue below id value) := by
  unfold addConstantValue
  cases value with
  | none => exact fun _ _ _ _ => Coupled.same ()
  | some value =>
    dsimp only
    cases value.parts with
    | newClass =>
      exact (fills_addArguments hb _).bind (fills_addOptional (makes_anonymousClass hb))
    | _ => exact fun _ _ _ _ => Coupled.same ()

theorem makes_enumConstant (p : Part t) : C.Makes (enumConstant below p) := by
  unfold enumConstant
  cases declared? p with
  | none => exact makes_unsupported _
  | some v =>
    exact (makes_alloc _ _).andThen <| (fills_addModifiers hb _ _).andThen <|
      (fills_addPart (makes_nameAt _ _)).andThen (fills_addConstantValue hb _).last

theorem fills_addHeadMembers (classKind : ClassKind) (ps : Parts t) :
    C.Fills (fun id => addHeadMembers below id classKind ps) := by
  refine Fills.forM fun p => ?_
  split
  · exact fills_addPart (makes_enumConstant hb p)
  split
  · exact fills_addPart (makes_parameter hb p _)
  · exact fun _ _ _ _ => Coupled.same ()

/-- **Permitted types may be hidden.** Both runs hang them, or none of
them, or only the second, and that is allowed. -/
theorem fills_addPermitted {K : ℕ → Prop} (hg : Grounded K below) {ps : Parts t}
    (hps : ∀ p ∈ ps, Subtree p.1 t) : C.Fills (fun id => addPermitted below id ps) := by
  intro w i j hi w₁ ctx ctx' σ σ' τ τ' a b hw hctx hσ hm hn
  have hm : (if ctx.level.supportsSealedTypes then
      addEach i .permittedTypes ps (fun p => (below p).type)
      else (Pure.pure () : Convert Unit)) ctx σ = .ok (a, σ') := hm
  have hn : (if ctx'.level.supportsSealedTypes then
      addEach j .permittedTypes ps (fun p => (below p).type)
      else (Pure.pure () : Convert Unit)) ctx' τ = .ok (b, τ') := hn
  rw [hctx.left] at hm
  rw [hctx.right] at hn
  cases hleft : C.left with
  | true =>
    rw [if_pos hleft] at hm
    rw [if_pos (C.right_of_left hleft)] at hn
    have : C.Shows (holdsPermitted .permittedTypes) := ⟨fun _ => hleft⟩
    exact fills_types hb ps hi hw hctx hσ hm hn
  | false =>
    rw [hleft, if_neg Bool.false_ne_true] at hm
    obtain ⟨-, rfl⟩ := pure_eq_ok.1 hm
    cases hright : C.right with
    | false =>
      rw [hright, if_neg Bool.false_ne_true] at hn
      obtain ⟨-, rfl⟩ := pure_eq_ok.1 hn
      exact ⟨w₁, C.refl w₁, rfl, hσ⟩
    | true =>
      rw [if_pos hright] at hn
      have hyields (p : Part t) (hp : p ∈ ps) : Yields K (below p).type :=
        (hg.sound p (hps p hp)).type
      obtain ⟨hj, hhides⟩ := C.hide hleft hright hσ (C.later hw hi)
      obtain ⟨ids, hhangs⟩ := exists_hangs_addEach hj hyields hn
      exact ⟨w₁, C.refl w₁, rfl, hhides hhangs ((keeps_addEach _ hyields).grows hn)⟩

theorem makes_typeDeclaration {K : ℕ → Prop} (hg : Grounded K below) :
    C.Makes (typeDeclaration below) := by
  unfold typeDeclaration
  split
  · next mods name classKind typeParameters extending implementing permitting members h =>
    have hpermitting (q : Part t) (hq : q ∈ permitting) : Subtree q.1 t :=
      subtree_of_parts h (by simp [Shape.children, hq])
    have hmembers : C.Fills (fun id => do
        addHeadMembers below id classKind members
        addMembers below id classKind (bodyMembers classKind members)) :=
      (fills_addHeadMembers hb _ _).bind (fills_addMembers hb _ _)
    refine (makes_alloc _ _).andThen <| (fills_addModifiers hb _ _).andThen <|
      (fills_addPart (makes_simpleName _ _)).andThen <|
      (fills_addTypeParameters hb _).andThen <|
      (fills_addOptional fun p => (hb p).type).andThen <| (fills_types hb _).andThen <|
      (fills_addPermitted hb hg hpermitting).andThen <| Fills.last fun w i j hi => ?_
    exact (hmembers hi).insideType name
  · exact makes_unsupported _

end

end Coupling

end Conversion

end TreeBridge

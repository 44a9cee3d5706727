import TreeBridge.Proofs.Conversion.Refusal
/-!
# When a conversion stops

A conversion stops with the first refusal of its tree and otherwise runs
to the end, from every state and in every context. Steps that make or
attach nodes never stop, so what a sequence of steps stops at is the
first refusal of the conversions in it.
-/

namespace TreeBridge

namespace Conversion

open Foreign (Tree Tag ClassKind)
open Foreign.Tree (Part Parts)
open Unified (NodeId NodeKind Slot Arena)

/-- What a computation stopped at. -/
def errorOf {α : Type} : Except Unsupported α → Option Unsupported
  | .error e => some e
  | .ok _ => none

theorem errorOf_eq_some_iff {α : Type} {x : Except Unsupported α} {e : Unsupported} :
    errorOf x = some e ↔ x = .error e := by
  cases x with
  | error e' => exact ⟨fun h => congrArg _ (Option.some.inj h), fun h => (by cases h; rfl)⟩
  | ok a => exact ⟨fun h => (by cases h), fun h => (by cases h)⟩

/-- A step that stops with `r`, or runs to the end if `r` is none, from
every state, at the levels that show permitted types or at those that do
not. -/
def Stops (shown : Bool) (r : Option Unsupported) {α : Type} (m : Convert α) : Prop :=
  ∀ (ctx : Context) (σ : State), ctx.level.supportsSealedTypes = shown →
    errorOf (m ctx σ) = r

variable {shown : Bool} {r r' : Option Unsupported} {α β γ : Type}

namespace Stops

theorem pure {a : α} : Stops shown none (pure a : Convert α) :=
  fun _ _ _ => rfl

theorem stop {e : Unsupported} : Stops shown (some e) (throw e : Convert α) :=
  fun _ _ _ => rfl

/-- The first of two steps decides, and the second if the first does not
stop. -/
theorem bind {m : Convert α} {f : α → Convert β} (h : Stops shown r m)
    (hf : ∀ a, Stops shown r' (f a)) : Stops shown (r.or r') (m >>= f) := by
  intro ctx σ hctx
  have hm := h ctx σ hctx
  have hrun : (m >>= f) ctx σ = Except.bind (m ctx σ) (fun p => f p.1 ctx p.2) := rfl
  rw [hrun]
  cases hmσ : m ctx σ with
  | error e =>
    rw [hmσ] at hm
    cases hm
    rfl
  | ok p =>
    rw [hmσ] at hm
    cases hm
    exact hf p.1 ctx p.2 hctx

/-- A step before others that never stop. -/
theorem andThen {m : Convert α} {f : α → Convert β} (h : Stops shown r m)
    (hf : ∀ a, Stops shown none (f a)) : Stops shown r (m >>= f) := by
  have := h.bind hf
  rwa [Option.or_none] at this

/-- The name of the type around a step has no say in where it stops. -/
theorem insideType {m : Convert α} (identifier : String) (h : Stops shown r m) :
    Stops shown r (insideType identifier m) :=
  fun _ σ hctx => h _ σ hctx

end Stops

/-! ## Steps that never stop -/

theorem stops_synthetic (kind : NodeKind) (span : Span) :
    Stops shown none (synthetic kind span) :=
  fun _ _ _ => rfl

theorem stops_allocAt (t : Tree) (kind : NodeKind) (span : Span) :
    Stops shown none (allocAt t kind span) :=
  fun _ _ _ => rfl

theorem stops_alloc (t : Tree) (kind : NodeKind) : Stops shown none (alloc t kind) :=
  fun _ _ _ => rfl

theorem stops_change (f : Arena → Arena) : Stops shown none (change f) :=
  fun _ _ _ => rfl

theorem stops_addChild (parent : NodeId) (slot : Slot) (child : NodeId) :
    Stops shown none (addChild parent slot child) :=
  fun _ _ _ => rfl

theorem stops_simpleName (identifier : String) (span : Span) :
    Stops shown none (simpleName identifier span) :=
  fun _ _ _ => rfl

theorem stops_nameAt (identifier : String) (offset : Int) :
    Stops shown none (nameAt identifier offset) :=
  fun _ _ _ => rfl

theorem stops_nameEndingAt (identifier : String) (stop : Int) :
    Stops shown none (nameEndingAt identifier stop) :=
  fun _ _ _ => rfl

theorem stops_placeholder (t : Tree) (kind : NodeKind) :
    Stops shown none (placeholder t kind) :=
  fun _ _ _ => rfl

theorem stops_markRecovered (id : NodeId) : Stops shown none (markRecovered id) :=
  fun _ _ _ => rfl

theorem stops_tokensBetween (start stop : Int) : Stops shown none (tokensBetween start stop) :=
  fun _ _ _ => rfl

theorem stops_findToken? (word : String) (start stop : Int) :
    Stops shown none (findToken? word start stop) :=
  fun _ _ _ => rfl

theorem stops_read : Stops shown none (read : Convert Context) :=
  fun _ _ _ => rfl

/-! ## Adding parts -/

theorem stops_addPart {owner : NodeId} {slot : Slot} {convert : Convert NodeId}
    (h : Stops shown r convert) : Stops shown r (addPart owner slot convert) :=
  h.andThen fun _ => stops_addChild _ _ _

theorem stops_addOptional {owner : NodeId} {slot : Slot} {x : Option γ}
    {convert : γ → Convert NodeId} {f : γ → Option Unsupported}
    (h : ∀ x, Stops shown (f x) (convert x)) :
    Stops shown (Refusal.optional x f) (addOptional owner slot x convert) := by
  cases x with
  | none => exact .pure
  | some x => exact stops_addPart (h x)

theorem stops_forM {xs : List γ} {g : γ → Convert Unit} {f : γ → Option Unsupported}
    (h : ∀ x, Stops shown (f x) (g x)) : Stops shown (Refusal.each xs f) (xs.forM g) := by
  induction xs with
  | nil => exact .pure
  | cons x xs ih =>
    have heach : Refusal.each (x :: xs) f = (f x).or (Refusal.each xs f) := by
      unfold Refusal.each
      rw [List.findSome?_cons]
      cases f x <;> rfl
    rw [heach]
    exact (h x).bind fun _ => ih

theorem stops_addEach {owner : NodeId} {slot : Slot} {xs : List γ}
    {convert : γ → Convert NodeId} {f : γ → Option Unsupported}
    (h : ∀ x, Stops shown (f x) (convert x)) :
    Stops shown (Refusal.each xs f) (addEach owner slot xs convert) :=
  stops_forM fun x => stops_addPart (h x)

/-- Adding things that are only made never stops. -/
theorem stops_addEachMade {owner : NodeId} {slot : Slot} {xs : List γ}
    {convert : γ → Convert NodeId} (h : ∀ x, Stops shown none (convert x)) :
    Stops shown none (addEach owner slot xs convert) := by
  have hxs : Stops shown (Refusal.each xs fun _ => none) (addEach owner slot xs convert) :=
    stops_addEach h
  have hnone : Refusal.each xs (fun _ => none) = none :=
    List.findSome?_eq_none_iff.2 fun _ _ => rfl
  rwa [hnone] at hxs

/-! ## Names and types -/

/-- The actions on a tree stop with its refusals. -/
structure Actions.Refused (shown : Bool) (a : Actions) (r : Refusals) : Prop where
  name : Stops shown r.name a.name
  type : Stops shown r.type a.type
  expression : Stops shown r.expression a.expression
  annotated : Stops shown r.annotated a.annotated
  statement : Stops shown r.statement a.statement
  typeDeclaration : Stops shown r.typeDeclaration a.typeDeclaration

variable {t : Tree} {below : Below t} {refused : RefusalsBelow t}
  (hb : ∀ p, (below p).Refused shown (refused p))

theorem stops_unsupported (u : Tree) :
    Stops shown (Refusal.here u) (unsupported u : Convert α) :=
  .stop

section

include hb

theorem stops_name : Stops shown (Refusal.name refused) (name below) := by
  unfold name Refusal.name
  cases t.parts with
  | ident => exact stops_alloc _ _
  | select selected =>
    exact (hb selected).name.andThen fun _ => (stops_nameEndingAt _ _).andThen fun _ =>
      (stops_alloc _ _).andThen fun _ => (stops_addChild _ _ _).andThen fun _ =>
      (stops_addChild _ _ _).andThen fun _ => .pure
  | erroneous => exact stops_placeholder _ _
  | _ => exact stops_unsupported _

theorem stops_types (owner : NodeId) (slot : Slot) (ps : Parts t) :
    Stops shown (Refusal.types refused ps) (addEach owner slot ps fun p => (below p).type) :=
  stops_addEach fun p => (hb p).type

theorem stops_expressions (owner : NodeId) (slot : Slot) (ps : Parts t) :
    Stops shown (Refusal.expressions refused ps)
      (addEach owner slot ps fun p => (below p).expression) :=
  stops_addEach fun p => (hb p).expression

theorem stops_annotations (owner : NodeId) (slot : Slot) (ps : Parts t) :
    Stops shown (Refusal.annotations refused ps)
      (addEach owner slot ps fun p => (below p).annotated) :=
  stops_addEach fun p => (hb p).annotated

omit hb in
theorem stops_addDimensions (owner : NodeId) (spans : List Span) :
    Stops shown none (addDimensions owner spans) :=
  stops_addEachMade fun _ => stops_synthetic _ _

theorem stops_namedType : Stops shown (Refusal.name refused) (namedType t (name below)) :=
  (stops_name hb).andThen fun _ => (stops_alloc _ _).andThen fun _ =>
    (stops_addChild _ _ _).andThen fun _ => .pure

theorem stops_addFirstEach (owner : NodeId) (ps : Parts t) :
    Stops shown (Refusal.annotations refused ps.reverse) (addFirstEach below owner ps) :=
  stops_forM fun p => (hb p).annotated.andThen fun _ => stops_change _

theorem stops_type : Stops shown (Refusal.type refused) (type below) := by
  unfold type Refusal.type
  cases t.parts with
  | typeIdent tag =>
    dsimp only
    cases primitiveCode? tag with
    | some code => exact stops_alloc _ _
    | none => exact .stop
  | ident => exact stops_namedType hb
  | select selected =>
    dsimp only
    split
    · exact stops_namedType hb
    · exact (hb selected).type.andThen fun _ => (stops_nameEndingAt _ _).andThen fun _ =>
        (stops_alloc _ _).andThen fun _ => (stops_addChild _ _ _).andThen fun _ =>
        (stops_addChild _ _ _).andThen fun _ => .pure
  | typeApply base =>
    exact (hb base).type.bind fun _ => (stops_alloc _ _).bind fun _ =>
      (stops_addChild _ _ _).bind fun _ => (stops_types hb _ _ _).andThen fun _ => .pure
  | typeArray element =>
    exact (hb (arrayElement element)).type.andThen fun _ => (stops_alloc _ _).andThen fun _ =>
      (stops_addChild _ _ _).andThen fun _ => (stops_addDimensions _ _).andThen fun _ => .pure
  | wildcard =>
    exact (stops_alloc _ _).bind fun _ =>
      (stops_addOptional fun p => (hb p).type).andThen fun _ => .pure
  | typeUnion | typeIntersection =>
    exact (stops_alloc _ _).bind fun _ => (stops_types hb _ _ _).andThen fun _ => .pure
  | annotatedType _ underlying =>
    exact (hb underlying).type.bind fun _ => (stops_addFirstEach hb _ _).andThen fun _ =>
      (stops_change _).andThen fun _ => .pure
  | erroneous =>
    exact (stops_placeholder _ _).andThen fun _ => (stops_placeholder _ _).andThen fun _ =>
      (stops_addChild _ _ _).andThen fun _ => .pure
  | _ => exact stops_unsupported _

/-! ## Variables -/

theorem stops_addModifiers (owner : NodeId) (mods : Foreign.Modifiers (Part t))
    (implied : UInt64) :
    Stops shown (Refusal.modifiers refused mods) (addModifiers below owner mods implied) := by
  exact (stops_annotations hb _ _ _).andThen fun _ =>
    stops_addEachMade fun _ => stops_synthetic _ _

omit hb in
theorem stops_fragmentEnd (v : Declared t) : Stops shown none (fragmentEnd v) := by
  unfold fragmentEnd
  split
  · exact .pure
  · unfold dimensionsEnd
    refine (stops_tokensBetween _ _).andThen fun _ => ?_
    dsimp only
    split
    · exact .pure
    · split
      · exact .pure
      · exact .pure

theorem stops_optionalExpression (p : Option (Part t)) :
    Stops shown (Refusal.optional p fun p => (refused p).expression)
      (optionalExpression below p) := by
  cases p with
  | none => exact .pure
  | some p => exact (hb p).expression.andThen fun _ => .pure

theorem stops_fragment (v : Declared t) :
    Stops shown (Refusal.fragment refused v) (fragment below v) :=
  (stops_nameAt _ _).bind fun _ => (stops_optionalExpression hb _).andThen fun _ =>
    (stops_fragmentEnd _).andThen fun _ => (stops_allocAt _ _ _).andThen fun _ =>
    (stops_addChild _ _ _).andThen fun _ => (stops_change _).andThen fun _ => .pure

theorem stops_mergedDeclaration (kind : NodeKind) (first : Declared t) (more : List (Declared t))
    (stop : Int) :
    Stops shown (Refusal.declaration refused first more)
      (mergedDeclaration below kind first more stop) :=
  (stops_allocAt _ _ _).bind fun _ => (stops_addModifiers hb _ _ _).bind fun _ =>
    (stops_addOptional fun p => (hb p).type).bind fun _ =>
    (stops_addEach (stops_fragment hb)).andThen fun _ => .pure

theorem stops_declarationExpression (first : Declared t) (more : List (Declared t)) :
    Stops shown (Refusal.declaration refused first more)
      (declarationExpression below first more) := by
  unfold declarationExpression
  have hend : Stops shown none (expressionEnd first.tree.start (groupEnd first more)) := by
    unfold expressionEnd
    refine stops_read.andThen fun _ => ?_
    dsimp only
    split
    · refine (stops_tokensBetween _ _).andThen fun _ => ?_
      split
      · exact .pure
      · exact .pure
    · exact .pure
  exact hend.bind fun _ => stops_mergedDeclaration hb _ _ _ _

theorem stops_parameter (p : Part t) (implied : UInt64) :
    Stops shown (Refusal.parameter refused p) (parameter below p implied) := by
  unfold parameter Refusal.parameter
  cases declared? p with
  | none => exact stops_unsupported _
  | some v =>
    exact (stops_alloc _ _).bind fun _ => (stops_addModifiers hb _ _ _).bind fun _ =>
      (stops_addOptional fun p => (hb p).type).bind fun _ =>
      (stops_addPart (stops_nameAt _ _)).bind fun _ =>
      (stops_addOptional fun p => (hb p).expression).andThen fun _ => .pure

theorem stops_lambdaParameter (p : Part t) :
    Stops shown (Refusal.lambdaParameter refused p) (lambdaParameter below p) := by
  unfold lambdaParameter
  split
  · next h =>
    simp only [Refusal.lambdaParameter, h]
    exact (stops_nameAt _ _).andThen fun _ => (stops_alloc _ _).andThen fun _ =>
      (stops_addChild _ _ _).andThen fun _ => .pure
  · next hother =>
    have hparameter : Refusal.lambdaParameter refused p = Refusal.parameter refused p := by
      unfold Refusal.lambdaParameter
      split
      · next h => exact (hother _ _ _ _ _ h).elim
      · rfl
    exact hparameter ▸ stops_parameter hb _ _

theorem stops_groupedStatement (g : Group t) :
    Stops shown (Refusal.groupedStatement refused g) (groupedStatement below g) := by
  cases g with
  | together first more => exact stops_mergedDeclaration hb _ _ _ _
  | single p => exact (hb p).statement

theorem stops_addStatements (owner : NodeId) (ps : Parts t) :
    Stops shown (Refusal.statements refused ps) (addStatements below owner ps) :=
  stops_addEach (stops_groupedStatement hb)

theorem stops_blockAt (p : Part t) :
    Stops shown (Refusal.blockAt refused p) (blockAt below p) := by
  unfold blockAt Refusal.blockAt
  cases p.parts with
  | block =>
    exact (stops_alloc _ _).bind fun _ => (stops_addStatements hb _ _).andThen fun _ => .pure
  | _ => exact stops_unsupported _

/-! ## Members -/

theorem stops_typeParameter (p : Part t) :
    Stops shown (Refusal.typeParameter refused p) (typeParameter below p) := by
  unfold typeParameter Refusal.typeParameter
  cases p.parts with
  | typeParameter =>
    exact (stops_alloc _ _).bind fun _ => (stops_annotations hb _ _ _).bind fun _ =>
      (stops_addPart (stops_simpleName _ _)).bind fun _ =>
      (stops_types hb _ _ _).andThen fun _ => .pure
  | _ => exact stops_unsupported _

theorem stops_addTypeParameters (owner : NodeId) (ps : Parts t) :
    Stops shown (Refusal.each ps (Refusal.typeParameter refused))
      (addTypeParameters below owner ps) :=
  stops_addEach (stops_typeParameter hb)

omit hb in
theorem stops_methodName (identifier : String) (position : Int) :
    Stops shown none (methodName identifier position) := by
  unfold methodName
  split
  · exact stops_read.andThen fun _ => stops_nameAt _ _
  · exact stops_nameAt _ _

theorem stops_method (p : Part t) : Stops shown (Refusal.method refused p) (method below p) := by
  unfold method Refusal.method
  cases p.parts with
  | methodDef =>
    exact (stops_alloc _ _).bind fun _ => (stops_addModifiers hb _ _ _).bind fun _ =>
      (stops_addTypeParameters hb _ _).bind fun _ =>
      (stops_addOptional fun p => (hb p).type).bind fun _ =>
      (stops_addPart (stops_methodName _ _)).bind fun _ =>
      (stops_addEach fun p => stops_parameter hb p _).bind fun _ =>
      (stops_types hb _ _ _).bind fun _ =>
      (stops_addOptional (stops_blockAt hb)).andThen fun _ => .pure
  | _ => exact stops_unsupported _

theorem stops_annotationMember (p : Part t) :
    Stops shown (Refusal.annotationMember refused p) (annotationMember below p) := by
  unfold annotationMember Refusal.annotationMember
  cases p.parts with
  | methodDef =>
    exact (stops_alloc _ _).bind fun _ => (stops_addModifiers hb _ _ _).bind fun _ =>
      (stops_addOptional fun p => (hb p).type).bind fun _ =>
      (stops_addPart (stops_nameAt _ _)).bind fun _ =>
      (stops_addOptional fun p => (hb p).expression).andThen fun _ => .pure
  | _ => exact stops_unsupported _

theorem stops_initializer (p : Part t) (isStatic : Bool) (ps : Parts t) :
    Stops shown (Refusal.statements refused ps) (initializer below p isStatic ps) := by
  unfold initializer
  refine (stops_alloc _ _).bind fun id => ?_
  -- no matter where the body starts, only its statements can stop
  have hrest (start : Option Lexical.Token → Int) : Stops shown (Refusal.statements refused ps) (do
      let brace ← findToken? "\x7b" p.1.start p.1.stop
      let body ← allocAt p.1 .block (.ofBounds (start brace) p.1.stop)
      addStatements below body ps
      addChild id .body body
      Pure.pure id) :=
    (stops_findToken? _ _ _).bind fun _ => (stops_allocAt _ _ _).bind fun _ =>
      (stops_addStatements hb _ _).andThen fun _ => (stops_addChild _ _ _).andThen fun _ => .pure
  split
  · exact (stops_addPart (stops_synthetic _ _)).bind fun _ => hrest _
  · exact hrest _

theorem stops_member? (classKind : ClassKind) (p : Part t) :
    Stops shown (Refusal.member refused classKind p) (member? below classKind p) := by
  unfold member? Refusal.member
  cases p.parts with
  | classDef => exact (hb p).typeDeclaration.andThen fun _ => .pure
  | methodDef =>
    dsimp only
    split
    · exact .pure
    split
    · exact (stops_annotationMember hb p).andThen fun _ => .pure
    · exact (stops_method hb p).andThen fun _ => .pure
  | block => exact (stops_initializer hb p _ _).andThen fun _ => .pure
  | skip | erroneous => exact .pure
  | _ => exact stops_unsupported _

theorem stops_addMembers (owner : NodeId) (classKind : ClassKind) (ps : Parts t) :
    Stops shown (Refusal.members refused classKind ps)
      (addMembers below owner classKind ps) := by
  refine stops_forM fun g => ?_
  have hgroup : Stops shown (Refusal.groupedMember refused classKind g)
      (groupedMember? below classKind g) := by
    cases g with
    | together first more =>
      exact (stops_mergedDeclaration hb _ _ _ _).andThen fun _ => .pure
    | single p => exact stops_member? hb classKind p
  refine hgroup.andThen fun id => ?_
  cases id with
  | none => exact .pure
  | some id => exact stops_addChild _ _ _

theorem stops_anonymousClass (p : Part t) :
    Stops shown (Refusal.anonymousClass refused p) (anonymousClass below p) := by
  unfold anonymousClass Refusal.anonymousClass
  cases p.parts with
  | classDef =>
    exact (stops_alloc _ _).bind fun _ =>
      ((stops_addMembers hb _ _ _).insideType _).andThen fun _ => .pure
  | _ => exact stops_unsupported _

theorem stops_addConstantValue (owner : NodeId) (value : Option (Part t)) :
    Stops shown (Refusal.constantValue refused value) (addConstantValue below owner value) := by
  unfold addConstantValue Refusal.constantValue
  cases value with
  | none => exact .pure
  | some value =>
    dsimp only
    cases value.parts with
    | newClass =>
      exact (stops_expressions hb _ _ _).bind fun _ =>
        stops_addOptional (stops_anonymousClass hb)
    | _ => exact .pure

theorem stops_enumConstant (p : Part t) :
    Stops shown (Refusal.enumConstant refused p) (enumConstant below p) := by
  unfold enumConstant Refusal.enumConstant
  cases declared? p with
  | none => exact stops_unsupported _
  | some v =>
    exact (stops_alloc _ _).bind fun _ => (stops_addModifiers hb _ _ _).bind fun _ =>
      (stops_addPart (stops_nameAt _ _)).bind fun _ =>
      (stops_addConstantValue hb _ _).andThen fun _ => .pure

theorem stops_addHeadMembers (owner : NodeId) (classKind : ClassKind) (ps : Parts t) :
    Stops shown (Refusal.each ps (Refusal.headMember refused classKind))
      (addHeadMembers below owner classKind ps) := by
  refine stops_forM fun p => ?_
  unfold Refusal.headMember
  split
  · exact stops_addPart (stops_enumConstant hb p)
  · split
    · exact stops_addPart (stops_parameter hb p _)
    · exact .pure

theorem stops_addPermitted (owner : NodeId) (ps : Parts t) :
    Stops shown (if shown then Refusal.types refused ps else none)
      (addPermitted below owner ps) := by
  intro ctx σ hctx
  have hrun : addPermitted below owner ps ctx σ =
      (if ctx.level.supportsSealedTypes then
        addEach owner .permittedTypes ps (fun p => (below p).type)
        else (Pure.pure () : Convert Unit)) ctx σ := rfl
  rw [hrun, hctx]
  split
  · exact stops_types hb _ _ _ ctx σ hctx
  · rfl

theorem stops_typeDeclaration :
    Stops shown (Refusal.typeDeclaration refused shown) (typeDeclaration below) := by
  unfold typeDeclaration Refusal.typeDeclaration
  cases t.parts with
  | classDef =>
    exact (stops_alloc _ _).bind fun _ => (stops_addModifiers hb _ _ _).bind fun _ =>
      (stops_addPart (stops_simpleName _ _)).bind fun _ =>
      (stops_addTypeParameters hb _ _).bind fun _ =>
      (stops_addOptional fun p => (hb p).type).bind fun _ =>
      (stops_types hb _ _ _).bind fun _ => (stops_addPermitted hb _ _).bind fun _ =>
      (((stops_addHeadMembers hb _ _ _).bind fun _ =>
        stops_addMembers hb _ _ _).insideType _).andThen fun _ => .pure
  | _ => exact stops_unsupported _

end

end Conversion

end TreeBridge

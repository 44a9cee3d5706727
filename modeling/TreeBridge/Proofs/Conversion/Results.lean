import TreeBridge.Proofs.Conversion.Bodies
import TreeBridge.Proofs.Conversion.Fragments
/-!
# What members and statements become

A conversion that makes its node first gives that node back in the end,
with the kind it was made with: the steps in between hang other nodes
below it. So only variables become declarations of fields or of local
variables, apart from the lone statement that is salvaged from malformed
source, which is marked.
-/

namespace TreeBridge

namespace Conversion

open Foreign (Tree Shape ClassKind)
open Foreign.Tree (Part Parts Subtree)
open Unified (NodeId NodeKind Arena HangsBeside)

/-- A step that gives back a node it was given and leaves its kind. -/
def Returns (id : NodeId) (m : Convert NodeId) : Prop :=
  ∀ ⦃ctx : Context⦄ ⦃σ σ' : State⦄ ⦃i : NodeId⦄, id < σ.arena.size →
    m ctx σ = .ok (i, σ') → i = id ∧ σ'.arena.kind id = σ.arena.kind id

/-- A conversion that never makes a node of a kind its result. -/
def Avoids (kind : NodeKind) (m : Convert NodeId) : Prop :=
  ∀ ⦃ctx : Context⦄ ⦃σ σ' : State⦄ ⦃i : NodeId⦄, m ctx σ = .ok (i, σ') →
    σ'.arena.kind i ≠ kind

variable {K : ℕ → Prop} {α : Type} {t : Tree} {below : Below t} {kind made : NodeKind}

theorem returns_pure (id : NodeId) : Returns id (pure id) := by
  intro ctx σ σ' i _ hrun
  obtain ⟨rfl, rfl⟩ := pure_eq_ok.1 hrun
  exact ⟨rfl, rfl⟩

/-- Whatever is done to other nodes before. -/
theorem Moves.returns {pre : List NodeId} {m : Convert α} {post : α → List NodeId} {id : NodeId}
    {f : α → Convert NodeId} (h : Moves K pre m post) (hf : ∀ a, Returns id (f a)) :
    Returns id (m >>= f) := by
  intro ctx σ σ' i hid hrun
  obtain ⟨a, σ₁, hm, hfa⟩ := bind_eq_ok.1 hrun
  have htouches := h.touches hm
  obtain ⟨rfl, hkind⟩ := hf a (Nat.lt_of_lt_of_le hid htouches.size_le) hfa
  exact ⟨rfl, hkind.trans (htouches.kind i hid)⟩

/-- A step at the end. -/
theorem Moves.returnsLast {pre : List NodeId} {m : Convert α} {post : α → List NodeId}
    {id : NodeId} (h : Moves K pre m post) : Returns id (m >>= fun _ => Pure.pure id) :=
  h.returns fun _ => returns_pure id

namespace Avoids

/-- A conversion that makes its node first. -/
theorem allocAt {span : Span} {f : NodeId → Convert NodeId} (hne : made ≠ kind)
    (hf : ∀ id, Returns id (f id)) : Avoids kind (allocAt t made span >>= f) := by
  intro ctx σ σ' i hrun
  obtain ⟨id, σ₁, hid, hfid⟩ := bind_eq_ok.1 hrun
  obtain ⟨-, hlt, hnode⟩ := allocAt_eq_ok hid
  obtain ⟨rfl, hkind⟩ := hf id hlt hfid
  rw [hkind, Arena.kind, hnode]
  exact hne

theorem alloc {f : NodeId → Convert NodeId} (hne : made ≠ kind)
    (hf : ∀ id, Returns id (f id)) : Avoids kind (alloc t made >>= f) :=
  allocAt hne hf

theorem allocOnly (hne : made ≠ kind) : Avoids kind (Conversion.alloc t made) := by
  intro ctx σ σ' i hrun
  obtain ⟨-, -, hnode⟩ := allocAt_eq_ok hrun
  rw [Arena.kind, hnode]
  exact hne

theorem bind {m : Convert α} {f : α → Convert NodeId} (hf : ∀ a, Avoids kind (f a)) :
    Avoids kind (m >>= f) := by
  intro ctx σ σ' i hrun
  obtain ⟨a, σ₁, -, hfa⟩ := bind_eq_ok.1 hrun
  exact hf a hfa

theorem stop {e : Unsupported} : Avoids kind (throw e) := by
  intro ctx σ σ' i hrun
  cases hrun

theorem placeholder (hne : made ≠ kind) : Avoids kind (placeholder t made) := by
  refine alloc hne fun id => ?_
  exact (keeps_addFlags (K := fun _ => True) (List.mem_singleton_self id) _).returnsLast

end Avoids

/-! ## Members -/

theorem avoids_typeDeclaration (hb : Grounded K below) :
    Avoids .fieldDeclaration (typeDeclaration below) := by
  intro ctx σ σ' d hrun
  obtain ⟨mods, name, classKind, typeParameters, extending, implementing, permitting, members,
    σ₁, h, -, hd, hkind, -, -, -, -, hmembers⟩ := typeDeclaration_eq_ok hb hrun
  have hsub (q : Part t) (hq : q ∈ bodyMembers classKind members) : Subtree q.1 t :=
    subtree_of_parts h (by simp [Shape.children, (List.mem_filter.1 hq).1])
  have hkeeps := steps_addMembers hb d classKind hsub
  rw [(hkeeps.touches hmembers).kind d hd, hkind]
  cases classKind <;> exact NodeKind.noConfusion

theorem avoids_annotationMember (hb : Grounded K below) {p : Part t} (hp : Subtree p.1 t) :
    Avoids .fieldDeclaration (annotationMember below p) := by
  unfold annotationMember
  split
  · next mods name typeParameters returnType parameters dims thrown body value h =>
    refine Avoids.alloc (by decide) fun id => ?_
    refine (keeps_addModifiers hb id (fun q hq => ?_) 0).returns fun _ => ?_
    · exact subtree_of_partsOf hp h (by simp [Shape.children, hq])
    refine (keeps_addOptional (K := K) .type fun q hq => ?_).returns fun _ => ?_
    · exact (hb.sound q (subtree_of_partsOf hp h (by simp [Shape.children, hq]))).type
    refine (keeps_addPart (K := K) .name (yields_nameAt name _)).returns fun _ => ?_
    refine (keeps_addOptional (K := K) .default fun q hq => ?_).returnsLast
    exact (hb.sound q (subtree_of_partsOf hp h (by simp [Shape.children, hq]))).expression
  · exact Avoids.stop

theorem avoids_method (hb : Grounded K below) {p : Part t} (hp : Subtree p.1 t) :
    Avoids .fieldDeclaration (method below p) := by
  unfold method
  split
  · next mods name typeParameters returnType parameters dims thrown body value h =>
    have hsub (q : Part t) (hq : q ∈ (Shape.methodDef mods name typeParameters returnType
        parameters dims thrown body value).children) : Subtree q.1 t :=
      subtree_of_partsOf hp h hq
    refine Avoids.alloc NodeKind.noConfusion fun id => ?_
    refine (keeps_addModifiers hb id (fun q hq => ?_) 0).returns fun _ => ?_
    · exact hsub q (by simp [Shape.children, hq])
    refine (keeps_addTypeParameters hb id fun q hq => ?_).returns fun _ => ?_
    · exact hsub q (by simp [Shape.children, hq])
    refine (keeps_addOptional (K := K) .returnType fun q hq => ?_).returns fun _ => ?_
    · exact (hb.sound q (hsub q (by simp [Shape.children, hq]))).type
    refine (keeps_addPart (K := K) .name (yields_methodName name _)).returns fun _ => ?_
    refine (keeps_addEach (K := K) .parameters fun q hq => ?_).returns fun _ => ?_
    · exact yields_parameter hb
        (hsub q (by simp [Shape.children, (List.mem_filter.1 hq).1])) 0
    refine (keeps_addEach (K := K) .thrownExceptionTypes fun q hq => ?_).returns fun _ => ?_
    · exact (hb.sound q (hsub q (by simp [Shape.children, hq]))).type
    refine (keeps_addOptional (K := K) .body fun q hq => ?_).returnsLast
    exact yields_blockAt hb (hsub q (by simp [Shape.children, hq]))
  · exact Avoids.stop

/-- Between two states an initializer gets the block that is its body. -/
def GetsBody (below : Below t) (p : Part t) (statements : Parts t) (ctx : Context) (i : NodeId)
    (σ σ' : State) : Prop :=
  ∃ span body σ₁ σ₂, allocAt p.1 .block span ctx σ = .ok (body, σ₁) ∧
    addStatements below body statements ctx σ₁ = .ok ((), σ₂) ∧
    σ' = { σ₂ with arena := σ₂.arena.addChild i .body body }

/-- An initializer is made, gets its modifier, and then its body. -/
theorem initializer_eq_ok {p : Part t} {isStatic : Bool} {statements : Parts t} {ctx : Context}
    {σ σ' : State} {i : NodeId}
    (hrun : initializer below p isStatic statements ctx σ = .ok (i, σ')) :
    ∃ σ₁ : State, i < σ₁.arena.size ∧ σ₁.arena.kind i = .initializer ∧
      σ₁.arena.list i .body = [] ∧ GetsBody below p statements ctx i σ₁ σ' := by
  obtain ⟨i, σ₁, hi, hrun⟩ := bind_eq_ok.1 hrun
  obtain ⟨-, hnew, hnode⟩ := allocAt_eq_ok hi
  have hkind : σ₁.arena.kind i = .initializer := by rw [Arena.kind, hnode]
  have hempty := list_of_allocAt hi .body
  -- the body is the same with and without the modifier before it
  have hrest (start : Option Lexical.Token → Int) {σ₁ : State} {j : NodeId} (hrun : (do
        let brace ← findToken? "\x7b" p.1.start p.1.stop
        let body ← allocAt p.1 .block (.ofBounds (start brace) p.1.stop)
        addStatements below body statements
        addChild i .body body
        pure i : Convert NodeId) ctx σ₁ = .ok (j, σ')) :
      j = i ∧ GetsBody below p statements ctx i σ₁ σ' := by
    obtain ⟨brace, _, hbrace, hrun⟩ := bind_eq_ok.1 hrun
    obtain ⟨body, σ₂, hbody, hrun⟩ := bind_eq_ok.1 hrun
    obtain ⟨_, σ₃, hstatements, hrun⟩ := bind_eq_ok.1 hrun
    obtain ⟨_, _, hadd, hrun⟩ := bind_eq_ok.1 hrun
    obtain ⟨rfl, rfl⟩ := pure_eq_ok.1 hrun
    cases hbrace
    cases hadd
    exact ⟨rfl, _, body, σ₂, σ₃, hbody, hstatements, rfl⟩
  cases isStatic with
  | false =>
    obtain ⟨rfl, hbody⟩ := hrest _ hrun
    exact ⟨σ₁, hnew, hkind, hempty, hbody⟩
  | true =>
    rw [if_pos rfl] at hrun
    obtain ⟨_, σ₂, hmodifier, hrun⟩ := bind_eq_ok.1 hrun
    have hbeside : HangsBeside .body i σ₁.arena σ₂.arena :=
      beside_addPart (K := fun _ => True) (yields_synthetic _ _ (by rfl)) hnew hmodifier (by decide)
    obtain ⟨rfl, hbody⟩ := hrest _ hrun
    exact ⟨σ₂, Nat.lt_of_lt_of_le hnew hbeside.touches.size_le,
      (hbeside.touches.kind i hnew).trans hkind, hbeside.list_eq.trans hempty, hbody⟩

theorem avoids_initializer (hb : Grounded K below) {p : Part t} (hp : Subtree p.1 t)
    (isStatic : Bool) {statements : Parts t} (hs : ∀ q ∈ statements, Subtree q.1 t) :
    Avoids .fieldDeclaration (initializer below p isStatic statements) := by
  intro ctx σ σ' i hrun
  -- what comes after the modifier leaves the kind of the initializer
  obtain ⟨σ₁, hi, hkind, -, span, body, σ₂, σ₃, hmade, hstatements, rfl⟩ := initializer_eq_ok hrun
  have hmakes := (yields_allocAt (hb.known _ hp) _ _ (by rfl)).touches hmade
  have hfills := (keeps_addStatements hb body hs).touches hstatements
  show (σ₃.arena.addChild i .body body).kind i ≠ _
  rw [Arena.kind_addChild, (hmakes.trans hfills).kind i hi, hkind]
  exact NodeKind.noConfusion

/-- **No member but a variable becomes the declaration of a field.** -/
theorem member?_cases (hb : Grounded K below) (classKind : ClassKind) {p : Part t}
    (hp : Subtree p.1 t) (htype : Avoids .fieldDeclaration (below p).typeDeclaration) :
    (∃ m, Avoids .fieldDeclaration m ∧ member? below classKind p = do pure (some (← m))) ∨
      member? below classKind p = pure none ∨ ∃ e, member? below classKind p = throw e := by
  unfold member?
  split
  · exact Or.inl ⟨_, htype, rfl⟩
  · split
    · exact Or.inr (Or.inl rfl)
    · split
      · exact Or.inl ⟨_, avoids_annotationMember hb hp, rfl⟩
      · exact Or.inl ⟨_, avoids_method hb hp, rfl⟩
  · next isStatic statements h =>
    refine Or.inl ⟨_, avoids_initializer hb hp isStatic fun q hq => ?_, rfl⟩
    exact subtree_of_partsOf hp h (by simp [Shape.children, hq])
  · exact Or.inr (Or.inl rfl)
  · exact Or.inr (Or.inl rfl)
  · exact Or.inr (Or.inr ⟨_, rfl⟩)

/-! ## Statements -/

/-- The kinds of the statements that declare no local variables. -/
def plainStatements : List NodeKind :=
  [.block, .emptyStatement, .expressionStatement, .constructorInvocation,
    .superConstructorInvocation, .typeDeclarationStatement, .ifStatement, .whileStatement,
    .doStatement, .forStatement, .enhancedForStatement, .labeledStatement, .breakStatement,
    .continueStatement, .yieldStatement, .returnStatement, .throwStatement, .switchStatement,
    .synchronizedStatement, .tryStatement, .assertStatement]

theorem ne_of_plainStatements (hk : kind ∉ plainStatements) (hmade : made ∈ plainStatements) :
    made ≠ kind :=
  fun h => hk (h ▸ hmade)

theorem avoids_ofExpression (hb : Grounded K below) (hne : made ≠ kind)
    {expression : Option (Part t)} (he : ∀ p, expression = some p → Subtree p.1 t) :
    Avoids kind (ofExpression below made expression) := by
  unfold ofExpression
  refine Avoids.alloc hne fun id => ?_
  exact (keeps_addOptional (K := K) .expression fun p hp =>
    (hb.sound p (he p hp)).expression).returnsLast

theorem avoids_jump (hne : made ≠ kind) (label : Option String) :
    Avoids kind (jump t made label) := by
  unfold jump
  refine Avoids.alloc hne fun id => ?_
  exact (keeps_addOptional (K := fun _ => True) .label fun _ _ =>
    yields_simpleName _ _).returnsLast

theorem avoids_branch (hb : Grounded K below) (hk : kind ∉ plainStatements) {test thenPart : Part t}
    {elsePart : Option (Part t)} (h₁ : Subtree test.1 t) (h₂ : Subtree thenPart.1 t)
    (h₃ : ∀ p, elsePart = some p → Subtree p.1 t) :
    Avoids kind (branch below test thenPart elsePart) := by
  unfold branch
  refine Avoids.alloc (ne_of_plainStatements hk (by decide)) fun id => ?_
  refine (keeps_addPart .expression (yields_condition hb h₁)).returns fun _ => ?_
  refine (keeps_addPart .thenStatement (hb.sound thenPart h₂).statement).returns fun _ => ?_
  exact (keeps_addOptional .elseStatement fun p hp => (hb.sound p (h₃ p hp)).statement).returnsLast

theorem avoids_forLoop (hb : Grounded K below) (hk : kind ∉ plainStatements)
    {initial step : Parts t} {test : Option (Part t)} {body : Part t}
    (h₁ : ∀ p ∈ initial, Subtree p.1 t)
    (h₂ : ∀ p, test = some p → Subtree p.1 t) (h₃ : ∀ p ∈ step, Subtree p.1 t)
    (h₄ : Subtree body.1 t) :
    Avoids kind (forLoop below initial test step body) := by
  unfold forLoop
  refine Avoids.alloc (ne_of_plainStatements hk (by decide)) fun id => ?_
  refine (keeps_addEach (K := K) .initializers fun g hg => ?_).returns fun _ => ?_
  · exact yields_loopStart hb (inside_of_mem_groups h₁ g hg)
  refine (keeps_addOptional (K := K) .expression fun p hp =>
    (hb.sound p (h₂ p hp)).expression).returns fun _ => ?_
  refine (keeps_addEach .updaters fun p hp => yields_executed hb (h₃ p hp)).returns fun _ => ?_
  exact (keeps_addPart .body (hb.sound body h₄).statement).returnsLast

theorem avoids_foreachLoop (hb : Grounded K below) (hk : kind ∉ plainStatements)
    {binder expression body : Part t} (h₁ : Subtree binder.1 t) (h₂ : Subtree expression.1 t)
    (h₃ : Subtree body.1 t) : Avoids kind (foreachLoop below binder expression body) := by
  unfold foreachLoop
  refine Avoids.alloc (ne_of_plainStatements hk (by decide)) fun id => ?_
  refine (keeps_addPart .parameter (yields_parameter hb h₁ 0)).returns fun _ => ?_
  refine (keeps_addPart .expression (hb.sound expression h₂).expression).returns fun _ => ?_
  exact (keeps_addPart .body (hb.sound body h₃).statement).returnsLast

theorem avoids_tryBlock (hb : Grounded K below) (hk : kind ∉ plainStatements)
    {resources catchers : Parts t} {body : Part t} {finalizer : Option (Part t)}
    (h₁ : ∀ p ∈ resources, Subtree p.1 t) (h₂ : Subtree body.1 t)
    (h₃ : ∀ p ∈ catchers, Subtree p.1 t) (h₄ : ∀ p, finalizer = some p → Subtree p.1 t) :
    Avoids kind (tryBlock below resources body catchers finalizer) := by
  unfold tryBlock
  refine Avoids.alloc (ne_of_plainStatements hk (by decide)) fun id => ?_
  refine (keeps_addEach .resources fun p hp => yields_resource hb (h₁ p hp)).returns fun _ => ?_
  refine (keeps_addPart .body (yields_blockAt hb h₂)).returns fun _ => ?_
  refine (keeps_addEach .catchClauses fun p hp => yields_catchClause hb (h₃ p hp)).returns
    fun _ => ?_
  exact (keeps_addOptional .finallyBlock fun p hp => yields_blockAt hb (h₄ p hp)).returnsLast

theorem avoids_constructorCall (hb : Grounded K below) (hne : made ≠ kind)
    {typeArguments arguments : Parts t} {method : Part t}
    (hta : ∀ p ∈ typeArguments, Subtree p.1 t) (hm : Subtree method.1 t)
    (ha : ∀ p ∈ arguments, Subtree p.1 t) :
    Avoids kind (constructorCall below made typeArguments method arguments) := by
  unfold constructorCall
  refine Avoids.alloc hne fun id => ?_
  refine (keeps_addOptional (K := K) .expression fun p hp => ?_).returns fun _ => ?_
  · exact (hb.sound p (subtree_of_outerOfSuper? hm hp)).expression
  refine (keeps_addTypeArguments hb id hta).returns fun _ => ?_
  exact (keeps_addArguments hb id ha).returnsLast

theorem constructorCall?_mem {method : Part t} {made : NodeKind}
    (h : constructorCall? method = some made) : made ∈ plainStatements := by
  unfold constructorCall? at h
  split at h <;> cases h <;> decide

theorem avoids_execute (hb : Grounded K below) (hk : kind ∉ plainStatements) {p : Part t}
    (hp : Subtree p.1 t) : Avoids kind (execute below p) := by
  have hne : NodeKind.expressionStatement ≠ kind := ne_of_plainStatements hk (by decide)
  have hplain : Avoids kind (ofExpression below .expressionStatement (some p)) :=
    avoids_ofExpression hb hne fun q hq => Option.some.inj hq ▸ hp
  unfold execute
  split
  · next typeArguments method arguments h =>
    split
    · next made hmade =>
      exact avoids_constructorCall hb (ne_of_plainStatements hk (constructorCall?_mem hmade))
        (fun q hq => subtree_of_partsOf hp h (by simp [Shape.children, hq]))
        (subtree_of_partsOf hp h (by simp [Shape.children]))
        (fun q hq => subtree_of_partsOf hp h (by simp [Shape.children, hq]))
    · exact hplain
  · exact hplain

theorem avoids_block (hb : Grounded K below) (hk : kind ∉ plainStatements) {statements : Parts t}
    (hs : ∀ p ∈ statements, Subtree p.1 t) :
    Avoids kind (block below statements) := by
  unfold block
  refine Avoids.alloc (ne_of_plainStatements hk (by decide)) fun id => ?_
  exact (keeps_addStatements hb id hs).returnsLast

theorem avoids_typeStatement (hk : kind ∉ plainStatements) :
    Avoids kind (typeStatement below) := by
  unfold typeStatement
  refine Avoids.bind fun declaration => ?_
  refine Avoids.alloc (ne_of_plainStatements hk (by decide)) fun id => ?_
  exact (moves_addChild (K := fun _ => True) id .declaration declaration).returnsLast

/-- A step makes of a tree what becomes of a statement below it,
marked. -/
def Salvages (below : Below t) (m : Convert NodeId) : Prop :=
  ∃ p : Part t, Subtree p.1 t ∧ m = (do
    let id ← (below p).statement
    markRecovered id
    pure id)

/-- A malformed statement becomes none of the other kinds, or it is what
becomes of the lone statement in it, marked. -/
theorem malformedStatement_cases (hk : kind ∉ plainStatements) {salvaged : Parts t}
    (hs : ∀ q ∈ salvaged, Subtree q.1 t) :
    Avoids kind (malformedStatement below salvaged) ∨
      Salvages below (malformedStatement below salvaged) := by
  unfold malformedStatement
  split
  · next only =>
    split
    · refine Or.inl (Avoids.bind fun inner => ?_)
      refine Avoids.alloc (ne_of_plainStatements hk (by decide)) fun id => ?_
      refine (moves_addChild (K := fun _ => True) id .expression inner).returns fun _ => ?_
      exact (keeps_markRecovered (K := fun _ => True) id).returnsLast
    · exact Or.inr ⟨only, hs only (by simp), rfl⟩
  · exact Or.inl (Avoids.placeholder (ne_of_plainStatements hk (by decide)))

/-- A statement becomes none of the other kinds, or it is a variable, or it
is what becomes of another statement, marked. -/
theorem statement_cases (hb : Grounded K below) (hk : kind ∉ plainStatements) :
    Avoids kind (statement below) ∨
      (∃ v, asVariable? t.parts = some v ∧ (Declared.mk t v).Inside ∧
        statement below = declaration below .variableDeclarationStatement ⟨t, v⟩ []) ∨
      Salvages below (statement below) := by
  unfold statement
  split
  · next isStatic statements h =>
    exact Or.inl (avoids_block hb hk
      (fun p hp => subtree_of_parts h (by simp [Shape.children, hp])))
  · exact Or.inl (Avoids.allocOnly (ne_of_plainStatements hk (by decide)))
  · next expression h =>
    exact Or.inl (avoids_execute hb hk (subtree_of_parts h (by simp [Shape.children])))
  · next mods name type dims value h =>
    refine Or.inr (Or.inl ⟨_, by rw [h]; rfl, ⟨Subtree.refl, fun p hp => ?_, fun p hp => ?_,
      fun p hp => ?_⟩, rfl⟩) <;> dsimp only at hp <;>
      exact subtree_of_parts h (by simp [Shape.children, hp])
  · exact Or.inl (avoids_typeStatement hk)
  · next test thenPart elsePart h =>
    exact Or.inl (avoids_branch hb hk (subtree_of_parts h (by simp [Shape.children]))
      (subtree_of_parts h (by simp [Shape.children]))
      (fun p hp => subtree_of_parts h (by simp [Shape.children, hp])))
  · next test body h =>
    have htest := subtree_of_parts h (by simp [Shape.children] : test ∈ _)
    have hbody := subtree_of_parts h (by simp [Shape.children] : body ∈ _)
    refine Or.inl (Avoids.alloc (ne_of_plainStatements hk (by decide)) fun id => ?_)
    refine (keeps_addPart .expression (yields_condition hb htest)).returns fun _ => ?_
    exact (keeps_addPart .body (hb.sound body hbody).statement).returnsLast
  · next body test h =>
    have htest := subtree_of_parts h (by simp [Shape.children] : test ∈ _)
    have hbody := subtree_of_parts h (by simp [Shape.children] : body ∈ _)
    refine Or.inl (Avoids.alloc (ne_of_plainStatements hk (by decide)) fun id => ?_)
    refine (keeps_addPart .body (hb.sound body hbody).statement).returns fun _ => ?_
    exact (keeps_addPart .expression (yields_condition hb htest)).returnsLast
  · next initial test step body h =>
    exact Or.inl (avoids_forLoop hb hk
      (fun p hp => subtree_of_parts h (by simp [Shape.children, hp]))
      (fun p hp => subtree_of_parts h (by simp [Shape.children, hp]))
      (fun p hp => subtree_of_parts h (by simp [Shape.children, hp]))
      (subtree_of_parts h (by simp [Shape.children])))
  · next binder expression body h =>
    exact Or.inl (avoids_foreachLoop hb hk (subtree_of_parts h (by simp [Shape.children]))
      (subtree_of_parts h (by simp [Shape.children]))
      (subtree_of_parts h (by simp [Shape.children])))
  · next label body h =>
    have hbody := subtree_of_parts h (by simp [Shape.children] : body ∈ _)
    refine Or.inl (Avoids.alloc (ne_of_plainStatements hk (by decide)) fun id => ?_)
    refine (keeps_addPart (K := K) .label (yields_simpleName _ _)).returns fun _ => ?_
    exact (keeps_addPart .body (hb.sound body hbody).statement).returnsLast
  · exact Or.inl (avoids_jump (ne_of_plainStatements hk (by decide)) _)
  · exact Or.inl (avoids_jump (ne_of_plainStatements hk (by decide)) _)
  · next value h =>
    exact Or.inl (avoids_ofExpression hb (ne_of_plainStatements hk (by decide)) fun p hp =>
      Option.some.inj hp ▸ subtree_of_parts h (by simp [Shape.children]))
  · next value h =>
    exact Or.inl (avoids_ofExpression hb (ne_of_plainStatements hk (by decide)) fun p hp =>
      subtree_of_parts h (by simp [Shape.children, hp]))
  · next value h =>
    exact Or.inl (avoids_ofExpression hb (ne_of_plainStatements hk (by decide)) fun p hp =>
      Option.some.inj hp ▸ subtree_of_parts h (by simp [Shape.children]))
  · next selector cases h =>
    refine Or.inl (Avoids.alloc (ne_of_plainStatements hk (by decide)) fun id => ?_)
    refine (keeps_addPart .expression (yields_condition hb ?_)).returns fun _ => ?_
    · exact subtree_of_parts h (by simp [Shape.children])
    refine (keeps_addCases hb id fun p hp => ?_).returnsLast
    exact subtree_of_parts h (by simp [Shape.children, hp])
  · next lock body h =>
    refine Or.inl (Avoids.alloc (ne_of_plainStatements hk (by decide)) fun id => ?_)
    refine (keeps_addPart .expression (yields_condition hb ?_)).returns fun _ => ?_
    · exact subtree_of_parts h (by simp [Shape.children])
    refine (keeps_addPart .body (yields_blockAt hb ?_)).returnsLast
    exact subtree_of_parts h (by simp [Shape.children])
  · next resources body catchers finalizer h =>
    exact Or.inl (avoids_tryBlock hb hk
      (fun p hp => subtree_of_parts h (by simp [Shape.children, hp]))
      (subtree_of_parts h (by simp [Shape.children]))
      (fun p hp => subtree_of_parts h (by simp [Shape.children, hp]))
      (fun p hp => subtree_of_parts h (by simp [Shape.children, hp])))
  · next test detail h =>
    have htest := subtree_of_parts h (by simp [Shape.children] : test ∈ _)
    refine Or.inl (Avoids.alloc (ne_of_plainStatements hk (by decide)) fun id => ?_)
    refine (keeps_addPart .expression (hb.sound test htest).expression).returns fun _ => ?_
    refine (keeps_addOptional (K := K) .message fun p hp => ?_).returnsLast
    exact (hb.sound p (subtree_of_parts h (by simp [Shape.children, hp]))).expression
  · next salvaged h =>
    exact (malformedStatement_cases hk fun p hp =>
      subtree_of_parts h (by simp [Shape.children, hp])).imp_right Or.inr
  · exact Or.inl Avoids.stop

theorem avoids_declaration (hb : Grounded K below) (hne : made ≠ kind) {first : Declared t}
    {more : List (Declared t)} (hg : (Group.together first more).Inside) :
    Avoids kind (declaration below made first more) := by
  intro ctx σ σ' d hrun
  rw [(declares_mergedDeclaration hb hg hrun).kind]
  exact hne

/-- **A statement becomes a statement.** If no statement below becomes a
node of some other kind, it does not, either. -/
theorem avoids_statement (hb : Grounded K below) (hk : kind ∉ plainStatements)
    (hvariable : .variableDeclarationStatement ≠ kind)
    (hbelow : ∀ p : Part t, Subtree p.1 t → Avoids kind (below p).statement) :
    Avoids kind (statement below) := by
  rcases statement_cases hb hk with havoids | ⟨v, -, hv, heq⟩ | ⟨p, hp, heq⟩
  · exact havoids
  · rw [heq]
    exact avoids_declaration hb hvariable ⟨hv, by simp⟩
  · rw [heq]
    intro ctx σ σ' i hrun
    obtain ⟨id, σ₁, hid, hmark⟩ := bind_eq_ok.1 hrun
    obtain ⟨_, σ₂, hadd, hpure⟩ := bind_eq_ok.1 hmark
    obtain ⟨rfl, rfl⟩ := pure_eq_ok.1 hpure
    have hmarks := (keeps_markRecovered (K := K) id).touches hadd
    rw [hmarks.kind id (fresh_of_yields (hb.sound p hp).statement hid).2]
    exact hbelow p hp hid

theorem recovered_or (flags : UInt32) :
    (flags ||| Unified.Flag.recovered) &&& Unified.Flag.recovered ≠ 0 := by
  have hbit : ((flags ||| Unified.Flag.recovered) &&&
      Unified.Flag.recovered).toBitVec.getLsbD 3 = true := by
    simp [Unified.Flag.recovered]
  intro hzero
  rw [hzero] at hbit
  simp at hbit

/-- **Only a variable becomes an unmarked declaration of local
variables.** A lone declaration salvaged from malformed source is
marked. -/
theorem statement_of_not_variable (hb : Grounded K below) (ht : asVariable? t.parts = none)
    {ctx : Context} {σ σ' : State} {i : NodeId}
    (hrun : statement below ctx σ = .ok (i, σ')) :
    σ'.arena.kind i ≠ .variableDeclarationStatement ∨
      σ'.arena.flags i &&& Unified.Flag.recovered ≠ 0 := by
  have hk : .variableDeclarationStatement ∉ plainStatements := by decide
  rcases statement_cases hb hk with havoids | ⟨v, hv, -⟩ | ⟨p, hp, heq⟩
  · exact Or.inl (havoids hrun)
  · rw [ht] at hv
    cases hv
  · rw [heq] at hrun
    obtain ⟨id, σ₁, hid, hmark⟩ := bind_eq_ok.1 hrun
    obtain ⟨_, σ₂, hadd, hpure⟩ := bind_eq_ok.1 hmark
    obtain ⟨rfl, rfl⟩ := pure_eq_ok.1 hpure
    have hlt : id < σ₁.arena.size := (fresh_of_yields (hb.sound p hp).statement hid).2
    cases hadd
    refine Or.inr ?_
    show ((σ₁.arena.addFlags id Unified.Flag.recovered).node id).flags &&& _ ≠ 0
    rw [Arena.addFlags, Arena.node_modify_self _ hlt]
    exact recovered_or _

end Conversion

end TreeBridge

import TreeBridge.Conversion.Variable
import TreeBridge.Proofs.Conversion.Roots
import TreeBridge.Proofs.Foreign.Subtree
/-!
# Converted names, types and variables are subtrees

Every conversion of a name, a type, a variable or a block leaves one loose
root, given that the conversions of the trees below do
(`Grounded`). What is converted is always a subtree, so the origins that
a conversion records are ids of subtrees.
-/

namespace TreeBridge

namespace Conversion

open Foreign (Tree Shape ClassKind)
open Foreign.Tree (Part Parts Subtree)
open Unified (NodeId NodeKind Slot Arena)

/-- Every action of a conversion on one tree leaves one loose root. -/
structure Actions.Sound (K : ℕ → Prop) (acts : Actions) : Prop where
  name : Yields K acts.name
  type : Yields K acts.type
  expression : Yields K acts.expression
  annotated : Yields K acts.annotated
  statement : Yields K acts.statement
  typeDeclaration : Yields K acts.typeDeclaration

/-- The ids of all subtrees of a tree are in `K`, and the actions on them
leave one loose root each. -/
structure Grounded (K : ℕ → Prop) {t : Tree} (below : Below t) : Prop where
  known : ∀ u, Subtree u t → K u.id
  sound : ∀ p : Part t, Subtree p.1 t → (below p).Sound K

variable {K : ℕ → Prop} {t : Tree} {below : Below t}

/-- A part in the shape of a tree is a subtree of it. -/
theorem subtree_of_parts {s : Shape (Part t)} (h : t.parts = s) {p : Part t}
    (hp : p ∈ s.children) : Subtree p.1 t :=
  Foreign.Tree.subtree_of_mem_parts (h ▸ hp)

/-- A part in the shape of a subtree is a subtree. -/
theorem subtree_of_partsOf {p : Part t} (hp : Subtree p.1 t) {s : Shape (Part t)}
    (h : p.parts = s) {q : Part t} (hq : q ∈ s.children) : Subtree q.1 t :=
  (Foreign.Tree.Part.subtree_of_mem_parts (h ▸ hq)).trans hp

theorem Grounded.root (hb : Grounded K below) : K t.id :=
  hb.known t Subtree.refl

/-! ## Names and types -/

theorem yields_name (hb : Grounded K below) : Yields K (name below) := by
  unfold name
  split
  · exact yields_alloc hb.root _ rfl
  · next selected identifier h =>
    have hs := subtree_of_parts h (by simp [Shape.children] : selected ∈ _)
    refine (hb.sound selected hs).name.bind fun qualifier => ?_
    refine (yields_nameEndingAt identifier t.stop).bindNew fun last => ?_
    refine (yields_alloc hb.root .qualifiedName rfl).bindNew fun whole => ?_
    exact Moves.attach .qualifier (List.Perm.swap qualifier last []) (Moves.attachLast .name)
  · exact yields_placeholder hb.root _ rfl
  · exact Moves.stop

theorem keeps_addDimensions (owner : NodeId) (spans : List Span) :
    Keeps K owner (addDimensions owner spans) :=
  keeps_addEach _ fun _ _ => yields_synthetic _ _ rfl

theorem yields_namedType (ht : K t.id) {name : Convert NodeId} (h : Yields K name) :
    Yields K (namedType t name) := by
  unfold namedType
  refine h.bind fun name => ?_
  exact (yields_alloc ht .simpleType rfl).bindNew fun type => Moves.attachLast .name

theorem yields_missingType (ht : K t.id) : Yields K (missingType t) := by
  unfold missingType
  refine (yields_placeholder ht missingName rfl).bind fun name => ?_
  exact (yields_placeholder ht .simpleType rfl).bindNew fun type => Moves.attachLast .name

theorem keeps_addFirstEach (hb : Grounded K below) (owner : NodeId) {annotations : Parts t}
    (ha : ∀ p ∈ annotations, Subtree p.1 t) :
    Keeps K owner (addFirstEach below owner annotations) := by
  refine keeps_forM fun p hp => ?_
  refine (hb.sound p (ha p (List.mem_reverse.1 hp))).annotated.bindNew fun a => ?_
  exact (moves_addChildFirst owner a).permute (List.Perm.swap owner a [])
    (fun _ => List.Perm.refl _)

theorem keeps_addTypeArguments (hb : Grounded K below) (owner : NodeId) {arguments : Parts t}
    (ha : ∀ p ∈ arguments, Subtree p.1 t) :
    Keeps K owner (addTypeArguments below owner arguments) :=
  keeps_addEach _ fun p hp => (hb.sound p (ha p hp)).type

theorem keeps_addArguments (hb : Grounded K below) (owner : NodeId) {arguments : Parts t}
    (ha : ∀ p ∈ arguments, Subtree p.1 t) :
    Keeps K owner (addArguments below owner arguments) :=
  keeps_addEach _ fun p hp => (hb.sound p (ha p hp)).expression

/-- The element type under all brackets is a subtree. -/
theorem subtree_arrayElement (p : Part t) : Subtree (arrayElement p).1 p.1 := by
  induction p using arrayElement.induct with
  | case1 p element h ih =>
    rw [arrayElement, h]
    refine ih.trans ?_
    have hmem : element ∈ p.1.parts.children := by simp [h, Shape.children]
    exact Foreign.Tree.subtree_of_mem_parts hmem
  | case2 p h =>
    unfold arrayElement
    split
    · next element helement => exact absurd helement (h element)
    · exact Subtree.refl

theorem yields_type (hb : Grounded K below) : Yields K (type below) := by
  unfold type
  split
  · split
    · exact yields_alloc hb.root _ rfl
    · exact Moves.stop
  · exact yields_namedType hb.root (yields_name hb)
  · next selected identifier h =>
    have hs := subtree_of_parts h (by simp [Shape.children] : selected ∈ _)
    split
    · exact yields_namedType hb.root (yields_name hb)
    · refine (hb.sound selected hs).type.bind fun qualifier => ?_
      refine (yields_nameEndingAt identifier t.stop).bindNew fun last => ?_
      refine (yields_alloc hb.root .qualifiedType rfl).bindNew fun type => ?_
      exact Moves.attach .qualifier (List.Perm.swap qualifier last []) (Moves.attachLast .name)
  · next base arguments h =>
    refine (hb.sound base (subtree_of_parts h (by simp [Shape.children]))).type.bind fun b => ?_
    refine (yields_alloc hb.root .parameterizedType rfl).bindNew fun type => ?_
    refine Moves.attach .type (List.Perm.refl [b]) ?_
    refine (keeps_addTypeArguments hb type fun p hp => ?_).bind fun _ => Moves.pure rfl
    exact subtree_of_parts h (by simp [Shape.children, hp])
  · next element h =>
    have he := subtree_of_parts h (by simp [Shape.children] : element ∈ _)
    refine (hb.sound _ ((subtree_arrayElement element).trans he)).type.bind fun e => ?_
    refine (yields_alloc hb.root .arrayType rfl).bindNew fun type => ?_
    refine Moves.attach .elementType (List.Perm.refl [e]) ?_
    exact (keeps_addDimensions type _).bind fun _ => Moves.pure rfl
  · next kind inner h =>
    refine (yields_alloc hb.root _ (by rfl)).bind fun type => ?_
    refine (keeps_addOptional .bound fun p hp => ?_).bind fun _ => Moves.pure rfl
    exact (hb.sound p (subtree_of_parts h (by simp [Shape.children, hp]))).type
  · next alternatives h =>
    refine (yields_alloc hb.root _ (by rfl)).bind fun type => ?_
    refine (keeps_addEach .types fun p hp => ?_).bind fun _ => Moves.pure rfl
    exact (hb.sound p (subtree_of_parts h (by simp [Shape.children, hp]))).type
  · next bounds h =>
    refine (yields_alloc hb.root _ (by rfl)).bind fun type => ?_
    refine (keeps_addEach .types fun p hp => ?_).bind fun _ => Moves.pure rfl
    exact (hb.sound p (subtree_of_parts h (by simp [Shape.children, hp]))).type
  · next annotations underlying h =>
    refine (hb.sound underlying (subtree_of_parts h (by simp [Shape.children]))).type.bind
      fun type => ?_
    refine (keeps_addFirstEach hb type fun p hp => ?_).bind fun _ => ?_
    · exact subtree_of_parts h (by simp [Shape.children, hp])
    · exact (keeps_setSpan (List.mem_singleton_self type) _).bind fun _ => Moves.pure rfl
  · exact yields_missingType hb.root
  · exact Moves.stop

theorem yields_arrayTypeWith (hb : Grounded K below) {element : Part t}
    (he : Subtree element.1 t) (brackets : List Span) :
    Yields K (arrayTypeWith below element brackets) := by
  unfold arrayTypeWith
  refine (hb.sound element he).type.bind fun e => ?_
  refine (yields_synthetic .arrayType _ rfl).bindNew fun type => ?_
  refine Moves.attach .elementType (List.Perm.refl [e]) ?_
  exact (keeps_addDimensions type brackets).bind fun _ => Moves.pure rfl

/-! ## Variables -/

/-- A variable whose tree and parts are subtrees. -/
structure Declared.Inside (v : Declared t) : Prop where
  tree : Subtree v.tree t
  annotations : ∀ p ∈ v.parts.mods.annotations, Subtree p.1 t
  type : ∀ p, v.parts.type = some p → Subtree p.1 t
  value : ∀ p, v.parts.value = some p → Subtree p.1 t

/-- A group whose members are subtrees. -/
def Group.Inside : Group t → Prop
  | .together first more => first.Inside ∧ ∀ v ∈ more, v.Inside
  | .single p => Subtree p.1 t

theorem inside_of_declared? {p : Part t} (hp : Subtree p.1 t) {v : Declared t}
    (h : declared? p = some v) : v.Inside := by
  obtain ⟨w, hw, rfl⟩ := Option.map_eq_some_iff.1 h
  cases hs : p.parts <;> simp only [hs, asVariable?, reduceCtorEq, Option.some.injEq] at hw
  subst hw
  refine ⟨hp, fun q hq => ?_, fun q hq => ?_, fun q hq => ?_⟩ <;> dsimp only at hq <;>
    exact subtree_of_partsOf hp hs (by simp [Shape.children, hq])

theorem inside_of_mem_consVariable {v : Declared t} (hv : v.Inside) {gs : List (Group t)}
    (h : ∀ g ∈ gs, g.Inside) : ∀ g ∈ consVariable v gs, g.Inside := by
  have hlone : (Group.together v []).Inside := ⟨hv, by simp⟩
  unfold consVariable
  split
  · next first more rest =>
    obtain ⟨⟨hfirst, hmore⟩, hrest⟩ := List.forall_mem_cons.1 h
    split
    · exact List.forall_mem_cons.2 ⟨⟨hv, List.forall_mem_cons.2 ⟨hfirst, hmore⟩⟩, hrest⟩
    · exact List.forall_mem_cons.2 ⟨hlone, h⟩
  · exact List.forall_mem_cons.2 ⟨hlone, h⟩

/-- Grouping subtrees gives groups of subtrees. -/
theorem inside_of_mem_groups {ps : Parts t} (h : ∀ p ∈ ps, Subtree p.1 t) :
    ∀ g ∈ groups ps, g.Inside := by
  induction ps with
  | nil => simp [groups]
  | cons p rest ih =>
    obtain ⟨hp, hrest⟩ := List.forall_mem_cons.1 h
    unfold groups
    split
    · next v hv => exact inside_of_mem_consVariable (inside_of_declared? hp hv) (ih hrest)
    · exact List.forall_mem_cons.2 ⟨hp, ih hrest⟩

theorem keeps_addModifiers (hb : Grounded K below) (owner : NodeId)
    {mods : Foreign.Modifiers (Part t)} (hm : ∀ p ∈ mods.annotations, Subtree p.1 t)
    (implied : UInt64) : Keeps K owner (addModifiers below owner mods implied) := by
  unfold addModifiers
  refine (keeps_addEach .modifiers fun p hp => (hb.sound p (hm p hp)).annotated).bind fun _ => ?_
  exact keeps_addEach .modifiers fun _ _ => yields_synthetic _ _ rfl

theorem keeps_dimensionsEnd {pre : List NodeId} (after : Int) (dims : ℕ) (limit : Int) :
    Moves K pre (dimensionsEnd after dims limit) (fun _ => pre) := by
  unfold dimensionsEnd
  refine (keeps_tokensBetween after limit).bind fun tokens => ?_
  cases dims with
  | zero => exact Moves.pure rfl
  | succ dims =>
    dsimp only
    split <;> exact Moves.pure rfl

theorem keeps_fragmentEnd {pre : List NodeId} (v : Declared t) :
    Moves K pre (fragmentEnd v) (fun _ => pre) := by
  unfold fragmentEnd
  split
  · exact Moves.pure rfl
  · exact keeps_dimensionsEnd _ _ _

theorem moves_optionalExpression (hb : Grounded K below) {p : Option (Part t)}
    (hp : ∀ q, p = some q → Subtree q.1 t) :
    Moves K [] (optionalExpression below p) (fun value => value.toList) := by
  cases p with
  | none => exact Moves.pure rfl
  | some q => exact (hb.sound q (hp q rfl)).expression.bind fun _ => Moves.pure rfl

theorem moves_addOpt (owner : NodeId) (slot : Slot) (child : Option NodeId) :
    Moves K (owner :: child.toList) (change (fun a => a.addOpt owner slot child))
      (fun _ => [owner]) := by
  cases child with
  | none => exact Moves.pure rfl
  | some child => exact moves_addChild owner slot child

theorem yields_fragment (hb : Grounded K below) {v : Declared t} (hv : v.Inside) :
    Yields K (fragment below v) := by
  unfold fragment
  refine (yields_nameAt _ _).bind fun name => ?_
  refine (moves_optionalExpression hb hv.value).bindNew fun value => ?_
  refine (keeps_fragmentEnd v).bind fun stop => ?_
  refine (yields_allocAt (hb.known v.tree hv.tree) _ _ (by rfl)).bindNew fun id => ?_
  refine Moves.attach .name (List.perm_append_singleton name value.toList) ?_
  exact (moves_addOpt id .initializer value).bind fun _ => Moves.pure rfl

theorem yields_mergedDeclaration (hb : Grounded K below) (kind : NodeKind)
    (hkind : kind.isConstructor = false) {first : Declared t} {more : List (Declared t)}
    (hg : (Group.together first more).Inside) (stop : Int) :
    Yields K (mergedDeclaration below kind first more stop) := by
  obtain ⟨hfirst, hmore⟩ := hg
  unfold mergedDeclaration
  refine (yields_allocAt (hb.known _ hfirst.tree) kind _ hkind).bind fun id => ?_
  refine (keeps_addModifiers hb id hfirst.annotations 0).bind fun _ => ?_
  refine (keeps_addOptional .type fun p hp => (hb.sound p (hfirst.type p hp)).type).bind
    fun _ => ?_
  refine (keeps_addEach .fragments fun v hv => ?_).bind fun _ => Moves.pure rfl
  exact yields_fragment hb (List.forall_mem_cons.2 ⟨hfirst, hmore⟩ v hv)

theorem yields_declaration (hb : Grounded K below) (kind : NodeKind)
    (hkind : kind.isConstructor = false) {first : Declared t} {more : List (Declared t)}
    (hg : (Group.together first more).Inside) :
    Yields K (declaration below kind first more) :=
  yields_mergedDeclaration hb kind hkind hg _

theorem keeps_expressionEnd {pre : List NodeId} (start stop : Int) :
    Moves K pre (expressionEnd start stop) (fun _ => pre) := by
  unfold expressionEnd
  refine keeps_read.bind fun ctx => ?_
  dsimp only
  split
  · refine (keeps_tokensBetween start (stop - 1)).bind fun tokens => ?_
    split <;> exact Moves.pure rfl
  · exact Moves.pure rfl

theorem yields_declarationExpression (hb : Grounded K below) {first : Declared t}
    {more : List (Declared t)} (hg : (Group.together first more).Inside) :
    Yields K (declarationExpression below first more) := by
  unfold declarationExpression
  exact (keeps_expressionEnd _ _).bind fun stop => yields_mergedDeclaration hb _ rfl hg stop

theorem yields_parameter (hb : Grounded K below) {p : Part t} (hp : Subtree p.1 t)
    (implied : UInt64) : Yields K (parameter below p implied) := by
  unfold parameter
  split
  · exact Moves.stop
  · next v hv =>
    have hin := inside_of_declared? hp hv
    refine (yields_alloc (hb.known _ hp) _ (by rfl)).bind fun id => ?_
    refine (keeps_addModifiers hb id hin.annotations implied).bind fun _ => ?_
    refine (keeps_addOptional .type fun q hq => (hb.sound q (hin.type q hq)).type).bind
      fun _ => ?_
    refine (keeps_addPart .name (yields_nameAt _ _)).bind fun _ => ?_
    refine (keeps_addOptional .initializer fun q hq => ?_).bind fun _ => Moves.pure rfl
    exact (hb.sound q (hin.value q hq)).expression

theorem yields_lambdaParameter (hb : Grounded K below) {p : Part t} (hp : Subtree p.1 t) :
    Yields K (lambdaParameter below p) := by
  unfold lambdaParameter
  split
  · refine (yields_nameAt _ _).bind fun name => ?_
    exact (yields_alloc (hb.known _ hp) _ rfl).bindNew fun id => Moves.attachLast .name
  · exact yields_parameter hb hp 0

/-! ## Blocks -/

theorem yields_groupedStatement (hb : Grounded K below) {g : Group t} (hg : g.Inside) :
    Yields K (groupedStatement below g) := by
  cases g with
  | together first more => exact yields_declaration hb _ rfl hg
  | single p => exact (hb.sound p hg).statement

theorem keeps_addStatements (hb : Grounded K below) (owner : NodeId) {ps : Parts t}
    (hps : ∀ p ∈ ps, Subtree p.1 t) : Keeps K owner (addStatements below owner ps) :=
  keeps_addEach _ fun g hg => yields_groupedStatement hb (inside_of_mem_groups hps g hg)

theorem yields_blockAt (hb : Grounded K below) {p : Part t} (hp : Subtree p.1 t) :
    Yields K (blockAt below p) := by
  unfold blockAt
  split
  · next isStatic statements h =>
    refine (yields_alloc (hb.known _ hp) .block rfl).bind fun id => ?_
    refine (keeps_addStatements hb id fun q hq => ?_).bind fun _ => Moves.pure rfl
    exact subtree_of_partsOf hp h (by simp [Shape.children, hq])
  · exact Moves.stop

end Conversion

end TreeBridge

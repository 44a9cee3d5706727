import TreeBridge.Conversion.Member
import TreeBridge.Proofs.Conversion.Fragments
/-!
# Converted members are subtrees, and constructors bear their type's name

Every conversion of a member leaves one loose root, given that the
conversions of the trees below do. A constructor is named after the type
in the context, and it becomes a member of the node that the context was
made for: the declaration of that type, or an anonymous class. So what is
below a type is settled once its members are added.
-/

namespace TreeBridge

namespace Conversion

open Binding (nameOf?)
open Foreign (Tree Shape ClassKind)
open Foreign.Tree (Part Parts Subtree)
open Unified (NodeId NodeKind Slot Arena Alike HangsBeside HasBodyOf Offers Settles)

variable {K : ℕ → Prop} {t : Tree} {below : Below t}
variable {ctx : Context} {σ σ' : State} {u : Unit} {owner : NodeId} {name : String}

/-! ## Names of declarations -/

/-- What gets its name by a part has the name that the part makes. -/
theorem nameOf?_addPart {make : Convert NodeId} (hmake : Yields K make)
    (hnamed : ∀ ⦃σ₁ n⦄, make ctx σ = .ok (n, σ₁) → σ₁.arena.identifier? n = some name)
    (howner : owner < σ.arena.size) (hempty : σ.arena.list owner .name = [])
    (hrun : addPart owner .name make ctx σ = .ok (u, σ')) :
    nameOf? σ'.arena owner = some name := by
  obtain ⟨n, σ₁, hn, hhangs, hothers⟩ := hangs_addPart hmake howner hrun
  have hlist : σ'.arena.list owner .name = [n] := by
    rw [hhangs.list_eq, hempty]
    rfl
  obtain ⟨hle, hlt⟩ := fresh_of_yields hmake hn
  have halike : Alike n σ₁.arena σ'.arena :=
    hothers.alike n hlt (Nat.ne_of_gt (Nat.lt_of_lt_of_le howner hle))
  rw [nameOf?, Arena.child?_eq_head?, hlist, List.head?_cons, Option.bind_some,
    halike.identifier?_eq, hnamed hn]

theorem identifier?_simpleName {span : Span} {n : NodeId}
    (hrun : simpleName name span ctx σ = .ok (n, σ')) : σ'.arena.identifier? n = some name := by
  obtain ⟨-, -, hkind⟩ := simpleName_eq_ok hrun
  rw [Arena.identifier?, hkind]

/-- A constructor is named after the type around it. -/
theorem identifier?_methodName {position : Int} {n : NodeId}
    (hrun : methodName constructorName position ctx σ = .ok (n, σ')) :
    σ'.arena.identifier? n = some ctx.typeName := by
  unfold methodName at hrun
  rw [if_pos rfl] at hrun
  obtain ⟨ctx', σ₁, hread, hname⟩ := bind_eq_ok.1 hrun
  cases hread
  exact identifier?_simpleName hname

/-! ## Members -/

theorem yields_typeParameter (hb : Grounded K below) {p : Part t} (hp : Subtree p.1 t) :
    Yields K (typeParameter below p) := by
  unfold typeParameter
  split
  · next name annotations bounds h =>
    refine (yields_alloc (hb.known _ hp) .typeParameter rfl).bind fun id => ?_
    refine (keeps_addEach .modifiers fun q hq => ?_).bind fun _ => ?_
    · exact (hb.sound q (subtree_of_partsOf hp h (by simp [Shape.children, hq]))).annotated
    refine (keeps_addPart .name (yields_simpleName name _)).bind fun _ => ?_
    refine (keeps_addEach .bounds fun q hq => ?_).bind fun _ => Moves.pure rfl
    exact (hb.sound q (subtree_of_partsOf hp h (by simp [Shape.children, hq]))).type
  · exact Moves.stop

theorem keeps_addTypeParameters (hb : Grounded K below) (owner : NodeId) {ps : Parts t}
    (hps : ∀ p ∈ ps, Subtree p.1 t) : Keeps K owner (addTypeParameters below owner ps) :=
  keeps_addEach _ fun p hp => yields_typeParameter hb (hps p hp)

theorem yields_methodName (name : String) (position : Int) :
    Yields K (methodName name position) := by
  unfold methodName
  split
  · exact keeps_read.bind fun _ => yields_nameAt _ _
  · exact yields_nameAt _ _

section

variable {p : Part t} {mods : Foreign.Modifiers (Part t)}
variable {typeParameters parameters thrown : Parts t}
variable {returnType body value : Option (Part t)} {dims : ℕ}

/-- The parts of a method after its name. -/
theorem moves_methodRest (hb : Grounded K below) (hp : Subtree p.1 t)
    (h : p.parts = .methodDef mods name typeParameters returnType parameters dims thrown body value)
    (id : NodeId) :
    Moves K [id] (do
      addEach id .parameters (parameters.filter (fun p => !isMalformed p))
        (fun p => parameter below p 0)
      addEach id .thrownExceptionTypes thrown (fun p => (below p).type)
      addOptional id .body body (blockAt below)
      Pure.pure id) (fun id => [id]) := by
  have hsub (q : Part t) (hq : q ∈ (Shape.methodDef mods name typeParameters returnType
      parameters dims thrown body value).children) : Subtree q.1 t :=
    subtree_of_partsOf hp h hq
  refine (keeps_addEach .parameters fun q hq => ?_).bind fun _ => ?_
  · exact yields_parameter hb
      (hsub q (by simp [Shape.children, (List.mem_filter.1 hq).1])) 0
  refine (keeps_addEach .thrownExceptionTypes fun q hq => ?_).bind fun _ => ?_
  · exact (hb.sound q (hsub q (by simp [Shape.children, hq]))).type
  refine (keeps_addOptional .body fun q hq => ?_).bind fun _ => Moves.pure rfl
  exact yields_blockAt hb (hsub q (by simp [Shape.children, hq]))

/-- All parts of a method. -/
theorem moves_methodParts (hb : Grounded K below) (hp : Subtree p.1 t)
    (h : p.parts = .methodDef mods name typeParameters returnType parameters dims thrown body value)
    (id : NodeId) :
    Moves K [id] (do
      addModifiers below id mods 0
      addTypeParameters below id typeParameters
      addOptional id .returnType returnType (fun p => (below p).type)
      addPart id .name (methodName name p.1.position)
      addEach id .parameters (parameters.filter (fun p => !isMalformed p))
        (fun p => parameter below p 0)
      addEach id .thrownExceptionTypes thrown (fun p => (below p).type)
      addOptional id .body body (blockAt below)
      Pure.pure id) (fun id => [id]) := by
  have hsub (q : Part t) (hq : q ∈ (Shape.methodDef mods name typeParameters returnType
      parameters dims thrown body value).children) : Subtree q.1 t :=
    subtree_of_partsOf hp h hq
  refine (keeps_addModifiers hb id (fun q hq => ?_) 0).bind fun _ => ?_
  · exact hsub q (by simp [Shape.children, hq])
  refine (keeps_addTypeParameters hb id fun q hq => ?_).bind fun _ => ?_
  · exact hsub q (by simp [Shape.children, hq])
  refine (keeps_addOptional .returnType fun q hq => ?_).bind fun _ => ?_
  · exact (hb.sound q (hsub q (by simp [Shape.children, hq]))).type
  refine (keeps_addPart .name (yields_methodName name _)).bind fun _ => ?_
  exact moves_methodRest hb hp h id

/-- Nothing that a method gets before its name hangs from the slot of the
name. -/
theorem beside_methodHead (hb : Grounded K below) (hp : Subtree p.1 t)
    (h : p.parts = .methodDef mods name typeParameters returnType parameters dims thrown body value)
    {id : NodeId} {σ₁ σ₂ σ₃ σ₄ : State} {u₁ u₂ u₃ : Unit} (hid : id < σ₁.arena.size)
    (hmods : addModifiers below id mods 0 ctx σ₁ = .ok (u₁, σ₂))
    (hparams : addTypeParameters below id typeParameters ctx σ₂ = .ok (u₂, σ₃))
    (hreturn : addOptional id .returnType returnType (fun p => (below p).type) ctx σ₃ =
      .ok (u₃, σ₄)) : HangsBeside .name id σ₁.arena σ₄.arena := by
  have hsub (q : Part t) (hq : q ∈ (Shape.methodDef mods name typeParameters returnType
      parameters dims thrown body value).children) : Subtree q.1 t :=
    subtree_of_partsOf hp h hq
  have h₁₂ : HangsBeside .name id σ₁.arena σ₂.arena :=
    beside_addModifiers hb (fun q hq => hsub q (by simp [Shape.children, hq])) hid hmods
      (by decide)
  have h₁₃ := h₁₂.andThen hid fun hid => beside_addEach (fun q hq => yields_typeParameter hb
    (hsub q (by simp [Shape.children, hq]))) hid hparams (by decide)
  exact h₁₃.andThen hid fun hid => beside_addOptional (fun q hq => (hb.sound q
    (hsub q (by simp [Shape.children, hq]))).type) hid hreturn (by decide)

end

/-- A method is not settled before it is a member. -/
theorem steps_method (hb : Grounded K below) {p : Part t} (hp : Subtree p.1 t) :
    Steps K [] (method below p) (fun id => [id]) := by
  unfold method
  split
  · next h =>
    exact (steps_allocAt (hb.known _ hp) _ _).bind fun id => (moves_methodParts hb hp h id).toSteps
  · exact Steps.stop

/-- What is converted to a method declares one. -/
theorem methodDef_or_unsupported (below : Below t) (p : Part t) :
    (∃ mods name typeParameters returnType parameters dims thrown body value,
      p.parts = .methodDef mods name typeParameters returnType parameters dims thrown body value) ∨
      method below p = unsupported p.1 := by
  unfold method
  split
  · next h => exact Or.inl ⟨_, _, _, _, _, _, _, _, _, h⟩
  · exact Or.inr rfl

/-- **A constructor is offered as a member** of the type around it, under
the name of that type. -/
theorem offers_method (hb : Grounded K below) {p : Part t} (hp : Subtree p.1 t) {id : NodeId}
    (hrun : method below p ctx σ = .ok (id, σ')) :
    Offers ctx.typeName (some id) σ.arena σ'.arena := by
  rcases methodDef_or_unsupported below p with ⟨mods, name, typeParameters,
    returnType, parameters, dims, thrown, body, value, h⟩ | hstop
  · unfold method at hrun
    rw [h] at hrun
    dsimp only at hrun
    obtain ⟨id, σ₁, hid, hparts⟩ := bind_eq_ok.1 hrun
    obtain ⟨_, σ₂, hmods, hrun⟩ := bind_eq_ok.1 hparts
    obtain ⟨_, σ₃, hparams, hrun⟩ := bind_eq_ok.1 hrun
    obtain ⟨_, σ₄, hreturn, hrun⟩ := bind_eq_ok.1 hrun
    obtain ⟨_, σ₅, hname, hrest⟩ := bind_eq_ok.1 hrun
    obtain ⟨_, _, -, hrun⟩ := bind_eq_ok.1 hrest
    obtain ⟨_, _, -, hrun⟩ := bind_eq_ok.1 hrun
    obtain ⟨_, _, -, hrun⟩ := bind_eq_ok.1 hrun
    obtain ⟨rfl, -⟩ := pure_eq_ok.1 hrun
    have hmakes := (steps_allocAt (hb.known _ hp) _ _).enlarges hid
    have hsettles := (moves_methodParts hb hp h id).settles hparts
    have hkept := (moves_methodRest hb hp h id).enlarges hrest
    have hsize := size_of_allocAt hid
    obtain ⟨rfl, hid₁, hnode⟩ := allocAt_eq_ok hid
    have h₁₄ := beside_methodHead hb hp h hid₁ hmods hparams hreturn
    have hid₄ := Nat.lt_of_lt_of_le hid₁ h₁₄.touches.size_le
    have hempty : σ₄.arena.list σ.arena.size .name = [] := by
      rw [h₁₄.list_eq, list_of_allocAt hid]
    have hnamed (hconstructor : name = constructorName) :
        nameOf? σ₅.arena σ.arena.size = some ctx.typeName := by
      subst hconstructor
      exact nameOf?_addPart (yields_methodName (K := K) _ _) (fun _ _ => identifier?_methodName)
        hid₄ hempty hname
    refine ⟨hmakes.trans hsettles.toEnlarges, fun i hi hc => ?_⟩
    rcases Nat.eq_or_lt_of_le hi with rfl | hlt
    · rw [hsettles.kind _ hid₁, Arena.kind, hnode] at hc
      exact Or.inr ⟨rfl, hkept.nameOf?_eq_some (hnamed (beq_iff_eq.1 hc))⟩
    · exact Or.inl (hsettles.settled i (hsize ▸ hlt) hc)
  · rw [hstop] at hrun
    cases hrun

theorem yields_annotationMember (hb : Grounded K below) {p : Part t} (hp : Subtree p.1 t) :
    Yields K (annotationMember below p) := by
  unfold annotationMember
  split
  · next mods name typeParameters returnType parameters dims thrown body value h =>
    refine (yields_alloc (hb.known _ hp) _ (by rfl)).bind fun id => ?_
    refine (keeps_addModifiers hb id (fun q hq => ?_) 0).bind fun _ => ?_
    · exact subtree_of_partsOf hp h (by simp [Shape.children, hq])
    refine (keeps_addOptional .type fun q hq => ?_).bind fun _ => ?_
    · exact (hb.sound q (subtree_of_partsOf hp h (by simp [Shape.children, hq]))).type
    refine (keeps_addPart .name (yields_nameAt name _)).bind fun _ => ?_
    refine (keeps_addOptional .default fun q hq => ?_).bind fun _ => Moves.pure rfl
    exact (hb.sound q (subtree_of_partsOf hp h (by simp [Shape.children, hq]))).expression
  · exact Moves.stop

theorem yields_initializer (hb : Grounded K below) {p : Part t} (hp : Subtree p.1 t)
    (isStatic : Bool) {statements : Parts t} (hs : ∀ q ∈ statements, Subtree q.1 t) :
    Yields K (initializer below p isStatic statements) := by
  unfold initializer
  refine (yields_alloc (hb.known _ hp) .initializer rfl).bind fun id => ?_
  -- the body is the same with and without the modifier before it
  have hrest (start : Option Lexical.Token → Int) : Moves K [id] (do
      let brace ← findToken? "\x7b" p.1.start p.1.stop
      let body ← allocAt p.1 .block (.ofBounds (start brace) p.1.stop)
      addStatements below body statements
      addChild id .body body
      Pure.pure id) (fun id => [id]) := by
    refine (keeps_findToken? _ _ _).bind fun brace => ?_
    refine (yields_allocAt (hb.known _ hp) .block _ rfl).bindNew fun body => ?_
    refine ((keeps_addStatements hb body hs).frame [id]).bind fun _ => ?_
    exact ((moves_addChild id .body body).permute (List.Perm.swap id body [])
      (fun _ => List.Perm.refl _)).bind fun _ => Moves.pure rfl
  dsimp only
  split
  · exact (keeps_addPart .modifiers (yields_synthetic _ _ rfl)).bind fun _ => hrest _
  · exact hrest _

/-- A conversion that makes a member or none. What it makes is loose, and
what it offers is the constructor it makes, if it makes one. -/
structure MakesMember (K : ℕ → Prop) (m : Convert (Option NodeId)) : Prop
    extends Steps K [] m (fun id => id.toList) where
  offers : ∀ ⦃ctx : Context⦄ ⦃σ σ' : State⦄ ⦃id : Option NodeId⦄, m ctx σ = .ok (id, σ') →
    Offers ctx.typeName id σ.arena σ'.arena

/-- A conversion that settles what it makes has nothing to offer. -/
theorem makesMember_of_moves {m : Convert (Option NodeId)}
    (h : Moves K [] m (fun id => id.toList)) : MakesMember K m :=
  ⟨h.toSteps, fun _ _ _ id hrun => (h.settles hrun).offers _ id⟩

theorem makesMember_of_yields {m : Convert NodeId} (h : Yields K m) :
    MakesMember K (do Pure.pure (some (← m))) :=
  makesMember_of_moves (h.bind fun _ => Moves.pure rfl)

theorem makesMember_method (hb : Grounded K below) {p : Part t} (hp : Subtree p.1 t) :
    MakesMember K (do Pure.pure (some (← method below p))) where
  toSteps := (steps_method hb hp).bind fun _ => Steps.pure rfl
  offers ctx σ σ' id hrun := by
    obtain ⟨i, σ₁, hmethod, hpure⟩ := bind_eq_ok.1 hrun
    obtain ⟨rfl, rfl⟩ := pure_eq_ok.1 hpure
    exact offers_method hb hp hmethod

theorem makesMember_member? (hb : Grounded K below) (classKind : ClassKind) {p : Part t}
    (hp : Subtree p.1 t) : MakesMember K (member? below classKind p) := by
  unfold member?
  split
  · exact makesMember_of_yields (hb.sound p hp).typeDeclaration
  · split
    · exact makesMember_of_moves (Moves.pure rfl)
    · split
      · exact makesMember_of_yields (yields_annotationMember hb hp)
      · exact makesMember_method hb hp
  · next isStatic statements h =>
    refine makesMember_of_yields (yields_initializer hb hp isStatic fun q hq => ?_)
    exact subtree_of_partsOf hp h (by simp [Shape.children, hq])
  · exact makesMember_of_moves (Moves.pure rfl)
  · exact makesMember_of_moves (Moves.pure rfl)
  · exact makesMember_of_moves Moves.stop

theorem makesMember_groupedMember? (hb : Grounded K below) (classKind : ClassKind)
    {g : Group t} (hg : g.Inside) : MakesMember K (groupedMember? below classKind g) := by
  cases g with
  | together first more => exact makesMember_of_yields (yields_declaration hb _ rfl hg)
  | single p => exact makesMember_member? hb classKind hg

theorem steps_addMembers (hb : Grounded K below) (owner : NodeId) (classKind : ClassKind)
    {ps : Parts t} (hps : ∀ p ∈ ps, Subtree p.1 t) :
    Steps K [owner] (addMembers below owner classKind ps) (fun _ => [owner]) := by
  refine Steps.forM fun g hg => ?_
  have hmember := makesMember_groupedMember? hb classKind (inside_of_mem_groups hps g hg)
  refine hmember.toSteps.bindNew fun id => ?_
  cases id with
  | none => exact Steps.pure rfl
  | some id =>
    exact ((moves_addChild owner _ id).permute (List.Perm.swap owner id [])
      (fun _ => List.Perm.refl _)).toSteps

/-- **The members of a body are settled** if the body is that of the type
around them. -/
theorem settles_addMembers (hb : Grounded K below) {classKind : ClassKind} {ps : Parts t}
    (hps : ∀ p ∈ ps, Subtree p.1 t) (howner : HasBodyOf σ.arena owner ctx.typeName)
    (hrun : addMembers below owner classKind ps ctx σ = .ok (u, σ')) :
    Settles σ.arena σ'.arena := by
  have hin := inside_of_mem_groups hps
  unfold addMembers at hrun
  -- one group after the other; the owner keeps the body of its type
  generalize groups ps = gs at hin hrun
  induction gs generalizing σ with
  | nil =>
    obtain ⟨-, rfl⟩ := pure_eq_ok.1 hrun
    exact Settles.refl σ.arena
  | cons g gs ih =>
    obtain ⟨_, σ₂, hfirst, hrest⟩ := bind_eq_ok.1 hrun
    obtain ⟨hg, hgs⟩ := List.forall_mem_cons.1 hin
    obtain ⟨id, σ₁, hmember, hadd⟩ := bind_eq_ok.1 hfirst
    have hoffers := (makesMember_groupedMember? hb classKind hg).offers hmember
    have hstep : Settles σ.arena σ₂.arena := by
      cases id with
      | none =>
        obtain ⟨-, rfl⟩ := pure_eq_ok.1 hadd
        exact hoffers.settles
      | some id =>
        cases hadd
        exact hoffers.settlesMember (howner.enlarged hoffers.toEnlarges)
    exact hstep.trans (ih (howner.enlarged hstep.toEnlarges) hgs hrest)

theorem yields_anonymousClass (hb : Grounded K below) {p : Part t} (hp : Subtree p.1 t) :
    Yields K (anonymousClass below p) := by
  unfold anonymousClass
  split
  · next h =>
    rename_i mods name extending typeParameters implementing permitting members
    have hsub (q : Part t) (hq : q ∈ members) : Subtree q.1 t :=
      subtree_of_partsOf hp h (by simp [Shape.children, hq])
    have hmake (span : Span) : Yields K (allocAt p.1 .anonymousClassDeclaration span) :=
      yields_allocAt (hb.known _ hp) _ span (by rfl)
    refine ⟨(hmake _).toSteps.bind fun id => ?_, fun ctx σ σ' i hrun => ?_⟩
    · exact (steps_addMembers hb id _ hsub).withReader.bind fun _ => Steps.pure rfl
    · obtain ⟨id, σ₁, hid, hrun⟩ := bind_eq_ok.1 hrun
      obtain ⟨_, σ₂, hmembers, hrun⟩ := bind_eq_ok.1 hrun
      obtain ⟨rfl, rfl⟩ := pure_eq_ok.1 hrun
      refine ((hmake _).settles hid).trans (settles_addMembers hb hsub ?_ hmembers)
      obtain ⟨-, -, hnode⟩ := allocAt_eq_ok hid
      exact .anonymous (by rw [Arena.kind, hnode])
  · exact Moves.stop

theorem keeps_addConstantValue (hb : Grounded K below) (owner : NodeId)
    {value : Option (Part t)} (hv : ∀ p, value = some p → Subtree p.1 t) :
    Keeps K owner (addConstantValue below owner value) := by
  unfold addConstantValue
  split
  · exact Moves.pure rfl
  · next p =>
    split
    · next h =>
      have hp := hv p rfl
      refine (keeps_addArguments hb owner fun q hq => ?_).bind fun _ => ?_
      · exact subtree_of_partsOf hp h (by simp [Shape.children, hq])
      refine keeps_addOptional _ fun q hq => yields_anonymousClass hb ?_
      exact subtree_of_partsOf hp h (by simp [Shape.children, hq])
    · exact Moves.pure rfl

theorem yields_enumConstant (hb : Grounded K below) {p : Part t} (hp : Subtree p.1 t) :
    Yields K (enumConstant below p) := by
  unfold enumConstant
  split
  · exact Moves.stop
  · next v hv =>
    have hin := inside_of_declared? hp hv
    refine (yields_alloc (hb.known _ hp) _ (by rfl)).bind fun id => ?_
    refine (keeps_addModifiers hb id hin.annotations _).bind fun _ => ?_
    refine (keeps_addPart .name (yields_nameAt _ _)).bind fun _ => ?_
    exact (keeps_addConstantValue hb id hin.value).bind fun _ => Moves.pure rfl

theorem keeps_addHeadMembers (hb : Grounded K below) (owner : NodeId) (classKind : ClassKind)
    {ps : Parts t} (hps : ∀ p ∈ ps, Subtree p.1 t) :
    Keeps K owner (addHeadMembers below owner classKind ps) := by
  refine keeps_forM fun p hp => ?_
  split
  · exact keeps_addPart _ (yields_enumConstant hb (hps p hp))
  · split
    · exact keeps_addPart _ (yields_parameter hb (hps p hp) _)
    · exact Moves.pure rfl

theorem keeps_addPermitted (hb : Grounded K below) (owner : NodeId) {ps : Parts t}
    (hps : ∀ p ∈ ps, Subtree p.1 t) : Keeps K owner (addPermitted below owner ps) := by
  unfold addPermitted
  refine keeps_read.bind fun ctx => ?_
  split
  · exact keeps_addEach _ fun p hp => (hb.sound p (hps p hp)).type
  · exact Moves.pure rfl

theorem isTypeDeclaration_typeKind (classKind : ClassKind) :
    (typeKind classKind).isTypeDeclaration = true := by
  cases classKind <;> rfl

theorem isConstructor_typeKind (classKind : ClassKind) :
    (typeKind classKind).isConstructor = false := by
  cases classKind <;> rfl

theorem beside_addPermitted (hb : Grounded K below) {owner : NodeId} {ps : Parts t}
    (hps : ∀ p ∈ ps, Subtree p.1 t) {ctx : Context} {σ σ' : State} {u : Unit}
    (howner : owner < σ.arena.size) (hrun : addPermitted below owner ps ctx σ = .ok (u, σ'))
    {slot : Slot} (hne : .permittedTypes ≠ slot) :
    HangsBeside slot owner σ.arena σ'.arena := by
  obtain ⟨ctx', σ₁, hread, hrest⟩ := bind_eq_ok.1 hrun
  cases hread
  revert hrest
  split
  · intro hrest
    exact beside_addEach (fun p hp => (hb.sound p (hps p hp)).type) howner hrest hne
  · intro hrest
    obtain ⟨-, rfl⟩ := pure_eq_ok.1 hrest
    exact HangsBeside.refl _ owner σ.arena

theorem beside_addHeadMembers (hb : Grounded K below) {owner : NodeId} {classKind : ClassKind}
    {ps : Parts t} (hps : ∀ p ∈ ps, Subtree p.1 t) {ctx : Context} {σ σ' : State} {u : Unit}
    (howner : owner < σ.arena.size)
    (hrun : addHeadMembers below owner classKind ps ctx σ = .ok (u, σ')) {slot : Slot}
    (hconstants : .enumConstants ≠ slot) (hcomponents : .recordComponents ≠ slot) :
    HangsBeside slot owner σ.arena σ'.arena := by
  refine beside_forM (fun p hp σ σ' u ho hstep => ?_) howner hrun
  by_cases hconstant : isEnumConstant classKind p
  · rw [if_pos hconstant] at hstep
    exact beside_addPart (yields_enumConstant hb (hps p hp)) ho hstep hconstants
  · rw [if_neg hconstant] at hstep
    by_cases hcomponent : isComponent classKind p
    · rw [if_pos hcomponent] at hstep
      exact beside_addPart (yields_parameter hb (hps p hp) _) ho hstep hcomponents
    · rw [if_neg hcomponent] at hstep
      obtain ⟨-, rfl⟩ := pure_eq_ok.1 hstep
      exact HangsBeside.refl _ owner σ.arena

/-- A declaration of a type is made, gets its head, and then its members
in the context of its name. Nothing of the head is a member. -/
theorem typeDeclaration_eq_ok (hb : Grounded K below) {ctx : Context} {σ σ' : State}
    {d : NodeId} (hrun : typeDeclaration below ctx σ = .ok (d, σ')) :
    ∃ mods name classKind typeParameters extending implementing permitting members σ₁,
      t.parts = .classDef mods name classKind typeParameters extending implementing permitting
        members ∧ d = σ.arena.size ∧ d < σ₁.arena.size ∧
      σ₁.arena.kind d = typeKind classKind ∧ σ₁.arena.list d .bodyDeclarations = [] ∧
      σ₁.arena.defaultFlags = σ.arena.defaultFlags ∧ Settles σ.arena σ₁.arena ∧
      HasBodyOf σ₁.arena d name ∧
      addMembers below d classKind (bodyMembers classKind members)
        { ctx with typeName := name } σ₁ = .ok ((), σ') := by
  have hshape : (∃ mods name classKind typeParameters extending implementing permitting members,
      t.parts = .classDef mods name classKind typeParameters extending implementing permitting
        members) ∨ typeDeclaration below = unsupported t := by
    unfold typeDeclaration
    split
    · next h => exact Or.inl ⟨_, _, _, _, _, _, _, _, h⟩
    · exact Or.inr rfl
  rcases hshape with ⟨mods, name, classKind, typeParameters, extending, implementing, permitting,
    members, h⟩ | hstop
  · have hsub (q : Part t) (hq : q ∈ (Shape.classDef mods name classKind typeParameters
        extending implementing permitting members).children) : Subtree q.1 t :=
      subtree_of_parts h hq
    unfold typeDeclaration at hrun
    rw [h] at hrun
    dsimp only at hrun
    obtain ⟨d, σ₁, hd, hrun⟩ := bind_eq_ok.1 hrun
    obtain ⟨_, σ₂, hmods, hrun⟩ := bind_eq_ok.1 hrun
    obtain ⟨_, σ₃, hname, hrun⟩ := bind_eq_ok.1 hrun
    obtain ⟨_, σ₄, hparams, hrun⟩ := bind_eq_ok.1 hrun
    obtain ⟨_, σ₅, hsuper, hrun⟩ := bind_eq_ok.1 hrun
    obtain ⟨_, σ₆, hinter, hrun⟩ := bind_eq_ok.1 hrun
    obtain ⟨_, σ₇, hpermit, hrun⟩ := bind_eq_ok.1 hrun
    obtain ⟨_, σ₈, hinside, hrun⟩ := bind_eq_ok.1 hrun
    obtain ⟨rfl, rfl⟩ := pure_eq_ok.1 hrun
    have hbody : (addHeadMembers below d classKind members >>= fun _ =>
        addMembers below d classKind (bodyMembers classKind members))
        { ctx with typeName := name } σ₇ = .ok ((), σ₈) := hinside
    obtain ⟨_, σ', hhead, hmembers⟩ := bind_eq_ok.1 hbody
    obtain ⟨rfl, hd₁, hnode⟩ := allocAt_eq_ok hd
    have hmake := yields_alloc hb.root _ (isConstructor_typeKind classKind)
    have hflags₁ := (hmake.touches hd).defaultFlags
    -- the parts of the head hang from slots of their own, not from that of the members
    have hbefore : Settles σ₁.arena σ₃.arena :=
      ((keeps_addModifiers hb _ (fun q hq => hsub q (by simp [Shape.children, hq])) 0).settles
        hmods).trans
      ((keeps_addPart (K := K) .name (yields_simpleName name _)).settles hname)
    have hafter : Settles σ₃.arena σ'.arena :=
      (((((keeps_addTypeParameters hb _ fun q hq =>
        hsub q (by simp [Shape.children, hq])).settles hparams).trans
      ((keeps_addOptional .superclassType fun q hq =>
        (hb.sound q (hsub q (by simp [Shape.children, hq]))).type).settles hsuper)).trans
      ((keeps_addEach .superInterfaceTypes fun q hq =>
        (hb.sound q (hsub q (by simp [Shape.children, hq]))).type).settles hinter)).trans
      ((keeps_addPermitted hb _ fun q hq =>
        hsub q (by simp [Shape.children, hq])).settles hpermit)).trans
      ((keeps_addHeadMembers hb _ _ fun q hq =>
        hsub q (by simp [Shape.children, hq])).settles hhead)
    have hmodsName : HangsBeside .name σ.arena.size σ₁.arena σ₂.arena :=
      beside_addModifiers hb (fun q hq => hsub q (by simp [Shape.children, hq])) hd₁ hmods
        (by decide)
    have h₁₂ : HangsBeside .bodyDeclarations σ.arena.size σ₁.arena σ₂.arena :=
      beside_addModifiers hb (fun q hq => hsub q (by simp [Shape.children, hq])) hd₁ hmods
        (by decide)
    have h₁₃ := h₁₂.andThen hd₁ fun hd =>
      beside_addPart (K := K) (yields_simpleName name _) hd hname (by decide)
    have h₁₄ := h₁₃.andThen hd₁ fun hd => beside_addEach (fun q hq => yields_typeParameter hb
      (hsub q (by simp [Shape.children, hq]))) hd hparams (by decide)
    have h₁₅ := h₁₄.andThen hd₁ fun hd => beside_addOptional (fun q hq => (hb.sound q
      (hsub q (by simp [Shape.children, hq]))).type) hd hsuper (by decide)
    have h₁₆ := h₁₅.andThen hd₁ fun hd => beside_addEach (fun q hq => (hb.sound q
      (hsub q (by simp [Shape.children, hq]))).type) hd hinter (by decide)
    have h₁₇ := h₁₆.andThen hd₁ fun hd => beside_addPermitted hb (fun q hq =>
      hsub q (by simp [Shape.children, hq])) hd hpermit (by decide)
    have h₁₈ := h₁₇.andThen hd₁ fun hd => beside_addHeadMembers hb (fun q hq =>
      hsub q (by simp [Shape.children, hq])) hd hhead (by decide) (by decide)
    have hkind : σ'.arena.kind σ.arena.size = typeKind classKind := by
      rw [h₁₈.touches.kind _ hd₁, Arena.kind, hnode]
    have hnamed : nameOf? σ₃.arena σ.arena.size = some name := by
      refine nameOf?_addPart (yields_simpleName (K := K) name _)
        (fun _ _ => identifier?_simpleName) (Nat.lt_of_lt_of_le hd₁ hmodsName.touches.size_le) ?_
        hname
      rw [hmodsName.list_eq, list_of_allocAt hd]
    refine ⟨mods, name, classKind, typeParameters, extending, implementing, permitting, members,
      σ', h, rfl, Nat.lt_of_lt_of_le hd₁ h₁₈.touches.size_le, hkind, ?_, ?_, ?_, ?_, hmembers⟩
    · rw [h₁₈.list_eq, list_of_allocAt hd]
    · rw [h₁₈.touches.defaultFlags, hflags₁]
    · exact (hmake.settles hd).trans (hbefore.trans hafter)
    · exact .declared (by rw [hkind, isTypeDeclaration_typeKind])
        (hafter.toEnlarges.nameOf?_eq_some hnamed)
  · rw [hstop] at hrun
    cases hrun

theorem yields_typeDeclaration (hb : Grounded K below) : Yields K (typeDeclaration below) where
  toSteps := by
    unfold typeDeclaration
    split
    · next mods name classKind typeParameters extending implementing permitting members h =>
      have hsub (q : Part t) (hq : q ∈ (Shape.classDef mods name classKind typeParameters
          extending implementing permitting members).children) : Subtree q.1 t :=
        subtree_of_parts h hq
      refine (steps_allocAt hb.root _ _).bind fun id => ?_
      refine (keeps_addModifiers hb id (fun q hq => ?_) 0).toSteps.bind fun _ => ?_
      · exact hsub q (by simp [Shape.children, hq])
      refine (keeps_addPart .name (yields_simpleName name _)).toSteps.bind fun _ => ?_
      refine (keeps_addTypeParameters hb id fun q hq => ?_).toSteps.bind fun _ => ?_
      · exact hsub q (by simp [Shape.children, hq])
      refine (keeps_addOptional .superclassType fun q hq => ?_).toSteps.bind fun _ => ?_
      · exact (hb.sound q (hsub q (by simp [Shape.children, hq]))).type
      refine (keeps_addEach .superInterfaceTypes fun q hq => ?_).toSteps.bind fun _ => ?_
      · exact (hb.sound q (hsub q (by simp [Shape.children, hq]))).type
      refine (keeps_addPermitted hb id fun q hq => ?_).toSteps.bind fun _ => ?_
      · exact hsub q (by simp [Shape.children, hq])
      have hmembers (q : Part t) (hq : q ∈ members) : Subtree q.1 t :=
        hsub q (by simp [Shape.children, hq])
      refine (Steps.withReader ?_).bind fun _ => Steps.pure rfl
      refine (keeps_addHeadMembers hb id classKind hmembers).toSteps.bind fun _ => ?_
      exact steps_addMembers hb id classKind fun q hq => hmembers q (List.mem_filter.1 hq).1
    · exact Steps.stop
  settles ctx σ σ' d hrun := by
    obtain ⟨mods, name, classKind, typeParameters, extending, implementing, permitting, members,
      σ₁, h, -, -, -, -, -, hhead, hbody, hmembers⟩ := typeDeclaration_eq_ok hb hrun
    refine hhead.trans (settles_addMembers hb (fun q hq => ?_) hbody hmembers)
    exact subtree_of_parts h (by simp [Shape.children, (List.mem_filter.1 hq).1])

end Conversion

end TreeBridge

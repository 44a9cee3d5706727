import TreeBridge.Lowering.Declaration
import TreeBridge.Proofs.Lowering.Reports
/-!
# Reading names, types and declarations

Names, annotations and types settle no report by themselves; a
declaration other than an enum constant settles. If the actions on the
parts of a node are orderly, so is every way to read the node.
-/

namespace TreeBridge

namespace Lowering

open Concrete (Node Kind Field)
open Concrete.Node (Part Parts)

/-- The actions on a node each settle from every state, or from none. -/
structure Actions.Steady (a : Actions) : Prop where
  expression : Orderly a.expression
  type : Orderly a.type
  name : Orderly a.name
  annotated : Orderly a.annotated
  element : Orderly a.element
  initial : Orderly a.initial
  pattern : Orderly a.pattern
  statements : Orderly a.statements
  members : Orderly a.members
  typeDeclaration : Orderly a.typeDeclaration
  malformed : Orderly a.malformed

variable {s : Source} {n : Node} {below : Below n}

/-! ## Parts -/

/-- A step that makes one tree is a step that makes a list of one. -/
theorem orderly_one {m : Build Foreign.Tree} (h : Orderly m) : Orderly (do pure [← m]) := by
  obtain ⟨_, hm⟩ := h
  exact ⟨_, hm.bind fun _ => .pure _⟩

theorem makes_placeholder (offset : Int) : Makes false (placeholder offset) :=
  .make _ _ _ _

theorem makes_makeIdent (offset : Int) (name : String) : Makes false (makeIdent offset name) :=
  .make _ _ _ _

theorem makes_makeOver (m : Node) (position : Int) (shape : Foreign.Shape Foreign.Tree) :
    Makes false (makeOver m position shape) :=
  .make _ _ _ _

theorem makes_spanning (m : Node) (shape : Foreign.Shape Foreign.Tree) :
    Makes false (spanning m shape) :=
  .make _ _ _ _

section

variable {read : Actions → Build Foreign.Tree} (hr : ∀ p : Part n, Orderly (read (below p)))
include hr

theorem orderly_orPlaceholder (p : Option (Part n)) (offset : Int) :
    Orderly (orPlaceholder below p offset read) := by
  cases p with
  | none => exact ⟨_, (makes_placeholder offset).reads⟩
  | some p => exact hr p

theorem orderly_optional (p : Option (Part n)) : Orderly (optional below p read) := by
  cases p with
  | none => exact ⟨_, .pure _⟩
  | some p =>
    obtain ⟨_, hp⟩ := hr p
    exact ⟨_, hp.bind fun _ => .pure _⟩

theorem orderly_each (ps : Parts n) : Orderly (each below ps read) :=
  orderly_mapM fun p _ => hr p

theorem orderly_eachOf (p : Option (Part n)) : Orderly (eachOf below p read) := by
  cases p with
  | none => exact ⟨_, .pure _⟩
  | some p => exact orderly_each hr _

end

section

variable (hb : ∀ p, (below p).Steady)
include hb

theorem orderly_requiredExpression (f : Field) : Orderly (requiredExpression below f) :=
  orderly_orPlaceholder (fun p => (hb p).expression) _ _

theorem orderly_firstExpression (ps : Parts n) (stop : Int) :
    Orderly (firstExpression below ps stop) :=
  orderly_orPlaceholder (fun p => (hb p).expression) _ _

theorem orderly_malformed : Orderly (malformed below) := by
  obtain ⟨_, hparts⟩ : Orderly (gather (fun p =>
      if p.kind.isStatement then (below p).statements
      else if p.kind.isExpression then do pure [← (below p).expression]
      else pure []) n.parts.named) := by
    refine orderly_gather fun p _ => ?_
    split
    · exact (hb p).statements
    split
    · exact orderly_one (hb p).expression
    · exact ⟨_, .pure _⟩
  exact ⟨_, hparts.bind fun _ => (makes_spanning _ _).reads⟩

theorem orderly_unsupported (code message : String) :
    Orderly (unsupported below code message) := by
  obtain ⟨_, hm⟩ := orderly_malformed hb
  exact ⟨_, hm.bind fun _ => (reads_report _).bind fun _ => .pure _⟩

/-! ## Names and annotations -/

omit hb in
theorem orderly_identifier (m : Node) : Orderly (identifier s m) :=
  ⟨_, (makes_spanning _ _).reads⟩

theorem orderly_scopedName : Orderly (scopedName s below) := by
  unfold scopedName
  split
  · next scope last _ _ =>
    obtain ⟨_, hscope⟩ := (hb scope).name
    exact ⟨_, hscope.bind fun _ => (makes_makeOver _ _ _).reads⟩
  · exact orderly_malformed hb

theorem orderly_elementPair (pair : Part n) : Orderly (elementPair below pair) := by
  obtain ⟨_, hleft⟩ := orderly_orPlaceholder (fun p => (hb p).name) (pair.parts.field? .key)
    pair.start
  obtain ⟨_, hright⟩ := orderly_orPlaceholder (fun p => (hb p).element)
    (pair.parts.field? .value) pair.stop
  exact ⟨_, hleft.bind fun _ => hright.bind fun _ => (makes_makeOver _ _ _).reads⟩

theorem orderly_annotated : Orderly (annotated below) := by
  obtain ⟨_, htype⟩ := orderly_orPlaceholder (fun p => (hb p).name) (n.parts.field? .name) n.start
  have harguments : Orderly ((((n.parts.field? .arguments).map fun p => p.parts.named).getD
      []).mapM fun p : Part n =>
        if p.kind = .elementValuePair then elementPair below p else (below p).element) := by
    refine orderly_mapM fun p _ => ?_
    split
    · exact orderly_elementPair hb p
    · exact (hb p).element
  obtain ⟨_, harguments⟩ := harguments
  exact ⟨_, htype.bind fun _ => harguments.bind fun _ => (makes_spanning _ _).reads⟩

theorem orderly_elementArray : Orderly (elementArray below) := by
  obtain ⟨_, helements⟩ := orderly_each (fun p => (hb p).element) n.parts.named
  exact ⟨_, helements.bind fun _ => (makes_spanning _ _).reads⟩

/-! ## Modifiers -/

theorem orderly_addModifier (p : Part n) :
    ∃ b, ∀ mods, Reads b (addModifier s below mods p) := by
  unfold addModifier
  split
  · obtain ⟨b, ha⟩ := (hb p).annotated
    exact ⟨_, fun _ => ha.bind fun _ => .pure _⟩
  split
  · exact ⟨_, fun _ => .pure _⟩
  split
  · exact ⟨_, fun _ => .pure _⟩
  · refine ⟨false, fun mods => ?_⟩
    dsimp only
    split
    · exact (reads_reportUnsettled _).bind fun _ => .pure _
    · exact .pure _

omit hb in
theorem reads_reportAccess (p : Part n) (mods : Foreign.Modifiers Foreign.Tree) :
    Reads false (reportAccess p mods) := by
  unfold reportAccess
  split
  · exact reads_reportUnsettled _
  · exact .pure _

theorem orderly_modifiersAfter (p : Part n) (ps : Parts n) :
    ∃ b, ∀ mods, Reads b (modifiersAfter s below p mods ps) := by
  obtain ⟨b, hps⟩ := orderly_foldlM (fun q (_ : q ∈ ps) => orderly_addModifier (s := s) hb q)
  exact ⟨_, fun mods => (hps mods).bind fun _ => (reads_reportAccess p _).bind fun _ => .pure _⟩

theorem orderly_modifiersOf (ps : Parts n) : Orderly (modifiersOf s below ps) := by
  unfold modifiersOf modifiers
  split
  · exact ⟨_, .pure _⟩
  · next p _ =>
    obtain ⟨b, hp⟩ := orderly_modifiersAfter hb (s := s) p p.parts
    exact ⟨b, hp _⟩

end

/-- The rest of a declaration: it makes its tree whatever the modifiers
are, and settles or not whatever they are. -/
def Rest (rest : Foreign.Modifiers Foreign.Tree → Build Foreign.Tree) : Prop :=
  ∃ b, ∀ mods, Makes b (rest mods)

theorem orderly_declaring (hb : ∀ p, (below p).Steady) (ps : Parts n) (settles : Bool)
    {rest : Foreign.Modifiers Foreign.Tree → Build Foreign.Tree} (hrest : Rest rest) :
    Orderly (declaring s below ps settles rest) := by
  obtain ⟨_, hmods⟩ := orderly_modifiersOf hb (s := s) ps
  obtain ⟨_, hrest⟩ := hrest
  unfold declaring
  cases settles with
  | true => exact ⟨_, hmods.bind fun mods => (hrest mods).settled⟩
  | false => exact ⟨_, hmods.bind fun mods => (hrest mods).reads⟩

section

variable (hb : ∀ p, (below p).Steady)
include hb

/-! ## Types -/

theorem orderly_primitiveType : Orderly (primitiveType s below) := by
  unfold primitiveType
  split
  · exact ⟨_, (makes_spanning _ _).reads⟩
  · exact orderly_malformed hb

theorem orderly_scopedType : Orderly (scopedType s below) := by
  unfold scopedType
  dsimp only
  split
  · next first _ _ _ _ _ =>
    obtain ⟨_, hfirst⟩ := (hb first).type
    exact ⟨_, hfirst.bind fun _ => (makes_makeOver _ _ _).reads⟩
  · exact orderly_malformed hb

theorem orderly_genericType : Orderly (genericType below) := by
  unfold genericType
  split
  · exact orderly_malformed hb
  · next base _ =>
    obtain ⟨_, hbase⟩ := (hb base).type
    obtain ⟨_, harguments⟩ := orderly_eachOf (fun p => (hb p).type) (n.parts.ofKind? .typeArguments)
    exact ⟨_, hbase.bind fun _ => harguments.bind fun _ => (makes_makeOver _ _ _).reads⟩

omit hb in
theorem reads_arrayDimensions (start : Int) (tokens : List Node) (opened : Int)
    (t : Foreign.Tree) : Reads false (arrayDimensions start opened t tokens) := by
  induction tokens generalizing opened t with
  | nil => exact .pure t
  | cons token rest ih =>
    unfold arrayDimensions
    split
    · exact ih _ _
    split
    · exact (Makes.make _ _ _ _).reads.bind fun array => ih _ _
    · exact ih _ _

theorem orderly_arrayType : Orderly (arrayType below) := by
  unfold arrayType
  split
  · exact orderly_malformed hb
  · next element _ =>
    obtain ⟨_, helement⟩ := (hb element).type
    exact ⟨_, helement.bind fun _ => reads_arrayDimensions _ _ _ _⟩

theorem orderly_annotatedStep (p : Part n) : ∃ b, ∀ acc, Reads b (annotatedStep below acc p) := by
  unfold annotatedStep
  split
  · obtain ⟨_, ha⟩ := (hb p).annotated
    exact ⟨_, fun _ => ha.bind fun _ => .pure _⟩
  · exact ⟨_, fun _ => .pure _⟩

omit hb in
/-- The type that annotations stand before is the same from every
state. -/
theorem snd_foldlM_annotatedStep (ps : Parts n) (acc : List Foreign.Tree × Option (Part n))
    (σ : State) : (ps.foldlM (annotatedStep below) acc σ).1.2 =
      ps.foldl (fun last p => if p.kind.annotates then last else some p) acc.2 := by
  induction ps generalizing acc σ with
  | nil => rfl
  | cons p ps ih =>
    have hstep : (annotatedStep below acc p σ).1.2 =
        if p.kind.annotates then acc.2 else some p := by
      unfold annotatedStep
      split <;> rfl
    rw [List.foldlM_cons, List.foldl_cons, ← hstep]
    exact ih _ _

theorem orderly_annotatedRest {f : List Foreign.Tree × Option (Part n) → Build Foreign.Tree}
    (ps : Parts n) (hf : ∀ last, ∃ b, ∀ annotations, Reads b (f (annotations, last))) :
    Orderly (ps.foldlM (annotatedStep below) ([], none) >>= f) := by
  obtain ⟨b, hps⟩ := orderly_foldlM (fun p (_ : p ∈ ps) => orderly_annotatedStep hb p)
  let last := ps.foldl (fun last p => if p.kind.annotates then last else some p) none
  obtain ⟨c, hlast⟩ := hf last
  refine ⟨b || c, (hps _).bindOf (P := fun r => r.2 = last)
    (fun σ => snd_foldlM_annotatedStep ps ([], none) σ) ?_⟩
  rintro ⟨annotations, _⟩ rfl
  exact hlast annotations

theorem orderly_annotatedType : Orderly (annotatedType below) := by
  refine orderly_annotatedRest hb _ fun last => ?_
  obtain ⟨_, hlast⟩ := orderly_orPlaceholder (fun p => (hb p).type) last n.stop
  exact ⟨_, fun _ => hlast.bind fun _ => (makes_spanning _ _).reads⟩

theorem orderly_wildcard : Orderly (wildcard below) := by
  have hover (bound : Option (Part n)) : Orderly (do
      let inner ← optional below bound (·.type)
      makeOver n (tokenOr n.parts "?" n.start) (.wildcard (boundKind n) inner)) := by
    obtain ⟨_, hbound⟩ := orderly_optional (fun p => (hb p).type) bound
    exact ⟨_, hbound.bind fun _ => (makes_makeOver _ _ _).reads⟩
  exact hover _

theorem orderly_type : Orderly (type s below) := by
  unfold type
  split
  all_goals first
    | exact orderly_primitiveType hb
    | exact orderly_identifier _
    | exact orderly_scopedType hb
    | exact orderly_genericType hb
    | exact orderly_arrayType hb
    | exact orderly_annotatedType hb
    | exact orderly_wildcard hb
    | exact orderly_scopedName hb
    | exact orderly_malformed hb

theorem orderly_parameterStep (p : Part n) :
    ∃ b, ∀ acc, Reads b (parameterStep s below acc p) := by
  unfold parameterStep
  split
  · obtain ⟨_, ha⟩ := (hb p).annotated
    exact ⟨_, fun _ => ha.bind fun _ => .pure _⟩
  · obtain ⟨_, ha⟩ := (hb p).annotated
    exact ⟨_, fun _ => ha.bind fun _ => .pure _⟩
  · exact ⟨_, fun _ => .pure _⟩
  · exact ⟨_, fun _ => .pure _⟩
  · obtain ⟨_, hbounds⟩ := orderly_each (fun q => (hb q).type) p.parts.named
    exact ⟨_, fun _ => hbounds.bind fun _ => .pure _⟩
  · exact ⟨_, fun _ => .pure _⟩

theorem orderly_typeParameter (p : Part n) : Orderly (typeParameter s below p) := by
  obtain ⟨_, hparts⟩ := orderly_foldlM
    (fun q (_ : q ∈ p.parts.named) => orderly_parameterStep (s := s) hb q)
  exact ⟨_, (hparts _).bind fun _ => (makes_spanning _ _).reads⟩

theorem orderly_typeParameters (list : Option (Part n)) :
    Orderly (typeParameters s below list) := by
  cases list with
  | none => exact ⟨_, .pure _⟩
  | some list => exact orderly_mapM fun p _ => orderly_typeParameter hb p

theorem orderly_typeList (list : Option (Part n)) : Orderly (typeList below list) := by
  cases list with
  | none => exact ⟨_, .pure _⟩
  | some list => exact orderly_each (fun p => (hb p).type) _

/-! ## Blocks -/

theorem orderly_blockStatement (p : Part n) : Orderly (blockStatement below p) := by
  unfold blockStatement
  split
  · exact ⟨_, .pure _⟩
  split
  · exact ⟨_, .pure _⟩
  split
  · exact orderly_one ⟨_, (makes_spanning _ _).reads⟩
  split
  · exact (hb p).statements
  · exact ⟨_, .pure _⟩

theorem orderly_blockStatements (ps : Parts n) : Orderly (blockStatements below ps) :=
  orderly_gather fun p _ => orderly_blockStatement hb p

theorem orderly_blockAt (p : Part n) : Orderly (blockAt below p) := by
  obtain ⟨_, hstatements⟩ := orderly_blockStatements hb p.parts
  exact ⟨_, hstatements.bind fun _ => (makes_spanning _ _).reads⟩

theorem orderly_optionalBlock (p : Option (Part n)) : Orderly (optionalBlock below p) := by
  cases p with
  | none => exact ⟨_, .pure _⟩
  | some p =>
    obtain ⟨_, hp⟩ := orderly_blockAt hb p
    exact ⟨_, hp.bind fun _ => .pure _⟩

theorem orderly_requiredBlock (p : Option (Part n)) (offset : Int) :
    Orderly (requiredBlock below p offset) := by
  cases p with
  | none => exact ⟨_, (makes_placeholder offset).reads⟩
  | some p => exact orderly_blockAt hb p

/-! ## Parameters -/

theorem rest_formalAfter (p : Part n) : Rest (formalAfter s below p) := by
  obtain ⟨_, htype⟩ := orderly_optional (fun q => (hb q).type) (p.parts.field? .type)
  exact ⟨_, fun _ => .bind htype fun _ => makes_makeOver _ _ _⟩

theorem rest_spreadAfter (p : Part n) : Rest (spreadAfter s below p) := by
  obtain ⟨_, htype⟩ := orderly_optional (fun q => (hb q).type)
    (p.parts.named.find? (fun c => c.kind.isType))
  exact ⟨_, fun _ => .bind htype fun _ => makes_makeOver _ _ _⟩

theorem orderly_formalParameter (p : Part n) : Orderly (formalParameter s below p) := by
  unfold formalParameter
  split
  · exact orderly_one (orderly_declaring hb p.parts true (rest_formalAfter hb p))
  · exact orderly_one (orderly_declaring hb p.parts true (rest_spreadAfter hb p))
  · exact ⟨_, .pure _⟩
  · exact orderly_one (hb p).malformed

theorem orderly_formalParameters (list : Option (Part n)) :
    Orderly (formalParameters s below list) := by
  cases list with
  | none => exact ⟨_, .pure _⟩
  | some list => exact orderly_gather fun p _ => orderly_formalParameter hb p

/-! ## Methods -/

theorem orderly_thrown : Orderly (thrown below) :=
  orderly_eachOf (fun p => (hb p).type) _

theorem rest_methodAfter : Rest (methodAfter s below) := by
  obtain ⟨_, hvariables⟩ := orderly_typeParameters (s := s) hb (n.parts.field? .typeParameters)
  obtain ⟨_, htype⟩ := orderly_optional (fun p => (hb p).type) (n.parts.field? .type)
  obtain ⟨_, hparameters⟩ := orderly_formalParameters (s := s) hb (n.parts.field? .parameters)
  obtain ⟨_, hthrown⟩ := orderly_thrown hb
  obtain ⟨_, hbody⟩ := orderly_optionalBlock hb (n.parts.field? .body)
  obtain ⟨_, hvalue⟩ := orderly_optional (fun p => (hb p).element) (n.parts.field? .value)
  exact ⟨_, fun _ => .bind hvariables fun _ => .bind htype fun _ => .bind hparameters fun _ =>
    .bind hthrown fun _ => .bind hbody fun _ => .bind hvalue fun _ => makes_makeOver _ _ _⟩

theorem rest_constructorAfter : Rest (constructorAfter s below) := by
  obtain ⟨_, hvariables⟩ := orderly_typeParameters (s := s) hb (n.parts.field? .typeParameters)
  obtain ⟨_, hparameters⟩ := orderly_formalParameters (s := s) hb (n.parts.field? .parameters)
  obtain ⟨_, hthrown⟩ := orderly_thrown hb
  obtain ⟨_, hbody⟩ := orderly_optionalBlock hb (n.parts.field? .body)
  exact ⟨_, fun _ => .bind hvariables fun _ => .bind hparameters fun _ =>
    .bind hthrown fun _ => .bind hbody fun _ => makes_makeOver _ _ _⟩

/-! ## Types and their members -/

theorem orderly_membersOf (ps : Parts n) : Orderly (membersOf below ps) :=
  orderly_gather fun p _ => (hb p).members

theorem orderly_anonymousClass (body : Part n) : Orderly (anonymousClass below body) := by
  obtain ⟨_, hmembers⟩ := orderly_membersOf hb body.parts
  exact ⟨_, hmembers.bind fun _ => (makes_spanning _ _).reads⟩

theorem orderly_arguments (list : Option (Part n)) : Orderly (arguments below list) :=
  orderly_eachOf (fun p => (hb p).expression) list

theorem orderly_optionalClass (body : Option (Part n)) : Orderly (optionalClass below body) := by
  cases body with
  | none => exact ⟨_, .pure _⟩
  | some body =>
    obtain ⟨_, hbody⟩ := orderly_anonymousClass hb body
    exact ⟨_, hbody.bind fun _ => .pure _⟩

theorem rest_enumConstantAfter (enumName : String) (p : Part n) :
    Rest (enumConstantAfter s below enumName p) := by
  obtain ⟨_, harguments⟩ := orderly_arguments hb (p.parts.field? .arguments)
  obtain ⟨_, hbody⟩ := orderly_optionalClass hb (p.parts.field? .body)
  exact ⟨_, fun _ => .bind (makes_makeIdent _ _).reads fun _ =>
    .bind (makes_makeIdent _ _).reads fun _ => .bind harguments fun _ => .bind hbody fun _ =>
    .bind (Makes.make _ _ _ _).reads fun _ => makes_makeOver _ _ _⟩

theorem orderly_enumMember (enumName : String) (p : Part n) :
    Orderly (enumMember s below enumName p) := by
  unfold enumMember
  split
  · exact orderly_one (orderly_declaring hb p.parts false (rest_enumConstantAfter hb enumName p))
  · exact orderly_membersOf hb p.parts
  · exact orderly_one (hb p).malformed

theorem orderly_components (form : TypeForm) : Orderly (components s below form) := by
  unfold components
  split
  · obtain ⟨_, hparameters⟩ := orderly_formalParameters (s := s) hb (n.parts.field? .parameters)
    exact ⟨_, hparameters.bind fun _ => .pure _⟩
  · exact ⟨_, .pure _⟩

theorem orderly_typeBody (form : TypeForm) (name : String) :
    Orderly (typeBody s below form name) := by
  unfold typeBody
  split
  · exact ⟨_, .pure _⟩
  · exact orderly_gather fun p _ => orderly_enumMember hb name p
  · exact orderly_membersOf hb _

/-- A type settles before it is completed if its body does. -/
theorem makes_typeAfter {b : Bool} (hbody : Reads b (typeBody s below (typeForm n.kind)
    (textOf s (n.parts.field? .name)))) :
    ∃ c, ∀ mods, Makes (c || b) (typeAfter s below mods) := by
  obtain ⟨b₁, hvariables⟩ := orderly_typeParameters (s := s) hb (n.parts.field? .typeParameters)
  obtain ⟨b₂, hextending⟩ := orderly_optional (fun p => (hb p).type)
    (superclass? (n.parts.field? .superclass))
  obtain ⟨b₃, himplementing⟩ := orderly_typeList hb (interfaces? n)
  obtain ⟨b₄, hpermitting⟩ := orderly_typeList hb (n.parts.field? .permits)
  obtain ⟨b₅, hcomponents⟩ := orderly_components (s := s) hb (typeForm n.kind)
  refine ⟨b₁ || b₂ || b₃ || b₄ || b₅, fun mods => ?_⟩
  have h : Makes (b₁ || (b₂ || (b₃ || (b₄ || (b₅ || (b || false)))))) (typeAfter s below mods) :=
    .bind hvariables fun _ => .bind hextending fun _ => .bind himplementing fun _ =>
      .bind hpermitting fun _ => .bind hcomponents fun _ => .bind hbody fun _ =>
      makes_makeOver _ _ _
  simpa only [Bool.or_assoc, Bool.or_false] using h

theorem rest_typeAfter : Rest (typeAfter s below) := by
  obtain ⟨_, hbody⟩ := orderly_typeBody (s := s) hb (typeForm n.kind)
    (textOf s (n.parts.field? .name))
  obtain ⟨_, h⟩ := makes_typeAfter hb hbody
  exact ⟨_, h⟩

theorem orderly_typeDeclaration : Orderly (typeDeclaration s below) :=
  orderly_declaring hb n.parts true (rest_typeAfter hb)

/-! ## Variables -/

theorem rest_variableAfter (stop : Int) (d : Part n) : Rest (variableAfter s below stop d) := by
  obtain ⟨_, htype⟩ := orderly_optional (fun p => (hb p).type) (n.parts.field? .type)
  obtain ⟨_, hvalue⟩ := orderly_optional (fun p => (hb p).initial) (d.parts.field? .value)
  exact ⟨_, fun _ => .bind htype fun _ => .bind hvalue fun _ => .make _ _ _ _⟩

/-- Reading modifiers once more leaves the reports that were there before,
provided that none of them waits: taking reports back would drop those
that wait. -/
theorem readsAlone_modifiersAgain (ps : Parts n) : ReadsAlone (modifiersAgain s below ps) := by
  intro σ hσ hw
  obtain ⟨b, hmods⟩ := orderly_modifiersOf hb (s := s) ps
  have hlater := hmods σ hσ
  have hlen : ((modifiersOf s below ps σ).2.reports.take σ.reports.length).length =
      σ.reports.length := by
    rw [List.length_take]
    exact Nat.min_eq_left hlater.length_le
  refine ⟨⟨fun i hi => (by cases hi), hlater.next_le, Nat.le_of_eq hlen.symm, ?_, ?_, ?_⟩, rfl⟩
  · intro i hi hnot
    refine ⟨List.not_mem_nil, ?_⟩
    exact (List.getElem?_take_of_lt hi).trans (hlater.settled i hi hnot).2
  · intro h
    cases h
  · intro _ i hi
    rw [hw] at hi
    cases hi

theorem readsAlone_declarators (ds : Parts n) :
    ReadsAlone (declarators s below false ds) := by
  induction ds with
  | nil => exact .pure _
  | cons d ds ih =>
    obtain ⟨_, hd⟩ := rest_variableAfter hb (s := s) (if ds.isEmpty then n.stop else d.stop) d
    have hdeclarator : ReadsAlone (declarator s below false
        (if ds.isEmpty then n.stop else d.stop) d) :=
      (readsAlone_modifiersAgain hb n.parts).bind fun mods => (hd mods).settled_alone
    exact hdeclarator.bind fun _ => ih.bind fun _ => .pure _

/-- The first declarator settles, so no report waits for those after
it. -/
theorem orderly_declarators (d : Part n) (ds : Parts n) :
    Orderly (declarators s below true (d :: ds)) := by
  obtain ⟨b, hd⟩ := orderly_declaring hb (s := s) n.parts true
    (rest_variableAfter hb (if ds.isEmpty then n.stop else d.stop) d)
  exact ⟨b || true, hd.bindAlone (fun _ => rfl) fun _ =>
    (readsAlone_declarators hb ds).bind fun _ => .pure _⟩

theorem orderly_declaredVariables : Orderly (declaredVariables s below) := by
  unfold declaredVariables
  split
  · exact orderly_one (orderly_malformed hb)
  · next hne =>
    obtain ⟨d, ds, hds⟩ := List.exists_cons_of_ne_nil hne
    rw [hds]
    exact orderly_declarators hb d ds

/-! ## Members -/

theorem orderly_block : Orderly (block below) := by
  obtain ⟨_, hstatements⟩ := orderly_blockStatements hb n.parts
  exact ⟨_, hstatements.bind fun _ => (makes_spanning _ _).reads⟩

theorem orderly_staticInitializer : Orderly (staticInitializer below) := by
  unfold staticInitializer
  split
  · next block _ =>
    obtain ⟨_, hstatements⟩ := orderly_blockStatements hb block.parts
    exact ⟨_, hstatements.bind fun _ => (makes_spanning _ _).reads⟩
  · exact ⟨_, (Reads.pure _).bind fun _ => (makes_spanning _ _).reads⟩

theorem orderly_members : Orderly (members s below) := by
  unfold members
  split
  · exact orderly_declaredVariables hb
  · exact orderly_declaredVariables hb
  · exact orderly_one (orderly_declaring hb _ _ (rest_methodAfter hb))
  · exact orderly_one (orderly_declaring hb _ _ (rest_methodAfter hb))
  · exact orderly_one (orderly_declaring hb _ _ (rest_constructorAfter hb))
  · exact orderly_one (orderly_declaring hb _ _ (rest_constructorAfter hb))
  · exact orderly_one (orderly_block hb)
  · exact orderly_one (orderly_staticInitializer hb)
  · split
    · exact orderly_one (orderly_typeDeclaration hb)
    · exact orderly_one (orderly_malformed hb)

end

end Lowering

end TreeBridge

import TreeBridge.Proofs.Lowering.Composition.Sites
/-!
# Composed declarations

The readings of names, annotations, types and declarations are composed
steps if those of their parts are. Reading modifiers again, for every
declarator after the first, is one of them: what it takes back are errors
of the parser, and the annotations that it makes are new. The reading of a
declaration after its modifiers holds their annotations.
-/

namespace TreeBridge

namespace Lowering

open Concrete (Node Kind Field)
open Concrete.Node (Part Parts)
open Bears (trees)

/-- All actions on a node are composed, keep what is guaranteed and use no
tree from outside. -/
structure Actions.AllComposed (G : Guarantee) (a : Actions) : Prop where
  expression : Composed G [] a.expression
  type : Composed G [] a.type
  name : Composed G [] a.name
  annotated : Composed G [] a.annotated
  element : Composed G [] a.element
  initial : Composed G [] a.initial
  pattern : Composed G [] a.pattern
  statements : Composed G [] a.statements
  members : Composed G [] a.members
  typeDeclaration : Composed G [] a.typeDeclaration
  malformed : Composed G [] a.malformed

/-- What actions guarantee may be weakened. -/
theorem Actions.AllComposed.imp {G H : Guarantee} (htree : ∀ t, G.tree t → H.tree t)
    (hreport : ∀ d, G.report d → H.report d) {a : Actions} (h : a.AllComposed G) :
    a.AllComposed H where
  expression := h.expression.imp htree hreport
  type := h.type.imp htree hreport
  name := h.name.imp htree hreport
  annotated := h.annotated.imp htree hreport
  element := h.element.imp htree hreport
  initial := h.initial.imp htree hreport
  pattern := h.pattern.imp htree hreport
  statements := h.statements.imp htree hreport
  members := h.members.imp htree hreport
  typeDeclaration := h.typeDeclaration.imp htree hreport
  malformed := h.malformed.imp htree hreport

variable {s : Source} {n : Node} {below : Below n}

instance : Bears (List Foreign.Tree × Option (Part n)) := ⟨fun read => read.1⟩
instance : Bears ParameterRead := ⟨fun read => read.annotations ++ read.bounds⟩

theorem Actions.AllComposed.inside {k : Node} {a : Actions} (h : a.AllComposed (siting s k))
    (hk : k.Inside n) : a.AllComposed (siting s n) :=
  h.imp (fun _ ht => Sited.inside ht hk) fun _ hd => Reported.inside hd hk

/-! ## Parts -/

theorem composed_placeholder (offset : Int) : Composed (siting s n) [] (placeholder offset) :=
  .make (.refl []) fun _ => trivial

theorem composed_makeIdent {offset : Int} {name : String}
    (hname : offset = -1 ∨ ∃ m : Node, m.Within n ∧ m.text s = name ∧ offset = m.start) :
    Composed (siting s n) [] (makeIdent offset name) :=
  .make (.refl []) fun _ => hname.imp_right .inr

section

variable {held : List Foreign.Tree} {m : Node} {position : Int}
variable {shape : Foreign.Shape Foreign.Tree} (h : Spends shape.children held)
include h

theorem composed_makeOver (hsited : ∀ id, Sited s n
      (.node id m.start position (if 0 ≤ (m.stop : Int) then m.stop else -1) shape)) :
    Composed (siting s n) held (makeOver m position shape) :=
  .make h hsited

theorem composed_spanning (hsited : ∀ id, Sited s n
      (.node id m.start m.start (if 0 ≤ (m.stop : Int) then m.stop else -1) shape)) :
    Composed (siting s n) held (spanning m shape) :=
  .make h hsited

end

section

variable {read : Actions → Build Foreign.Tree}
variable (hr : ∀ p : Part n, Composed (siting s n) [] (read (below p)))
include hr

theorem composed_orPlaceholder (p : Option (Part n)) (offset : Int) :
    Composed (siting s n) [] (orPlaceholder below p offset read) := by
  cases p with
  | none => exact composed_placeholder offset
  | some p => exact hr p

theorem composed_optional (p : Option (Part n)) :
    Composed (siting s n) [] (optional below p read) := by
  cases p with
  | none => exact .pure (.refl _)
  | some p =>
    have hp := hr p
    exact hp.after fun _ => .pure (.refl _)

theorem composed_each (ps : Parts n) : Composed (siting s n) [] (each below ps read) :=
  composed_mapM fun p _ => hr p

theorem composed_eachOf (p : Option (Part n)) : Composed (siting s n) [] (eachOf below p read) := by
  cases p with
  | none => exact .pure (.refl _)
  | some p => exact composed_each hr _

end

section

variable (hb : ∀ p, (below p).AllComposed (siting s n))
include hb

theorem composed_requiredExpression (f : Field) :
    Composed (siting s n) [] (requiredExpression below f) :=
  composed_orPlaceholder (fun p => (hb p).expression) _ _

theorem composed_firstExpression (ps : Parts n) (stop : Int) :
    Composed (siting s n) [] (firstExpression below ps stop) :=
  composed_orPlaceholder (fun p => (hb p).expression) _ _

theorem composed_malformed : Composed (siting s n) [] (malformed below) := by
  have hparts : Composed (siting s n) [] (gather (fun p =>
      if p.kind.isStatement then (below p).statements
      else if p.kind.isExpression then do pure [← (below p).expression]
      else pure []) n.parts.named) := by
    refine composed_gather fun p _ => ?_
    split
    · exact (hb p).statements
    split
    · exact composed_one (hb p).expression
    · exact .pure (.refl _)
  exact hparts.after fun _ => composed_spanning (.refl _) fun _ => trivial

theorem composed_unsupported {code : String} (h : code ∈ parserCodes) (message : String) :
    Composed (siting s n) [] (unsupported below code message) := by
  have hreported := Reported.errorAt (.refl n) h message
  exact (composed_malformed hb).andThenOf fun _ =>
    .report (.refl [_]) (hreported.aboutTree _) ⟨rfl, rfl⟩

/-! ## Names and annotations -/

omit hb in
theorem composed_identifier {m : Node} (hm : m.Within n) :
    Composed (siting s n) [] (identifier s m) :=
  composed_spanning (.refl _) fun _ => .inr (.inr ⟨m, hm, rfl, rfl⟩)

theorem composed_scopedName : Composed (siting s n) [] (scopedName s below) := by
  unfold scopedName
  split
  · next scope last _ hlast =>
    have hscope := (hb scope).name
    have hmem := List.mem_of_find?_eq_some hlast
    exact hscope.after fun _ => composed_makeOver (.refl _) fun _ =>
      sited_select n.map_val_parts (.refl n) hmem (.inl rfl)
  · exact composed_malformed hb

theorem composed_elementPair (pair : Part n) :
    Composed (siting s n) [] (elementPair below pair) := by
  have hleft := composed_orPlaceholder (fun p => (hb p).name) (pair.parts.field? .key)
    pair.start
  have hright := composed_orPlaceholder (fun p => (hb p).element)
    (pair.parts.field? .value) pair.stop
  exact hleft.after fun _ => hright.after fun _ => composed_makeOver (.refl _) fun _ => trivial

theorem composed_annotated : Composed (siting s n) [] (annotated below) := by
  have htype := composed_orPlaceholder (fun p => (hb p).name) (n.parts.field? .name) n.start
  have harguments : Composed (siting s n) [] <|
      (((n.parts.field? .arguments).map fun p => p.parts.named).getD []).mapM fun p : Part n =>
        if p.kind = .elementValuePair then elementPair below p else (below p).element := by
    refine composed_mapM fun p _ => ?_
    split
    · exact composed_elementPair hb p
    · exact (hb p).element
  exact htype.after fun _ => harguments.after fun _ => composed_spanning (.refl _) fun _ => trivial

theorem composed_elementArray : Composed (siting s n) [] (elementArray below) := by
  have helements := composed_each (fun p => (hb p).element) n.parts.named
  exact helements.after fun _ => composed_spanning (.refl _) fun _ => trivial

/-! ## Modifiers -/

theorem composed_addModifier (p : Part n) (mods : Foreign.Modifiers Foreign.Tree) :
    Composed (siting s n) mods.annotations (addModifier s below mods p) := by
  unfold addModifier
  split
  · exact (hb p).annotated.after fun _ => .pure (.refl _)
  split
  · exact .pure (.refl _)
  split
  · exact .pure (.refl _)
  · dsimp only
    split
    · have hreported : Reported n (repeatedModifier p) := .errorAt (.inr p.2) (by decide) _
      exact (Composed.reportUnsettled hreported rfl).before (.pure (.refl _))
    · exact .pure (.refl _)

omit hb in
theorem composed_reportAccess (p : Part n) (mods : Foreign.Modifiers Foreign.Tree) :
    Composed (siting s n) [] (reportAccess p mods) := by
  have hcode : "compiler.err.illegal.combination.of.modifiers" ∈ parserCodes := by decide
  unfold reportAccess
  split
  · exact .reportUnsettled ⟨⟨rfl, hcode⟩, p.1, .inr p.2, rfl, rfl, .inl rfl⟩ rfl
  · exact .pure (.refl _)

theorem composed_modifiersAfter (p : Part n) (ps : Parts n)
    (mods : Foreign.Modifiers Foreign.Tree) :
    Composed (siting s n) mods.annotations (modifiersAfter s below p mods ps) := by
  have hps := composed_foldlM (fun q (_ : q ∈ ps) => composed_addModifier (s := s) hb q) mods
  exact hps.andThen fun mods => (composed_reportAccess p mods).before (.pure (.refl _))

theorem composed_modifiersOf (ps : Parts n) :
    Composed (siting s n) [] (modifiersOf s below ps) := by
  unfold modifiersOf modifiers
  split
  · exact .pure (.refl _)
  · next p _ => exact composed_modifiersAfter hb p p.parts (modifiersAt p)

end

theorem composed_declaring (hb : ∀ p, (below p).AllComposed (siting s n)) (ps : Parts n)
    (settles : Bool) {rest : Foreign.Modifiers Foreign.Tree → Build Foreign.Tree}
    (hrest : ∀ mods, Composed (siting s n) mods.annotations (rest mods))
    (hdeclares : ∀ mods σ, isDeclaration (rest mods σ).1 = true) :
    Composed (siting s n) [] (declaring s below ps settles rest) := by
  have hmods := composed_modifiersOf hb (s := s) ps
  unfold declaring
  cases settles with
  | true => exact hmods.andThen fun mods => composed_settled (hrest mods) (hdeclares mods)
  | false => exact hmods.andThen fun mods => hrest mods

section

variable (hb : ∀ p, (below p).AllComposed (siting s n))
include hb

/-! ## Types -/

theorem composed_primitiveType : Composed (siting s n) [] (primitiveType s below) := by
  unfold primitiveType
  split
  · exact composed_spanning (.refl _) fun _ => trivial
  · exact composed_malformed hb

theorem composed_scopedType : Composed (siting s n) [] (scopedType s below) := by
  unfold scopedType
  dsimp only
  split
  · next first _ _ last _ hlast =>
    have hfirst := (hb first).type
    have hmem := (List.mem_filter.1 (List.mem_filter.1 (List.mem_of_getLast? hlast)).1).1
    exact hfirst.after fun _ => composed_makeOver (.refl _) fun _ =>
      sited_select n.map_val_parts (.refl n) hmem (.inl rfl)
  · exact composed_malformed hb

theorem composed_genericType : Composed (siting s n) [] (genericType below) := by
  unfold genericType
  split
  · exact composed_malformed hb
  · next base _ =>
    have hbase := (hb base).type
    have harguments := composed_eachOf (fun p => (hb p).type) (n.parts.ofKind? .typeArguments)
    exact hbase.after fun _ => harguments.after fun _ =>
      composed_makeOver (.refl _) fun _ => trivial

omit hb in
theorem composed_arrayDimensions (start : Int) (tokens : List Node) (opened : Int)
    (t : Foreign.Tree) : Composed (siting s n) [t] (arrayDimensions start opened t tokens) := by
  induction tokens generalizing opened t with
  | nil => exact .pure (.refl [t])
  | cons token rest ih =>
    unfold arrayDimensions
    split
    · exact ih _ _
    split
    · have harray : Composed (siting s n) [t] (make start opened token.stop (.typeArray t)) :=
        .make (.refl [t]) fun _ => trivial
      exact harray.andThen fun array => ih opened array
    · exact ih _ _

theorem composed_arrayType : Composed (siting s n) [] (arrayType below) := by
  unfold arrayType
  split
  · exact composed_malformed hb
  · next element _ =>
    have helement := (hb element).type
    exact helement.after fun _ => composed_arrayDimensions _ _ _ _

theorem composed_annotatedStep (p : Part n) (acc : List Foreign.Tree × Option (Part n)) :
    Composed (siting s n) acc.1 (annotatedStep below acc p) := by
  unfold annotatedStep
  split
  · exact (hb p).annotated.after fun _ => .pure (.refl _)
  · exact .pure (.refl _)

theorem composed_annotatedType : Composed (siting s n) [] (annotatedType below) := by
  have hparts := composed_foldlM
    (fun p (_ : p ∈ n.parts.named) => composed_annotatedStep hb p) ([], none)
  refine hparts.after fun read => ?_
  have hlast := composed_orPlaceholder (fun p => (hb p).type) read.2 n.stop
  exact hlast.after fun _ => composed_spanning (.refl _) fun _ => trivial

theorem composed_wildcard : Composed (siting s n) [] (wildcard below) := by
  have hover (bound : Option (Part n)) : Composed (siting s n) [] (do
      let inner ← optional below bound (·.type)
      makeOver n (tokenOr n.parts "?" n.start) (.wildcard (boundKind n) inner)) := by
    have hbound := composed_optional (fun p => (hb p).type) bound
    exact hbound.after fun _ => composed_makeOver (.refl _) fun _ => trivial
  exact hover _

theorem composed_type : Composed (siting s n) [] (type s below) := by
  unfold type
  split
  all_goals first
    | exact composed_primitiveType hb
    | exact composed_identifier (.refl n)
    | exact composed_scopedType hb
    | exact composed_genericType hb
    | exact composed_arrayType hb
    | exact composed_annotatedType hb
    | exact composed_wildcard hb
    | exact composed_scopedName hb
    | exact composed_malformed hb

theorem composed_parameterStep (p : Part n) (acc : ParameterRead) :
    Composed (siting s n) (trees acc) (parameterStep s below acc p) := by
  unfold parameterStep
  split
  · exact (hb p).annotated.after fun a => .pure (.swap acc.annotations acc.bounds [a])
  · exact (hb p).annotated.after fun a => .pure (.swap acc.annotations acc.bounds [a])
  · exact .pure (.refl _)
  · exact .pure (.refl _)
  · have hbounds := composed_each (fun q => (hb q).type) p.parts.named
    exact hbounds.after fun bounds =>
      .pure (.of_eq (List.append_assoc acc.annotations acc.bounds bounds).symm)
  · exact .pure (.refl _)

theorem composed_typeParameter (p : Part n) :
    Composed (siting s n) [] (typeParameter s below p) := by
  have hparts := composed_foldlM
    (fun q (_ : q ∈ p.parts.named) => composed_parameterStep (s := s) hb q) ⟨[], "", []⟩
  exact hparts.after fun _ => composed_spanning (.refl _) fun _ => trivial

theorem composed_typeParameters (list : Option (Part n)) :
    Composed (siting s n) [] (typeParameters s below list) := by
  cases list with
  | none => exact .pure (.refl _)
  | some list => exact composed_mapM fun p _ => composed_typeParameter hb p

theorem composed_typeList (list : Option (Part n)) :
    Composed (siting s n) [] (typeList below list) := by
  cases list with
  | none => exact .pure (.refl _)
  | some list => exact composed_each (fun p => (hb p).type) _

/-! ## Blocks -/

theorem composed_blockStatement (p : Part n) :
    Composed (siting s n) [] (blockStatement below p) := by
  unfold blockStatement
  split
  · exact .pure (.refl _)
  split
  · exact .pure (.refl _)
  split
  · exact composed_one (composed_spanning (.refl _) fun _ => trivial)
  split
  · exact (hb p).statements
  · exact .pure (.refl _)

theorem composed_blockStatements (ps : Parts n) :
    Composed (siting s n) [] (blockStatements below ps) :=
  composed_gather fun p _ => composed_blockStatement hb p

theorem composed_blockAt (p : Part n) : Composed (siting s n) [] (blockAt below p) := by
  have hstatements := composed_blockStatements hb p.parts
  exact hstatements.after fun _ => composed_spanning (.refl _) fun _ => trivial

theorem composed_optionalBlock (p : Option (Part n)) :
    Composed (siting s n) [] (optionalBlock below p) := by
  cases p with
  | none => exact .pure (.refl _)
  | some p =>
    have hp := composed_blockAt hb p
    exact hp.after fun _ => .pure (.refl _)

theorem composed_requiredBlock (p : Option (Part n)) (offset : Int) :
    Composed (siting s n) [] (requiredBlock below p offset) := by
  cases p with
  | none => exact composed_placeholder offset
  | some p => exact composed_blockAt hb p

/-! ## Parameters -/

theorem composed_formalAfter (p : Part n) :
    ∀ mods, Composed (siting s n) mods.annotations (formalAfter s below p mods) := by
  have htype := composed_optional (fun q => (hb q).type) (p.parts.field? .type)
  exact fun _ => .after htype fun _ => composed_makeOver (.of_eq (List.append_nil _))
    fun _ => named_textOf rfl

theorem composed_spreadAfter (p : Part n) :
    ∀ mods, Composed (siting s n) mods.annotations (spreadAfter s below p mods) := by
  have htype := composed_optional (fun q => (hb q).type)
    (p.parts.named.find? (fun c => c.kind.isType))
  exact fun _ => .after htype fun _ => composed_makeOver (.of_eq (List.append_nil _))
    fun _ => named_textOf rfl

theorem composed_formalParameter (p : Part n) :
    Composed (siting s n) [] (formalParameter s below p) := by
  unfold formalParameter
  split
  · have hformal := composed_formalAfter (s := s) hb p
    exact composed_one (composed_declaring hb p.parts true hformal fun _ _ => rfl)
  · have hspread := composed_spreadAfter (s := s) hb p
    exact composed_one (composed_declaring hb p.parts true hspread fun _ _ => rfl)
  · exact .pure (.refl _)
  · exact composed_one (hb p).malformed

theorem composed_formalParameters (list : Option (Part n)) :
    Composed (siting s n) [] (formalParameters s below list) := by
  cases list with
  | none => exact .pure (.refl _)
  | some list => exact composed_gather fun p _ => composed_formalParameter hb p

/-! ## Methods -/

theorem composed_thrown : Composed (siting s n) [] (thrown below) :=
  composed_eachOf (fun p => (hb p).type) _

theorem composed_methodAfter :
    ∀ mods, Composed (siting s n) mods.annotations (methodAfter s below mods) := by
  have hvariables := composed_typeParameters (s := s) hb (n.parts.field? .typeParameters)
  have htype := composed_optional (fun p => (hb p).type) (n.parts.field? .type)
  have hparameters := composed_formalParameters (s := s) hb (n.parts.field? .parameters)
  have hthrown := composed_thrown hb
  have hbody := composed_optionalBlock hb (n.parts.field? .body)
  have hvalue := composed_optional (fun p => (hb p).element) (n.parts.field? .value)
  exact fun _ => .after hvariables fun _ => .after htype fun _ => .after hparameters fun _ =>
    .after hthrown fun _ => .after hbody fun _ => .after hvalue fun _ =>
      composed_makeOver (.refl _) fun _ => .inr (named_textOf rfl)

theorem composed_constructorAfter :
    ∀ mods, Composed (siting s n) mods.annotations (constructorAfter s below mods) := by
  have hvariables := composed_typeParameters (s := s) hb (n.parts.field? .typeParameters)
  have hparameters := composed_formalParameters (s := s) hb (n.parts.field? .parameters)
  have hthrown := composed_thrown hb
  have hbody := composed_optionalBlock hb (n.parts.field? .body)
  exact fun _ => .after hvariables fun _ => .after hparameters fun _ =>
    .after hthrown fun _ => .after hbody fun _ =>
      composed_makeOver (.of_eq (by simp [Foreign.Shape.children, Foreign.Modifiers.withFlags]))
        fun _ => .inl rfl

/-! ## Types and their members -/

theorem composed_membersOf (ps : Parts n) : Composed (siting s n) [] (membersOf below ps) :=
  composed_gather fun p _ => (hb p).members

theorem composed_anonymousClass (body : Part n) :
    Composed (siting s n) [] (anonymousClass below body) := by
  have hmembers := composed_membersOf hb body.parts
  exact hmembers.after fun _ => composed_spanning (.refl _) fun _ => .inl rfl

theorem composed_arguments (list : Option (Part n)) :
    Composed (siting s n) [] (arguments below list) :=
  composed_eachOf (fun p => (hb p).expression) list

theorem composed_optionalClass (body : Option (Part n)) :
    Composed (siting s n) [] (optionalClass below body) := by
  cases body with
  | none => exact .pure (.refl _)
  | some body =>
    have hbody := composed_anonymousClass hb body
    exact hbody.after fun _ => .pure (.refl _)

theorem composed_enumConstantAfter (enumName : String) (p : Part n) :
    ∀ mods, Composed (siting s n) mods.annotations (enumConstantAfter s below enumName p mods) := by
  have harguments := composed_arguments hb (p.parts.field? .arguments)
  have hbody := composed_optionalClass hb (p.parts.field? .body)
  refine fun mods => .after (composed_makeIdent (.inl rfl)) fun type =>
    .after (composed_makeIdent (.inl rfl)) fun created => .after harguments fun args =>
    .after hbody fun body => ?_
  -- the new instance takes all but the annotations and the first mention of the enum
  have hheld : Spends ((mods.annotations ++ [type]) ++ ([created] ++ args ++ body.toList))
      (mods.annotations ++ [type] ++ [created] ++ args ++ body.toList) :=
    .of_eq (by simp)
  exact .bind hheld (.make (.refl _) fun _ => trivial) fun _ => composed_makeOver (.refl _)
    fun _ => named_textOf rfl

theorem composed_enumMember (enumName : String) (p : Part n) :
    Composed (siting s n) [] (enumMember s below enumName p) := by
  unfold enumMember
  split
  · have hconstant := composed_enumConstantAfter (s := s) hb enumName p
    exact composed_one (composed_declaring hb p.parts false hconstant fun _ _ => rfl)
  · exact composed_membersOf hb p.parts
  · exact composed_one (hb p).malformed

theorem composed_components (form : TypeForm) :
    Composed (siting s n) [] (components s below form) := by
  unfold components
  split
  · have hparameters := composed_formalParameters (s := s) hb (n.parts.field? .parameters)
    exact hparameters.after fun read => .pure (.withVariableFlags componentFlags read)
  · exact .pure (.refl _)

theorem composed_typeBody (form : TypeForm) (name : String) :
    Composed (siting s n) [] (typeBody s below form name) := by
  unfold typeBody
  split
  · exact .pure (.refl _)
  · exact composed_gather fun p _ => composed_enumMember hb name p
  · exact composed_membersOf hb _

theorem composed_typeAfter (mods : Foreign.Modifiers Foreign.Tree) :
    Composed (siting s n) mods.annotations (typeAfter s below mods) := by
  have hvariables := composed_typeParameters (s := s) hb (n.parts.field? .typeParameters)
  have hextending := composed_optional (fun p => (hb p).type)
    (superclass? (n.parts.field? .superclass))
  have himplementing := composed_typeList hb (interfaces? n)
  have hpermitting := composed_typeList hb (n.parts.field? .permits)
  have hcomponents := composed_components (s := s) hb (typeForm n.kind)
  have hbody := composed_typeBody (s := s) hb (typeForm n.kind) (textOf s (n.parts.field? .name))
  refine hvariables.after fun _ => hextending.after fun _ => himplementing.after fun _ =>
    hpermitting.after fun _ => hcomponents.after fun _ => hbody.after fun _ =>
    composed_makeOver (.of_eq (List.append_assoc _ _ _).symm) fun _ => ?_
  cases hname : n.parts.field? .name with
  | none => exact .inl rfl
  | some p =>
    have hstop := recorded_stop n.stop
    exact .inr ⟨n, p.1, .refl n, declaresType_of_field? hname rfl rfl hstop⟩

theorem composed_typeDeclaration : Composed (siting s n) [] (typeDeclaration s below) :=
  composed_declaring hb n.parts true (composed_typeAfter hb) fun _ _ => rfl

/-! ## Variables -/

theorem composed_variableAfter (stop : Int) (d : Part n) :
    ∀ mods, Composed (siting s n) mods.annotations (variableAfter s below stop d mods) := by
  have htype := composed_optional (fun p => (hb p).type) (n.parts.field? .type)
  have hvalue := composed_optional (fun p => (hb p).initial) (d.parts.field? .value)
  exact fun _ => .after htype fun _ => .after hvalue fun _ => .make (.refl _)
    fun _ => named_textOf rfl

theorem composed_modifiersAgain (ps : Parts n) :
    Composed (siting s n) [] (modifiersAgain s below ps) := by
  have hmods := composed_modifiersOf hb (s := s) ps
  exact Composed.get.after fun _ => hmods.after fun _ => (Composed.retract _).before
    (.pure (.refl _))

theorem composed_declarator (first : Bool) (stop : Int) (d : Part n) :
    Composed (siting s n) [] (declarator s below first stop d) := by
  unfold declarator
  have hd := composed_variableAfter (s := s) hb stop d
  split
  · exact composed_declaring hb _ _ hd fun _ _ => rfl
  · exact (composed_modifiersAgain hb _).after fun mods =>
      composed_settled (hd mods) fun _ => rfl

theorem composed_declarators (first : Bool) (ds : Parts n) :
    Composed (siting s n) [] (declarators s below first ds) := by
  induction ds generalizing first with
  | nil => exact .pure (.refl _)
  | cons d ds ih =>
    have hd := composed_declarator (s := s) hb first (if ds.isEmpty then n.stop else d.stop) d
    exact hd.after fun _ => (ih false).after fun _ => .pure (.refl _)

theorem composed_declaredVariables : Composed (siting s n) [] (declaredVariables s below) := by
  unfold declaredVariables
  split
  · exact composed_one (composed_malformed hb)
  · exact composed_declarators hb _ _

/-! ## Members -/

theorem composed_block : Composed (siting s n) [] (block below) := by
  have hstatements := composed_blockStatements hb n.parts
  exact hstatements.after fun _ => composed_spanning (.refl _) fun _ => trivial

theorem composed_staticInitializer : Composed (siting s n) [] (staticInitializer below) := by
  unfold staticInitializer
  split
  · next block _ =>
    have hstatements := composed_blockStatements hb block.parts
    exact hstatements.after fun _ => composed_spanning (.refl _) fun _ => trivial
  · exact (Composed.pure (.refl [])).after fun _ => composed_spanning (.refl _) fun _ => trivial

theorem composed_members : Composed (siting s n) [] (members s below) := by
  have hmethod := composed_methodAfter (s := s) hb
  have hconstructor := composed_constructorAfter (s := s) hb
  unfold members
  split
  · exact composed_declaredVariables hb
  · exact composed_declaredVariables hb
  · exact composed_one (composed_declaring hb _ _ hmethod fun _ _ => rfl)
  · exact composed_one (composed_declaring hb _ _ hmethod fun _ _ => rfl)
  · exact composed_one (composed_declaring hb _ _ hconstructor fun _ _ => rfl)
  · exact composed_one (composed_declaring hb _ _ hconstructor fun _ _ => rfl)
  · exact composed_one (composed_block hb)
  · exact composed_one (composed_staticInitializer hb)
  · split
    · exact composed_one (composed_typeDeclaration hb)
    · exact composed_one (composed_malformed hb)

end

end Lowering

end TreeBridge

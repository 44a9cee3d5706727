import TreeBridge.Lowering.Unit
import TreeBridge.Proofs.Conversion.Grouping
/-!
# Lowering lays declarations out

The members of a body and the statements of a block lower to a list of
trees in which every declaration of variables stands as one run and
nothing else is a variable. What a step makes is read off its last
primitive step; the state it starts in does not matter.
-/

namespace TreeBridge

namespace Lowering

open Concrete (Node Kind)
open Concrete.Node (Part Parts)
open Conversion (asVariable? Joint Laid Spells Plain isHead)

/-- What a step makes has a property, whatever state it starts in. -/
def Gives {α : Type} (P : α → Prop) (m : Build α) : Prop :=
  ∀ σ, P (m σ).1

/-- A tree that is no variable. -/
def IsOther (u : Foreign.Tree) : Prop :=
  asVariable? u.shape = none

namespace Gives

variable {α β : Type} {P : α → Prop} {Q : β → Prop}

theorem pure {a : α} (h : P a) : Gives P (pure a) :=
  fun _ => h

theorem bind {m : Build β} {f : β → Build α} (hm : Gives Q m)
    (hf : ∀ b, Q b → Gives P (f b)) : Gives P (m >>= f) :=
  fun σ => hf _ (hm σ) _

/-- Only the last step counts. -/
theorem last {m : Build β} {f : β → Build α} (hf : ∀ b, Gives P (f b)) : Gives P (m >>= f) :=
  fun _ => hf _ _

theorem settled {P : Foreign.Tree → Prop} {m : Build Foreign.Tree} (h : Gives P m) :
    Gives P (settled m) :=
  fun σ => h σ

end Gives

/-- One tree that is no variable. -/
theorem laid_single {m : Build Foreign.Tree} (h : Gives IsOther m) :
    Gives (Laid []) (do pure [← m]) :=
  fun σ => Laid.single (h σ)

/-- What is made for the elements of a list one by one. -/
theorem gives_gather {α : Type} {P : List Joint → List Foreign.Tree → Prop} (hnil : P [] [])
    (happend : ∀ {js ks ts us}, P js ts → P ks us → P (js ++ ks) (ts ++ us))
    {f : α → Build (List Foreign.Tree)} {js : α → List Joint} {xs : List α}
    (h : ∀ x ∈ xs, Gives (P (js x)) (f x)) : Gives (P (xs.flatMap js)) (gather f xs) := by
  induction xs with
  | nil => exact fun _ => hnil
  | cons x xs ih =>
    obtain ⟨hx, hxs⟩ := List.forall_mem_cons.1 h
    intro σ
    have hcons : (gather f (x :: xs) σ).1 = (f x σ).1 ++ (gather f xs (f x σ).2).1 := by
      rw [gather, List.mapM_cons]
      rfl
    rw [List.flatMap_cons, hcons]
    exact happend (hx σ) (ih hxs _)

variable (s : Source) {n : Node} (below : Below n)

/-! ## Variables -/

/-- The names of the declarators of a declaration, in order. -/
def declaratorNames (c : Node) : List String :=
  (c.parts.inField .declarator).map (fun d => textOf s (d.parts.field? .name))

theorem plain_ofKeyword? {text : String} {flag : UInt64}
    (h : Foreign.Flag.ofKeyword? text = some flag) : Plain flag := by
  obtain ⟨k, hk, rfl⟩ := Option.map_eq_some_iff.1 h
  have hall : ∀ k ∈ Foreign.Flag.keywords, Foreign.Flag.isIn Foreign.Flag.enumType k.1 = false ∧
      Foreign.Flag.isIn Foreign.Flag.recordType k.1 = false := by decide
  exact hall k (List.mem_of_find?_eq_some hk)

theorem plain_addModifier {mods : Foreign.Modifiers Foreign.Tree} (hm : Plain mods.flags)
    (p : Part n) : Gives (fun mods => Plain mods.flags) (addModifier s below mods p) := by
  unfold addModifier
  split
  · exact Gives.last fun _ => Gives.pure hm
  · split
    · exact Gives.pure hm
    · split
      · exact Gives.pure hm
      · next flag hflag =>
        have hplain : Plain (mods.withFlags flag).flags := hm.or (plain_ofKeyword? hflag)
        dsimp only
        split
        · exact Gives.last fun _ => Gives.pure hplain
        · exact Gives.pure hplain

/-- No keyword marks an enum constant or a record component. -/
theorem plain_modifiersOf (ps : Parts n) :
    Gives (fun mods => Plain mods.flags) (modifiersOf s below ps) := by
  have hfold (qs : Parts n) : ∀ mods : Foreign.Modifiers Foreign.Tree, Plain mods.flags →
      Gives (fun mods => Plain mods.flags) (qs.foldlM (addModifier s below) mods) := by
    induction qs with
    | nil => exact fun _ hm => Gives.pure hm
    | cons q qs ih =>
      intro mods hm
      rw [List.foldlM_cons]
      exact (plain_addModifier s below hm q).bind ih
  unfold modifiersOf modifiers
  split
  · exact Gives.pure Conversion.plain_zero
  · next p _ =>
    unfold modifiersAfter
    exact (hfold p.parts _ Conversion.plain_zero).bind fun mods hm =>
      Gives.last fun _ => Gives.pure hm

/-- A declaration is read after modifiers without the flags of a constant
or a component. -/
theorem gives_declaring {P : Foreign.Tree → Prop} {ps : Parts n} {settles : Bool}
    {rest : Foreign.Modifiers Foreign.Tree → Build Foreign.Tree}
    (h : ∀ mods, Plain mods.flags → Gives P (rest mods)) :
    Gives P (declaring s below ps settles rest) := by
  unfold declaring
  refine (plain_modifiersOf s below ps).bind fun mods hm => ?_
  split
  · exact (h mods hm).settled
  · exact h mods hm

theorem spells_variableAfter (stop : Int) (d : Part n) {mods : Foreign.Modifiers Foreign.Tree}
    (hm : Plain mods.flags) :
    Gives (fun v => Spells n.start v (textOf s (d.parts.field? .name)))
      (variableAfter s below stop d mods) :=
  fun _ => ⟨rfl, _, rfl, rfl, hm⟩

theorem spells_declarator (first : Bool) (stop : Int) (d : Part n) :
    Gives (fun v => Spells n.start v (textOf s (d.parts.field? .name)))
      (declarator s below first stop d) := by
  unfold declarator
  split
  · exact gives_declaring s below fun mods hm => spells_variableAfter s below stop d hm
  · have hagain : Gives (fun mods => Plain mods.flags) (modifiersAgain s below n.parts) :=
      Gives.last fun _ => (plain_modifiersOf s below n.parts).bind fun mods hm =>
        Gives.last fun _ => Gives.pure hm
    exact hagain.bind fun mods hm => (spells_variableAfter s below stop d hm).settled

/-- Declarators lower to variables, one for each and in order. -/
theorem spells_declarators (ds : Parts n) : ∀ first : Bool,
    Gives (fun vs => List.Forall₂ (Spells n.start) vs
      (ds.map fun d => textOf s (d.parts.field? .name))) (declarators s below first ds) := by
  induction ds with
  | nil => exact fun _ => Gives.pure List.Forall₂.nil
  | cons d ds ih =>
    intro first
    unfold declarators
    exact (spells_declarator s below first _ d).bind fun v hv => (ih false).bind fun vs hvs =>
      Gives.pure (List.Forall₂.cons hv hvs)

/-- The declarations that a declaration node stands for: itself if it has
a declarator. -/
def jointsOf (c : Node) : List Joint :=
  if declaratorNames s c = [] then [] else [⟨c.start, declaratorNames s c⟩]

theorem laid_declaredVariables :
    Gives (Laid (jointsOf s n)) (declaredVariables s below) := by
  unfold declaredVariables
  split
  · next h =>
    have hnames : declaratorNames s n = [] := by rw [declaratorNames, h]; rfl
    rw [jointsOf, if_pos hnames]
    exact laid_single fun _ => rfl
  · next hds =>
    have hnames : declaratorNames s n ≠ [] := by
      rw [declaratorNames, ne_eq, List.map_eq_nil_iff]
      exact hds
    rw [jointsOf, if_neg hnames]
    exact fun σ => Laid.one hnames (spells_declarators s below _ true σ)

/-! ## Members and statements -/

theorem isOther_statement : Gives IsOther (statement s below) := by
  unfold statement
  split
  case h_21 =>
    split
    · exact fun _ => rfl
    · split <;> exact fun _ => rfl
  all_goals exact fun _ => rfl

theorem laid_statements :
    Gives (Laid (if n.kind = .localVariableDeclaration then jointsOf s n else []))
      (statements s below) := by
  by_cases h : n.kind = .localVariableDeclaration
  · rw [if_pos h, statements, h]
    exact laid_declaredVariables s below
  · rw [if_neg h]
    unfold statements
    split
    · next hlocal => exact absurd hlocal h
    · exact laid_single (isOther_statement s below)

theorem isOther_staticInitializer : Gives IsOther (staticInitializer below) := by
  unfold staticInitializer
  dsimp only
  split <;> exact fun _ => rfl

/-- Whether a kind is one of the two kinds of declarations of fields. -/
def isField (kind : Kind) : Bool :=
  kind == .fieldDeclaration || kind == .constantDeclaration

theorem laid_members :
    Gives (Laid (if isField n.kind then jointsOf s n else [])) (members s below) := by
  by_cases h : isField n.kind
  · have hfields : members s below = declaredVariables s below := by
      rcases Bool.or_eq_true_iff.1 h with hkind | hkind <;>
        rw [members, eq_of_beq hkind]
    rw [if_pos h, hfields]
    exact laid_declaredVariables s below
  · rw [if_neg h]
    unfold members
    split
    · next hkind => exact absurd (by rw [hkind]; rfl) h
    · next hkind => exact absurd (by rw [hkind]; rfl) h
    · exact laid_single fun _ => rfl
    · exact laid_single fun _ => rfl
    · exact laid_single fun _ => rfl
    · exact laid_single fun _ => rfl
    · exact laid_single fun _ => rfl
    · exact laid_single (isOther_staticInitializer below)
    · split <;> exact laid_single fun _ => rfl

/-! ## Bodies and blocks -/

/-- A declaration node as a declaration of variables. -/
def joint (c : Node) : Joint :=
  ⟨c.start, declaratorNames s c⟩

/-- Those of some nodes that satisfy a condition and have a declarator. -/
def declaring? (declares : Node → Bool) (cs : List Node) : List Node :=
  cs.filter (fun c => declares c && !(declaratorNames s c).isEmpty)

theorem flatMap_jointsOf (declares : Node → Bool) (cs : List Node) :
    cs.flatMap (fun c => if declares c then jointsOf s c else []) =
      (declaring? s declares cs).map (joint s) := by
  induction cs with
  | nil => rfl
  | cons c cs ih =>
    rw [List.flatMap_cons, ih, declaring?, declaring?, List.filter_cons]
    by_cases hc : declares c <;> by_cases hnames : declaratorNames s c = [] <;>
      simp [hc, hnames, jointsOf, joint]

/-- Whether a node among the parts of a body declares fields. -/
def declaresFields (c : Node) : Bool :=
  c.isNamed && isField c.kind

/-- Whether a node among the parts of a block declares local variables. -/
def declaresLocals (c : Node) : Bool :=
  c.isNamed && !c.isMissing && c.kind == .localVariableDeclaration

theorem members_actions (c : Node) :
    (actions s c).members = members s (fun q : Part c => actions s q.1) := by
  rw [actions]
  rfl

theorem statements_actions (c : Node) :
    (actions s c).statements = statements s (fun q : Part c => actions s q.1) := by
  rw [actions]
  rfl

theorem typeDeclaration_actions (c : Node) :
    (actions s c).typeDeclaration = typeDeclaration s (fun q : Part c => actions s q.1) := by
  rw [actions]
  rfl

/-- A declaration of fields is no comment. -/
theorem declaresFields_eq (p : Part n) : declaresFields p.1 = (p.isCode && isField p.kind) := by
  have hcomment : isField p.kind = true → p.kind.isComment = false := by
    intro h
    rcases Bool.or_eq_true_iff.1 h with hkind | hkind <;> rw [eq_of_beq hkind] <;> rfl
  show (p.1.isNamed && isField p.kind) = (p.1.isNamed && !p.kind.isComment && isField p.kind)
  cases hfield : isField p.kind with
  | false => rw [Bool.and_false, Bool.and_false]
  | true => rw [hcomment hfield, Bool.not_false, Bool.and_true, Bool.and_true]

/-- The named parts include all declarations of fields. -/
theorem flatMap_named (ps : Parts n) :
    ps.named.flatMap (fun p => if isField p.kind then jointsOf s p.1 else []) =
      (declaring? s declaresFields (ps.map Subtype.val)).map (joint s) := by
  rw [← flatMap_jointsOf, List.flatMap_map]
  induction ps with
  | nil => rfl
  | cons p ps ih =>
    rw [List.flatMap_cons, ← ih, declaresFields_eq, Parts.named, Parts.named, List.filter_cons]
    by_cases hcode : p.isCode <;> simp [hcode]

theorem laid_membersOf (ps : Parts n) :
    Gives (Laid ((declaring? s declaresFields (ps.map Subtype.val)).map (joint s)))
      (membersOf (fun p => actions s p.1) ps) := by
  rw [← flatMap_named]
  refine gives_gather Laid.nil Laid.append fun p _ => ?_
  show Gives _ (actions s p.1).members
  rw [members_actions]
  exact laid_members s _

theorem laid_blockStatements (ps : Parts n) :
    Gives (Laid ((declaring? s declaresLocals (ps.map Subtype.val)).map (joint s)))
      (blockStatements (fun p => actions s p.1) ps) := by
  rw [← flatMap_jointsOf, List.flatMap_map]
  refine gives_gather Laid.nil Laid.append fun p _ => ?_
  have hstatements := laid_statements s (fun q : Part p.1 => actions s q.1)
  rw [← statements_actions] at hstatements
  by_cases hlocal : declaresLocals p.1
  · have hparts : (p.1.isNamed = true ∧ p.1.isMissing = false) ∧
        p.1.kind = .localVariableDeclaration := by
      simpa [declaresLocals] using hlocal
    obtain ⟨⟨hnamed, hmissing⟩, hkind⟩ := hparts
    rw [if_pos hkind] at hstatements
    have hblock : blockStatement (fun p => actions s p.1) p = (actions s p.1).statements := by
      simp [blockStatement, Part.kind, hkind, hmissing, hnamed, Kind.isComment]
    rw [if_pos hlocal, hblock]
    exact hstatements
  · rw [if_neg hlocal]
    unfold blockStatement
    split
    · exact Gives.pure Laid.nil
    · next hskipped =>
      split
      · exact Gives.pure Laid.nil
      · split
        · exact laid_single fun _ => rfl
        · split
          · next hnamed =>
            -- what is named and there is no declaration of local variables
            have hkind : p.1.kind ≠ .localVariableDeclaration := by
              intro hkind
              simp_all [declaresLocals, Part.kind, Kind.isComment]
            rw [if_neg hkind] at hstatements
            exact hstatements
          · exact Gives.pure Laid.nil

/-- A tree is a block whose statements are laid out from declarations. -/
def LaidBlock (js : List Joint) (u : Foreign.Tree) : Prop :=
  ∃ isStatic statements, u.shape = .block isStatic statements ∧ Laid js statements

/-- A tree is a type whose members, without constants and components, are
laid out from declarations. -/
def LaidBody (js : List Joint) (u : Foreign.Tree) : Prop :=
  ∃ mods name classKind typeParameters extending implementing permitting members,
    u.shape = .classDef mods name classKind typeParameters extending implementing permitting
      members ∧ Laid js (members.filter (fun v => !isHead classKind v))

theorem laidBlock_block :
    Gives (LaidBlock ((declaring? s declaresLocals n.children).map (joint s)))
      (block (fun p : Part n => actions s p.1)) := by
  unfold block
  rw [← Node.map_val_parts]
  exact (laid_blockStatements s n.parts).bind fun statements h _ => ⟨_, statements, rfl, h⟩

theorem laidBlock_blockAt (b : Part n) :
    Gives (LaidBlock ((declaring? s declaresLocals b.1.children).map (joint s)))
      (blockAt (fun p => actions s p.1) b) := by
  unfold blockAt
  rw [← Part.map_val_parts]
  exact (laid_blockStatements s b.parts).bind fun statements h _ => ⟨_, statements, rfl, h⟩

theorem laidBlock_staticInitializer {b : Part n} (hb : n.parts.ofKind? .block = some b) :
    Gives (LaidBlock ((declaring? s declaresLocals b.1.children).map (joint s)))
      (staticInitializer (fun p : Part n => actions s p.1)) := by
  unfold staticInitializer
  rw [hb, ← Part.map_val_parts]
  exact (laid_blockStatements s b.parts).bind fun statements h _ => ⟨_, statements, rfl, h⟩

theorem laidBody_anonymousClass (b : Part n) :
    Gives (LaidBody ((declaring? s declaresFields b.1.children).map (joint s)))
      (anonymousClass (fun p => actions s p.1) b) := by
  unfold anonymousClass
  rw [← Part.map_val_parts]
  exact (laid_membersOf s b.parts).bind fun members h _ =>
    ⟨_, _, _, _, _, _, _, members, rfl, h.bodyMembers⟩

/-! ## Types -/

/-- The nodes among which the body of a type has its members: those right
below it, and in an enum those below its declarations after the
constants. -/
def memberNodes (kind : Kind) (b : Node) : List Node :=
  if kind = .enumDeclaration then
    b.children.flatMap (fun c =>
      if c.isNamed && c.kind == .enumBodyDeclarations then c.children else [])
  else b.children

theorem isHead_withVariableFlags (v : Foreign.Tree) :
    asVariable? (v.withVariableFlags componentFlags).shape = none ∨
      isHead .recordType (v.withVariableFlags componentFlags) = true := by
  obtain ⟨id, start, position, stop, shape⟩ := v
  cases shape with
  | varDef mods name type dims value =>
    refine Or.inr ?_
    have hflag : Foreign.Flag.isIn Foreign.Flag.recordType componentFlags = true := by decide
    show Foreign.Flag.isIn Foreign.Flag.recordType (mods.flags ||| componentFlags) = true
    rw [Conversion.isIn_or, hflag, Bool.or_true]
  | _ => exact Or.inl rfl

/-- The components of a record are taken out of its members again. -/
theorem heads_components (form : TypeForm) :
    Gives (fun cs => Laid [] (cs.filter (fun v => !isHead form.classKind v)))
      (components s below form) := by
  unfold components
  split
  · next h =>
    rw [h]
    refine Gives.last fun parameters => Gives.pure ?_
    refine Conversion.laid_nil_of_heads fun u hu => ?_
    obtain ⟨v, -, rfl⟩ := List.mem_map.1 hu
    exact isHead_withVariableFlags v
  · exact Gives.pure Laid.nil

theorem heads_enumConstant (enumName : String) (p : Part n) :
    Gives (fun v => isHead .enumType v = true) (enumConstant s below enumName p) := by
  refine gives_declaring s below fun mods _ σ => ?_
  have hflag : Foreign.Flag.isIn Foreign.Flag.enumType enumConstantFlags = true := by decide
  show (Foreign.Flag.isIn Foreign.Flag.enumType (mods.flags ||| enumConstantFlags) || false) = true
  rw [Conversion.isIn_or, hflag, Bool.or_true, Bool.or_false]

theorem kind_of_enumType {kind : Kind} (h : (typeForm kind).classKind = .enumType) :
    kind = .enumDeclaration := by
  unfold typeForm at h
  split at h <;> first | rfl | cases h

/-- The members of an enum are those of its declarations after the
constants. -/
theorem flatMap_enumBodies (ps : Parts n) :
    ps.named.flatMap (fun p => if p.kind = .enumBodyDeclarations then
        (declaring? s declaresFields p.1.children).map (joint s) else []) =
      (declaring? s declaresFields ((ps.map Subtype.val).flatMap (fun c =>
        if c.isNamed && c.kind == .enumBodyDeclarations then c.children else []))).map
          (joint s) := by
  induction ps with
  | nil => rfl
  | cons p ps ih =>
    rw [List.map_cons, List.flatMap_cons, declaring?, List.filter_append, List.map_append,
      ← declaring?, ← declaring?, ← ih, Parts.named, Parts.named, List.filter_cons]
    by_cases hkind : p.kind = .enumBodyDeclarations
    · have hcode : p.isCode = p.1.isNamed := by simp [Part.isCode, hkind, Kind.isComment]
      have hkind' : p.1.kind = .enumBodyDeclarations := hkind
      by_cases hnamed : p.1.isNamed <;>
        simp [hcode, hkind, hkind', hnamed, declaring?]
    · have hkind' : p.1.kind ≠ .enumBodyDeclarations := hkind
      by_cases hcode : p.isCode <;> simp [hcode, hkind, hkind', declaring?]

theorem laid_enumMember (enumName : String) (p : Part n) :
    Gives (fun ms => Laid (if p.kind = .enumBodyDeclarations then
        (declaring? s declaresFields p.1.children).map (joint s) else [])
        (ms.filter (fun v => !isHead .enumType v)))
      (enumMember s (fun p : Part n => actions s p.1) enumName p) := by
  by_cases hkind : p.kind = .enumBodyDeclarations
  · rw [if_pos hkind, enumMember, hkind, ← Part.map_val_parts]
    exact fun σ => (laid_membersOf s p.parts σ).bodyMembers
  · rw [if_neg hkind]
    unfold enumMember
    split
    · refine (heads_enumConstant s _ enumName p).bind fun v hv => Gives.pure ?_
      exact Conversion.laid_nil_of_heads fun u hu => Or.inr (List.mem_singleton.1 hu ▸ hv)
    · next h => exact absurd h hkind
    · refine Gives.bind (Q := IsOther) ?_ fun v hv => Gives.pure ?_
      · show Gives IsOther (actions s p.1).malformed
        rw [actions]
        exact fun _ => rfl
      · exact Conversion.laid_nil_of_heads fun u hu => Or.inl (List.mem_singleton.1 hu ▸ hv)

theorem laid_typeBody {b : Part n} (hb : n.parts.field? .body = some b) (name : String) :
    Gives (fun ms => Laid ((declaring? s declaresFields (memberNodes n.kind b.1)).map (joint s))
        (ms.filter (fun v => !isHead (typeForm n.kind).classKind v)))
      (typeBody s (fun p : Part n => actions s p.1) (typeForm n.kind) name) := by
  by_cases henum : n.kind = .enumDeclaration
  · have hbody : typeBody s (fun p : Part n => actions s p.1) (typeForm n.kind) name =
        gather (enumMember s (fun p : Part n => actions s p.1) name) b.parts.named := by
      unfold typeBody
      rw [hb, henum]
      rfl
    have hform : (typeForm n.kind).classKind = .enumType := by rw [henum]; rfl
    rw [hbody, hform, memberNodes, if_pos henum, ← Part.map_val_parts, ← flatMap_enumBodies]
    refine gives_gather (P := fun js ms => Laid js (ms.filter fun v => !isHead .enumType v))
      Laid.nil (fun h h' => ?_) fun p _ => laid_enumMember s name p
    rw [List.filter_append]
    exact h.append h'
  · have hbody : typeBody s (fun p : Part n => actions s p.1) (typeForm n.kind) name =
        membersOf (fun p : Part n => actions s p.1) b.parts := by
      unfold typeBody
      rw [hb]
      split
      · next h => cases h
      · next _ hkind => exact absurd (kind_of_enumType hkind) henum
      · next _ hbody _ =>
        obtain rfl := Option.some.inj hbody
        rfl
    rw [hbody, memberNodes, if_neg henum, ← Part.map_val_parts]
    exact fun σ => (laid_membersOf s b.parts σ).bodyMembers

theorem laidBody_typeDeclaration {b : Part n} (hb : n.parts.field? .body = some b) :
    Gives (LaidBody ((declaring? s declaresFields (memberNodes n.kind b.1)).map (joint s)))
      (typeDeclaration s (fun p : Part n => actions s p.1)) := by
  refine gives_declaring s _ fun mods _ => ?_
  unfold typeAfter
  refine Gives.last fun typeParameters => Gives.last fun extending => ?_
  refine Gives.last fun implementing => Gives.last fun permitting => ?_
  refine (heads_components s _ _).bind fun cs hcs => ?_
  refine (laid_typeBody s hb _).bind fun ms hms _ => ?_
  refine ⟨_, _, _, _, _, _, _, _, rfl, ?_⟩
  rw [List.filter_append]
  exact hcs.append hms

end Lowering

end TreeBridge

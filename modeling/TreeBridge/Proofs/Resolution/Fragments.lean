import TreeBridge.Proofs.Conversion.Regions
import TreeBridge.Proofs.Lowering.Layout
/-!
# Declarations of variables come back as they were

A declaration of several variables is split when it is lowered and put
together again when it is converted. Both ways meet at the layout of a
list of trees: lowering lays the declarations of a region out, each with
a start of its own, and grouping finds them by their starts. So the
declarations of fields below a converted type, and of local variables
below a converted block, are those of the source, with their fragments.
-/

namespace TreeBridge

open Concrete (Node)
open Foreign (Tree)
open Foreign.Tree (Part Parts Subtree)
open Unified (NodeId Arena)

namespace Conversion

/-- Nodes that follow each other in the source text, each with a text of
its own. -/
structure InSourceOrder (cs : List Node) : Prop where
  disjoint : cs.Pairwise (fun c d => c.stop ≤ d.start)
  nonempty : ∀ c ∈ cs, c.start < c.stop

/-- Whether a node among those of a region is a declaration of
variables. -/
def Region.declares : Region → Node → Bool
  | .members => Lowering.declaresFields
  | .statements => Lowering.declaresLocals

/-- The declarations of variables among the nodes of a region that have a
declarator, in order. -/
def Region.sources (s : Source) (r : Region) (cs : List Node) : List Node :=
  Lowering.declaring? s r.declares cs

/-- Every way in which the nodes of a region are lowered to a tree: as the
body of a type or of an anonymous class, or as a block of its own, of
another construct or of a static initializer. -/
inductive Lowers (s : Source) : Region → List Node → Tree → Prop
  | type {n : Node} {b : Node.Part n} (hb : n.parts.field? .body = some b) (σ : Lowering.State) :
    Lowers s .members (Lowering.memberNodes n.kind b.1)
      ((Lowering.actions s n).typeDeclaration σ).1
  | anonymousClass {n : Node} (b : Node.Part n) (σ : Lowering.State) :
    Lowers s .members b.1.children
      (Lowering.anonymousClass (fun p => Lowering.actions s p.1) b σ).1
  | block (n : Node) (σ : Lowering.State) :
    Lowers s .statements n.children
      (Lowering.block (fun p : Node.Part n => Lowering.actions s p.1) σ).1
  | blockAt {n : Node} (b : Node.Part n) (σ : Lowering.State) :
    Lowers s .statements b.1.children
      (Lowering.blockAt (fun p => Lowering.actions s p.1) b σ).1
  | staticInitializer {n : Node} {b : Node.Part n} (hb : n.parts.ofKind? .block = some b)
    (σ : Lowering.State) :
    Lowers s .statements b.1.children
      (Lowering.staticInitializer (fun p : Node.Part n => Lowering.actions s p.1) σ).1

/-- Every way in which a tree is converted to a node with the contents of
a region: as a type, as an anonymous class, as a statement, as a block of
another construct, or as the body of an initializer. -/
inductive Converts (ctx : Context) (τ : State) : Region → Tree → NodeId → State → Prop
  | type {t : Tree} {d : NodeId} {τ' : State}
    (hrun : (actions t).typeDeclaration ctx τ = .ok (d, τ')) : Converts ctx τ .members t d τ'
  | anonymousClass {t : Tree} {p : Part t} {d : NodeId} {τ' : State}
    {mods : Foreign.Modifiers (Part t)} {name : String} {extending : Option (Part t)}
    {typeParameters implementing permitting members : Parts t} (hp : Subtree p.1 t)
    (hclass : p.parts = .classDef mods name .classType typeParameters extending implementing
      permitting members)
    (hrun : anonymousClass (fun q => actions q.1) p ctx τ = .ok (d, τ')) :
    Converts ctx τ .members p.1 d τ'
  | block {t : Tree} {d : NodeId} {τ' : State}
    (hrun : (actions t).statement ctx τ = .ok (d, τ')) : Converts ctx τ .statements t d τ'
  | blockAt {t : Tree} {p : Part t} {d : NodeId} {τ' : State} (hp : Subtree p.1 t)
    (hrun : blockAt (fun q => actions q.1) p ctx τ = .ok (d, τ')) :
    Converts ctx τ .statements p.1 d τ'
  | initializer {t : Tree} {p : Part t} {isStatic : Bool} {statements : Parts t} {i d : NodeId}
    {τ' : State} (hp : Subtree p.1 t)
    (hblock : p.parts = .block isStatic statements)
    (hrun : initializer (fun q => actions q.1) p isStatic statements ctx τ = .ok (i, τ'))
    (hbody : τ'.arena.child? i .body = some d) : Converts ctx τ .statements p.1 d τ'

variable {s : Source} {r : Region} {cs : List Node} {t : Tree} {js : List Joint}

/-- What a tree with the contents of a region is laid out from. -/
def LaidOut (r : Region) (js : List Joint) (t : Tree) : Prop :=
  match r with
  | .members => Lowering.LaidBody js t
  | .statements => Lowering.LaidBlock js t

/-- **Lowering lays the declarations of a region out.** -/
theorem laidOut_of_lowers (h : Lowers s r cs t) :
    LaidOut r ((r.sources s cs).map (Lowering.joint s)) t := by
  cases h with
  | type hb σ =>
    rw [Lowering.typeDeclaration_actions]
    exact Lowering.laidBody_typeDeclaration s hb σ
  | anonymousClass b σ => exact Lowering.laidBody_anonymousClass s b σ
  | block n σ => exact Lowering.laidBlock_block s σ
  | blockAt b σ => exact Lowering.laidBlock_blockAt s b σ
  | staticInitializer hb σ => exact Lowering.laidBlock_staticInitializer s hb σ

/-! ## Every conversion of a region groups it -/

/-- The groups that declarations of a region were put into stand below a
node. -/
def Holds (r : Region) (js : List Joint) (d : NodeId) (a : Arena) : Prop :=
  ∃ (t : Tree) (k : ℕ) (gs : List (Group t)), Grouped js gs ∧ Stands r k gs d a

variable {K : ℕ → Prop} {below : Below t} {ctx : Context} {τ τ' : State} {d : NodeId}

theorem holds_typeDeclaration (hb : Grounded K below) (hd : Discerning below)
    (hl : Lowering.LaidBody js t) (ha : Ascending js)
    (hrun : typeDeclaration below ctx τ = .ok (d, τ')) : Holds .members js d τ'.arena := by
  obtain ⟨mods, name, classKind, typeParameters, extending, implementing, permitting, members,
    σ, h, -, hnew, -, hempty, -, -, -, hmembers⟩ := typeDeclaration_eq_ok hb hrun
  obtain ⟨_, _, _, _, _, _, _, trees, hshape, hlaid⟩ := hl
  -- the tree that was lowered is the one that is converted, so its parts are those laid out
  rw [← Foreign.Tree.map_val_parts, h] at hshape
  cases hshape
  rw [← map_val_bodyMembers] at hlaid
  have hsub (q : Part t) (hq : q ∈ bodyMembers classKind members) : Subtree q.1 t :=
    subtree_of_parts h (by simp [Foreign.Shape.children, (List.mem_filter.1 hq).1])
  exact ⟨t, _, _, grouped_groups hlaid ha _ rfl, stands_addMembers hb hd hsub hnew hempty hmembers⟩

theorem holds_anonymousClass (hb : Grounded K below) (hd : Discerning below)
    {p : Part t} (hp : Subtree p.1 t) (hl : Lowering.LaidBody js p.1) (ha : Ascending js)
    {mods : Foreign.Modifiers (Part t)} {name : String} {extending : Option (Part t)}
    {typeParameters implementing permitting members : Parts t}
    (hclass : p.parts = .classDef mods name .classType typeParameters extending implementing
      permitting members)
    (hrun : anonymousClass below p ctx τ = .ok (d, τ')) : Holds .members js d τ'.arena := by
  obtain ⟨_, _, _, _, _, _, _, trees, hshape, hlaid⟩ := hl
  rw [← Foreign.Tree.Part.map_val_parts, hclass] at hshape
  cases hshape
  -- a class has neither constants nor components
  have hall : bodyMembers .classType members = members :=
    List.filter_eq_self.2 fun q _ => by simp [isEnumConstant, isComponent]
  rw [← map_val_bodyMembers, hall] at hlaid
  unfold anonymousClass at hrun
  rw [hclass] at hrun
  obtain ⟨d, σ₁, hmade, hrun⟩ := bind_eq_ok.1 hrun
  obtain ⟨_, σ₂, hinside, hrun⟩ := bind_eq_ok.1 hrun
  obtain ⟨rfl, rfl⟩ := pure_eq_ok.1 hrun
  have hmembers : addMembers below d .classType members { ctx with typeName := "" } σ₁ =
      .ok ((), σ₂) := hinside
  obtain ⟨-, hnew, -⟩ := allocAt_eq_ok hmade
  have hsub (q : Part t) (hq : q ∈ members) : Subtree q.1 t :=
    subtree_of_partsOf hp hclass (by simp [Foreign.Shape.children, hq])
  exact ⟨t, _, _, grouped_groups hlaid ha _ rfl,
    stands_addMembers hb hd hsub hnew (list_of_allocAt hmade _) hmembers⟩

/-- A block is made over a tree and gets the statements in it. -/
theorem holds_statements (hb : Grounded K below) (hd : Discerning below)
    {v : Tree} {ps : Parts t} (hps : ∀ p ∈ ps, Subtree p.1 t)
    (hlaid : Laid js (ps.map Subtype.val)) (ha : Ascending js)
    (hrun : (do
      let id ← alloc v .block
      addStatements below id ps
      pure id : Convert NodeId) ctx τ = .ok (d, τ')) : Holds .statements js d τ'.arena := by
  have hg : Grouped js (groups ps) := grouped_groups hlaid ha ps rfl
  obtain ⟨d, σ₁, hmade, hrun⟩ := bind_eq_ok.1 hrun
  obtain ⟨_, σ₂, hstatements, hrun⟩ := bind_eq_ok.1 hrun
  obtain ⟨rfl, rfl⟩ := pure_eq_ok.1 hrun
  exact ⟨t, _, _, hg, stands_addStatements hb hd hps hg hmade hstatements⟩

theorem holds_block (hb : Grounded K below) (hd : Discerning below)
    (hl : Lowering.LaidBlock js t) (ha : Ascending js)
    (hrun : statement below ctx τ = .ok (d, τ')) : Holds .statements js d τ'.arena := by
  obtain ⟨_, trees, hshape, hlaid⟩ := hl
  rw [← Foreign.Tree.map_val_parts] at hshape
  obtain ⟨ps, h, rfl⟩ := Foreign.Shape.eq_block_of_map hshape
  rw [statement, h] at hrun
  exact holds_statements hb hd
    (fun q hq => subtree_of_parts h (by simp [Foreign.Shape.children, hq])) hlaid ha hrun

theorem holds_blockAt (hb : Grounded K below) (hd : Discerning below)
    {p : Part t} (hp : Subtree p.1 t) (hl : Lowering.LaidBlock js p.1) (ha : Ascending js)
    (hrun : blockAt below p ctx τ = .ok (d, τ')) : Holds .statements js d τ'.arena := by
  obtain ⟨_, trees, hshape, hlaid⟩ := hl
  rw [← Foreign.Tree.Part.map_val_parts] at hshape
  obtain ⟨ps, h, rfl⟩ := Foreign.Shape.eq_block_of_map hshape
  rw [blockAt, h] at hrun
  exact holds_statements hb hd
    (fun q hq => subtree_of_partsOf hp h (by simp [Foreign.Shape.children, hq])) hlaid ha hrun

theorem holds_initializer (hb : Grounded K below) (hd : Discerning below)
    {p : Part t} (hp : Subtree p.1 t) (hl : Lowering.LaidBlock js p.1) (ha : Ascending js)
    {isStatic : Bool} {statements : Parts t} {i : NodeId}
    (hblock : p.parts = .block isStatic statements)
    (hrun : initializer below p isStatic statements ctx τ = .ok (i, τ'))
    (hbody : τ'.arena.child? i .body = some d) : Holds .statements js d τ'.arena := by
  obtain ⟨_, trees, hshape, hlaid⟩ := hl
  rw [← Foreign.Tree.Part.map_val_parts, hblock] at hshape
  cases hshape
  have hg : Grouped js (groups statements) := grouped_groups hlaid ha _ rfl
  have hsub (q : Part t) (hq : q ∈ statements) : Subtree q.1 t :=
    subtree_of_partsOf hp hblock (by simp [Foreign.Shape.children, hq])
  obtain ⟨σ, hi, -, hempty, span, body, σ₁, σ₂, hmade, hstatements, rfl⟩ := initializer_eq_ok hrun
  have hstands := stands_addStatements hb hd hsub hg hmade hstatements
  obtain ⟨hid, hnew, -⟩ := allocAt_eq_ok hmade
  have hmakes := (yields_allocAt (hb.known _ hp) _ _ (by rfl)).touches hmade
  have hfills := (keeps_addStatements hb body hsub).touches hstatements
  have hi₁ := Nat.lt_of_lt_of_le hi hmakes.size_le
  -- the initializer had no body before, so the block is the body it has
  have hlist : σ₂.arena.list i .body = [] := by
    rw [Arena.list, (hmakes.trans hfills).entries hi List.not_mem_nil, ← Arena.list, hempty]
  have hchild : (σ₂.arena.addChild i .body body).child? i .body = some body := by
    rw [Arena.child?_eq_head?, Arena.list_addChild_self (Nat.lt_of_lt_of_le hi₁ hfills.size_le),
      hlist]
    rfl
  obtain rfl : body = d := Option.some.inj (hchild.symm.trans hbody)
  have hne : body ≠ i := by
    rw [hid]
    exact Nat.ne_of_gt hi
  -- hanging the body below the initializer changes the initializer only
  exact ⟨t, _, _, hg, hstands.spared (Unified.LeavesOthers.addChild i .body body) hi₁
    (Nat.lt_of_lt_of_le hnew hfills.size_le) hne⟩

/-- **A conversion groups what stands in a region** into the declarations
it is laid out from. -/
theorem holds_of_converts (hl : LaidOut r js t) (ha : Ascending js)
    (hc : Converts ctx τ r t d τ') : Holds r js d τ'.arena := by
  cases hc with
  | type hrun =>
    rw [actions] at hrun
    exact holds_typeDeclaration (grounded_actions t) (discerning_actions t) hl ha hrun
  | @anonymousClass t' p _ _ mods name extending typeParameters implementing permitting members
      hp hclass hrun =>
    exact holds_anonymousClass (grounded_actions t') (discerning_actions t') hp hl ha hclass hrun
  | block hrun =>
    rw [actions] at hrun
    exact holds_block (grounded_actions t) (discerning_actions t) hl ha hrun
  | @blockAt t' p _ _ hp hrun =>
    exact holds_blockAt (grounded_actions t') (discerning_actions t') hp hl ha hrun
  | @initializer t' p isStatic statements i _ _ hp hblock hrun hbody =>
    exact holds_initializer (grounded_actions t') (discerning_actions t') hp hl ha hblock hrun
      hbody

/-- A conversion leaves the flags of the nodes to come. -/
theorem defaultFlags_of_converts (hc : Converts ctx τ r t d τ') :
    τ'.arena.defaultFlags = τ.arena.defaultFlags := by
  have hsound (v : Tree) : (actions v).Sound fun _ => True := sound_actions v fun _ _ => trivial
  cases hc with
  | type hrun => exact ((hsound t).typeDeclaration.touches hrun).defaultFlags
  | @anonymousClass t' p _ _ mods name extending typeParameters implementing permitting members
      hp hclass hrun =>
    exact ((yields_anonymousClass (grounded_actions t') hp).touches hrun).defaultFlags
  | block hrun => exact ((hsound t).statement.touches hrun).defaultFlags
  | @blockAt t' p _ _ hp hrun =>
    exact ((yields_blockAt (grounded_actions t') hp).touches hrun).defaultFlags
  | @initializer t' p isStatic statements i _ _ hp hblock hrun hbody =>
    have hsub (q : Part t') (hq : q ∈ statements) : Subtree q.1 t' :=
      subtree_of_partsOf hp hblock (by simp [Foreign.Shape.children, hq])
    exact ((yields_initializer (grounded_actions t') hp isStatic hsub).touches hrun).defaultFlags

/-! ## There and back -/

theorem ascending_sources (s : Source) (r : Region) {cs : List Node} (h : InSourceOrder cs) :
    Ascending ((r.sources s cs).map (Lowering.joint s)) where
  known := by
    intro j hj
    obtain ⟨c, -, rfl⟩ := List.mem_map.1 hj
    exact Int.natCast_nonneg c.start
  pairwise := by
    have hstarts : cs.Pairwise (fun c d => c.start < d.start) :=
      h.disjoint.imp_of_mem fun hc _ hle => Nat.lt_of_lt_of_le (h.nonempty _ hc) hle
    exact List.pairwise_map.2 ((hstarts.filter _).imp fun hlt => Int.ofNat_lt.2 hlt)

/-- **Declarations of variables come back as they were.** A body or a
block whose nodes follow each other in the text is lowered to a tree; the
tree is converted to a node. Then the declarations of variables below the
node are those of the body or the block that have a declarator, one by
one and in order, and each has a fragment for every declarator, in order
and under its name. -/
theorem fragmentNames_declarations {cs : List Node} (hl : Lowers s r cs t)
    (ho : InSourceOrder cs) (hc : Converts ctx τ r t d τ')
    (hf : τ.arena.defaultFlags = Unified.Flag.converted) :
    (r.declarations τ'.arena d).map (fragmentNames τ'.arena) =
      (r.sources s cs).map (fun c => (Lowering.declaratorNames s c).map some) := by
  obtain ⟨root, k, gs, hg, hstands⟩ :=
    holds_of_converts (laidOut_of_lowers hl) (ascending_sources s r ho) hc
  rw [hstands.map_fragmentNames hg ((defaultFlags_of_converts hc).trans hf), List.map_map]
  rfl

theorem exists_of_isOk {x : Except Unsupported (NodeId × State)} (h : x.isOk = true) :
    ∃ d τ', x = .ok (d, τ') := by
  cases x with
  | error e => cases h
  | ok made => exact ⟨made.1, made.2, rfl⟩

/-- Variables of type `int`, with names of one letter that start at given
offsets. -/
def intVariables (kind : Concrete.Kind) (start stop : ℕ) (names : List ℕ) : Node :=
  .mk kind none true false false start stop
    (.mk .integralType (some .type) true false false start (start + 3) [] ::
      names.map (fun i => .mk .variableDeclarator (some .declarator) true false false i (i + 1)
        [.mk .identifier (some .name) true false false i (i + 1) []]))

/-- A class with fields and a method with local variables. -/
def variablesSource : Source :=
  .ofString "class A \x7b int a, b; int c; void m() \x7b int i, j; int k; \x7d \x7d"

/-- The body of the method. -/
def localsBlock : Node :=
  .mk .block (some .body) true false false 36 56 [
    .mk (.token "\x7b") none false false false 36 37 [],
    intVariables .localVariableDeclaration 38 47 [42, 45],
    intVariables .localVariableDeclaration 48 54 [52],
    .mk (.token "\x7d") none false false false 55 56 []]

/-- The class. -/
def fieldsClass : Node :=
  .mk .classDeclaration none true false false 0 58 [
    .mk (.token "class") none false false false 0 5 [],
    .mk .identifier (some .name) true false false 6 7 [],
    .mk .classBody (some .body) true false false 8 58 [
      .mk (.token "\x7b") none false false false 8 9 [],
      intVariables .fieldDeclaration 10 19 [14, 17],
      intVariables .fieldDeclaration 20 26 [24],
      .mk .methodDeclaration none true false false 27 56 [
        .mk .voidType (some .type) true false false 27 31 [],
        .mk .identifier (some .name) true false false 32 33 [],
        .mk .formalParameters (some .parameters) true false false 33 35 [],
        localsBlock],
      .mk (.token "\x7d") none false false false 57 58 []]]

/-- The foreign tree of the class. -/
def fieldsTree : Tree :=
  ((Lowering.actions variablesSource fieldsClass).typeDeclaration .initial).1

/-- The foreign tree of the body of the method. -/
def localsTree : Tree :=
  (Lowering.block (fun p : Node.Part localsBlock => Lowering.actions variablesSource p.1)
    .initial).1

/-- The nodes of the body of the class. -/
def fieldNodes : List Node :=
  Lowering.memberNodes fieldsClass.kind fieldsClass.parts[2].1

/-- The context in which the class is converted. -/
def variablesContext : Context :=
  ⟨variablesSource, .latest, ""⟩

theorem fragmentNames_declarations_variablesSource :
    (∃ d τ', (actions fieldsTree).typeDeclaration variablesContext .initial = .ok (d, τ') ∧
      (Region.members.declarations τ'.arena d).map (fragmentNames τ'.arena) =
        [[some "a", some "b"], [some "c"]]) ∧
    ∃ d τ', (actions localsTree).statement variablesContext .initial = .ok (d, τ') ∧
      (Region.statements.declarations τ'.arena d).map (fragmentNames τ'.arena) =
        [[some "i", some "j"], [some "k"]] := by
  have hstart : State.initial.arena.defaultFlags = Unified.Flag.converted := rfl
  constructor
  · have hlowers : Lowers variablesSource .members fieldNodes fieldsTree :=
      Lowers.type (b := fieldsClass.parts[2]) rfl .initial
    have horder : InSourceOrder fieldNodes := ⟨by decide +kernel, by decide +kernel⟩
    have hsources : (Region.members.sources variablesSource fieldNodes).map
        (fun c => (Lowering.declaratorNames variablesSource c).map some) =
          [[some "a", some "b"], [some "c"]] := by decide +kernel
    have hok : ((actions fieldsTree).typeDeclaration variablesContext .initial).isOk = true := by
      decide +kernel
    obtain ⟨d, τ', hrun⟩ := exists_of_isOk hok
    exact ⟨d, τ', hrun,
      (fragmentNames_declarations hlowers horder (Converts.type hrun) hstart).trans hsources⟩
  · have hlowers : Lowers variablesSource .statements localsBlock.children localsTree :=
      Lowers.block localsBlock .initial
    have horder : InSourceOrder localsBlock.children := ⟨by decide +kernel, by decide +kernel⟩
    have hsources : (Region.statements.sources variablesSource localsBlock.children).map
        (fun c => (Lowering.declaratorNames variablesSource c).map some) =
          [[some "i", some "j"], [some "k"]] := by decide +kernel
    have hok : ((actions localsTree).statement variablesContext .initial).isOk = true := by
      decide +kernel
    obtain ⟨d, τ', hrun⟩ := exists_of_isOk hok
    exact ⟨d, τ', hrun,
      (fragmentNames_declarations hlowers horder (Converts.block hrun) hstart).trans hsources⟩

/-- The text of a loop that ends in its head. -/
def brokenLoopSource : Source :=
  .ofString "class A \x7b void m() \x7b for (int i = 0; \x7d \x7d"

/-- The block around the loop. The parser places the head of the loop
nowhere. -/
def brokenLoopBlock : Node :=
  .mk .block (some .body) true false false 19 38 [
    .mk (.token "\x7b") none false false false 19 20 [],
    .mk (.token "ERROR") none true false true 21 36 [
      .mk (.token "for") none false false false 21 24 [],
      .mk (.token "(") none false false false 25 26 [],
      .mk .localVariableDeclaration none true false false 26 36 [
        .mk .integralType (some .type) true false false 26 29 [],
        .mk .variableDeclarator (some .declarator) true false false 30 35 [
          .mk .identifier (some .name) true false false 30 31 [],
          .mk (.token "=") none false false false 32 33 [],
          .mk .decimalIntegerLiteral (some .value) true false false 34 35 []],
        .mk (.token ";") none false false false 35 36 []]],
    .mk (.token "\x7d") none false false false 37 38 []]

/-- The foreign tree of the block. -/
def brokenLoopTree : Tree :=
  (Lowering.block (fun p : Node.Part brokenLoopBlock => Lowering.actions brokenLoopSource p.1)
    .initial).1

/-- A block without declarations of its own gets one that is salvaged from
malformed source, so only those that are not marked are those of the
block. -/
theorem variables_brokenLoopBlock :
    Lowers brokenLoopSource .statements brokenLoopBlock.children brokenLoopTree ∧
      InSourceOrder brokenLoopBlock.children ∧
      Region.statements.sources brokenLoopSource brokenLoopBlock.children = [] ∧
      ∃ d τ', Converts ⟨brokenLoopSource, .latest, ""⟩ .initial .statements brokenLoopTree d τ' ∧
        ((τ'.arena.list d .statements).filter
            (fun i => τ'.arena.kind i == .variableDeclarationStatement)).map
          (fragmentNames τ'.arena) = [[some "i"]] := by
  have hmade : ((actions brokenLoopTree).statement ⟨brokenLoopSource, .latest, ""⟩
      .initial).toOption.any (fun made =>
        decide (((made.2.arena.list made.1 .statements).filter
            (fun i => made.2.arena.kind i == .variableDeclarationStatement)).map
          (fragmentNames made.2.arena) = [[some "i"]])) = true := by decide +kernel
  refine ⟨Lowers.block brokenLoopBlock .initial, ⟨by decide +kernel, by decide +kernel⟩,
    by decide +kernel, ?_⟩
  cases hrun : (actions brokenLoopTree).statement ⟨brokenLoopSource, .latest, ""⟩ .initial with
  | error e =>
    rw [hrun] at hmade
    cases hmade
  | ok made =>
    rw [hrun] at hmade
    exact ⟨made.1, made.2, Converts.block hrun, of_decide_eq_true hmade⟩

end Conversion

end TreeBridge

import TreeBridge.Proofs.Conversion.WholeArena
import TreeBridge.Proofs.Unified.Names
/-!
# The names of converted types

A class type is written with identifiers, selections, type arguments and
annotations in any nesting. Its dotted name leaves the arguments and the
annotations out. The conversion keeps that name, though it makes a simple
type of a plain chain of identifiers and qualified and parameterized types
of other chains.
-/

namespace TreeBridge

namespace Conversion

open Foreign (Tree Shape)
open Foreign.Tree (Part Parts)
open Unified (NodeId NodeKind Slot Arena Enlarges)

/-- A foreign tree of identifiers, selections, type arguments and annotated
types, and the dotted name that is left of it without arguments and
annotations. -/
inductive NamesType : Tree → String → Prop
  | ident {id : ℕ} {start position stop : Int} (name : String) :
    NamesType (.node id start position stop (.ident name)) name
  | select {id : ℕ} {start position stop : Int} {selected : Tree} {qualifier : String}
    (h : NamesType selected qualifier) (name : String) :
    NamesType (.node id start position stop (.select selected name)) (qualifier ++ "." ++ name)
  | typeApply {id : ℕ} {start position stop : Int} {base : Tree} {name : String}
    (h : NamesType base name) (arguments : List Tree) :
    NamesType (.node id start position stop (.typeApply base arguments)) name
  | annotatedType {id : ℕ} {start position stop : Int} {underlying : Tree} {name : String}
    (h : NamesType underlying name) (annotations : List Tree) :
    NamesType (.node id start position stop (.annotatedType annotations underlying)) name

variable {t : Tree} {ctx : Context} {σ σ' : State} {id : NodeId} {s : String}

/-! ## Nodes over what has been made -/

theorem addChild_eq_ok {parent : NodeId} {slot : Slot} {child : NodeId} {u : Unit}
    (hrun : addChild parent slot child ctx σ = .ok (u, σ')) :
    σ'.arena = σ.arena.addChild parent slot child := by
  cases hrun
  rfl

/-- A node of a kind that has been made since `a`, so that it is newer than
every node of `a`. -/
structure Over (a b : Arena) (made : NodeKind) (id : NodeId) : Prop extends Enlarges a b where
  kind_eq : b.kind id = made
  size_lt : a.size < b.size

theorem Over.enlarge {a b c : Arena} {kind : NodeKind} (h : Over a b kind id)
    (hid : id < b.size) (hbc : Enlarges b c) : Over a c kind id where
  toEnlarges := h.toEnlarges.trans hbc
  kind_eq := (hbc.kind id hid).trans h.kind_eq
  size_lt := Nat.lt_of_lt_of_le h.size_lt hbc.size_le

theorem over_alloc {kind : NodeKind} (hrun : alloc t kind ctx σ = .ok (id, σ')) :
    Over σ.arena σ'.arena kind id := by
  have hmake := (steps_allocAt (K := fun _ => True) trivial kind _).enlarges hrun
  obtain ⟨rfl, hlt, hnode⟩ := allocAt_eq_ok hrun
  exact ⟨hmake, by rw [Arena.kind, hnode], hlt⟩

/-- What is made over one node hangs it from a slot. -/
theorem over_attachOne {kind : NodeKind} {slot : Slot} {child : NodeId}
    (hrun : (do
      let id ← alloc t kind
      addChild id slot child
      pure id : Convert NodeId) ctx σ = .ok (id, σ')) :
    Over σ.arena σ'.arena kind id ∧ σ'.arena.child? id slot = some child := by
  obtain ⟨id, σ₁, hid, hrun⟩ := bind_eq_ok.1 hrun
  obtain ⟨_, σ₂, hadd, hrun⟩ := bind_eq_ok.1 hrun
  obtain ⟨rfl, rfl⟩ := pure_eq_ok.1 hrun
  obtain ⟨-, hlt, -⟩ := allocAt_eq_ok hid
  rw [addChild_eq_ok hadd]
  exact ⟨(over_alloc hid).enlarge hlt (Enlarges.addChild id slot child),
    Arena.child?_addChild_self hlt (list_of_allocAt hid slot)⟩

/-- What is made over a selection has what qualifies it, and its last
identifier. -/
theorem selection_eq_ok {kind : NodeKind} {convert : Convert NodeId} {name : String} {stop : Int}
    (hrun : (do
      let qualifier ← convert
      let last ← nameEndingAt name stop
      let id ← alloc t kind
      addChild id .qualifier qualifier
      addChild id .name last
      pure id : Convert NodeId) ctx σ = .ok (id, σ')) :
    ∃ qualifier last σ₁, convert ctx σ = .ok (qualifier, σ₁) ∧ Over σ₁.arena σ'.arena kind id ∧
      σ'.arena.child? id .qualifier = some qualifier ∧ σ'.arena.child? id .name = some last ∧
      σ'.arena.identifier? last = some name := by
  obtain ⟨qualifier, σ₁, hconvert, hrun⟩ := bind_eq_ok.1 hrun
  obtain ⟨last, σ₂, hlast, hrun⟩ := bind_eq_ok.1 hrun
  obtain ⟨id, σ₃, hid, hrun⟩ := bind_eq_ok.1 hrun
  obtain ⟨_, σ₄, hadd, hrun⟩ := bind_eq_ok.1 hrun
  obtain ⟨_, σ₅, hadd', hrun⟩ := bind_eq_ok.1 hrun
  obtain ⟨rfl, rfl⟩ := pure_eq_ok.1 hrun
  obtain ⟨-, hlt, -⟩ := allocAt_eq_ok hid
  have hmake : Enlarges σ₁.arena σ₂.arena :=
    (yields_nameEndingAt (K := fun _ => True) name stop).enlarges hlast
  have hfirst : Enlarges σ₃.arena σ₄.arena := addChild_eq_ok hadd ▸ Enlarges.addChild id _ _
  have hsecond : Enlarges σ₄.arena σ₅.arena := addChild_eq_ok hadd' ▸ Enlarges.addChild id _ _
  have hover := (over_alloc hid).enlarge hlt (hfirst.trans hsecond)
  have hqualifier : σ₄.arena.child? id .qualifier = some qualifier := by
    rw [addChild_eq_ok hadd]
    exact Arena.child?_addChild_self hlt (list_of_allocAt hid _)
  have hname : σ₅.arena.child? id .name = some last := by
    rw [addChild_eq_ok hadd']
    refine Arena.child?_addChild_self (Nat.lt_of_lt_of_le hlt hfirst.size_le) ?_
    rw [addChild_eq_ok hadd, Arena.list_addChild_of_slot_ne hlt (by decide), list_of_allocAt hid]
  exact ⟨qualifier, last, σ₁, hconvert,
    ⟨hmake.trans hover.toEnlarges, hover.kind_eq, Nat.lt_of_le_of_lt hmake.size_le hover.size_lt⟩,
    hsecond.child?_eq_some (by decide) hqualifier, hname,
    hover.identifier?_eq_some (identifier?_simpleName hlast)⟩

/-! ## Names -/

theorem actions_name (t : Tree) : (actions t).name = name fun p : Part t => actions p.1 := by
  rw [actions]

theorem actions_type (t : Tree) : (actions t).type = type fun p : Part t => actions p.1 := by
  rw [actions]

/-- A selection becomes a simple type if it reads as a name, else a
qualified type. -/
theorem type_select {below : Below t} {selected : Part t} {identifier : String}
    (h : t.parts = .select selected identifier) :
    type below = if isNameChain t then namedType t (name below) else (do
      let qualifier ← (below selected).type
      let last ← nameEndingAt identifier t.stop
      let id ← alloc t .qualifiedType
      addChild id .qualifier qualifier
      addChild id .name last
      pure id) := by
  rw [type, h]

/-- **A converted name has the text** of the identifiers and selections
that it was made of. -/
theorem nameText?_name (h : NamesType t s) (hrun : (actions t).name ctx σ = .ok (id, σ')) :
    (σ'.arena.tree id).nameText? = some s := by
  induction h generalizing id σ σ' with
  | @ident n start position stop name =>
    rw [actions] at hrun
    have hnew : alloc (.node n start position stop (.ident name)) (.simpleName name) ctx σ =
        .ok (id, σ') := hrun
    rw [Unified.Tree.nameText?_eq_some_iff]
    exact Or.inl ((Arena.kind_treeWithin _ _ _).trans (over_alloc hnew).kind_eq)
  | select h name ih =>
    rw [actions] at hrun
    obtain ⟨qualifier, last, σ₁, hq, hover, hqualifier, hname, hlast⟩ := selection_eq_ok hrun
    obtain ⟨d, hd, hqd⟩ := Arena.exists_child?_tree hover.size_lt hqualifier
    obtain ⟨e, -, hne⟩ := Arena.exists_child?_tree hover.size_lt hname
    rw [Unified.Tree.nameText?_eq_some_iff]
    exact Or.inr ⟨(Arena.kind_treeWithin _ _ _).trans hover.kind_eq, _, _, _, _, hqd, hne,
      hover.nameText?_treeWithin hd (ih hq),
      Unified.Tree.nameText?_of_identifier? ((Arena.identifier?_treeWithin _ _ _).trans hlast),
      rfl⟩
  | typeApply | annotatedType =>
    rw [actions] at hrun
    cases hrun

/-! ## Types -/

/-- A simple type has the name that it was made of. -/
theorem typeName?_namedType {name : Convert NodeId}
    (hname : ∀ ⦃n σ₁⦄, name ctx σ = .ok (n, σ₁) → (σ₁.arena.tree n).nameText? = some s)
    (hrun : namedType t name ctx σ = .ok (id, σ')) : (σ'.arena.tree id).typeName? = some s := by
  obtain ⟨n, σ₁, hn, hrun⟩ := bind_eq_ok.1 hrun
  obtain ⟨hover, hchild⟩ := over_attachOne hrun
  obtain ⟨d, hd, hnd⟩ := Arena.exists_child?_tree hover.size_lt hchild
  rw [Unified.Tree.typeName?_eq_some_iff]
  exact Or.inl ⟨(Arena.kind_treeWithin _ _ _).trans hover.kind_eq, _, hnd,
    hover.nameText?_treeWithin hd (hname hn)⟩

section

variable {p : Part t} (htype : ∀ ⦃i σ₁⦄, (actions p.1).type ctx σ = .ok (i, σ₁) →
  (σ₁.arena.tree i).typeName? = some s)
include htype

/-- A selection from a type that is no name is a qualified type. -/
theorem typeName?_qualifiedType {name : String} {stop : Int} (hrun : (do
      let qualifier ← (actions p.1).type
      let last ← nameEndingAt name stop
      let id ← alloc t .qualifiedType
      addChild id .qualifier qualifier
      addChild id .name last
      pure id : Convert NodeId) ctx σ = .ok (id, σ')) :
    (σ'.arena.tree id).typeName? = some (s ++ "." ++ name) := by
  obtain ⟨qualifier, last, σ₁, hq, hover, hqualifier, hname, hlast⟩ := selection_eq_ok hrun
  obtain ⟨d, hd, hqd⟩ := Arena.exists_child?_tree hover.size_lt hqualifier
  obtain ⟨e, -, hne⟩ := Arena.exists_child?_tree hover.size_lt hname
  rw [Unified.Tree.typeName?_eq_some_iff]
  exact Or.inr (Or.inl ⟨(Arena.kind_treeWithin _ _ _).trans hover.kind_eq, _, _, _, _, hqd, hne,
    hover.typeName?_treeWithin hd (htype hq), (Arena.identifier?_treeWithin _ _ _).trans hlast,
    rfl⟩)

/-- Type arguments leave the name of the type that they are given to. -/
theorem typeName?_typeApply {arguments : Parts t} (h : t.parts = .typeApply p arguments)
    (hrun : (actions t).type ctx σ = .ok (id, σ')) : (σ'.arena.tree id).typeName? = some s := by
  rw [actions_type, type, h] at hrun
  dsimp only at hrun
  obtain ⟨b, σ₁, hb, hrun⟩ := bind_eq_ok.1 hrun
  obtain ⟨id, σ₂, hid, hrun⟩ := bind_eq_ok.1 hrun
  obtain ⟨_, σ₃, hadd, hrun⟩ := bind_eq_ok.1 hrun
  obtain ⟨_, σ₄, harguments, hrun⟩ := bind_eq_ok.1 hrun
  obtain ⟨rfl, rfl⟩ := pure_eq_ok.1 hrun
  obtain ⟨hover, hbase⟩ := over_attachOne (bind_eq_ok.2 ⟨id, σ₂, hid,
    bind_eq_ok.2 ⟨(), σ₃, hadd, pure_eq_ok.2 ⟨rfl, rfl⟩⟩⟩)
  obtain ⟨d, hd, hbd⟩ := Arena.exists_child?_tree hover.size_lt hbase
  have hnamed : (σ₃.arena.tree id).typeName? = some s := by
    rw [Unified.Tree.typeName?_eq_some_iff]
    exact Or.inr (Or.inr ⟨(Arena.kind_treeWithin _ _ _).trans hover.kind_eq, _, hbd,
      hover.typeName?_treeWithin hd (htype hb)⟩)
  have hafter := (keeps_addTypeArguments (grounded_actions t) id fun q hq =>
    subtree_of_parts h (by simp [Shape.children, hq])).enlarges harguments
  exact hafter.typeName?_tree hnamed

/-- Annotations leave the name of the type that they stand on. -/
theorem typeName?_annotatedType {annotations : Parts t}
    (h : t.parts = .annotatedType annotations p)
    (hrun : (actions t).type ctx σ = .ok (id, σ')) : (σ'.arena.tree id).typeName? = some s := by
  rw [actions_type, type, h] at hrun
  dsimp only at hrun
  obtain ⟨type, σ₁, hunderlying, hrun⟩ := bind_eq_ok.1 hrun
  obtain ⟨_, σ₂, hannotations, hrun⟩ := bind_eq_ok.1 hrun
  obtain ⟨_, σ₃, hspan, hrun⟩ := bind_eq_ok.1 hrun
  obtain ⟨rfl, rfl⟩ := pure_eq_ok.1 hrun
  have hfirst := (keeps_addFirstEach (grounded_actions t) type fun q hq =>
    subtree_of_parts h (by simp [Shape.children, hq])).enlarges hannotations
  have hlast := (keeps_setSpan (K := fun _ => True) (List.mem_singleton_self type) _).enlarges
    hspan
  exact (hfirst.trans hlast).typeName?_tree (htype hunderlying)

end

/-- **A converted type has the dotted name of its tree**, in whatever form
it was made. -/
theorem typeName?_type (h : NamesType t s) (hrun : (actions t).type ctx σ = .ok (id, σ')) :
    (σ'.arena.tree id).typeName? = some s := by
  induction h generalizing id σ σ' with
  | ident name =>
    rw [actions_type] at hrun
    refine typeName?_namedType (fun n σ₁ hn => ?_) hrun
    rw [← actions_name] at hn
    exact nameText?_name (.ident name) hn
  | @select n start position stop selected qualifier h name ih =>
    rw [actions_type,
      type_select (t := .node n start position stop (.select selected name)) rfl] at hrun
    split at hrun
    · refine typeName?_namedType (fun n σ₁ hn => ?_) hrun
      rw [← actions_name] at hn
      exact nameText?_name (h.select name) hn
    · exact typeName?_qualifiedType (p := ⟨selected, _⟩) (fun _ _ => ih) hrun
  | typeApply h arguments ih =>
    exact typeName?_typeApply (p := ⟨_, _⟩) (fun _ _ => ih) rfl hrun
  | annotatedType h annotations ih =>
    exact typeName?_annotatedType (p := ⟨_, _⟩) (fun _ _ => ih) rfl hrun

/-- The foreign tree of `java.Map<K>.Entry` under an annotation. -/
def mixedType : Tree :=
  .node 0 0 0 0 (.annotatedType [.node 0 0 0 0 (.annotationUse (.node 0 0 0 0 (.ident "N")) [])]
    (.node 0 0 0 0 (.select
      (.node 0 0 0 0 (.typeApply
        (.node 0 0 0 0 (.select (.node 0 0 0 0 (.ident "java")) "Map"))
        [.node 0 0 0 0 (.ident "K")])) "Entry")))

theorem typeName?_type_mixedType :
    ∃ id σ', (actions mixedType).type ⟨.ofString "", .latest, ""⟩ State.initial = .ok (id, σ') ∧
      NamesType mixedType "java.Map.Entry" ∧
      (σ'.arena.tree id).typeName? = some "java.Map.Entry" := by
  have hnames : NamesType mixedType "java.Map.Entry" :=
    .annotatedType (.select (.typeApply (.select (.ident "java") "Map") _) "Entry") _
  have hok : ((actions mixedType).type ⟨.ofString "", .latest, ""⟩ State.initial).isOk = true := by
    decide +kernel
  cases hrun : (actions mixedType).type ⟨.ofString "", .latest, ""⟩ State.initial with
  | error e =>
    rw [hrun] at hok
    cases hok
  | ok r =>
    obtain ⟨id, σ'⟩ := r
    exact ⟨id, σ', rfl, hnames, typeName?_type hnames hrun⟩

end Conversion

end TreeBridge

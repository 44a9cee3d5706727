import TreeBridge.Proofs.Conversion.WholeArena
/-!
# Constructors bear the name of the type that owns them

The conversion of a unit starts from an empty arena, so each of its
constructors has been made on the way and is settled: it is a member of
the body of a type and has the name of that type. The tree leaves no doubt
which type that is: a node has one parent.
-/

namespace TreeBridge

open Binding (nameOf?)
open Conversion (grounded_actions yields_unit)
open Unified (NodeId Arena Settled)

variable {source : Source} {level : Unified.Level} {root : Foreign.Tree} {u : ConvertedUnit}

/-- Every constructor of a converted unit is settled. -/
theorem settled_of_convert (h : convert source level root = .ok u) {i : NodeId}
    (hi : (u.arena.kind i).isConstructor = true) :
    ∃ owner name, Settled u.arena owner name i := by
  unfold convert at h
  cases hrun : Conversion.unit (fun p : Foreign.Tree.Part root => Conversion.actions p.1)
      ⟨source, level, ""⟩ Conversion.State.initial with
  | error e =>
    rw [hrun] at h
    cases h
  | ok r =>
    obtain ⟨id, σ⟩ := r
    rw [hrun] at h
    cases h
    exact ((yields_unit (grounded_actions root)).settles hrun).settled i (Nat.zero_le i) hi

/-- **A constructor has the name of the type that directly owns it**: it is
in the body of a declaration of a type and has its name, or it is in the
body of an anonymous class and its name is empty. -/
theorem constructor_name (h : convert source level root = .ok u) {i : NodeId} {dims : ℕ}
    (hi : u.arena.kind i = .methodDeclaration true dims) :
    ∃ owner name, u.arena.parent i = some owner ∧
      u.arena.location? i = some .bodyDeclarations ∧ nameOf? u.arena i = some name ∧
      ((u.arena.kind owner).isTypeDeclaration = true ∧ nameOf? u.arena owner = some name ∨
        u.arena.kind owner = .anonymousClassDeclaration ∧ name = "") := by
  obtain ⟨htree, -⟩ := convert_isTree h
  obtain ⟨owner, name, hmember, hbody, hname⟩ := settled_of_convert h (i := i) (by rw [hi]; rfl)
  have hentry : ⟨.bodyDeclarations, i⟩ ∈ u.arena.entries owner := Arena.mem_list_iff.1 hmember
  have hparent : u.arena.parent i = some owner :=
    htree.parent_of_mem (List.mem_map_of_mem hentry)
  refine ⟨owner, name, hparent, ?_, hname, ?_⟩
  · exact (Arena.location?_eq_some_iff_of_nodup (htree.nodup_children owner) hparent).2 hentry
  · cases hbody with
    | declared hkind howner => exact Or.inl ⟨hkind, howner⟩
    | anonymous hkind => exact Or.inr ⟨hkind, rfl⟩

/-- The foreign tree of a constructor with some statements. -/
def constructorOf (statements : List Foreign.Tree) : Foreign.Tree :=
  .node 0 0 0 0 (.methodDef .empty Conversion.constructorName [] none [] 0 []
    (some (.node 0 0 0 0 (.block false statements))) none)

/-- The foreign tree of an anonymous class with a constructor. -/
def anonymousWithConstructor : Foreign.Tree :=
  .node 0 0 0 0 (.newClass none [] (.node 0 0 0 0 (.ident "B")) []
    (some (.node 0 0 0 0 (.classDef .empty "" .classType [] none [] [] [constructorOf []]))))

/-- The foreign tree of a class with constructors before and after an enum,
in which a constant has a body; the first one creates an anonymous class. -/
def nestedConstructors : Foreign.Tree :=
  .node 0 0 0 0 (.unit none [] [
    .node 0 0 0 0 (.classDef .empty "A" .classType [] none [] [] [
      constructorOf [.node 0 0 0 0 (.execute anonymousWithConstructor)],
      .node 0 0 0 0 (.classDef .empty "E" .enumType [] none [] [] [
        .node 0 0 0 0 (.varDef { Foreign.Modifiers.empty with flags := Foreign.Flag.enumType }
          "X" none 0 (some anonymousWithConstructor)),
        constructorOf []]),
      constructorOf []])])

theorem constructor_name_nestedConstructors :
    ∃ u, convert (.ofString "") .latest nestedConstructors = .ok u ∧
      [3, 11, 19, 22, 25].map (nameOf? u.arena) =
        [some "A", some "", some "", some "E", some "A"] ∧
      ∀ i ∈ [3, 11, 19, 22, 25], u.arena.kind i = .methodDeclaration true 0 ∧
        ∃ owner name, u.arena.parent i = some owner ∧
          u.arena.location? i = some .bodyDeclarations ∧ nameOf? u.arena i = some name ∧
          ((u.arena.kind owner).isTypeDeclaration = true ∧ nameOf? u.arena owner = some name ∨
            u.arena.kind owner = .anonymousClassDeclaration ∧ name = "") := by
  have hmade : ((convert (.ofString "") .latest nestedConstructors).toOption.map fun u =>
      ([3, 11, 19, 22, 25].map (nameOf? u.arena), [3, 11, 19, 22, 25].map u.arena.kind)) =
      some ([some "A", some "", some "", some "E", some "A"],
        List.replicate 5 (.methodDeclaration true 0)) := by
    decide +kernel
  cases h : convert (.ofString "") .latest nestedConstructors with
  | error e =>
    rw [h] at hmade
    cases hmade
  | ok u =>
    rw [h] at hmade
    obtain ⟨hnames, hkinds⟩ := Prod.mk.inj (Option.some.inj hmade)
    refine ⟨u, rfl, hnames, fun i hi => ?_⟩
    have hkind : u.arena.kind i = .methodDeclaration true 0 :=
      List.eq_of_mem_replicate (hkinds ▸ List.mem_map_of_mem hi)
    exact ⟨hkind, constructor_name h hkind⟩

end TreeBridge

import TreeBridge.Proofs.Conversion.Outcome
import TreeBridge.Proofs.Coupling.Bodies
import TreeBridge.Proofs.Coupling.Hiding
import TreeBridge.Proofs.Unified.Unnumbered
/-!
# What the API level changes in a converted unit

A conversion asks its level one question: whether to show the types that
a type permits. Two levels that answer alike lead to the same result.
Where they answer differently, the same tree is made, but the newer level
has further subtrees in it, and every node made after the first of them
has another id. Without these subtrees and without ids the two trees are
one.
-/

namespace TreeBridge

namespace Conversion

open Unified (NodeId Level Arena Slot Unnumbered)

variable {source : Source} {level level' : Level} {root : Foreign.Tree} {u v : ConvertedUnit}

/-! ## Levels that answer alike -/

/-- Two runs that are in one state. -/
def Coupling.equal (shows : Bool) : Coupling where
  Stage := Unit
  Later _ _ := True
  Nodes _ i j := i = j
  States _ σ τ := σ = τ
  left := shows
  right := shows
  right_of_left h := h
  refl _ := trivial
  trans _ _ := trivial
  later _ h := h
  make h _ _ _ := by
    subst h
    exact ⟨(), trivial, rfl, rfl⟩
  hang h hi hc _ := by rw [h, hi, hc]
  hangFirst h hi hc _ := by rw [h, hi, hc]
  flag h hi _ := by rw [h, hi]
  place h hi _ := by rw [h, hi]
  hide hleft hright := by
    rw [hleft] at hright
    cases hright

/-- A conversion that succeeds is a run of the conversion of its unit. -/
theorem run_of_convert (h : convert source level root = .ok u) :
    unit (fun p : Foreign.Tree.Part root => actions p.1) ⟨source, level, ""⟩ State.initial =
      .ok (u.root, ⟨u.arena, u.origins⟩) := by
  unfold convert at h
  cases hrun : unit (fun p : Foreign.Tree.Part root => actions p.1) ⟨source, level, ""⟩
      State.initial with
  | error e =>
    rw [hrun] at h
    cases h
  | ok r =>
    rw [hrun] at h
    cases h
    rfl

/-- Two conversions of one tree start from states that belong together,
so they come to such states, and to roots that belong together. -/
theorem coupled_of_convert {C : Coupling} {w : C.Stage}
    (hstart : C.States w State.initial State.initial)
    (hleft : level.supportsSealedTypes = C.left) (hright : level'.supportsSealedTypes = C.right)
    (hu : convert source level root = .ok u) (hv : convert source level' root = .ok v) :
    ∃ w₁, C.Nodes w₁ u.root v.root ∧
      C.States w₁ ⟨u.arena, u.origins⟩ ⟨v.arena, v.origins⟩ := by
  have hunit : C.Makes (unit fun p : Foreign.Tree.Part root => actions p.1) :=
    Coupling.makes_unit fun p => Coupling.agree_actions C p.1
  have hcontexts : C.Contexts ⟨source, level, ""⟩ ⟨source, level', ""⟩ :=
    ⟨rfl, rfl, hleft, hright⟩
  obtain ⟨w₁, -, hnodes, hstates⟩ :=
    hunit w (C.refl w) hcontexts hstart (run_of_convert hu) (run_of_convert hv)
  exact ⟨w₁, hnodes, hstates⟩

/-- **Levels that answer alike lead to one result**, be it a unit or the
tree that the conversion stops at. -/
theorem convert_eq_of_supportsSealedTypes
    (h : level.supportsSealedTypes = level'.supportsSealedTypes) :
    convert source level root = convert source level' root := by
  have herror : errorOf (convert source level root) = errorOf (convert source level' root) := by
    rw [errorOf_convert, errorOf_convert, h]
  cases hu : convert source level root with
  | error e =>
    rw [hu] at herror
    exact (errorOf_eq_some_iff.1 herror.symm).symm
  | ok u =>
    cases hv : convert source level' root with
    | error e =>
      rw [hu, hv] at herror
      cases herror
    | ok v =>
      obtain ⟨_, hroot, hstates⟩ := coupled_of_convert (C := .equal level.supportsSealedTypes)
        (w := ()) rfl rfl h.symm hu hv
      obtain ⟨harena, horigins⟩ := State.mk.inj hstates
      cases u
      cases v
      cases harena
      cases horigins
      cases hroot
      rfl

/-! ## A level that shows more -/

/-- A node and its image are told apart by their children only. -/
theorem Mirrors.node_eq {kept : List NodeId} {σ τ : State} (h : Mirrors kept σ τ) {i j : NodeId}
    (hi : kept[i]? = some j) (children : List (Slot × Unnumbered)) :
    Unnumbered.node (σ.arena.kind i) (σ.arena.span i) (σ.arena.flags i) (sourcesOf σ.origins i)
      children =
    .node (τ.arena.kind j) (τ.arena.span j) (τ.arena.flags j) (sourcesOf τ.origins j) children := by
  have hm := h.node i j hi
  have hkind : τ.arena.kind j = σ.arena.kind i := hm.kind
  have hspan : τ.arena.span j = σ.arena.span i := hm.span
  have hflags : τ.arena.flags j = σ.arena.flags i := hm.flags
  rw [hkind, hspan, hflags, h.sources i j hi]

/-- The tree at a node is that at its image, without permitted types and
apart from the ids. -/
theorem Mirrors.unnumbered_treeWithin {kept : List NodeId} {σ τ : State}
    (h : Mirrors kept σ τ) {i j : NodeId} (hi : kept[i]? = some j) (depth : ℕ) :
    (σ.arena.treeWithin depth i).unnumbered (sourcesOf σ.origins) =
      ((τ.arena.treeWithin depth j).without .permittedTypes).unnumbered
        (sourcesOf τ.origins) := by
  induction depth generalizing i j with
  | zero =>
    rw [Arena.unnumbered_treeWithin_zero, Arena.unnumbered_without_treeWithin_zero]
    exact h.node_eq hi []
  | succ depth ih =>
    -- the children are paired, and each is the tree at its image by induction
    have hchildren : (σ.arena.entries i).map (fun c =>
        (c.slot, (σ.arena.treeWithin depth c.node).unnumbered (sourcesOf σ.origins))) =
        ((τ.arena.entries j).filter fun c => c.slot != .permittedTypes).map fun c =>
          (c.slot, ((τ.arena.treeWithin depth c.node).without .permittedTypes).unnumbered
            (sourcesOf τ.origins)) := by
      rw [← List.forall₂_eq_eq_eq, List.forall₂_map_left_iff, List.forall₂_map_right_iff]
      exact (h.node i j hi).children.imp fun c d hcd => Prod.ext hcd.1 (ih hcd.2)
    rw [Arena.unnumbered_treeWithin_succ, Arena.unnumbered_without_treeWithin_succ, hchildren]
    exact h.node_eq hi _

/-- **A level that hides permitted types makes the tree that one that
shows them makes**, without these and apart from the ids. -/
theorem unnumbered_tree_of_convert (hleft : level.supportsSealedTypes = false)
    (hright : level'.supportsSealedTypes = true) (hu : convert source level root = .ok u)
    (hv : convert source level' root = .ok v) :
    (u.arena.tree u.root).unnumbered (sourcesOf u.origins) =
      ((v.arena.tree v.root).without .permittedTypes).unnumbered (sourcesOf v.origins) := by
  obtain ⟨kept, hroot, hmirrors⟩ := coupled_of_convert (C := .hiding) (w := ([] : List NodeId))
    Mirrors.initial hleft hright hu hv
  have htree := Mirrors.unnumbered_treeWithin hmirrors hroot v.arena.size
  -- the smaller arena is a tree, so a look any deeper shows nothing more
  have hsize : u.arena.size ≤ v.arena.size := Mirrors.size_le hmirrors
  have hdepth : u.arena.treeWithin v.arena.size u.root = u.arena.tree u.root :=
    (loose_of_convert hu).1.treeWithin_root hsize
  exact hdepth ▸ htree

end Conversion

open Conversion Unified

/-- **The API level only hides permitted types.** Two levels before sealed
types lead to one result, and so do two levels with them. Where both a
level before and one with them succeed, the two trees are one without the
permitted types of the second and apart from the ids. -/
theorem convert_levels (source : Source) (level level' : Level) (root : Foreign.Tree) :
    ((level.ordinal < 17 ↔ level'.ordinal < 17) →
      convert source level root = convert source level' root) ∧
    ∀ u v, level.ordinal < 17 → 17 ≤ level'.ordinal → convert source level root = .ok u →
      convert source level' root = .ok v →
      (u.arena.tree u.root).unnumbered (sourcesOf u.origins) =
        ((v.arena.tree v.root).without .permittedTypes).unnumbered (sourcesOf v.origins) := by
  refine ⟨fun h => convert_eq_of_supportsSealedTypes ?_, fun u v hbefore hwith hu hv => ?_⟩
  · rw [Level.supportsSealedTypes, Level.supportsSealedTypes, decide_eq_decide]
    omega
  · exact unnumbered_tree_of_convert (decide_eq_false (Nat.not_le.2 hbefore))
      (decide_eq_true hwith) hu hv

/-- A class that permits one type and has one field. -/
def sealedSource : Source :=
  .ofString "sealed class A permits B \x7b int f = 1; \x7d"

/-- The foreign tree of the class. -/
def sealedUnit : Foreign.Tree :=
  .node 6 0 0 39 (.unit none [] [
    .node 5 0 7 39 (.classDef ⟨Foreign.Flag.sealed, [], 0, 6⟩ "A" .classType [] none []
      [.node 1 23 23 24 (.ident "B")] [
      .node 4 27 31 37 (.varDef .empty "f" (some (.node 2 27 27 30 (.typeIdent .int))) 0
        (some (.node 3 35 35 36 (.literal .int "1"))))])])

/-- How many nodes the unit of the class has at a level. -/
def sealedSize? (level : Level) : Option ℕ :=
  (convert sealedSource level sealedUnit).toOption.map (·.arena.size)

theorem exists_of_sealedSize? {level : Level} {n : ℕ} (h : sealedSize? level = some n) :
    ∃ u, convert sealedSource level sealedUnit = .ok u ∧ u.arena.size = n := by
  obtain ⟨u, hu, hsize⟩ := Option.map_eq_some_iff.1 h
  cases hrun : convert sealedSource level sealedUnit with
  | error e =>
    rw [hrun] at hu
    cases hu
  | ok v =>
    rw [hrun] at hu
    obtain rfl : v = u := Option.some.inj hu
    exact ⟨v, rfl, hsize⟩

theorem convert_levels_sealedUnit :
    convert sealedSource ⟨8, rfl⟩ sealedUnit = convert sealedSource ⟨16, rfl⟩ sealedUnit ∧
      ∃ u v, convert sealedSource ⟨16, rfl⟩ sealedUnit = .ok u ∧
        convert sealedSource ⟨17, rfl⟩ sealedUnit = .ok v ∧ u.arena.size + 2 = v.arena.size ∧
        (u.arena.tree u.root).unnumbered (sourcesOf u.origins) =
          ((v.arena.tree v.root).without .permittedTypes).unnumbered (sourcesOf v.origins) := by
  have hbefore : sealedSize? ⟨16, rfl⟩ = some 9 := by decide +kernel
  have hwith : sealedSize? ⟨17, rfl⟩ = some 11 := by decide +kernel
  obtain ⟨u, hu, husize⟩ := exists_of_sealedSize? hbefore
  obtain ⟨v, hv, hvsize⟩ := exists_of_sealedSize? hwith
  refine ⟨(convert_levels sealedSource ⟨8, rfl⟩ ⟨16, rfl⟩ sealedUnit).1 (by decide), u, v, hu, hv,
    by omega, ?_⟩
  exact (convert_levels sealedSource ⟨16, rfl⟩ ⟨17, rfl⟩ sealedUnit).2 u v (by decide) (by decide)
    hu hv

end TreeBridge

import TreeBridge.Proofs.Unified.Unfolding
/-!
# Trees whose nodes have no ids

Two arenas may hold the same tree and yet number its nodes in different
ways. What is left of a tree without the ids is the same for both: the
kinds, spans and flags of its nodes, what each of them came from, and the
order of the children in their slots.
-/

namespace TreeBridge

namespace Unified

/-- A tree whose nodes have no ids. Each node has the ids of the foreign
trees that it came from. -/
inductive Unnumbered where
  | node (kind : NodeKind) (span : Span) (flags : UInt32) (sources : List ℕ)
      (children : List (Slot × Unnumbered))

/-- A tree without the ids of its nodes, which come from the given foreign
trees. -/
def Tree.unnumbered (sources : NodeId → List ℕ) (t : Tree) : Unnumbered :=
  .node t.kind t.span t.flags (sources t.id)
    (t.children.attach.map fun c => (c.1.1, unnumbered sources c.1.2))
termination_by sizeOf t
decreasing_by exact Tree.sizeOf_lt_of_mem c.2

/-- A tree without the subtrees that hang from one slot anywhere in it. -/
def Tree.without (slot : Slot) (t : Tree) : Tree :=
  .node t.id t.kind t.span t.flags
    ((t.children.filter fun c => c.1 != slot).attach.map fun c => (c.1.1, without slot c.1.2))
termination_by sizeOf t
decreasing_by exact Tree.sizeOf_lt_of_mem (List.mem_of_mem_filter c.2)

namespace Tree

theorem unnumbered_eq (sources : NodeId → List ℕ) (t : Tree) :
    t.unnumbered sources = .node t.kind t.span t.flags (sources t.id)
      (t.children.map fun c => (c.1, c.2.unnumbered sources)) := by
  rw [unnumbered]
  congr 1
  exact List.attach_map_val (f := fun c : Slot × Tree => (c.1, c.2.unnumbered sources))

theorem without_eq (slot : Slot) (t : Tree) :
    t.without slot = .node t.id t.kind t.span t.flags
      ((t.children.filter fun c => c.1 != slot).map fun c => (c.1, c.2.without slot)) := by
  rw [without]
  congr 1
  exact List.attach_map_val (f := fun c : Slot × Tree => (c.1, c.2.without slot))

/-- What a tree has left without ids and without a slot. -/
theorem unnumbered_without (sources : NodeId → List ℕ) (slot : Slot) (t : Tree) :
    (t.without slot).unnumbered sources = .node t.kind t.span t.flags (sources t.id)
      ((t.children.filter fun c => c.1 != slot).map fun c =>
        (c.1, (c.2.without slot).unnumbered sources)) := by
  rw [unnumbered_eq, without_eq]
  congr 1
  exact List.map_map

end Tree

namespace Arena

variable (a : Arena) (sources : NodeId → List ℕ) (slot : Slot) (depth : ℕ) (i : NodeId)

theorem unnumbered_treeWithin_zero :
    (a.treeWithin 0 i).unnumbered sources =
      .node (a.kind i) (a.span i) (a.flags i) (sources i) [] :=
  Tree.unnumbered_eq sources _

theorem unnumbered_treeWithin_succ :
    (a.treeWithin (depth + 1) i).unnumbered sources =
      .node (a.kind i) (a.span i) (a.flags i) (sources i)
        ((a.entries i).map fun c => (c.slot, (a.treeWithin depth c.node).unnumbered sources)) := by
  rw [Tree.unnumbered_eq]
  congr 1
  exact List.map_map

theorem unnumbered_without_treeWithin_zero :
    ((a.treeWithin 0 i).without slot).unnumbered sources =
      .node (a.kind i) (a.span i) (a.flags i) (sources i) [] :=
  Tree.unnumbered_without sources slot _

theorem unnumbered_without_treeWithin_succ :
    ((a.treeWithin (depth + 1) i).without slot).unnumbered sources =
      .node (a.kind i) (a.span i) (a.flags i) (sources i)
        (((a.entries i).filter fun c => c.slot != slot).map fun c =>
          (c.slot, ((a.treeWithin depth c.node).without slot).unnumbered sources)) := by
  rw [Tree.unnumbered_without]
  congr 1
  rw [treeWithin, Tree.children, List.filter_map, List.map_map]
  rfl

end Arena

/-! ## Depths -/

/-- Below the roots of a grove nothing lies deeper than the number of its
nodes. -/
theorem Grove.map_treeWithin {a : Arena} {parent : Option NodeId} {roots ids : List NodeId}
    (h : Grove a parent roots ids) {depth depth' : ℕ} (hd : ids.length ≤ depth)
    (hd' : ids.length ≤ depth') :
    roots.map (a.treeWithin depth) = roots.map (a.treeWithin depth') := by
  induction h generalizing depth depth' with
  | nil => rfl
  | @cons parent id rest below others hparent hbelow hrest ihbelow ihrest =>
    rw [List.length_cons, List.length_append] at hd hd'
    obtain ⟨depth, rfl⟩ : ∃ d, depth = d + 1 := ⟨depth - 1, by omega⟩
    obtain ⟨depth', rfl⟩ : ∃ d, depth' = d + 1 := ⟨depth' - 1, by omega⟩
    have hchildren : ∀ c ∈ a.entries id, a.treeWithin depth c.node = a.treeWithin depth' c.node :=
      fun c hc => List.map_inj_left.1 (ihbelow (by omega) (by omega)) c.node
        (List.mem_map_of_mem hc)
    have hentries : (a.entries id).map (fun c => (c.slot, a.treeWithin depth c.node)) =
        (a.entries id).map fun c => (c.slot, a.treeWithin depth' c.node) :=
      List.map_congr_left fun c hc => by rw [hchildren c hc]
    have hothers : rest.map (a.treeWithin (depth + 1)) = rest.map (a.treeWithin (depth' + 1)) :=
      ihrest (by omega) (by omega)
    rw [List.map_cons, List.map_cons, hothers, Arena.treeWithin, Arena.treeWithin, hentries]

/-- In a forest with one root, the tree at the root is known at any depth
that is not less than the number of nodes. -/
theorem Forest.treeWithin_root {a : Arena} {root : NodeId} (h : Forest a [root]) {depth : ℕ}
    (hd : a.size ≤ depth) : a.treeWithin depth root = a.tree root := by
  obtain ⟨ids, hgrove, hperm⟩ := h
  have hlen : ids.length = a.size := by rw [hperm.length_eq, Arena.ids, List.length_range]
  have hmap := hgrove.map_treeWithin (hlen.symm ▸ hd) (Nat.le_of_eq hlen)
  exact List.singleton_inj.1 hmap

end Unified

end TreeBridge

import TreeBridge.Proofs.Unified.Forest
import TreeBridge.Unified.Tree
/-!
# Trees unfolded from an arena

A tree lists its nodes in the order in which the arena walks them, so in
a tree no node stands twice.
-/

namespace TreeBridge

namespace Unified

/-- The ids of the nodes of a tree, each before those below it. -/
def Tree.ids (t : Tree) : List NodeId :=
  t.id :: t.children.attach.flatMap fun c => ids c.1.2
termination_by sizeOf t
decreasing_by exact Tree.sizeOf_lt_of_mem c.2

theorem Tree.ids_eq (t : Tree) : t.ids = t.id :: t.children.flatMap fun c => c.2.ids := by
  rw [ids]
  congr 1
  conv_rhs => rw [← List.attach_map_subtype_val t.children, List.flatMap_map]

theorem Tree.id_mem_ids (t : Tree) : t.id ∈ t.ids := by
  rw [ids_eq]
  exact List.mem_cons_self

theorem Tree.ids_subset_of_mem {t : Tree} {c : Slot × Tree} (h : c ∈ t.children) :
    c.2.ids ⊆ t.ids := by
  intro i hi
  rw [ids_eq t]
  exact List.mem_cons_of_mem _ (List.mem_flatMap.2 ⟨c, h, hi⟩)

theorem Arena.ids_treeWithin (a : Arena) (depth : Nat) (id : NodeId) :
    (a.treeWithin depth id).ids = a.preorderWithin depth id := by
  induction depth generalizing id with
  | zero =>
    rw [Tree.ids_eq]
    rfl
  | succ depth ih =>
    rw [Tree.ids_eq, treeWithin, preorderWithin, children]
    simp only [Tree.children, Tree.id, List.flatMap_map, ih]

/-- The tree at a node lists the nodes that the arena walks from there. -/
theorem Arena.ids_tree (a : Arena) (id : NodeId) : (a.tree id).ids = a.preorder id :=
  a.ids_treeWithin a.size id

theorem IsTree.nodup_ids_tree {a : Arena} {root : NodeId} (h : IsTree a root) :
    (a.tree root).ids.Nodup := by
  rw [Arena.ids_tree]
  exact h.preorder_perm.nodup_iff.2 List.nodup_range

/-- Different children of a node have no node in common. -/
theorem Tree.pairwise_disjoint_children {t : Tree} (h : t.ids.Nodup) :
    t.children.Pairwise fun c d => c.2.ids.Disjoint d.2.ids := by
  rw [ids_eq, List.nodup_cons, List.nodup_flatMap] at h
  exact h.2.2

theorem Tree.nodup_ids_of_mem {t : Tree} (h : t.ids.Nodup) {c : Slot × Tree}
    (hc : c ∈ t.children) : c.2.ids.Nodup := by
  rw [ids_eq, List.nodup_cons, List.nodup_flatMap] at h
  exact h.2.1 c hc

theorem Tree.id_notMem_ids_of_mem {t : Tree} (h : t.ids.Nodup) {c : Slot × Tree}
    (hc : c ∈ t.children) : t.id ∉ c.2.ids := by
  rw [ids_eq, List.nodup_cons] at h
  exact fun hmem => h.1 (List.mem_flatMap.2 ⟨c, hc, hmem⟩)

end Unified

end TreeBridge

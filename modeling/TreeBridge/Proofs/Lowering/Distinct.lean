import TreeBridge.Proofs.Foreign.Index
import TreeBridge.Proofs.Lowering.Composition.Unit
/-!
# The ids of a lowered tree are distinct

Modifiers and types are read again for every declarator, and some trees
are made and then dropped; still no id occurs twice in the tree of a
source, since every tree that is made is new and is used once at most. So
the index of the tree is exact.
-/

namespace TreeBridge

namespace Lowering

open Concrete (Node)
open Foreign.Tree (idsOf)

/-- An id occurs in the tree of a source once at most, and never if it has
not been given. -/
theorem count_ids_lower_le (s : Source) (n : Node) (i : Nat) :
    (lower s n).1.ids.count i ≤ if i < (lower s n).2.next then 1 else 0 := by
  -- nothing is held before the first step, so all ids are given by the lowering
  have hcount : (idsOf [(lower s n).1]).count i ≤
      (idsOf []).count i + Composed.givenBetween .initial (lower s n).2 i :=
    ((composed_lower s n).count_ids_le .initial).2 i
  have hgiven : Composed.givenBetween .initial (lower s n).2 i =
      if i < (lower s n).2.next then 1 else 0 := by
    simp [Composed.givenBetween, State.initial]
  rwa [Foreign.Tree.idsOf_cons, Foreign.Tree.idsOf_nil, List.append_nil, List.count_nil,
    Nat.zero_add, hgiven] at hcount

theorem nodup_ids_lower (s : Source) (n : Node) : (lower s n).1.ids.Nodup := by
  refine List.nodup_iff_count_le_one.2 fun i => (count_ids_lower_le s n i).trans ?_
  split <;> omega

end Lowering

open Lowering Foreign in
/-- **The index of the tree of a source loses nothing**: the ids of the
tree are distinct and all given by the lowering, every subtree is found by
its id, the path of a subtree leads from it through parents to the root,
and only the root has no parent. -/
theorem index_lower_exact (s : Source) (n : Concrete.Node) :
    (lower s n).1.ids.Nodup ∧ (∀ i ∈ (lower s n).1.ids, i < (lower s n).2.next) ∧
      ∀ u, Tree.Subtree u (lower s n).1 →
        (Index.ofTree (lower s n).1).get? u.id = some u ∧
        (∃ path, (Index.ofTree (lower s n).1).path? u.id = some path ∧ path.leaf = u ∧
          path.trees.getLast? = some (lower s n).1 ∧ Tree.Ascends path.trees) ∧
        ((Index.ofTree (lower s n).1).parent? u.id = none ↔ u = (lower s n).1) := by
  have hcount := count_ids_lower_le s n
  have hnodup : (lower s n).1.ids.Nodup := by
    refine List.nodup_iff_count_le_one.2 fun i => (hcount i).trans ?_
    split <;> omega
  refine ⟨hnodup, fun i hi => ?_, fun u hu => ⟨Index.get?_id hnodup hu,
    Index.exists_path?_id hnodup hu, Index.parent?_eq_none_iff hnodup hu⟩⟩
  have hpos := List.count_pos_iff.2 hi
  refine Decidable.by_contra fun hge => ?_
  have hnone := hcount i
  rw [if_neg hge] at hnone
  omega

end TreeBridge

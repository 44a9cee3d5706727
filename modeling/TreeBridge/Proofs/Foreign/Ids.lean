import Mathlib.Data.List.Perm.Basic
import TreeBridge.Proofs.Foreign.Subtree
/-!
# Ids of foreign trees

The ids of a tree are those of the tree and of all trees below it, in the
order of the visit that takes a tree before its children. The visit of an
index takes the last child first and comes to the same trees.
-/

namespace TreeBridge

namespace Foreign

namespace Tree

/-- The ids of a tree and of the trees below it. -/
def ids (t : Tree) : List Nat :=
  t.preorder.map id

/-- The ids of several trees and of the trees below them. -/
def idsOf (ts : List Tree) : List Nat :=
  ts.flatMap ids

@[simp] theorem idsOf_nil : idsOf [] = [] := rfl

@[simp] theorem idsOf_cons (t : Tree) (ts : List Tree) : idsOf (t :: ts) = t.ids ++ idsOf ts := rfl

@[simp] theorem idsOf_append (ts us : List Tree) : idsOf (ts ++ us) = idsOf ts ++ idsOf us :=
  List.flatMap_append

theorem preorder_eq (t : Tree) : t.preorder = t :: t.children.flatMap preorder := by
  rw [preorder, List.flatMap_subtype (g := preorder) fun _ _ => rfl, List.unattach_attach]

theorem lastFirst_eq (t : Tree) : t.lastFirst = t :: t.children.reverse.flatMap lastFirst := by
  rw [lastFirst, List.flatMap_subtype (g := lastFirst) fun _ _ => rfl, List.unattach_attach]

theorem ids_eq (t : Tree) : t.ids = t.id :: idsOf t.children := by
  rw [ids, preorder_eq, List.map_cons, List.map_flatMap]
  rfl

/-- Both visits come to the same trees. -/
theorem lastFirst_perm_preorder (t : Tree) : t.lastFirst.Perm t.preorder := by
  induction t using preorder.induct with
  | case1 t ih =>
    have hchildren := List.Perm.flatMap_left t.children fun c hc => ih ⟨c, hc⟩
    rw [lastFirst_eq, preorder_eq]
    exact ((t.children.reverse_perm.flatMap_right lastFirst).trans hchildren).cons t

theorem ids_perm (t : Tree) : t.ids.Perm (t.lastFirst.map id) :=
  (t.lastFirst_perm_preorder.map id).symm

/-- Further flags leave the ids alone. -/
theorem ids_withVariableFlags (flags : UInt64) (t : Tree) :
    (t.withVariableFlags flags).ids = t.ids := by
  rw [ids_eq, ids_eq t]
  unfold withVariableFlags
  split <;> rfl

theorem idsOf_map_withVariableFlags (flags : UInt64) (ts : List Tree) :
    idsOf (ts.map (withVariableFlags flags)) = idsOf ts := by
  induction ts with
  | nil => rfl
  | cons t ts ih => rw [List.map_cons, idsOf_cons, idsOf_cons, ids_withVariableFlags, ih]

end Tree

end Foreign

end TreeBridge

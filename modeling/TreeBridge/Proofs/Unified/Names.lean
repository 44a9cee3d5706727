import TreeBridge.Proofs.Unified.Enlarging
import TreeBridge.Unified.Name
/-!
# Names read off a growing arena

The text of a name and the dotted name of a type are read down the slots
of the name and of what qualifies it. Whatever else comes to hang below
these nodes, and however much deeper the tree is unfolded, what can be
read once is read again.
-/

namespace TreeBridge

namespace Unified

namespace Tree

variable {t : Tree} {s : String}

/-- A name is an identifier, or a name after a dot and what qualifies
it. -/
theorem nameText?_eq_some_iff : t.nameText? = some s ↔ t.kind = .simpleName s ∨
    t.kind = .qualifiedName ∧ ∃ qualifier name q n, t.child? .qualifier = some qualifier ∧
      t.child? .name = some name ∧ qualifier.nameText? = some q ∧ name.nameText? = some n ∧
      s = q ++ "." ++ n := by
  rw [nameText?]
  grind

theorem nameText?_of_identifier? (h : t.identifier? = some s) : t.nameText? = some s := by
  unfold identifier? at h
  split at h
  · next hkind => exact nameText?_eq_some_iff.2 (Or.inl (hkind.trans (by rw [Option.some.inj h])))
  · cases h

/-- A type has the name that it uses, its last identifier after a dot and
the type that qualifies it, or the name of the type that it gives
arguments to. -/
theorem typeName?_eq_some_iff : t.typeName? = some s ↔
    t.kind = .simpleType ∧ (∃ name, t.child? .name = some name ∧ name.nameText? = some s) ∨
    t.kind = .qualifiedType ∧ (∃ qualifier name q n, t.child? .qualifier = some qualifier ∧
      t.child? .name = some name ∧ qualifier.typeName? = some q ∧ name.identifier? = some n ∧
      s = q ++ "." ++ n) ∨
    t.kind = .parameterizedType ∧ ∃ base, t.child? .type = some base ∧
      base.typeName? = some s := by
  rw [typeName?]
  cases t.child? .name <;> grind

end Tree

theorem Arena.id_treeWithin (a : Arena) (depth : ℕ) (i : NodeId) :
    (a.treeWithin depth i).id = i := by
  cases depth <;> rfl

theorem Arena.kind_treeWithin (a : Arena) (depth : ℕ) (i : NodeId) :
    (a.treeWithin depth i).kind = a.kind i := by
  cases depth <;> rfl

theorem Arena.identifier?_treeWithin (a : Arena) (depth : ℕ) (i : NodeId) :
    (a.treeWithin depth i).identifier? = a.identifier? i := by
  cases depth <;> rfl

theorem Arena.child?_treeWithin_succ (a : Arena) (depth : ℕ) (i : NodeId) (slot : Slot) :
    (a.treeWithin (depth + 1) i).child? slot = (a.child? i slot).map (a.treeWithin depth) := by
  rw [treeWithin, Tree.child?, Tree.children, List.find?_map, Option.map_map, Arena.child?,
    Option.map_map]
  rfl

/-- The child that a tree shows in a slot is the one of the arena. -/
theorem Arena.child?_of_treeWithin {a : Arena} {depth : ℕ} {i : NodeId} {slot : Slot} {child : Tree}
    (h : (a.treeWithin depth i).child? slot = some child) : a.child? i slot = some child.id := by
  cases depth with
  | zero => cases h
  | succ depth =>
    rw [child?_treeWithin_succ] at h
    obtain ⟨j, hj, rfl⟩ := Option.map_eq_some_iff.1 h
    rw [hj, id_treeWithin]

/-- With more than `n` nodes, a tree shows `n` levels below each child of its
root. -/
theorem Arena.exists_child?_tree {a : Arena} {n : ℕ} {i child : NodeId} {slot : Slot}
    (hn : n < a.size) (hchild : a.child? i slot = some child) :
    ∃ depth, n ≤ depth ∧ (a.tree i).child? slot = some (a.treeWithin depth child) := by
  obtain ⟨depth, hdepth⟩ : ∃ depth, a.size = depth + 1 := ⟨a.size - 1, by omega⟩
  refine ⟨depth, by omega, ?_⟩
  rw [tree, hdepth, child?_treeWithin_succ, hchild]
  rfl

namespace Enlarges

variable {a b : Arena} {depth depth' : ℕ} {i : NodeId} {s : String}

/-- What is known to be a node by its kind keeps it. -/
theorem kind_eq {kind : NodeKind} (h : Enlarges a b) (hkind : a.kind i = kind)
    (hne : kind ≠ .compilationUnit) : b.kind i = kind := by
  rcases Nat.lt_or_ge i a.size with hi | hi
  · rw [h.kind i hi, hkind]
  · rw [Arena.kind, Arena.node_of_size_le hi] at hkind
    exact absurd hkind.symm hne

/-- The child in a slot is later unfolded at least as deep. -/
theorem child?_treeWithin (h : Enlarges a b) (hdepth : depth ≤ depth') {slot : Slot}
    (hslot : slot ≠ .annotations) {child : Tree}
    (hchild : (a.treeWithin depth i).child? slot = some child) :
    ∃ below below' j, depth = below + 1 ∧ below ≤ below' ∧ child = a.treeWithin below j ∧
      (b.treeWithin depth' i).child? slot = some (b.treeWithin below' j) := by
  cases depth with
  | zero => cases hchild
  | succ below =>
    obtain ⟨below', rfl⟩ : ∃ below', depth' = below' + 1 := ⟨depth' - 1, by omega⟩
    rw [Arena.child?_treeWithin_succ] at hchild
    obtain ⟨j, hj, rfl⟩ := Option.map_eq_some_iff.1 hchild
    refine ⟨below, below', j, rfl, by omega, rfl, ?_⟩
    rw [Arena.child?_treeWithin_succ, h.child?_eq_some hslot hj]
    rfl

/-- **A name is read again** in a larger arena, and deeper down. -/
theorem nameText?_treeWithin (h : Enlarges a b) (hdepth : depth ≤ depth')
    (hs : (a.treeWithin depth i).nameText? = some s) :
    (b.treeWithin depth' i).nameText? = some s := by
  induction depth using Nat.strongRecOn generalizing depth' i s with
  | _ depth ih =>
    rw [Tree.nameText?_eq_some_iff, Arena.kind_treeWithin] at hs ⊢
    rcases hs with hkind | ⟨hkind, qualifier, name, q, n, hq, hn, hqs, hns, rfl⟩
    · exact Or.inl (h.kind_eq hkind NodeKind.noConfusion)
    · obtain ⟨below, below', j, rfl, hle, rfl, hj⟩ := h.child?_treeWithin hdepth (by decide) hq
      obtain ⟨_, _, k, hsucc, hle', rfl, hk⟩ := h.child?_treeWithin hdepth (by decide) hn
      obtain rfl := Nat.succ.inj hsucc
      exact Or.inr ⟨h.kind_eq hkind NodeKind.noConfusion, _, _, q, n, hj, hk,
        ih below (Nat.lt_succ_self below) hle hqs, ih below (Nat.lt_succ_self below) hle' hns, rfl⟩

/-- **The name of a type is read again** in a larger arena, and deeper
down. -/
theorem typeName?_treeWithin (h : Enlarges a b) (hdepth : depth ≤ depth')
    (hs : (a.treeWithin depth i).typeName? = some s) :
    (b.treeWithin depth' i).typeName? = some s := by
  induction depth using Nat.strongRecOn generalizing depth' i s with
  | _ depth ih =>
    rw [Tree.typeName?_eq_some_iff, Arena.kind_treeWithin] at hs ⊢
    rcases hs with ⟨hkind, name, hn, hns⟩ |
      ⟨hkind, qualifier, name, q, n, hq, hn, hqs, hns, rfl⟩ | ⟨hkind, base, hb, hbs⟩
    · obtain ⟨below, below', j, rfl, hle, rfl, hj⟩ := h.child?_treeWithin hdepth (by decide) hn
      exact Or.inl ⟨h.kind_eq hkind NodeKind.noConfusion, _, hj, h.nameText?_treeWithin hle hns⟩
    · obtain ⟨below, below', j, rfl, hle, rfl, hj⟩ := h.child?_treeWithin hdepth (by decide) hq
      obtain ⟨_, _, k, -, -, rfl, hk⟩ := h.child?_treeWithin hdepth (by decide) hn
      rw [Arena.identifier?_treeWithin] at hns
      have hlast (depth : ℕ) : (b.treeWithin depth k).identifier? = some n :=
        (Arena.identifier?_treeWithin b depth k).trans (h.identifier?_eq_some hns)
      exact Or.inr (Or.inl ⟨h.kind_eq hkind NodeKind.noConfusion, _, _, q, n, hj, hk,
        ih below (Nat.lt_succ_self below) hle hqs, hlast _, rfl⟩)
    · obtain ⟨below, below', j, rfl, hle, rfl, hj⟩ := h.child?_treeWithin hdepth (by decide) hb
      exact Or.inr (Or.inr ⟨h.kind_eq hkind NodeKind.noConfusion, _, hj,
        ih below (Nat.lt_succ_self below) hle hbs⟩)

theorem typeName?_tree (h : Enlarges a b) (hs : (a.tree i).typeName? = some s) :
    (b.tree i).typeName? = some s :=
  h.typeName?_treeWithin h.size_le hs

end Enlarges

end Unified

end TreeBridge

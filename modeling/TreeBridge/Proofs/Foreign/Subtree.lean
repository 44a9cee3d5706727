import TreeBridge.Foreign.Index
/-!
# Subtrees of a foreign tree

A subtree is a tree reached from another by children. The parts that a
definition recurses on come with the evidence that they are smaller only;
here they are shown to be children. An index holds every subtree of its
root, so the id of a subtree is always found.
-/

namespace TreeBridge

namespace Foreign

namespace Shape

variable {α β : Type}

theorem children_map (f : α → β) (s : Shape α) : (s.map f).children = s.children.map f := by
  cases s with
  | newArray elementType dims extraDims elements =>
    cases elements <;> simp [map, children, Option.toList_map]
  | _ => simp [map, children, Modifiers.map, Option.toList_map]

theorem map_val_attachWith (P : α → Prop) (s : Shape α) (h : ∀ a ∈ s.children, P a) :
    (s.attachWith P h).map Subtype.val = s := by
  cases s with
  | newArray elementType dims extraDims elements => cases elements <;> simp [attachWith, map]
  | _ => simp [attachWith, map, Modifiers.attachWith, Modifiers.map]

/-- Only a block maps to a block. -/
theorem eq_block_of_map {f : α → β} {s : Shape α} {isStatic : Bool} {ts : List β}
    (h : s.map f = .block isStatic ts) : ∃ ps, s = .block isStatic ps ∧ ps.map f = ts := by
  cases s with
  | block isStatic' ps =>
    cases h
    exact ⟨ps, rfl, rfl⟩
  | newArray elementType dims extraDims elements => cases elements <;> cases h
  | _ => cases h

/-- Only an array creation maps to an array creation. -/
theorem eq_newArray_of_map {f : α → β} {s : Shape α} {elementType : Option β} {dims : List β}
    {extraDims : Nat} {elements : Option (List β)}
    (h : s.map f = .newArray elementType dims extraDims elements) :
    ∃ p ps qs, s = .newArray p ps extraDims qs ∧ p.map f = elementType ∧ ps.map f = dims ∧
      qs.map (·.map f) = elements := by
  cases s with
  | newArray p ps extraDims' qs =>
    cases h
    exact ⟨p, ps, qs, rfl, rfl, rfl, rfl⟩
  | _ => cases h

end Shape

namespace Tree

/-- A tree reached from another by children. -/
inductive Subtree (u : Tree) : Tree → Prop where
  | refl : Subtree u u
  | child {c t : Tree} (hc : c ∈ t.children) (h : Subtree u c) : Subtree u t

namespace Subtree

variable {t u v c : Tree}

theorem of_mem (h : c ∈ t.children) : Subtree c t :=
  child h refl

theorem trans (h : Subtree u v) (h' : Subtree v t) : Subtree u t := by
  induction h' with
  | refl => exact h
  | child hc _ ih => exact child hc ih

end Subtree

/-- What holds of a tree and of every tree below it. -/
def Everywhere (P : Tree → Prop) (t : Tree) : Prop :=
  ∀ u, Subtree u t → P u

namespace Everywhere

variable {P : Tree → Prop} {t u : Tree}

theorem self (h : Everywhere P t) : P t :=
  h t .refl

theorem of_children (h : P t) (hchildren : ∀ c ∈ t.children, Everywhere P c) :
    Everywhere P t := by
  intro u hu
  cases hu with
  | refl => exact h
  | child hc hu => exact hchildren _ hc u hu

theorem children (h : Everywhere P t) : ∀ c ∈ t.children, Everywhere P c :=
  fun _ hc u hu => h u (.child hc hu)

/-- Further flags change no tree below. -/
theorem withVariableFlags {flags : UInt64} (h : Everywhere P t)
    (hself : P (t.withVariableFlags flags)) : Everywhere P (t.withVariableFlags flags) := by
  refine of_children hself fun c hc => h.children c ?_
  unfold Tree.withVariableFlags at hc
  split at hc <;> exact hc

end Everywhere

/-! ## Parts are children -/

variable {t : Tree}

/-- Without the evidence the parts of a tree are its shape. -/
theorem map_val_parts (t : Tree) : t.parts.map Subtype.val = t.shape :=
  Shape.map_val_attachWith _ _ _

theorem mem_children_of_mem_parts {p : Part t} (h : p ∈ t.parts.children) :
    p.1 ∈ t.children := by
  rw [children, ← map_val_parts t, Shape.children_map]
  exact List.mem_map_of_mem h

theorem subtree_of_mem_parts {p : Part t} (h : p ∈ t.parts.children) : Subtree p.1 t :=
  Subtree.of_mem (mem_children_of_mem_parts h)

namespace Part

/-- Without the evidence the parts of a part are its shape. -/
theorem map_val_parts (p : Part t) : p.parts.map Subtype.val = p.1.shape := by
  obtain ⟨u, hu⟩ := p
  rw [← Tree.map_val_parts u, parts]
  cases u.parts with
  | newArray elementType dims extraDims elements =>
    cases elements <;> simp [Shape.map, within, Function.comp_def, -List.map_subtype]
  | _ => simp [Shape.map, Modifiers.map, within, Function.comp_def, -List.map_subtype]

theorem subtree_of_mem_parts {p q : Part t} (h : q ∈ p.parts.children) : Subtree q.1 p.1 := by
  refine Subtree.of_mem ?_
  rw [children, ← map_val_parts p, Shape.children_map]
  exact List.mem_map_of_mem h

end Part

/-! ## The index of a tree -/

/-- The visit of a tree reaches exactly its subtrees. -/
theorem mem_lastFirst_iff {u : Tree} : u ∈ t.lastFirst ↔ Subtree u t := by
  constructor
  · intro h
    induction t using lastFirst.induct with
    | case1 t ih =>
      rw [lastFirst] at h
      rcases List.mem_cons.1 h with rfl | h
      · exact Subtree.refl
      · obtain ⟨c, -, hc⟩ := List.mem_flatMap.1 h
        exact Subtree.child (List.mem_reverse.1 c.2) (ih c hc)
  · intro h
    induction h with
    | refl => rw [lastFirst]; exact List.mem_cons_self
    | @child c t hc _ ih =>
      rw [lastFirst]
      exact List.mem_cons_of_mem _
        (List.mem_flatMap.2 ⟨⟨c, List.mem_reverse.2 hc⟩, List.mem_attach _ _, ih⟩)

end Tree

/-- **The id of every subtree of the root is found in the index.** -/
theorem Index.get?_of_subtree {root u : Tree} (h : Tree.Subtree u root) :
    ∃ v, (Index.ofTree root).get? u.id = some v ∧ v.id = u.id := by
  have hmem : u ∈ (Index.ofTree root).visited :=
    List.mem_reverse.2 (Tree.mem_lastFirst_iff.2 h)
  cases hv : (Index.ofTree root).get? u.id with
  | none =>
    rw [get?, List.find?_eq_none] at hv
    exact absurd (beq_self_eq_true u.id) (hv u hmem)
  | some v =>
    rw [get?] at hv
    exact ⟨v, rfl, by simpa using List.find?_some hv⟩

end Foreign

end TreeBridge

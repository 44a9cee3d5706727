import TreeBridge.Proofs.Completion.Search
import TreeBridge.Proofs.Unified.Forest
import TreeBridge.Proofs.Unified.Sorting
/-!
# What the passes after the search leave alone

Deriving spans only positions nodes that have children, and sorting only
moves modifiers among the places they hold. Names and modifiers without
children keep the span that the search has left them with.
-/

namespace TreeBridge

namespace Completion

open Unified (NodeId NodeKind Slot Child Arena Forest)

/-! ## Deriving -/

/-- What the derivation of spans makes of an arena: it positions nodes
that have children and no span. -/
structure Derived (a b : Arena) : Prop where
  size : b.size = a.size
  kind : b.kind = a.kind
  parent : b.parent = a.parent
  entries : b.entries = a.entries
  kept : ∀ i, (a.span i).isSet = true → b.span i = a.span i
  leaf : ∀ i, a.entries i = [] → b.span i = a.span i

theorem Derived.refl {a : Arena} : Derived a a :=
  ⟨rfl, rfl, rfl, rfl, fun _ _ => rfl, fun _ _ => rfl⟩

theorem derivedSpan_of_leaf {a : Arena} {id : NodeId} (h : a.entries id = []) :
    derivedSpan a id = .unset := by
  have hchild (slot : Slot) : a.child? id slot = none := by
    unfold Arena.child?
    rw [h]
    rfl
  have hchildren : a.children id = [] := by
    unfold Arena.children
    rw [h]
    rfl
  unfold derivedSpan
  rw [hchild, hchild, hchildren]
  split
  · next hq _ => cases hq
  · rfl

theorem Derived.derive {a : Arena} {b : Arena × Nat} (h : Derived a b.1) (id : NodeId) :
    Derived a (derive b id).1 := by
  unfold Completion.derive
  split
  · exact h
  · next hunset =>
    dsimp only
    split
    · next hset =>
      have hother {i : NodeId} (hi : i ≠ id) : (b.1.setSpan id (derivedSpan b.1 id)).span i =
          b.1.span i := Arena.span_setSpan_of_ne _ hi
      refine ⟨(Arena.size_setSpan _).trans h.size, (Arena.kind_setSpan _).trans h.kind,
        (Arena.parent_setSpan _).trans h.parent, (Arena.entries_setSpan _).trans h.entries,
        fun i hi => (hother ?_).trans (h.kept i hi), fun i hi => (hother ?_).trans (h.leaf i hi)⟩
      · rintro rfl
        rw [h.kept i hi] at hunset
        exact hunset hi
      · rintro rfl
        rw [← h.entries] at hi
        rw [derivedSpan_of_leaf hi] at hset
        cases hset
    · exact h

theorem derived_foldl {a : Arena} (order : List NodeId) {b : Arena × Nat} (h : Derived a b.1) :
    Derived a (order.foldl derive b).1 := by
  induction order generalizing b with
  | nil => exact h
  | cons id order ih => exact ih (h.derive id)

/-! ## Sorting -/

/-- What sorting modifiers makes of an arena: children in another order,
with the first child of every other slot where it was. -/
structure Resorted (a b : Arena) : Prop where
  size : b.size = a.size
  kind : b.kind = a.kind
  parent : b.parent = a.parent
  span : b.span = a.span
  entries : ∀ i, (b.entries i).Perm (a.entries i)
  child : ∀ i slot, slot ≠ .modifiers → b.child? i slot = a.child? i slot

theorem Resorted.refl {a : Arena} : Resorted a a :=
  ⟨rfl, rfl, rfl, rfl, fun _ => List.Perm.refl _, fun _ _ _ => rfl⟩

theorem Resorted.sortModifiers {a b : Arena} (h : Resorted a b) (id : NodeId) :
    Resorted a (sortModifiers b id) := by
  unfold Completion.sortModifiers
  split
  · refine ⟨(Arena.size_sortSlot _).trans h.size, (Arena.kind_sortSlot _).trans h.kind,
      (Arena.parent_sortSlot _).trans h.parent, (Arena.span_sortSlot _).trans h.span,
      fun i => List.Perm.trans ?_ (h.entries i), fun i slot hslot => ?_⟩
    · by_cases hi : i = id
      · subst hi
        exact Arena.perm_entries_sortSlot_self
      · rw [Arena.entries_sortSlot_of_ne _ hi]
    · rw [← h.child i slot hslot]
      unfold Arena.child?
      by_cases hi : i = id
      · subst hi
        rw [Arena.entries_sortSlot_eq,
          Arena.find?_refill hslot Arena.slot_of_mem_sortedEntries]
      · rw [Arena.entries_sortSlot_of_ne _ hi]
  · exact h

theorem resorted_foldl {a : Arena} (order : List NodeId) {b : Arena} (h : Resorted a b) :
    Resorted a (order.foldl sortModifiers b) := by
  induction order generalizing b with
  | nil => exact h
  | cons id order ih => exact ih (h.sortModifiers id)

end Completion

open Completion in
/-- **Reconciling a tree** searches, derives and sorts, in this order. -/
theorem passes_reconcile {root : Unified.NodeId} {a : Unified.Arena}
    (h : Unified.Forest a [root]) (s : Source) (comments : List Comment) :
    ∃ b c, Searched a b ∧ Derived b c ∧ Resorted c (reconcile s comments root a).2 :=
  ⟨_, _, searched_foldl_visitParent (fun _ _ => h.isTree.parent_of_mem) _ Searched.refl,
    derived_foldl _ Derived.refl, resorted_foldl _ Resorted.refl⟩

end TreeBridge

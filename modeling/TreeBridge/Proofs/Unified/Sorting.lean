import Mathlib.Data.List.Forall2
import Mathlib.Data.Prod.Lex
import Mathlib.Order.BooleanAlgebra.Basic
import TreeBridge.Proofs.Unified.Arena
/-!
# Sorting the children of a slot

Sorting takes the entries of one slot out of the list of children, orders
them by where their nodes start and puts them back into the places they
were taken from. So a slot is sorted stably, with the children that have
no position behind all others, while the entries of the other slots stay
where they are (`sortsSlot_sortSlot`).
-/

namespace TreeBridge

namespace Unified

/-! ## Stable sorts -/

/-- A list is the stable sort of another one by a key: it has the same
elements, each as often, it ascends, and elements with one key are in the
order they were in. -/
structure IsStableSort {α κ : Type} [LE κ] [DecidableEq κ] (key : α → κ) (before after : List α) :
    Prop where
  perm : after.Perm before
  ascending : after.Pairwise fun x y => key x ≤ key y
  stable : ∀ k, (after.filter fun x => decide (key x = k)) =
    before.filter fun x => decide (key x = k)

/-- A merge sort by a key is a stable sort. -/
theorem isStableSort_mergeSort {α κ : Type} [LinearOrder κ] (key : α → κ) (xs : List α) :
    IsStableSort key xs (xs.mergeSort fun x y => decide (key x ≤ key y)) := by
  have htrans (x y z : α) (hxy : decide (key x ≤ key y) = true)
      (hyz : decide (key y ≤ key z) = true) : decide (key x ≤ key z) = true := by
    rw [decide_eq_true_eq] at hxy hyz ⊢
    exact le_trans hxy hyz
  have htotal (x y : α) : (decide (key x ≤ key y) || decide (key y ≤ key x)) = true := by
    rw [Bool.or_eq_true, decide_eq_true_eq, decide_eq_true_eq]
    exact le_total (key x) (key y)
  have hperm := List.mergeSort_perm xs fun x y => decide (key x ≤ key y)
  refine ⟨hperm, ?_, fun k => ?_⟩
  · have hascending := List.pairwise_mergeSort htrans htotal xs
    exact hascending.imp fun hle => of_decide_eq_true hle
  -- elements with one key ascend already, so sorting keeps them in their order
  have hpairwise : (xs.filter fun x => decide (key x = k)).Pairwise
      fun x y => decide (key x ≤ key y) = true := by
    refine List.pairwise_of_forall_mem_list fun x hx y hy => ?_
    have hxk := of_decide_eq_true (List.mem_filter.1 hx).2
    have hyk := of_decide_eq_true (List.mem_filter.1 hy).2
    rw [decide_eq_true_eq]
    exact le_of_eq (hxk.trans hyk.symm)
  have hsub := List.sublist_mergeSort htrans htotal hpairwise List.filter_sublist
  have hsame : (xs.filter fun x => decide (key x = k)).Sublist
      ((xs.mergeSort fun x y => decide (key x ≤ key y)).filter fun x => decide (key x = k)) := by
    have hfiltered := hsub.filter fun x => decide (key x = k)
    simp only [List.filter_filter, Bool.and_self] at hfiltered
    exact hfiltered
  exact (hsame.eq_of_length (hperm.filter _).length_eq.symm).symm

namespace Arena

/-! ## Refilling a slot -/

section

variable {slot : Slot} {entries given : List Child}

/-- A place of a list of children keeps its slot, and its entry unless that
is one of the slot in question. -/
def KeepsPlace (slot : Slot) (c d : Child) : Prop :=
  d.slot = c.slot ∧ (c.slot ≠ slot → d = c)

/-- Refilling a slot changes only what is in the places of the slot. -/
theorem forall₂_refill (hgiven : ∀ g ∈ given, g.slot = slot) :
    List.Forall₂ (KeepsPlace slot) entries (refill slot entries given) := by
  fun_induction refill slot entries given with
  | case1 given => exact .nil
  | case2 c rest hc ih => exact .cons ⟨rfl, fun _ => rfl⟩ (ih hgiven)
  | case3 c rest hc g given ih =>
    have hg : g.slot = slot := hgiven g List.mem_cons_self
    have hslot : c.slot = slot := eq_of_beq hc
    exact .cons ⟨hg.trans hslot.symm, fun hne => absurd hslot hne⟩
      (ih fun d hd => hgiven d (List.mem_cons_of_mem g hd))
  | case4 c rest given hc ih => exact .cons ⟨rfl, fun _ => rfl⟩ (ih hgiven)

/-- Where as many entries are given as the slot has, they are what is in
the slot afterwards, in their order. -/
theorem filter_refill_self (hgiven : ∀ g ∈ given, g.slot = slot)
    (hlength : given.length = (entries.filter fun c => c.slot == slot).length) :
    ((refill slot entries given).filter fun c => c.slot == slot) = given := by
  fun_induction refill slot entries given with
  | case1 given => exact (List.eq_nil_of_length_eq_zero hlength).symm
  | case2 c rest hc ih =>
    rw [List.filter_cons_of_pos (by exact hc)] at hlength
    cases hlength
  | case3 c rest hc g given ih =>
    have hg : g.slot = slot := hgiven g List.mem_cons_self
    rw [List.filter_cons_of_pos (by exact hc)] at hlength
    rw [List.filter_cons_of_pos (by exact beq_iff_eq.2 hg),
      ih (fun d hd => hgiven d (List.mem_cons_of_mem g hd)) (Nat.succ.inj hlength)]
  | case4 c rest given hc ih =>
    rw [List.filter_cons_of_neg (by exact hc)] at hlength ⊢
    exact ih hgiven hlength

theorem beq_slot_eq_false {other : Slot} (hne : other ≠ slot) {c : Child} (hc : c.slot = slot) :
    (c.slot == other) = false := by
  rw [hc, beq_eq_false_iff_ne]
  exact hne.symm

/-- What is looked for outside the slot is found as before. -/
theorem filter_refill_of_ne {p : Child → Bool} (hgiven : ∀ g ∈ given, g.slot = slot)
    (hp : ∀ c, c.slot = slot → p c = false) :
    (refill slot entries given).filter p = entries.filter p := by
  have hplaces : List.Forall₂ (KeepsPlace slot) entries (refill slot entries given) :=
    forall₂_refill hgiven
  generalize refill slot entries given = refilled at hplaces
  induction hplaces with
  | nil => rfl
  | @cons c d entries refilled hcd _ ih =>
    obtain ⟨hslot, hkept⟩ := hcd
    by_cases hc : c.slot = slot
    · rw [List.filter_cons_of_neg (by simp [hp d (hslot.trans hc)]),
        List.filter_cons_of_neg (by simp [hp c hc]), ih]
    · rw [hkept hc, List.filter_cons, List.filter_cons, ih]

/-- Refilling a slot puts the given entries in the places of the old
ones. -/
theorem perm_refill (hgiven : ∀ g ∈ given, g.slot = slot)
    (hlength : given.length = (entries.filter fun c => c.slot == slot).length) :
    (refill slot entries given).Perm
      (given ++ entries.filter fun c => !(c.slot == slot)) := by
  have hsplit := List.filter_append_perm (fun c : Child => c.slot == slot)
    (refill slot entries given)
  rw [filter_refill_self hgiven hlength,
    filter_refill_of_ne hgiven fun c hc => by rw [hc, beq_self_eq_true]; rfl] at hsplit
  exact hsplit.symm

theorem find?_refill {other : Slot} (hne : other ≠ slot) (hgiven : ∀ g ∈ given, g.slot = slot) :
    (refill slot entries given).find? (fun c => c.slot == other) =
      entries.find? (fun c => c.slot == other) := by
  rw [← List.head?_filter, ← List.head?_filter,
    filter_refill_of_ne hgiven fun _ hc => beq_slot_eq_false hne hc]

end

/-! ## The sorted slot -/

variable {a : Arena} {id : NodeId} {slot : Slot}

/-- What the children of a slot are sorted by: whether they lack a
position, then where they start. -/
def sortKey (a : Arena) (id : NodeId) : Bool ×ₗ Int :=
  toLex (!(a.span id).isSet, (a.span id).start)

/-- The order of the children of a slot is the order of their keys. -/
theorem startsBefore_eq (c d : Child) :
    a.startsBefore c d = decide (a.sortKey c.node ≤ a.sortKey d.node) := by
  have hkey : a.sortKey c.node ≤ a.sortKey d.node ↔
      (!(a.span c.node).isSet) < (!(a.span d.node).isSet) ∨
        (!(a.span c.node).isSet) = (!(a.span d.node).isSet) ∧
          (a.span c.node).start ≤ (a.span d.node).start :=
    Prod.Lex.toLex_le_toLex
  rw [eq_comm, Bool.eq_iff_iff, decide_eq_true_eq, hkey]
  unfold startsBefore
  dsimp only
  cases (a.span c.node).isSet <;> cases (a.span d.node).isSet <;> simp

/-- Where two lists of children keep their places, they have the same
entries at the same indices outside the slot. -/
theorem getElem?_eq_some_iff_of_keepsPlace {entries refilled : List Child}
    (h : List.Forall₂ (KeepsPlace slot) entries refilled) {i : ℕ} {c : Child} (hc : c.slot ≠ slot) :
    refilled[i]? = some c ↔ entries[i]? = some c := by
  obtain ⟨hlength, hplaces⟩ := List.forall₂_iff_get.1 h
  constructor
  · intro hget
    obtain ⟨hi, rfl⟩ := List.getElem?_eq_some_iff.1 hget
    obtain ⟨hslot, hkept⟩ := hplaces i (hlength ▸ hi) hi
    have hsame := hkept fun hin => hc (hslot.trans hin)
    exact List.getElem?_eq_some_iff.2 ⟨hlength ▸ hi, hsame.symm⟩
  · intro hget
    obtain ⟨hi, rfl⟩ := List.getElem?_eq_some_iff.1 hget
    obtain ⟨-, hkept⟩ := hplaces i hi (hlength ▸ hi)
    exact List.getElem?_eq_some_iff.2 ⟨hlength ▸ hi, hkept hc⟩

/-- The entries of a slot in their sorted order. -/
def sortedEntries (a : Arena) (id : NodeId) (slot : Slot) : List Child :=
  ((a.entries id).filter fun c => c.slot == slot).mergeSort a.startsBefore

theorem slot_of_mem_sortedEntries : ∀ g ∈ a.sortedEntries id slot, g.slot = slot := by
  intro g hg
  have hmem := (List.mergeSort_perm _ _).mem_iff.1 hg
  exact eq_of_beq (List.mem_filter.1 hmem).2

theorem length_sortedEntries :
    (a.sortedEntries id slot).length =
      ((a.entries id).filter fun c => c.slot == slot).length :=
  List.length_mergeSort _

theorem entries_sortSlot_eq :
    (a.sortSlot id slot).entries id = refill slot (a.entries id) (a.sortedEntries id slot) :=
  entries_sortSlot_self slot

/-- Sorting a slot changes only what is in the places of the slot. -/
theorem keepsPlace_sortSlot :
    List.Forall₂ (KeepsPlace slot) (a.entries id) ((a.sortSlot id slot).entries id) := by
  rw [entries_sortSlot_eq]
  exact forall₂_refill slot_of_mem_sortedEntries

/-- The sorted entries with those of the other slots are all entries
again. -/
theorem perm_entries_sortSlot_self :
    ((a.sortSlot id slot).entries id).Perm (a.entries id) := by
  have hrefilled : (refill slot (a.entries id) (a.sortedEntries id slot)).Perm
      (a.sortedEntries id slot ++ (a.entries id).filter fun c => !(c.slot == slot)) :=
    perm_refill slot_of_mem_sortedEntries length_sortedEntries
  have hsorted : (a.sortedEntries id slot).Perm
      ((a.entries id).filter fun c => c.slot == slot) := List.mergeSort_perm _ _
  rw [entries_sortSlot_eq]
  exact (hrefilled.trans (hsorted.append_right _)).trans (List.filter_append_perm _ _)

theorem node_sortSlot_self :
    (a.sortSlot id slot).node id =
      { a.node id with children := (a.sortSlot id slot).entries id } := by
  rcases Nat.lt_or_ge id a.size with h | h
  · rw [entries_sortSlot_self, sortSlot, node_modify_self _ h]
    rfl
  · rw [sortSlot, modify_of_size_le _ h]
    rfl

/-- What is in the slot afterwards is what was in it, merge sorted. -/
theorem list_sortSlot_self :
    (a.sortSlot id slot).list id slot =
      (a.list id slot).mergeSort fun c d => decide (a.sortKey c ≤ a.sortKey d) := by
  rw [list, entries_sortSlot_eq, filter_refill_self slot_of_mem_sortedEntries length_sortedEntries]
  exact List.map_mergeSort fun c _ d _ => startsBefore_eq c d

/-- The lists of the other slots are as they were. -/
theorem list_sortSlot_of_ne {other : Slot} (hne : other ≠ slot) :
    (a.sortSlot id slot).list id other = a.list id other := by
  rw [list, entries_sortSlot_eq,
    filter_refill_of_ne slot_of_mem_sortedEntries fun _ hc => beq_slot_eq_false hne hc, list]

/-- **What sorting a slot does.** The node gets its entries in another
order and nothing else about it or about any other node changes. The
places of the slot stay places of the slot, the entries elsewhere keep
their index, and what is in the slot is the stable sort of what was in
it. -/
structure SortsSlot (id : NodeId) (slot : Slot) (a b : Arena) : Prop where
  size : b.size = a.size
  defaultFlags : b.defaultFlags = a.defaultFlags
  others : ∀ i, i ≠ id → b.node i = a.node i
  own : b.node id = { a.node id with children := b.entries id }
  slots : (b.entries id).map (·.slot) = (a.entries id).map (·.slot)
  kept : ∀ (i : ℕ) (c : Child), c.slot ≠ slot →
    ((b.entries id)[i]? = some c ↔ (a.entries id)[i]? = some c)
  sorted : IsStableSort a.sortKey (a.list id slot) (b.list id slot)
  lists : ∀ other, other ≠ slot → b.list id other = a.list id other

/-- **Sorting a slot sorts the slot stably, and does nothing else.** -/
theorem sortsSlot_sortSlot (a : Arena) (id : NodeId) (slot : Slot) :
    SortsSlot id slot a (a.sortSlot id slot) := by
  have hplaces : List.Forall₂ (KeepsPlace slot) (a.entries id) ((a.sortSlot id slot).entries id) :=
    keepsPlace_sortSlot
  refine ⟨size_sortSlot slot, rfl, fun i hi => node_modify_of_ne _ hi, node_sortSlot_self, ?_,
    fun i c hc => getElem?_eq_some_iff_of_keepsPlace hplaces hc, ?_,
    fun other hother => list_sortSlot_of_ne hother⟩
  · have hslots : List.Forall₂ (· = ·) (((a.sortSlot id slot).entries id).map (·.slot))
        ((a.entries id).map (·.slot)) := by
      rw [List.forall₂_map_left_iff, List.forall₂_map_right_iff]
      exact (hplaces.imp fun _ _ hcd => hcd.1).flip
    exact List.forall₂_eq_eq_eq ▸ hslots
  · rw [list_sortSlot_self]
    exact isStableSort_mergeSort a.sortKey (a.list id slot)

-- a modifier without position goes behind the others, the type stays third
example :
    let late : Node := ⟨.modifier .final, ⟨7, 5⟩, 0, some 0, []⟩
    let unset : Node := ⟨.modifier .static, .unset, 0, some 0, []⟩
    let early : Node := ⟨.modifier .publicAccess, ⟨0, 6⟩, 0, some 0, []⟩
    let type : Node := ⟨.primitiveType .int, ⟨13, 3⟩, 0, some 0, []⟩
    let field : Node := ⟨.fieldDeclaration, ⟨0, 20⟩, 0, none,
      [⟨.modifiers, 1⟩, ⟨.modifiers, 2⟩, ⟨.type, 4⟩, ⟨.modifiers, 3⟩]⟩
    ((⟨#[field, late, unset, early, type], 0⟩ : Arena).sortSlot 0 .modifiers).children 0 =
      [3, 1, 4, 2] := by
  cbv

end Arena

end Unified

end TreeBridge

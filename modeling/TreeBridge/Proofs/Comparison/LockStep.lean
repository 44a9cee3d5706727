import Mathlib.Logic.Relation
import Mathlib.Tactic.SplitIfs
import TreeBridge.Comparison.Match
/-!
# Comparing in lock-step

The walk that looks for a first divergence and the walk that matches
descend side by side through two trees, from a pair of nodes of one kind
to the pairs of their children at equal places. `Reached` is that descent
as a relation, apart from either walk. A walk finds no divergence exactly
where the trees match and every pair it reaches is `Aligned`.
-/

namespace TreeBridge

namespace Comparison

open Unified

/-- A step of the descent: from two nodes of one kind to their children
at one index of one slot. Two nodes of different kinds have no step. -/
def Descends (pair below : Tree × Tree) : Prop :=
  pair.1.kind = pair.2.kind ∧ ∃ (slot : Slot) (i : Nat),
    (pair.1.list slot)[i]? = some below.1 ∧ (pair.2.list slot)[i]? = some below.2

/-- The pairs of nodes that a descent from two trees meets. -/
def Reached (l r p q : Tree) : Prop :=
  Relation.ReflTransGen Descends (l, r) (p, q)

/-- Two nodes at one position, give or take one unit of length, and with
equal flags outside the bookkeeping bits. -/
structure Aligned (p q : Tree) : Prop where
  starts : p.span.start = q.span.start
  lengths : (p.span.length - q.span.length).natAbs ≤ 1
  flags : p.flags &&& ~~~Flag.bookkeeping = q.flags &&& ~~~Flag.bookkeeping

/-- Two trees of which every pair of nodes that is reached is aligned. -/
def AlignedThroughout (l r : Tree) : Prop :=
  ∀ p q, Reached l r p q → Aligned p q

/-! ## Children in one slot -/

/-- Induction on a tree from the trees in its slots. -/
theorem slotInduction {P : Tree → Prop}
    (h : ∀ t : Tree, (∀ slot, ∀ u ∈ t.list slot, P u) → P t) (t : Tree) : P t := by
  induction hn : sizeOf t using Nat.strongRecOn generalizing t with
  | ind n ih =>
    refine h t fun slot u hu => ih (sizeOf u) ?_ u rfl
    rw [← hn]
    exact Tree.sizeOf_lt_of_mem_list hu

theorem list_eq_nil_of_not_mem_slots {t : Tree} {slot : Slot} (h : slot ∉ t.slots) :
    t.list slot = [] := by
  rw [Tree.list, List.map_eq_nil_iff, List.filter_eq_nil_iff]
  intro c hc hslot
  have hmem : c.1 ∈ t.slots := List.mem_eraseDups.2 (List.mem_map_of_mem hc)
  rw [eq_of_beq hslot] at hmem
  exact h hmem

theorem mem_sharedSlots {l r : Tree} {slot : Slot} :
    slot ∈ sharedSlots l r ↔ slot ∈ l.slots ∨ slot ∈ r.slots := by
  rw [sharedSlots, List.mem_append, List.mem_filter, Bool.not_eq_true', List.contains_eq_mem,
    decide_eq_false_iff_not]
  by_cases hl : slot ∈ l.slots <;> simp [hl]

/-- Two lists of one length, with a relation between what they hold at
each index. -/
def Paired (R : Nat → Tree → Tree → Prop) (xs ys : List Tree) : Prop :=
  xs.length = ys.length ∧ ∀ (i : Nat) (x y : Tree), xs[i]? = some x → ys[i]? = some y → R i x y

theorem paired_nil {R : Nat → Tree → Tree → Prop} : Paired R [] [] :=
  ⟨rfl, fun _ _ _ hx => nomatch hx⟩

/-- A slot outside the shared ones is empty on both sides, so that
pairing may be asked of every slot. -/
theorem forall_mem_sharedSlots_paired {l r : Tree} {R : Slot → Nat → Tree → Tree → Prop} :
    (∀ slot ∈ sharedSlots l r, Paired (R slot) (l.list slot) (r.list slot)) ↔
      ∀ slot, Paired (R slot) (l.list slot) (r.list slot) := by
  refine ⟨fun h slot => ?_, fun h slot _ => h slot⟩
  by_cases hslot : slot ∈ sharedSlots l r
  · exact h slot hslot
  · rw [mem_sharedSlots, not_or] at hslot
    rw [list_eq_nil_of_not_mem_slots hslot.1, list_eq_nil_of_not_mem_slots hslot.2]
    exact paired_nil

theorem getElem?_attach_zip {xs ys : List Tree} {i : Nat} {p : {x // x ∈ xs} × Tree} :
    (xs.attach.zip ys)[i]? = some p ↔ xs[i]? = some p.1.1 ∧ ys[i]? = some p.2 := by
  have hval : xs[i]? = xs.attach[i]?.map Subtype.val := by
    rw [← List.getElem?_map, List.attach_map_subtype_val]
  have hattach : xs.attach[i]? = some p.1 ↔ xs[i]? = some p.1.1 := by
    rw [hval]
    cases xs.attach[i]? <;> simp [Subtype.ext_iff]
  rw [List.getElem?_zip_eq_some, hattach]

/-- Two lists are paired when they have one length and the relation holds
along their zip. -/
theorem paired_iff_forall_getElem?_zip {R : Nat → Tree → Tree → Prop} {xs ys : List Tree} :
    Paired R xs ys ↔ xs.length = ys.length ∧
      ∀ (i : Nat) (p : {x // x ∈ xs} × Tree), (xs.attach.zip ys)[i]? = some p → R i p.1.1 p.2 := by
  refine and_congr_right fun _ => ⟨fun h i p hp => ?_, fun h i x y hx hy => ?_⟩
  · obtain ⟨hx, hy⟩ := getElem?_attach_zip.1 hp
    exact h i p.1.1 p.2 hx hy
  · exact h i (⟨x, List.mem_of_getElem? hx⟩, y) (getElem?_attach_zip.2 ⟨hx, hy⟩)

/-- A property of a tree and of all trees below it. -/
inductive Throughout (P : Tree → Prop) : Tree → Prop
  | intro {t : Tree} (here : P t) (below : ∀ slot, ∀ u ∈ t.list slot, Throughout P u) :
      Throughout P t

namespace Throughout

variable {P : Tree → Prop} {t u : Tree} {slot : Slot}

theorem here : Throughout P t → P t
  | .intro here _ => here

theorem of_mem (h : Throughout P t) (hu : u ∈ t.list slot) : Throughout P u := by
  cases h with
  | intro _ below => exact below slot u hu

/-- It is enough to look at the children in the order they have. -/
theorem of_children (here : P t) (h : ∀ c ∈ t.children, Throughout P c.2) : Throughout P t := by
  refine .intro here fun slot u hu => ?_
  obtain ⟨c, hc, rfl⟩ := List.mem_map.1 hu
  exact h c (List.mem_filter.1 hc).1

end Throughout

theorem child?_eq_head?_list (t : Tree) (slot : Slot) : t.child? slot = (t.list slot).head? := by
  rw [Tree.child?, Tree.list, List.head?_map, List.head?_filter]

theorem mem_list_of_child? {t u : Tree} {slot : Slot} (h : t.child? slot = some u) :
    u ∈ t.list slot := by
  rw [child?_eq_head?_list] at h
  exact List.mem_of_mem_head? h

/-- Paired slots have first children that are paired, or none. -/
theorem Paired.child? {R : Nat → Tree → Tree → Prop} {l r : Tree} {slot : Slot}
    (h : Paired R (l.list slot) (r.list slot)) :
    (l.child? slot = none ∧ r.child? slot = none) ∨
      ∃ x y, l.child? slot = some x ∧ r.child? slot = some y ∧ R 0 x y := by
  rw [child?_eq_head?_list, child?_eq_head?_list]
  obtain ⟨hlength, hpairs⟩ := h
  cases hl : l.list slot with
  | nil =>
    rw [hl, List.length_nil] at hlength
    exact .inl ⟨rfl, by rw [List.eq_nil_of_length_eq_zero hlength.symm]; rfl⟩
  | cons x xs =>
    cases hr : r.list slot with
    | nil =>
      rw [hl, hr] at hlength
      cases hlength
    | cons y ys =>
      rw [hl, hr] at hpairs
      exact .inr ⟨x, y, rfl, rfl, hpairs 0 x y rfl rfl⟩

theorem Paired.of_child? {R : Nat → Tree → Tree → Prop} {l r x y : Tree} {slot : Slot}
    (h : Paired R (l.list slot) (r.list slot)) (hx : l.child? slot = some x)
    (hy : r.child? slot = some y) : R 0 x y := by
  rcases h.child? with ⟨hnone, -⟩ | ⟨x', y', hx', hy', hR⟩
  · cases hx.symm.trans hnone
  · cases hx.symm.trans hx'
    cases hy.symm.trans hy'
    exact hR

theorem Paired.map_eq {α : Type} {f : Tree → α} {xs ys : List Tree}
    (h : Paired (fun _ x y => f x = f y) xs ys) : xs.map f = ys.map f := by
  refine List.ext_getElem (by simpa using h.1) fun i hx hy => ?_
  rw [List.length_map] at hx hy
  rw [List.getElem_map, List.getElem_map]
  exact h.2 i _ _ (List.getElem?_eq_getElem hx) (List.getElem?_eq_getElem hy)

/-! ## The descent -/

theorem reached_self (l r : Tree) : Reached l r l r :=
  Relation.ReflTransGen.refl

/-- A pair is reached at once, or below two children of two nodes of one
kind. -/
theorem reached_iff {l r p q : Tree} :
    Reached l r p q ↔ (p = l ∧ q = r) ∨
      (l.kind = r.kind ∧ ∃ (slot : Slot) (i : Nat) (x y : Tree),
        (l.list slot)[i]? = some x ∧ (r.list slot)[i]? = some y ∧ Reached x y p q) := by
  constructor
  · intro h
    rcases Relation.ReflTransGen.cases_head h with heq | ⟨⟨x, y⟩, ⟨hkind, slot, i, hx, hy⟩, hrest⟩
    · obtain ⟨rfl, rfl⟩ := Prod.mk.inj heq
      exact .inl ⟨rfl, rfl⟩
    · exact .inr ⟨hkind, slot, i, x, y, hx, hy, hrest⟩
  · rintro (⟨rfl, rfl⟩ | ⟨hkind, slot, i, x, y, hx, hy, hrest⟩)
    · exact reached_self _ _
    · exact Relation.ReflTransGen.head ⟨hkind, slot, i, hx, hy⟩ hrest

/-- Alignment throughout is alignment of the roots and, where the descent
goes on, of what stands below them. -/
theorem alignedThroughout_iff {l r : Tree} :
    AlignedThroughout l r ↔ Aligned l r ∧ (l.kind = r.kind → ∀ (slot : Slot) (i : Nat) (x y : Tree),
      (l.list slot)[i]? = some x → (r.list slot)[i]? = some y → AlignedThroughout x y) := by
  constructor
  · intro h
    refine ⟨h l r (reached_self l r), fun hkind slot i x y hx hy p q hpq => ?_⟩
    exact h p q (reached_iff.2 (.inr ⟨hkind, slot, i, x, y, hx, hy, hpq⟩))
  · rintro ⟨hroot, hbelow⟩ p q hpq
    rcases reached_iff.1 hpq with ⟨rfl, rfl⟩ | ⟨hkind, slot, i, x, y, hx, hy, hrest⟩
    · exact hroot
    · exact hbelow hkind slot i x y hx hy p q hrest

/-! ## The walks -/

theorem flagDifference_eq_zero_iff {l r : Tree} :
    flagDifference l r = 0 ↔
      l.flags &&& ~~~Flag.bookkeeping = r.flags &&& ~~~Flag.bookkeeping := by
  have hdistrib : flagDifference l r =
      (l.flags &&& ~~~Flag.bookkeeping) ^^^ (r.flags &&& ~~~Flag.bookkeeping) := by
    rw [flagDifference, ← UInt32.toBitVec_inj]
    ext i hi
    simp only [UInt32.toBitVec_and, UInt32.toBitVec_xor, BitVec.getElem_and, BitVec.getElem_xor]
    exact Bool.and_xor_distrib_right _ _ _
  rw [hdistrib, UInt32.xor_eq_zero_iff]

theorem standardCause?_eq_none_iff {l r : Tree} : standardCause? l r = none ↔ Aligned l r := by
  rw [standardCause?]
  split_ifs with hstart hlength hflags
  · exact iff_of_false (by simp) fun h => hstart h.starts
  · exact iff_of_false (by simp) fun h => by have := h.lengths; omega
  · exact iff_of_false (by simp) fun h => hflags (flagDifference_eq_zero_iff.2 h.flags)
  · rw [ne_eq, Decidable.not_not] at hstart hflags
    exact iff_of_true rfl ⟨hstart, by omega, flagDifference_eq_zero_iff.1 hflags⟩

theorem rootCause?_eq_none_iff {l r : Tree} :
    rootCause? false l r = none ↔ (l.kind = r.kind ∨ tolerated l r = true) ∧ Aligned l r := by
  rw [rootCause?, ← standardCause?_eq_none_iff, if_neg Bool.false_ne_true]
  split_ifs with hkind htolerated hvariant
  · cases standardCause? l r <;> simp [hkind]
  · rw [and_iff_right (.inr htolerated)]
  · exact iff_of_false (by simp) fun h => h.1.elim hkind htolerated
  · exact iff_of_false (by simp) fun h => h.1.elim hkind htolerated

/-- What the walk for a divergence asks of two nodes and of the children
that it compares, in legacy mode or not. -/
theorem divergenceBelow_eq_none_iff_paired {legacy : Bool} {steps : List String} {l r : Tree} :
    divergenceBelow legacy steps l r = none ↔ rootCause? legacy l r = none ∧
      ∀ slot ∈ comparedSlots legacy l r, Paired (fun i x y => divergenceBelow legacy
        (steps ++ [step slot i (l.list slot).length]) x y = none) (l.list slot) (r.list slot) := by
  rw [divergenceBelow]
  cases hroot : rootCause? legacy l r with
  | some cause => simp
  | none =>
    rw [and_iff_right rfl, List.findSome?_eq_none_iff]
    refine forall₂_congr fun slot _ => ?_
    rw [paired_iff_forall_getElem?_zip]
    dsimp only
    split_ifs with hlength
    · rw [List.findSome?_eq_none_iff, and_iff_right hlength]
      exact ⟨fun h i p hp => h (p, i) (List.mem_zipIdx_iff_getElem?.2 hp),
        fun h p hp => h p.2 p.1 (List.mem_zipIdx_iff_getElem?.1 hp)⟩
    · exact iff_of_false (by simp) fun h => hlength h.1

/-- What the walk for a divergence asks of two nodes and of their
children. -/
theorem divergenceBelow_eq_none_iff {steps : List String} {l r : Tree} :
    divergenceBelow false steps l r = none ↔
      ((l.kind = r.kind ∨ tolerated l r = true) ∧ Aligned l r) ∧
        (l.kind = r.kind → ∀ slot, Paired (fun i x y => divergenceBelow false
          (steps ++ [step slot i (l.list slot).length]) x y = none) (l.list slot) (r.list slot)) := by
  rw [divergenceBelow_eq_none_iff_paired, rootCause?_eq_none_iff]
  refine and_congr_right fun _ => ?_
  have hall : (sharedSlots l r).filter
      (fun slot => !(false && (legacySlots l.kind).contains slot)) = sharedSlots l r :=
    List.filter_eq_self.2 fun _ _ => rfl
  rw [comparedSlots, hall]
  split_ifs with hkind
  · rw [forall_prop_of_true hkind, ← forall_mem_sharedSlots_paired]
  · exact iff_of_true (fun _ hslot => nomatch hslot) fun h => absurd h hkind

/-- What matching asks of two nodes and of their children. -/
theorem matchTrees_iff {folding : Bool} {l r : Tree} :
    matchTrees folding l r = true ↔
      if l.kind = r.kind then
        ∀ slot, Paired (fun _ x y => matchTrees folding x y = true) (l.list slot) (r.list slot)
      else tolerated l r = true ∨ (folding = true ∧ sameFoldedString l r = true) := by
  rw [matchTrees]
  split_ifs with hkind
  · rw [List.all_eq_true, ← forall_mem_sharedSlots_paired]
    refine forall₂_congr fun slot _ => ?_
    rw [paired_iff_forall_getElem?_zip, Bool.and_eq_true, beq_iff_eq, List.all_eq_true]
    refine and_congr_right fun _ => ⟨fun h i p hp => h p (List.mem_of_getElem? hp), fun h p hp => ?_⟩
    obtain ⟨i, hi⟩ := List.mem_iff_getElem?.1 hp
    exact h i p hi
  · rw [Bool.or_eq_true, Bool.and_eq_true]

/-! ## The walks agree -/

/-- A walk finds no divergence, whatever the steps above it, exactly where
the trees match and are aligned throughout. -/
theorem divergenceBelow_eq_none_iff_matchTrees (l : Tree) : ∀ (steps : List String) (r : Tree),
    divergenceBelow false steps l r = none ↔
      matchTrees false l r = true ∧ AlignedThroughout l r := by
  induction l using slotInduction with
  | h l ih =>
    intro steps r
    rw [divergenceBelow_eq_none_iff, matchTrees_iff, alignedThroughout_iff]
    by_cases hkind : l.kind = r.kind
    · simp only [if_pos hkind, forall_prop_of_true hkind]
      constructor
      · rintro ⟨⟨-, hroot⟩, hbelow⟩
        refine ⟨fun slot => ⟨(hbelow slot).1, fun i x y hx hy => ?_⟩, hroot,
          fun slot i x y hx hy => ?_⟩
        · exact ((ih slot x (List.mem_of_getElem? hx) _ y).1 ((hbelow slot).2 i x y hx hy)).1
        · exact ((ih slot x (List.mem_of_getElem? hx) _ y).1 ((hbelow slot).2 i x y hx hy)).2
      · rintro ⟨hmatch, hroot, haligned⟩
        refine ⟨⟨.inl hkind, hroot⟩, fun slot => ⟨(hmatch slot).1, fun i x y hx hy => ?_⟩⟩
        refine (ih slot x (List.mem_of_getElem? hx) _ y).2 ⟨?_, ?_⟩
        · exact (hmatch slot).2 i x y hx hy
        · exact haligned slot i x y hx hy
    · simp [hkind]

/-- Folding constant strings only adds matches. -/
theorem matchTrees_folding_of_strict (l : Tree) :
    ∀ r : Tree, matchTrees false l r = true → matchTrees true l r = true := by
  induction l using slotInduction with
  | h l ih =>
    intro r hstrict
    rw [matchTrees_iff] at hstrict ⊢
    by_cases hkind : l.kind = r.kind
    · rw [if_pos hkind] at hstrict ⊢
      intro slot
      refine ⟨(hstrict slot).1, fun i x y hx hy => ?_⟩
      exact ih slot x (List.mem_of_getElem? hx) y ((hstrict slot).2 i x y hx hy)
    · rw [if_neg hkind] at hstrict ⊢
      rcases hstrict with htolerated | ⟨hfalse, -⟩
      · exact .inl htolerated
      · exact absurd hfalse Bool.false_ne_true

/-- **Comparing refines matching.** Two trees have no divergence exactly
where they match without folding and every pair of nodes reached in
lock-step is aligned. So trees without a divergence match without folding,
and trees that match without folding match with it. -/
theorem firstDivergence_eq_none_iff (l r : Tree) :
    (firstDivergence false l r = none ↔
        matchTrees false l r = true ∧ ∀ p q, Reached l r p q → Aligned p q) ∧
      (firstDivergence false l r = none → matchTrees false l r = true) ∧
      (matchTrees false l r = true → matchTrees true l r = true) := by
  have hwalks : firstDivergence false l r = none ↔
      matchTrees false l r = true ∧ AlignedThroughout l r :=
    divergenceBelow_eq_none_iff_matchTrees l [l.kind.name] r
  exact ⟨hwalks, fun h => (hwalks.1 h).1, matchTrees_folding_of_strict l r⟩

end Comparison

end TreeBridge

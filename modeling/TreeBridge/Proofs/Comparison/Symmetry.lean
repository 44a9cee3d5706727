import TreeBridge.Proofs.Comparison.LockStep
/-!
# Comparing is reflexive and symmetric

Both walks go through the slots of the first tree before those that only
the second has, and a tolerated shape is looked up one way and then the
other. Neither order has a say in the verdict: whether two trees diverge,
in legacy mode or not, and whether they match, folding or not, is the
same from either side, and no tree diverges from itself.
-/

namespace TreeBridge

namespace Comparison

open Unified

/-! ## Pairs of nodes -/

theorem Aligned.refl (t : Tree) : Aligned t t :=
  ⟨rfl, by simp, rfl⟩

theorem Aligned.symm {l r : Tree} (h : Aligned l r) : Aligned r l :=
  ⟨h.starts.symm, by have := h.lengths; omega, h.flags.symm⟩

/-- A tolerated shape is tolerated on either side. -/
theorem tolerated_comm (l r : Tree) : tolerated l r = tolerated r l :=
  Bool.or_comm _ _

/-- Two constant strings of one value are so on either side. -/
theorem sameFoldedString_comm (l r : Tree) : sameFoldedString l r = sameFoldedString r l := by
  unfold sameFoldedString
  cases foldedString? l <;> cases foldedString? r <;> simp [Bool.beq_comm]

/-- What legacy mode asks of two nodes: one word of modifiers where there
are modifiers, one superclass and the same interfaces where there are
supertypes. -/
structure LegacyAlike (l r : Tree) : Prop where
  modifierFlags : l.kind.isBodyDeclaration = true → l.modifierFlags = r.modifierFlags
  superclassName? : l.kind.isTypeDeclaration = true → l.superclassName? = r.superclassName?
  superInterfaceNames :
    l.kind.isTypeDeclaration = true → l.superInterfaceNames = r.superInterfaceNames

theorem LegacyAlike.refl (t : Tree) : LegacyAlike t t :=
  ⟨fun _ => rfl, fun _ => rfl, fun _ => rfl⟩

theorem LegacyAlike.symm {l r : Tree} (hkind : l.kind = r.kind) (h : LegacyAlike l r) :
    LegacyAlike r l :=
  ⟨fun hr => (h.modifierFlags (hkind ▸ hr)).symm, fun hr => (h.superclassName? (hkind ▸ hr)).symm,
    fun hr => (h.superInterfaceNames (hkind ▸ hr)).symm⟩

theorem legacyCause?_eq_none_iff {l r : Tree} : legacyCause? l r = none ↔ LegacyAlike l r := by
  rw [legacyCause?]
  simp only [Bool.and_eq_true, bne_iff_ne, ne_eq]
  split_ifs with hflags hclass hinterfaces
  · exact iff_of_false (by simp) fun h => hflags.2 (h.modifierFlags hflags.1)
  · exact iff_of_false (by simp) fun h => hclass.2 (h.superclassName? hclass.1)
  · exact iff_of_false (by simp) fun h => hinterfaces.2 (h.superInterfaceNames hinterfaces.1)
  · rw [not_and, Decidable.not_not] at hflags hclass hinterfaces
    exact iff_of_true rfl ⟨hflags, hclass, hinterfaces⟩

/-- What the walk for a divergence asks of two nodes, their children
aside. -/
theorem rootCause?_eq_none_iff_alike {legacy : Bool} {l r : Tree} :
    rootCause? legacy l r = none ↔ Aligned l r ∧
      if l.kind = r.kind then legacy = true → LegacyAlike l r else tolerated l r = true := by
  rw [rootCause?, ← standardCause?_eq_none_iff, ← legacyCause?_eq_none_iff]
  split_ifs with hkind hlegacy htolerated hvariant
  · cases standardCause? l r <;> simp [hlegacy]
  · cases standardCause? l r <;> simp [hlegacy]
  · simp [htolerated]
  · exact iff_of_false (by simp) fun h => htolerated h.2
  · exact iff_of_false (by simp) fun h => htolerated h.2

theorem rootCause?_self (legacy : Bool) (t : Tree) : rootCause? legacy t t = none := by
  rw [rootCause?_eq_none_iff_alike, if_pos rfl]
  exact ⟨Aligned.refl t, fun _ => LegacyAlike.refl t⟩

/-- Two nodes that agree on their own do so on either side. -/
theorem rootCause?_comm {legacy : Bool} {l r : Tree} (h : rootCause? legacy l r = none) :
    rootCause? legacy r l = none := by
  rw [rootCause?_eq_none_iff_alike] at h ⊢
  refine ⟨h.1.symm, ?_⟩
  by_cases hkind : l.kind = r.kind
  · rw [if_pos hkind] at h
    rw [if_pos hkind.symm]
    exact fun hlegacy => (h.2 hlegacy).symm hkind
  · rw [if_neg hkind] at h
    rw [if_neg (Ne.symm hkind), tolerated_comm]
    exact h.2

/-! ## Pairs of slots -/

theorem Paired.self {R : Nat → Tree → Tree → Prop} {xs : List Tree}
    (h : ∀ i, ∀ x ∈ xs, R i x x) : Paired R xs xs := by
  refine ⟨rfl, fun i x y hx hy => ?_⟩
  rw [hx] at hy
  obtain rfl := Option.some.inj hy
  exact h i x (List.mem_of_getElem? hx)

theorem Paired.symm {R S : Nat → Tree → Tree → Prop} {xs ys : List Tree} (h : Paired R xs ys)
    (hRS : ∀ i, ∀ x ∈ xs, ∀ y, R i x y → S i y x) : Paired S ys xs :=
  ⟨h.1.symm, fun i y x hy hx => hRS i x (List.mem_of_getElem? hx) y (h.2 i x y hx hy)⟩

/-- The slots that are compared, whichever tree comes first. -/
theorem mem_comparedSlots {legacy : Bool} {l r : Tree} {slot : Slot} :
    slot ∈ comparedSlots legacy l r ↔ l.kind = r.kind ∧ (slot ∈ l.slots ∨ slot ∈ r.slots) ∧
      ¬ (legacy = true ∧ slot ∈ legacySlots l.kind) := by
  rw [comparedSlots]
  split_ifs with hkind
  · rw [List.mem_filter, mem_sharedSlots, and_iff_right hkind, Bool.not_eq_true',
      Bool.and_eq_false_iff, List.contains_eq_mem, decide_eq_false_iff_not, not_and,
      ← Bool.not_eq_true, Decidable.imp_iff_not_or]
  · exact iff_of_false List.not_mem_nil fun h => hkind h.1

theorem mem_comparedSlots_comm {legacy : Bool} {l r : Tree} {slot : Slot}
    (h : slot ∈ comparedSlots legacy l r) : slot ∈ comparedSlots legacy r l := by
  rw [mem_comparedSlots] at h ⊢
  obtain ⟨hkind, hslot, hlegacy⟩ := h
  exact ⟨hkind.symm, hslot.symm, hkind ▸ hlegacy⟩

/-! ## The walks -/

/-- No tree diverges from itself. -/
theorem divergenceBelow_self (legacy : Bool) (t : Tree) :
    ∀ steps : List String, divergenceBelow legacy steps t t = none := by
  induction t using slotInduction with
  | h t ih =>
    intro steps
    rw [divergenceBelow_eq_none_iff_paired]
    exact ⟨rootCause?_self legacy t, fun slot _ => Paired.self fun _ u hu => ih slot u hu _⟩

/-- Two trees without a divergence have none in the other order either.
The steps to a divergence may differ: a step counts the children of the
first tree. -/
theorem divergenceBelow_comm (legacy : Bool) (l : Tree) : ∀ (steps steps' : List String) (r : Tree),
    divergenceBelow legacy steps l r = none → divergenceBelow legacy steps' r l = none := by
  induction l using slotInduction with
  | h l ih =>
    intro steps steps' r h
    rw [divergenceBelow_eq_none_iff_paired] at h ⊢
    refine ⟨rootCause?_comm h.1, fun slot hslot => ?_⟩
    have hpaired := h.2 slot (mem_comparedSlots_comm hslot)
    exact hpaired.symm fun _ x hx y => ih slot x hx _ _ y

/-- Every tree matches itself. -/
theorem matchTrees_self (folding : Bool) (t : Tree) : matchTrees folding t t = true := by
  induction t using slotInduction with
  | h t ih =>
    rw [matchTrees_iff, if_pos rfl]
    exact fun slot => Paired.self fun _ u hu => ih slot u hu

/-- Two trees that match do so in the other order. -/
theorem matchTrees_comm (folding : Bool) (l : Tree) :
    ∀ r : Tree, matchTrees folding l r = true → matchTrees folding r l = true := by
  induction l using slotInduction with
  | h l ih =>
    intro r h
    rw [matchTrees_iff] at h ⊢
    by_cases hkind : l.kind = r.kind
    · rw [if_pos hkind] at h
      rw [if_pos hkind.symm]
      exact fun slot => (h slot).symm fun _ x hx y => ih slot x hx y
    · rw [if_neg hkind] at h
      rw [if_neg (Ne.symm hkind), tolerated_comm, sameFoldedString_comm]
      exact h

/-- **Comparing is reflexive and symmetric**, in legacy mode or not and
with constant strings folded or not. Where kinds differ, so that a
tolerance or the value of a constant string decides, each of these is
symmetric by itself. -/
theorem firstDivergence_matchTrees_refl_comm (legacy folding : Bool) :
    (∀ t : Tree, firstDivergence legacy t t = none ∧ matchTrees folding t t = true) ∧
      (∀ l r : Tree, firstDivergence legacy l r = none ↔ firstDivergence legacy r l = none) ∧
      (∀ l r : Tree, matchTrees folding l r = matchTrees folding r l) ∧
      ∀ l r : Tree, tolerated l r = tolerated r l ∧
        sameFoldedString l r = sameFoldedString r l := by
  refine ⟨fun t => ⟨?_, matchTrees_self folding t⟩, fun l r => ⟨?_, ?_⟩, fun l r => ?_,
    fun l r => ⟨tolerated_comm l r, sameFoldedString_comm l r⟩⟩
  · exact divergenceBelow_self legacy t _
  · exact divergenceBelow_comm legacy l _ _ r
  · exact divergenceBelow_comm legacy r _ _ l
  · rw [Bool.eq_iff_iff]
    exact ⟨matchTrees_comm folding l r, matchTrees_comm folding r l⟩

end Comparison

end TreeBridge

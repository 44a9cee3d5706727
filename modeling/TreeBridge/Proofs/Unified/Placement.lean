import Mathlib.Data.List.Find
import Mathlib.Data.List.Nodup
import TreeBridge.Proofs.Unified.Arena
import TreeBridge.Proofs.Unified.Separation
/-!
# Fitting children in

The violations at a node are read off its span and the spans of its
children. A child that gets a span inside its parent and clear of its
siblings fits in: it neither adds a violation at the parent nor takes one
away.
-/

namespace TreeBridge

namespace Unified

namespace Arena

variable {a b : Arena} {p : NodeId}

/-! ## Reading violations -/

theorem mem_placedChildren {q : Placed} :
    q ∈ a.placedChildren p ↔ q.1 ∈ a.children p ∧ (a.span q.1).isSet = true ∧
      q.2 = a.span q.1 := by
  obtain ⟨c, s⟩ := q
  simp only [placedChildren, List.mem_filter, List.mem_map, Prod.mk.injEq]
  grind

theorem escapes_eq_nil_iff :
    a.escapes p = [] ↔ ((a.span p).isSet = true → ∀ c ∈ a.children p, (a.span c).isSet = true →
      (a.span p).contains (a.span c) = true) := by
  unfold escapes
  split
  · next hset =>
    rw [List.map_eq_nil_iff, List.filter_eq_nil_iff]
    constructor
    · intro h _ c hc hcset
      have := h (c, a.span c) (mem_placedChildren.2 ⟨hc, hcset, rfl⟩)
      simpa using this
    · intro h q hq
      obtain ⟨hc, hcset, hq⟩ := mem_placedChildren.1 hq
      simp [hq, h hset q.1 hc hcset]
  · next hset => exact iff_of_true rfl fun h => absurd h hset

theorem typeClashes_eq_nil_iff {type : NodeId} {others : List Placed} :
    a.typeClashes p type others = [] ↔ ∀ q ∈ others, (a.span type).isSet = true →
      a.location? q.1 ≠ some .dimensions → (a.span type).overlaps q.2 = false := by
  unfold typeClashes
  rw [List.map_eq_nil_iff, List.filter_eq_nil_iff]
  grind

/-- The spans of the positioned children of a node that are not left
out. -/
def keptSpans (a : Arena) (p : NodeId) (keep : NodeId → Bool) : List Span :=
  (((a.children p).filter keep).map a.span).filter Span.isSet

theorem map_snd_filter_placedChildren (keep : NodeId → Bool) :
    ((a.placedChildren p).filter (fun q => keep q.1)).map (·.2) = a.keptSpans p keep := by
  unfold placedChildren keptSpans
  induction a.children p with
  | nil => rfl
  | cons c cs ih => grind

/-- The violations at a node whose children are all compared. -/
theorem violationsAt_eq_nil_iff_of_none (h : a.spanningType? p = none) :
    a.violationsAt p = [] ↔ a.escapes p = [] ∧ Separate (a.keptSpans p fun _ => true) := by
  have hall : (a.placedChildren p).filter (fun _ => true) = a.placedChildren p :=
    List.filter_eq_self.2 fun _ _ => rfl
  rw [violationsAt, h, List.append_eq_nil_iff, overlapsAfter_mergeSort_eq_nil_iff,
    ← map_snd_filter_placedChildren, hall]

/-- The violations at a node with a type that may span its siblings. -/
theorem violationsAt_eq_nil_iff_of_some {type : NodeId} (h : a.spanningType? p = some type) :
    a.violationsAt p = [] ↔ a.escapes p = [] ∧
      a.typeClashes p type ((a.placedChildren p).filter fun q => q.1 != type) = [] ∧
      Separate (a.keptSpans p fun c => c != type) := by
  rw [violationsAt, h, List.append_eq_nil_iff, List.append_eq_nil_iff,
    overlapsAfter_mergeSort_eq_nil_iff, ← map_snd_filter_placedChildren, and_assoc]

theorem mem_children_of_spanningType? {type : NodeId} (h : a.spanningType? p = some type) :
    type ∈ a.children p := by
  unfold spanningType? at h
  split at h
  · exact mem_children_of_child? h
  · cases h

theorem violationsAt_of_leaf (h : a.children p = []) : a.violationsAt p = [] := by
  cases htype : a.spanningType? p with
  | none =>
    rw [violationsAt_eq_nil_iff_of_none htype, escapes_eq_nil_iff, keptSpans, h]
    exact ⟨fun _ c hc _ => by simp at hc, by simp [Separate, Swept]⟩
  | some type =>
    have hmem := mem_children_of_spanningType? htype
    rw [h] at hmem
    cases hmem

/-- The violations in a tree whose positioned children stand in order. -/
theorem violations_eq_of_sorted {root : NodeId} (h : ∀ p ∈ a.preorder root,
    a.spanningType? p = none ∧ (a.placedChildren p).Pairwise fun q r => Placed.le q r = true) :
    a.violations root = (a.preorder root).flatMap fun p =>
      a.escapes p ++ overlapsAfter p none (a.placedChildren p) := by
  unfold violations
  rw [List.flatMap_def, List.flatMap_def]
  congr 1
  refine List.map_congr_left fun p hp => ?_
  obtain ⟨htype, hsorted⟩ := h p hp
  rw [violationsAt, htype]
  dsimp only
  rw [List.mergeSort_of_pairwise hsorted]

/-! ## Locations -/

/-- The slot of a child does not depend on the order of the children. -/
theorem location?_eq_of_perm {c : NodeId} (ha : a.parent c = some p) (hb : b.parent c = some p)
    (hperm : (b.entries p).Perm (a.entries p)) (hnodup : (a.children p).Nodup) :
    b.location? c = a.location? c := by
  have honce : Set.Subsingleton {x | x ∈ b.entries p ∧ (x.node == c) = true} := by
    rintro x ⟨hx, hxc⟩ y ⟨hy, hyc⟩
    refine List.inj_on_of_nodup_map hnodup (hperm.mem_iff.1 hx) (hperm.mem_iff.1 hy) ?_
    rw [beq_iff_eq.1 hxc, beq_iff_eq.1 hyc]
  unfold location?
  rw [ha, hb]
  dsimp only
  rw [List.find?_eq_find?_of_perm hperm honce]

/-! ## A child that fits in -/

/-- A positioned child inside its parent, if that is positioned, and clear
of its siblings. -/
structure FitsIn (b : Arena) (p c : NodeId) : Prop where
  solid : Solid (b.span c)
  inside : (b.span p).isSet = true → (b.span p).contains (b.span c) = true
  clear : ∀ d ∈ b.children p, d ≠ c → (b.span c).overlaps (b.span d) = false

namespace FitsIn

variable {c child : NodeId} {found : Span}

/-- A child that is placed inside its parent and clear of its siblings. -/
theorem of_setSpan (hlt : child < b.size) (hp : p ≠ child) (hsolid : Solid found)
    (hinside : (b.span p).contains found = true)
    (hclear : ∀ d ∈ b.children p, found.overlaps (b.span d) = false) :
    (b.setSpan child found).FitsIn p child := by
  have hself : (b.setSpan child found).span child = found := span_setSpan_self found hlt
  refine ⟨hself.symm ▸ hsolid, fun _ => ?_, fun d hd hdc => ?_⟩
  · rw [hself, span_setSpan_of_ne found hp]
    exact hinside
  · rw [children_setSpan] at hd
    rw [hself, span_setSpan_of_ne found hdc]
    exact hclear d hd

/-- A fit is kept when another child is placed clear of it. -/
theorem setSpan (h : b.FitsIn p c) (hp : p ≠ child) (hc : c ≠ child)
    (hclear : child ∈ b.children p → (b.span c).overlaps found = false) :
    (b.setSpan child found).FitsIn p c := by
  rcases Nat.lt_or_ge child b.size with hlt | hge
  · have hkept : (b.setSpan child found).span c = b.span c := span_setSpan_of_ne found hc
    refine ⟨hkept.symm ▸ h.solid, fun hset => ?_, fun d hd hdc => ?_⟩
    · rw [span_setSpan_of_ne found hp] at hset ⊢
      exact hkept.symm ▸ h.inside hset
    · rw [children_setSpan] at hd
      rw [hkept]
      by_cases hdchild : d = child
      · subst hdchild
        rw [span_setSpan_self found hlt]
        exact hclear hd
      · rw [span_setSpan_of_ne found hdchild]
        exact h.clear d hd hdc
  · rw [Arena.setSpan, modify_of_size_le _ hge]
    exact h

end FitsIn

/-- Arenas that differ at a node only in the order of its children and in
children that fit in. -/
structure FittedAt (a b : Arena) (p : NodeId) : Prop where
  nodup : (a.children p).Nodup
  kind : b.kind p = a.kind p
  span : b.span p = a.span p
  children : (b.children p).Perm (a.children p)
  type : b.child? p .type = a.child? p .type
  location : ∀ c ∈ a.children p, b.location? c = a.location? c
  fitted : ∀ c ∈ a.children p, b.span c = a.span c ∨ (a.span c).isSet = false ∧ b.FitsIn p c

namespace FittedAt

variable (h : a.FittedAt b p)

include h

theorem spanningType?_eq : b.spanningType? p = a.spanningType? p := by
  unfold spanningType?
  rw [h.kind, h.type]

theorem span_eq_of_isSet {c : NodeId} (hc : c ∈ a.children p) (hset : (a.span c).isSet = true) :
    b.span c = a.span c := by
  rcases h.fitted c hc with heq | ⟨hunset, -⟩
  · exact heq
  · rw [hset] at hunset
    cases hunset

theorem escapes_eq_nil_iff : b.escapes p = [] ↔ a.escapes p = [] := by
  rw [Arena.escapes_eq_nil_iff, Arena.escapes_eq_nil_iff, h.span]
  refine forall_congr' fun hset => ⟨fun hb c hc hcset => ?_, fun ha c hc hcset => ?_⟩
  · have hkept := h.span_eq_of_isSet hc hcset
    rw [← hkept] at hcset ⊢
    exact hb c (h.children.mem_iff.2 hc) hcset
  · rcases h.fitted c (h.children.mem_iff.1 hc) with heq | ⟨-, hfits⟩
    · rw [heq] at hcset ⊢
      exact ha c (h.children.mem_iff.1 hc) hcset
    · exact h.span ▸ hfits.inside (h.span ▸ hset)

theorem typeClashes_eq_nil_iff {type : NodeId} (htype : type ∈ a.children p) :
    b.typeClashes p type ((b.placedChildren p).filter fun q => q.1 != type) = [] ↔
      a.typeClashes p type ((a.placedChildren p).filter fun q => q.1 != type) = [] := by
  rw [Arena.typeClashes_eq_nil_iff, Arena.typeClashes_eq_nil_iff]
  constructor
  · intro hb q hq hset hlocation
    obtain ⟨hq, hne⟩ := List.mem_filter.1 hq
    obtain ⟨hc, hcset, hspan⟩ := mem_placedChildren.1 hq
    have hkept := h.span_eq_of_isSet hc hcset
    have hmem : q ∈ b.placedChildren p :=
      mem_placedChildren.2 ⟨h.children.mem_iff.2 hc, hkept ▸ hcset, hspan.trans hkept.symm⟩
    have htypekept := h.span_eq_of_isSet htype hset
    rw [← htypekept] at hset ⊢
    exact hb q (List.mem_filter.2 ⟨hmem, hne⟩) hset (h.location _ hc ▸ hlocation)
  · intro ha q hq hset hlocation
    obtain ⟨hq, hne⟩ := List.mem_filter.1 hq
    obtain ⟨hc, hcset, hspan⟩ := mem_placedChildren.1 hq
    have hneq : q.1 ≠ type := by simpa using hne
    rw [hspan]
    -- a clash needs two spans from before: whichever is new is clear of the other
    rcases h.fitted type htype with htypeq | ⟨-, hfits⟩
    · rcases h.fitted q.1 (h.children.mem_iff.1 hc) with hceq | ⟨-, hfits⟩
      · rw [htypeq] at hset ⊢
        rw [hceq] at hcset hspan ⊢
        have hmem : q ∈ a.placedChildren p :=
          mem_placedChildren.2 ⟨h.children.mem_iff.1 hc, hcset, hspan⟩
        have hclear := ha q (List.mem_filter.2 ⟨hmem, hne⟩) hset
          (h.location _ (h.children.mem_iff.1 hc) ▸ hlocation)
        rwa [hspan] at hclear
      · rw [overlaps_comm]
        exact hfits.clear type (h.children.mem_iff.2 htype) hneq.symm
    · exact hfits.clear q.1 hc hneq

/-- Fitted children leave the others as separate as they were. -/
theorem separate_append_iff {cs : List NodeId} (hsub : cs.Sublist (a.children p))
    {placed : List Span}
    (hplaced : ∀ c ∈ cs, (a.span c).isSet = false → b.FitsIn p c →
      ∀ s ∈ placed, (b.span c).overlaps s = false) :
    Separate (placed ++ (cs.map b.span).filter Span.isSet) ↔
      Separate (placed ++ (cs.map a.span).filter Span.isSet) := by
  -- `placed` holds the spans from before; a fitted one is dropped when its turn comes
  induction cs generalizing placed with
  | nil => exact Iff.rfl
  | cons c cs ih =>
    have hc : c ∈ a.children p := hsub.subset (by simp)
    have hnodup : (c :: cs).Nodup := hsub.nodup h.nodup
    have hrest : cs.Sublist (a.children p) := (List.sublist_cons_self c cs).trans hsub
    have hkeep : ∀ d ∈ cs, (a.span d).isSet = false → b.FitsIn p d →
        ∀ s ∈ placed, (b.span d).overlaps s = false :=
      fun d hd => hplaced d (by simp [hd])
    rcases h.fitted c hc with heq | ⟨hunset, hfits⟩
    · rw [List.map_cons, List.map_cons, heq]
      cases hset : (a.span c).isSet with
      | false =>
        rw [List.filter_cons_of_neg (by simp [hset]), List.filter_cons_of_neg (by simp [hset])]
        exact ih hrest hkeep
      | true =>
        rw [List.filter_cons_of_pos hset, List.filter_cons_of_pos hset,
          List.append_cons placed _ ((cs.map b.span).filter _),
          List.append_cons placed _ ((cs.map a.span).filter _)]
        refine ih hrest fun d hd hdunset hdfits s hs => ?_
        rcases List.mem_append.1 hs with hs | hs
        · exact hkeep d hd hdunset hdfits s hs
        · rw [List.mem_singleton.1 hs, ← heq]
          refine hdfits.clear c (h.children.mem_iff.2 hc) ?_
          rintro rfl
          exact (List.nodup_cons.1 hnodup).1 hd
    · rw [List.map_cons, List.map_cons, List.filter_cons_of_pos hfits.solid.1,
        List.filter_cons_of_neg (by simp [hunset]), Separate.perm_iff List.perm_middle,
        Separate.cons_iff hfits.solid]
      · exact ih hrest hkeep
      · intro s hs
        rcases List.mem_append.1 hs with hs | hs
        · exact hplaced c (by simp) hunset hfits s hs
        · obtain ⟨d, hd, rfl⟩ := List.mem_map.1 (List.mem_filter.1 hs).1
          refine hfits.clear d (h.children.mem_iff.2 (hrest.subset hd)) ?_
          rintro rfl
          exact (List.nodup_cons.1 hnodup).1 hd

theorem separate_keptSpans_iff (keep : NodeId → Bool) :
    Separate (b.keptSpans p keep) ↔ Separate (a.keptSpans p keep) := by
  have hperm : (b.keptSpans p keep).Perm
      ((((a.children p).filter keep).map b.span).filter Span.isSet) :=
    ((h.children.filter _).map _).filter _
  rw [Separate.perm_iff hperm]
  have hfirst : ∀ c ∈ (a.children p).filter keep, (a.span c).isSet = false → b.FitsIn p c →
      ∀ s ∈ ([] : List Span), (b.span c).overlaps s = false :=
    fun _ _ _ _ s hs => by cases hs
  exact h.separate_append_iff List.filter_sublist hfirst

/-- **Fitted children make no difference**: there is a violation at a node
with them exactly if there is one without them. -/
theorem violationsAt_eq_nil_iff : b.violationsAt p = [] ↔ a.violationsAt p = [] := by
  cases htype : a.spanningType? p with
  | none =>
    rw [violationsAt_eq_nil_iff_of_none (h.spanningType?_eq.trans htype),
      violationsAt_eq_nil_iff_of_none htype, h.escapes_eq_nil_iff, h.separate_keptSpans_iff]
  | some type =>
    have hchild : type ∈ a.children p := mem_children_of_spanningType? htype
    rw [violationsAt_eq_nil_iff_of_some (h.spanningType?_eq.trans htype),
      violationsAt_eq_nil_iff_of_some htype, h.escapes_eq_nil_iff, h.separate_keptSpans_iff,
      h.typeClashes_eq_nil_iff hchild]

end FittedAt

end Arena

end Unified

end TreeBridge

import Mathlib.Data.List.Pairwise
import TreeBridge.Proofs.Unified.Forest
import TreeBridge.Proofs.Unified.Placement
/-!
# The check of spans is exact

The check walks a subtree and compares spans by their ends and lengths.
What it is about can be said without the walk and the sweep: a child lies
inside its parent, and two children of one node share no byte. Where no
end wraps, the check finds no violation exactly if that holds at every
node of the subtree, and each violation that it finds is one.
-/

namespace TreeBridge

/-! ## Spans in exact arithmetic -/

namespace Span

/-- A span whose end is an offset of 32 bits. -/
def EndFits (s : Span) : Prop :=
  -2147483648 ≤ s.start + s.length ∧ s.start + s.length < 2147483648

/-- A span that neither starts before another nor ends after it. -/
def Inside (s t : Span) : Prop :=
  t.start ≤ s.start ∧ s.start + s.length ≤ t.start + t.length

/-- Two spans with a byte in common. -/
def ShareByte (s t : Span) : Prop :=
  ∃ offset : Int, (s.start ≤ offset ∧ offset < s.start + s.length) ∧
    (t.start ≤ offset ∧ offset < t.start + t.length)

variable {s t : Span}

theorem stop_of_endFits (h : s.EndFits) : s.stop = s.start + s.length :=
  Int.bmod_eq_of_le h.1 (by have := h.2; omega)

theorem contains_iff_inside (hs : s.isSet = true) (ht : t.isSet = true) (hfits : s.EndFits)
    (hfits' : t.EndFits) : s.contains t = true ↔ t.Inside s := by
  simp only [contains, hs, ht, stop_of_endFits hfits, stop_of_endFits hfits', Bool.true_and,
    Bool.and_eq_true, decide_eq_true_eq]
  exact Iff.rfl

theorem overlaps_iff_shareByte (hs : s.isSet = true) (ht : t.isSet = true) (hfits : s.EndFits)
    (hfits' : t.EndFits) : s.overlaps t = true ↔ s.ShareByte t := by
  simp only [overlaps, hs, ht, stop_of_endFits hfits, stop_of_endFits hfits', Bool.true_and,
    Bool.and_eq_true, decide_eq_true_eq]
  constructor
  · rintro ⟨⟨⟨hlength, hlength'⟩, hstart⟩, hstart'⟩
    -- the later start is a byte of both
    exact ⟨max s.start t.start, by omega, by omega⟩
  · rintro ⟨offset, ⟨hs, hs'⟩, ht, ht'⟩
    omega

theorem overlaps_eq_false_iff (hs : s.isSet = true) (ht : t.isSet = true) (hfits : s.EndFits)
    (hfits' : t.EndFits) : s.overlaps t = false ↔ ¬ s.ShareByte t := by
  rw [← overlaps_iff_shareByte hs ht hfits hfits', Bool.not_eq_true]

theorem Inside.trans {u : Span} (h : s.Inside t) (h' : t.Inside u) : s.Inside u := by
  unfold Inside at h h' ⊢
  omega

theorem ShareByte.symm (h : s.ShareByte t) : t.ShareByte s := by
  obtain ⟨offset, hs, ht⟩ := h
  exact ⟨offset, ht, hs⟩

/-- Spans one behind the other share no byte. -/
theorem not_shareByte_of_le (h : s.start + s.length ≤ t.start) : ¬s.ShareByte t := by
  rintro ⟨offset, hs, ht⟩
  omega

end Span

namespace Unified

/-! ## The sweep -/

/-- A set span whose end does not wrap. -/
def Exact (s : Span) : Prop :=
  s.isSet = true ∧ s.EndFits

/-- A sweep over spans in the order of their starts finds no overlap
exactly if no two of them overlap. The furthest span stands for all that
the sweep has passed. -/
theorem swept_iff_pairwise {f : Span} {spans : List Span} (hexact : ∀ s ∈ f :: spans, Exact s)
    (hsorted : (f :: spans).Pairwise fun s t => s.start ≤ t.start) :
    Swept (some f) spans ↔ (f :: spans).Pairwise fun s t => s.overlaps t = false := by
  induction spans generalizing f with
  | nil => exact iff_of_true trivial (List.pairwise_singleton _ _)
  | cons s rest ih =>
    obtain ⟨hf, hrest⟩ := List.forall_mem_cons.1 hexact
    obtain ⟨hs, -⟩ := List.forall_mem_cons.1 hrest
    obtain ⟨hfirst, hsorted'⟩ := List.pairwise_cons.1 hsorted
    have hfs := hfirst s List.mem_cons_self
    have hkept : Swept (some f) rest ↔ (f :: rest).Pairwise fun s t => s.overlaps t = false :=
      ih (fun q hq => hexact q (by grind)) (hsorted.sublist (by simp))
    have hpassed : Swept (some s) rest ↔ (s :: rest).Pairwise fun s t => s.overlaps t = false :=
      ih hrest hsorted'
    -- whatever overlaps the span that reaches less far overlaps the other
    have hreach {g h q : Span} (hg : Exact g) (hh : Exact h) (hq : Exact q)
        (hstop : h.stop ≤ g.stop) (hgq : g.start ≤ q.start) (hclear : g.overlaps q = false) :
        h.overlaps q = false := by
      rw [Span.stop_of_endFits hg.2, Span.stop_of_endFits hh.2] at hstop
      rw [Span.overlaps_eq_false_iff hg.1 hq.1 hg.2 hq.2] at hclear
      rw [Span.overlaps_eq_false_iff hh.1 hq.1 hh.2 hq.2]
      rintro ⟨offset, hho, hqo⟩
      exact hclear ⟨offset, by omega, hqo⟩
    have hstep : Swept (some f) (s :: rest) ↔
        f.overlaps s = false ∧ Swept (some (if s.stop ≤ f.stop then f else s)) rest := Iff.rfl
    rw [hstep, List.pairwise_cons, List.forall_mem_cons, and_assoc]
    refine and_congr_right fun hclear => ?_
    split
    · next hstop =>
      rw [hkept, List.pairwise_cons, List.pairwise_cons]
      refine ⟨fun ⟨hfr, hr⟩ => ⟨hfr, fun q hq => ?_, hr⟩, fun ⟨hfr, _, hr⟩ => ⟨hfr, hr⟩⟩
      exact hreach hf hs (hexact q (by grind)) hstop (hfirst q (by grind)) (hfr q hq)
    · next hstop =>
      rw [hpassed, List.pairwise_cons]
      refine ⟨fun ⟨hsr, hr⟩ => ⟨fun q hq => ?_, hsr, hr⟩, fun ⟨_, hsr, hr⟩ => ⟨hsr, hr⟩⟩
      exact hreach hs hf (hexact q (by grind)) (by omega)
        ((List.pairwise_cons.1 hsorted').1 q hq) (hsr q hq)

/-- **Separate spans** are those of which no two overlap. -/
theorem separate_iff_pairwise {spans : List Span} (hexact : ∀ s ∈ spans, Exact s) :
    Separate spans ↔ spans.Pairwise fun s t => s.overlaps t = false := by
  have hperm := List.mergeSort_perm spans spanLe
  have hsorted : (spans.mergeSort spanLe).Pairwise fun s t => s.start ≤ t.start := by
    refine (List.pairwise_mergeSort spanLe_trans spanLe_total spans).imp fun {s t} hle => ?_
    rw [spanLe_iff] at hle
    omega
  have hexact' : ∀ s ∈ spans.mergeSort spanLe, Exact s := fun s hs => hexact s (hperm.mem_iff.1 hs)
  have hsymm {s t : Span} (h : s.overlaps t = false) : t.overlaps s = false :=
    (overlaps_comm t s).trans h
  rw [← hperm.pairwise_iff fun h => hsymm h, Separate]
  cases hsort : spans.mergeSort spanLe with
  | nil => exact iff_of_true trivial List.Pairwise.nil
  | cons s rest =>
    rw [hsort] at hsorted hexact'
    exact swept_iff_pairwise hexact' hsorted

/-- An overlap that the sweep finds is one of two children, the first of
which comes before the other. -/
theorem exists_sublist_of_mem_overlapsAfter {parent : NodeId} {f : Option Placed}
    {placed : List Placed} {v : Violation} (h : v ∈ Arena.overlapsAfter parent f placed) :
    ∃ q r : Placed, [q, r].Sublist (f.toList ++ placed) ∧ q.2.overlaps r.2 = true ∧
      v = .overlapping parent r.1 r.2 q.1 q.2 := by
  induction placed generalizing f with
  | nil => cases f <;> cases h
  | cons p rest ih =>
    cases f with
    | none => exact ih h
    | some f =>
      rw [Arena.overlapsAfter, List.mem_append] at h
      rcases h with h | h
      · split at h
        · next hoverlap =>
          obtain rfl := List.mem_singleton.1 h
          exact ⟨f, p, by simp, hoverlap, rfl⟩
        · cases h
      · obtain ⟨q, r, hsub, hqr⟩ := ih h
        refine ⟨q, r, hsub.trans ?_, hqr⟩
        split
        · exact (List.sublist_cons_self p rest).cons_cons f
        · exact List.sublist_cons_self f _

namespace Arena

variable {a : Arena}

/-! ## What the check is about -/

/-- The first type of an array creation may span the dimensions beside
it. -/
def MaySpan (a : Arena) (p c d : NodeId) : Prop :=
  a.kind p = .arrayCreation ∧ a.child? p .type = some c ∧ ⟨.dimensions, d⟩ ∈ a.entries p

/-- A node with positioned children that lie inside it, if it is
positioned itself, and share no byte, save that a type of an array may
span its dimensions. -/
structure WellPlaced (a : Arena) (p : NodeId) : Prop where
  inside : (a.span p).isSet = true → ∀ c ∈ a.children p, (a.span c).isSet = true →
    (a.span c).Inside (a.span p)
  apart : ∀ c ∈ a.children p, ∀ d ∈ a.children p, c ≠ d → (a.span c).isSet = true →
    (a.span d).isSet = true → ¬ a.MaySpan p c d → ¬ a.MaySpan p d c →
    ¬ (a.span c).ShareByte (a.span d)

/-- A violation that tells of two nodes that are really placed wrong. -/
inductive Tells (a : Arena) : Violation → Prop
  | outside {p c : NodeId} (hc : c ∈ a.children p) (hp : (a.span p).isSet = true)
    (hset : (a.span c).isSet = true) (h : ¬ (a.span c).Inside (a.span p)) :
    Tells a (.outside p c (a.span c) (a.span p))
  | overlapping {p c d : NodeId} (hc : c ∈ a.children p) (hd : d ∈ a.children p) (hne : c ≠ d)
    (hset : (a.span c).isSet = true) (hset' : (a.span d).isSet = true)
    (hcd : ¬ a.MaySpan p c d) (hdc : ¬ a.MaySpan p d c)
    (h : (a.span c).ShareByte (a.span d)) :
    Tells a (.overlapping p c (a.span c) d (a.span d))

/-! ## One node -/

/-- A node that owns its children: each is listed once and has the node
for its parent, and the spans around it do not wrap. -/
structure Checkable (a : Arena) (p : NodeId) : Prop where
  nodup : (a.children p).Nodup
  parent : ∀ c ∈ a.children p, a.parent c = some p
  endFits : (a.span p).isSet = true → (a.span p).EndFits
  endsFit : ∀ c ∈ a.children p, (a.span c).isSet = true → (a.span c).EndFits

variable {p : NodeId}

theorem location?_eq_some_iff (h : a.Checkable p) {c : NodeId} (hc : c ∈ a.children p)
    {slot : Slot} : a.location? c = some slot ↔ ⟨slot, c⟩ ∈ a.entries p :=
  location?_eq_some_iff_of_nodup h.nodup (h.parent c hc)

theorem exists_of_mem_placedChildren {q : Placed} (h : q ∈ a.placedChildren p) :
    ∃ c, q = (c, a.span c) ∧ c ∈ a.children p ∧ (a.span c).isSet = true := by
  obtain ⟨hc, hset, hspan⟩ := mem_placedChildren.1 h
  exact ⟨q.1, by rw [← hspan], hc, hset⟩

theorem spanningType?_eq_some_iff {c : NodeId} :
    a.spanningType? p = some c ↔ a.kind p = .arrayCreation ∧ a.child? p .type = some c := by
  unfold spanningType?
  split
  · next hkind => simp [hkind]
  · next hkind => exact iff_of_false (by simp) fun h => hkind h.1

/-- The type of an array may span just the children that lie in the slot
of its dimensions. -/
theorem maySpan_iff (h : a.Checkable p) {c d : NodeId} (hd : d ∈ a.children p) :
    a.MaySpan p c d ↔ a.spanningType? p = some c ∧ a.location? d = some .dimensions := by
  rw [spanningType?_eq_some_iff, location?_eq_some_iff h hd, and_assoc]
  exact Iff.rfl

theorem escapes_eq_nil_iff_inside (h : a.Checkable p) :
    a.escapes p = [] ↔ ((a.span p).isSet = true → ∀ c ∈ a.children p, (a.span c).isSet = true →
      (a.span c).Inside (a.span p)) := by
  rw [escapes_eq_nil_iff]
  refine forall_congr' fun hp => forall₂_congr fun c hc => forall_congr' fun hset => ?_
  exact Span.contains_iff_inside hp hset (h.endFits hp) (h.endsFit c hc hset)

/-- The children that are kept are separate if no two of them share a
byte. -/
theorem separate_keptSpans_iff_apart (h : a.Checkable p) (keep : NodeId → Bool) :
    Separate (a.keptSpans p keep) ↔ ∀ c ∈ a.children p, ∀ d ∈ a.children p, c ≠ d →
      (a.span c).isSet = true → (a.span d).isSet = true → keep c = true → keep d = true →
      ¬ (a.span c).ShareByte (a.span d) := by
  have hexact : ∀ s ∈ a.keptSpans p keep, Exact s := by
    intro s hs
    obtain ⟨hmem, hset⟩ := List.mem_filter.1 hs
    obtain ⟨c, hc, rfl⟩ := List.mem_map.1 hmem
    exact ⟨hset, h.endsFit c (List.mem_filter.1 hc).1 hset⟩
  let Apart (c d : NodeId) : Prop := keep c = true → keep d = true → (a.span c).isSet = true →
    (a.span d).isSet = true → (a.span c).overlaps (a.span d) = false
  have hpairwise : (a.keptSpans p keep).Pairwise (fun s t => s.overlaps t = false) ↔
      (a.children p).Pairwise Apart := by
    unfold keptSpans
    rw [List.pairwise_filter, List.pairwise_map, List.pairwise_filter]
  have : Std.Symm Apart := ⟨fun c d hcd hd hc hd' hc' =>
    (overlaps_comm _ _).trans (hcd hc hd hc' hd')⟩
  rw [separate_iff_pairwise hexact, hpairwise]
  constructor
  · intro hall c hc d hd hne hset hset' hkeep hkeep'
    rw [← Span.overlaps_eq_false_iff hset hset' (h.endsFit c hc hset) (h.endsFit d hd hset')]
    exact hall.forall hc hd hne hkeep hkeep' hset hset'
  · intro hall
    refine h.nodup.pairwise_of_forall_ne fun c hc d hd hne hkeep hkeep' hset hset' => ?_
    rw [Span.overlaps_eq_false_iff hset hset' (h.endsFit c hc hset) (h.endsFit d hd hset')]
    exact hall c hc d hd hne hset hset' hkeep hkeep'

/-- **The check finds no violation at a node exactly if the node is well
placed.** -/
theorem violationsAt_eq_nil_iff_wellPlaced (h : a.Checkable p) :
    a.violationsAt p = [] ↔ a.WellPlaced p := by
  cases htype : a.spanningType? p with
  | none =>
    have hspan {c d : NodeId} (hd : d ∈ a.children p) : ¬ a.MaySpan p c d := by
      rw [maySpan_iff h hd, htype]
      exact fun hc => nomatch hc.1
    rw [violationsAt_eq_nil_iff_of_none htype, escapes_eq_nil_iff_inside h,
      separate_keptSpans_iff_apart h]
    constructor
    · rintro ⟨hinside, hapart⟩
      exact ⟨hinside, fun c hc d hd hne hset hset' _ _ =>
        hapart c hc d hd hne hset hset' rfl rfl⟩
    · intro hplaced
      exact ⟨hplaced.inside, fun c hc d hd hne hset hset' _ _ =>
        hplaced.apart c hc d hd hne hset hset' (hspan hd) (hspan hc)⟩
  | some type =>
    have hmem := mem_children_of_spanningType? htype
    have hspan {c d : NodeId} (hd : d ∈ a.children p) :
        a.MaySpan p c d ↔ c = type ∧ a.location? d = some .dimensions := by
      rw [maySpan_iff h hd, htype, Option.some.injEq, eq_comm]
    have hclash {d : NodeId} (hd : d ∈ a.children p) (hset : (a.span type).isSet = true)
        (hset' : (a.span d).isSet = true) :
        (a.span type).overlaps (a.span d) = false ↔ ¬ (a.span type).ShareByte (a.span d) :=
      Span.overlaps_eq_false_iff hset hset' (h.endsFit type hmem hset) (h.endsFit d hd hset')
    rw [violationsAt_eq_nil_iff_of_some htype, escapes_eq_nil_iff_inside h, typeClashes_eq_nil_iff,
      separate_keptSpans_iff_apart h]
    constructor
    · rintro ⟨hinside, hbeside, hothers⟩
      -- the type against another child, in either order
      have htypes {d : NodeId} (hd : d ∈ a.children p) (hne : type ≠ d)
          (hset : (a.span type).isSet = true) (hset' : (a.span d).isSet = true)
          (hmay : ¬ a.MaySpan p type d) : ¬ (a.span type).ShareByte (a.span d) := by
        rw [hspan hd, and_iff_right rfl] at hmay
        have hothers : (d, a.span d) ∈ (a.placedChildren p).filter fun q => q.1 != type :=
          List.mem_filter.2 ⟨mem_placedChildren.2 ⟨hd, hset', rfl⟩, by simpa using Ne.symm hne⟩
        have hclear := hbeside (d, a.span d) hothers hset hmay
        exact (hclash hd hset hset').1 hclear
      refine ⟨hinside, fun c hc d hd hne hset hset' hcd hdc => ?_⟩
      by_cases hct : c = type
      · subst hct
        exact htypes hd hne hset hset' hcd
      by_cases hdt : d = type
      · subst hdt
        rintro ⟨offset, hoc, hod⟩
        exact htypes hc (Ne.symm hne) hset' hset hdc ⟨offset, hod, hoc⟩
      · exact hothers c hc d hd hne hset hset' (by simpa using hct) (by simpa using hdt)
    · intro hplaced
      refine ⟨hplaced.inside, fun q hq hset hlocation => ?_,
        fun c hc d hd hne hset hset' hct hdt => ?_⟩
      · obtain ⟨hq, hne⟩ := List.mem_filter.1 hq
        obtain ⟨hd, hset', hspanq⟩ := mem_placedChildren.1 hq
        have hne' : type ≠ q.1 := by simpa using Ne.symm (bne_iff_ne.1 hne)
        rw [hspanq]
        refine (hclash hd hset hset').2 (hplaced.apart type hmem q.1 hd hne' hset hset' ?_ ?_)
        · exact fun hmay => hlocation ((hspan hd).1 hmay).2
        · exact fun hmay => hne' ((hspan hmem).1 hmay).1.symm
      · refine hplaced.apart c hc d hd hne hset hset' (fun hmay => ?_) fun hmay => ?_
        · exact (bne_iff_ne.1 hct) ((hspan hd).1 hmay).1
        · exact (bne_iff_ne.1 hdt) ((hspan hc).1 hmay).1

/-- A child that the sweep sets against an earlier one is another child and
shares a byte with it. -/
theorem tells_of_mem_overlapsAfter (h : a.Checkable p) {keep : Placed → Bool}
    (hspan : ∀ c ∈ a.children p, ∀ d ∈ a.children p, keep (c, a.span c) = true →
      keep (d, a.span d) = true → ¬ a.MaySpan p c d) {v : Violation}
    (hv : v ∈ overlapsAfter p none (((a.placedChildren p).filter keep).mergeSort Placed.le)) :
    v.parent = p ∧ a.Tells v := by
  obtain ⟨q, r, hsub, hoverlap, rfl⟩ := exists_sublist_of_mem_overlapsAfter hv
  rw [Option.toList_none, List.nil_append] at hsub
  have hperm := List.mergeSort_perm ((a.placedChildren p).filter keep) Placed.le
  have hmem {x : Placed} (hx : x ∈ [q, r]) : x ∈ a.placedChildren p ∧ keep x = true :=
    List.mem_filter.1 (hperm.mem_iff.1 (hsub.subset hx))
  obtain ⟨hq, hkeepq⟩ := hmem (x := q) (by simp)
  obtain ⟨hr, hkeepr⟩ := hmem (x := r) (by simp)
  -- no child is listed twice, so neither is one of the placed children
  have hnodup : ((((a.placedChildren p).filter keep).mergeSort Placed.le).map (·.1)).Nodup := by
    have hplaced : (((a.placedChildren p).filter keep).map (·.1)).Sublist (a.children p) := by
      have hall : ((a.children p).map fun c => (c, a.span c)).map (·.1) = a.children p := by
        simp [Function.comp_def]
      have hkept : ((a.placedChildren p).filter keep).Sublist
          ((a.children p).map fun c => (c, a.span c)) :=
        List.filter_sublist.trans List.filter_sublist
      rw [← hall]
      exact hkept.map (·.1)
    exact (hperm.map (·.1)).nodup_iff.2 (hplaced.nodup h.nodup)
  have hne : r.1 ≠ q.1 := by
    have := (hsub.map (·.1)).nodup hnodup
    simp only [List.map_cons, List.map_nil, List.nodup_cons, List.mem_singleton] at this
    exact Ne.symm this.1
  obtain ⟨c, rfl, hcq, hsetq⟩ := exists_of_mem_placedChildren hq
  obtain ⟨d, rfl, hcr, hsetr⟩ := exists_of_mem_placedChildren hr
  rw [overlaps_comm, Span.overlaps_iff_shareByte hsetr hsetq (h.endsFit d hcr hsetr)
    (h.endsFit c hcq hsetq)] at hoverlap
  exact ⟨rfl, .overlapping hcr hcq hne hsetr hsetq (hspan d hcr c hcq hkeepr hkeepq)
    (hspan c hcq d hcr hkeepq hkeepr) hoverlap⟩

/-- **Every violation that the check finds at a node is one.** -/
theorem tells_of_mem_violationsAt (h : a.Checkable p) {v : Violation}
    (hv : v ∈ a.violationsAt p) : v.parent = p ∧ a.Tells v := by
  have hescapes (hv : v ∈ a.escapes p) : v.parent = p ∧ a.Tells v := by
    unfold escapes at hv
    split at hv
    · next hset =>
      obtain ⟨q, hq, rfl⟩ := List.mem_map.1 hv
      obtain ⟨hq, hout⟩ := List.mem_filter.1 hq
      obtain ⟨c, rfl, hc, hcset⟩ := exists_of_mem_placedChildren hq
      refine ⟨rfl, .outside hc hset hcset fun hinside => ?_⟩
      rw [← Span.contains_iff_inside hset hcset (h.endFits hset) (h.endsFit c hc hcset)] at hinside
      simp [hinside] at hout
    · cases hv
  cases htype : a.spanningType? p with
  | none =>
    have hall : (a.placedChildren p).filter (fun _ => true) = a.placedChildren p :=
      List.filter_eq_self.2 fun _ _ => rfl
    rw [violationsAt, htype] at hv
    dsimp only at hv
    rw [← hall] at hv
    rcases List.mem_append.1 hv with hv | hv
    · exact hescapes hv
    · refine tells_of_mem_overlapsAfter h (fun c _ d hd _ _ hmay => ?_) hv
      rw [maySpan_iff h hd, htype] at hmay
      cases hmay.1
  | some type =>
    have hmem := mem_children_of_spanningType? htype
    have hspan {c d : NodeId} (hd : d ∈ a.children p) :
        a.MaySpan p c d ↔ type = c ∧ a.location? d = some .dimensions := by
      rw [maySpan_iff h hd, htype, Option.some.injEq]
    rw [violationsAt, htype] at hv
    dsimp only at hv
    rcases List.mem_append.1 hv with hv | hv
    · rcases List.mem_append.1 hv with hv | hv
      · exact hescapes hv
      · obtain ⟨q, hq, rfl⟩ := List.mem_map.1 hv
        obtain ⟨hq, hclash⟩ := List.mem_filter.1 hq
        obtain ⟨hq, hne⟩ := List.mem_filter.1 hq
        obtain ⟨d, rfl, hd, hdset⟩ := exists_of_mem_placedChildren hq
        simp only [Bool.and_eq_true, bne_iff_ne] at hclash hne
        obtain ⟨⟨hset, hlocation⟩, hoverlap⟩ := hclash
        rw [overlaps_comm, Span.overlaps_iff_shareByte hdset hset (h.endsFit d hd hdset)
          (h.endsFit type hmem hset)] at hoverlap
        refine ⟨rfl, .overlapping hd hmem hne hdset hset (fun hmay => ?_) (fun hmay => ?_) hoverlap⟩
        · exact hne ((hspan hmem).1 hmay).1.symm
        · exact hlocation ((hspan hd).1 hmay).2
    · refine tells_of_mem_overlapsAfter h (fun c _ d hd hkeep _ hmay => ?_) hv
      exact bne_iff_ne.1 hkeep ((hspan hd).1 hmay).1.symm

/-! ## A subtree -/

/-- The nodes of the subtree at a node. -/
inductive Reaches (a : Arena) (root : NodeId) : NodeId → Prop
  | root : Reaches a root root
  | child {p c : NodeId} (h : Reaches a root p) (hc : c ∈ a.children p) : Reaches a root c

theorem Reaches.trans {r p c : NodeId} (h : a.Reaches r p) (h' : a.Reaches p c) :
    a.Reaches r c := by
  induction h' with
  | root => exact h
  | child _ hc ih => exact ih.child hc

end Arena

/-- Every node of a grove is reached from one of its roots. -/
theorem Grove.reaches_of_mem {a : Arena} {parent : Option NodeId} {roots ids : List NodeId}
    (h : Grove a parent roots ids) {i : NodeId} (hi : i ∈ ids) :
    ∃ r ∈ roots, a.Reaches r i := by
  induction h with
  | nil => cases hi
  | @cons parent id rest below others _ _ _ ihbelow ihrest =>
    rcases List.mem_cons.1 hi with rfl | hi
    · exact ⟨i, List.mem_cons_self, .root⟩
    rcases List.mem_append.1 hi with hi | hi
    · obtain ⟨c, hc, hreach⟩ := ihbelow hi
      exact ⟨id, List.mem_cons_self, (Arena.Reaches.root.child hc).trans hreach⟩
    · obtain ⟨r, hr, hreach⟩ := ihrest hi
      exact ⟨r, List.mem_cons_of_mem _ hr, hreach⟩

namespace Forest

variable {a : Arena} {roots : List NodeId} {root : NodeId}

/-- The walk over a subtree of a forest comes to all of its nodes and to no
other. -/
theorem mem_preorder_iff (h : Forest a roots) (hroot : root < a.size) {i : NodeId} :
    i ∈ a.preorder root ↔ a.Reaches root i := by
  obtain ⟨below, hpreorder, hbelow, -⟩ := h.exists_preorder_eq hroot
  rw [hpreorder, List.mem_cons]
  constructor
  · rintro (rfl | hi)
    · exact .root
    · obtain ⟨c, hc, hreach⟩ := hbelow.reaches_of_mem hi
      exact (Arena.Reaches.root.child hc).trans hreach
  · intro hreach
    induction hreach with
    | root => exact Or.inl rfl
    | @child p c _ hc ih =>
      rcases ih with rfl | hp
      · exact Or.inr (hbelow.roots_sublist.subset hc)
      · obtain ⟨js, hjs, hjsub⟩ := hbelow.below_of_mem hp
        exact Or.inr (hjsub.subset (hjs.roots_sublist.subset hc))

/-- A node that is reached in a forest is a node of it. -/
theorem lt_size_of_reaches (h : Forest a roots) (hroot : root < a.size) {i : NodeId}
    (hi : a.Reaches root i) : i < a.size := by
  induction hi with
  | root => exact hroot
  | child _ hc ih => exact (h.parent_of_mem_children ih hc).1

/-- The nodes of a forest own their children. -/
theorem nodup_children (h : Forest a roots) {p : NodeId} (hp : p < a.size) :
    (a.children p).Nodup := by
  obtain ⟨ids, hgrove, hperm⟩ := h
  obtain ⟨below, hbelow, hsub⟩ := hgrove.below_of_mem (hperm.mem_iff.2 (List.mem_range.2 hp))
  exact (hbelow.roots_sublist.trans hsub).nodup (hperm.nodup_iff.2 List.nodup_range)

end Forest

/-- **The check of spans is sound and complete.** In a forest, for the
subtree at any of its nodes in which no end wraps, there is no violation
exactly if every node of the subtree is well placed, and every violation
tells of two nodes of the subtree that are not. -/
theorem violations_eq_nil_iff_wellPlaced {a : Arena} {roots : List NodeId} {root : NodeId}
    (hforest : Forest a roots) (hroot : root < a.size)
    (hfits : ∀ i, a.Reaches root i → (a.span i).isSet = true → (a.span i).EndFits) :
    (a.violations root = [] ↔ ∀ p, a.Reaches root p → a.WellPlaced p) ∧
      ∀ v ∈ a.violations root, a.Reaches root v.parent ∧ a.Tells v := by
  have hcheckable {p : NodeId} (hp : a.Reaches root p) : a.Checkable p := by
    have hlt := hforest.lt_size_of_reaches hroot hp
    exact ⟨hforest.nodup_children hlt, fun c hc => (hforest.parent_of_mem_children hlt hc).2,
      hfits p hp, fun c hc => hfits c (hp.child hc)⟩
  constructor
  · rw [Arena.violations, List.flatMap_eq_nil_iff]
    refine forall_congr' fun p => ?_
    rw [hforest.mem_preorder_iff hroot]
    exact forall_congr' fun hp => Arena.violationsAt_eq_nil_iff_wellPlaced (hcheckable hp)
  · intro v hv
    obtain ⟨p, hp, hv⟩ := List.mem_flatMap.1 hv
    rw [hforest.mem_preorder_iff hroot] at hp
    obtain ⟨rfl, htells⟩ := Arena.tells_of_mem_violationsAt (hcheckable hp) hv
    exact ⟨hp, htells⟩

/-- A whole tree in which no end wraps has no violation exactly if all its
nodes are well placed. -/
theorem Forest.violations_eq_nil_iff {a : Arena} {root : NodeId} (h : Forest a [root])
    (hfits : ∀ i < a.size, (a.span i).isSet = true → (a.span i).EndFits) :
    a.violations root = [] ↔ ∀ p < a.size, a.WellPlaced p := by
  rw [Arena.violations, List.flatMap_eq_nil_iff]
  refine forall_congr' fun p => ?_
  rw [h.isTree.mem_preorder_iff]
  refine forall_congr' fun hp => Arena.violationsAt_eq_nil_iff_wellPlaced ?_
  exact ⟨h.nodup_children hp, fun c hc => (h.parent_of_mem_children hp hc).2, hfits p hp,
    fun c hc => hfits c (h.parent_of_mem_children hp hc).1⟩

/-- The tree of `new int[2]` without the element type: the type of the array
spans `int[2]` and so the size of its dimension, which is a child beside
it. -/
def sizedArray : Arena :=
  let a := (Arena.empty.alloc .arrayCreation ⟨0, 10⟩).2
  let a := (a.alloc .arrayType ⟨4, 6⟩).2.addChild 0 .type 1
  (a.alloc (.numberLiteral "2") ⟨8, 1⟩).2.addChild 0 .dimensions 2

theorem violations_sizedArray_iff : Forest sizedArray [0] ∧ 0 < sizedArray.size ∧
    sizedArray.MaySpan 0 1 2 ∧
    (sizedArray.violations 0 = [] ↔ ∀ p, sizedArray.Reaches 0 p → sizedArray.WellPlaced p) ∧
      ∀ v ∈ sizedArray.violations 0, sizedArray.Reaches 0 v.parent ∧ sizedArray.Tells v := by
  have hforest : Forest sizedArray [0] := by
    have hcreation := Forest.empty.alloc .arrayCreation ⟨0, 10⟩
    have htype := hcreation.alloc .arrayType ⟨4, 6⟩
    have htyped := (htype.perm (List.Perm.swap _ _ _)).addChild .type
    have hsize := htyped.alloc (.numberLiteral "2") ⟨8, 1⟩
    exact (hsize.perm (List.Perm.swap _ _ _)).addChild .dimensions
  have hroot : 0 < sizedArray.size := by decide
  have hends : ∀ i < sizedArray.size, (sizedArray.span i).EndFits := by
    unfold Span.EndFits
    decide
  have hspans : sizedArray.MaySpan 0 1 2 := ⟨by decide, by decide, by decide⟩
  refine ⟨hforest, hroot, hspans, violations_eq_nil_iff_wellPlaced hforest hroot fun i hi _ => ?_⟩
  exact hends i (hforest.lt_size_of_reaches hroot hi)

end Unified

end TreeBridge

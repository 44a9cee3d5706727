import TreeBridge.Unified.Containment
/-!
# Separate spans

The check for overlaps sweeps over the spans of siblings in the order of
their starts and remembers the one that reaches furthest. Whether it
finds an overlap depends on the spans alone and not on the order in which
the siblings are listed, and a span that is clear of all others can be
added or taken away.
-/

namespace TreeBridge

namespace Unified

/-- The order of spans by start, then by length. -/
def spanLe (s t : Span) : Bool :=
  decide (s.start < t.start) || (s.start == t.start && decide (s.length ≤ t.length))

theorem spanLe_iff {s t : Span} :
    spanLe s t = true ↔ s.start < t.start ∨ s.start = t.start ∧ s.length ≤ t.length := by
  simp [spanLe]

theorem spanLe_trans (s t u : Span) (hst : spanLe s t = true) (htu : spanLe t u = true) :
    spanLe s u = true := by
  rw [spanLe_iff] at *
  omega

theorem spanLe_total (s t : Span) : (spanLe s t || spanLe t s) = true := by
  rw [Bool.or_eq_true, spanLe_iff, spanLe_iff]
  omega

theorem spanLe_antisymm {s t : Span} (hst : spanLe s t = true) (hts : spanLe t s = true) :
    s = t := by
  rw [spanLe_iff] at *
  obtain ⟨start, length⟩ := s
  obtain ⟨start', length'⟩ := t
  simp only [Span.mk.injEq] at *
  omega

/-- A sweep over spans finds no overlap. The first argument is the span
before them that reaches furthest. -/
def Swept : Option Span → List Span → Prop
  | _, [] => True
  | none, s :: rest => Swept (some s) rest
  | some f, s :: rest => f.overlaps s = false ∧ Swept (some (if s.stop ≤ f.stop then f else s)) rest

/-- Spans among which the sweep finds no overlap. -/
def Separate (spans : List Span) : Prop :=
  Swept none (spans.mergeSort spanLe)

theorem overlapsAfter_eq_nil_iff {parent : NodeId} {f : Option Placed} {placed : List Placed} :
    Arena.overlapsAfter parent f placed = [] ↔ Swept (f.map (·.2)) (placed.map (·.2)) := by
  induction placed generalizing f with
  | nil => cases f <;> exact iff_of_true rfl trivial
  | cons p rest ih =>
    cases f with
    | none => exact ih
    | some f =>
      have hfurthest : ((some (if p.2.stop ≤ f.2.stop then f else p)).map (·.2) : Option Span) =
          some (if p.2.stop ≤ f.2.stop then f.2 else p.2) := by
        split <;> rfl
      have hswept : Swept ((some f).map (·.2)) ((p :: rest).map (·.2)) ↔
          f.2.overlaps p.2 = false ∧
            Swept (some (if p.2.stop ≤ f.2.stop then f.2 else p.2)) (rest.map (·.2)) := Iff.rfl
      rw [Arena.overlapsAfter, List.append_eq_nil_iff, ih, hfurthest, hswept]
      cases f.2.overlaps p.2 <;> simp

theorem overlapsAfter_mergeSort_eq_nil_iff {parent : NodeId} {placed : List Placed} :
    Arena.overlapsAfter parent none (placed.mergeSort Placed.le) = [] ↔
      Separate (placed.map (·.2)) := by
  have hmap : (placed.mergeSort Placed.le).map (·.2) = (placed.map (·.2)).mergeSort spanLe :=
    List.map_mergeSort fun _ _ _ _ => rfl
  rw [overlapsAfter_eq_nil_iff, hmap]
  rfl

/-- The order of siblings has no say in whether they are separate. -/
theorem Separate.perm_iff {spans spans' : List Span} (h : spans.Perm spans') :
    Separate spans ↔ Separate spans' := by
  have hsort : spans.mergeSort spanLe = spans'.mergeSort spanLe := by
    refine List.Perm.eq_of_pairwise (fun _ _ _ _ => spanLe_antisymm)
      (List.pairwise_mergeSort spanLe_trans spanLe_total _)
      (List.pairwise_mergeSort spanLe_trans spanLe_total _) ?_
    exact (List.mergeSort_perm _ _).trans (h.trans (List.mergeSort_perm _ _).symm)
  rw [Separate, Separate, hsort]

/-! ## Adding a span -/

theorem overlaps_comm (s t : Span) : s.overlaps t = t.overlaps s := by
  unfold Span.overlaps
  grind

/-- A span of positive length that ends after it starts. -/
def Solid (s : Span) : Prop :=
  s.isSet = true ∧ 0 < s.length ∧ s.start < s.stop

/-- A span that overlaps no later span which is clear of `c`. -/
def PassedBy (c g : Span) : Prop :=
  ∀ q : Span, c.start ≤ q.start → c.overlaps q = false → g.overlaps q = false

theorem passedBy_of_inside {c g : Span} (hc : Solid c) (hstart : c.start ≤ g.start)
    (hstop : g.stop ≤ c.stop) : PassedBy c g := by
  intro q hq hcq
  obtain ⟨hset, hlength, -⟩ := hc
  simp only [Span.overlaps, Bool.and_eq_false_iff, decide_eq_false_iff_not] at *
  grind

theorem passedBy_of_clear {c g : Span} (hc : Solid c) (hstart : g.start ≤ c.start)
    (hclear : c.overlaps g = false) : PassedBy c g := by
  intro q hq _
  obtain ⟨hset, hlength, hstop⟩ := hc
  simp only [Span.overlaps, Bool.and_eq_false_iff, decide_eq_false_iff_not] at *
  grind

/-- A sweep that has passed a solid span goes on as if it had passed only
a span that reaches less far and is done with. -/
theorem swept_passed_iff {c g : Span} {later : List Span} (hc : Solid c) (hg : PassedBy c g)
    (hstop : g.stop ≤ c.stop) (hlater : ∀ q ∈ later, c.start ≤ q.start ∧ c.overlaps q = false) :
    Swept (some c) later ↔ Swept (some g) later := by
  induction later generalizing g with
  | nil => exact Iff.rfl
  | cons q rest ih =>
    obtain ⟨hq, hcq⟩ := hlater q (by simp)
    have hrest : ∀ q ∈ rest, c.start ≤ q.start ∧ c.overlaps q = false :=
      fun q hq => hlater q (by simp [hq])
    -- a span that reaches past `c` reaches past `g` too, and then both sweeps agree
    have hnext : Swept (some (if q.stop ≤ c.stop then c else q)) rest ↔
        Swept (some (if q.stop ≤ g.stop then g else q)) rest := by
      by_cases hqc : q.stop ≤ c.stop
      · rw [if_pos hqc]
        split
        · exact ih hg hstop hrest
        · exact ih (passedBy_of_inside hc hq hqc) hqc hrest
      · rw [if_neg hqc, if_neg (by omega)]
    exact ⟨fun h => ⟨hg q hq hcq, hnext.1 h.2⟩, fun h => ⟨hcq, hnext.2 h.2⟩⟩

/-- A solid span that is clear of the others can be put where it belongs in
a sweep, or taken from there. -/
theorem swept_insert_iff {c : Span} {earlier later : List Span} {f : Option Span}
    (hc : Solid c) (hf : ∀ g, f = some g → g.start ≤ c.start ∧ c.overlaps g = false)
    (hearlier : ∀ q ∈ earlier, q.start ≤ c.start ∧ c.overlaps q = false)
    (hlater : ∀ q ∈ later, c.start ≤ q.start ∧ c.overlaps q = false) :
    Swept f (earlier ++ c :: later) ↔ Swept f (earlier ++ later) := by
  -- the induction is on what comes before `c`, with the furthest span so far general
  induction earlier generalizing f with
  | nil =>
    cases f with
    | none =>
      cases later with
      | nil => exact Iff.rfl
      | cons q rest =>
        obtain ⟨hq, hcq⟩ := hlater q (by simp)
        have hrest : ∀ q ∈ rest, c.start ≤ q.start ∧ c.overlaps q = false :=
          fun q hq => hlater q (by simp [hq])
        have hnext : Swept (some (if q.stop ≤ c.stop then c else q)) rest ↔
            Swept (some q) rest := by
          split
          · next h => exact swept_passed_iff hc (passedBy_of_inside hc hq h) h hrest
          · exact Iff.rfl
        exact ⟨fun h => hnext.1 h.2, fun h => ⟨hcq, hnext.2 h⟩⟩
    | some g =>
      -- `c` takes the place of `g` only if it reaches further
      obtain ⟨hg, hcg⟩ := hf g rfl
      have hgc : g.overlaps c = false := (overlaps_comm g c).trans hcg
      have hnext : Swept (some (if c.stop ≤ g.stop then g else c)) later ↔
          Swept (some g) later := by
        split
        · exact Iff.rfl
        · exact swept_passed_iff hc (passedBy_of_clear hc hg hcg) (by omega) hlater
      exact ⟨fun h => hnext.1 h.2, fun h => ⟨hgc, hnext.2 h⟩⟩
  | cons q rest ih =>
    have hrest : ∀ q ∈ rest, q.start ≤ c.start ∧ c.overlaps q = false :=
      fun q hq => hearlier q (by simp [hq])
    have hq := hearlier q (by simp)
    cases f with
    | none => exact ih (by rintro g ⟨⟩; exact hq) hrest
    | some g =>
      -- the furthest span before `c` is one of those that `c` is clear of
      have hfurthest : ∀ g', some (if q.stop ≤ g.stop then g else q) = some g' →
          g'.start ≤ c.start ∧ c.overlaps g' = false := by
        rintro g' ⟨⟩
        split
        · exact hf g rfl
        · exact hq
      exact and_congr_right fun _ => ih hfurthest hrest

/-- **Adding a solid span that is clear of all others** changes nothing
about whether they are separate. -/
theorem Separate.cons_iff {c : Span} {spans : List Span} (hc : Solid c)
    (hclear : ∀ s ∈ spans, c.overlaps s = false) :
    Separate (c :: spans) ↔ Separate spans := by
  -- sorting puts `c` somewhere among the others, which keep their order
  obtain ⟨earlier, later, hcons, hsort, hearlier⟩ :=
    List.mergeSort_cons spanLe_trans spanLe_total c spans
  have hmem {s : Span} (hs : s ∈ earlier ++ later) : c.overlaps s = false :=
    hclear s ((List.mergeSort_perm spans spanLe).mem_iff.1 (hsort ▸ hs))
  have hsorted := List.pairwise_mergeSort spanLe_trans spanLe_total (c :: spans)
  rw [hcons, List.pairwise_append, List.pairwise_cons] at hsorted
  rw [Separate, Separate, hcons, hsort]
  refine swept_insert_iff hc (fun g hg => by cases hg) (fun q hq => ?_) (fun q hq => ?_)
  · have hle := spanLe_iff.1 (hsorted.2.2 q hq c (by simp))
    exact ⟨by omega, hmem (by simp [hq])⟩
  · have hle := spanLe_iff.1 (hsorted.2.1.1 q hq)
    exact ⟨by omega, hmem (by simp [hq])⟩

end Unified

end TreeBridge

import TreeBridge.Proofs.Completion.Documentation
import TreeBridge.Proofs.Text.Word
import TreeBridge.Proofs.Unified.Checking
/-!
# What one doc comment changes

A comment that is attached makes one node, the first child of the
declaration that it documents, and grows that declaration and the
statement around it if it is local. `Documents` says all of that, and
what becomes of the spans is read off it: no node shrinks, and no end
leaves the 32-bit range.
-/

namespace TreeBridge

/-! ## Spans that grow -/

namespace Span

variable {s t u : Span}

/-- A span from an offset of a source up to a later one. -/
structure InBounds (source : Source) (s : Span) : Prop where
  start_nonneg : 0 ≤ s.start
  start_le_stop : s.start ≤ s.stop
  stop_le : s.stop ≤ source.size

theorem InBounds.isSet {source : Source} (h : s.InBounds source) : s.isSet = true :=
  decide_eq_true h.start_nonneg

theorem contains_self (h : s.isSet = true) : s.contains s = true := by
  simp [contains, h]

theorem isSet_of_contains (h : s.contains t = true) : s.isSet = true := by
  simp only [contains, Bool.and_eq_true] at h
  exact h.1.1.1

theorem contains_trans (h : s.contains t = true) (h' : t.contains u = true) :
    s.contains u = true := by
  simp only [contains, Bool.and_eq_true, decide_eq_true_eq] at h h' ⊢
  obtain ⟨⟨⟨hs, -⟩, hst⟩, hts⟩ := h
  obtain ⟨⟨⟨-, hu⟩, htu⟩, hut⟩ := h'
  exact ⟨⟨⟨hs, hu⟩, by omega⟩, by omega⟩

/-- The cover of two set spans goes from the first start to the last end. -/
theorem cover_of_isSet (hs : s.isSet = true) (ht : t.isSet = true)
    (hle : min s.start t.start ≤ max s.stop t.stop) :
    (s.cover t).start = min s.start t.start ∧ (s.cover t).stop = max s.stop t.stop ∧
      (s.cover t).EndFits := by
  have hs0 : 0 ≤ s.start := of_decide_eq_true hs
  have ht0 : 0 ≤ t.start := of_decide_eq_true ht
  have hslt : s.stop < 2147483648 := wrap32_lt _
  have htlt : t.stop < 2147483648 := wrap32_lt _
  have hbounds : ¬(min s.start t.start < 0 ∨ max s.stop t.stop < min s.start t.start) := by
    omega
  have hlength : wrap32 (max s.stop t.stop - min s.start t.start) =
      max s.stop t.stop - min s.start t.start :=
    wrap32_of_nonneg_of_lt (by omega) (by omega)
  have hcover : s.cover t = ⟨min s.start t.start, max s.stop t.stop - min s.start t.start⟩ := by
    rw [cover, hs, ht, ofBounds, if_neg hbounds, hlength]
    rfl
  have hfits : (s.cover t).EndFits := by
    rw [hcover, EndFits]
    dsimp only
    omega
  refine ⟨by rw [hcover], ?_, hfits⟩
  rw [stop_of_endFits hfits, hcover]
  dsimp only
  omega

theorem cover_of_not_isSet (hs : s.isSet = false) : s.cover t = t := by
  rw [cover, hs]
  rfl

/-- A cover holds both spans, if one of them ends behind its start. -/
theorem contains_cover (hs : s.isSet = true) (ht : t.isSet = true)
    (hle : min s.start t.start ≤ max s.stop t.stop) :
    (s.cover t).contains s = true ∧ (s.cover t).contains t = true := by
  have hs0 : 0 ≤ s.start := of_decide_eq_true hs
  have ht0 : 0 ≤ t.start := of_decide_eq_true ht
  obtain ⟨hstart, hstop, -⟩ := cover_of_isSet hs ht hle
  have hset : (s.cover t).isSet = true := decide_eq_true (by omega)
  simp only [contains, hset, hs, ht, Bool.true_and, Bool.and_eq_true, decide_eq_true_eq]
  omega

end Span

namespace Completion

open Unified (NodeId NodeKind Slot Node Arena Forest)

/-! ## Attaching a comment -/

/-- **All that attaching one comment does.** There is one new node, a leaf
under the declaration; the declaration gains it as its first child and
grows to the comment; a statement around the declaration grows with it;
and nothing else changes. -/
structure Documents (a b : Arena) (target : NodeId) (span : Span) : Prop where
  size : b.size = a.size + 1
  defaultFlags : b.defaultFlags = a.defaultFlags
  added : b.node a.size = ⟨.javadoc, span, a.defaultFlags, some target, []⟩
  declaration : b.node target =
    { a.node target with
      span := span.cover (a.span target)
      children := ⟨.javadoc, a.size⟩ :: a.entries target }
  wrapper : ∀ p, a.parent target = some p → a.kind p = .typeDeclarationStatement →
    b.node p = { a.node p with span := (a.span p).cover (span.cover (a.span target)) }
  other : ∀ i, i ≠ a.size → i ≠ target →
    ¬(a.parent target = some i ∧ a.kind i = .typeDeclarationStatement) → b.node i = a.node i

variable {a b : Arena} {target i : NodeId} {span : Span}

/-- A declaration with a new first child, grown to a span. -/
theorem node_addJavadoc (span grown : Span) (ht : target < a.size) :
    let c := ((a.alloc .javadoc span).2.addChildFirst target .javadoc a.size).setSpan target grown
    c.node a.size = ⟨.javadoc, span, a.defaultFlags, some target, []⟩ ∧
      c.node target = { a.node target with
        span := grown, children := ⟨.javadoc, a.size⟩ :: a.entries target } ∧
      ∀ i, i ≠ a.size → i ≠ target → c.node i = a.node i := by
  have hne : target ≠ a.size := Nat.ne_of_lt ht
  have hnew : a.size < (a.alloc .javadoc span).2.size := by
    rw [Arena.size_alloc]
    exact Nat.lt_succ_self _
  have hold : target < (a.alloc .javadoc span).2.size := Nat.lt_trans ht hnew
  unfold Arena.addChildFirst Arena.setSpan
  refine ⟨?_, ?_, fun i hi hit => ?_⟩
  · rw [Arena.node_modify_of_ne _ hne.symm, Arena.node_modify_of_ne _ hne.symm,
      Arena.node_modify_self _ hnew, Arena.node_alloc_self]
  · rw [Arena.node_modify_self, Arena.node_modify_self, Arena.node_modify_of_ne _ hne,
      Arena.node_alloc_of_lt _ _ ht]
    · rfl
    · rwa [Arena.size_modify]
    · rwa [Arena.size_modify, Arena.size_modify]
  · rw [Arena.node_modify_of_ne _ hit, Arena.node_modify_of_ne _ hit,
      Arena.node_modify_of_ne _ hi]
    rcases Nat.lt_or_ge i a.size with hlt | hge
    · exact Arena.node_alloc_of_lt _ _ hlt
    · have hge' : (a.alloc .javadoc span).2.size ≤ i := by
        rw [Arena.size_alloc]
        exact Nat.lt_of_le_of_ne hge (Ne.symm hi)
      rw [Arena.node_of_size_le hge, Arena.node_of_size_le hge']

/-- A kind other than that of a node without an own kind shows that there
is a node. -/
theorem lt_size_of_kind (h : a.kind i = .typeDeclarationStatement) : i < a.size := by
  by_contra hge
  rw [Arena.kind, Arena.node_of_size_le (Nat.not_lt.1 hge)] at h
  cases h

/-- Growing the statement around a local type changes no other node. -/
theorem node_widenStatement (i : NodeId) :
    (widenStatement a target span).node i =
      if a.parent target = some i ∧ a.kind i = .typeDeclarationStatement then
        { a.node i with span := (a.span i).cover span }
      else a.node i := by
  unfold widenStatement
  cases hparent : a.parent target with
  | none => rw [if_neg fun h => nomatch h.1]
  | some p =>
    dsimp only
    by_cases hkind : a.kind p = .typeDeclarationStatement
    · rw [if_pos hkind, Arena.setSpan]
      by_cases hi : i = p
      · subst hi
        rw [if_pos ⟨rfl, hkind⟩, Arena.node_modify_self _ (lt_size_of_kind hkind)]
      · rw [if_neg fun h => hi (Option.some.inj h.1).symm, Arena.node_modify_of_ne _ hi]
    · rw [if_neg hkind, if_neg]
      rintro ⟨hi, hik⟩
      obtain rfl := Option.some.inj hi
      exact hkind hik

theorem size_widenStatement : (widenStatement a target span).size = a.size := by
  unfold widenStatement
  split
  · split
    · exact Arena.size_setSpan _
    · rfl
  · rfl

theorem defaultFlags_widenStatement :
    (widenStatement a target span).defaultFlags = a.defaultFlags := by
  unfold widenStatement
  split
  · split <;> rfl
  · rfl

theorem documents_document (ht : target < a.size)
    (hkind : a.kind target ≠ .typeDeclarationStatement) :
    Documents a (document a target span) target span := by
  have hspan : ((a.alloc .javadoc span).2.addChildFirst target .javadoc a.size).span target =
      a.span target := by
    rw [Arena.span_addChildFirst, Arena.span, Arena.node_alloc_of_lt _ _ ht, Arena.span]
  have hdocument : document a target span = widenStatement
      (((a.alloc .javadoc span).2.addChildFirst target .javadoc a.size).setSpan target
        (span.cover (a.span target))) target (span.cover (a.span target)) := by
    rw [← hspan]
    rfl
  obtain ⟨hadded, hdeclaration, hother⟩ :=
    node_addJavadoc span (span.cover (a.span target)) ht
  rw [hdocument]
  generalize hc : ((a.alloc .javadoc span).2.addChildFirst target .javadoc a.size).setSpan target
    (span.cover (a.span target)) = c at hadded hdeclaration hother
  have hparent : c.parent target = a.parent target := by
    rw [Arena.parent, hdeclaration, Arena.parent]
  -- the new node is no statement, so the statement that grows was there before
  have hwidened (i : NodeId) : (c.parent target = some i ∧
      c.kind i = .typeDeclarationStatement) ↔
      (a.parent target = some i ∧ a.kind i = .typeDeclarationStatement) := by
    rw [hparent]
    refine and_congr_right fun _ => ?_
    by_cases hi : i = a.size
    · subst hi
      have hnone : a.kind a.size ≠ .typeDeclarationStatement :=
        fun h => Nat.lt_irrefl _ (lt_size_of_kind h)
      rw [Arena.kind, hadded]
      exact iff_of_false (fun h => by cases h) hnone
    by_cases hit : i = target
    · subst hit
      rw [Arena.kind, hdeclaration, Arena.kind]
    · rw [Arena.kind, hother i hi hit, Arena.kind]
  have hnode (i : NodeId) : (widenStatement c target (span.cover (a.span target))).node i =
      if a.parent target = some i ∧ a.kind i = .typeDeclarationStatement then
        { c.node i with span := (c.span i).cover (span.cover (a.span target)) }
      else c.node i := by
    rw [node_widenStatement, if_congr (hwidened i) rfl rfl]
  have hfresh : ¬(a.parent target = some a.size ∧ a.kind a.size = .typeDeclarationStatement) :=
    fun h => Nat.lt_irrefl _ (lt_size_of_kind h.2)
  constructor
  case size => rw [size_widenStatement, ← hc, Arena.size_setSpan, Arena.size_addChildFirst,
    Arena.size_alloc]
  case defaultFlags => rw [defaultFlags_widenStatement, ← hc]; rfl
  case added => rw [hnode, if_neg hfresh, hadded]
  case declaration => rw [hnode, if_neg fun h => hkind h.2, hdeclaration]
  case wrapper =>
    intro p hp hpkind
    have hnew : p ≠ a.size := by
      rintro rfl
      exact hfresh ⟨hp, hpkind⟩
    have hne : p ≠ target := by
      rintro rfl
      exact hkind hpkind
    rw [hnode, if_pos ⟨hp, hpkind⟩, Arena.span, hother p hnew hne]
    rfl
  case other =>
    intro i hnew hi hnot
    rw [hnode, if_neg hnot, hother i hnew hi]

namespace Documents

variable (h : Documents a b target span)

include h

/-- What neither the span nor the children show of a node stays. -/
theorem proj {β : Type} (g : Node → β)
    (hg : ∀ n span children, g { n with span := span, children := children } = g n)
    (hi : i < a.size) : g (b.node i) = g (a.node i) := by
  by_cases hit : i = target
  · rw [hit, h.declaration]
    exact hg _ _ _
  by_cases hwrapper : a.parent target = some i ∧ a.kind i = .typeDeclarationStatement
  · rw [h.wrapper i hwrapper.1 hwrapper.2]
    exact hg _ _ _
  · rw [h.other i (Nat.ne_of_lt hi) hit hwrapper]

theorem kind (hi : i < a.size) : b.kind i = a.kind i :=
  h.proj Node.kind (fun _ _ _ => rfl) hi

theorem flags (hi : i < a.size) : b.flags i = a.flags i :=
  h.proj Node.flags (fun _ _ _ => rfl) hi

theorem parent (hi : i < a.size) : b.parent i = a.parent i :=
  h.proj Node.parent (fun _ _ _ => rfl) hi

theorem entries_self : b.entries target = ⟨.javadoc, a.size⟩ :: a.entries target := by
  rw [Arena.entries, h.declaration]

theorem entries (hi : i < a.size) (hit : i ≠ target) : b.entries i = a.entries i := by
  by_cases hwrapper : a.parent target = some i ∧ a.kind i = .typeDeclarationStatement
  · rw [Arena.entries, h.wrapper i hwrapper.1 hwrapper.2, Arena.entries]
  · rw [Arena.entries, h.other i (Nat.ne_of_lt hi) hit hwrapper, Arena.entries]

theorem span_self : b.span target = span.cover (a.span target) := by
  rw [Arena.span, h.declaration]

theorem span_wrapper {p : NodeId} (hp : a.parent target = some p)
    (hkind : a.kind p = .typeDeclarationStatement) :
    b.span p = (a.span p).cover (b.span target) := by
  rw [h.span_self, Arena.span, h.wrapper p hp hkind]

theorem span_other (hi : i < a.size) (hit : i ≠ target)
    (hwrapper : ¬(a.parent target = some i ∧ a.kind i = .typeDeclarationStatement)) :
    b.span i = a.span i := by
  rw [Arena.span, h.other i (Nat.ne_of_lt hi) hit hwrapper, Arena.span]

section Growth

variable (hset : span.isSet = true) (hle : span.start ≤ span.stop)
  (htarget : (a.span target).isSet = true)

include hset hle htarget

/-- The declaration covers the comment and itself. -/
theorem covers_self : (b.span target).contains span = true ∧
    (b.span target).contains (a.span target) = true ∧
    (b.span target).start ≤ (b.span target).stop ∧ (b.span target).EndFits := by
  have hmin : min span.start (a.span target).start ≤ max span.stop (a.span target).stop := by
    omega
  obtain ⟨hstart, hstop, hfits⟩ := Span.cover_of_isSet hset htarget hmin
  obtain ⟨hcomment, hdeclaration⟩ := Span.contains_cover hset htarget hmin
  rw [h.span_self]
  exact ⟨hcomment, hdeclaration, by omega, hfits⟩

/-- The statement around the declaration covers the declaration, and itself
if it has a position. -/
theorem covers_wrapper {p : NodeId} (hp : a.parent target = some p)
    (hkind : a.kind p = .typeDeclarationStatement) :
    (b.span p).contains (b.span target) = true ∧
      ((a.span p).isSet = true → (b.span p).contains (a.span p) = true) ∧
      (b.span p).EndFits := by
  obtain ⟨hcontains, -, hle', hfits⟩ := h.covers_self hset hle htarget
  have hset' : (b.span target).isSet = true := Span.isSet_of_contains hcontains
  rw [h.span_wrapper hp hkind]
  cases hpset : (a.span p).isSet with
  | true =>
    have hmin : min (a.span p).start (b.span target).start ≤
        max (a.span p).stop (b.span target).stop := by
      omega
    obtain ⟨hself, htarget'⟩ := Span.contains_cover hpset hset' hmin
    exact ⟨htarget', fun _ => hself, (Span.cover_of_isSet hpset hset' hmin).2.2⟩
  | false =>
    rw [Span.cover_of_not_isSet hpset]
    exact ⟨Span.contains_self hset', (nomatch ·), hfits⟩

/-- The statement around the declaration starts and ends where it did or
where the declaration does now. -/
theorem bounds_wrapper {p : NodeId} (hp : a.parent target = some p)
    (hkind : a.kind p = .typeDeclarationStatement) :
    ((b.span p).start = (a.span p).start ∨ (b.span p).start = (b.span target).start) ∧
      ((b.span p).stop = (a.span p).stop ∨ (b.span p).stop = (b.span target).stop) := by
  obtain ⟨hcontains, -, hle', -⟩ := h.covers_self hset hle htarget
  rw [h.span_wrapper hp hkind]
  cases hpset : (a.span p).isSet with
  | true =>
    have hmin : min (a.span p).start (b.span target).start ≤
        max (a.span p).stop (b.span target).stop := by
      omega
    obtain ⟨hstart, hstop, -⟩ :=
      Span.cover_of_isSet hpset (Span.isSet_of_contains hcontains) hmin
    rw [hstart, hstop]
    omega
  | false =>
    rw [Span.cover_of_not_isSet hpset]
    exact ⟨Or.inr rfl, Or.inr rfl⟩

/-- No node shrinks. -/
theorem grows (hi : i < a.size) (hiset : (a.span i).isSet = true) :
    (b.span i).contains (a.span i) = true := by
  by_cases hit : i = target
  · subst hit
    exact (h.covers_self hset hle htarget).2.1
  by_cases hwrapper : a.parent target = some i ∧ a.kind i = .typeDeclarationStatement
  · exact (h.covers_wrapper hset hle htarget hwrapper.1 hwrapper.2).2.1 hiset
  · rw [h.span_other hi hit hwrapper]
    exact Span.contains_self hiset

theorem endFits (hi : i < a.size) (hfits : (a.span i).isSet = true → (a.span i).EndFits)
    (hiset : (b.span i).isSet = true) : (b.span i).EndFits := by
  by_cases hit : i = target
  · subst hit
    exact (h.covers_self hset hle htarget).2.2.2
  by_cases hwrapper : a.parent target = some i ∧ a.kind i = .typeDeclarationStatement
  · exact (h.covers_wrapper hset hle htarget hwrapper.1 hwrapper.2).2.2
  · rw [h.span_other hi hit hwrapper] at hiset ⊢
    exact hfits hiset

end Growth

end Documents

end Completion

end TreeBridge

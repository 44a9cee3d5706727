import TreeBridge.Proofs.Completion.Attachment
/-!
# Room for doc comments

A declaration that grows back over a comment may leave its parent, and
the statement around it may run into the statements before it: the check
before a comment is attached looks at the siblings of the declaration
only. Whether a tree without violations stays free of them depends on
the nodes that grow and on nothing else.
Comments always lie inside their declarations and clear of what else is
there.
-/

namespace TreeBridge

/-- Spans with the same bounds are the same. -/
theorem Span.eq_of_bounds {s t : Span} (hstart : s.start = t.start)
    (hend : s.start + s.length = t.start + t.length) : s = t := by
  cases s
  cases t
  simp only [mk.injEq] at hstart hend ⊢
  omega

namespace Completion

open Unified (NodeId NodeKind Slot Node Arena Forest)

variable {s : Source} {a b : Arena} {done : List Attachment} {i p c d : NodeId}

/-! ## Old nodes and new ones -/

namespace Attached

variable (h : Attached s a b done)

include h

/-- A declaration with a comment has one child more. -/
theorem children_cases (hp : p < a.size) : b.children p = a.children p ∨
    ∃ k d, done[k]? = some d ∧ d.2 = p ∧ b.children p = (a.size + k) :: a.children p := by
  by_cases hmem : p ∈ done.map Prod.snd
  · obtain ⟨d, hd, rfl⟩ := List.mem_map.1 hmem
    obtain ⟨k, hk⟩ := List.getElem?_of_mem hd
    refine Or.inr ⟨k, d, hk, rfl, ?_⟩
    rw [Arena.children, h.first k d hk, List.map_cons, Arena.children]
  · exact Or.inl (by rw [Arena.children, h.entries p hp hmem, Arena.children])

theorem exists_of_size_le (hle : a.size ≤ i) (hlt : i < b.size) :
    ∃ k d, done[k]? = some d ∧ i = a.size + k := by
  rw [h.size] at hlt
  obtain ⟨k, rfl⟩ := Nat.exists_eq_add_of_le hle
  have hk : k < done.length := Nat.lt_of_add_lt_add_left hlt
  exact ⟨k, done[k], List.getElem?_eq_getElem hk, rfl⟩

/-- What may span its siblings does not change. -/
theorem maySpan_iff (hp : p < a.size) : b.MaySpan p c d ↔ a.MaySpan p c d := by
  rw [Arena.MaySpan, Arena.MaySpan, h.kind p hp]
  by_cases hmem : p ∈ done.map Prod.snd
  · obtain ⟨d, hd, rfl⟩ := List.mem_map.1 hmem
    obtain ⟨k, hk⟩ := List.getElem?_of_mem hd
    have htype : b.child? d.2 .type = a.child? d.2 .type := by
      rw [Arena.child?, h.first k d hk]
      rfl
    rw [htype, h.first k d hk, List.mem_cons, or_iff_right]
    intro heq
    cases heq
  · rw [Arena.child?, h.entries p hp hmem, Arena.child?]

/-- A node that has grown has a position. -/
theorem isSet_of_ne (hi : i < a.size) (hne : b.span i ≠ a.span i) : (b.span i).isSet = true := by
  by_contra hunset
  refine hne (h.span i hi (fun hmem => ?_) fun d hd hw => ?_)
  · obtain ⟨d, hd, rfl⟩ := List.mem_map.1 hmem
    exact hunset (Span.isSet_of_contains (h.grows d.2 hi (h.declaration d hd).2.2))
  · exact hunset (Span.isSet_of_contains (h.around d hd i hw))

/-- Ends still fit if those of the comments do. -/
theorem endFits_of_isSet (hfits : ∀ i < a.size, (a.span i).isSet = true → (a.span i).EndFits)
    (hcomments : ∀ d ∈ done, d.1.span.EndFits) (hi : i < b.size)
    (hset : (b.span i).isSet = true) : (b.span i).EndFits := by
  rcases Nat.lt_or_ge i a.size with hlt | hge
  · exact h.endFits i hlt (hfits i hlt) hset
  · obtain ⟨k, d, hk, rfl⟩ := h.exists_of_size_le hge hi
    rw [Arena.span, h.added k d hk]
    exact hcomments d (List.mem_of_getElem? hk)

end Attached

/-! ## The exact condition -/

/-- **A grown node that fits where it stands**: it lies inside its parent
and clear of its siblings, and if it had no position before it holds its
children. -/
structure FitsAround (a b : Arena) (c : NodeId) : Prop where
  inside : ∀ p, b.parent c = some p → (b.span p).isSet = true → (b.span c).Inside (b.span p)
  apart : ∀ p, b.parent c = some p → ∀ d ∈ b.children p, c ≠ d → (b.span d).isSet = true →
    ¬b.MaySpan p c d → ¬b.MaySpan p d c → ¬(b.span c).ShareByte (b.span d)
  holds : (a.span c).isSet = false → ∀ d ∈ b.children c, (b.span d).isSet = true →
    (b.span d).Inside (b.span c)

/-- A tree of well placed nodes whose ends fit, and what attaching comments
has made of it. -/
structure Settled (s : Source) (a b : Arena) (root : NodeId) (done : List Attachment) : Prop where
  attached : Attached s a b done
  before : Forest a [root]
  after : Forest b [root]
  endsFit : ∀ i < a.size, (a.span i).isSet = true → (a.span i).EndFits
  commentsFit : ∀ d ∈ done, d.1.span.EndFits
  wellPlaced : ∀ p < a.size, a.WellPlaced p

namespace Settled

variable {root : NodeId} (h : Settled s a b root done)

include h

theorem endFits (hi : i < b.size) (hset : (b.span i).isSet = true) : (b.span i).EndFits :=
  h.attached.endFits_of_isSet h.endsFit h.commentsFit hi hset

/-- Growth in exact arithmetic. -/
theorem inside_grown (hi : i < a.size) (hset : (a.span i).isSet = true) :
    (a.span i).Inside (b.span i) := by
  have hgrows := h.attached.grows i hi hset
  have hbset := Span.isSet_of_contains hgrows
  have hlt : i < b.size := Nat.lt_of_lt_of_le hi h.attached.size_le
  exact (Span.contains_iff_inside hbset hset (h.endFits hlt hbset) (h.endsFit i hi hset)).1 hgrows

/-- A comment ends before its declaration started. -/
theorem comment_le {d : Attachment} (hd : d ∈ done) :
    d.1.span.start + d.1.span.length ≤ (a.span d.2).start := by
  obtain ⟨-, hle, -⟩ := h.attached.between d hd
  rwa [Span.stop_of_endFits (h.commentsFit d hd)] at hle

/-- A comment lies inside its declaration. -/
theorem comment_inside {d : Attachment} (hd : d ∈ done) : d.1.span.Inside (b.span d.2) := by
  obtain ⟨hlt, -, hset⟩ := h.attached.declaration d hd
  obtain ⟨hbounds, hle, -⟩ := h.attached.between d hd
  have hle' := hbounds.start_le_stop
  have hmin : min d.1.span.start (a.span d.2).start ≤ max d.1.span.stop (a.span d.2).stop := by
    omega
  have hcontains := (Span.contains_cover hbounds.isSet hset hmin).1
  rw [← h.attached.grown d hd] at hcontains
  have hbset := Span.isSet_of_contains hcontains
  have hblt : d.2 < b.size := Nat.lt_of_lt_of_le hlt h.attached.size_le
  exact (Span.contains_iff_inside hbset hbounds.isSet (h.endFits hblt hbset)
    (h.commentsFit d hd)).1 hcontains

/-- The children of a declaration that have not grown start behind its
comment. -/
theorem comment_apart {d : Attachment} (hd : d ∈ done) (hc : c ∈ a.children d.2)
    (hset : (b.span c).isSet = true) (hkept : b.span c = a.span c) :
    ¬d.1.span.ShareByte (b.span c) := by
  obtain ⟨hlt, -, hdset⟩ := h.attached.declaration d hd
  rw [hkept] at hset ⊢
  have hinside := (h.wellPlaced d.2 hlt).inside hdset c hc hset
  have hle := h.comment_le hd
  exact Span.not_shareByte_of_le (by unfold Span.Inside at hinside; omega)

section Fitting

variable (hfit : ∀ c < a.size, b.span c ≠ a.span c → FitsAround a b c)

include hfit

theorem inside_of_fitsAround (hp : p < a.size) (hset : (b.span p).isSet = true)
    (hc : c ∈ b.children p) (hcset : (b.span c).isSet = true) :
    (b.span c).Inside (b.span p) := by
  -- a child from before has grown and fits, or is inside what its parent was
  have hold (hc : c ∈ a.children p) : (b.span c).Inside (b.span p) := by
    obtain ⟨hclt, hparent⟩ := h.before.parent_of_mem_children hp hc
    by_cases hkept : b.span c = a.span c
    · cases hpset : (a.span p).isSet with
      | true =>
        have hinside := (h.wellPlaced p hp).inside hpset c hc (hkept ▸ hcset)
        rw [hkept]
        exact hinside.trans (h.inside_grown hp hpset)
      | false =>
        have hne : b.span p ≠ a.span p := by
          intro heq
          rw [heq, hpset] at hset
          cases hset
        exact (hfit p hp hne).holds hpset c ‹c ∈ b.children p› hcset
    · rw [← h.attached.parent c hclt] at hparent
      exact (hfit c hclt hkept).inside p hparent hset
  rcases h.attached.children_cases hp with hsame | ⟨k, d, hk, rfl, hmore⟩
  · exact hold (hsame ▸ hc)
  · rw [hmore] at hc
    rcases List.mem_cons.1 hc with rfl | hc
    · rw [Arena.span, h.attached.added k d hk]
      exact h.comment_inside (List.mem_of_getElem? hk)
    · exact hold hc

/-- The comment of a declaration is clear of its other children. -/
theorem apart_comment {k : Nat} {e : Attachment} (hk : done[k]? = some e)
    (hc : c ∈ a.children e.2) (hset : (b.span c).isSet = true) :
    ¬(b.span c).ShareByte (b.span (a.size + k)) := by
  have he := List.mem_of_getElem? hk
  obtain ⟨hlt, hdocumentable, -⟩ := h.attached.declaration e he
  obtain ⟨hclt, hparent⟩ := h.before.parent_of_mem_children hlt hc
  have hspan : b.span (a.size + k) = e.1.span := by
    rw [Arena.span, h.attached.added k e hk]
  by_cases hkept : b.span c = a.span c
  · rw [hspan]
    exact fun hshare => h.comment_apart he hc hset hkept hshare.symm
  · have hmem : a.size + k ∈ b.children e.2 := by
      rw [Arena.children, h.attached.first k e hk]
      exact List.mem_cons_self
    have hnot (x y : NodeId) : ¬b.MaySpan e.2 x y := by
      rintro ⟨hkind, -⟩
      rw [h.attached.kind e.2 hlt] at hkind
      rw [hkind] at hdocumentable
      cases hdocumentable
    have hne : c ≠ a.size + k := by
      rintro rfl
      exact absurd hclt (Nat.not_lt.2 (Nat.le_add_right _ _))
    have hcset : (b.span (a.size + k)).isSet = true := by
      rw [hspan]
      exact (h.attached.between e he).1.isSet
    rw [← h.attached.parent c hclt] at hparent
    exact (hfit c hclt hkept).apart _ hparent _ hmem hne hcset (hnot _ _) (hnot _ _)

theorem apart_of_fitsAround (hp : p < a.size) (hc : c ∈ b.children p) (hd : d ∈ b.children p)
    (hne : c ≠ d) (hcset : (b.span c).isSet = true) (hdset : (b.span d).isSet = true)
    (hcd : ¬b.MaySpan p c d) (hdc : ¬b.MaySpan p d c) :
    ¬(b.span c).ShareByte (b.span d) := by
  -- two children from before: one has grown and fits, or both stand as they did
  have hold (hca : c ∈ a.children p) (hda : d ∈ a.children p) :
      ¬(b.span c).ShareByte (b.span d) := by
    obtain ⟨hclt, hcparent⟩ := h.before.parent_of_mem_children hp hca
    obtain ⟨hdlt, hdparent⟩ := h.before.parent_of_mem_children hp hda
    rw [← h.attached.parent c hclt] at hcparent
    rw [← h.attached.parent d hdlt] at hdparent
    by_cases hckept : b.span c = a.span c
    · by_cases hdkept : b.span d = a.span d
      · rw [h.attached.maySpan_iff hp] at hcd hdc
        rw [hckept] at hcset ⊢
        rw [hdkept] at hdset ⊢
        exact (h.wellPlaced p hp).apart c hca d hda hne hcset hdset hcd hdc
      · have hapart := (hfit d hdlt hdkept).apart p hdparent c hc hne.symm hcset hdc hcd
        exact fun hshare => hapart hshare.symm
    · exact (hfit c hclt hckept).apart p hcparent d hd hne hdset hcd hdc
  rcases h.attached.children_cases hp with hsame | ⟨k, e, hk, rfl, hmore⟩
  · exact hold (hsame ▸ hc) (hsame ▸ hd)
  · rw [hmore, List.mem_cons] at hc hd
    rcases hc with rfl | hca
    · rcases hd with rfl | hda
      · exact absurd rfl hne
      · exact fun hshare => h.apart_comment hfit hk hda hdset hshare.symm
    · rcases hd with rfl | hda
      · exact h.apart_comment hfit hk hca hcset
      · exact hold hca hda

end Fitting

/-- **Only grown nodes matter.** All nodes are well placed exactly if those
that have grown fit. -/
theorem wellPlaced_iff : (∀ p < b.size, b.WellPlaced p) ↔
    ∀ c < a.size, b.span c ≠ a.span c → FitsAround a b c := by
  constructor
  · intro hplaced c hc hne
    have hset := h.attached.isSet_of_ne hc hne
    have hlt (i : NodeId) (hi : i < a.size) : i < b.size :=
      Nat.lt_of_lt_of_le hi h.attached.size_le
    have hparent {p : NodeId} (hp : b.parent c = some p) : p < b.size ∧ c ∈ b.children p := by
      have hmem := h.after.isTree.mem_children_iff.2 hp
      exact ⟨Arena.lt_size_of_mem_children hmem, hmem⟩
    constructor
    case inside =>
      intro p hp hpset
      obtain ⟨hplt, hmem⟩ := hparent hp
      exact (hplaced p hplt).inside hpset c hmem hset
    case apart =>
      intro p hp d hd hcd hdset
      obtain ⟨hplt, hmem⟩ := hparent hp
      exact (hplaced p hplt).apart c hmem d hd hcd hset hdset
    case holds =>
      intro _ d hd hdset
      exact (hplaced c (hlt c hc)).inside hset d hd hdset
  · intro hfit p hp
    rcases Nat.lt_or_ge p a.size with hlt | hge
    · exact ⟨fun hset c hc hcset => h.inside_of_fitsAround hfit hlt hset hc hcset,
        fun c hc d hd hne hcset hdset hcd hdc =>
          h.apart_of_fitsAround hfit hlt hc hd hne hcset hdset hcd hdc⟩
    · -- a new node has no children
      obtain ⟨k, d, hk, rfl⟩ := h.attached.exists_of_size_le hge hp
      have hleaf : b.children (a.size + k) = [] := by
        rw [Arena.children, Arena.entries, h.attached.added k d hk]
        rfl
      refine ⟨fun _ c hc => ?_, fun c hc => ?_⟩
      · rw [hleaf] at hc
        cases hc
      · rw [hleaf] at hc
        cases hc

end Settled

/-! ## Enough room -/

/-- Whether each positioned sibling of a node ends before a comment starts,
or starts behind the node. -/
def ClearBefore (a : Arena) (comment : Span) (i : NodeId) : Prop :=
  ∀ p, a.parent i = some p → ∀ d ∈ a.children p, d ≠ i → (a.span d).isSet = true →
    (a.span d).start + (a.span d).length ≤ comment.start ∨
      (a.span i).start + (a.span i).length ≤ (a.span d).start

/-- Whether a positioned parent of a node starts no later than a comment. -/
def StartsBefore (a : Arena) (comment : Span) (i : NodeId) : Prop :=
  ∀ p, a.parent i = some p → (a.span p).isSet = true → (a.span p).start ≤ comment.start

/-- **Room for a comment before a declaration**: neither the parent nor a
sibling starts or stands between the two. The statement around a local
type needs the same room, and a position. -/
structure HasRoom (a : Arena) (comment : Span) (target : NodeId) : Prop where
  nonempty : 0 < (a.span target).length
  clear : ClearBefore a comment target
  inside : (∀ p, ¬Surrounds a p target) → StartsBefore a comment target
  statement : ∀ p, Surrounds a p target →
    (a.span p).isSet = true ∧ ClearBefore a comment p ∧ StartsBefore a comment p

namespace Settled

variable {root : NodeId} (h : Settled s a b root done)
  (hroom : ∀ d ∈ done, HasRoom a d.1.span d.2)

include h hroom

/-- A node that grows with a declaration has a position, is not empty and
is clear of its siblings. -/
theorem clear_of_growsWith {e : Attachment} (he : e ∈ done) (hi : GrowsWith a i e.2) :
    (a.span i).isSet = true ∧ 0 < (a.span i).length ∧ ClearBefore a e.1.span i := by
  obtain ⟨hlt, -, hset⟩ := h.attached.declaration e he
  have hnonempty := (hroom e he).nonempty
  rcases hi with rfl | hw
  · exact ⟨hset, hnonempty, (hroom e he).clear⟩
  · obtain ⟨hpset, hclear, -⟩ := (hroom e he).statement i hw
    have hmem := h.before.isTree.mem_children_iff.2 hw.1
    have hinside := (h.wellPlaced i (lt_size_of_kind hw.2)).inside hpset e.2 hmem hset
    unfold Span.Inside at hinside
    exact ⟨hpset, by omega, hclear⟩

/-- Only nodes that had a position get another. -/
theorem isSet_before (hi : i < a.size) (hset : (b.span i).isSet = true) :
    (a.span i).isSet = true := by
  by_contra hunset
  rw [h.attached.span i hi (fun hmem => ?_) fun e he hw => ?_] at hset
  · exact hunset hset
  · obtain ⟨e, he, rfl⟩ := List.mem_map.1 hmem
    exact hunset (h.attached.declaration e he).2.2
  · exact hunset (h.clear_of_growsWith hroom he (.inr hw)).1

/-- No node ends anywhere else than before, and one that has grown starts
where a comment does. -/
theorem bounds (hi : i < a.size) (hset : (a.span i).isSet = true) :
    (b.span i).start + (b.span i).length = (a.span i).start + (a.span i).length ∧
      ((b.span i).start = (a.span i).start ∨
        ∃ e ∈ done, GrowsWith a i e.2 ∧ (b.span i).start = e.1.span.start) := by
  refine ⟨?_, h.attached.start i hi⟩
  have hinside := h.inside_grown hi hset
  have hbset := Span.isSet_of_contains (h.attached.grows i hi hset)
  have hblt : i < b.size := Nat.lt_of_lt_of_le hi h.attached.size_le
  rw [← Span.stop_of_endFits (h.endFits hblt hbset), ← Span.stop_of_endFits (h.endsFit i hi hset)]
  rcases h.attached.stop i hi with heq | ⟨e, he, hgrows, heq⟩
  · exact heq
  -- the declaration ends where it did, and the statement around it not before
  obtain ⟨helt, -, heset⟩ := h.attached.declaration e he
  obtain ⟨hbounds, hle, -⟩ := h.attached.between e he
  have hle' := hbounds.start_le_stop
  have hnonempty := (hroom e he).nonempty
  have hestop := Span.stop_of_endFits (h.endsFit e.2 helt heset)
  have hmin : min e.1.span.start (a.span e.2).start ≤ max e.1.span.stop (a.span e.2).stop := by
    omega
  have hcover := (Span.cover_of_isSet hbounds.isSet heset hmin).2.1
  rw [← h.attached.grown e he] at hcover
  rcases hgrows with rfl | hw
  · omega
  · have hmem := h.before.isTree.mem_children_iff.2 hw.1
    have hin := (h.wellPlaced i hi).inside hset e.2 hmem heset
    have hstop := Span.stop_of_endFits (h.endsFit i hi hset)
    have hbstop := Span.stop_of_endFits (h.endFits hblt hbset)
    unfold Span.Inside at hin hinside
    omega

/-- A parent starts no later than a child does after the comments are
attached, unless it grows with the child. -/
theorem parent_start_le (hc : c < a.size) (hparent : a.parent c = some p)
    (hcset : (a.span c).isSet = true) (hpset : (a.span p).isSet = true)
    (hnot : ∀ e ∈ done, c = e.2 → ¬Surrounds a p c) : (a.span p).start ≤ (b.span c).start := by
  have hmem := h.before.isTree.mem_children_iff.2 hparent
  have hp : p < a.size := Arena.lt_size_of_mem_children hmem
  rcases (h.bounds hroom hc hcset).2 with heq | ⟨e, he, hgrows, heq⟩
  · have hinside := (h.wellPlaced p hp).inside hpset c hmem hcset
    unfold Span.Inside at hinside
    omega
  · rw [heq]
    rcases hgrows with rfl | hw
    · refine (hroom e he).inside (fun q hq => ?_) p hparent hpset
      obtain rfl : p = q := Option.some.inj (hparent.symm.trans hq.1)
      exact hnot e he rfl hq
    · exact ((hroom e he).statement c hw).2.2 p hparent hpset

/-- A grown node under its parent: the parent has grown with it, or starts
no later. -/
theorem inside_parent (hc : c < a.size) (hcset : (a.span c).isSet = true)
    (hparent : a.parent c = some p) (hpset : (b.span p).isSet = true) :
    (b.span c).Inside (b.span p) := by
  have hmem := h.before.isTree.mem_children_iff.2 hparent
  have hp : p < a.size := Arena.lt_size_of_mem_children hmem
  have hblt (i : NodeId) (hi : i < a.size) : i < b.size :=
    Nat.lt_of_lt_of_le hi h.attached.size_le
  have hcbset := Span.isSet_of_contains (h.attached.grows c hc hcset)
  by_cases hwith : ∃ e ∈ done, c = e.2 ∧ Surrounds a p c
  · obtain ⟨e, he, rfl, hw⟩ := hwith
    have hcontains := h.attached.around e he p hw
    exact (Span.contains_iff_inside hpset hcbset (h.endFits (hblt p hp) hpset)
      (h.endFits (hblt _ hc) hcbset)).1 hcontains
  · have hpaset := h.isSet_before hroom hp hpset
    have hstart := h.parent_start_le hroom hc hparent hcset hpaset
      fun e he hce hw => hwith ⟨e, he, hce, hw⟩
    have hinside := (h.wellPlaced p hp).inside hpaset c hmem hcset
    have hgrown := h.inside_grown hp hpaset
    have hend := (h.bounds hroom hc hcset).1
    unfold Span.Inside at hinside hgrown ⊢
    omega

/-- A grown node beside a sibling from before: what has room stays clear
even when both grow. -/
theorem apart_sibling {e : Attachment} (he : e ∈ done) (hgrows : GrowsWith a c e.2)
    (hstart : (b.span c).start = e.1.span.start) (hparent : a.parent c = some p)
    (hd : d ∈ a.children p) (hne : c ≠ d) (hdset : (a.span d).isSet = true) :
    ¬(b.span c).ShareByte (b.span d) := by
  have hmem := h.before.isTree.mem_children_iff.2 hparent
  have hp : p < a.size := Arena.lt_size_of_mem_children hmem
  obtain ⟨hc, -⟩ := h.before.parent_of_mem_children hp hmem
  obtain ⟨hdlt, hdparent⟩ := h.before.parent_of_mem_children hp hd
  obtain ⟨hcset, hpos, hclear⟩ := h.clear_of_growsWith hroom he hgrows
  obtain ⟨hcend, -⟩ := h.bounds hroom hc hcset
  obtain ⟨hdend, hdstart⟩ := h.bounds hroom hdlt hdset
  rcases hclear p hparent d hd hne.symm hdset with hbefore | hbehind
  · exact fun hshare => Span.not_shareByte_of_le (by omega) hshare.symm
  · refine Span.not_shareByte_of_le ?_
    rcases hdstart with heq | ⟨f, hf, hfgrows, heq⟩
    · omega
    · obtain ⟨-, hdpos, hdclear⟩ := h.clear_of_growsWith hroom hf hfgrows
      rcases hdclear p hdparent c hmem hne hcset with hbefore | hafter
      · omega
      · omega

/-- **Where there is room, every node that grows fits.** -/
theorem fitsAround (hc : c < a.size) (hne : b.span c ≠ a.span c) : FitsAround a b c := by
  have hcset := h.isSet_before hroom hc (h.attached.isSet_of_ne hc hne)
  obtain ⟨hend, hstart⟩ := h.bounds hroom hc hcset
  obtain ⟨e, he, hgrows, hstart⟩ := hstart.resolve_left fun heq =>
    hne (Span.eq_of_bounds heq hend)
  have hkept := h.attached.parent c hc
  constructor
  case inside =>
    intro p hp hpset
    exact h.inside_parent hroom hc hcset (hkept ▸ hp) hpset
  case apart =>
    intro p hp d hd hcd hdset _ _
    rw [hkept] at hp
    have hmem := h.before.isTree.mem_children_iff.2 hp
    have hplt : p < a.size := Arena.lt_size_of_mem_children hmem
    have hold (hda : d ∈ a.children p) : ¬(b.span c).ShareByte (b.span d) := by
      have hdlt := (h.before.parent_of_mem_children hplt hda).1
      exact h.apart_sibling hroom he hgrows hstart hp hda hcd (h.isSet_before hroom hdlt hdset)
    rcases h.attached.children_cases hplt with hsame | ⟨k, f, hk, rfl, hmore⟩
    · exact hold (hsame ▸ hd)
    · rw [hmore, List.mem_cons] at hd
      rcases hd with rfl | hda
      · -- the comment of the parent ends before the parent started
        have hf := List.mem_of_getElem? hk
        obtain ⟨-, hdocumentable, hpset⟩ := h.attached.declaration f hf
        have hle := h.comment_le hf
        have hpstart := h.parent_start_le hroom hc hp hcset hpset
          fun _ _ _ hw => ne_of_isDocumentable hdocumentable hw.2
        rw [Arena.span, Arena.span, h.attached.added k f hk]
        exact fun hshare => Span.not_shareByte_of_le (Int.le_trans hle hpstart) hshare.symm
      · exact hold hda
  case holds =>
    intro hunset
    rw [hcset] at hunset
    cases hunset

end Settled

/-! ## The comments of the source -/

/-- The span of a token ends where the token does. -/
theorem bounds_of_mem_tokens (hsize : s.size < 2147483648) {t : Lexical.Token}
    (ht : t ∈ Lexical.tokens s 0) :
    (Span.ofBounds t.start t.stop).start = t.start ∧ (Span.ofBounds t.start t.stop).stop = t.stop ∧
      (Span.ofBounds t.start t.stop).EndFits := by
  obtain ⟨-, hlt, hle⟩ := Lexical.tiles_zero.within t ht
  have hbounds : ¬((t.start : Int) < 0 ∨ (t.stop : Int) < t.start) := by omega
  have hlength : wrap32 (t.stop - t.start) = t.stop - t.start :=
    wrap32_of_nonneg_of_lt (by omega) (by omega)
  have hspan : Span.ofBounds t.start t.stop = ⟨t.start, t.stop - t.start⟩ := by
    rw [Span.ofBounds, if_neg hbounds, hlength]
  have hfits : (Span.ofBounds t.start t.stop).EndFits := by
    rw [hspan, Span.EndFits]
    dsimp only
    omega
  refine ⟨by rw [hspan], ?_, hfits⟩
  rw [Span.stop_of_endFits hfits, hspan]
  dsimp only
  omega

/-- The comments of a source lie inside it. -/
theorem inBounds_of_mem_comments (hsize : s.size < 2147483648) {c : Comment}
    (hc : c ∈ Lexical.comments s) : c.span.InBounds s ∧ c.span.EndFits := by
  obtain ⟨t, ht, hc⟩ := List.mem_filterMap.1 hc
  obtain ⟨kind, -, rfl⟩ := Option.map_eq_some_iff.1 hc
  obtain ⟨-, hlt, hle⟩ := Lexical.tiles_zero.within t ht
  obtain ⟨hstart, hstop, hfits⟩ := bounds_of_mem_tokens hsize ht
  refine ⟨⟨?_, ?_, ?_⟩, hfits⟩
  · rw [hstart]
    exact Int.natCast_nonneg _
  · rw [hstart, hstop]
    exact Int.ofNat_le.2 (Nat.le_of_lt hlt)
  · rw [hstop]
    exact Int.ofNat_le.2 hle

/-- **When attaching doc comments keeps a tree free of violations.** In a
tree that has none and in which no end wraps, it does so exactly if every
node that has grown fits where it stands; and it does so if there is room
for each doc comment of the source before the declarations that start
behind it. -/
theorem violations_attachDocs_iff {root : NodeId} {a : Arena} {s : Source}
    (hforest : Forest a [root])
    (hfits : ∀ i < a.size, (a.span i).isSet = true → (a.span i).EndFits)
    (hsize : s.size < 2147483648) (hclean : a.violations root = []) :
    ((attachDocs s (Lexical.comments s) root a).2.violations root = [] ↔
      ∀ c < a.size, (attachDocs s (Lexical.comments s) root a).2.span c ≠ a.span c →
        FitsAround a (attachDocs s (Lexical.comments s) root a).2 c) ∧
      ((∀ c ∈ Lexical.comments s, c.isDoc = true → ∀ target < a.size,
          isDocumentable (a.kind target) = true → (a.span target).isSet = true →
          Follows s a c target → HasRoom a c.span target) →
        (attachDocs s (Lexical.comments s) root a).2.violations root = []) := by
  have hafter := (documented_attachDocs hforest s (Lexical.comments s)).forest
  obtain ⟨done, hsub, -, hattached⟩ := Attached.refl.foldl
    (fun id hid => of_mem_documentable hforest hid) 0
    ((Lexical.comments s).filter Comment.isDoc)
    fun c hc => (inBounds_of_mem_comments hsize (List.mem_filter.1 hc).1).1
  change Attached s a (attachDocs s (Lexical.comments s) root a).2 done at hattached
  generalize (attachDocs s (Lexical.comments s) root a).2 = b at hafter hattached ⊢
  have hmem {d : Attachment} (hd : d ∈ done) : d.1 ∈ Lexical.comments s ∧ d.1.isDoc = true :=
    List.mem_filter.1 (hsub.subset (List.mem_map_of_mem hd))
  have hsettled : Settled s a b root done :=
    ⟨hattached, hforest, hafter, hfits, fun d hd => (inBounds_of_mem_comments hsize (hmem hd).1).2,
      (hforest.violations_eq_nil_iff hfits).1 hclean⟩
  have hiff : b.violations root = [] ↔ ∀ c < a.size, b.span c ≠ a.span c → FitsAround a b c :=
    (hafter.violations_eq_nil_iff fun i hi => hsettled.endFits hi).trans hsettled.wellPlaced_iff
  refine ⟨hiff, fun hroom => hiff.2 fun c hc hne => hsettled.fitsAround (fun d hd => ?_) hc hne⟩
  obtain ⟨hdlt, hdocumentable, hset⟩ := hattached.declaration d hd
  exact hroom d.1 (hmem hd).1 (hmem hd).2 d.2 hdlt hdocumentable hset (hattached.follows d hd)

/-- The class behind a comment has room for it. -/
theorem hasRoom_commentedClass : HasRoom commentedClass ⟨0, 8⟩ 1 := by
  have hparent {p : NodeId} (hp : commentedClass.parent 1 = some p) : p = 0 :=
    Option.some.inj (hp.symm.trans (by decide))
  constructor
  case nonempty => decide
  case clear =>
    intro p hp d hd hne
    obtain rfl := hparent hp
    have hchildren : commentedClass.children 0 = [1] := by decide
    rw [hchildren] at hd
    exact absurd (List.mem_singleton.1 hd) hne
  case inside =>
    intro _ p hp _
    obtain rfl := hparent hp
    decide
  case statement =>
    intro p hp
    obtain rfl := hparent hp.1
    exact absurd hp.2 (by decide)

theorem violations_attachDocs_commentedClass :
    Forest commentedClass [0] ∧
      (∀ i < commentedClass.size, (commentedClass.span i).isSet = true →
        (commentedClass.span i).EndFits) ∧
      commentedSource.size < 2147483648 ∧ commentedClass.violations 0 = [] ∧
      (attachDocs commentedSource (Lexical.comments commentedSource) 0 commentedClass).2.violations
        0 = [] := by
  have hfits : ∀ i < commentedClass.size, (commentedClass.span i).isSet = true →
      (commentedClass.span i).EndFits := by
    unfold Span.EndFits
    decide
  have hsize : commentedSource.size < 2147483648 := by decide +kernel
  have hclean : commentedClass.violations 0 = [] :=
    (Arena.violations_eq_of_sorted (by decide +kernel)).trans (by decide +kernel)
  refine ⟨forest_commentedClass, hfits, hsize, hclean, ?_⟩
  refine (violations_attachDocs_iff forest_commentedClass hfits hsize hclean).2 ?_
  intro c hc hdoc target htarget hdocumentable _ _
  rw [comments_commentedSource] at hc
  -- the one doc comment, and the one declaration
  rcases List.mem_cons.1 hc with rfl | hc
  · have hone : ∀ i < commentedClass.size,
        isDocumentable (commentedClass.kind i) = true → i = 1 := by
      decide
    rw [hone target htarget hdocumentable]
    exact hasRoom_commentedClass
  · obtain rfl := List.mem_singleton.1 hc
    cases hdoc

/-- A statement that reaches over a doc comment, and the local class behind
the comment. -/
def overreached : Arena :=
  let a := (Arena.empty.alloc .block ⟨0, 32⟩).2
  let a := (a.alloc .expressionStatement ⟨2, 16⟩).2.addChild 0 .statements 1
  let a := (a.alloc .typeDeclarationStatement ⟨19, 11⟩).2.addChild 0 .statements 2
  (a.alloc (.typeDeclaration false) ⟨19, 11⟩).2.addChild 2 .declaration 3

/-- The source of that block. -/
def overreachedSource : Source :=
  .ofString "\x7b foo() /** doc */ class B \x7b \x7d \x7d"

/-- The statement around the class grows into the one before it. -/
theorem violations_overreached :
    Unified.IsTree overreached 0 ∧ overreached.violations 0 = [] ∧
      (attachDocs overreachedSource (Lexical.comments overreachedSource) 0 overreached).2.violations
        0 = [.overlapping 0 2 ⟨8, 22⟩ 1 ⟨2, 16⟩] := by
  refine ⟨by decide +kernel, ?_, ?_⟩
  · exact (Arena.violations_eq_of_sorted (by decide +kernel)).trans (by decide +kernel)
  · exact (Arena.violations_eq_of_sorted (by decide +kernel)).trans (by decide +kernel)

end Completion

end TreeBridge

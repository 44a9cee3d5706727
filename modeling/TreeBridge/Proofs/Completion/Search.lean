import TreeBridge.Completion.Position
import TreeBridge.Proofs.Text.Word
import TreeBridge.Proofs.Unified.Arena
import TreeBridge.Proofs.Unified.Placement
/-!
# Searching fits names in

The search for names and modifiers only ever positions nodes that had no
span, and a node that it positions under a positioned parent lies inside
the parent and clear of the siblings. Both are kept by every placement,
hence by the visit of a parent and by the pass over a tree.
-/

namespace TreeBridge

namespace Completion

open Unified (NodeId NodeKind Arena Solid)

/-- What the search makes of an arena: it positions names and modifiers
without a span under positioned parents, and they fit in where their
parent had its span before. -/
structure Searched (a b : Arena) : Prop where
  size : b.size = a.size
  kind : b.kind = a.kind
  parent : b.parent = a.parent
  entries : b.entries = a.entries
  kept : ∀ i, (a.span i).isSet = true → b.span i = a.span i
  sought : ∀ i, (sought? (a.kind i)).isSome = false → b.span i = a.span i
  placed : ∀ i, b.span i ≠ a.span i → (b.span i).isSet = true
  under : ∀ p c, c ∈ a.children p → b.span c ≠ a.span c → (b.span p).isSet = true
  fits : ∀ p c, c ∈ a.children p → (a.span p).isSet = true → b.span c ≠ a.span c → b.FitsIn p c

namespace Searched

variable {a b : Arena}

theorem refl : Searched a a :=
  ⟨rfl, rfl, rfl, rfl, fun _ _ => rfl, fun _ _ => rfl, fun _ h => absurd rfl h,
    fun _ _ _ h => absurd rfl h, fun _ _ _ _ h => absurd rfl h⟩

theorem children (h : Searched a b) : b.children = a.children := by
  funext i
  rw [Arena.children, h.entries, Arena.children]

/-- Positioning one more child of a parent where it fits. -/
theorem setSpan {p child : NodeId} {found : Span} (h : Searched a b)
    (hparent : ∀ q c, c ∈ a.children q → a.parent c = some q) (hchild : child ∈ a.children p)
    (hunset : (b.span child).isSet = false) (hsought : (sought? (a.kind child)).isSome = true)
    (hsolid : Solid found) (hwindow : (b.span p).isSet = true)
    (hinside : (b.span p).contains found = true)
    (hclear : ∀ d ∈ a.children p, found.overlaps (b.span d) = false) :
    Searched a (b.setSpan child found) := by
  rcases Nat.lt_or_ge child b.size with hlt | hge
  swap
  · rw [Arena.setSpan, Arena.modify_of_size_le _ hge]
    exact h
  have hself := Arena.span_setSpan_self found hlt
  have hother {i : NodeId} (hi : i ≠ child) : (b.setSpan child found).span i = b.span i :=
    Arena.span_setSpan_of_ne found hi
  have hset {i : NodeId} (hi : (b.span i).isSet = true) : i ≠ child := by
    rintro rfl
    rw [hi] at hunset
    cases hunset
  -- a child has one parent, so a fit under another parent does not meet this child
  have honly {q : NodeId} (hq : child ∈ a.children q) : q = p :=
    Option.some.inj ((hparent q child hq).symm.trans (hparent p child hchild))
  constructor
  case size => exact (Arena.size_setSpan _).trans h.size
  case kind => exact (Arena.kind_setSpan _).trans h.kind
  case parent => exact (Arena.parent_setSpan _).trans h.parent
  case entries => exact (Arena.entries_setSpan _).trans h.entries
  case kept =>
    intro i hi
    exact (hother (hset (h.kept i hi ▸ hi))).trans (h.kept i hi)
  case sought =>
    intro i hi
    refine (hother ?_).trans (h.sought i hi)
    rintro rfl
    rw [hsought] at hi
    cases hi
  case placed =>
    intro i hi
    by_cases hic : i = child
    · rw [hic, hself]
      exact hsolid.1
    · rw [hother hic] at hi ⊢
      exact h.placed i hi
  case under =>
    intro q c hc hne
    have hq : (b.span q).isSet = true := by
      by_cases hcc : c = child
      · subst hcc
        exact honly hc ▸ hwindow
      · rw [hother hcc] at hne
        exact h.under q c hc hne
    rwa [hother (hset hq)]
  case fits =>
    intro q c hc hq hne
    have hqchild : q ≠ child := hset (h.kept q hq ▸ hq)
    by_cases hcc : c = child
    · subst hcc
      obtain rfl := honly hc
      exact Arena.FitsIn.of_setSpan hlt hqchild hsolid hinside (h.children.symm ▸ hclear)
    · -- a child that was placed before is a sibling, or no child of this parent
      rw [hother hcc] at hne
      refine (h.fits q c hc hq hne).setSpan hqchild hcc fun hsibling => ?_
      rw [h.children] at hsibling
      obtain rfl := honly hsibling
      rw [Unified.overlaps_comm]
      exact hclear c hc

end Searched

/-! ## Placing a word -/

/-- The length of a found word does not wrap: its window ends at an offset
of 32 bits. -/
theorem wrap32_of_findWord {s : Source} {word : String} {window : Span} {start hit : Int}
    {excluded : List Stretch} (h : findWord s word start window.stop excluded = some hit) :
    wrap32 word.utf8ByteSize = word.utf8ByteSize := by
  obtain ⟨h0, hle, -, hstop, -⟩ := findWord_eq_some h
  have hend : window.stop < 2147483648 := wrap32_lt _
  exact wrap32_of_nonneg_of_lt (by omega) (by omega)

/-- Nor does the end of a found word. -/
theorem stop_of_findWord {s : Source} {word : String} {window : Span} {start hit : Int}
    {excluded : List Stretch} (h : findWord s word start window.stop excluded = some hit) :
    Span.stop ⟨hit, wrap32 word.utf8ByteSize⟩ = hit + word.utf8ByteSize := by
  obtain ⟨h0, hle, -, hstop, -⟩ := findWord_eq_some h
  have hend : window.stop < 2147483648 := wrap32_lt _
  rw [wrap32_of_findWord h]
  exact wrap32_of_nonneg_of_lt (n := hit + word.utf8ByteSize) (by omega) (by omega)

/-- A found word meets no excluded stretch. -/
theorem meets_of_findWord {s : Source} {word : String} {window : Span} {start hit : Int}
    {excluded : List Stretch} (h : findWord s word start window.stop excluded = some hit) :
    ∀ t ∈ excluded, t.meets (.ofSpan ⟨hit, wrap32 word.utf8ByteSize⟩) = false := by
  rw [Stretch.ofSpan, stop_of_findWord h]
  exact (findWord_eq_some h).2.2.2.2

/-- A found word as a span: solid, inside the window and clear of every
span whose stretch is excluded. -/
theorem fits_of_findWord {s : Source} {word : String} {window : Span} {start hit : Int}
    {excluded : List Stretch} (h : findWord s word start window.stop excluded = some hit)
    (hwindow : window.isSet = true) (hstart : window.start ≤ start) :
    Solid ⟨hit, wrap32 word.utf8ByteSize⟩ ∧
      window.contains ⟨hit, wrap32 word.utf8ByteSize⟩ = true ∧
      ∀ t : Span, (t.isSet = true → Stretch.ofSpan t ∈ excluded) →
        Span.overlaps ⟨hit, wrap32 word.utf8ByteSize⟩ t = false := by
  obtain ⟨h0, hle, hpos, hstop, hclear⟩ := findWord_eq_some h
  have hfound := stop_of_findWord h
  rw [wrap32_of_findWord h] at hfound ⊢
  have hset : Span.isSet ⟨hit, word.utf8ByteSize⟩ = true :=
    decide_eq_true (Int.le_trans h0 hle)
  refine ⟨⟨hset, Int.natCast_pos.2 hpos, ?_⟩, ?_, fun t ht => ?_⟩
  · rw [hfound]
    exact Int.lt_add_of_pos_right _ (Int.natCast_pos.2 hpos)
  · unfold Span.contains
    rw [hwindow, hset, hfound]
    simp only [Bool.true_and, Bool.and_eq_true, decide_eq_true_eq]
    exact ⟨by omega, hstop⟩
  · cases htset : t.isSet with
    | false =>
      unfold Span.overlaps
      simp [htset]
    | true =>
      have hmeets := hclear _ (ht htset)
      unfold Stretch.meets Stretch.ofSpan at hmeets
      unfold Span.overlaps
      rw [hfound]
      simp only [Bool.and_eq_false_iff, decide_eq_false_iff_not] at hmeets ⊢
      rcases hmeets with hafter | hbefore
      · exact Or.inr hafter
      · exact Or.inl (Or.inr hbefore)

/-- A search among the children of a positioned parent: it has left its
start behind and keeps off the positioned children. -/
structure Within (a : Arena) (p : NodeId) (window : Span) (search : Search) : Prop where
  searched : Searched a search.pass.arena
  span : search.pass.arena.span p = window
  after : window.start ≤ search.after
  excluded : ∀ d ∈ a.children p, (search.pass.arena.span d).isSet = true →
    .ofSpan (search.pass.arena.span d) ∈ search.excluded

variable {a : Arena} {s : Source} {p child : NodeId} {window : Span} {search : Search}
  (hparent : ∀ q c, c ∈ a.children q → a.parent c = some q)

include hparent

theorem within_place {sought : Sought} (hwindow : window.isSet = true)
    (h : Within a p window search) (hchild : child ∈ a.children p)
    (hunset : (search.pass.arena.span child).isSet = false)
    (hsought : sought? (a.kind child) = some sought) :
    Within a p window (place s window child sought search) := by
  unfold place
  dsimp only
  split
  · next hit hfind =>
    have hstart : window.start ≤ if sought.anywhere then window.start else search.after := by
      split
      · exact Int.le_refl _
      · exact h.after
    obtain ⟨hsolid, hinside, hclear⟩ := fits_of_findWord hfind hwindow hstart
    -- the parent has a span and the child has none
    have hpchild : p ≠ child := by
      rintro rfl
      rw [h.span, hwindow] at hunset
      cases hunset
    have hsearched := h.searched.setSpan hparent hchild hunset (by rw [hsought]; rfl) hsolid
      (h.span.symm ▸ hwindow) (h.span.symm ▸ hinside)
      (fun d hd => hclear _ fun hset => List.mem_append_left _ (h.excluded d hd hset))
    refine ⟨hsearched, (Arena.span_setSpan_of_ne _ hpchild).trans h.span, ?_, fun d hd hset => ?_⟩
    · dsimp only
      split
      · exact h.after
      · exact Int.le_trans h.after (Int.le_max_left _ _)
    · dsimp only at hset ⊢
      rcases Nat.lt_or_ge child search.pass.arena.size with hlt | hge
      · by_cases hdc : d = child
        · rw [hdc, Arena.span_setSpan_self _ hlt]
          simp
        · rw [Arena.span_setSpan_of_ne _ hdc] at hset ⊢
          exact List.mem_append_left _ (h.excluded d hd hset)
      · rw [Arena.setSpan, Arena.modify_of_size_le _ hge] at hset ⊢
        exact List.mem_append_left _ (h.excluded d hd hset)
  · exact ⟨h.searched, h.span, h.after, h.excluded⟩

theorem within_visitChild (hwindow : window.isSet = true) (h : Within a p window search)
    (hchild : child ∈ a.children p) : Within a p window (visitChild s window search child) := by
  unfold visitChild
  dsimp only
  split
  · exact ⟨h.searched, h.span, Int.le_trans h.after (Int.le_max_left _ _), h.excluded⟩
  · next hunset =>
    split
    · next sought hsought =>
      rw [h.searched.kind] at hsought
      exact within_place hparent hwindow h hchild (by simpa using hunset) hsought
    · exact h

/-- **The visit of a parent** fits its children in. -/
theorem searched_visitParent {comments : List Stretch} {pass : Pass}
    (h : Searched a pass.arena) (p : NodeId) :
    Searched a (visitParent s comments pass p).arena := by
  unfold visitParent
  dsimp only
  split
  · next hwindow =>
    have hstart : Within a p (pass.arena.span p)
        ⟨pass, positionedChildren pass.arena p ++ comments, (pass.arena.span p).start⟩ := by
      refine ⟨h, rfl, Int.le_refl _, fun d hd hset => List.mem_append_left _ ?_⟩
      unfold positionedChildren
      refine List.mem_map_of_mem (List.mem_filter.2 ⟨List.mem_map_of_mem ?_, hset⟩)
      rwa [h.children]
    -- the invariant is carried along the list of children, from any search on
    have hrun : ∀ (cs : List NodeId) (search : Search), (∀ c ∈ cs, c ∈ a.children p) →
        Within a p (pass.arena.span p) search →
        Within a p (pass.arena.span p) (cs.foldl (visitChild s (pass.arena.span p)) search) := by
      intro cs
      induction cs with
      | nil => exact fun _ _ hw => hw
      | cons c cs ih =>
        intro search hcs hw
        exact ih _ (fun c hc => hcs c (by simp [hc]))
          (within_visitChild hparent hwindow hw (hcs c (by simp)))
    exact (hrun _ _ (fun c hc => by rwa [h.children] at hc) hstart).searched
  · exact h

/-- **The search over a tree** fits in every name and modifier that it
positions. -/
theorem searched_foldl_visitParent {comments : List Stretch} (order : List NodeId) {pass : Pass}
    (h : Searched a pass.arena) :
    Searched a (order.foldl (visitParent s comments) pass).arena := by
  induction order generalizing pass with
  | nil => exact h
  | cons p order ih => exact ih (searched_visitParent hparent h p)

end Completion

end TreeBridge

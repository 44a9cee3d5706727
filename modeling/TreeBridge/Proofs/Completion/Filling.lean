import Mathlib.Data.Finset.Card
import TreeBridge.Proofs.Completion.Passes
/-!
# Reconciling only fills in

A reconciliation keeps every node and every span that is there. What the
search finds is spelled by the text, lies inside the parent and is clear
of comments, of the siblings that had a span before and of everything
else that the search finds, under whatever parent. Each word found and
each span derived positions one more node.

The words found so far are the state that carries the separation over the
tree: `Traced` says that every found node has its stretch among them, and
a search keeps off all of them.
-/

namespace TreeBridge

namespace Completion

open Unified (NodeId NodeKind Slot Child Arena)

/-! ## Positioned nodes -/

/-- The nodes that have a span. -/
def positionedNodes (a : Arena) : Finset NodeId :=
  (Finset.range a.size).filter fun i => (a.span i).isSet = true

theorem mem_positionedNodes {a : Arena} {i : NodeId} :
    i ∈ positionedNodes a ↔ (a.span i).isSet = true := by
  rw [positionedNodes, Finset.mem_filter, Finset.mem_range, and_iff_right_iff_imp]
  intro hset
  by_contra hge
  rw [Arena.span_of_size_le (Nat.not_lt.1 hge)] at hset
  cases hset

/-- Giving a span to a node that had none positions one more node. -/
theorem card_positionedNodes_setSpan {a : Arena} {id : NodeId} {span : Span} (hlt : id < a.size)
    (hunset : (a.span id).isSet = false) (hset : span.isSet = true) :
    (positionedNodes (a.setSpan id span)).card = (positionedNodes a).card + 1 := by
  have hinsert : positionedNodes (a.setSpan id span) = insert id (positionedNodes a) := by
    ext i
    rw [Finset.mem_insert, mem_positionedNodes, mem_positionedNodes]
    by_cases hi : i = id
    · subst hi
      rw [Arena.span_setSpan_self _ hlt]
      simp [hset]
    · rw [Arena.span_setSpan_of_ne _ hi]
      simp [hi]
  rw [hinsert, Finset.card_insert_of_notMem (by rw [mem_positionedNodes, hunset]; simp)]

/-! ## Found nodes -/

/-- The nodes that have a span in one arena and had none in another. -/
def gainedNodes (a b : Arena) : Finset NodeId :=
  positionedNodes b \ positionedNodes a

theorem mem_gainedNodes {a b : Arena} {i : NodeId} :
    i ∈ gainedNodes a b ↔ (b.span i).isSet = true ∧ (a.span i).isSet = false := by
  rw [gainedNodes, Finset.mem_sdiff, mem_positionedNodes, mem_positionedNodes,
    Bool.not_eq_true]

/-- What holds of a node that a search has found: the text spells the word
that was sought, inside the parent and clear of the comments and of the
siblings that had a span before. -/
structure FoundAt (s : Source) (comments : List Stretch) (a b : Arena) (i : NodeId) : Prop where
  spelled : ∃ sought, sought? (a.kind i) = some sought ∧ s.textOf? (b.span i) = some sought.word
  inside : ∃ p, i ∈ a.children p ∧ (b.span p).contains (b.span i) = true
  comments : ∀ t ∈ comments, t.meets (.ofSpan (b.span i)) = false
  siblings : ∀ p d, i ∈ a.children p → d ∈ a.children p → (a.span d).isSet = true →
    (Stretch.ofSpan (a.span d)).meets (.ofSpan (b.span i)) = false

/-- What was found stays found when spans are only added. -/
theorem FoundAt.mono {s : Source} {comments : List Stretch} {a b b' : Arena} {i : NodeId}
    (h : FoundAt s comments a b i)
    (hkept : ∀ j, (b.span j).isSet = true → b'.span j = b.span j) : FoundAt s comments a b' i := by
  obtain ⟨p, hp, hinside⟩ := h.inside
  have hset := hinside
  unfold Span.contains at hset
  simp only [Bool.and_eq_true] at hset
  have hi : b'.span i = b.span i := hkept i hset.1.1.2
  refine ⟨?_, ⟨p, hp, ?_⟩, ?_, ?_⟩
  · rw [hi]
    exact h.spelled
  · rw [hi, hkept p hset.1.1.1]
    exact hinside
  · rw [hi]
    exact h.comments
  · rw [hi]
    exact h.siblings

/-! ## The search -/

/-- What a search over a tree has found so far. -/
structure Traced (s : Source) (comments : List Stretch) (a : Arena) (pass : Pass) : Prop where
  flags : pass.arena.flags = a.flags
  found : ∀ i ∈ gainedNodes a pass.arena, FoundAt s comments a pass.arena i
  claimed : ∀ i ∈ gainedNodes a pass.arena, .ofSpan (pass.arena.span i) ∈ pass.claimed
  apart : ∀ i ∈ gainedNodes a pass.arena, ∀ j ∈ gainedNodes a pass.arena, i ≠ j →
    (Stretch.ofSpan (pass.arena.span i)).meets (.ofSpan (pass.arena.span j)) = false
  card : (positionedNodes pass.arena).card = (positionedNodes a).card + pass.positioned

theorem Traced.refl {s : Source} {comments : List Stretch} (a : Arena) :
    Traced s comments a ⟨a, [], 0, 0⟩ := by
  have hnone (i : NodeId) : i ∉ gainedNodes a a := by simp [gainedNodes]
  exact ⟨rfl, fun i hi => absurd hi (hnone i), fun i hi => absurd hi (hnone i),
    fun i hi => absurd hi (hnone i), rfl⟩

theorem meets_comm (t u : Stretch) : t.meets u = u.meets t := by
  unfold Stretch.meets
  rw [Bool.and_comm]

/-- A search under a parent that also keeps off the comments. -/
structure Tracing (s : Source) (comments : List Stretch) (a : Arena) (p : NodeId) (window : Span)
    (search : Search) : Prop extends Within a p window search where
  traced : Traced s comments a search.pass
  comments : ∀ t ∈ comments, t ∈ search.excluded

variable {s : Source} {comments : List Stretch} {a : Arena} {p child : NodeId} {window : Span}
  {search : Search}
  (hparent : ∀ q c, c ∈ a.children q → a.parent c = some q)

/-- One more node is found: its stretch is clear of those claimed before
and joins them. -/
theorem Traced.setSpan {pass : Pass} {found : Span} (h : Traced s comments a pass)
    (hlt : child < pass.arena.size) (hunset : (pass.arena.span child).isSet = false)
    (hbefore : (a.span child).isSet = false) (hset : found.isSet = true)
    (hclear : ∀ t ∈ pass.claimed, t.meets (.ofSpan found) = false)
    (hfound : FoundAt s comments a (pass.arena.setSpan child found) child) :
    Traced s comments a
      { pass with
        arena := pass.arena.setSpan child found
        claimed := pass.claimed ++ [.ofSpan found]
        positioned := pass.positioned + 1 } := by
  have hself := Arena.span_setSpan_self found hlt
  have hother {i : NodeId} (hi : i ≠ child) :
      (pass.arena.setSpan child found).span i = pass.arena.span i :=
    Arena.span_setSpan_of_ne found hi
  have hkept (j : NodeId) (hj : (pass.arena.span j).isSet = true) :
      (pass.arena.setSpan child found).span j = pass.arena.span j := by
    refine hother ?_
    rintro rfl
    rw [hunset] at hj
    cases hj
  -- the nodes gained before, and the one found now
  have hgained {i : NodeId} (hi : i ∈ gainedNodes a (pass.arena.setSpan child found))
      (hne : i ≠ child) : i ∈ gainedNodes a pass.arena := by
    rw [mem_gainedNodes, hother hne] at hi
    exact mem_gainedNodes.2 hi
  have hsplit {i : NodeId} (hi : i ∈ gainedNodes a (pass.arena.setSpan child found)) :
      i = child ∨ i ∈ gainedNodes a pass.arena ∧ i ≠ child :=
    (eq_or_ne i child).imp_right fun hne => ⟨hgained hi hne, hne⟩
  constructor
  case flags => exact (Arena.flags_setSpan _).trans h.flags
  case found =>
    intro i hi
    rcases hsplit hi with rfl | ⟨hi, -⟩
    · exact hfound
    · exact (h.found i hi).mono hkept
  case claimed =>
    intro i hi
    rcases hsplit hi with rfl | ⟨hi, hne⟩
    · dsimp only
      rw [hself]
      exact List.mem_append_right _ (List.mem_singleton_self _)
    · dsimp only
      rw [hother hne]
      exact List.mem_append_left _ (h.claimed i hi)
  case apart =>
    intro i hi j hj hij
    dsimp only
    rcases hsplit hi with hic | ⟨hi', hic⟩ <;> rcases hsplit hj with hjc | ⟨hj', hjc⟩
    · exact absurd (hic.trans hjc.symm) hij
    · rw [hic, hself, hother hjc, meets_comm]
      exact hclear _ (h.claimed j hj')
    · rw [hjc, hself, hother hic]
      exact hclear _ (h.claimed i hi')
    · rw [hother hic, hother hjc]
      exact h.apart i hi' j hj' hij
  case card =>
    dsimp only
    rw [card_positionedNodes_setSpan hlt hunset hset, h.card, Nat.add_assoc]

include hparent

theorem lt_size_of_mem_children (hchild : child ∈ a.children p) : child < a.size := by
  by_contra hge
  have hnone := hparent p child hchild
  rw [Arena.parent_of_size_le (Nat.not_lt.1 hge)] at hnone
  cases hnone

/-- A node is found where the word that it seeks is found under its
parent. -/
theorem foundAt_of_findWord {sought : Sought} {start hit : Int} (hwindow : window.isSet = true)
    (h : Tracing s comments a p window search) (hchild : child ∈ a.children p)
    (hunset : (search.pass.arena.span child).isSet = false)
    (hsought : sought? (a.kind child) = some sought) (hstart : window.start ≤ start)
    (hfind : findWord s sought.word start window.stop (search.excluded ++ search.pass.claimed) =
      some hit) :
    FoundAt s comments a
      (search.pass.arena.setSpan child ⟨hit, wrap32 sought.word.utf8ByteSize⟩) child := by
  obtain ⟨hsolid, hinside, -⟩ := fits_of_findWord hfind hwindow hstart
  have hclear := meets_of_findWord hfind
  have hself := Arena.span_setSpan_self (⟨hit, wrap32 sought.word.utf8ByteSize⟩ : Span)
    (h.searched.size ▸ lt_size_of_mem_children hparent hchild : child < search.pass.arena.size)
  have hpchild : p ≠ child := by
    rintro rfl
    rw [h.span, hwindow] at hunset
    cases hunset
  constructor
  case spelled =>
    refine ⟨sought, hsought, ?_⟩
    rw [hself, Source.textOf?, if_pos hsolid.1, stop_of_findWord hfind]
    exact slice?_of_findWord hfind
  case inside =>
    refine ⟨p, hchild, ?_⟩
    rw [hself, Arena.span_setSpan_of_ne _ hpchild, h.span]
    exact hinside
  case comments =>
    intro t ht
    rw [hself]
    exact hclear t (List.mem_append_left _ (h.comments t ht))
  case siblings =>
    intro q d hq hd hset
    -- a child has one parent, so its siblings are the children of the parent visited
    obtain rfl : q = p :=
      Option.some.inj ((hparent q child hq).symm.trans (hparent p child hchild))
    have hkept := h.searched.kept d hset
    rw [hself, ← hkept]
    exact hclear _ (List.mem_append_left _ (h.excluded d hd (hkept ▸ hset)))

theorem tracing_place {sought : Sought} (hwindow : window.isSet = true)
    (h : Tracing s comments a p window search) (hchild : child ∈ a.children p)
    (hunset : (search.pass.arena.span child).isSet = false)
    (hsought : sought? (a.kind child) = some sought) :
    Tracing s comments a p window (place s window child sought search) := by
  have hbefore : (a.span child).isSet = false := by
    by_contra hset
    rw [Bool.not_eq_false] at hset
    rw [h.searched.kept child hset, hset] at hunset
    cases hunset
  refine { within_place hparent hwindow h.toWithin hchild hunset hsought with
    traced := ?_, comments := fun t ht => ?_ }
  · unfold place
    dsimp only
    split
    · next hit hfind =>
      have hstart : window.start ≤ if sought.anywhere then window.start else search.after := by
        split
        · exact Int.le_refl _
        · exact h.after
      obtain ⟨hsolid, -, -⟩ := fits_of_findWord hfind hwindow hstart
      exact h.traced.setSpan (h.searched.size ▸ lt_size_of_mem_children hparent hchild) hunset
        hbefore hsolid.1 (fun t ht => meets_of_findWord hfind t (List.mem_append_right _ ht))
        (foundAt_of_findWord hparent hwindow h hchild hunset hsought hstart hfind)
    · exact ⟨h.traced.flags, h.traced.found, h.traced.claimed, h.traced.apart, h.traced.card⟩
  · unfold place
    dsimp only
    split
    · exact List.mem_append_left _ (h.comments t ht)
    · exact h.comments t ht

theorem tracing_visitChild (hwindow : window.isSet = true)
    (h : Tracing s comments a p window search) (hchild : child ∈ a.children p) :
    Tracing s comments a p window (visitChild s window search child) := by
  unfold visitChild
  dsimp only
  split
  · exact ⟨⟨h.searched, h.span, Int.le_trans h.after (Int.le_max_left _ _), h.excluded⟩,
      h.traced, h.comments⟩
  · next hunset =>
    split
    · next sought hsought =>
      rw [h.searched.kind] at hsought
      exact tracing_place hparent hwindow h hchild (by simpa using hunset) hsought
    · exact h

theorem tracing_foldl_visitChild (hwindow : window.isSet = true) (children : List NodeId)
    (h : Tracing s comments a p window search) (hchildren : ∀ c ∈ children, c ∈ a.children p) :
    Tracing s comments a p window (children.foldl (visitChild s window) search) := by
  induction children generalizing search with
  | nil => exact h
  | cons c children ih =>
    exact ih (tracing_visitChild hparent hwindow h (hchildren c (by simp)))
      fun d hd => hchildren d (by simp [hd])

/-- **The visit of a parent** finds its children apart from everything
found before. -/
theorem traced_visitParent {pass : Pass} (hsearched : Searched a pass.arena)
    (h : Traced s comments a pass) (p : NodeId) :
    Traced s comments a (visitParent s comments pass p) := by
  unfold visitParent
  dsimp only
  split
  · next hwindow =>
    have hstart : Tracing s comments a p (pass.arena.span p)
        ⟨pass, positionedChildren pass.arena p ++ comments, (pass.arena.span p).start⟩ := by
      refine ⟨⟨hsearched, rfl, Int.le_refl _, fun d hd hset => List.mem_append_left _ ?_⟩,
        h, fun t ht => List.mem_append_right _ ht⟩
      unfold positionedChildren
      refine List.mem_map_of_mem (List.mem_filter.2 ⟨List.mem_map_of_mem ?_, hset⟩)
      rwa [hsearched.children]
    exact (tracing_foldl_visitChild hparent hwindow _ hstart
      fun c hc => by rwa [hsearched.children] at hc).traced
  · exact h

/-- **The search over a tree** finds every node apart from every other. -/
theorem traced_foldl_visitParent (order : List NodeId) {pass : Pass}
    (hsearched : Searched a pass.arena) (h : Traced s comments a pass) :
    Traced s comments a (order.foldl (visitParent s comments) pass) := by
  induction order generalizing pass with
  | nil => exact h
  | cons p order ih =>
    exact ih (searched_visitParent hparent hsearched p) (traced_visitParent hparent hsearched h p)

omit hparent

/-! ## Deriving -/

theorem flags_derive (b : Arena × Nat) (id : NodeId) : (derive b id).1.flags = b.1.flags := by
  unfold derive
  split
  · rfl
  · dsimp only
    split
    · exact Arena.flags_setSpan _
    · rfl

/-- A derivation counts the node that it positions. -/
theorem card_positionedNodes_derive (b : Arena × Nat) (id : NodeId) :
    (positionedNodes (derive b id).1).card + b.2 =
      (positionedNodes b.1).card + (derive b id).2 := by
  unfold derive
  split
  · rfl
  · next hunset =>
    dsimp only
    split
    · next hset =>
      -- a span is derived from children, and only nodes of the arena have any
      have hlt : id < b.1.size := by
        by_contra hge
        have hleaf : b.1.entries id = [] := by
          simpa [Arena.children] using Arena.children_of_size_le (Nat.not_lt.1 hge)
        rw [derivedSpan_of_leaf hleaf] at hset
        cases hset
      dsimp only
      rw [card_positionedNodes_setSpan hlt (by simpa using hunset) hset]
      omega
    · rfl

theorem flags_foldl_derive (order : List NodeId) (b : Arena × Nat) :
    (order.foldl derive b).1.flags = b.1.flags := by
  induction order generalizing b with
  | nil => rfl
  | cons id order ih => exact (ih _).trans (flags_derive b id)

theorem card_positionedNodes_foldl_derive (order : List NodeId) (b : Arena × Nat) :
    (positionedNodes (order.foldl derive b).1).card + b.2 =
      (positionedNodes b.1).card + (order.foldl derive b).2 := by
  induction order generalizing b with
  | nil => rfl
  | cons id order ih =>
    have hstep := card_positionedNodes_derive b id
    have hrest := ih (derive b id)
    rw [List.foldl_cons]
    omega

/-! ## Sorting -/

/-- The entries of a node with its modifiers blanked out. -/
def withoutModifiers (entries : List Child) : List (Option Child) :=
  entries.map fun c => if c.slot == .modifiers then none else some c

theorem withoutModifiers_eq_of_keepsPlace {entries sorted : List Child}
    (h : List.Forall₂ (Arena.KeepsPlace .modifiers) entries sorted) :
    withoutModifiers sorted = withoutModifiers entries := by
  induction h with
  | nil => rfl
  | @cons c d entries sorted hcd _ ih =>
    obtain ⟨hslot, hkept⟩ := hcd
    unfold withoutModifiers at ih ⊢
    rw [List.map_cons, List.map_cons, ih, hslot]
    by_cases hc : c.slot = .modifiers
    · rw [if_pos (beq_iff_eq.2 hc), if_pos (beq_iff_eq.2 hc)]
    · rw [hkept hc]

theorem withoutModifiers_sortModifiers (b : Arena) (id i : NodeId) :
    withoutModifiers ((sortModifiers b id).entries i) = withoutModifiers (b.entries i) := by
  unfold sortModifiers
  split
  · by_cases hi : i = id
    · subst hi
      exact withoutModifiers_eq_of_keepsPlace Arena.keepsPlace_sortSlot
    · rw [Arena.entries_sortSlot_of_ne _ hi]
  · rfl

theorem withoutModifiers_foldl_sortModifiers (order : List NodeId) (b : Arena) (i : NodeId) :
    withoutModifiers ((order.foldl sortModifiers b).entries i) =
      withoutModifiers (b.entries i) := by
  induction order generalizing b with
  | nil => rfl
  | cons id order ih => exact (ih _).trans (withoutModifiers_sortModifiers b id i)

theorem flags_foldl_sortModifiers (order : List NodeId) (b : Arena) :
    (order.foldl sortModifiers b).flags = b.flags := by
  induction order generalizing b with
  | nil => rfl
  | cons id order ih =>
    refine (ih _).trans ?_
    unfold sortModifiers
    split
    · exact Arena.flags_sortSlot _
    · rfl

/-! ## Reconciling -/

/-- The search of a reconciliation, before anything is derived. -/
def searchTree (s : Source) (comments : List Stretch) (root : NodeId) (a : Arena) : Pass :=
  (a.preorder root).foldl (visitParent s comments) ⟨a, [], 0, 0⟩

/-- The nodes that the search of a reconciliation positions. -/
def foundNodes (s : Source) (comments : List Stretch) (root : NodeId) (a : Arena) : Finset NodeId :=
  gainedNodes a (searchTree s comments root a).arena

/-- What a reconciliation makes of an arena: the same nodes, in the same
places but for the order of modifiers, and spans for nodes that had
none. -/
structure FillsIn (s : Source) (comments : List Stretch) (root : NodeId) (a b : Arena)
    (tally : Tally) : Prop where
  size : b.size = a.size
  kind : b.kind = a.kind
  flags : b.flags = a.flags
  parent : b.parent = a.parent
  kept : ∀ i, (a.span i).isSet = true → b.span i = a.span i
  perm : ∀ i, (b.entries i).Perm (a.entries i)
  places : ∀ i, withoutModifiers (b.entries i) = withoutModifiers (a.entries i)
  found : ∀ i ∈ foundNodes s comments root a, FoundAt s comments a b i
  apart : ∀ i ∈ foundNodes s comments root a, ∀ j ∈ foundNodes s comments root a, i ≠ j →
    (Stretch.ofSpan (b.span i)).meets (.ofSpan (b.span j)) = false
  positioned : (foundNodes s comments root a).card = tally.positioned
  card : (positionedNodes b).card = (positionedNodes a).card + (tally.positioned + tally.derived)

end Completion

open Completion in
/-- **Reconciling a tree only fills in what is missing**, when the parents
of its nodes are recorded as they are. -/
theorem fillsIn_reconcile {a : Unified.Arena}
    (hparent : ∀ p c, c ∈ a.children p → a.parent c = some p) (s : Source)
    (comments : List Comment) (root : Unified.NodeId) :
    FillsIn s (comments.map fun c => .ofSpan c.span) root a (reconcile s comments root a).2
      (reconcile s comments root a).1 := by
  -- the three passes, one after the other
  let order := a.preorder root
  let pass := searchTree s (comments.map fun c => .ofSpan c.span) root a
  let drawn := order.reverse.foldl derive (pass.arena, 0)
  let b := order.foldl sortModifiers drawn.1
  have hsearched : Searched a pass.arena := searched_foldl_visitParent hparent order Searched.refl
  have htraced : Traced s (comments.map fun c => .ofSpan c.span) a pass :=
    traced_foldl_visitParent hparent order Searched.refl (Traced.refl a)
  have hderived : Derived pass.arena drawn.1 := derived_foldl _ Derived.refl
  have hresorted : Resorted drawn.1 b := resorted_foldl order Resorted.refl
  have hspan (i) (hi : (pass.arena.span i).isSet = true) : b.span i = pass.arena.span i := by
    rw [hresorted.span, hderived.kept i hi]
  have hset {i} (hi : i ∈ gainedNodes a pass.arena) : b.span i = pass.arena.span i :=
    hspan i (mem_gainedNodes.1 hi).1
  have hnodes : positionedNodes b = positionedNodes drawn.1 := by
    ext i
    rw [mem_positionedNodes, mem_positionedNodes, hresorted.span]
  have hcard := card_positionedNodes_foldl_derive order.reverse (pass.arena, 0)
  constructor
  case size => exact hresorted.size.trans (hderived.size.trans hsearched.size)
  case kind => exact hresorted.kind.trans (hderived.kind.trans hsearched.kind)
  case flags =>
    exact (flags_foldl_sortModifiers _ _).trans ((flags_foldl_derive _ _).trans htraced.flags)
  case parent => exact hresorted.parent.trans (hderived.parent.trans hsearched.parent)
  case kept =>
    intro i hi
    have hkept := hsearched.kept i hi
    exact (hspan i (hkept ▸ hi)).trans hkept
  case perm =>
    intro i
    rw [← hsearched.entries, ← hderived.entries]
    exact hresorted.entries i
  case places =>
    intro i
    rw [← hsearched.entries, ← hderived.entries]
    exact withoutModifiers_foldl_sortModifiers order drawn.1 i
  case found => exact fun i hi => (htraced.found i hi).mono hspan
  case apart =>
    intro i hi j hj hij
    change (Stretch.ofSpan (b.span i)).meets (.ofSpan (b.span j)) = false
    rw [hset hi, hset hj]
    exact htraced.apart i hi j hj hij
  case positioned =>
    have hsub : positionedNodes a ⊆ positionedNodes pass.arena := fun i hi => by
      rw [mem_positionedNodes] at hi ⊢
      exact hsearched.kept i hi ▸ hi
    have htotal : (positionedNodes pass.arena).card = (positionedNodes a).card + pass.positioned :=
      htraced.card
    change (gainedNodes a pass.arena).card = pass.positioned
    rw [gainedNodes, Finset.card_sdiff_of_subset hsub]
    omega
  case card =>
    change (positionedNodes b).card = (positionedNodes a).card + (pass.positioned + drawn.2)
    rw [hnodes, ← Nat.add_assoc, ← htraced.card]
    exact hcard

/-- A class with two modifiers and a name that have no span yet. -/
def bareClass : Unified.Arena where
  nodes := #[⟨.typeDeclaration false, ⟨0, 23⟩, 0, none,
      [⟨.modifiers, 1⟩, ⟨.modifiers, 2⟩, ⟨.name, 3⟩]⟩,
    ⟨.modifier .final, .unset, 0, some 0, []⟩, ⟨.modifier .publicAccess, .unset, 0, some 0, []⟩,
    ⟨.simpleName "A", .unset, 0, some 0, []⟩]
  defaultFlags := 0

open Completion in
/-- The search finds all three words of a class header, the modifiers in
either order. -/
theorem fillsIn_reconcile_bareClass :
    (reconcile (.ofString "public final class A {}") [] 0 bareClass).1 = ⟨3, 0, 0⟩ ∧
      (∀ p c, c ∈ bareClass.children p → bareClass.parent c = some p) ∧
      FillsIn (.ofString "public final class A {}") [] 0 bareClass
        (reconcile (.ofString "public final class A {}") [] 0 bareClass).2
        (reconcile (.ofString "public final class A {}") [] 0 bareClass).1 := by
  have hnodes : ∀ p < 4, ∀ c ∈ bareClass.children p, bareClass.parent c = some p := by decide
  have hparent : ∀ p c, c ∈ bareClass.children p → bareClass.parent c = some p := by
    intro p c hc
    rcases Nat.lt_or_ge p 4 with hp | hp
    · exact hnodes p hp c hc
    · rw [Unified.Arena.children_of_size_le hp] at hc
      cases hc
  exact ⟨by decide +kernel, hparent, fillsIn_reconcile hparent _ [] 0⟩

end TreeBridge

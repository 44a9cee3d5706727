import TreeBridge.Proofs.Completion.Documentation
import TreeBridge.Proofs.Completion.Passes
import TreeBridge.Proofs.Conversion.WholeArena
import TreeBridge.Resolution.Resolve
/-!
# Containment in a resolved unit

Where names and modifiers are searched for makes no difference to the
check of spans: what the search positions fits in. So a resolved unit is
free of violations exactly if the conversion has left none at the nodes
that only the search has touched, and none remains at the few others,
which are those around a derived span or a doc comment.
-/

namespace TreeBridge

namespace Completion

open Unified (NodeId NodeKind Slot Child Arena Forest)

/-! ## All passes together -/

/-- What the passes after a search make of the tree before it, where the
search has led to `a₁`. -/
structure Completed (root : NodeId) (a a₁ b : Arena) : Prop where
  size : a.size ≤ b.size
  forest : Forest b [root]
  kind : ∀ i < a.size, b.kind i = a.kind i
  parent : ∀ i < a.size, b.parent i = a.parent i
  span : ∀ i < a.size, (sought? (a.kind i)).isSome = true →
    (a₁.span i).isSet = true ∨ a.entries i = [] → b.span i = a₁.span i
  entries : ∀ i < a.size, (b.children i).length = (a.children i).length →
    (b.entries i).Perm (a.entries i)
  child : ∀ i < a.size, (b.children i).length = (a.children i).length →
    ∀ slot, slot ≠ .modifiers → b.child? i slot = a.child? i slot
  leaf : ∀ i, a.size ≤ i → b.children i = []

/-- Searching, deriving and sorting a tree gives one tree again. -/
theorem forest_of_passes {root : NodeId} {a a₁ a₂ a₃ : Arena} (h : Forest a [root])
    (hs : Searched a a₁) (hd : Derived a₁ a₂) (hr : Resorted a₂ a₃) : Forest a₃ [root] := by
  refine h.rearrange (hr.size.trans (hd.size.trans hs.size))
    (hr.parent.trans (hd.parent.trans hs.parent)) fun i => ?_
  unfold Arena.children
  rw [← hs.entries, ← hd.entries]
  exact (hr.entries i).map _

theorem Completed.of_passes {root : NodeId} {a a₁ a₂ a₃ b : Arena} (hs : Searched a a₁)
    (hd : Derived a₁ a₂) (hr : Resorted a₂ a₃) (hb : Documented root a₃ b) :
    Completed root a a₁ b := by
  have hsize : a₃.size = a.size := hr.size.trans (hd.size.trans hs.size)
  have hkind : a₃.kind = a.kind := hr.kind.trans (hd.kind.trans hs.kind)
  have hparent : a₃.parent = a.parent := hr.parent.trans (hd.parent.trans hs.parent)
  have hentries : a₂.entries = a.entries := hd.entries.trans hs.entries
  -- a doc comment is a further child, so a node with as many as before has none
  have hundocumented {i : NodeId} (hi : i < a.size)
      (hcount : (b.children i).length = (a.children i).length) : b.entries i = a₃.entries i := by
    rcases hb.entries i (hsize ▸ hi) with heq | hlt
    · exact heq
    · have hlength := (hr.entries i).length_eq
      rw [hentries] at hlength
      rw [Arena.children, Arena.children, List.length_map, List.length_map] at hcount
      omega
  refine ⟨hsize ▸ hb.size, hb.forest, fun i hi => ?_, fun i hi => ?_,
    fun i hi hsought hkept => ?_, fun i hi hcount => ?_, fun i hi hcount slot hslot => ?_,
    fun i hi => hb.leaf i (hsize ▸ hi)⟩
  · rw [hb.kind i (hsize ▸ hi), hkind]
  · rw [hb.parent i (hsize ▸ hi), hparent]
  · rw [hb.span i (hsize ▸ hi) (hkind ▸ hsought), hr.span]
    rcases hkept with hset | hleaf
    · exact hd.kept i hset
    · exact hd.leaf i (hs.entries ▸ hleaf)
  · rw [hundocumented hi hcount, ← hentries]
    exact hr.entries i
  · calc b.child? i slot
        _ = a₃.child? i slot := by rw [Arena.child?, hundocumented hi hcount, Arena.child?]
        _ = a₂.child? i slot := hr.child i slot hslot
        _ = a.child? i slot := by rw [Arena.child?, hentries, Arena.child?]

/-! ## Undisturbed nodes -/

/-- A node that derivation and doc comments have left alone: it has kept
its span and got no further child, and its children have kept their
spans or are names and modifiers without children that had none. -/
structure Undisturbed (a b : Arena) (p : NodeId) : Prop where
  span : b.span p = a.span p
  count : (b.children p).length = (a.children p).length
  children : ∀ c ∈ a.children p, b.span c = a.span c ∨ (a.span c).isSet = false ∧
    (sought? (a.kind c)).isSome = true ∧ a.entries c = []

variable {root p : NodeId} {a a₁ b : Arena}

theorem Completed.span_of_found (hb : Completed root a a₁ b) (hs : Searched a a₁) {i : NodeId}
    (hi : i < a.size) (hfound : a₁.span i ≠ a.span i) : b.span i = a₁.span i := by
  refine hb.span i hi ?_ (Or.inl (hs.placed i hfound))
  cases hsought : (sought? (a.kind i)).isSome with
  | true => rfl
  | false => exact absurd (hs.sought i hsought) hfound

/-- A node with its old span was not found in the search. -/
theorem Completed.span_of_kept (hb : Completed root a a₁ b) (hs : Searched a a₁) {i : NodeId}
    (hi : i < a.size) (hkept : b.span i = a.span i) : a₁.span i = a.span i := by
  by_contra hfound
  rw [← hb.span_of_found hs hi hfound] at hfound
  exact hfound hkept

/-- **At an undisturbed node only fitted children are new.** -/
theorem Completed.fittedAt (hb : Completed root a a₁ b) (hs : Searched a a₁)
    (ha : Forest a [root]) (hp : p < a.size) (hundisturbed : Undisturbed a b p) :
    a.FittedAt b p := by
  have htree := ha.isTree
  have hlt {c : NodeId} (hc : c ∈ a.children p) : c < a.size := by
    by_contra hge
    have hnone := Arena.parent_of_size_le (Nat.not_lt.1 hge)
    rw [htree.parent_of_mem hc] at hnone
    cases hnone
  have hentries := hb.entries p hp hundisturbed.count
  have hchildren : (b.children p).Perm (a.children p) := hentries.map _
  have hspan : a₁.span p = a.span p := hb.span_of_kept hs hp hundisturbed.span
  have hsearched {c : NodeId} (hc : c ∈ a.children p) : b.span c = a₁.span c := by
    rcases hundisturbed.children c hc with hkept | ⟨-, hsought, hleaf⟩
    · rw [hkept, hb.span_of_kept hs (hlt hc) hkept]
    · exact hb.span c (hlt hc) hsought (Or.inr hleaf)
  refine ⟨htree.nodup_children p, hb.kind p hp, hundisturbed.span, hchildren,
    hb.child p hp hundisturbed.count .type (by decide), fun c hc => ?_, fun c hc => ?_⟩
  · exact Arena.location?_eq_of_perm (htree.parent_of_mem hc)
      ((hb.parent c (hlt hc)).trans (htree.parent_of_mem hc)) hentries (htree.nodup_children p)
  by_cases hfound : a₁.span c = a.span c
  · exact Or.inl ((hsearched hc).trans hfound)
  have hunset : (a.span c).isSet = false := by
    by_contra hset
    exact hfound (hs.kept c (by simpa using hset))
  -- only a positioned parent is searched, and this one has its span from before
  have hset : (a.span p).isSet = true := hspan ▸ hs.under p c hc hfound
  obtain ⟨hsolid, hinside, hclear⟩ := hs.fits p c hc hset hfound
  refine Or.inr ⟨hunset, hsearched hc ▸ hsolid, fun _ => ?_, fun d hd hdc => ?_⟩
  · rw [hundisturbed.span, hsearched hc, ← hspan]
    exact hinside (hspan ▸ hset)
  · have hd' := hchildren.mem_iff.1 hd
    rw [hsearched hc, hsearched hd']
    exact hclear d (hs.children ▸ hd') hdc

/-- A tree is free of violations when every node of its arena is. -/
theorem violations_eq_nil_iff_of_forest (ha : Forest a [root]) :
    a.violations root = [] ↔ ∀ p < a.size, a.violationsAt p = [] := by
  rw [Arena.violations, List.flatMap_eq_nil_iff]
  exact forall_congr' fun p => by rw [ha.isTree.mem_preorder_iff]

/-- **Where violations come from**: the completed tree is free of them
exactly if the tree before has none at undisturbed nodes and the
completed one none at the others. -/
theorem Completed.violations_eq_nil_iff (hb : Completed root a a₁ b) (hs : Searched a a₁)
    (ha : Forest a [root]) :
    b.violations root = [] ↔
      (∀ p < a.size, Undisturbed a b p → a.violationsAt p = []) ∧
        ∀ p < a.size, ¬ Undisturbed a b p → b.violationsAt p = [] := by
  rw [violations_eq_nil_iff_of_forest hb.forest]
  constructor
  · intro h
    have hall (p : NodeId) (hp : p < a.size) : b.violationsAt p = [] :=
      h p (Nat.lt_of_lt_of_le hp hb.size)
    exact ⟨fun p hp hq => (hb.fittedAt hs ha hp hq).violationsAt_eq_nil_iff.1 (hall p hp),
      fun p hp _ => hall p hp⟩
  · rintro ⟨hundisturbed, hdisturbed⟩ p -
    rcases Nat.lt_or_ge p a.size with hp | hp
    · by_cases hq : Undisturbed a b p
      · exact (hb.fittedAt hs ha hp hq).violationsAt_eq_nil_iff.2 (hundisturbed p hp hq)
      · exact hdisturbed p hp hq
    -- a node that is new is a doc comment, and has no children to check
    · exact Arena.violationsAt_of_leaf (hb.leaf p hp)

/-- A tree in which every node with children is positioned. -/
def Positioned (a : Arena) : Prop :=
  ∀ i < a.size, a.entries i ≠ [] → (a.span i).isSet = true

instance : Decidable (Positioned a) :=
  inferInstanceAs (Decidable (∀ i < a.size, a.entries i ≠ [] → (a.span i).isSet = true))

theorem Positioned.isSet (h : Positioned a) {i : NodeId} (hi : a.entries i ≠ []) :
    (a.span i).isSet = true := by
  refine h i ?_ hi
  by_contra hge
  rw [Arena.entries, Arena.node_of_size_le (Nat.not_lt.1 hge)] at hi
  exact hi rfl

/-- Without doc comments every node with children is undisturbed in a tree
in which all of them are positioned. -/
theorem undisturbed_of_positioned {a₂ a₃ : Arena} (hs : Searched a a₁) (hd : Derived a₁ a₂)
    (hr : Resorted a₂ a₃) (ha : Positioned a) (hp : a.entries p ≠ []) : Undisturbed a a₃ p := by
  have hspan (i : NodeId) : a₃.span i = a₁.span i := by
    rw [hr.span]
    by_cases hleaf : a.entries i = []
    · exact hd.leaf i (hs.entries ▸ hleaf)
    · refine hd.kept i ?_
      rw [hs.kept i (ha.isSet hleaf)]
      exact ha.isSet hleaf
  refine ⟨(hspan p).trans (hs.kept p (ha.isSet hp)), ?_, fun c _ => ?_⟩
  · rw [Arena.children, Arena.children, List.length_map, List.length_map,
      (hr.entries p).length_eq, hd.entries, hs.entries]
  · rw [hspan c]
    by_cases hfound : a₁.span c = a.span c
    · exact Or.inl hfound
    have hunset : (a.span c).isSet = false := by
      by_contra hset
      exact hfound (hs.kept c (by simpa using hset))
    refine Or.inr ⟨hunset, ?_, ?_⟩
    · by_contra hsought
      exact hfound (hs.sought c (by simpa using hsought))
    · by_contra hchildren
      rw [ha.isSet hchildren] at hunset
      cases hunset

/-- **Reconciling alone changes nothing** about whether a tree is free of
violations, if its nodes with children are positioned before. -/
theorem violations_eq_nil_iff_of_positioned {a₂ a₃ : Arena} (hs : Searched a a₁)
    (hd : Derived a₁ a₂) (hr : Resorted a₂ a₃) (ha : Forest a [root])
    (hpositioned : Positioned a) :
    a₃.violations root = [] ↔ a.violations root = [] := by
  have hb : Completed root a a₁ a₃ :=
    .of_passes hs hd hr (Documented.refl (forest_of_passes ha hs hd hr))
  rw [violations_eq_nil_iff_of_forest ha, hb.violations_eq_nil_iff hs ha]
  constructor
  · rintro ⟨hundisturbed, -⟩ p hp
    by_cases hleaf : a.entries p = []
    · exact Arena.violationsAt_of_leaf (by rw [Arena.children, hleaf, List.map_nil])
    · exact hundisturbed p hp (undisturbed_of_positioned hs hd hr hpositioned hleaf)
  · intro h
    refine ⟨fun p hp _ => h p hp, fun p hp hdisturbed => ?_⟩
    have hleaf : a.entries p = [] := by
      by_contra hchildren
      exact hdisturbed (undisturbed_of_positioned hs hd hr hpositioned hchildren)
    have hnone : a₃.entries p = [] := by
      have hperm := hr.entries p
      rw [hd.entries, hs.entries, hleaf] at hperm
      exact hperm.eq_nil
    exact Arena.violationsAt_of_leaf (by rw [Arena.children, hnone, List.map_nil])

end Completion

open Completion in
/-- Where violations come from, for any foreign tree. -/
theorem violations_resolveParsed_iff {settings : Settings} {file : String} {source : Source}
    {parsed : ForeignUnit} {u : CompilationUnit} {c : ConvertedUnit}
    (hconverted : convert source settings.level parsed.root = .ok c)
    (hresolved : resolveParsed settings file source parsed = .ok u) :
    (u.arena.violations u.root = [] ↔
      (∀ p < c.arena.size, Undisturbed c.arena u.arena p → c.arena.violationsAt p = []) ∧
        ∀ p < c.arena.size, ¬ Undisturbed c.arena u.arena p →
          u.arena.violationsAt p = []) ∧
      ((Lexical.comments source).filter Comment.isDoc = [] → Positioned c.arena →
        (u.arena.violations u.root = [] ↔ c.arena.violations c.root = [])) := by
  have hforest := (loose_of_convert hconverted).1
  unfold resolveParsed at hresolved
  rw [hconverted] at hresolved
  cases hresolved
  obtain ⟨a₁, a₂, hs, hd, hr⟩ := passes_reconcile hforest source (Lexical.comments source)
  have hdoc := documented_attachDocs (forest_of_passes hforest hs hd hr) source
    (Lexical.comments source)
  refine ⟨(Completed.of_passes hs hd hr hdoc).violations_eq_nil_iff hs hforest,
    fun hnone hpositioned => ?_⟩
  have hkept : (attachDocs source (Lexical.comments source) c.root
      (reconcile source (Lexical.comments source) c.root c.arena).2).2 =
        (reconcile source (Lexical.comments source) c.root c.arena).2 := attachDocs_of_no_doc hnone
  have hiff := violations_eq_nil_iff_of_positioned hs hd hr hforest hpositioned
  rw [← hkept] at hiff
  exact hiff

/-- Whether the spans of a concrete tree nest between two offsets and
siblings follow one another. -/
def Concrete.Node.isNested (low high : Nat) (n : Concrete.Node) : Bool :=
  decide (low ≤ n.start ∧ n.start ≤ n.stop ∧ n.stop ≤ high) &&
    decide (n.children.Pairwise fun c d => c.stop ≤ d.start) &&
    n.children.attach.all (fun c => isNested n.start n.stop c.1)
termination_by sizeOf n
decreasing_by exact Concrete.Node.sizeOf_lt_of_mem c.2

/-- A class `Account` with a method `f` that lacks its type, and so reads
as a constructor. A constructor gets the name of its class, and `Account`
reaches from the place of `f` into the body. -/
def misnamedConstructor : Input where
  file := "A.java"
  source := .ofString "class Account \x7b f() \x7b \x7d \x7d"
  tree :=
    .mk (.token "program") none true false false 0 25 [
      .mk .classDeclaration none true false false 0 25 [
        .mk (.token "class") none false false false 0 5 [],
        .mk .identifier (some .name) true false false 6 13 [],
        .mk .classBody (some .body) true false false 14 25 [
          .mk (.token "\x7b") none false false false 14 15 [],
          .mk .constructorDeclaration none true false false 16 23 [
            .mk .identifier (some .name) true false false 16 17 [],
            .mk .formalParameters (some .parameters) true false false 17 19 [
              .mk (.token "(") none false false false 17 18 [],
              .mk (.token ")") none false false false 18 19 []],
            .mk (.token "constructor_body") (some .body) true false false 20 23 [
              .mk (.token "\x7b") none false false false 20 21 [],
              .mk (.token "\x7d") none false false false 22 23 []]],
          .mk (.token "\x7d") none false false false 24 25 []]]]

end TreeBridge

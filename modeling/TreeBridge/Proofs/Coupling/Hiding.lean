import Mathlib.Data.List.Forall2
import TreeBridge.Proofs.Coupling.Runs
/-!
# A run that hides what types permit beside one that shows it

The run that shows more makes more nodes, so the same node gets another
id in it. The nodes of the run that hides, in the order of their ids, are
mapped to ids of the other run. A node and its image look alike, but the
image may have children that the types permit, which have no counterpart.
All that is made later keeps its image.
-/

namespace TreeBridge

namespace Conversion

open Unified (NodeId NodeKind Slot Node Child Arena Hangs)

/-- The ids of the foreign trees that a node came from. -/
def sourcesOf (origins : List (NodeId × ℕ)) (i : NodeId) : List ℕ :=
  (origins.filter fun o => o.1 == i).map (·.2)

theorem sourcesOf_append (os os' : List (NodeId × ℕ)) (i : NodeId) :
    sourcesOf (os ++ os') i = sourcesOf os i ++ sourcesOf os' i := by
  rw [sourcesOf, List.filter_append, List.map_append, sourcesOf, sourcesOf]

/-- A node that no origin is noted for came from nowhere. -/
theorem sourcesOf_eq_nil {os : List (NodeId × ℕ)} {i : NodeId} (h : ∀ o ∈ os, o.1 ≠ i) :
    sourcesOf os i = [] := by
  have hnone : os.filter (fun o => o.1 == i) = [] :=
    List.filter_eq_nil_iff.2 fun o ho => by simpa using h o ho
  rw [sourcesOf, hnone, List.map_nil]

/-- Origins are noted for nodes there are. -/
def BoundedOrigins (σ : State) : Prop :=
  ∀ o ∈ σ.origins, o.1 < σ.arena.size

theorem BoundedOrigins.grows {σ σ' : State} (h : BoundedOrigins σ) (hgrows : Grows σ σ') :
    BoundedOrigins σ' := by
  obtain ⟨noted, horigins, hnoted⟩ := hgrows.origins
  intro o ho
  rw [horigins] at ho
  rcases List.mem_append.1 ho with ho | ho
  · exact Nat.lt_of_lt_of_le (h o ho) hgrows.size_le
  · exact (hnoted o ho).2

theorem Grows.sourcesOf_eq {σ σ' : State} (h : Grows σ σ') {i : NodeId} (hi : i < σ.arena.size) :
    sourcesOf σ'.origins i = sourcesOf σ.origins i := by
  obtain ⟨noted, horigins, hnoted⟩ := h.origins
  have hnone : sourcesOf noted i = [] :=
    sourcesOf_eq_nil fun o ho => Nat.ne_of_gt (Nat.lt_of_lt_of_le hi (hnoted o ho).1)
  rw [horigins, sourcesOf_append, hnone, List.append_nil]

/-- Making a node notes an origin for it only. -/
theorem grows_made (σ : State) (kind : NodeKind) (span : Span) (source : Option ℕ) :
    Grows σ (σ.made kind span source) := by
  have hsize : (σ.made kind span source).arena.size = σ.arena.size + 1 :=
    Arena.size_alloc kind span
  refine ⟨by omega, _, rfl, fun o ho => ?_⟩
  obtain ⟨id, -, rfl⟩ := Option.map_eq_some_iff.1 (Option.mem_toList.1 ho)
  exact ⟨Nat.le_refl _, Nat.lt_of_lt_of_eq (Nat.lt_succ_self _) hsize.symm⟩

/-! ## Images -/

/-- The entries of a node that are not permitted types. -/
def unpermitted (children : List Child) : List Child :=
  children.filter fun c => c.slot != .permittedTypes

/-- What is shown though permitted types are not hangs from another slot. -/
theorem ne_permittedTypes {slot : Slot} (h : holdsPermitted slot = true → false = true) :
    slot ≠ .permittedTypes := by
  rintro rfl
  cases h rfl

/-- An entry and its image: the children hang from one slot. -/
def Paired (kept : List NodeId) (c d : Child) : Prop :=
  c.slot = d.slot ∧ kept[c.node]? = some d.node

/-- A node and its image say the same of themselves, but for permitted
types of the image and for their parents. -/
structure Matches (kept : List NodeId) (n m : Node) : Prop where
  kind : m.kind = n.kind
  span : m.span = n.span
  flags : m.flags = n.flags
  children : List.Forall₂ (Paired kept) n.children (unpermitted m.children)

/-- Every node of the first state has an image in the second, and no two
have the same. -/
structure Mirrors (kept : List NodeId) (σ τ : State) : Prop where
  length : kept.length = σ.arena.size
  nodup : kept.Nodup
  lt_size : ∀ j ∈ kept, j < τ.arena.size
  defaultFlags : τ.arena.defaultFlags = σ.arena.defaultFlags
  node : ∀ i j, kept[i]? = some j → Matches kept (σ.arena.node i) (τ.arena.node j)
  sources : ∀ i j, kept[i]? = some j → sourcesOf τ.origins j = sourcesOf σ.origins i
  bounded_left : BoundedOrigins σ
  bounded_right : BoundedOrigins τ

variable {kept kept' : List NodeId} {σ τ τ' : State} {i j c d : NodeId} {n m : Node}

/-- Images stay when others follow. -/
theorem getElem?_of_isPrefix (h : kept <+: kept') (hi : kept[i]? = some j) :
    kept'[i]? = some j := by
  obtain ⟨more, rfl⟩ := h
  obtain ⟨hlt, -⟩ := List.getElem?_eq_some_iff.1 hi
  rw [List.getElem?_append_left hlt, hi]

/-- The last image is that of the last node, and the others were there
before. -/
theorem getElem?_snoc {k : NodeId} (hi : (kept ++ [k])[i]? = some j) :
    kept[i]? = some j ∨ i = kept.length ∧ j = k := by
  rcases Nat.lt_trichotomy i kept.length with hlt | rfl | hgt
  · rw [List.getElem?_append_left hlt] at hi
    exact Or.inl hi
  · rw [List.getElem?_concat_length] at hi
    exact Or.inr ⟨rfl, (Option.some.inj hi).symm⟩
  · rw [List.getElem?_eq_none (by rw [List.length_append, List.length_singleton]; omega)] at hi
    cases hi

namespace Matches

theorem later (h : Matches kept n m) (hkept : kept <+: kept') : Matches kept' n m :=
  { h with
    children := h.children.imp fun _ _ hp => ⟨hp.1, getElem?_of_isPrefix hkept hp.2⟩ }

/-- Both get a child last. -/
theorem append {slot : Slot} (h : Matches kept n m) (hslot : slot ≠ .permittedTypes)
    (hc : kept[c]? = some d) :
    Matches kept { n with children := n.children ++ [⟨slot, c⟩] }
      { m with children := m.children ++ [⟨slot, d⟩] } := by
  have hkeep : unpermitted [⟨slot, d⟩] = [⟨slot, d⟩] :=
    List.filter_eq_self.2 fun e he => by simpa [List.mem_singleton.1 he] using hslot
  refine ⟨h.kind, h.span, h.flags, ?_⟩
  rw [unpermitted, List.filter_append, ← unpermitted, ← unpermitted, hkeep]
  exact List.rel_append h.children (.cons ⟨rfl, hc⟩ .nil)

/-- Both get a child first. -/
theorem cons {slot : Slot} (h : Matches kept n m) (hslot : slot ≠ .permittedTypes)
    (hc : kept[c]? = some d) :
    Matches kept { n with children := ⟨slot, c⟩ :: n.children }
      { m with children := ⟨slot, d⟩ :: m.children } := by
  have hkeep : unpermitted (⟨slot, d⟩ :: m.children) = ⟨slot, d⟩ :: unpermitted m.children :=
    List.filter_cons_of_pos (by simpa using hslot)
  refine ⟨h.kind, h.span, h.flags, ?_⟩
  rw [hkeep]
  exact .cons ⟨rfl, hc⟩ h.children

/-- Only the image gets children, which the types permit. -/
theorem hide {m' : Node} (h : Matches kept n m) (ids : List NodeId) (hkind : m'.kind = m.kind)
    (hspan : m'.span = m.span) (hflags : m'.flags = m.flags)
    (hchildren : m'.children = m.children ++ ids.map (⟨.permittedTypes, ·⟩)) :
    Matches kept n m' := by
  have hnone : unpermitted (ids.map (⟨.permittedTypes, ·⟩)) = [] :=
    List.filter_eq_nil_iff.2 fun e he => by
      obtain ⟨id, -, rfl⟩ := List.mem_map.1 he
      simp
  refine ⟨hkind.trans h.kind, hspan.trans h.span, hflags.trans h.flags, ?_⟩
  rw [hchildren, unpermitted, List.filter_append, ← unpermitted, ← unpermitted, hnone,
    List.append_nil]
  exact h.children

end Matches

namespace Mirrors

theorem initial : Mirrors [] State.initial State.initial where
  length := rfl
  nodup := List.nodup_nil
  lt_size _ hj := nomatch hj
  defaultFlags := rfl
  node _ _ hi := nomatch hi
  sources _ _ hi := nomatch hi
  bounded_left _ ho := nomatch ho
  bounded_right _ ho := nomatch ho

theorem lt_left (h : Mirrors kept σ τ) (hi : kept[i]? = some j) : i < σ.arena.size := by
  obtain ⟨hlt, -⟩ := List.getElem?_eq_some_iff.1 hi
  exact h.length ▸ hlt

theorem lt_right (h : Mirrors kept σ τ) (hi : kept[i]? = some j) : j < τ.arena.size :=
  h.lt_size j (List.mem_of_getElem? hi)

/-- No two nodes have the same image. -/
theorem left_unique (h : Mirrors kept σ τ) (hi : kept[i]? = some j) (hc : kept[c]? = some j) :
    i = c := by
  obtain ⟨hlt, -⟩ := List.getElem?_eq_some_iff.1 hi
  exact (List.getElem?_inj hlt h.nodup).1 (hi.trans hc.symm)

/-- The run that shows more makes no fewer nodes. -/
theorem size_le (h : Mirrors kept σ τ) : σ.arena.size ≤ τ.arena.size := by
  have hsub : kept ⊆ List.range τ.arena.size := fun j hj => List.mem_range.2 (h.lt_size j hj)
  have hlen := (List.subperm_of_subset h.nodup hsub).length_le
  rwa [h.length, List.length_range] at hlen

/-- **A node is changed together with its image.** -/
theorem modify {f g : Node → Node} (h : Mirrors kept σ τ) (hi : kept[i]? = some j)
    (hfg : ∀ n m, Matches kept n m → Matches kept (f n) (g m)) :
    Mirrors kept (σ.withArena fun a => a.modify i f) (τ.withArena fun a => a.modify j g) where
  length := h.length.trans (Arena.size_modify f).symm
  nodup := h.nodup
  lt_size k hk := Nat.lt_of_lt_of_eq (h.lt_size k hk) (Arena.size_modify g).symm
  defaultFlags := h.defaultFlags
  node i' j' hi' := by
    have hmatches := h.node i' j' hi'
    show Matches kept ((σ.arena.modify i f).node i') ((τ.arena.modify j g).node j')
    by_cases heq : i' = i
    · subst heq
      obtain rfl : j' = j := Option.some.inj (hi'.symm.trans hi)
      rw [Arena.node_modify_self f (h.lt_left hi), Arena.node_modify_self g (h.lt_right hi)]
      exact hfg _ _ hmatches
    · have hne : j' ≠ j := by
        rintro rfl
        exact heq (h.left_unique hi' hi)
      rwa [Arena.node_modify_of_ne f heq, Arena.node_modify_of_ne g hne]
  sources := h.sources
  bounded_left o ho := Nat.lt_of_lt_of_eq (h.bounded_left o ho) (Arena.size_modify f).symm
  bounded_right o ho := Nat.lt_of_lt_of_eq (h.bounded_right o ho) (Arena.size_modify g).symm

/-- A child gets its parent: nothing that an image must match. -/
theorem adopt (h : Mirrors kept σ τ) (hc : kept[c]? = some d) (i j : NodeId) :
    Mirrors kept (σ.withArena fun a => a.modify c fun n => { n with parent := some i })
      (τ.withArena fun a => a.modify d fun n => { n with parent := some j }) :=
  h.modify hc fun _ _ hm => ⟨hm.kind, hm.span, hm.flags, hm.children⟩

/-- A new node came from the tree that is noted for it. -/
theorem sourcesOf_made_self {kind : NodeKind} {span : Span} {source : Option ℕ}
    (hσ : BoundedOrigins σ) :
    sourcesOf (σ.made kind span source).origins σ.arena.size = source.toList := by
  have hnone : sourcesOf σ.origins σ.arena.size = [] :=
    sourcesOf_eq_nil fun o ho => Nat.ne_of_lt (hσ o ho)
  rw [State.made, sourcesOf_append, hnone, List.nil_append]
  cases source with
  | none => rfl
  | some id => simp [sourcesOf]

/-- **Two nodes are made together**, and the second is the image of the
first. -/
theorem made (h : Mirrors kept σ τ) (kind : NodeKind) (span : Span) (source : Option ℕ) :
    Mirrors (kept ++ [τ.arena.size]) (σ.made kind span source) (τ.made kind span source) where
  length := by
    rw [List.length_append, h.length]
    exact (Arena.size_alloc kind span).symm
  nodup := by
    refine List.nodup_append.2 ⟨h.nodup, List.nodup_singleton _, fun j hj k hk => ?_⟩
    rw [List.mem_singleton.1 hk]
    exact Nat.ne_of_lt (h.lt_size j hj)
  lt_size j hj := by
    show j < (τ.arena.alloc kind span).2.size
    rw [Arena.size_alloc]
    rcases List.mem_append.1 hj with hj | hj
    · exact Nat.lt_succ_of_lt (h.lt_size j hj)
    · exact Nat.lt_succ_of_le (Nat.le_of_eq (List.mem_singleton.1 hj))
  defaultFlags := h.defaultFlags
  node i j hi := by
    show Matches _ ((σ.arena.alloc kind span).2.node i) ((τ.arena.alloc kind span).2.node j)
    rcases getElem?_snoc hi with hi | ⟨hsize, rfl⟩
    · rw [Arena.node_alloc_of_lt kind span (h.lt_left hi),
        Arena.node_alloc_of_lt kind span (h.lt_right hi)]
      exact (h.node i j hi).later (List.prefix_append _ _)
    · rw [hsize, h.length, Arena.node_alloc_self, Arena.node_alloc_self]
      exact ⟨rfl, rfl, h.defaultFlags, .nil⟩
  sources i j hi := by
    rcases getElem?_snoc hi with hi | ⟨hsize, rfl⟩
    · rw [(grows_made σ kind span source).sourcesOf_eq (h.lt_left hi),
        (grows_made τ kind span source).sourcesOf_eq (h.lt_right hi), h.sources i j hi]
    · rw [hsize, h.length, sourcesOf_made_self h.bounded_left, sourcesOf_made_self h.bounded_right]
  bounded_left := h.bounded_left.grows (grows_made σ kind span source)
  bounded_right := h.bounded_right.grows (grows_made τ kind span source)

/-- **Permitted types hung in the second state only** leave every image
what it was. -/
theorem hide (h : Mirrors kept σ τ) (hi : kept[i]? = some j) {ids : List NodeId}
    (hhangs : Hangs j (ids.map (⟨.permittedTypes, ·⟩)) τ.arena τ'.arena) (hgrows : Grows τ τ') :
    Mirrors kept σ τ' where
  length := h.length
  nodup := h.nodup
  lt_size k hk := Nat.lt_of_lt_of_le (h.lt_size k hk) hgrows.size_le
  defaultFlags := hhangs.touches.defaultFlags.trans h.defaultFlags
  node i' j' hi' := by
    have hmatches := h.node i' j' hi'
    have hj' := h.lt_right hi'
    by_cases heq : j' = j
    · subst heq
      exact hmatches.hide ids (hhangs.touches.kind _ hj') hhangs.span hhangs.flags hhangs.entries
    · rwa [hhangs.touches.node j' hj' (by simpa using heq)]
  sources i' j' hi' := (hgrows.sourcesOf_eq (h.lt_right hi')).trans (h.sources i' j' hi')
  bounded_left := h.bounded_left
  bounded_right := h.bounded_right.grows hgrows

end Mirrors

/-! ## The coupling -/

/-- **A run that hides permitted types beside one that shows them.** -/
def Coupling.hiding : Coupling where
  Stage := List NodeId
  Later := (· <+: ·)
  Nodes kept i j := kept[i]? = some j
  States := Mirrors
  left := false
  right := true
  right_of_left h := nomatch h
  refl := List.prefix_refl
  trans := List.IsPrefix.trans
  later := getElem?_of_isPrefix
  make {kept σ τ} h kind span source := by
    refine ⟨kept ++ [τ.arena.size], List.prefix_append _ _, ?_, h.made kind span source⟩
    rw [← h.length]
    exact List.getElem?_concat_length
  hang h hi hc hslot := by
    have hslot := ne_permittedTypes hslot
    exact (h.adopt hc _ _).modify hi fun _ _ hm => hm.append hslot hc
  hangFirst h hi hc hslot := by
    have hslot := ne_permittedTypes hslot
    exact (h.adopt hc _ _).modify hi fun _ _ hm => hm.cons hslot hc
  flag h hi flags := h.modify hi fun _ _ hm =>
    ⟨hm.kind, hm.span, congrArg (· ||| flags) hm.flags, hm.children⟩
  place h hi span := h.modify hi fun _ _ hm => ⟨hm.kind, rfl, hm.flags, hm.children⟩
  hide _ _ h hi := ⟨h.lt_right hi, fun hhangs hgrows => h.hide hi hhangs hgrows⟩

end Conversion

end TreeBridge

import TreeBridge.Proofs.Unified.Checking
/-!
# Climbing to a root and walking a subtree

The parents of a node are followed until a node has none, and a subtree
is walked with a stack of the nodes still to come. Neither loop ends of
itself: links could run in a circle. In a forest both do. The chain of
parents is then the list of ancestors, and the walk with a stack lists
what the recursion over the children lists.
-/

namespace TreeBridge

namespace Unified

/-! ## Climbing -/

/-- Following parents from a node ends at a node without one, after the
nodes of a list. -/
inductive Climbs (a : Arena) : NodeId → List NodeId → Prop
  | root {i : NodeId} (h : a.parent i = none) : Climbs a i []
  | step {i p : NodeId} {above : List NodeId} (h : a.parent i = some p) (habove : Climbs a p above) :
      Climbs a i (p :: above)

namespace Climbs

variable {a : Arena} {i : NodeId} {above : List NodeId}

/-- A climb that is not higher than allowed is the list of ancestors. -/
theorem ancestorsWithin_eq (h : Climbs a i above) {height : ℕ} (hheight : above.length ≤ height) :
    a.ancestorsWithin height i = above := by
  induction h generalizing height with
  | root hnone =>
    cases height with
    | zero => rfl
    | succ height =>
      rw [Arena.ancestorsWithin, hnone]
  | step hparent _ ih =>
    cases height with
    | zero => cases hheight
    | succ height =>
      rw [Arena.ancestorsWithin, hparent]
      exact congrArg _ (ih (Nat.le_of_succ_le_succ hheight))

/-- There is one way up. -/
theorem unique {above' : List NodeId} (h : Climbs a i above) (h' : Climbs a i above') :
    above = above' := by
  rw [← h.ancestorsWithin_eq (Nat.le_max_left above.length above'.length),
    h'.ancestorsWithin_eq (Nat.le_max_right above.length above'.length)]

end Climbs

/-- From every node of a grove one climbs through nodes of the grove to
what is above its roots. -/
theorem Grove.exists_climbs {a : Arena} {parent : Option NodeId} {roots ids top : List NodeId}
    (h : Grove a parent roots ids) (htop : ∀ i, a.parent i = parent → Climbs a i top) {i : NodeId}
    (hi : i ∈ ids) : ∃ inner, Climbs a i (inner ++ top) ∧ inner.length < ids.length := by
  induction h generalizing top with
  | nil => cases hi
  | @cons parent id rest below others hid hbelow hrest ihbelow ihrest =>
    rw [List.length_cons, List.length_append]
    rcases List.mem_cons.1 hi with rfl | hi
    · exact ⟨[], htop i hid, by simp⟩
    rcases List.mem_append.1 hi with hi | hi
    · -- below the root the climb goes on with the root itself
      obtain ⟨inner, hclimbs, hlength⟩ := ihbelow (fun j hj => .step hj (htop id hid)) hi
      refine ⟨inner ++ [id], ?_, ?_⟩
      · rwa [List.append_assoc, List.singleton_append]
      · rw [List.length_append, List.length_singleton]
        omega
    · obtain ⟨inner, hclimbs, hlength⟩ := ihrest htop hi
      exact ⟨inner, hclimbs, by omega⟩

/-! ## Walking with a stack -/

/-- A walk takes the next node off a stack and puts its children in its
place, until nothing is left; it lists the nodes in the order in which it
takes them. -/
inductive Walks (a : Arena) : List NodeId → List NodeId → Prop
  | done : Walks a [] []
  | next {i : NodeId} {stack visited : List NodeId} (h : Walks a (a.children i ++ stack) visited) :
      Walks a (i :: stack) (i :: visited)

/-- The walk over a grove lists the grove, then what else is on the
stack. -/
theorem Grove.walks {a : Arena} {parent : Option NodeId} {roots ids stack visited : List NodeId}
    (h : Grove a parent roots ids) (hstack : Walks a stack visited) :
    Walks a (roots ++ stack) (ids ++ visited) := by
  induction h generalizing stack visited with
  | nil => exact hstack
  | cons _ _ _ ihbelow ihrest =>
    rw [List.cons_append, List.cons_append, List.append_assoc]
    exact .next (ihbelow (ihrest hstack))

namespace Forest

variable {a : Arena} {roots : List NodeId} {root i : NodeId}

/-- **In a forest the ancestors are all there is above a node.** -/
theorem climbs_ancestors (h : Forest a roots) (i : NodeId) : Climbs a i (a.ancestors i) := by
  rcases Nat.lt_or_ge i a.size with hi | hi
  · obtain ⟨ids, hgrove, hperm⟩ := h
    have hmem : i ∈ ids := hperm.mem_iff.2 (List.mem_range.2 hi)
    obtain ⟨inner, hclimbs, hlength⟩ := hgrove.exists_climbs (fun _ hj => .root hj) hmem
    rw [List.append_nil] at hclimbs
    rw [hperm.length_eq, Arena.ids, List.length_range] at hlength
    rw [Arena.ancestors, hclimbs.ancestorsWithin_eq (Nat.le_of_lt hlength)]
    exact hclimbs
  · have hclimbs : Climbs a i [] := .root (Arena.parent_of_size_le hi)
    rw [Arena.ancestors, hclimbs.ancestorsWithin_eq (Nat.zero_le _)]
    exact hclimbs

theorem ancestors_of_parent (h : Forest a roots) {p : NodeId} (hp : a.parent i = some p) :
    a.ancestors i = p :: a.ancestors p :=
  (h.climbs_ancestors i).unique (.step hp (h.climbs_ancestors p))

/-- A node is reached from another one if that is itself or an ancestor. -/
theorem reaches_iff (h : Forest a roots) :
    a.Reaches root i ↔ i = root ∨ root ∈ a.ancestors i := by
  constructor
  · intro hreach
    induction hreach with
    | root => exact Or.inl rfl
    | @child p c _ hc ih =>
      rw [h.ancestors_of_parent (h.mem_children_iff.1 hc), List.mem_cons]
      exact Or.inr (ih.imp_left Eq.symm)
  · rintro (rfl | hmem)
    · exact .root
    -- going up from the node, the other one comes by at some step
    have hclimbs := h.climbs_ancestors i
    generalize a.ancestors i = above at hclimbs hmem
    induction hclimbs with
    | root => cases hmem
    | @step i p above hparent _ ih =>
      have hchild : i ∈ a.children p := h.mem_children_iff.2 hparent
      rcases List.mem_cons.1 hmem with rfl | hmem
      · exact .child .root hchild
      · exact .child (ih hmem) hchild

end Forest

/-! ## Both in a forest -/

/-- **An arena whose links can be followed.** A node is listed once by its
parent and by no other node; the parents of every node come to an end,
which makes them its ancestors; and from every node the walk with a stack
comes to an end too, and lists what the recursion over the children lists,
each node of the subtree once. -/
structure WellLinked (a : Arena) : Prop where
  count_children : ∀ p c, (a.children p).count c = if a.parent c = some p then 1 else 0
  climbs : ∀ i, Climbs a i (a.ancestors i)
  walks : ∀ root < a.size, Walks a [root] (a.preorder root)
  preorder_eq : ∀ root < a.size, a.preorder root = root :: (a.children root).flatMap a.preorder
  mem_preorder_iff : ∀ root < a.size, ∀ i, i ∈ a.preorder root ↔ i = root ∨ root ∈ a.ancestors i
  nodup_preorder : ∀ root < a.size, (a.preorder root).Nodup

theorem Forest.wellLinked {a : Arena} {roots : List NodeId} (h : Forest a roots) :
    WellLinked a where
  count_children := h.count_children
  climbs := h.climbs_ancestors
  walks root hroot := by
    obtain ⟨below, hpreorder, hbelow, -⟩ := h.exists_preorder_eq hroot
    have hwalks := (Grove.single rfl hbelow).walks Walks.done
    rwa [List.append_nil, List.append_nil, ← hpreorder] at hwalks
  preorder_eq root hroot := by
    obtain ⟨below, hpreorder, hbelow, -, hlength⟩ := h.exists_preorder_eq hroot
    have hchildren := hbelow.flatMap_preorderWithin (Nat.le_of_lt hlength)
    rw [hpreorder]
    exact congrArg (root :: ·) hchildren.symm
  mem_preorder_iff root hroot i := (h.mem_preorder_iff hroot).trans h.reaches_iff
  nodup_preorder root hroot := by
    obtain ⟨below, hpreorder, -, hnodup, -⟩ := h.exists_preorder_eq hroot
    rwa [hpreorder]

end Unified

end TreeBridge

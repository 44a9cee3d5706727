import TreeBridge.Proofs.Unified.Arena
/-!
# What a step touches

A step from one arena to another takes some nodes, the only ones of those
there were that it may change, and leaves some: nodes it took, or nodes
it made. It makes nodes but removes none, and what kind a node is it
never changes. Steps of this form compose, and other nodes lie beside
them as they were.
-/

namespace TreeBridge

namespace Unified

/-- The step from `a` to `b` changes no node of `a` but those in `pre`,
and the nodes in `post` are from `pre` or new. -/
structure Touches (pre post : List NodeId) (a b : Arena) : Prop where
  size_le : a.size ≤ b.size
  defaultFlags : b.defaultFlags = a.defaultFlags
  kind : ∀ i < a.size, b.kind i = a.kind i
  node : ∀ i < a.size, i ∉ pre → b.node i = a.node i
  left : ∀ i ∈ post, i ∈ pre ∨ a.size ≤ i ∧ i < b.size

namespace Touches

variable {pre mid post : List NodeId} {a b c : Arena} {i : NodeId}

theorem refl (pre : List NodeId) (a : Arena) : Touches pre pre a a :=
  ⟨Nat.le_refl _, rfl, fun _ _ => rfl, fun _ _ _ => rfl, fun _ => Or.inl⟩

theorem trans (h : Touches pre mid a b) (h' : Touches mid post b c) : Touches pre post a c where
  size_le := Nat.le_trans h.size_le h'.size_le
  defaultFlags := h'.defaultFlags.trans h.defaultFlags
  kind i hi := (h'.kind i (Nat.lt_of_lt_of_le hi h.size_le)).trans (h.kind i hi)
  node i hi hpre := by
    -- what the first step leaves of its own making is too new to be `i`
    have hmid : i ∉ mid := fun hm => by
      rcases h.left i hm with hp | ⟨hle, -⟩
      · exact hpre hp
      · omega
    rw [h'.node i (Nat.lt_of_lt_of_le hi h.size_le) hmid, h.node i hi hpre]
  left i hi := by
    rcases h'.left i hi with hm | ⟨hle, hlt⟩
    · rcases h.left i hm with hp | ⟨hle, hlt⟩
      · exact Or.inl hp
      · exact Or.inr ⟨hle, Nat.lt_of_lt_of_le hlt h'.size_le⟩
    · exact Or.inr ⟨Nat.le_trans h.size_le hle, hlt⟩

/-- More may be taken, and not all that is left need be known. -/
theorem mono {pre' post' : List NodeId} (h : Touches pre post a b) (hpre : pre ⊆ pre')
    (hpost : ∀ i ∈ post', i ∈ post ∨ i ∈ pre') : Touches pre' post' a b where
  size_le := h.size_le
  defaultFlags := h.defaultFlags
  kind := h.kind
  node i hi hi' := h.node i hi fun hp => hi' (hpre hp)
  left i hi := by
    rcases hpost i hi with hp | hp
    · exact (h.left i hp).imp_left fun hq => hpre hq
    · exact Or.inl hp

/-- Other nodes lie beside a step. -/
theorem frame (h : Touches pre post a b) (more : List NodeId) :
    Touches (pre ++ more) (post ++ more) a b :=
  h.mono (List.subset_append_left pre more) fun _ hi =>
    (List.mem_append.1 hi).imp_right fun hm => List.mem_append_right pre hm

/-- What there was and was not taken keeps its entries, too. -/
theorem entries (h : Touches pre post a b) (hi : i < a.size) (hpre : i ∉ pre) :
    b.entries i = a.entries i := by
  rw [Arena.entries, h.node i hi hpre, Arena.entries]

/-! ## The operations of an arena -/

theorem alloc (kind : NodeKind) (span : Span) :
    Touches [] [(a.alloc kind span).1] a (a.alloc kind span).2 where
  size_le := by rw [Arena.size_alloc]; omega
  defaultFlags := rfl
  kind i hi := by rw [Arena.kind, Arena.node_alloc_of_lt kind span hi, Arena.kind]
  node i hi _ := Arena.node_alloc_of_lt kind span hi
  left i hi := by
    obtain rfl : i = a.size := List.mem_singleton.1 hi
    rw [Arena.size_alloc]
    exact Or.inr ⟨Nat.le_refl _, Nat.lt_succ_self _⟩

/-- Changing a node that was taken, but not its kind. -/
theorem modify {f : Node → Node} (hf : ∀ n, (f n).kind = n.kind) (hi : i ∈ pre) :
    Touches pre pre a (a.modify i f) where
  size_le := Nat.le_of_eq (Arena.size_modify f).symm
  defaultFlags := rfl
  kind j _ := congrFun (Arena.kind_modify hf) j
  node _ _ hj := Arena.node_modify_of_ne f fun h => hj (h ▸ hi)
  left _ := Or.inl

/-- Attaching one node to another takes both and leaves the owner. -/
theorem addChild (owner : NodeId) (slot : Slot) (child : NodeId) :
    Touches [owner, child] [owner] a (a.addChild owner slot child) := by
  have hchild : child ∈ [owner, child] := by simp
  have howner : owner ∈ [owner, child] := by simp
  have h : Touches [owner, child] [owner, child] a (a.addChild owner slot child) := by
    unfold Arena.addChild
    refine (modify ?_ hchild).trans (modify ?_ howner) <;> exact fun _ => rfl
  exact h.mono (fun _ => id) fun i hi => Or.inl (by simp [List.mem_singleton.1 hi])

theorem addChildFirst (owner : NodeId) (slot : Slot) (child : NodeId) :
    Touches [owner, child] [owner] a (a.addChildFirst owner slot child) := by
  have hchild : child ∈ [owner, child] := by simp
  have howner : owner ∈ [owner, child] := by simp
  have h : Touches [owner, child] [owner, child] a (a.addChildFirst owner slot child) := by
    unfold Arena.addChildFirst
    refine (modify ?_ hchild).trans (modify ?_ howner) <;> exact fun _ => rfl
  exact h.mono (fun _ => id) fun i hi => Or.inl (by simp [List.mem_singleton.1 hi])

end Touches

end Unified

end TreeBridge

import TreeBridge.Proofs.Unified.Arena
/-!
# Arenas that grow

While a tree is put together, nodes are made and children are hung below
them. Nothing is taken back: a node keeps its kind and its children, and
what comes to stand before them are annotations at most. So what has been
read off a finished node can be read off it later.
-/

namespace TreeBridge

namespace Unified

/-- From `a` to `b` there are more nodes, and nodes have more children.
Only annotations come to stand before the children there were. -/
structure Enlarges (a b : Arena) : Prop where
  size_le : a.size ≤ b.size
  kind : ∀ i < a.size, b.kind i = a.kind i
  entries : ∀ i < a.size, ∃ before after, b.entries i = before ++ a.entries i ++ after ∧
    ∀ c ∈ before, c.slot = .annotations

namespace Enlarges

variable {a b c : Arena} {i child : NodeId} {slot : Slot}

theorem refl (a : Arena) : Enlarges a a :=
  ⟨Nat.le_refl _, fun _ _ => rfl, fun _ _ => ⟨[], [], by simp, by simp⟩⟩

theorem trans (h : Enlarges a b) (h' : Enlarges b c) : Enlarges a c where
  size_le := Nat.le_trans h.size_le h'.size_le
  kind i hi := (h'.kind i (Nat.lt_of_lt_of_le hi h.size_le)).trans (h.kind i hi)
  entries i hi := by
    obtain ⟨before, after, heq, hbefore⟩ := h.entries i hi
    obtain ⟨before', after', heq', hbefore'⟩ := h'.entries i (Nat.lt_of_lt_of_le hi h.size_le)
    refine ⟨before' ++ before, after ++ after', ?_, List.forall_mem_append.2 ⟨hbefore', hbefore⟩⟩
    simp only [heq', heq, List.append_assoc]

/-! ## The operations of an arena -/

theorem alloc (kind : NodeKind) (span : Span) : Enlarges a (a.alloc kind span).2 where
  size_le := by rw [Arena.size_alloc]; omega
  kind i hi := by rw [Arena.kind, Arena.node_alloc_of_lt kind span hi, Arena.kind]
  entries i hi := by
    refine ⟨[], [], ?_, by simp⟩
    rw [Arena.entries, Arena.node_alloc_of_lt kind span hi, Arena.entries]
    simp

/-- Changing a node, but not its kind and its children. -/
theorem modify {f : Node → Node} (hk : ∀ n, (f n).kind = n.kind)
    (hc : ∀ n, (f n).children = n.children) : Enlarges a (a.modify i f) where
  size_le := Nat.le_of_eq (Arena.size_modify f).symm
  kind j _ := congrFun (Arena.kind_modify hk) j
  entries j _ := ⟨[], [], by rw [Arena.entries_modify hc]; simp, by simp⟩

theorem addChild (owner : NodeId) (slot : Slot) (child : NodeId) :
    Enlarges a (a.addChild owner slot child) where
  size_le := Nat.le_of_eq Arena.size_addChild.symm
  kind i _ := congrFun Arena.kind_addChild i
  entries i hi := by
    by_cases h : i = owner
    · subst h
      exact ⟨[], _, Arena.entries_addChild_self hi, by simp⟩
    · exact ⟨[], [], by simp [Arena.entries_addChild_of_ne h], by simp⟩

theorem addChildFirst (owner child : NodeId) :
    Enlarges a (a.addChildFirst owner .annotations child) where
  size_le := Nat.le_of_eq Arena.size_addChildFirst.symm
  kind i _ := congrFun Arena.kind_addChildFirst i
  entries i hi := by
    by_cases h : i = owner
    · subst h
      exact ⟨[⟨.annotations, child⟩], [], by simp [Arena.entries_addChildFirst_self hi], by simp⟩
    · exact ⟨[], [], by simp [Arena.entries_addChildFirst_of_ne h], by simp⟩

/-! ## What can be read later -/

/-- What has a child in a slot has it later. -/
theorem mem_list (h : Enlarges a b) (hchild : child ∈ a.list i slot) : child ∈ b.list i slot := by
  rcases Nat.lt_or_ge i a.size with hi | hi
  · obtain ⟨before, after, heq, -⟩ := h.entries i hi
    rw [Arena.list, heq, List.filter_append, List.filter_append, List.map_append, List.map_append]
    exact List.mem_append_left _ (List.mem_append_right _ hchild)
  · rw [Arena.list, Arena.entries, Arena.node_of_size_le hi] at hchild
    cases hchild

/-- The first child in a slot is later the first, too, but for
annotations. -/
theorem child?_eq_some (h : Enlarges a b) (hslot : slot ≠ .annotations)
    (hchild : a.child? i slot = some child) : b.child? i slot = some child := by
  obtain ⟨e, he, rfl⟩ := Option.map_eq_some_iff.1 hchild
  rcases Nat.lt_or_ge i a.size with hi | hi
  · obtain ⟨before, after, heq, hbefore⟩ := h.entries i hi
    have hnone : before.find? (fun c => c.slot == slot) = none := by
      refine List.find?_eq_none.2 fun c hc => ?_
      rw [hbefore c hc, beq_iff_eq]
      exact hslot.symm
    rw [Arena.child?, heq, List.find?_append, List.find?_append, hnone, he]
    rfl
  · rw [Arena.entries, Arena.node_of_size_le hi] at he
    cases he

theorem identifier?_eq_some (h : Enlarges a b) {s : String} (hs : a.identifier? i = some s) :
    b.identifier? i = some s := by
  rcases Nat.lt_or_ge i a.size with hi | hi
  · rw [Arena.identifier?, h.kind i hi]
    exact hs
  · rw [Arena.identifier?, Arena.kind, Arena.node_of_size_le hi] at hs
    cases hs

end Enlarges

end Unified

end TreeBridge

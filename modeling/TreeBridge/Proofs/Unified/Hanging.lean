import TreeBridge.Proofs.Unified.Footprint
/-!
# Children that are hung one after the other

While children are hung below one node, that node only gets more entries,
and what other nodes say about themselves stays. The children are made on
the way, so they are newer than everything that was there before.
-/

namespace TreeBridge

namespace Unified

/-- A node says the same of itself in two arenas; its parent does not
count. -/
structure Alike (i : NodeId) (a b : Arena) : Prop where
  kind : b.kind i = a.kind i
  span : b.span i = a.span i
  flags : b.flags i = a.flags i
  entries : b.entries i = a.entries i

/-- Every node of `a` but one says the same of itself in `b`. -/
structure LeavesOthers (owner : NodeId) (a b : Arena) : Prop where
  size_le : a.size ≤ b.size
  defaultFlags : b.defaultFlags = a.defaultFlags
  alike : ∀ i < a.size, i ≠ owner → Alike i a b

/-- From `a` to `b` a node gets further entries, for nodes that are new,
and no other node of `a` changes. -/
structure Hangs (owner : NodeId) (new : List Child) (a b : Arena) : Prop where
  touches : Touches [owner] [owner] a b
  span : b.span owner = a.span owner
  flags : b.flags owner = a.flags owner
  entries : b.entries owner = a.entries owner ++ new
  fresh : ∀ c ∈ new, a.size ≤ c.node ∧ c.node < b.size

/-- From `a` to `b` a node gets further entries, but none in a slot. -/
def HangsBeside (slot : Slot) (owner : NodeId) (a b : Arena) : Prop :=
  ∃ new, Hangs owner new a b ∧ ∀ c ∈ new, c.slot ≠ slot

namespace Alike

variable {i : NodeId} {a b c : Arena}

theorem refl (i : NodeId) (a : Arena) : Alike i a a :=
  ⟨rfl, rfl, rfl, rfl⟩

theorem trans (h : Alike i a b) (h' : Alike i b c) : Alike i a c :=
  ⟨h'.kind.trans h.kind, h'.span.trans h.span, h'.flags.trans h.flags,
    h'.entries.trans h.entries⟩

theorem of_node_eq (h : b.node i = a.node i) : Alike i a b := by
  refine ⟨?_, ?_, ?_, ?_⟩
  · rw [Arena.kind, h, Arena.kind]
  · rw [Arena.span, h, Arena.span]
  · rw [Arena.flags, h, Arena.flags]
  · rw [Arena.entries, h, Arena.entries]

/-- Attaching a node changes what its owner says of itself only. -/
theorem addChild {owner child : NodeId} {slot : Slot} (h : i ≠ owner) :
    Alike i a (a.addChild owner slot child) :=
  ⟨congrFun Arena.kind_addChild i, congrFun Arena.span_addChild i,
    congrFun Arena.flags_addChild i, Arena.entries_addChild_of_ne h⟩

theorem list_eq (h : Alike i a b) (slot : Slot) : b.list i slot = a.list i slot := by
  rw [Arena.list, h.entries, Arena.list]

theorem child?_eq (h : Alike i a b) (slot : Slot) : b.child? i slot = a.child? i slot := by
  rw [Arena.child?, h.entries, Arena.child?]

theorem identifier?_eq (h : Alike i a b) : b.identifier? i = a.identifier? i := by
  rw [Arena.identifier?, h.kind, Arena.identifier?]

end Alike

namespace LeavesOthers

variable {owner : NodeId} {a b c : Arena}

theorem refl (owner : NodeId) (a : Arena) : LeavesOthers owner a a :=
  ⟨Nat.le_refl _, rfl, fun i _ _ => Alike.refl i a⟩

theorem trans (h : LeavesOthers owner a b) (h' : LeavesOthers owner b c) :
    LeavesOthers owner a c where
  size_le := Nat.le_trans h.size_le h'.size_le
  defaultFlags := h'.defaultFlags.trans h.defaultFlags
  alike i hi hne :=
    (h.alike i hi hne).trans (h'.alike i (Nat.lt_of_lt_of_le hi h.size_le) hne)

/-- A step that takes nothing, or the one node, spares all others. -/
theorem of_touches {pre post : List NodeId} (h : Touches pre post a b)
    (hpre : ∀ i ∈ pre, i = owner) : LeavesOthers owner a b :=
  ⟨h.size_le, h.defaultFlags, fun i hi hne =>
    Alike.of_node_eq (h.node i hi fun hp => hne (hpre i hp))⟩

theorem addChild (owner : NodeId) (slot : Slot) (child : NodeId) :
    LeavesOthers owner a (a.addChild owner slot child) :=
  ⟨Nat.le_of_eq Arena.size_addChild.symm, rfl, fun _ _ hne => Alike.addChild hne⟩

end LeavesOthers

namespace Hangs

variable {owner : NodeId} {new new' : List Child} {a b c : Arena}

theorem nil (owner : NodeId) (a : Arena) : Hangs owner [] a a :=
  ⟨Touches.refl _ a, rfl, rfl, (List.append_nil _).symm, by simp⟩

theorem trans (h : Hangs owner new a b) (h' : Hangs owner new' b c) :
    Hangs owner (new ++ new') a c where
  touches := h.touches.trans h'.touches
  span := h'.span.trans h.span
  flags := h'.flags.trans h.flags
  entries := by rw [h'.entries, h.entries, List.append_assoc]
  fresh i hi := by
    have hbc : b.size ≤ c.size := h'.touches.size_le
    rcases List.mem_append.1 hi with hi | hi
    · obtain ⟨hle, hlt⟩ := h.fresh i hi
      exact ⟨hle, Nat.lt_of_lt_of_le hlt hbc⟩
    · obtain ⟨hle, hlt⟩ := h'.fresh i hi
      exact ⟨Nat.le_trans h.touches.size_le hle, hlt⟩

theorem leavesOthers (h : Hangs owner new a b) : LeavesOthers owner a b :=
  LeavesOthers.of_touches h.touches fun _ hi => List.mem_singleton.1 hi

/-- A step that takes nothing hangs nothing. -/
theorem of_touches {post : List NodeId} (h : Touches [] post a b) (howner : owner < a.size) :
    Hangs owner [] a b := by
  have hnode : b.node owner = a.node owner := h.node owner howner (by simp)
  refine ⟨h.mono (List.nil_subset _) fun i hi => Or.inr hi, ?_, ?_, ?_, by simp⟩
  · rw [Arena.span, hnode, Arena.span]
  · rw [Arena.flags, hnode, Arena.flags]
  · rw [Arena.entries, hnode, Arena.entries, List.append_nil]

/-- Hanging a node that a step has made just before. -/
theorem attach {child : NodeId} (h : Touches [] [child] a b) (howner : owner < a.size)
    (slot : Slot) : Hangs owner [⟨slot, child⟩] a (b.addChild owner slot child) := by
  have hchild : a.size ≤ child ∧ child < b.size := by
    rcases h.left child (List.mem_singleton_self child) with hm | hnew
    · cases hm
    · exact hnew
  have howner' : owner < b.size := Nat.lt_of_lt_of_le howner h.size_le
  have hnode : b.node owner = a.node owner := h.node owner howner (by simp)
  have hstep : Touches [owner, child] [owner] b (b.addChild owner slot child) :=
    Touches.addChild owner slot child
  refine ⟨?_, ?_, ?_, ?_, fun c hc => ?_⟩
  · refine (h.frame [owner]).trans (hstep.mono (fun i hi => ?_) fun _ => Or.inl)
    simpa [or_comm] using hi
  · rw [congrFun Arena.span_addChild owner, Arena.span, hnode, Arena.span]
  · rw [congrFun Arena.flags_addChild owner, Arena.flags, hnode, Arena.flags]
  · rw [Arena.entries_addChild_self howner', Arena.entries, hnode, Arena.entries]
  · obtain rfl := List.mem_singleton.1 hc
    rw [Arena.size_addChild]
    exact hchild

/-- The children in a slot are those there were, then the new ones. -/
theorem list_eq (h : Hangs owner new a b) (slot : Slot) :
    b.list owner slot =
      a.list owner slot ++ (new.filter (fun c => c.slot == slot)).map (·.node) := by
  rw [Arena.list, h.entries, List.filter_append, List.map_append, Arena.list]

theorem list_of_slot {slot : Slot} {ids : List NodeId}
    (h : Hangs owner (ids.map (⟨slot, ·⟩)) a b) :
    b.list owner slot = a.list owner slot ++ ids := by
  have hall : (ids.map fun i => (⟨slot, i⟩ : Child)).filter (fun c => c.slot == slot) =
      ids.map (⟨slot, ·⟩) := by
    refine List.filter_eq_self.2 fun c hc => ?_
    obtain ⟨i, -, rfl⟩ := List.mem_map.1 hc
    exact beq_self_eq_true slot
  rw [h.list_eq, hall, List.map_map]
  exact congrArg _ (List.map_id ids)

end Hangs

namespace HangsBeside

variable {slot : Slot} {owner : NodeId} {a b c : Arena}

theorem refl (slot : Slot) (owner : NodeId) (a : Arena) : HangsBeside slot owner a a :=
  ⟨[], Hangs.nil owner a, by simp⟩

theorem trans (h : HangsBeside slot owner a b) (h' : HangsBeside slot owner b c) :
    HangsBeside slot owner a c := by
  obtain ⟨new, hnew, hslot⟩ := h
  obtain ⟨new', hnew', hslot'⟩ := h'
  exact ⟨new ++ new', hnew.trans hnew', List.forall_mem_append.2 ⟨hslot, hslot'⟩⟩

theorem touches (h : HangsBeside slot owner a b) : Touches [owner] [owner] a b := by
  obtain ⟨new, hnew, -⟩ := h
  exact hnew.touches

/-- A further step, at a node that is still there. -/
theorem andThen (h : HangsBeside slot owner a b) (howner : owner < a.size)
    (hstep : owner < b.size → HangsBeside slot owner b c) : HangsBeside slot owner a c :=
  h.trans (hstep (Nat.lt_of_lt_of_le howner h.touches.size_le))

theorem flags (h : HangsBeside slot owner a b) : b.flags owner = a.flags owner := by
  obtain ⟨new, hnew, -⟩ := h
  exact hnew.flags

/-- The slot looks as it did. -/
theorem list_eq (h : HangsBeside slot owner a b) : b.list owner slot = a.list owner slot := by
  obtain ⟨new, hnew, hslot⟩ := h
  have hnone : new.filter (fun c => c.slot == slot) = [] := by
    refine List.filter_eq_nil_iff.2 fun c hc => ?_
    rw [beq_iff_eq]
    exact hslot c hc
  rw [hnew.list_eq, hnone, List.map_nil, List.append_nil]

end HangsBeside

end Unified

end TreeBridge

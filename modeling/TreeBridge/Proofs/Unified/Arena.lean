import Mathlib.Data.List.Nodup
import TreeBridge.Unified.Arena
/-!
# Reading a changed arena

What the operations of an arena do to the parent and the children of
every node. Nothing else about them is needed to follow how a tree is put
together: a change of kind, span or flags reads as no change here.
-/

namespace TreeBridge

namespace Unified

namespace Arena

variable {a : Arena} {id i : NodeId}

/-- An id that addresses no node reads as a node of its own. -/
theorem node_of_size_le (h : a.size ≤ i) : a.node i = default := by
  unfold node
  rw [Array.getD_eq_getD_getElem?, Array.getElem?_eq_none (by simpa [size] using h)]
  rfl

theorem parent_of_size_le (h : a.size ≤ i) : a.parent i = none := by
  unfold parent
  rw [node_of_size_le h]
  rfl

theorem span_of_size_le (h : a.size ≤ i) : a.span i = .unset := by
  unfold span
  rw [node_of_size_le h]
  rfl

theorem children_of_size_le (h : a.size ≤ i) : a.children i = [] := by
  unfold children entries
  rw [node_of_size_le h]
  rfl

/-- What has a child is a node. -/
theorem lt_size_of_mem_children {c : NodeId} (hc : c ∈ a.children i) : i < a.size := by
  rcases Nat.lt_or_ge i a.size with hlt | hge
  · exact hlt
  · rw [children_of_size_le hge] at hc
    cases hc

theorem child?_eq_head? (slot : Slot) : a.child? id slot = (a.list id slot).head? := by
  rw [child?, list, List.head?_map, List.head?_filter]

theorem mem_children_of_child? {slot : Slot} {c : NodeId} (h : a.child? id slot = some c) :
    c ∈ a.children id := by
  obtain ⟨entry, hentry, rfl⟩ := Option.map_eq_some_iff.1 h
  exact List.mem_map_of_mem (List.mem_of_find?_eq_some hentry)

theorem mem_list_iff {slot : Slot} {c : NodeId} :
    c ∈ a.list id slot ↔ ⟨slot, c⟩ ∈ a.entries id := by
  rw [list, List.mem_map]
  constructor
  · rintro ⟨entry, hentry, rfl⟩
    obtain ⟨hmem, hslot⟩ := List.mem_filter.1 hentry
    obtain rfl := eq_of_beq hslot
    exact hmem
  · intro hmem
    exact ⟨⟨slot, c⟩, List.mem_filter.2 ⟨hmem, beq_self_eq_true slot⟩, rfl⟩

/-- A child that is listed once hangs from the slot of its entry. -/
theorem location?_eq_some_iff_of_nodup {p c : NodeId} (hnodup : (a.children p).Nodup)
    (hparent : a.parent c = some p) {slot : Slot} :
    a.location? c = some slot ↔ ⟨slot, c⟩ ∈ a.entries p := by
  rw [location?, hparent]
  dsimp only
  rw [Option.map_eq_some_iff]
  constructor
  · rintro ⟨entry, hfind, rfl⟩
    have hnode := List.find?_some hfind
    rw [← eq_of_beq hnode]
    exact List.mem_of_find?_eq_some hfind
  · intro hmem
    cases hfind : (a.entries p).find? (fun entry => entry.node == c) with
    | none => exact absurd (beq_self_eq_true c) (List.find?_eq_none.1 hfind _ hmem)
    | some entry =>
      have hnode := List.find?_some hfind
      -- a node is a child once, so the entry that is found is the given one
      have hentry := List.inj_on_of_nodup_map hnodup (List.mem_of_find?_eq_some hfind) hmem
        (eq_of_beq hnode)
      exact ⟨entry, rfl, by rw [hentry]⟩

theorem list_of_entries_eq_nil (h : a.entries id = []) (slot : Slot) : a.list id slot = [] := by
  rw [list, h]
  rfl

/-! ## Allocation -/

@[simp] theorem size_alloc (kind : NodeKind) (span : Span) :
    (a.alloc kind span).2.size = a.size + 1 := by
  simp [alloc, size]

theorem node_alloc_of_lt (kind : NodeKind) (span : Span) (h : i < a.size) :
    (a.alloc kind span).2.node i = a.node i := by
  have hi : i < a.nodes.size := h
  rw [node, node, Array.getD_eq_getD_getElem?, Array.getD_eq_getD_getElem?, alloc,
    Array.getElem?_push_lt hi, Array.getElem?_eq_getElem hi]

theorem node_alloc_self (kind : NodeKind) (span : Span) :
    (a.alloc kind span).2.node a.size = ⟨kind, span, a.defaultFlags, none, []⟩ := by
  simp [node, alloc, size]

theorem parent_alloc (kind : NodeKind) (span : Span) : (a.alloc kind span).2.parent = a.parent := by
  funext i
  rcases Nat.lt_trichotomy i a.size with h | rfl | h
  · rw [parent, node_alloc_of_lt kind span h, parent]
  · rw [parent_of_size_le (Nat.le_refl _), parent, node_alloc_self]
  · rw [parent_of_size_le (a := a) (by omega), parent_of_size_le (by rw [size_alloc]; omega)]

theorem children_alloc (kind : NodeKind) (span : Span) :
    (a.alloc kind span).2.children = a.children := by
  funext i
  rcases Nat.lt_trichotomy i a.size with h | rfl | h
  · rw [children, entries, node_alloc_of_lt kind span h, children, entries]
  · rw [children_of_size_le (Nat.le_refl _), children, entries, node_alloc_self]
    rfl
  · rw [children_of_size_le (a := a) (by omega),
      children_of_size_le (by rw [size_alloc]; omega)]

/-! ## Changes -/

@[simp] theorem size_modify (f : Node → Node) : (a.modify id f).size = a.size := by
  simp [modify, size]

theorem node_modify_self (f : Node → Node) (h : id < a.size) :
    (a.modify id f).node id = f (a.node id) := by
  have hi : id < a.nodes.size := h
  rw [node, node, Array.getD_eq_getD_getElem?, Array.getD_eq_getD_getElem?, modify,
    Array.getElem?_modify, if_pos rfl, Array.getElem?_eq_getElem hi]
  rfl

theorem node_modify_of_ne (f : Node → Node) (h : i ≠ id) : (a.modify id f).node i = a.node i := by
  simp [node, modify, Array.getD_eq_getD_getElem?, Array.getElem?_modify, Ne.symm h]

/-- There is nothing to change at an id that addresses no node. -/
theorem modify_of_size_le (f : Node → Node) (h : a.size ≤ id) : a.modify id f = a := by
  have hnot : ¬ id < a.nodes.size := Nat.not_lt.2 h
  simp [modify, Array.modify, Array.modifyM, hnot]

/-- What a change keeps of the changed node it keeps of every node. -/
theorem proj_node_modify {β : Type} (g : Node → β) {f : Node → Node} (hf : ∀ n, g (f n) = g n)
    (i : NodeId) : g ((a.modify id f).node i) = g (a.node i) := by
  by_cases h : i = id
  · subst h
    rcases Nat.lt_or_ge i a.size with hi | hi
    · rw [node_modify_self f hi, hf]
    · rw [node_of_size_le hi, node_of_size_le (by rwa [size_modify])]
  · rw [node_modify_of_ne f h]

theorem parent_modify {f : Node → Node} (hf : ∀ n, (f n).parent = n.parent) :
    (a.modify id f).parent = a.parent :=
  funext (proj_node_modify Node.parent hf)

theorem kind_modify {f : Node → Node} (hf : ∀ n, (f n).kind = n.kind) :
    (a.modify id f).kind = a.kind :=
  funext (proj_node_modify Node.kind hf)

theorem span_modify {f : Node → Node} (hf : ∀ n, (f n).span = n.span) :
    (a.modify id f).span = a.span :=
  funext (proj_node_modify Node.span hf)

theorem flags_modify {f : Node → Node} (hf : ∀ n, (f n).flags = n.flags) :
    (a.modify id f).flags = a.flags :=
  funext (proj_node_modify Node.flags hf)

theorem entries_modify {f : Node → Node} (hf : ∀ n, (f n).children = n.children) :
    (a.modify id f).entries = a.entries :=
  funext (proj_node_modify Node.children hf)

theorem children_modify {f : Node → Node} (hf : ∀ n, (f n).children = n.children) :
    (a.modify id f).children = a.children := by
  funext i
  rw [children, entries_modify hf, children]

/-! ## Spans -/

@[simp] theorem size_setSpan (span : Span) : (a.setSpan id span).size = a.size :=
  size_modify _

@[simp] theorem parent_setSpan (span : Span) : (a.setSpan id span).parent = a.parent :=
  parent_modify fun _ => rfl

@[simp] theorem kind_setSpan (span : Span) : (a.setSpan id span).kind = a.kind :=
  kind_modify fun _ => rfl

@[simp] theorem flags_setSpan (span : Span) : (a.setSpan id span).flags = a.flags :=
  flags_modify fun _ => rfl

@[simp] theorem entries_setSpan (span : Span) : (a.setSpan id span).entries = a.entries :=
  entries_modify fun _ => rfl

@[simp] theorem children_setSpan (span : Span) : (a.setSpan id span).children = a.children :=
  children_modify fun _ => rfl

theorem span_setSpan_self (span : Span) (h : id < a.size) : (a.setSpan id span).span id = span := by
  unfold Arena.span setSpan
  rw [node_modify_self _ h]

theorem span_setSpan_of_ne (span : Span) (h : i ≠ id) : (a.setSpan id span).span i = a.span i := by
  unfold Arena.span setSpan
  rw [node_modify_of_ne _ h]

/-! ## Sorting -/

theorem size_sortSlot (slot : Slot) : (a.sortSlot id slot).size = a.size :=
  size_modify _

theorem parent_sortSlot (slot : Slot) : (a.sortSlot id slot).parent = a.parent :=
  parent_modify fun _ => rfl

theorem kind_sortSlot (slot : Slot) : (a.sortSlot id slot).kind = a.kind :=
  kind_modify fun _ => rfl

theorem flags_sortSlot (slot : Slot) : (a.sortSlot id slot).flags = a.flags :=
  flags_modify fun _ => rfl

theorem span_sortSlot (slot : Slot) : (a.sortSlot id slot).span = a.span :=
  span_modify fun _ => rfl

theorem entries_sortSlot_self (slot : Slot) :
    (a.sortSlot id slot).entries id = refill slot (a.entries id)
      (((a.entries id).filter fun c => c.slot == slot).mergeSort a.startsBefore) := by
  rcases Nat.lt_or_ge id a.size with h | h
  · rw [entries, sortSlot, node_modify_self _ h]
    rfl
  · rw [sortSlot, modify_of_size_le _ h, entries, node_of_size_le h]
    rfl

theorem entries_sortSlot_of_ne (slot : Slot) (h : i ≠ id) :
    (a.sortSlot id slot).entries i = a.entries i := by
  rw [entries, sortSlot, node_modify_of_ne _ h, entries]

/-! ## Attachment -/

variable {p c : NodeId} {slot : Slot}

@[simp] theorem size_addChild : (a.addChild p slot c).size = a.size := by
  simp [addChild]

@[simp] theorem size_addChildFirst : (a.addChildFirst p slot c).size = a.size := by
  simp [addChildFirst]

theorem parent_addChild_self (hc : c < a.size) : (a.addChild p slot c).parent c = some p := by
  unfold addChild
  rw [parent_modify, parent, node_modify_self _ hc]
  exact fun _ => rfl

theorem parent_addChild_of_ne (h : i ≠ c) : (a.addChild p slot c).parent i = a.parent i := by
  unfold addChild
  rw [parent_modify, parent, node_modify_of_ne _ h, parent]
  exact fun _ => rfl

theorem kind_addChild : (a.addChild p slot c).kind = a.kind := by
  have hkept : (a.modify c (fun n => { n with parent := some p })).kind = a.kind :=
    kind_modify fun _ => rfl
  unfold addChild
  rw [kind_modify, hkept]
  exact fun _ => rfl

theorem flags_addChild : (a.addChild p slot c).flags = a.flags := by
  have hkept : (a.modify c (fun n => { n with parent := some p })).flags = a.flags :=
    flags_modify fun _ => rfl
  unfold addChild
  rw [flags_modify, hkept]
  exact fun _ => rfl

theorem span_addChild : (a.addChild p slot c).span = a.span := by
  have hkept : (a.modify c (fun n => { n with parent := some p })).span = a.span :=
    span_modify fun _ => rfl
  unfold addChild
  rw [span_modify, hkept]
  exact fun _ => rfl

theorem entries_addChild_self (hp : p < a.size) :
    (a.addChild p slot c).entries p = a.entries p ++ [⟨slot, c⟩] := by
  have hkept : (a.modify c (fun n => { n with parent := some p })).entries p = a.entries p := by
    rw [entries_modify]
    exact fun _ => rfl
  unfold addChild
  rw [entries, node_modify_self _ (by simpa using hp), ← hkept, entries]

theorem list_addChild_self (hp : p < a.size) :
    (a.addChild p slot c).list p slot = a.list p slot ++ [c] := by
  rw [list, entries_addChild_self hp, List.filter_append, List.map_append, list]
  simp

theorem list_addChild_of_slot_ne {slot' : Slot} (hp : p < a.size) (hne : slot ≠ slot') :
    (a.addChild p slot c).list p slot' = a.list p slot' := by
  rw [list, entries_addChild_self hp, List.filter_append, List.map_append, list]
  simp [hne]

/-- The only child in a slot is the first. -/
theorem child?_addChild_self (hp : p < a.size) (hempty : a.list p slot = []) :
    (a.addChild p slot c).child? p slot = some c := by
  rw [child?_eq_head?, list_addChild_self hp, hempty]
  rfl

theorem entries_addChild_of_ne (h : i ≠ p) :
    (a.addChild p slot c).entries i = a.entries i := by
  unfold addChild
  rw [entries, node_modify_of_ne _ h, ← entries, entries_modify]
  exact fun _ => rfl

theorem children_addChild_self (hp : p < a.size) :
    (a.addChild p slot c).children p = a.children p ++ [c] := by
  rw [children, entries_addChild_self hp, children, List.map_append]
  rfl

theorem children_addChild_of_ne (h : i ≠ p) :
    (a.addChild p slot c).children i = a.children i := by
  rw [children, entries_addChild_of_ne h, children]

theorem parent_addChildFirst_self (hc : c < a.size) :
    (a.addChildFirst p slot c).parent c = some p := by
  unfold addChildFirst
  rw [parent_modify, parent, node_modify_self _ hc]
  exact fun _ => rfl

theorem parent_addChildFirst_of_ne (h : i ≠ c) :
    (a.addChildFirst p slot c).parent i = a.parent i := by
  unfold addChildFirst
  rw [parent_modify, parent, node_modify_of_ne _ h, parent]
  exact fun _ => rfl

theorem kind_addChildFirst : (a.addChildFirst p slot c).kind = a.kind := by
  have hkept : (a.modify c (fun n => { n with parent := some p })).kind = a.kind :=
    kind_modify fun _ => rfl
  unfold addChildFirst
  rw [kind_modify, hkept]
  exact fun _ => rfl

theorem span_addChildFirst : (a.addChildFirst p slot c).span = a.span := by
  have hkept : (a.modify c (fun n => { n with parent := some p })).span = a.span :=
    span_modify fun _ => rfl
  unfold addChildFirst
  rw [span_modify, hkept]
  exact fun _ => rfl

theorem entries_addChildFirst_self (hp : p < a.size) :
    (a.addChildFirst p slot c).entries p = ⟨slot, c⟩ :: a.entries p := by
  have hkept : (a.modify c (fun n => { n with parent := some p })).entries p = a.entries p := by
    rw [entries_modify]
    exact fun _ => rfl
  unfold addChildFirst
  rw [entries, node_modify_self _ (by simpa using hp), ← hkept, entries]

theorem entries_addChildFirst_of_ne (h : i ≠ p) :
    (a.addChildFirst p slot c).entries i = a.entries i := by
  unfold addChildFirst
  rw [entries, node_modify_of_ne _ h, ← entries, entries_modify]
  exact fun _ => rfl

theorem children_addChildFirst_self (hp : p < a.size) :
    (a.addChildFirst p slot c).children p = c :: a.children p := by
  rw [children, entries_addChildFirst_self hp, children, List.map_cons]

theorem children_addChildFirst_of_ne (h : i ≠ p) :
    (a.addChildFirst p slot c).children i = a.children i := by
  rw [children, entries_addChildFirst_of_ne h, children]

end Arena

end Unified

end TreeBridge

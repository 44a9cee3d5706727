import Mathlib.Data.List.Perm.Basic
import Mathlib.Data.List.Nodup
import TreeBridge.Proofs.Unified.Arena
/-!
# Forests in an arena

A grove is a list of subtrees that hang from one parent, with their nodes
in pre-order. An arena is a forest with some roots when the grove of its
parentless nodes holds every node once. Allocation adds a root, and
attachment takes one away: these two steps are all that a conversion
does, so a forest is what it keeps. A forest with a single root is a
tree, and for a tree the links between parents and children agree and the
pre-order lists every node once (`Forest.isTree`).
-/

namespace TreeBridge

namespace Unified

/-- The subtrees at some nodes that hang from one parent, with the ids of
all their nodes in pre-order. -/
inductive Grove (a : Arena) : Option NodeId → List NodeId → List NodeId → Prop where
  | nil (parent : Option NodeId) : Grove a parent [] []
  | cons {parent : Option NodeId} {id : NodeId} {rest below others : List NodeId}
      (hparent : a.parent id = parent) (hbelow : Grove a (some id) (a.children id) below)
      (hrest : Grove a parent rest others) : Grove a parent (id :: rest) (id :: (below ++ others))

namespace Grove

variable {a b : Arena} {parent : Option NodeId} {roots ids : List NodeId}

/-- The subtree at a node that is known to hang from a parent. -/
theorem single {id : NodeId} {below : List NodeId} (hparent : a.parent id = parent)
    (hbelow : Grove a (some id) (a.children id) below) : Grove a parent [id] (id :: below) := by
  have h := cons hparent hbelow (nil parent)
  rwa [List.append_nil] at h

/-- The first subtree of a grove, apart from the others. -/
theorem cons_iff {id : NodeId} {rest : List NodeId} :
    Grove a parent (id :: rest) ids ↔ ∃ below others, ids = id :: (below ++ others) ∧
      a.parent id = parent ∧ Grove a (some id) (a.children id) below ∧
      Grove a parent rest others := by
  constructor
  · intro h
    cases h with
    | cons hparent hbelow hrest => exact ⟨_, _, rfl, hparent, hbelow, hrest⟩
  · rintro ⟨below, others, rfl, hparent, hbelow, hrest⟩
    exact cons hparent hbelow hrest

theorem append {roots' ids' : List NodeId} (h : Grove a parent roots ids)
    (h' : Grove a parent roots' ids') : Grove a parent (roots ++ roots') (ids ++ ids') := by
  induction h with
  | nil parent => exact h'
  | cons hparent hbelow _ _ ih =>
    rw [List.cons_append, List.cons_append, List.append_assoc]
    exact cons hparent hbelow (ih h')

/-- A grove depends on the parents and children of its own nodes only. -/
theorem congr (h : Grove a parent roots ids)
    (hp : ∀ i ∈ ids, b.parent i = a.parent i) (hc : ∀ i ∈ ids, b.children i = a.children i) :
    Grove b parent roots ids := by
  induction h with
  | nil parent => exact nil parent
  | @cons parent id rest below others hparent hbelow hrest ihbelow ihrest =>
    refine cons ((hp id (by simp)).trans hparent) ?_
      (ihrest (fun i hi => hp i (by simp [hi])) (fun i hi => hc i (by simp [hi])))
    rw [hc id (by simp)]
    exact ihbelow (fun i hi => hp i (by simp [hi])) (fun i hi => hc i (by simp [hi]))

/-- The roots may be listed in any order; the nodes follow. -/
theorem perm {roots' : List NodeId} (h : Grove a parent roots ids) (hr : roots.Perm roots') :
    ∃ ids', Grove a parent roots' ids' ∧ ids'.Perm ids := by
  induction hr generalizing ids with
  | nil => exact ⟨ids, h, List.Perm.refl ids⟩
  | cons id _ ih =>
    obtain ⟨below, others, rfl, hparent, hbelow, hrest⟩ := cons_iff.1 h
    obtain ⟨others', hrest', hperm⟩ := ih hrest
    exact ⟨_, cons hparent hbelow hrest', (hperm.append_left below).cons id⟩
  | swap i j rest =>
    obtain ⟨below, _, rfl, hparent, hbelow, hrest⟩ := cons_iff.1 h
    obtain ⟨below', others, rfl, hparent', hbelow', hrest'⟩ := cons_iff.1 hrest
    refine ⟨_, cons hparent' hbelow' (cons hparent hbelow hrest'), ?_⟩
    calc i :: (below' ++ j :: (below ++ others))
        _ = (i :: below') ++ ((j :: below) ++ others) := rfl
        _ |>.Perm ((j :: below) ++ ((i :: below') ++ others)) := by
          rw [← List.append_assoc, ← List.append_assoc]
          exact List.perm_append_comm.append_right others
  | trans _ _ ih₁ ih₂ =>
    obtain ⟨_, h₁, hperm₁⟩ := ih₁ h
    obtain ⟨ids', h₂, hperm₂⟩ := ih₂ h₁
    exact ⟨ids', h₂, hperm₂.trans hperm₁⟩

/-- The roots of a grove are among its nodes, in their order. -/
theorem roots_sublist (h : Grove a parent roots ids) : roots.Sublist ids := by
  induction h with
  | nil => exact List.Sublist.refl []
  | cons _ _ _ _ ih => exact (ih.trans (List.sublist_append_right _ _)).cons_cons _

theorem parent_of_mem_roots (h : Grove a parent roots ids) {i : NodeId} (hi : i ∈ roots) :
    a.parent i = parent := by
  induction h with
  | nil => cases hi
  | cons hparent _ _ _ ih =>
    rcases List.mem_cons.1 hi with rfl | hi
    · exact hparent
    · exact ih hi

/-- A node of a grove stands right before the grove of the subtrees below
it. -/
theorem cons_below_of_mem (h : Grove a parent roots ids) {i : NodeId} (hi : i ∈ ids) :
    ∃ below, Grove a (some i) (a.children i) below ∧ (i :: below).Sublist ids := by
  induction h with
  | nil => cases hi
  | @cons parent id rest below others hparent hbelow hrest ihbelow ihrest =>
    rcases List.mem_cons.1 hi with rfl | hi
    · exact ⟨below, hbelow, (List.sublist_append_left _ _).cons_cons _⟩
    rcases List.mem_append.1 hi with hi | hi
    · obtain ⟨js, hjs, hsub⟩ := ihbelow hi
      exact ⟨js, hjs, (hsub.trans (List.sublist_append_left _ _)).cons _⟩
    · obtain ⟨js, hjs, hsub⟩ := ihrest hi
      exact ⟨js, hjs, (hsub.trans (List.sublist_append_right _ _)).cons _⟩

/-- The subtrees below a node of a grove are a grove inside it. -/
theorem below_of_mem (h : Grove a parent roots ids) {i : NodeId} (hi : i ∈ ids) :
    ∃ below, Grove a (some i) (a.children i) below ∧ below.Sublist ids := by
  obtain ⟨below, hbelow, hsub⟩ := h.cons_below_of_mem hi
  exact ⟨below, hbelow, (List.sublist_cons_self i below).trans hsub⟩

/-- A node of a grove is a root, or a child of another node of it. -/
theorem mem_roots_or_mem_children (h : Grove a parent roots ids) {i : NodeId} (hi : i ∈ ids) :
    i ∈ roots ∨ ∃ j ∈ ids, i ∈ a.children j := by
  induction h with
  | nil => cases hi
  | @cons parent id rest below others hparent hbelow hrest ihbelow ihrest =>
    rcases List.mem_cons.1 hi with rfl | hi
    · exact Or.inl (by simp)
    rcases List.mem_append.1 hi with hi | hi
    · rcases ihbelow hi with hchild | ⟨j, hj, hij⟩
      · exact Or.inr ⟨id, by simp, hchild⟩
      · exact Or.inr ⟨j, by simp [hj], hij⟩
    · rcases ihrest hi with hroot | ⟨j, hj, hij⟩
      · exact Or.inl (by simp [hroot])
      · exact Or.inr ⟨j, by simp [hj], hij⟩

/-- The pre-order walk lists the nodes of a grove once it may go as deep
as there are nodes. -/
theorem flatMap_preorderWithin (h : Grove a parent roots ids) {depth : ℕ}
    (hd : ids.length ≤ depth) : roots.flatMap (a.preorderWithin depth) = ids := by
  induction h generalizing depth with
  | nil => rfl
  | @cons parent id rest below others hparent hbelow hrest ihbelow ihrest =>
    rw [List.length_cons, List.length_append] at hd
    obtain ⟨depth, rfl⟩ : ∃ d, depth = d + 1 := ⟨depth - 1, by omega⟩
    rw [List.flatMap_cons, ihrest (by omega), Arena.preorderWithin, ihbelow (by omega)]
    rfl

/-- The pre-order from a node of the arena lists it, then the nodes below
it. -/
theorem preorder_eq {i : NodeId} (h : Grove a (some i) (a.children i) ids)
    (hlt : ids.length < a.size) : a.preorder i = i :: ids := by
  obtain ⟨depth, hdepth⟩ : ∃ depth, a.size = depth + 1 := ⟨a.size - 1, by omega⟩
  rw [Arena.preorder, hdepth, Arena.preorderWithin,
    h.flatMap_preorderWithin (by omega : ids.length ≤ depth)]

/-- Putting the children of nodes into another order keeps the grove. -/
theorem rearrange (h : Grove a parent roots ids) (hp : b.parent = a.parent)
    (hc : ∀ i, (b.children i).Perm (a.children i)) :
    ∃ ids', Grove b parent roots ids' ∧ ids'.Perm ids := by
  induction h with
  | nil parent => exact ⟨[], nil parent, List.Perm.refl []⟩
  | @cons parent id rest below others hparent hbelow hrest ihbelow ihrest =>
    obtain ⟨below', hbelow', hperm⟩ := ihbelow
    obtain ⟨below'', hbelow'', hperm'⟩ := hbelow'.perm (hc id).symm
    obtain ⟨others', hrest', hperm''⟩ := ihrest
    refine ⟨_, cons (by rw [hp, hparent]) hbelow'' hrest', ?_⟩
    exact ((hperm'.trans hperm).append hperm'').cons id

/-- A subtree hung under a node of a grove brings its nodes into it. -/
theorem adopt {p c : NodeId} {before after hung : List NodeId} (h : Grove a parent roots ids)
    (hnodup : ids.Nodup) (hp : p ∈ ids) (hhung : Grove b (some p) [c] hung)
    (hparents : ∀ i ∈ ids, b.parent i = a.parent i) (hkept : a.children p = before ++ after)
    (hchildren : b.children p = before ++ c :: after)
    (hothers : ∀ i ∈ ids, i ≠ p → b.children i = a.children i) :
    ∃ ids', Grove b parent roots ids' ∧ ids'.Perm (hung ++ ids) := by
  induction h with
  | nil => cases hp
  | @cons parent id rest below others hid hbelow hrest ihbelow ihrest =>
    -- a part of the grove without the node has not changed
    have hcong {q : Option NodeId} {rs js : List NodeId} (hg : Grove a q rs js)
        (hsub : js ⊆ id :: (below ++ others)) (hpj : p ∉ js) : Grove b q rs js :=
      hg.congr (fun i hi => hparents i (hsub hi))
        (fun i hi => hothers i (hsub hi) (by rintro rfl; exact hpj hi))
    have hsubbelow : below ⊆ id :: (below ++ others) := fun i hi => by simp [hi]
    have hsubothers : others ⊆ id :: (below ++ others) := fun i hi => by simp [hi]
    simp only [List.nodup_cons, List.nodup_append, List.mem_append, not_or] at hnodup
    obtain ⟨⟨hidbelow, hidothers⟩, hnbelow, hnothers, hdisj⟩ := hnodup
    have hid' : b.parent id = parent := (hparents id List.mem_cons_self).trans hid
    -- the node is the first root, or below it, or in one of the other subtrees
    rcases List.mem_cons.1 hp with rfl | hp
    · have hkeep : Grove b (some p) (before ++ after) below := by
        rw [← hkept]
        exact hcong hbelow hsubbelow hidbelow
      have horder : ([c] ++ (before ++ after)).Perm (before ++ c :: after) := by
        rw [List.singleton_append]
        exact List.perm_middle.symm
      obtain ⟨js, hjs, hjperm⟩ := (hhung.append hkeep).perm horder
      refine ⟨p :: (js ++ others), cons hid' (hchildren ▸ hjs)
        (hcong hrest hsubothers hidothers), ?_⟩
      calc p :: (js ++ others)
          _ |>.Perm (p :: (hung ++ below ++ others)) := (hjperm.append_right others).cons p
          _ = p :: (hung ++ (below ++ others)) := by rw [List.append_assoc]
          _ |>.Perm (hung ++ p :: (below ++ others)) := List.perm_middle.symm
    have hpid : id ≠ p := by
      rintro rfl
      exact (List.mem_append.1 hp).elim hidbelow hidothers
    have hidchildren : b.children id = a.children id := hothers id List.mem_cons_self hpid
    rcases List.mem_append.1 hp with hp | hp
    · obtain ⟨below', hbelow', hperm⟩ := ihbelow hnbelow hp
        (fun i hi => hparents i (hsubbelow hi)) (fun i hi => hothers i (hsubbelow hi))
      have hpothers : p ∉ others := fun hpo => hdisj p hp p hpo rfl
      refine ⟨id :: (below' ++ others), cons hid' (hidchildren.symm ▸ hbelow')
        (hcong hrest hsubothers hpothers), ?_⟩
      calc id :: (below' ++ others)
          _ |>.Perm (id :: (hung ++ below ++ others)) := (hperm.append_right others).cons id
          _ = id :: (hung ++ (below ++ others)) := by rw [List.append_assoc]
          _ |>.Perm (hung ++ id :: (below ++ others)) := List.perm_middle.symm
    · obtain ⟨others', hrest', hperm⟩ := ihrest hnothers hp
        (fun i hi => hparents i (hsubothers hi)) (fun i hi => hothers i (hsubothers hi))
      have hpbelow : p ∉ below := fun hpb => hdisj p hpb p hp rfl
      refine ⟨id :: (below ++ others'), cons hid'
        (hidchildren.symm ▸ hcong hbelow hsubbelow hpbelow) hrest', ?_⟩
      calc id :: (below ++ others')
          _ |>.Perm (id :: below ++ (hung ++ others)) := hperm.append_left (id :: below)
          _ |>.Perm (hung ++ (id :: below ++ others)) := by
            rw [← List.append_assoc, ← List.append_assoc]
            exact List.perm_append_comm.append_right others

end Grove

/-! ## Forests -/

/-- An arena whose nodes are those of the subtrees at some parentless
nodes, each of them once. -/
def Forest (a : Arena) (roots : List NodeId) : Prop :=
  ∃ ids, Grove a none roots ids ∧ ids.Perm a.ids

/-- Where a node is counted among the children of its parent only, it is a
child of its parent only. -/
theorem Arena.mem_children_iff_of_count {a : Arena} {p c : NodeId}
    (h : (a.children p).count c = if a.parent c = some p then 1 else 0) :
    c ∈ a.children p ↔ a.parent c = some p := by
  rw [← List.count_pos_iff, h]
  split
  · next hparent => exact iff_of_true Nat.one_pos hparent
  · next hparent => exact iff_of_false (Nat.lt_irrefl 0) hparent

/-- **An arena that is one tree with a given root**: the root has no
parent, the pre-order from it lists every node once, and a node is a
child of another, and then once, exactly when that is its parent. -/
structure IsTree (a : Arena) (root : NodeId) : Prop where
  parent_root : a.parent root = none
  preorder_perm : (a.preorder root).Perm a.ids
  count_children : ∀ p c, (a.children p).count c = if a.parent c = some p then 1 else 0

namespace IsTree

variable {a : Arena} {root : NodeId}

/-- A child is what has its owner for a parent. -/
theorem mem_children_iff (h : IsTree a root) {p c : NodeId} :
    c ∈ a.children p ↔ a.parent c = some p :=
  Arena.mem_children_iff_of_count (h.count_children p c)

theorem parent_of_mem (h : IsTree a root) {p c : NodeId} (hc : c ∈ a.children p) :
    a.parent c = some p :=
  h.mem_children_iff.1 hc

theorem nodup_children (h : IsTree a root) (p : NodeId) : (a.children p).Nodup := by
  rw [List.nodup_iff_count_le_one]
  intro c
  rw [h.count_children p c]
  split <;> omega

theorem mem_preorder_iff (h : IsTree a root) {i : NodeId} : i ∈ a.preorder root ↔ i < a.size := by
  rw [h.preorder_perm.mem_iff, Arena.ids, List.mem_range]

/-- The nodes of an arena are all there is to look at. -/
theorem iff_forall_lt : IsTree a root ↔ a.parent root = none ∧ (a.preorder root).Perm a.ids ∧
    (∀ i < a.size, (∀ p ∈ a.parent i, p < a.size) ∧ ∀ c ∈ a.children i, c < a.size) ∧
    ∀ p < a.size, ∀ c < a.size, (a.children p).count c = if a.parent c = some p then 1 else 0 := by
  constructor
  · intro h
    refine ⟨h.parent_root, h.preorder_perm, fun i _ => ⟨fun p hp => ?_, fun c hc => ?_⟩,
      fun p _ c _ => h.count_children p c⟩
    · by_contra hge
      have hcount := h.count_children p i
      rw [Arena.children_of_size_le (Nat.not_lt.1 hge), if_pos (Option.mem_def.1 hp)] at hcount
      cases hcount
    · by_contra hge
      have hparent := h.parent_of_mem hc
      rw [Arena.parent_of_size_le (Nat.not_lt.1 hge)] at hparent
      cases hparent
  · rintro ⟨hroot, hperm, hbound, hcount⟩
    refine ⟨hroot, hperm, fun p c => ?_⟩
    rcases Nat.lt_or_ge p a.size with hp | hp
    · rcases Nat.lt_or_ge c a.size with hc | hc
      · exact hcount p hp c hc
      · have hnot : c ∉ a.children p := fun hmem => Nat.not_lt.2 hc ((hbound p hp).2 c hmem)
        rw [Arena.parent_of_size_le hc, List.count_eq_zero_of_not_mem hnot]
        rfl
    · have hnone : a.parent c ≠ some p := by
        intro hparent
        rcases Nat.lt_or_ge c a.size with hc | hc
        · exact Nat.not_lt.2 hp ((hbound c hc).1 p hparent)
        · rw [Arena.parent_of_size_le hc] at hparent
          cases hparent
      rw [Arena.children_of_size_le hp, if_neg hnone]
      rfl

instance : Decidable (IsTree a root) :=
  decidable_of_iff _ iff_forall_lt.symm

end IsTree

namespace Forest

variable {a b : Arena} {roots : List NodeId}

theorem empty : Forest Arena.empty [] :=
  ⟨[], Grove.nil none, List.Perm.refl []⟩

/-- What neither makes a node nor moves one keeps a forest. -/
theorem congr (h : Forest a roots) (hsize : b.size = a.size) (hp : b.parent = a.parent)
    (hc : b.children = a.children) : Forest b roots := by
  obtain ⟨ids, hgrove, hperm⟩ := h
  refine ⟨ids, hgrove.congr (fun i _ => by rw [hp]) (fun i _ => by rw [hc]), ?_⟩
  rwa [Arena.ids, hsize]

theorem perm {roots' : List NodeId} (h : Forest a roots) (hr : roots.Perm roots') :
    Forest a roots' := by
  obtain ⟨ids, hgrove, hperm⟩ := h
  obtain ⟨ids', hgrove', hperm'⟩ := hgrove.perm hr
  exact ⟨ids', hgrove', hperm'.trans hperm⟩

theorem lt_size (h : Forest a roots) {i : NodeId} (hi : i ∈ roots) : i < a.size := by
  obtain ⟨ids, hgrove, hperm⟩ := h
  exact List.mem_range.1 (hperm.subset (hgrove.roots_sublist.subset hi))

theorem nodup (h : Forest a roots) : roots.Nodup := by
  obtain ⟨ids, hgrove, hperm⟩ := h
  exact (hperm.nodup_iff.2 List.nodup_range).sublist hgrove.roots_sublist

/-- A child is a node, and has its owner for a parent. -/
theorem parent_of_mem_children (h : Forest a roots) {p c : NodeId} (hp : p < a.size)
    (hc : c ∈ a.children p) : c < a.size ∧ a.parent c = some p := by
  obtain ⟨ids, hgrove, hperm⟩ := h
  obtain ⟨below, hbelow, hsub⟩ := hgrove.below_of_mem (hperm.mem_iff.2 (List.mem_range.2 hp))
  have hmem : c ∈ ids := hsub.subset (hbelow.roots_sublist.subset hc)
  exact ⟨List.mem_range.1 (hperm.subset hmem), hbelow.parent_of_mem_roots hc⟩

/-- No child is a root. -/
theorem notMem_of_mem_children (h : Forest a roots) {p c : NodeId} (hp : p < a.size)
    (hc : c ∈ a.children p) : c ∉ roots := by
  obtain ⟨-, hparent⟩ := h.parent_of_mem_children hp hc
  obtain ⟨ids, hgrove, -⟩ := h
  intro hroot
  rw [hgrove.parent_of_mem_roots hroot] at hparent
  cases hparent

/-- Allocation adds a root. -/
theorem alloc (h : Forest a roots) (kind : NodeKind) (span : Span) :
    Forest (a.alloc kind span).2 (a.size :: roots) := by
  obtain ⟨ids, hgrove, hperm⟩ := h
  have hleaf : Grove (a.alloc kind span).2 none [a.size] [a.size] := by
    refine Grove.single ?_ ?_
    · rw [Arena.parent_alloc, Arena.parent_of_size_le (Nat.le_refl _)]
    · rw [Arena.children_alloc, Arena.children_of_size_le (Nat.le_refl _)]
      exact Grove.nil _
  refine ⟨a.size :: ids, hleaf.append (hgrove.congr (fun i _ => ?_) (fun i _ => ?_)), ?_⟩
  · rw [Arena.parent_alloc]
  · rw [Arena.children_alloc]
  · rw [Arena.ids, Arena.size_alloc, List.range_succ]
    exact (hperm.cons a.size).trans (List.perm_append_singleton a.size _).symm

/-- A root that gets a place among the children of a node takes its
subtree along and is no root any more, if that node is not in the subtree
itself. Both ways of attaching do no more than that. -/
theorem hang {p c : NodeId} (before after : List NodeId) (h : Forest a (c :: roots))
    (hlt : p < a.size) (hbeside : p ∉ a.preorder c) (hsize : b.size = a.size)
    (hkept : a.children p = before ++ after) (hpc : b.parent c = some p)
    (hp : ∀ i, i ≠ c → b.parent i = a.parent i) (hcp : b.children p = before ++ c :: after)
    (hc : ∀ i, i ≠ p → b.children i = a.children i) : Forest b roots := by
  obtain ⟨ids, hgrove, hperm⟩ := h
  obtain ⟨below, others, rfl, -, hbelow, hothers⟩ := Grove.cons_iff.1 hgrove
  have hlength : below.length < a.size := by
    have hall := hperm.length_eq
    rw [List.length_cons, List.length_append, Arena.ids, List.length_range] at hall
    omega
  rw [hbelow.preorder_eq hlength, List.mem_cons, not_or] at hbeside
  obtain ⟨hne, hpbelow⟩ := hbeside
  have hnodup : (c :: (below ++ others)).Nodup := hperm.nodup_iff.2 List.nodup_range
  simp only [List.nodup_cons, List.nodup_append, List.mem_append, not_or] at hnodup
  obtain ⟨⟨hcbelow, hcothers⟩, -, hnothers, -⟩ := hnodup
  have hpothers : p ∈ others := by
    have hmem : p ∈ c :: (below ++ others) := hperm.mem_iff.2 (List.mem_range.2 hlt)
    rcases List.mem_cons.1 hmem with heq | hmem
    · exact absurd heq hne
    · exact (List.mem_append.1 hmem).resolve_left hpbelow
  -- the subtree itself stays as it is, only its root gets a parent
  have hhung : Grove b (some p) [c] (c :: below) := by
    refine Grove.single hpc ?_
    rw [hc c (Ne.symm hne)]
    exact hbelow.congr (fun i hi => hp i (by rintro rfl; exact hcbelow hi))
      (fun i hi => hc i (by rintro rfl; exact hpbelow hi))
  obtain ⟨ids', hgrove', hperm'⟩ := hothers.adopt hnothers hpothers hhung
    (fun i hi => hp i (by rintro rfl; exact hcothers hi)) hkept hcp (fun i _ hi => hc i hi)
  refine ⟨ids', hgrove', hperm'.trans ?_⟩
  rwa [Arena.ids, hsize]

/-- A root is outside the subtree at another one. -/
theorem notMem_preorder_of_root {p c : NodeId} (h : Forest a (p :: c :: roots)) :
    p ∉ a.preorder c := by
  obtain ⟨ids, hgrove, hperm⟩ := h
  obtain ⟨below, _, rfl, -, -, hrest⟩ := Grove.cons_iff.1 hgrove
  obtain ⟨below', others, rfl, -, hbelow', -⟩ := Grove.cons_iff.1 hrest
  have hnodup : (p :: (below ++ c :: (below' ++ others))).Nodup :=
    hperm.nodup_iff.2 List.nodup_range
  have hall := hperm.length_eq
  simp only [List.length_cons, List.length_append, Arena.ids, List.length_range] at hall
  rw [hbelow'.preorder_eq (by omega)]
  intro hmem
  refine (List.nodup_cons.1 hnodup).1 (List.mem_append_right below ?_)
  rcases List.mem_cons.1 hmem with rfl | hmem
  · exact List.mem_cons_self
  · exact List.mem_cons_of_mem c (List.mem_append_left others hmem)

variable {p c : NodeId} (slot : Slot)

/-- A root attached as the last child of another node is no root any
more. -/
theorem addChild_of_beside (h : Forest a (c :: roots)) (hp : p < a.size)
    (hbeside : p ∉ a.preorder c) : Forest (a.addChild p slot c) roots := by
  have hc : c < a.size := h.lt_size List.mem_cons_self
  exact h.hang _ [] hp hbeside Arena.size_addChild (List.append_nil _).symm
    (Arena.parent_addChild_self hc) (fun _ hi => Arena.parent_addChild_of_ne hi)
    (Arena.children_addChild_self hp) (fun _ hi => Arena.children_addChild_of_ne hi)

/-- The same for the first child. -/
theorem addChildFirst_of_beside (h : Forest a (c :: roots)) (hp : p < a.size)
    (hbeside : p ∉ a.preorder c) : Forest (a.addChildFirst p slot c) roots := by
  have hc : c < a.size := h.lt_size List.mem_cons_self
  exact h.hang [] _ hp hbeside Arena.size_addChildFirst rfl
    (Arena.parent_addChildFirst_self hc) (fun _ hi => Arena.parent_addChildFirst_of_ne hi)
    (Arena.children_addChildFirst_self hp) (fun _ hi => Arena.children_addChildFirst_of_ne hi)

/-- One root attached to another. -/
theorem addChild (h : Forest a (p :: c :: roots)) : Forest (a.addChild p slot c) (p :: roots) :=
  (h.perm (List.Perm.swap c p roots)).addChild_of_beside slot (h.lt_size List.mem_cons_self)
    h.notMem_preorder_of_root

theorem addChildFirst (h : Forest a (p :: c :: roots)) :
    Forest (a.addChildFirst p slot c) (p :: roots) :=
  (h.perm (List.Perm.swap c p roots)).addChildFirst_of_beside slot (h.lt_size List.mem_cons_self)
    h.notMem_preorder_of_root

/-- Putting the children of nodes into another order keeps a forest. -/
theorem rearrange (h : Forest a roots) (hsize : b.size = a.size) (hp : b.parent = a.parent)
    (hc : ∀ i, (b.children i).Perm (a.children i)) : Forest b roots := by
  obtain ⟨ids, hgrove, hperm⟩ := h
  obtain ⟨ids', hgrove', hperm'⟩ := hgrove.rearrange hp hc
  refine ⟨ids', hgrove', hperm'.trans ?_⟩
  rwa [Arena.ids, hsize]

/-- A new node as the first child of any node keeps a forest. -/
theorem allocFirst (h : Forest a roots) (hp : p < a.size) (kind : NodeKind) (span : Span) :
    Forest ((a.alloc kind span).2.addChildFirst p slot a.size) roots := by
  have hp' : p < (a.alloc kind span).2.size := by
    rw [Arena.size_alloc]
    exact Nat.lt_succ_of_lt hp
  have hleaf : Grove (a.alloc kind span).2 (some a.size)
      ((a.alloc kind span).2.children a.size) [] := by
    rw [Arena.children_alloc, Arena.children_of_size_le (Nat.le_refl _)]
    exact Grove.nil _
  refine (h.alloc kind span).addChildFirst_of_beside slot hp' ?_
  rw [hleaf.preorder_eq (Nat.lt_of_le_of_lt (Nat.zero_le p) hp'), List.mem_singleton]
  exact Nat.ne_of_lt hp

/-! ## Parents and children -/

/-- **In a forest parents and children agree**: a node is a child of its
parent once, and of no other node. -/
theorem count_children (h : Forest a roots) (p c : NodeId) :
    (a.children p).count c = if a.parent c = some p then 1 else 0 := by
  obtain ⟨ids, hgrove, hperm⟩ := h
  have hnodup : ids.Nodup := hperm.nodup_iff.2 List.nodup_range
  have hmem {i : NodeId} : i ∈ ids ↔ i < a.size := by
    rw [hperm.mem_iff, Arena.ids, List.mem_range]
  have honce {q d : NodeId} (hd : d ∈ a.children q) :
      a.parent d = some q ∧ (a.children q).count d = 1 := by
    obtain ⟨below, hbelow, hsub⟩ :=
      hgrove.below_of_mem (hmem.2 (Arena.lt_size_of_mem_children hd))
    exact ⟨hbelow.parent_of_mem_roots hd,
      List.count_eq_one_of_mem ((hbelow.roots_sublist.trans hsub).nodup hnodup) hd⟩
  by_cases hchild : c ∈ a.children p
  · obtain ⟨hparent, hcount⟩ := honce hchild
    rw [if_pos hparent, hcount]
  rw [List.count_eq_zero_of_not_mem hchild, if_neg]
  intro hparent
  have hc : c ∈ ids := by
    refine hmem.2 (Nat.lt_of_not_le fun hge => ?_)
    rw [Arena.parent_of_size_le hge] at hparent
    cases hparent
  rcases hgrove.mem_roots_or_mem_children hc with hroot | ⟨q, -, hq⟩
  · rw [hgrove.parent_of_mem_roots hroot] at hparent
    cases hparent
  · rw [(honce hq).1] at hparent
    exact hchild (Option.some.inj hparent ▸ hq)

theorem mem_children_iff (h : Forest a roots) {p c : NodeId} :
    c ∈ a.children p ↔ a.parent c = some p :=
  Arena.mem_children_iff_of_count (h.count_children p c)

/-- The roots are the nodes without a parent. -/
theorem mem_roots_iff (h : Forest a roots) {i : NodeId} :
    i ∈ roots ↔ i < a.size ∧ a.parent i = none := by
  constructor
  · intro hi
    have hlt := h.lt_size hi
    obtain ⟨ids, hgrove, -⟩ := h
    exact ⟨hlt, hgrove.parent_of_mem_roots hi⟩
  · rintro ⟨hlt, hnone⟩
    obtain ⟨ids, hgrove, hperm⟩ := id h
    have hmem : i ∈ ids := hperm.mem_iff.2 (List.mem_range.2 hlt)
    rcases hgrove.mem_roots_or_mem_children hmem with hroot | ⟨q, -, hq⟩
    · exact hroot
    · rw [h.mem_children_iff.1 hq] at hnone
      cases hnone

/-- The pre-order from a node is the node with the grove below it. -/
theorem exists_preorder_eq (h : Forest a roots) {i : NodeId} (hi : i < a.size) :
    ∃ below, a.preorder i = i :: below ∧ Grove a (some i) (a.children i) below ∧
      (i :: below).Nodup ∧ below.length < a.size := by
  obtain ⟨ids, hgrove, hperm⟩ := h
  obtain ⟨below, hbelow, hsub⟩ := hgrove.cons_below_of_mem (hperm.mem_iff.2 (List.mem_range.2 hi))
  have hlength : below.length < a.size := by
    have hle := hsub.length_le
    rwa [hperm.length_eq, Arena.ids, List.length_range] at hle
  exact ⟨below, hbelow.preorder_eq hlength, hbelow,
    hsub.nodup (hperm.nodup_iff.2 List.nodup_range), hlength⟩

/-- **A forest with one root is a tree.** -/
theorem isTree {root : NodeId} (h : Forest a [root]) : IsTree a root := by
  refine ⟨(h.mem_roots_iff.1 List.mem_cons_self).2, ?_, h.count_children⟩
  obtain ⟨ids, hgrove, hperm⟩ := h
  have hlength : ids.length ≤ a.size := by simp [hperm.length_eq, Arena.ids]
  have hwalk := hgrove.flatMap_preorderWithin hlength
  rw [List.flatMap_cons, List.flatMap_nil, List.append_nil] at hwalk
  rw [Arena.preorder, hwalk]
  exact hperm

end Forest

end Unified

end TreeBridge
